import Compositor.Foreground
import Compositor.Proofs.Stream.Probing
import Compositor.Proofs.World.Members
import Compositor.World.Script

/-!
# Bundles

A bundle is unpacked into a new directory, and its clip is made of the files that are found
there by their names. It is refused exactly if there is no picture or no mask at the top of the
directory or one level below; sound is taken if it is there.
-/
namespace Compositor

open Record in
/-- A description is read as it was written. -/
theorem StreamInfo.read_toJson (info : StreamInfo) :
    object StreamInfo.read info.toJson = .valid info := by
  have htype : word SourceType.ofName? .literal (.str info.sourceType.name) =
      .valid info.sourceType := by
    cases info.sourceType <;> rfl
  have hside (side : Option Int) : nullable int (.ofOption .int side) = .valid side := by
    cases side <;> rfl
  have hreal (x : Option Float) : nullable real (.ofOption .real x) = .valid x := by
    cases x <;> rfl
  change StreamInfo.mk <$> .valid info.source <*>
      (word SourceType.ofName? .literal (.str info.sourceType.name)).within
        (.field "source_type") <*>
      .valid info.codec <*> .valid info.pixelFormat <*>
      (nullable int (.ofOption .int info.width)).within (.field "width") <*>
      (nullable int (.ofOption .int info.height)).within (.field "height") <*>
      .valid info.rotation <*>
      (nullable real (.ofOption .real info.fps)).within (.field "fps") <*>
      (nullable real (.ofOption .real info.duration)).within (.field "duration") <*>
      .valid info.hasAudio <*> .valid info.needsVp9Decoder = _
  rw [htype, hside, hside, hreal, hreal]
  rfl

/-- What a probe answers does not depend on what has happened before. -/
theorem StreamInfo.probe_events (source : String) (context : ContextId) (w : World)
    (events : List Event) :
    (probe (.str source) context { w with events }).1 = (probe (.str source) context w).1 := by
  cases hc : w.contexts[context.index]? with
  | none =>
    have hmissing (w : World) (hc : w.contexts[context.index]? = none) :
        (probe (.str source) context w).1 = .error .noAttribute := by
      rw [probe, Act.bind_apply, Context.ofId_missing hc]
    rw [hmissing _ hc, hmissing { w with events } hc]
  | some c =>
    have hc' : ({ w with events } : World).contexts[context.index]? = some c := hc
    cases ht : Locator.sourceType source with
    | error e => rw [probe_refused hc ht, probe_refused hc' ht]
    | ok type =>
      obtain ⟨v, hv⟩ := probe_eq hc ht
      obtain ⟨v', hv'⟩ := probe_eq hc' ht
      rw [hv, hv', ofReply_eq, ofReply_eq]
      rfl

namespace Foreground

open Archive

variable {w w' : World} {path directory color mask : String} {context : ContextId}
  {type : SourceType} {audio : Option String}

open Record in
/-- The files of a bundle make a valid clip. -/
theorem read_bundle (color mask : String) (audio : Option String) (soft : Bool)
    (info : StreamInfo) :
    read [("format", ForegroundFormat.bundle.name), ("primary_path", .str color),
      ("mask_path", .str mask), ("audio_path", .ofOption .str audio), ("soft_alpha", .bool soft),
      ("info", info.toJson)] =
    .valid ⟨.bundle, color, some mask, audio, none, soft, some info⟩ := by
  have haudio : nullable text (.ofOption .str audio) = .valid audio := by
    cases audio <;> rfl
  have hinfo : nullable (object StreamInfo.read) info.toJson = .valid (some info) := by
    change some <$> object StreamInfo.read info.toJson = _
    rw [StreamInfo.read_toJson]
    rfl
  change (Foreground.mk <$> .valid .bundle <*> .valid color <*> .valid (some mask) <*>
      (nullable text (.ofOption .str audio)).within (.field "audio_path") <*> .valid none <*>
      .valid soft <*> (nullable (object StreamInfo.read) info.toJson).within
        (.field "info")).andThen check = _
  rw [haudio, hinfo]
  cases soft <;> rfl

theorem bundlePicture_plain :
    Path.IsPlain bundlePicture ∧ Path.isAbsolute bundlePicture = false := by
  decide +kernel

theorem bundleMask_plain : Path.IsPlain bundleMask ∧ Path.isAbsolute bundleMask = false := by
  decide +kernel

theorem bundleAudio_plain : Path.IsPlain bundleAudio ∧ Path.isAbsolute bundleAudio = false := by
  decide +kernel

/-- A path on this machine stays as it is. -/
theorem localBundle_local (htype : Locator.sourceType path = .ok type) (hlocal : type ≠ .url)
    (w : World) : localBundle (.str path) context w = (.ok (.str path), w) := by
  have hvalue : Locator.typeOfValue (.str path) = .ok type := htype
  have hno : ¬ (type == .url) = true := by simpa using hlocal
  rw [localBundle, Act.bind_apply, hvalue]
  dsimp only [Act.ofExcept]
  change (if (type == .url) = true then _ else pure (.str path) : Act Json) w = _
  rw [if_neg hno]
  rfl

/-- What is made of an archive that was unpacked, by what was found in it. -/
theorem ofBundle_apply (htype : Locator.sourceType path = .ok type) (hlocal : type ≠ .url)
    (hextract : extract (.str path) context "pro_bundle_" w = (.ok directory, w'))
    {color mask audio : Option String}
    (hcolor : findMember w'.files directory bundlePicture = .ok color)
    (hmask : findMember w'.files directory bundleMask = .ok mask)
    (haudio : findMember w'.files directory bundleAudio = .ok audio) (soft : Json) :
    ofBundle (.str path) soft context w = (do
      let picture ← needMember bundlePicture path color
      let mask ← needMember bundleMask path mask
      Act.info ("Pro bundle members: " ++ bundlePicture ++ ", " ++ bundleMask ++
        (if audio.isSome then ", " ++ bundleAudio else " (no audio)"))
      ofFiles picture mask (.ofOption .str audio) soft context : Act Foreground) w' := by
  rw [ofBundle, Act.bind_apply, localBundle_local htype hlocal]
  dsimp only
  rw [Act.bind_apply, hextract]
  dsimp only
  rw [Act.getThe_bind, hcolor, hmask, haudio]
  rfl

/-- The clip of a bundle in which nothing is missing. -/
theorem ofBundle_found (htype : Locator.sourceType path = .ok type) (hlocal : type ≠ .url)
    (hextract : extract (.str path) context "pro_bundle_" w = (.ok directory, w'))
    (hcolor : findMember w'.files directory bundlePicture = .ok (some color))
    (hmask : findMember w'.files directory bundleMask = .ok (some mask))
    (haudio : findMember w'.files directory bundleAudio = .ok audio) (soft : Bool)
    {info : StreamInfo} (hprobe : (StreamInfo.probe (.str color) context w').1 = .ok info) :
    (ofBundle (.str path) (.bool soft) context w).1 =
      .ok ⟨.bundle, color, some mask, audio, none, soft, some info⟩ := by
  rw [ofBundle_apply htype hlocal hextract hcolor hmask haudio]
  change ((Act.info _ >>= fun _ => ofFiles (.str color) (.str mask) (.ofOption .str audio)
    (.bool soft) context : Act Foreground) w').1 = _
  rw [Act.bind_apply, Act.info, Act.log_apply]
  dsimp only
  generalize w'.events ++ _ = events
  have hanswer := StreamInfo.probe_events color context w' events
  rw [hprobe] at hanswer
  rw [ofFiles, Act.bind_apply]
  generalize StreamInfo.probe (.str color) context { w' with events } = run at hanswer ⊢
  obtain ⟨result, after⟩ := run
  cases hanswer
  dsimp only
  rw [read_bundle]
  rfl

/-- What is found is settled by what stands in the tree, and is a file of it. -/
theorem findMember_settled {t : FileTree} {directory name : String} {root : List String}
    (ht : t.Sound) (hplace : t.place directory = .ok root) (hdir : t.at? root = some .directory)
    (hplain : Path.IsPlain name) (hrelative : Path.isAbsolute name = false) :
    ∃ found, findMember t directory name = .ok found ∧
      (∀ other, Archive.Finds t root directory name other ↔ other = found) ∧
      (∀ path, found = some path → t.isFile path = true) ∧
      ∀ t' : FileTree, (∀ q, t'.at? q = t.at? q) → findMember t' directory name = .ok found := by
  obtain ⟨found, hfound, hfinds⟩ := findMember_finds ht hplace hdir hplain hrelative
  refine ⟨found, hfound, fun other => ⟨hfinds.unique, ?_⟩, ?_, fun t' hsame => ?_⟩
  · rintro rfl
    exact hfinds
  · rintro path rfl
    exact isFile_of_findMember hfound
  · rw [findMember_congr ht hplace hdir hplain hrelative hsame, hfound]

/-- A member is found by what stands in the tree: the file at the top of the directory, else the
one in the least entry that holds such a file, else none. So an archive that is unpacked into
its new directory makes a clip of the files that are found, unless the picture or the mask is
neither at the top nor one level below. -/
theorem ofBundle_members :
    (∀ {t : FileTree} {directory name : String} {root : List String}, t.Sound →
      t.place directory = .ok root → t.at? root = some .directory → Path.IsPlain name →
      Path.isAbsolute name = false →
      ∃ found, findMember t directory name = .ok found ∧
        (∀ other, Archive.Finds t root directory name other ↔ other = found) ∧
        (∀ path, found = some path → t.isFile path = true) ∧
        ∀ t' : FileTree, (∀ q, t'.at? q = t.at? q) →
          findMember t' directory name = .ok found) ∧
    ∀ {w w' : World} {path directory : String} {context : ContextId} {type : SourceType},
      w.files.Sound → Locator.sourceType path = .ok type → type ≠ .url →
      extract (.str path) context "pro_bundle_" w = (.ok directory, w') →
      let root := Path.spot directory
      let t := w'.files
      let bundle (soft : Bool) := (ofBundle (.str path) (.bool soft) context w).1
      (w.files.at? root = none ∧ t.place directory = .ok root ∧ t.at? root = some .directory) ∧
      (¬ Archive.Holds t root "color.mp4" →
        ∀ soft, bundle soft = .error (.media (.memberMissing "color.mp4" path))) ∧
      (Archive.Holds t root "color.mp4" → ¬ Archive.Holds t root "alpha.mp4" →
        ∀ soft, bundle soft = .error (.media (.memberMissing "alpha.mp4" path))) ∧
      (Archive.Holds t root "color.mp4" → Archive.Holds t root "alpha.mp4" → ∃ color mask audio,
        Archive.Finds t root directory "color.mp4" (some color) ∧
        Archive.Finds t root directory "alpha.mp4" (some mask) ∧
        Archive.Finds t root directory "audio.m4a" audio ∧
        (audio.isSome = true ↔ Archive.Holds t root "audio.m4a") ∧
        ∀ info, (StreamInfo.probe (.str color) context w').1 = .ok info →
          ∀ soft, bundle soft =
            .ok ⟨.bundle, color, some mask, audio, none, soft, some info⟩) := by
  refine ⟨fun {t directory name root} ht hplace hdir hplain hrelative => ?_,
    fun {w w' path directory context type} hsound htype hlocal hextract => ?_⟩
  · exact findMember_settled ht hplace hdir hplain hrelative
  · intro root t bundle
    obtain ⟨hfresh, ht, hplace, hdir⟩ := extract_fresh hsound hextract
    have hfind {name : String} (hplain : Path.IsPlain name)
        (hrelative : Path.isAbsolute name = false) :
        ∃ found, findMember t directory name = .ok found ∧
          Archive.Finds t root directory name found :=
      findMember_finds ht hplace hdir hplain hrelative
    obtain ⟨color, hcolor, hfindsColor⟩ := hfind bundlePicture_plain.1 bundlePicture_plain.2
    obtain ⟨mask, hmask, hfindsMask⟩ := hfind bundleMask_plain.1 bundleMask_plain.2
    obtain ⟨audio, haudio, hfindsAudio⟩ := hfind bundleAudio_plain.1 bundleAudio_plain.2
    have happly (soft : Bool) :=
      ofBundle_apply htype hlocal hextract hcolor hmask haudio (.bool soft)
    refine ⟨⟨hfresh, hplace, hdir⟩, fun hno soft => ?_, fun hyes hno soft => ?_,
      fun hyes hyes' => ?_⟩
    · obtain rfl : color = none := by
        simpa using (hfindsColor.isSome_iff.not.mpr hno)
      change (ofBundle (.str path) (.bool soft) context w).1 = _
      rw [happly]
      rfl
    · obtain ⟨color, rfl⟩ := Option.isSome_iff_exists.mp (hfindsColor.isSome_iff.mpr hyes)
      obtain rfl : mask = none := by
        simpa using (hfindsMask.isSome_iff.not.mpr hno)
      change (ofBundle (.str path) (.bool soft) context w).1 = _
      rw [happly]
      rfl
    · obtain ⟨color, rfl⟩ := Option.isSome_iff_exists.mp (hfindsColor.isSome_iff.mpr hyes)
      obtain ⟨mask, rfl⟩ := Option.isSome_iff_exists.mp (hfindsMask.isSome_iff.mpr hyes')
      exact ⟨color, mask, audio, hfindsColor, hfindsMask, hfindsAudio, hfindsAudio.isSome_iff,
        fun info hprobe soft =>
          ofBundle_found htype hlocal hextract hcolor hmask haudio soft hprobe⟩

/-- A bundle with a directory in the place of its picture, two folders that hold a picture, and no
sound. The tool that is asked about the picture fails. -/
def takes : World :=
  { World.initial with
    files := World.initial.files.put ["/", "b.zip"] (.file (.bytes (Archive.stored [
      ("b/color.mp4", [114, 103, 98]), ("a/color.mp4", [114, 103, 98]),
      ("a/alpha.mp4", [109, 97, 116, 116, 101]), ("color.mp4/", [])])))
    contexts := [⟨"ffmpeg", "ffprobe", "/tmp", []⟩]
    runs := [("/tmp/pro_bundle_n0/a/color.mp4", [.finished 1 "" ""])] }

/-- What stands in the tree when the bundle is unpacked. -/
def takesUnpacked : FileTree := ⟨takes.files.entries ++
  [(["/", "tmp", "pro_bundle_n0"], .directory),
    (["/", "tmp", "pro_bundle_n0", "b"], .directory),
    (["/", "tmp", "pro_bundle_n0", "b", "color.mp4"], .file (.bytes [114, 103, 98])),
    (["/", "tmp", "pro_bundle_n0", "a"], .directory),
    (["/", "tmp", "pro_bundle_n0", "a", "color.mp4"], .file (.bytes [114, 103, 98])),
    (["/", "tmp", "pro_bundle_n0", "a", "alpha.mp4"], .file (.bytes [109, 97, 116, 116, 101])),
    (["/", "tmp", "pro_bundle_n0", "color.mp4"], .directory)]⟩

theorem takes_sound : takes.files.Sound := by
  have hreached : World.initial.files.Reached ["/", "b.zip"] :=
    (FileTree.Reached.singleton _ "/").append (by decide +kernel) "b.zip"
  have hproper : FileTree.IsProper ["/", "b.zip"] := by
    intro name hname
    obtain rfl := List.mem_singleton.mp hname
    exact ⟨⟨by decide +kernel, by decide, by decide, by decide +kernel⟩, by decide,
      by decide +kernel⟩
  have hfree : World.initial.files.at? ["/", "b.zip"] ≠ some .directory := by decide +kernel
  exact (World.sound_initial.put (List.cons_ne_nil _ _) hreached hproper
    fun hdir => absurd hdir hfree).sound

/-- The bundle can be unpacked, and the picture of the first folder can be asked about. -/
theorem takes_unpacked :
    let run := extract "/b.zip" ⟨0⟩ "pro_bundle_" takes
    let probe := StreamInfo.probe "/tmp/pro_bundle_n0/a/color.mp4" ⟨0⟩ run.2
    (run.1.toOption, run.2.files, probe.1.toOption.isSome) =
      (some "/tmp/pro_bundle_n0", takesUnpacked, true) := by
  decide +kernel

theorem takes_spot : Path.spot "/tmp/pro_bundle_n0" = ["/", "tmp", "pro_bundle_n0"] := by
  decide +kernel

/-- The pictures of the bundle. -/
theorem takes_pictures {entry : String}
    (h : takesUnpacked.HasFile (["/", "tmp", "pro_bundle_n0"] ++ [entry, "color.mp4"])) :
    entry = "a" ∨ entry = "b" := by
  obtain ⟨e, he⟩ := FileTree.mem_of_at? h.exists_
  have hfound : entry = "a" ∧ e = .file (.bytes [114, 103, 98]) ∨
      entry = "b" ∧ e = .file (.bytes [114, 103, 98]) := by
    simpa [takesUnpacked, takes, World.initial, FileTree.put, FileTree.at?, or_comm] using he
  exact hfound.imp And.left And.left

/-- The picture of the first folder is taken, and nothing takes the place of the sound. -/
theorem ofBundle_members_takes :
    takes.files.Sound ∧ ∃ w', extract "/b.zip" ⟨0⟩ "pro_bundle_" takes =
        (.ok "/tmp/pro_bundle_n0", w') ∧
      w'.files.at? ["/", "tmp", "pro_bundle_n0", "color.mp4"] = some .directory ∧
      findMember w'.files "/tmp/pro_bundle_n0" "color.mp4" =
        .ok (some "/tmp/pro_bundle_n0/a/color.mp4") ∧
      ∃ mask info, (ofBundle "/b.zip" true ⟨0⟩ takes).1 = .ok ⟨.bundle,
        "/tmp/pro_bundle_n0/a/color.mp4", some mask, none, none, true, some info⟩ := by
  obtain ⟨w', hw'⟩ : ∃ w', (extract "/b.zip" ⟨0⟩ "pro_bundle_" takes).2 = w' := ⟨_, rfl⟩
  obtain ⟨hresult, hrest⟩ := Prod.ext_iff.mp takes_unpacked
  obtain ⟨hfiles, hprobe⟩ := Prod.ext_iff.mp hrest
  dsimp only at hresult hfiles hprobe
  rw [hw'] at hfiles hprobe
  have hextract : extract "/b.zip" ⟨0⟩ "pro_bundle_" takes =
      (.ok "/tmp/pro_bundle_n0", w') := Prod.ext (ok_of_toOption hresult) hw'
  obtain ⟨info, hinfo⟩ := Option.isSome_iff_exists.mp hprobe
  have htype : Locator.sourceType "/b.zip" = .ok .file := ok_of_toOption (by decide +kernel)
  obtain ⟨hfinds, hbundle⟩ := ofBundle_members
  obtain ⟨⟨-, hplace, hdir⟩, -, -, hfound⟩ := hbundle takes_sound htype nofun hextract
  obtain ⟨-, ht, -⟩ := extract_fresh takes_sound hextract
  rw [takes_spot, hfiles] at hfound hplace hdir
  rw [hfiles] at ht
  have hcolor : takesUnpacked.HasFile ["/", "tmp", "pro_bundle_n0", "a", "color.mp4"] :=
    ⟨.bytes [114, 103, 98], by decide +kernel⟩
  have hmask : takesUnpacked.HasFile ["/", "tmp", "pro_bundle_n0", "a", "alpha.mp4"] :=
    ⟨.bytes [109, 97, 116, 116, 101], by decide +kernel⟩
  obtain ⟨color, mask, audio, hfindsColor, -, -, haudio, hclip⟩ :=
    hfound (.inr ⟨"a", hcolor⟩) (.inr ⟨"a", hmask⟩)
  obtain rfl : color = "/tmp/pro_bundle_n0/a/color.mp4" := by
    cases hfindsColor with
    | top htop => exact absurd (by decide +kernel) htop.not_directory
    | nested _ hnested hleast =>
      rcases takes_pictures hnested with rfl | rfl
      · decide +kernel
      · exact absurd (hleast "a" hcolor) (by decide +kernel)
  obtain rfl : audio = none := by
    rw [← Option.not_isSome_iff_eq_none, haudio]
    rintro (h | ⟨entry, h⟩)
    · exact absurd (by decide +kernel) h.exists_
    · obtain ⟨e, he⟩ := FileTree.mem_of_at? h.exists_
      simp [takesUnpacked, takes, World.initial, FileTree.put, FileTree.at?] at he
  obtain ⟨found, hmember, hunique, -⟩ :=
    hfinds ht hplace hdir bundlePicture_plain.1 bundlePicture_plain.2
  obtain rfl := (hunique _).mp hfindsColor
  exact ⟨takes_sound, w', hextract, by rw [hfiles]; decide +kernel, hfiles ▸ hmember, mask, info,
    hclip info (ok_of_toOption hinfo) true⟩

end Foreground

end Compositor
