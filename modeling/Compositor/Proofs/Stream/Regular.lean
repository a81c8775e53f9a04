import Compositor.Proofs.Decimal.Numerals
import Compositor.Proofs.Stream.Document

/-!
# What a regular document determines

The probing tool writes a rotation as an integer, the rotation of a tag as text, and durations
as text. What such a document says about a source is determined by its first video stream and,
if that has no duration, by the duration of the container; the other streams only decide
whether there is audio. The sign of a rotation does not matter, but a rotation that is too large
for a double cannot be read.
-/
namespace Compositor

open Decimal (WholeNumeral DecimalNumeral HasSize Near)

namespace ProbeDocument

variable {stream fields container : Record.Fields} {items : List Json} {source : String}
  {type : SourceType} {r turned : Int}

/-! ## Regular documents -/

/-- No duration. -/
def IsAbsent (v : Json) : Prop := v = .null ∨ v = .str "N/A"

/-- A duration, or none. -/
def IsLength (v : Json) : Prop := IsAbsent v ∨ ∃ s, v = .str s ∧ DecimalNumeral s

/-- A text, or none. -/
def IsLabel (v : Json) : Prop := v = .null ∨ ∃ s, v = .str s

/-- A stream as the probing tool describes it. -/
structure RegularStream (stream : Record.Fields) : Prop where
  rotation : field stream "rotation" = .null ∨ ∃ r, field stream "rotation" = .int r
  tags : field stream "tags" = .null ∨ ∃ tags, field stream "tags" = .obj tags ∧
    (field tags "rotate" = .null ∨ ∃ s r, field tags "rotate" = .str s ∧ WholeNumeral s r)
  sides : field stream "width" = .null ∧ field stream "height" = .null ∨
    ∃ width height, field stream "width" = .int width ∧ field stream "height" = .int height
  duration : IsLength (field stream "duration")
  label : ∀ name ∈ ["codec_name", "pix_fmt", "r_frame_rate"], IsLabel (field stream name)

/-- A document as the probing tool writes it. -/
structure RegularDocument (fields : Record.Fields) (items : List Json) : Prop where
  streams : field fields "streams" = .arr items
  regular : ∀ s ∈ items, ∃ stream, s = .obj stream ∧ RegularStream stream
  container : field fields "format" = .null ∨ ∃ container, field fields "format" = .obj container ∧
    IsLength (field container "duration")

/-- How far a stream is turned: by its own rotation unless that is missing or zero, else by
that of its tags. -/
inductive Turns (stream : Record.Fields) : Int → Prop
  | own {r : Int} (hown : field stream "rotation" = .int r) (hne : r ≠ 0) : Turns stream r
  | tag {tags : Record.Fields} {s : String} {r : Int}
    (hown : field stream "rotation" = .null ∨ field stream "rotation" = .int 0)
    (htags : field stream "tags" = .obj tags) (hs : field tags "rotate" = .str s)
    (hr : WholeNumeral s r) : Turns stream r
  | none (hown : field stream "rotation" = .null ∨ field stream "rotation" = .int 0)
    (htags : field stream "tags" = .null ∨ ∃ tags, field stream "tags" = .obj tags ∧
      field tags "rotate" = .null) : Turns stream 0

theorem RegularStream.turns (h : RegularStream stream) : ∃ r, Turns stream r := by
  have htag (hown : field stream "rotation" = .null ∨ field stream "rotation" = .int 0) :
      ∃ r, Turns stream r := by
    rcases h.tags with hnull | ⟨tags, htags, hnull | ⟨s, r, hs, hr⟩⟩
    · exact ⟨0, .none hown (.inl hnull)⟩
    · exact ⟨0, .none hown (.inr ⟨tags, htags, hnull⟩)⟩
    · exact ⟨r, .tag hown htags hs hr⟩
  rcases h.rotation with hnull | ⟨r, hr⟩
  · exact htag (.inl hnull)
  · by_cases hzero : r = 0
    · exact htag (.inr (hzero ▸ hr))
    · exact ⟨r, .own hr hzero⟩

/-! ## The rotation of a regular stream -/

/-- A whole number of degrees without its sign, as far as a double can hold it. -/
def wholeDegrees (n : Nat) : Except Fault Int :=
  (Number.truncate (Float.ofInt n)).map fun k => k.natAbs

theorem wholeDegrees_cases (n : Nat) :
    (Decimal.ofInt? n ≠ none ∧ ∃ k : Nat, Near n k ∧ wholeDegrees n = .ok k) ∨
      (Decimal.ofInt? n = none ∧ wholeDegrees n = .error .overflow) := by
  have hself : HasSize (Float.ofInt n) n := .inl rfl
  rcases Decimal.size_cases n with ⟨hsome, k, hk, hsize⟩ | ⟨hnone, hsize⟩
  · refine .inl ⟨hsome, k, hk, ?_⟩
    have htruncate := (hsize _ hself).2
    rw [wholeDegrees]
    cases hj : Number.truncate (Float.ofInt n) with
    | error e =>
      rw [hj] at htruncate
      cases htruncate
    | ok j =>
      rw [hj] at htruncate
      cases htruncate
      rfl
  · exact .inr ⟨hnone, by rw [wholeDegrees, (hsize _ hself).2]; rfl⟩

/-- The sign of a double does not matter, only its size. -/
theorem degrees_of_size {v : Json} {x : Float} {n : Nat} (hv : v.toReal = .ok x)
    (hx : HasSize x n) : degrees v = wholeDegrees n := by
  have hself : HasSize (Float.ofInt n) n := .inl rfl
  have hdegrees : degrees v = ((Number.truncate x).map Int.natAbs).map (fun k => (k : Int)) := by
    rw [degrees, hv]
    change (Number.truncate x >>= fun n => .ok (n.natAbs : Int)) = _
    cases Number.truncate x <;> rfl
  have hwhole : wholeDegrees n =
      ((Number.truncate (Float.ofInt n)).map Int.natAbs).map (fun k => (k : Int)) := by
    rw [wholeDegrees]
    cases Number.truncate (Float.ofInt n) <;> rfl
  rw [hdegrees, hwhole]
  rcases Decimal.size_cases n with ⟨-, k, -, hsize⟩ | ⟨-, hsize⟩
  · rw [(hsize x hx).2, (hsize _ hself).2]
  · rw [(hsize x hx).2, (hsize _ hself).2]

theorem degrees_int (r : Int) : degrees (.int r) = wholeDegrees r.natAbs := by
  have hreal : (Json.int r).toReal = (Number.int r).toFloat := rfl
  have hsize := Decimal.hasSize_ofInt r
  by_cases hfinite : (Float.ofInt r).isFinite = true
  · refine degrees_of_size ?_ hsize
    rw [hreal, Number.toFloat, Decimal.ofInt?, if_pos hfinite]
  · have hoverflow : degrees (.int r) = .error .overflow := by
      rw [degrees, hreal, Number.toFloat, Decimal.ofInt?, if_neg hfinite]
      rfl
    rcases Decimal.size_cases r.natAbs with ⟨-, k, -, hall⟩ | ⟨hnone, -⟩
    · exact absurd (hall _ hsize).1 hfinite
    · rcases wholeDegrees_cases r.natAbs with ⟨hsome, -⟩ | ⟨-, hwhole⟩
      · exact absurd hnone hsome
      · rw [hoverflow, hwhole]

theorem degrees_numeral {s : String} (h : WholeNumeral s r) :
    degrees (.str s) = wholeDegrees r.natAbs := by
  obtain ⟨x, hread, hsize⟩ := h.readFloat?
  refine degrees_of_size ?_ hsize
  rw [Json.toReal, hread]

theorem orIfUnreadable_wholeDegrees (n : Nat) :
    orIfUnreadable (wholeDegrees n) 0 = wholeDegrees n := by
  rcases wholeDegrees_cases n with ⟨-, k, -, h⟩ | ⟨-, h⟩
  · rw [h]
    rfl
  · rw [h]
    rfl

theorem isTruthy_numeral {s : String} (h : WholeNumeral s r) : (Json.str s).isTruthy = true := by
  have hne : s.toList ≠ [] := by
    cases h with
    | positive _ hne _ hs => simp [hs, hne]
    | negative _ hne _ hs => simp [hs, hne]
  simpa [Json.isTruthy] using hne

/-- A regular stream is turned by the size of its rotation. -/
theorem rotation_eq (h : Turns stream r) : rotation (.obj stream) = wholeDegrees r.natAbs := by
  have hzero : wholeDegrees (0 : Int).natAbs = .ok 0 := ok_of_toOption (by decide +kernel)
  have hfalsy (hown : field stream "rotation" = .null ∨ field stream "rotation" = .int 0) :
      (field stream "rotation").isTruthy = false := by
    rcases hown with hown | hown <;> rw [hown] <;> rfl
  unfold rotation
  rw [get_obj, get_obj]
  simp only [bind, Except.bind]
  cases h with
  | own hown hne =>
    have htruthy : (Json.int r).isTruthy = true := bne_iff_ne.mpr hne
    rw [hown, if_pos htruthy, degrees_int, orIfUnreadable_wholeDegrees]
  | @tag tags s _ hown htags hs hr =>
    have hne : tags ≠ [] := by
      rintro rfl
      cases hs
    have horElse : (field stream "tags").orElse (.obj []) = .obj tags := by
      rw [htags, Json.orElse, if_pos]
      simpa [Json.isTruthy] using hne
    rw [hfalsy hown, if_neg Bool.false_ne_true, horElse, get_obj, hs]
    dsimp only
    rw [if_pos (isTruthy_numeral hr), degrees_numeral hr, orIfUnreadable_wholeDegrees]
  | none hown htags =>
    obtain ⟨tags, horElse, hrotate⟩ : ∃ tags, (field stream "tags").orElse (.obj []) = .obj tags ∧
        field tags "rotate" = .null := by
      rcases htags with hnull | ⟨tags, htags, hrotate⟩
      · exact ⟨[], by rw [hnull]; rfl, rfl⟩
      · rw [htags, Json.orElse]
        split
        · exact ⟨tags, rfl, hrotate⟩
        · exact ⟨[], rfl, rfl⟩
    rw [hfalsy hown, if_neg Bool.false_ne_true, horElse, get_obj, hrotate, hzero]
    rfl

/-! ## The duration of a regular document -/

/-- The duration that a text gives. -/
def lengthOf (v : Json) : Option Float :=
  match v with
  | .str s => Decimal.readFloat? s
  | _ => none

/-- The duration of the container. -/
def containerLength (container : Json) : Option Float :=
  match container with
  | .obj format => lengthOf (field format "duration")
  | _ => none

theorem IsAbsent.lengthOf {v : Json} (h : IsAbsent v) : lengthOf v = none := by
  rcases h with rfl | rfl
  · rfl
  · decide +kernel

theorem IsLength.duration? {v : Json} (h : IsLength v) : duration? v = .ok (lengthOf v) := by
  rcases h with (rfl | rfl) | ⟨s, rfl, hs⟩
  · rfl
  · exact congrArg Except.ok (IsAbsent.lengthOf (.inr rfl)).symm
  · obtain ⟨x, hx⟩ := hs.readFloat?
    rw [duration?_eq, Json.toReal, ProbeDocument.lengthOf, hx]
    rfl

theorem containerLength_eq (h : RegularDocument fields items) :
    (get ((field fields "format").orElse (.obj [])) "duration" >>= ProbeDocument.duration?) =
      .ok (containerLength (field fields "format")) := by
  rcases h.container with hnull | ⟨format, hformat, hlength⟩
  · rw [hnull]
    rfl
  · rw [hformat, containerLength, ← hlength.duration?, Json.orElse]
    split
    · rfl
    · rename_i hempty
      obtain rfl : format = [] := by simpa [Json.isTruthy] using hempty
      rfl

/-- The duration of the stream comes before that of the container. -/
theorem lengthIn_eq (h : RegularDocument fields items) (hstream : RegularStream stream) :
    lengthIn stream (field fields "format") = .ok ((lengthOf (field stream "duration")).or
      (containerLength (field fields "format"))) := by
  unfold lengthIn
  rw [hstream.duration.duration?]
  cases lengthOf (field stream "duration") with
  | some x => rfl
  | none => exact containerLength_eq h

/-! ## What a regular stream shows -/

/-- The text of a label; the empty text tells nothing. -/
def labelOf (v : Json) : String :=
  match v with
  | .str s => if s.isEmpty then StreamInfo.unknown else s
  | _ => StreamInfo.unknown

def rateOf (v : Json) : Float :=
  match v with
  | .str s => (readRate? s).getD defaultRate
  | _ => defaultRate

def sideOf? (v : Json) : Option Int :=
  match v with
  | .int n => some n
  | _ => none

theorem IsLabel.orElse {v : Json} (h : IsLabel v) :
    v.orElse StreamInfo.unknown = .str (labelOf v) := by
  rcases h with rfl | ⟨s, rfl⟩
  · rfl
  · change (if (!s.isEmpty) = true then Json.str s else .str StreamInfo.unknown) =
      .str (if s.isEmpty = true then StreamInfo.unknown else s)
    cases s.isEmpty <;> rfl

theorem IsLabel.frameRate {v : Json} (h : IsLabel v) : frameRate v = .ok (rateOf v) := by
  have hempty : readRate? "" = none := by decide +kernel
  rcases h with rfl | ⟨s, rfl⟩
  · rfl
  · by_cases hs : s = ""
    · subst hs
      rw [rateOf, hempty]
      rfl
    · have htruthy : (Json.str s).isTruthy = true := by simpa [Json.isTruthy] using hs
      rw [ProbeDocument.frameRate, htruthy]
      rfl

theorem keepsAlphaInVp9_str (codec pixelFormat : String) :
    keepsAlphaInVp9 (.str codec) (.str pixelFormat) =
      .ok (codec == "vp9" && StreamInfo.alphaFormats.contains pixelFormat) := by
  have hsame : Json.same (.str codec) "vp9" = (codec == "vp9") := by rw [Json.same]
  rw [keepsAlphaInVp9, hsame]
  cases codec == "vp9" <;> rfl

/-- What is known about a source whose first video stream lies on its side or not. -/
def shown (source : String) (type : SourceType) (stream : Record.Fields) (container : Json)
    (turned : Int) (audio : Bool) : StreamInfo :=
  let width := sideOf? (field stream "width")
  let height := sideOf? (field stream "height")
  let lies := turned == 90 || turned == 270
  let codec := labelOf (field stream "codec_name")
  let pixelFormat := labelOf (field stream "pix_fmt")
  { source, sourceType := type, codec, pixelFormat
    width := if lies then height else width
    height := if lies then width else height
    rotation := turned
    fps := some (rateOf (field stream "r_frame_rate"))
    duration := (lengthOf (field stream "duration")).or (containerLength container)
    hasAudio := audio
    needsVp9Decoder := codec == "vp9" && StreamInfo.alphaFormats.contains pixelFormat }

/-- The sides of a regular stream are exchanged if it lies on its side. -/
theorem side_upright (h : RegularStream stream) (turned : Int) :
    let sides := upright turned (field stream "width") (field stream "height")
    let width := sideOf? (field stream "width")
    let height := sideOf? (field stream "height")
    let lies := turned == 90 || turned == 270
    side sides.1 = .ok (if lies then height else width) ∧
      side sides.2 = .ok (if lies then width else height) := by
  dsimp only
  rcases h.sides with ⟨hwidth, hheight⟩ | ⟨width, height, hwidth, hheight⟩
  · rw [hwidth, hheight]
    cases turned == 90 || turned == 270 <;> exact ⟨rfl, rfl⟩
  · rw [hwidth, hheight, upright]
    cases turned == 90 || turned == 270 <;> exact ⟨rfl, rfl⟩

theorem firstOfType?_regular (h : RegularDocument fields items) (type : String) :
    firstOfType? type items = .ok (items.find? (isOfType type)) := by
  refine firstOfType?_eq_ok_iff.mpr ⟨fun s hs => ?_, rfl⟩
  obtain ⟨stream, rfl, -⟩ := h.regular s (List.takeWhile_subset _ hs)
  exact ⟨stream, rfl⟩

theorem describe_regular (h : RegularDocument fields items) (hstream : RegularStream stream)
    (hturned : rotation (.obj stream) = .ok turned) :
    describe source type (field fields "format") items stream =
      .ok (shown source type stream (field fields "format") turned
        (items.any (isOfType "audio"))) := by
  obtain ⟨hwidth, hheight⟩ := side_upright hstream turned
  have hcodec := (hstream.label "codec_name" (by simp)).orElse
  have hpixel := (hstream.label "pix_fmt" (by simp)).orElse
  have hrate := (hstream.label "r_frame_rate" (by simp)).frameRate
  have haudio : (items.find? (isOfType "audio")).isSome = items.any (isOfType "audio") :=
    List.isSome_find? ..
  unfold describe
  rw [hturned, lengthIn_eq h hstream, hcodec, hpixel, hrate, firstOfType?_regular h]
  simp only [bind, Except.bind, hwidth, hheight, haudio, keepsAlphaInVp9_str, read_description]
  rfl

/-- The first video stream is an object, and it is turned in some way. -/
theorem RegularDocument.turns (h : RegularDocument fields items) {video : Json}
    (hvideo : items.find? (isOfType "video") = some video) :
    ∃ stream r, video = .obj stream ∧ Turns stream r := by
  obtain ⟨stream, rfl, hstream⟩ := h.regular _ (List.mem_of_find?_eq_some hvideo)
  obtain ⟨r, hr⟩ := hstream.turns
  exact ⟨stream, r, rfl, hr⟩

theorem streams_regular (h : RegularDocument fields items) :
    streams (.obj fields) = .ok items := by
  rw [streams, get_obj, h.streams]
  cases items <;> rfl

end ProbeDocument

open ProbeDocument

namespace StreamInfo

variable {stream fields : Record.Fields} {items : List Json} {source : String} {r : Int}

/-! ## Reading a regular document -/

/-- Without a video stream there is nothing to tell. -/
theorem ofDocument?_silent (h : RegularDocument fields items)
    (hnone : items.find? (isOfType "video") = none) (source : Json) :
    ofDocument? source (.obj fields) = .ok none := by
  rw [ofDocument?, streams_regular h]
  simp only [bind, Except.bind, firstOfType?_regular h, hnone]

/-- A source that cannot be taken apart is not described. -/
theorem ofDocument?_refused (h : RegularDocument fields items) (hstream : RegularStream stream)
    (hvideo : items.find? (isOfType "video") = some (.obj stream)) {turned : Int}
    (hturned : ProbeDocument.rotation (.obj stream) = .ok turned) {e : Fault}
    (he : Locator.sourceType source = .error e) :
    ofDocument? (.str source) (.obj fields) = .error e := by
  have htype : Locator.typeOfValue (.str source) = .error e := he
  have hfound := firstOfType?_regular h "video"
  rw [hvideo] at hfound
  obtain ⟨v, hv, hlength⟩ := bind_eq_ok.mp (containerLength_eq h)
  rw [ofDocument?, streams_regular h, htype]
  simp only [bind, Except.bind, pure, Except.pure, hfound, get_obj, hturned,
    hstream.duration.duration?, hv, hlength]
  cases lengthOf (field stream "duration") <;> rfl

/-- What is made of a regular document with a video stream. -/
theorem ofDocument?_video (source : String) (h : RegularDocument fields items)
    (hvideo : items.find? (isOfType "video") = some (.obj stream)) (hr : Turns stream r) :
    ofDocument? (.str source) (.obj fields) = (do
      let turned ← wholeDegrees r.natAbs
      let type ← Locator.sourceType source
      .ok (some (shown source type stream (field fields "format") turned
        (items.any (isOfType "audio"))))) := by
  obtain ⟨stream', heq, hstream⟩ := h.regular _ (List.mem_of_find?_eq_some hvideo)
  cases heq
  have hfound := firstOfType?_regular h "video"
  rw [hvideo] at hfound
  have hrotation := rotation_eq hr
  cases hturned : wholeDegrees r.natAbs with
  | error e =>
    rw [ofDocument?, streams_regular h]
    simp only [bind, Except.bind, hfound, get_obj, hrotation, hturned]
  | ok turned =>
    rw [hturned] at hrotation
    cases htype : Locator.sourceType source with
    | error e => exact ofDocument?_refused h hstream hvideo hrotation htype
    | ok type =>
      rw [ofDocument?_eq htype (streams_regular h) hfound, describe_regular h hstream hrotation]
      rfl

/-- What a regular document says about a source, of which one stream is the first video and
turned by `r`. -/
structure Shows (stream : Record.Fields) (container : Json) (r : Int) (info : StreamInfo) :
    Prop where
  codec : info.codec = labelOf (field stream "codec_name")
  pixelFormat : info.pixelFormat = labelOf (field stream "pix_fmt")
  rate : info.fps = some (rateOf (field stream "r_frame_rate"))
  sides : (info.width, info.height) = if r.natAbs = 90 ∨ r.natAbs = 270
    then (sideOf? (field stream "height"), sideOf? (field stream "width"))
    else (sideOf? (field stream "width"), sideOf? (field stream "height"))
  rotation : ∃ k, Near r.natAbs k ∧ info.rotation = k
  ownDuration : ∀ s, field stream "duration" = .str s → DecimalNumeral s →
    info.duration = Decimal.readFloat? s ∧ info.duration.isSome = true
  containerDuration : IsAbsent (field stream "duration") →
    info.duration = containerLength container
  needsVp9Decoder : info.needsVp9Decoder = (info.codec == "vp9" && info.hasAlpha)

theorem shown_shows (source : String) (type : SourceType) (container : Json) (audio : Bool)
    {k : Nat} (hk : Near r.natAbs k) :
    Shows stream container r (shown source type stream container k audio) where
  codec := rfl
  pixelFormat := rfl
  rate := rfl
  sides := by
    have hlies : ((k : Int) == 90 || (k : Int) == 270) =
        decide (r.natAbs = 90 ∨ r.natAbs = 270) := by
      have hquarter := hk.eq_iff (j := 90) (by decide)
      have hback := hk.eq_iff (j := 270) (by decide)
      rw [Bool.eq_iff_iff]
      simp only [Bool.or_eq_true, beq_iff_eq, decide_eq_true_eq]
      omega
    simp only [shown, hlies, decide_eq_true_eq]
    split <;> rfl
  rotation := ⟨k, hk, rfl⟩
  ownDuration := by
    intro s hs hnumeral
    obtain ⟨x, hx⟩ := hnumeral.readFloat?
    simp [shown, hs, lengthOf, hx]
  containerDuration := by
    intro habsent
    simp [shown, habsent.lengthOf]
  needsVp9Decoder := rfl

/-- Streams that differ in nothing but their rotation. -/
def Alike (stream stream' : Record.Fields) : Prop :=
  ∀ name ∈ ["codec_name", "pix_fmt", "width", "height", "duration", "r_frame_rate"],
    field stream' name = field stream name

/-- The container decides about the duration only if the stream has none. -/
theorem shown_alike {stream' : Record.Fields} {container container' : Json}
    (hstream : RegularStream stream) (h : Alike stream stream')
    (hlength : IsAbsent (field stream "duration") →
      containerLength container' = containerLength container)
    (source : String) (type : SourceType) (turned : Int) (audio audio' : Bool) :
    shown source type stream' container' turned audio' =
      { shown source type stream container turned audio with hasAudio := audio' } := by
  have hduration : (lengthOf (field stream "duration")).or (containerLength container') =
      (lengthOf (field stream "duration")).or (containerLength container) := by
    rcases hstream.duration with habsent | ⟨s, hs, hnumeral⟩
    · rw [hlength habsent]
    · obtain ⟨x, hx⟩ := hnumeral.readFloat?
      rw [hs, lengthOf, hx]
      rfl
  unfold shown
  rw [h "codec_name" (by simp), h "pix_fmt" (by simp), h "width" (by simp), h "height" (by simp),
    h "duration" (by simp), h "r_frame_rate" (by simp), hduration]

/-- A regular document has nothing to tell exactly if it has no video stream. Otherwise the
first one decides: a rotation that is too large for a double is a fault, and so is a source that
cannot be taken apart. What is known in the end is what the stream shows, whether any stream is
of type audio, and the duration of the container in place of a missing one. So in another
document with such a first video stream, turned as far in any direction, nothing but the
presence of audio can differ. -/
theorem ofDocument?_regular (source : String) (h : RegularDocument fields items) :
    (ofDocument? (.str source) (.obj fields) = .ok none ↔
      ∀ s ∈ items, isOfType "video" s = false) ∧
    (∀ video, items.find? (isOfType "video") = some video →
      ∃ stream r, video = .obj stream ∧ Turns stream r) ∧
    ∀ stream r, items.find? (isOfType "video") = some (.obj stream) → Turns stream r →
      (Decimal.ofInt? r.natAbs = none →
        ofDocument? (.str source) (.obj fields) = .error .overflow) ∧
      (Decimal.ofInt? r.natAbs ≠ none →
        (∀ e, Locator.sourceType source = .error e →
          ofDocument? (.str source) (.obj fields) = .error e) ∧
        ∀ type, Locator.sourceType source = .ok type →
          ∃ info, ofDocument? (.str source) (.obj fields) = .ok (some info) ∧
            info.source = source ∧ info.sourceType = type ∧
            Shows stream (field fields "format") r info ∧
            (info.hasAudio = true ↔ ∃ s ∈ items, isOfType "audio" s = true)) ∧
      ∀ fields' items' stream' r', RegularDocument fields' items' →
        items'.find? (isOfType "video") = some (.obj stream') → Turns stream' r' →
        Alike stream stream' → r'.natAbs = r.natAbs →
        (IsAbsent (field stream "duration") → containerLength (field fields' "format") =
          containerLength (field fields "format")) →
        ofDocument? (.str source) (.obj fields') =
          (ofDocument? (.str source) (.obj fields)).map (Option.map fun info =>
            { info with hasAudio := items'.any (isOfType "audio") }) := by
  have hnone : items.find? (isOfType "video") = none ↔ ∀ s ∈ items, isOfType "video" s = false := by
    simp
  refine ⟨⟨fun hanswer => ?_, fun hall => ofDocument?_silent h (hnone.mpr hall) _⟩,
    fun video hvideo => ?_, fun stream r hvideo hr => ?_⟩
  · refine hnone.mp ?_
    cases hvideo : items.find? (isOfType "video") with
    | none => rfl
    | some video =>
      obtain ⟨stream, r, rfl, hr⟩ := h.turns hvideo
      rw [ofDocument?_video source h hvideo hr] at hanswer
      obtain ⟨turned, -, hanswer⟩ := bind_eq_ok.mp hanswer
      obtain ⟨type, -, hanswer⟩ := bind_eq_ok.mp hanswer
      cases hanswer
  · exact h.turns hvideo
  have heq := ofDocument?_video source h hvideo hr
  refine ⟨fun hlarge => ?_, fun hfits => ?_, ?_⟩
  · rcases wholeDegrees_cases r.natAbs with ⟨hsome, -⟩ | ⟨-, hturned⟩
    · exact absurd hlarge hsome
    · rw [heq, hturned]
      rfl
  · rcases wholeDegrees_cases r.natAbs with ⟨-, k, hk, hturned⟩ | ⟨hlarge, -⟩
    · rw [hturned] at heq
      refine ⟨fun e he => ?_, fun type htype => ?_⟩
      · rw [heq, he]
        rfl
      · rw [htype] at heq
        exact ⟨_, heq, rfl, rfl, shown_shows source type _ _ hk, List.any_eq_true⟩
    · exact absurd hlarge hfits
  · -- both answers are made in the same way, and the sizes of the rotations are equal
    intro fields' items' stream' r' h' hvideo' hr' halike hsize hlength
    obtain ⟨_, hobj, hstream⟩ := h.regular _ (List.mem_of_find?_eq_some hvideo)
    cases hobj
    rw [heq, ofDocument?_video source h' hvideo' hr', hsize]
    cases wholeDegrees r.natAbs with
    | error e => rfl
    | ok turned =>
      cases Locator.sourceType source with
      | error e => rfl
      | ok type =>
        have hshown := shown_alike hstream halike hlength source type turned
          (items.any (isOfType "audio")) (items'.any (isOfType "audio"))
        exact congrArg (fun info => (.ok (some info) : Except Fault (Option StreamInfo))) hshown

/-- A clip of a phone, with its sound in front of the picture. -/
def phoneSound : Record.Fields :=
  [("codec_type", "audio"), ("codec_name", "aac"), ("duration", "5.0")]

def phonePicture : Record.Fields :=
  [("codec_type", "video"), ("codec_name", "h264"), ("pix_fmt", "yuv420p"),
    ("width", .int 1920), ("height", .int 1080), ("r_frame_rate", "30000/1001"),
    ("duration", "N/A"), ("tags", .obj [("rotate", "-90")])]

def phoneDocument : Record.Fields :=
  [("streams", .arr [.obj phoneSound, .obj phonePicture]), ("format", .obj [("duration", "5.005")])]

theorem phoneSound_regular : RegularStream phoneSound where
  rotation := .inl rfl
  tags := .inl rfl
  sides := .inl ⟨rfl, rfl⟩
  duration := by
    have hdigits : ∀ c ∈ ['5'] ++ ['0'], c.isDigit = true := List.all_eq_true.mp rfl
    exact .inr ⟨"5.0", rfl, .pointed .absent (by simp) hdigits (by decide +kernel)⟩
  label := by
    intro name hname
    simp only [List.mem_cons, List.not_mem_nil, or_false] at hname
    rcases hname with rfl | rfl | rfl
    · exact .inr ⟨"aac", rfl⟩
    · exact .inl rfl
    · exact .inl rfl

theorem phoneTurn_numeral : WholeNumeral "-90" (-90) := by
  have hdigits : ∀ c ∈ ['9', '0'], c.isDigit = true := List.all_eq_true.mp rfl
  exact .negative .minus (by simp) hdigits (by decide +kernel)

theorem phonePicture_regular : RegularStream phonePicture where
  rotation := .inl rfl
  tags := .inr ⟨_, rfl, .inr ⟨"-90", _, rfl, phoneTurn_numeral⟩⟩
  sides := .inr ⟨1920, 1080, rfl, rfl⟩
  duration := .inl (.inr rfl)
  label := by
    intro name hname
    simp only [List.mem_cons, List.not_mem_nil, or_false] at hname
    rcases hname with rfl | rfl | rfl
    · exact .inr ⟨"h264", rfl⟩
    · exact .inr ⟨"yuv420p", rfl⟩
    · exact .inr ⟨"30000/1001", rfl⟩

theorem phoneDocument_regular :
    RegularDocument phoneDocument [.obj phoneSound, .obj phonePicture] where
  streams := rfl
  regular := by
    intro s hs
    simp only [List.mem_cons, List.not_mem_nil, or_false] at hs
    rcases hs with rfl | rfl
    · exact ⟨_, rfl, phoneSound_regular⟩
    · exact ⟨_, rfl, phonePicture_regular⟩
  container := by
    have hdigits : ∀ c ∈ ['5'] ++ ['0', '0', '5'], c.isDigit = true := List.all_eq_true.mp rfl
    exact .inr ⟨_, rfl, .inr ⟨"5.005", rfl,
      .pointed .absent (by simp) hdigits (by decide +kernel)⟩⟩

/-- The picture of the clip is upright when its sides are exchanged, and the order of its
streams does not matter. -/
theorem ofDocument?_regular_phone :
    RegularDocument phoneDocument [.obj phoneSound, .obj phonePicture] ∧
    Turns phonePicture (-90) ∧
    ∃ info, ofDocument? "clip.mp4" (.obj phoneDocument) = .ok (some info) ∧
      (info.width, info.height) = (some 1080, some 1920) ∧
      info.duration = Decimal.readFloat? "5.005" ∧ info.hasAudio = true := by
  have hturns : Turns phonePicture (-90) := .tag (.inl rfl) rfl rfl phoneTurn_numeral
  obtain ⟨-, -, hall⟩ := ofDocument?_regular "clip.mp4" phoneDocument_regular
  obtain ⟨-, hfits, -⟩ := hall phonePicture (-90) rfl hturns
  have htype : Locator.sourceType "clip.mp4" = .ok .file := ok_of_toOption (by decide +kernel)
  obtain ⟨info, hinfo, -, -, hshows, haudio⟩ := (hfits (by decide +kernel)).2 .file htype
  refine ⟨phoneDocument_regular, hturns, info, hinfo, ?_, ?_, ?_⟩
  · exact hshows.sides
  · exact hshows.containerDuration (.inr rfl)
  · exact haudio.mpr ⟨_, List.mem_cons_self, rfl⟩

/-- A document whose only stream is a video with a rotation. -/
def turnedDocument (r : Int) : Record.Fields :=
  [("streams", .arr [.obj [("codec_type", "video"), ("rotation", .int r)]])]

theorem turnedDocument_regular (r : Int) :
    RegularDocument (turnedDocument r) [.obj [("codec_type", "video"), ("rotation", .int r)]] where
  streams := rfl
  regular := by
    intro s hs
    obtain rfl := List.mem_singleton.mp hs
    refine ⟨_, rfl, .inr ⟨r, rfl⟩, .inl rfl, .inl ⟨rfl, rfl⟩, .inl (.inl rfl), ?_⟩
    intro name hname
    simp only [List.mem_cons, List.not_mem_nil, or_false] at hname
    rcases hname with rfl | rfl | rfl <;> exact .inl rfl
  container := .inl rfl

/-- A rotation of more than four hundred digits ends the reading of a regular document. -/
theorem ofDocument?_too_far : ¬ ∀ fields items, RegularDocument fields items →
    ∃ found, ofDocument? "a.mp4" (.obj fields) = .ok found := by
  intro hall
  obtain ⟨digits, hdigits⟩ : ∃ digits, digits = 400 := ⟨_, rfl⟩
  have hsize : ((10 : Int) ^ digits).natAbs = 10 ^ digits := Int.natAbs_pow 10 digits
  have hlarge : Decimal.ofInt? ((10 : Int) ^ digits).natAbs = none :=
    Decimal.ofInt?_of_digits hdigits.ge hsize.ge
  have hturns : Turns [("codec_type", "video"), ("rotation", .int (10 ^ digits))] (10 ^ digits) :=
    .own rfl (pow_ne_zero digits (by decide))
  obtain ⟨found, hfound⟩ := hall _ _ (turnedDocument_regular (10 ^ digits))
  rw [ofDocument?_video _ (turnedDocument_regular _) rfl hturns] at hfound
  rcases wholeDegrees_cases ((10 : Int) ^ digits).natAbs with ⟨hsome, -⟩ | ⟨-, hturned⟩
  · exact hsome hlarge
  · rw [hturned] at hfound
    cases hfound

end StreamInfo

end Compositor
