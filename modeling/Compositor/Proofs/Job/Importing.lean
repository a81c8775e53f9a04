import Compositor.Proofs.Address.Suffixes
import Compositor.Proofs.Job.Requesting

/-!
# The format of an imported clip

The result of a removal is stored under the extension of its address, or as `.mp4` if that
is not the extension of a result. The clip is then opened by the extension of the file, so
the format that was asked for plays no part in it.
-/
namespace Compositor

variable {α β : Type}

/-! ## Opening a clip -/

/-- Whatever the action answers is as stated. -/
def Act.Answers (x : Act α) (post : α → Prop) : Prop := ∀ w a, (x w).1 = .ok a → post a

theorem Act.Answers.bind {x : Act α} {f : α → Act β} {post : β → Prop}
    (hf : ∀ a, (f a).Answers post) : (x >>= f).Answers post := by
  intro w b h
  obtain ⟨a, w', -, h⟩ := bind_ok h
  exact hf a w' b h

theorem Act.Answers.ofExcept {r : Except Fault α} {post : α → Prop}
    (h : ∀ a, r = .ok a → post a) : (Act.ofExcept r).Answers post :=
  fun _ a ha => h a (ofExcept_ok (Prod.ext ha rfl))

namespace Foreground

theorem check_valid {f g : Foreground} (h : f.check = .valid g) : g = f := by
  unfold check at h
  dsimp only at h
  split at h
  · cases h
  · split at h
    · cases h
    · split at h
      · cases h
      · cases h
        rfl

/-- A record that begins with a format has this format. -/
theorem read_format {format : ForegroundFormat} {rest : Record.Fields} {f : Foreground}
    (h : (read (("format", format.name) :: rest)).toExcept = .ok f) : f.format = format := by
  obtain ⟨record, hrecord, hcheck⟩ := Checked.andThen_valid (Checked.toExcept_ok h)
  obtain ⟨withSoft, info, h₆, -, hinfo⟩ := Checked.ap_valid hrecord
  obtain ⟨withTrim, soft, h₅, -, hsoft⟩ := Checked.ap_valid h₆
  obtain ⟨withAudio, trim, h₄, -, htrim⟩ := Checked.ap_valid h₅
  obtain ⟨withMask, audio, h₃, -, haudio⟩ := Checked.ap_valid h₄
  obtain ⟨withPath, mask, h₂, -, hmask⟩ := Checked.ap_valid h₃
  obtain ⟨withFormat, path, h₁, -, hpath⟩ := Checked.ap_valid h₂
  obtain ⟨found, hfound, hformat⟩ := Checked.map_valid h₁
  have hword : found = format := by
    cases format <;> cases hfound <;> rfl
  rw [check_valid hcheck, hinfo, hsoft, htrim, haudio, hmask, hpath, hformat, hword]

theorem ofSource_format (format : ForegroundFormat) (path : Json) (context : ContextId) :
    (ofSource format path context).Answers fun clip => clip.format = format :=
  .bind fun _ => .ofExcept fun _ => read_format

theorem ofBundle_format (path soft : Json) (context : ContextId) :
    (ofBundle path soft context).Answers fun clip => clip.format = .bundle := by
  have hfiles (picture mask audio soft : Json) :
      (ofFiles picture mask audio soft context).Answers fun clip => clip.format = .bundle :=
    .bind fun _ => .ofExcept fun _ => read_format
  exact .bind fun _ => .bind fun _ => .bind fun _ => .bind fun _ => .bind fun _ => .bind fun _ =>
    .bind fun _ => .bind fun _ => .bind fun _ => hfiles _ _ _ _

/-- A clip that is opened has the format that its extension stands for. -/
theorem ofLocator_format (path : String) (context : Option ContextId) :
    (ofLocator path context).Answers fun clip => ∃ ext, Locator.extension path = .ok ext ∧
      ForegroundFormat.ofExtension? ext = some clip.format := by
  refine .bind fun context => ?_
  intro w clip h
  obtain ⟨ext, hext, h⟩ := Act.ofExcept_bind_ok h
  refine ⟨ext, hext, ?_⟩
  cases hformat : ForegroundFormat.ofExtension? ext with
  | none =>
    rw [hformat] at h
    cases h
  | some format =>
    rw [hformat] at h
    have hclip : clip.format = format := by
      cases format with
      | bundle => exact ofBundle_format _ _ _ _ _ h
      | webm | prores | stacked => exact ofSource_format _ _ _ _ _ h
    rw [hclip]

end Foreground

/-! ## Storing a result -/

theorem World.contexts_hidesTools : HidesTools World.contexts :=
  ⟨⟨fun _ _ => rfl, fun _ _ => rfl, fun _ _ _ => rfl⟩, fun _ _ _ => rfl, fun _ _ => rfl⟩

/-- A download answers the path that was chosen for it. -/
theorem Download.toFile_path {url path : String} {makePath : Json → Act String}
    {default timeout : Json} {guess : String → Option String} {w w' : World}
    (h : toFile url makePath default timeout guess w = (.ok path, w')) :
    ∃ ext w₁ w₂, makePath ext w₁ = (.ok path, w₂) ∧ w'.contexts = w₂.contexts := by
  obtain ⟨_, w₁, -, h⟩ := Act.bind_eq_ok h
  obtain ⟨response, w₂, -, h⟩ := Act.bind_eq_ok h
  obtain ⟨ext, w₃, -, h⟩ := Act.bind_eq_ok h
  obtain ⟨chosen, w₄, hchosen, h⟩ := Act.bind_eq_ok h
  obtain ⟨_, w₅, hstore, h⟩ := Act.bind_eq_ok h
  cases h
  refine ⟨ext, w₃, w₄, hchosen, ?_⟩
  have hkeeps : (store url path response w₄).2.contexts = w₄.contexts :=
    Act.Keeps.store World.contexts_hidesTools.toHidesFiles url path response w₄
  rwa [hstore] at hkeeps

namespace Removal

variable {context : ContextId}

theorem stored_head (number : Nat) (ext : String) :
    ("processed_" ++ ("n" ++ toString number) ++ ext).toList.head? = some 'p' := by
  simp only [String.toList_append]
  rfl

/-- The file of a result stands in the directory of its context. -/
theorem tempPath_at {ext path : String} {w w' : World}
    (h : Context.tempPath context ext "processed_" w = (.ok path, w')) :
    ∃ c, w.contexts[context.index]? = some c ∧ ∃ number : Nat,
      path = Path.join (Path.normal c.directory)
        ("processed_" ++ ("n" ++ toString number) ++ ext) := by
  obtain ⟨c, w₁, hc, hfresh⟩ := Act.bind_eq_ok h
  obtain ⟨number, hpath⟩ := Act.freshFile_path (congrArg Prod.fst hfresh)
  cases hfound : w.contexts[context.index]? with
  | none =>
    rw [Context.ofId_missing hfound] at hc
    cases hc
  | some found =>
    rw [Context.ofId_apply hfound] at hc
    cases hc
    exact ⟨c, rfl, number,
      hpath.trans (Path.joinFrom_of_head (stored_head number ext) (by decide))⟩

theorem tempPath_path {ext path : String} {w w' : World}
    (h : Context.tempPath context ext "processed_" w = (.ok path, w')) :
    ∃ c ∈ w'.contexts, ∃ number : Nat, path = Path.join (Path.normal c.directory)
      ("processed_" ++ ("n" ++ toString number) ++ ext) := by
  have hkeeps : (Context.tempPath context ext "processed_" w).2.contexts = w.contexts :=
    Act.Keeps.tempPath World.contexts_hidesTools.toHidesFiles context ext "processed_" w
  rw [h] at hkeeps
  obtain ⟨c, hc, hpath⟩ := tempPath_at h
  exact ⟨c, hkeeps ▸ List.mem_of_getElem? hc, hpath⟩

theorem isExtension_of_mem : ∀ ext ∈ resultExtensions, Path.IsExtension ext ∧
    Text.lower ext = ext := by
  intro e he
  simp only [resultExtensions, List.mem_cons, List.not_mem_nil, or_false] at he
  rcases he with rfl | rfl | rfl | rfl
  · exact ⟨⟨by unfold Path.IsPlain; decide, 'm', ['p', '4'], by decide, by decide⟩, by decide⟩
  · exact ⟨⟨by unfold Path.IsPlain; decide, 'm', ['o', 'v'], by decide, by decide⟩, by decide⟩
  · exact ⟨⟨by unfold Path.IsPlain; decide, 'w', ['e', 'b', 'm'], by decide, by decide⟩,
      by decide⟩
  · exact ⟨⟨by unfold Path.IsPlain; decide, 'z', ['i', 'p'], by decide, by decide⟩, by decide⟩

theorem resultExtension_mem {url ext : String} (h : resultExtension url = .ok ext) :
    ext ∈ resultExtensions := by
  obtain ⟨found, -, h⟩ := bind_eq_ok.mp h
  cases h
  split
  · exact List.contains_iff_mem.mp ‹_›
  · exact List.mem_cons_self

/-- The extensions under which results are stored. -/
theorem resultExtension_isExtension {url ext : String} (h : resultExtension url = .ok ext) :
    Path.IsExtension ext ∧ Text.lower ext = ext := isExtension_of_mem ext (resultExtension_mem h)

/-- A stored result has the extension under which it was stored. -/
theorem stored_extension {directory ext found : String} {number : Nat}
    (hdirectory : Path.isAbsolute directory = true) (hext : Path.IsExtension ext)
    (hlower : Text.lower ext = ext)
    (h : Locator.extension (Path.join directory ("processed_" ++ ("n" ++ toString number) ++ ext)) =
      .ok found) : found = ext := by
  have hplain : Path.IsPlain ("processed_" ++ ("n" ++ toString number) ++ ext) := by
    have hstart : Path.IsPlain "processed_" := by unfold Path.IsPlain; decide
    have hn : Path.IsPlain "n" := by unfold Path.IsPlain; decide
    exact (hstart.append (hn.append (Path.plain_toString number))).append hext.plain
  obtain ⟨hne, hdot, hrelative⟩ :=
    Path.relative_of_head (stored_head number ext) (by decide) (by decide)
  have hstem : "processed_" ++ ("n" ++ toString number) ≠ "" := by
    have hstart := stored_head number ""
    rw [String.append_empty] at hstart
    exact (Path.relative_of_head hstart (by decide) (by decide)).1
  have hname : Path.name (Path.join directory
      ("processed_" ++ ("n" ++ toString number) ++ ext)) =
      "processed_" ++ ("n" ++ toString number) ++ ext :=
    Path.name_join hplain hne hdot hrelative
  obtain ⟨rest, hfirst⟩ := Path.head_of_isAbsolute hdirectory
  obtain ⟨rest', hpath⟩ := Path.head_join hfirst hrelative
  rw [Locator.extension_of_path hpath h, Path.suffix_of_name hname hstem hext, hlower]

/-- A result is opened by its extension, and as a stacked video if that tells nothing. -/
theorem stored_format {url stored : String} {format : ForegroundFormat}
    (h : resultExtension url = .ok stored)
    (hformat : ForegroundFormat.ofExtension? stored = some format) :
    ∃ ext, Locator.extension url = .ok ext ∧
      format = (ForegroundFormat.ofExtension? ext).getD .stacked := by
  obtain ⟨ext, hext, h⟩ := bind_eq_ok.mp h
  refine ⟨ext, hext, ?_⟩
  cases h
  split at hformat
  · rw [hformat, Option.getD_some]
  · rename_i hunknown
    obtain rfl : format = .stacked := (Option.some.inj hformat).symm
    have hne {known : String} (hknown : known ∈ resultExtensions) : ¬ (ext == known) = true := by
      rw [beq_iff_eq]
      rintro rfl
      exact hunknown (List.contains_iff_mem.mpr hknown)
    unfold ForegroundFormat.ofExtension?
    rw [if_neg (hne (by decide)), if_neg (hne (by decide)), if_neg (hne (by decide))]
    split <;> rfl

/-- An import opens the file in which the result was stored, and asks for no format. -/
theorem importResult_opens {status : JobStatus} {w w' : World} {clip : Foreground}
    (h : importResult status context w = (.ok clip, w')) :
    ∃ address stored path w₁, status.video = some address ∧
      resultExtension address.text = .ok stored ∧
      (∃ c ∈ w'.contexts, ∃ number : Nat, path = Path.join (Path.normal c.directory)
        ("processed_" ++ ("n" ++ toString number) ++ stored)) ∧
      Foreground.ofLocator path (some context) w₁ = (.ok clip, w') ∧ World.Asked w w' [] := by
  unfold importResult at h
  cases hvideo : status.video with
  | none =>
    rw [hvideo] at h
    cases h
  | some address =>
    rw [hvideo] at h
    obtain ⟨stored, w₁, hstored, h⟩ := Act.bind_eq_ok h
    obtain ⟨path, w₂, htoFile, hopen⟩ := Act.bind_eq_ok h
    have hext := Act.ofExcept_ok hstored
    obtain ⟨_, w₃, w₄, htemp, hcontexts⟩ := Download.toFile_path htoFile
    have hspaced := tempPath_spaced (resultExtension_plain hext) (congrArg Prod.fst htemp)
    have hkeeps := Act.Keeps.ofLocator World.contexts_hidesTools hspaced context w₂
    rw [hopen] at hkeeps
    obtain ⟨c, hc, number, hpath⟩ := tempPath_path htemp
    refine ⟨address, stored, path, w₂, rfl, hext, ⟨c, hkeeps ▸ hcontexts ▸ hc, number, hpath⟩,
      hopen, ?_⟩
    have hfirst := (Act.AsksNoFormat.ofExcept (resultExtension address.text)).of_run hstored
    have hfetch := (Act.AsksNoFormat.toFile address.text
      (fun _ => Context.silent_tempPath context stored "processed_")
      ".bin" (.int 300)).of_run htoFile
    have hlast := (Act.AsksNoFormat.silent
      (.ofLocator World.traffic_hidesTools hspaced context)).of_run hopen
    exact hfirst.trans (hfetch.trans hlast)

/-- An imported clip has the format of its address. -/
theorem importResult_format {status : JobStatus} {w w' : World} {clip : Foreground}
    (h : importResult status context w = (.ok clip, w'))
    (hplaced : ∀ c ∈ w'.contexts, Path.isAbsolute (Path.normal c.directory) = true) :
    ∃ address ext, status.video = some address ∧ Locator.extension address.text = .ok ext ∧
      clip.format = (ForegroundFormat.ofExtension? ext).getD .stacked := by
  obtain ⟨address, stored, path, w₁, hvideo, hstored, ⟨c, hc, number, rfl⟩, hopen, -⟩ :=
    importResult_opens h
  obtain ⟨hextension, hlower⟩ := resultExtension_isExtension hstored
  obtain ⟨found, hfound, hformat⟩ :=
    Foreground.ofLocator_format _ _ w₁ clip (congrArg Prod.fst hopen)
  obtain rfl := stored_extension (hplaced c hc) hextension hlower hfound
  obtain ⟨ext, haddress, hclip⟩ := stored_format hstored hformat
  exact ⟨address, ext, hvideo, haddress, hclip⟩

end Removal

end Compositor
