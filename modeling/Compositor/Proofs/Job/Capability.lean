import Compositor.Job.Removal
import Compositor.Proofs.World.Listing

/-!
# What the tool is taken to be able to do

A decoder, an encoder or a pixel format is taken for available when its name occurs in the
text that the media tool prints. An entry of that name is always noticed, but a longer name, or
a word of a description, is taken for one as well.
-/
namespace Compositor

/-! ## Questions to the tool -/

namespace World

theorem answer_eq (w : World) {command : List Argument} (hnull : Act.hasNull command = false)
    (last : String) : w.answer command last =
      ((takeRun last w.runs).map Prod.fst).getD (w.platform.unforeseen command) := by
  rw [answer, hnull, if_neg Bool.false_ne_true]
  cases takeRun last w.runs <;> rfl

theorem answer_null (w : World) {command : List Argument} (hnull : Act.hasNull command = true)
    (last : String) : w.answer command last = .refused .nullCharacter := by
  rw [answer, hnull, if_pos rfl]

/-- What a tool is going to answer to a question for one of its lists. -/
def toolAnswer (w : World) (tool : Argument) (flag : String) : RunReply :=
  w.answer [tool, "-hide_banner", flag] flag

/-- The world `w'` is `w` but for the answer to one question, which has been given. -/
structure Answered (flag : String) (w w' : World) : Prop where
  contexts : w'.contexts = w.contexts
  others : ∀ tool other, other ≠ flag → w'.toolAnswer tool other = w.toolAnswer tool other

end World

theorem Act.runCommand_answered (tool : Argument) (flag : String) (timeout : Nat) (w : World) :
    ∃ w', runCommand [tool, "-hide_banner", flag] timeout w = (.ok (w.toolAnswer tool flag), w') ∧
      World.Answered flag w w' := by
  cases hnull : hasNull [tool, "-hide_banner", .str flag] with
  | true =>
    rw [World.toolAnswer, World.answer_null w hnull]
    exact ⟨w, runCommand_null hnull timeout w, rfl, fun _ _ _ => rfl⟩
  | false =>
    obtain ⟨runs, hrun, hothers⟩ := runCommand_apply hnull rfl timeout w
    refine ⟨_, hrun, rfl, fun tool' other hne => ?_⟩
    rw [World.toolAnswer, World.toolAnswer]
    cases hother : hasNull [tool', "-hide_banner", .str other] with
    | true => rw [World.answer_null _ hother, World.answer_null _ hother]
    | false =>
      rw [World.answer_eq _ hother, World.answer_eq _ hother]
      exact congrArg (Option.getD · _) (hothers other hne)

/-- Messages are not answers. -/
theorem World.Answered.log {flag : String} {w w' : World} (h : Answered flag w w')
    (level : LogLevel) (text : String) : ∃ w'', Act.log level text w' = (.ok (), w'') ∧
      Answered flag w w'' :=
  ⟨_, Act.log_apply level text w', h.contexts, h.others⟩

namespace Removal

variable {w : World} {id : ContextId} {c : Context}

/-- A question is answered by the text of the listing, and other questions are still open. -/
theorem toolLists_apply (hc : w.contexts[id.index]? = some c) (flag name : String) :
    ∃ w', toolLists id flag name w =
        (.ok (Context.listed name (w.toolAnswer c.ffmpeg flag)), w') ∧ w.Answered flag w' := by
  obtain ⟨w', hrun, hanswered⟩ := Act.runCommand_answered c.ffmpeg flag 10 w
  have hwarn : ∀ text : String, ∃ w'', (Act.warning text >>= fun _ => (pure false : Act Bool)) w' =
      (.ok false, w'') ∧ w.Answered flag w'' := by
    intro text
    obtain ⟨w'', hlog, hstill⟩ := hanswered.log .warning text
    refine ⟨w'', ?_, hstill⟩
    rw [Act.bind_apply, Act.warning, hlog]
    rfl
  rw [toolLists, Act.bind_apply, Context.ofId_apply hc]
  dsimp only
  rw [Act.bind_apply, hrun]
  cases w.toolAnswer c.ffmpeg flag with
  | finished code stdout stderr => exact ⟨w', rfl, hanswered⟩
  | refused e => exact hwarn _
  | timedOut text => exact hwarn _

/-- The tool writes alpha if both listings have the names somewhere. -/
theorem toolWritesAlpha_apply (hc : w.contexts[id.index]? = some c) :
    ∃ answer w', toolWritesAlpha id w = (.ok answer, w') ∧
      (answer = true ↔ (w.toolAnswer c.ffmpeg "-encoders").Finds Context.alphaDecoder ∧
        (w.toolAnswer c.ffmpeg "-pix_fmts").Finds "yuva420p") := by
  obtain ⟨w', hencoders, hanswered⟩ :=
    toolLists_apply hc "-encoders" Context.alphaDecoder
  rw [toolWritesAlpha, Act.bind_apply, hencoders]
  dsimp only
  by_cases hfound : Context.listed Context.alphaDecoder (w.toolAnswer c.ffmpeg "-encoders") = true
  · obtain ⟨w'', hformats, -⟩ := toolLists_apply (hanswered.contexts ▸ hc) "-pix_fmts" "yuva420p"
    rw [if_pos hfound]
    refine ⟨_, w'', hformats, ?_⟩
    rw [hanswered.others _ _ (by decide), RunReply.listed_iff, iff_and_self]
    exact fun _ => RunReply.listed_iff.mp hfound
  · rw [if_neg hfound]
    refine ⟨false, w', rfl, ?_⟩
    simp [← RunReply.listed_iff, hfound]

/-- Without a preference, the format depends on what the tool can write. -/
theorem chooseFormat_apply (hc : w.contexts[id.index]? = some c) {options : RemovalOptions}
    (hauto : options.prefer = .auto) :
    ∃ answer w', chooseFormat id options w =
        (.ok (if answer then .webmVp9 else .stackedVideo), w') ∧
      (answer = true ↔ (w.toolAnswer c.ffmpeg "-encoders").Finds Context.alphaDecoder ∧
        (w.toolAnswer c.ffmpeg "-pix_fmts").Finds "yuva420p") := by
  obtain ⟨answer, w', hwrites, hanswer⟩ := toolWritesAlpha_apply hc
  rw [chooseFormat, hauto]
  dsimp only [Preference.format?]
  rw [Act.bind_apply, hwrites]
  dsimp only
  have hnote : ∀ (format : TransparentFormat) (text : String), ∃ w'',
      (Act.debug text >>= fun _ => (pure format : Act TransparentFormat)) w' =
        (.ok format, w'') := fun format text =>
    ⟨_, by rw [Act.bind_apply, Act.debug, Act.log_apply]; rfl⟩
  cases answer with
  | true =>
    obtain ⟨w'', hchosen⟩ := hnote .webmVp9 "WebM VP9 alpha support detected"
    exact ⟨true, w'', hchosen, hanswer⟩
  | false =>
    obtain ⟨w'', hchosen⟩ := hnote .stackedVideo "Falling back to stacked video"
    exact ⟨false, w'', hchosen, hanswer⟩

end Removal

/-! ## What the answers rest on -/

/-- A decoder that was not asked for before, and the two things that a stream with alpha needs,
are taken for available exactly if their names occur in the text of a listing. So an entry is
never missed; and if a name stands nowhere but in its column, there is such an entry. -/
theorem Context.capabilities_searched {w : World} {id : ContextId} {c : Context}
    (hc : w.contexts[id.index]? = some c) :
    let decoders := w.toolAnswer c.ffmpeg "-decoders"
    let encoders := w.toolAnswer c.ffmpeg "-encoders"
    let formats := w.toolAnswer c.ffmpeg "-pix_fmts"
    (∀ name, (c.decoders.find? fun d => d.1 == name) = none →
      ∃ answer w', hasDecoder id name w = (.ok answer, w') ∧
        (answer = true ↔ decoders.Finds name) ∧ (decoders.Lists name → answer = true) ∧
        (Listing.IsWord name → decoders.Unmistakable name → answer = true →
          decoders.Lists name)) ∧
    ∀ options : RemovalOptions, options.prefer = .auto →
      ∃ format w', Removal.chooseFormat id options w = (.ok format, w') ∧
        (format = .webmVp9 ∨ format = .stackedVideo) ∧
        (format = .webmVp9 ↔ encoders.Finds alphaDecoder ∧ formats.Finds "yuva420p") ∧
        (encoders.Lists alphaDecoder ∧ formats.Lists "yuva420p" → format = .webmVp9) ∧
        (encoders.Unmistakable alphaDecoder → formats.Unmistakable "yuva420p" →
          format = .webmVp9 → encoders.Lists alphaDecoder ∧ formats.Lists "yuva420p") := by
  intro decoders encoders formats
  refine ⟨fun name hnew => ?_, fun options hauto => ?_⟩
  · obtain ⟨runs, news, -, hasks⟩ := hasDecoder_unknown hc hnew
    have hfinds : listed name decoders = true ↔ decoders.Finds name := RunReply.listed_iff
    refine ⟨listed name decoders, _, hasks, hfinds, fun h => hfinds.mpr h.finds, ?_⟩
    exact fun hname hplain hfound => (hplain.finds_iff hname).mp (hfinds.mp hfound)
  · obtain ⟨answer, w', hchosen, hanswer⟩ := Removal.chooseFormat_apply hc hauto
    have hformat : (if answer then TransparentFormat.webmVp9 else .stackedVideo) = .webmVp9 ↔
        answer = true := by cases answer <;> simp
    refine ⟨_, w', hchosen, by cases answer <;> simp, hformat.trans hanswer, fun h => ?_, ?_⟩
    · exact hformat.mpr (hanswer.mpr ⟨h.1.finds, h.2.finds⟩)
    · intro hencoders hformats hfound
      obtain ⟨hencoder, hpixels⟩ := hanswer.mp (hformat.mp hfound)
      exact ⟨(hencoders.finds_iff (by decide +kernel)).mp hencoder,
        (hformats.finds_iff (by decide +kernel)).mp hpixels⟩

/-- A world with one context, whose tool has a VP9 codec and lists some pixel formats. -/
def World.offering (formats : String) : World :=
  { World.initial with
    contexts := [⟨"ffmpeg", "ffprobe", "/tmp/one", []⟩]
    runs := [("-decoders", [.finished 0 " V....D libvpx-vp9  libvpx VP9 (codec vp9)" ""]),
      ("-encoders", [.finished 0 " V....D libvpx-vp9  libvpx VP9 (codec vp9)" ""]),
      ("-pix_fmts", [.finished 0 formats ""])] }

theorem Context.capabilities_searched_offered :
    let w := World.offering "IO... yuva420p"
    (hasDecoder ⟨0⟩ "libvpx-vp9" w).1 = .ok true ∧
      (Removal.chooseFormat ⟨0⟩ .default w).1 = .ok .webmVp9 := by
  intro w
  have hc : w.contexts[(⟨0⟩ : ContextId).index]? = some ⟨"ffmpeg", "ffprobe", "/tmp/one", []⟩ := rfl
  obtain ⟨hdecoders, hformats⟩ := capabilities_searched hc
  have hcodec : "libvpx-vp9" ∈ Listing.entries " V....D libvpx-vp9  libvpx VP9 (codec vp9)" := by
    decide +kernel
  have hpixels : "yuva420p" ∈ Listing.entries "IO... yuva420p" := by decide +kernel
  obtain ⟨answer, w', hasks, -, hlisted, -⟩ := hdecoders "libvpx-vp9" rfl
  obtain ⟨format, w'', hchosen, -, -, hoffered, -⟩ := hformats .default rfl
  rw [hasks, hchosen, hlisted ⟨_, rfl, hcodec⟩, hoffered ⟨⟨_, rfl, hcodec⟩, _, rfl, hpixels⟩]
  exact ⟨rfl, rfl⟩

/-- A word of a description passes for a decoder, and a longer name for a pixel format. -/
theorem Context.part_taken_for_name :
    let w := World.offering "IO... yuva420p10le"
    (hasDecoder ⟨0⟩ "vp9" w).1 = .ok true ∧
      ¬(w.toolAnswer "ffmpeg" "-decoders").Lists "vp9" ∧
      (Removal.chooseFormat ⟨0⟩ .default w).1 = .ok .webmVp9 ∧
      ¬(w.toolAnswer "ffmpeg" "-pix_fmts").Lists "yuva420p" := by
  intro w
  have hc : w.contexts[(⟨0⟩ : ContextId).index]? = some ⟨"ffmpeg", "ffprobe", "/tmp/one", []⟩ := rfl
  have hcodec : "vp9".toList <:+: " V....D libvpx-vp9  libvpx VP9 (codec vp9)".toList := by
    decide +kernel
  have hencoder : "libvpx-vp9".toList <:+: " V....D libvpx-vp9  libvpx VP9 (codec vp9)".toList := by
    decide +kernel
  have hpixels : "yuva420p".toList <:+: "IO... yuva420p10le".toList := by
    decide +kernel
  have hnocodec : "vp9" ∉ Listing.entries " V....D libvpx-vp9  libvpx VP9 (codec vp9)" := by
    decide +kernel
  have hnopixels : "yuva420p" ∉ Listing.entries "IO... yuva420p10le" := by decide +kernel
  have hnew : (([] : List (String × Bool)).find? fun d => d.1 == "vp9") = none := rfl
  have hauto : RemovalOptions.default.prefer = .auto := rfl
  obtain ⟨runs, news, -, hasks⟩ := hasDecoder_unknown hc hnew
  obtain ⟨answer, w', hchosen, hanswer⟩ := Removal.chooseFormat_apply hc hauto
  refine ⟨?_, ?_, ?_, ?_⟩
  · rw [hasks]
    exact congrArg Except.ok (RunReply.listed_iff.mpr ⟨_, rfl, hcodec⟩)
  · rintro ⟨listing, hlisting, hentry⟩
    cases hlisting
    exact hnocodec hentry
  · rw [hchosen, hanswer.mpr ⟨⟨_, rfl, hencoder⟩, _, rfl, hpixels⟩]
    rfl
  · rintro ⟨listing, hlisting, hentry⟩
    cases hlisting
    exact hnopixels hentry

end Compositor
