import Compositor.Proofs.Stream.Document
import Compositor.Proofs.World.Steps
import Compositor.Stream.Probe

/-!
# Which probes answer

A probe that gets no document answers a placeholder, and so does one whose document shows
no video. But the document is read as it comes: one that is not legible ends the probe in a
fault, as does a source that cannot be taken apart or be told to the tool.
-/
namespace Compositor

namespace RunReply

/-- The output of a command that succeeded, read as a document. -/
def reading? (room : Nat) : RunReply → Option (Except JsonError Json)
  | .finished code stdout _ => if code = 0 then some (Json.read stdout room) else none
  | _ => none

/-- The first video stream of the document in an answer. -/
def video? (room : Nat) (reply : RunReply) : Option Json :=
  match reply.reading? room with
  | some (.ok data) => ProbeDocument.video? data
  | _ => none

/-- Answers that are no document, or one that can be read. Integers that are too long and
documents that are nested too deep are refused while they are read, and a command with a NUL in
it has no answer. -/
@[irreducible] def Legible (room : Nat) (reply : RunReply) : Prop :=
  match reply.reading? room with
  | some (.ok data) => ProbeDocument.Legible data
  | some (.error e) => e ≠ .tooLong ∧ e ≠ .tooDeep
  | none => reply ≠ .refused .nullCharacter

end RunReply

namespace StreamInfo

variable {source : String} {type : SourceType} {info : StreamInfo} {room : Nat}

theorem placeholder_eq (h : placeholder source = .ok info) :
    info.source = source ∧ info.isComplete = false ∧ info.dimensions? = none ∧
      info.duration = none := by
  obtain ⟨type, -, hrest⟩ := bind_eq_ok.mp h
  obtain ⟨needsVp9, -, hinfo⟩ := bind_eq_ok.mp hrest
  cases hinfo
  exact ⟨rfl, rfl, rfl, rfl⟩

/-- A source that can be taken apart has a placeholder. -/
theorem placeholder_ok (ht : Locator.sourceType source = .ok type) :
    ∃ info, placeholder source = .ok info := by
  obtain ⟨parts, hparts, -⟩ := bind_eq_ok.mp ht
  have hext : ∃ ext, Locator.extension source = .ok ext := by
    rw [Locator.extension, hparts]
    exact ⟨_, rfl⟩
  obtain ⟨ext, hext⟩ := hext
  have hguess : ∃ b, guessVp9 source = .ok b := by
    rw [guessVp9, ht]
    cases type with
    | stream => exact ⟨_, rfl⟩
    | file | url =>
      rw [hext]
      exact ⟨_, rfl⟩
  obtain ⟨needsVp9, hguess⟩ := hguess
  rw [placeholder, ht, hguess]
  exact ⟨_, rfl⟩

/-- Giving up answers the placeholder. -/
theorem giveUp_eq (source reason : String) (w : World) :
    (giveUp source reason w).1 = placeholder source := by
  rw [giveUp, Act.bind_apply, Act.warning, Act.log_apply]
  dsimp only
  cases placeholder source <;> rfl

/-- The answer of the tool holds a document, or there is a reason to give up, or the answer is
not legible. -/
theorem documentIn_eq (room : Nat) (source : String) (reply : RunReply) :
    match reply.reading? room with
    | some (.ok data) => documentIn room source reply = .ok (.ok data)
    | _ => reply.Legible room ∧ (∃ reason, documentIn room source reply = .ok (.error reason)) ∨
      ¬ reply.Legible room ∧ ∃ fault, documentIn room source reply = .error fault := by
  cases reply with
  | finished code stdout stderr =>
    by_cases hcode : code = 0
    · cases hread : Json.read stdout room with
      | ok data => simp [RunReply.reading?, documentIn, hcode, hread]
      | error e => cases e <;> simp [RunReply.Legible, RunReply.reading?, documentIn, hcode, hread]
    · simp [RunReply.Legible, RunReply.reading?, documentIn, hcode]
  | refused e => cases e <;> simp [RunReply.Legible, RunReply.reading?, documentIn]
  | timedOut text => simp [RunReply.Legible, RunReply.reading?, documentIn]

/-- How a source is described by a document, or when there is none. -/
def described (source : String) : Except String Json → Except Fault StreamInfo
  | .error _ => placeholder source
  | .ok data => do
    match ← ofDocument? (.str source) data with
    | some info => .ok info
    | none => placeholder source

/-- What is made of an answer of the probing tool. -/
theorem ofReply_eq (room : Nat) (source : String) (reply : RunReply) (w : World) :
    (ofReply room source reply w).1 = documentIn room source reply >>= described source := by
  unfold ofReply
  match documentIn room source reply with
  | .error e => rfl
  | .ok (.error reason) => exact giveUp_eq _ _ w
  | .ok (.ok data) =>
    change ((Act.ofExcept (ofDocument? (.str source) data) >>= _ : Act StreamInfo) w).1 =
      (ofDocument? (.str source) data >>= _)
    rw [Act.bind_apply]
    match ofDocument? (.str source) data with
    | .error e => rfl
    | .ok none => exact giveUp_eq _ _ w
    | .ok (some info) =>
      change ((Act.debug info.summary >>= fun _ => (pure info : Act StreamInfo)) w).1 = .ok info
      rw [Act.bind_apply, Act.debug, Act.log_apply]
      rfl

theorem ofReply_ok_iff (ht : Locator.sourceType source = .ok type) (reply : RunReply) (w : World) :
    (∃ info, (ofReply room source reply w).1 = .ok info) ↔ reply.Legible room := by
  have hplaceholder := placeholder_ok ht
  have hdocument := documentIn_eq room source reply
  rw [ofReply_eq]
  match hreading : reply.reading? room with
  | some (.ok data) =>
    rw [hreading] at hdocument
    have hlegible : reply.Legible room ↔ ProbeDocument.Legible data := by
      rw [RunReply.Legible, hreading]
    rw [hdocument, hlegible, ← ofDocument?_ok_iff ht]
    change (∃ info, (ofDocument? (.str source) data >>= _) = .ok info) ↔ _
    refine (bind_ok_iff fun found _ => ?_).trans (and_iff_left trivial)
    cases found with
    | none => simpa using hplaceholder
    | some info => simp
  | none | some (.error e) =>
    rw [hreading] at hdocument
    rcases hdocument with ⟨hlegible, reason, hreason⟩ | ⟨hlegible, fault, hfault⟩
    · rw [hreason]
      exact iff_of_true hplaceholder hlegible
    · rw [hfault]
      exact iff_of_false (fun ⟨_, h⟩ => nomatch h) hlegible

/-- A probe describes its source, by the placeholder when no video was shown. -/
theorem ofReply_info (ht : Locator.sourceType source = .ok type) {reply : RunReply} {w : World}
    (h : (ofReply room source reply w).1 = .ok info) :
    info.source = source ∧ (reply.video? room = none → placeholder source = .ok info) := by
  have hdocument := documentIn_eq room source reply
  rw [ofReply_eq] at h
  unfold RunReply.video?
  match hreading : reply.reading? room with
  | some (.ok data) =>
    rw [hreading] at hdocument
    rw [hdocument] at h
    change described source (.ok data) = .ok info at h
    obtain ⟨found, hfound, hinfo⟩ := bind_eq_ok.mp h
    obtain ⟨hnone, hsource⟩ := ofDocument?_found ht hfound
    cases found with
    | none => exact ⟨(placeholder_eq hinfo).1, fun _ => hinfo⟩
    | some info' =>
      cases hinfo
      exact ⟨hsource info rfl, fun hvideo => nomatch hnone.mpr hvideo⟩
  | none | some (.error e) =>
    rw [hreading] at hdocument
    rcases hdocument with ⟨-, reason, hreason⟩ | ⟨-, fault, hfault⟩
    · rw [hreason] at h
      exact ⟨(placeholder_eq h).1, fun _ => h⟩
    · rw [hfault] at h
      cases h

/-- The tool is asked once, and its answer decides. -/
theorem probe_eq {w : World} {id : ContextId} {c : Context}
    (hc : w.contexts[id.index]? = some c) (ht : Locator.sourceType source = .ok type) :
    ∃ w', probe (.str source) id w = ofReply w.platform.room source
      (w.answer (probeCommand c.ffprobe source) source) w' := by
  have htype : Locator.typeOfValue (.str source) = .ok type := ht
  let command := probeCommand c.ffprobe source
  obtain ⟨w', hrun, hroom⟩ : ∃ w', Act.runCommand command (probeTimeout type) w =
      (.ok (w.answer command source), w') ∧ w'.platform = w.platform := by
    cases hnull : Act.hasNull command with
    | true =>
      rw [World.answer, hnull, if_pos rfl]
      exact ⟨w, Act.runCommand_null hnull (probeTimeout type) w, rfl⟩
    | false =>
      have hlast : command.getLast? = some (.str source) := rfl
      obtain ⟨runs, hrun, -⟩ := Act.runCommand_apply hnull hlast (probeTimeout type) w
      exact ⟨_, hrun, rfl⟩
  refine ⟨w', ?_⟩
  rw [probe, Act.bind_apply, Context.ofId_apply hc]
  dsimp only
  rw [Act.bind_apply, htype]
  change (Act.runCommand command (probeTimeout type) >>= _) w = _
  rw [Act.bind_apply, hrun]
  dsimp only
  rw [Act.getThe_bind, hroom]
  rfl

/-- A source that cannot be taken apart is not probed. -/
theorem probe_refused {w : World} {id : ContextId} {c : Context}
    (hc : w.contexts[id.index]? = some c) {e : Fault} (he : Locator.sourceType source = .error e) :
    (probe (.str source) id w).1 = .error e := by
  have htype : Locator.typeOfValue (.str source) = .error e := he
  rw [probe, Act.bind_apply, Context.ofId_apply hc]
  dsimp only
  rw [Act.bind_apply, htype]
  rfl

/-- A probe answers exactly if the source can be taken apart and the answer of the tool is
legible. What it answers describes the source, and it is the placeholder if the tool failed,
its output was no document, or the document shows no video. A source with a NUL in it has no
answer, and how deep documents may be nested is up to the system. -/
theorem probe_answers_iff {w : World} {id : ContextId} {c : Context} (source : String)
    (hc : w.contexts[id.index]? = some c) :
    let reply := w.answer (probeCommand c.ffprobe source) source
    ((∃ info, (probe source id w).1 = .ok info) ↔
      (∃ type, Locator.sourceType source = .ok type) ∧ reply.Legible w.platform.room) ∧
    ∀ info, (probe source id w).1 = .ok info → info.source = source ∧
      (reply.video? w.platform.room = none → placeholder source = .ok info ∧
        info.isComplete = false ∧ info.dimensions? = none ∧ info.duration = none) := by
  intro reply
  cases ht : Locator.sourceType source with
  | error e => simp [probe_refused hc ht]
  | ok type =>
    obtain ⟨w', hprobe⟩ := probe_eq hc ht
    rw [hprobe]
    refine ⟨(ofReply_ok_iff ht reply w').trans (iff_and_self.mpr fun _ => ⟨type, rfl⟩), ?_⟩
    intro info hinfo
    obtain ⟨hsource, hplaceholder⟩ := ofReply_info ht hinfo
    exact ⟨hsource, fun hvideo => ⟨hplaceholder hvideo, (placeholder_eq (hplaceholder hvideo)).2⟩⟩

/-- A world with one context, in which the probing tool gives one answer about a clip. -/
def answering (reply : RunReply) : World :=
  { World.initial with
    contexts := [⟨"ffmpeg", "ffprobe", "/tmp/one", []⟩]
    runs := [("a.mp4", [reply])] }

theorem probe_answers_failed :
    let w := answering (.finished 1 "" "Invalid data")
    w.contexts[0]? = some ⟨"ffmpeg", "ffprobe", "/tmp/one", []⟩ ∧
    ∃ info, (probe "a.mp4" ⟨0⟩ w).1 = .ok info ∧ info.source = "a.mp4" ∧
      info.isComplete = false ∧ info.dimensions? = none ∧ info.duration = none := by
  intro w
  have hc : w.contexts[(⟨0⟩ : ContextId).index]? = some ⟨"ffmpeg", "ffprobe", "/tmp/one", []⟩ := rfl
  obtain ⟨hanswers, hinfo⟩ := probe_answers_iff "a.mp4" hc
  have htype : (Locator.sourceType "a.mp4").toOption = some .file := by decide +kernel
  have hanswer : w.answer (probeCommand "ffprobe" "a.mp4") "a.mp4" =
      .finished 1 "" "Invalid data" := by
    have hnull : Act.hasNull (probeCommand "ffprobe" "a.mp4") = false := by decide +kernel
    rw [World.answer, hnull]
    rfl
  have hreading (room : Nat) :
      (w.answer (probeCommand "ffprobe" "a.mp4") "a.mp4").reading? room = none := by
    rw [hanswer]
    rfl
  have hlegible :
      (w.answer (probeCommand "ffprobe" "a.mp4") "a.mp4").Legible w.platform.room := by
    rw [RunReply.Legible, hreading, hanswer]
    exact RunReply.noConfusion
  obtain ⟨info, h⟩ := hanswers.mpr ⟨⟨.file, ok_of_toOption htype⟩, hlegible⟩
  obtain ⟨hsource, hplaceholder⟩ := hinfo info h
  exact ⟨hc, info, h, hsource, (hplaceholder (by rw [RunReply.video?, hreading])).2⟩

/-- A document that is a list ends the probe in a fault. -/
theorem probe_not_total : ¬ ∀ (w : World) (id : ContextId) (c : Context) (source : String),
    w.contexts[id.index]? = some c → ∃ info, (probe source id w).1 = .ok info := by
  intro hall
  obtain ⟨info, h⟩ := hall (answering (.finished 0 "[]" "")) ⟨0⟩ _ "a.mp4" rfl
  have hrun : (probe "a.mp4" ⟨0⟩ (answering (.finished 0 "[]" ""))).1.toOption.isNone = true := by
    decide +kernel
  rw [h] at hrun
  cases hrun

end StreamInfo

end Compositor
