import Compositor.Proofs.Command.Repeating
import Compositor.Proofs.Export.Running

/-!
# Calls that ask about decoders

Decoders are asked for directly, while the inputs of a background, a graph or a command are
built, and in exports. Whatever calls are made on one context, and whatever its tool answers
each time, all of them together ask like one list of questions, so each decoder has one
answer and takes at most one process.
-/
namespace Compositor

open Compositor.Composition

/-! ## Exports -/

namespace Act

theorem keeps_emit {e : Event} (h : e.listsDecoders = false) : (emit e).Keeps World.inquiries := by
  refine .change fun w => ?_
  have hquiet : Event.listings [e] = [] := List.filter_cons_of_neg (by simp [h])
  rw [World.inquiries, Event.listings_append, hquiet, List.append_nil]
  rfl

theorem keeps_spawn (launch : Launch) (command : List String) (output errors : Redirect) :
    (spawn launch command output errors).Keeps World.inquiries := by
  refine .bind .look fun w => .bind (keeps_emit rfl) fun _ => ?_
  split
  · exact .pure _
  · exact .bind (.change fun _ => rfl) fun _ => .pure _

end Act

namespace Composition

variable {id : ContextId}

theorem keeps_report (wanted : Bool) (status : String) :
    (report wanted status).Keeps World.inquiries :=
  .ite (Act.keeps_emit rfl) (.pure _)

theorem keeps_info (text : String) : (Act.info text).Keeps World.inquiries :=
  .log World.inquiries_hidesTransfers.toHidesFiles _ _

theorem keeps_runTool (launch : Launch) (command : List String) (progress verbose : Bool) :
    (runTool launch command progress verbose).Keeps World.inquiries := by
  refine .bind (keeps_info _) fun _ => .bind (keeps_report _ _) fun _ =>
    .bind (Act.keeps_spawn _ _ _ _) fun reply => ?_
  split
  · exact .fail _
  · exact .ofExcept _

theorem keeps_finish (progress : Bool) : (finish progress).Keeps World.inquiries :=
  .bind (keeps_report _ _) fun _ => keeps_info _

theorem inquires_during {α : Type} {act : ManifestId → Act α}
    (hact : ∀ manifest, (act manifest).Inquires id) : (Manifest.during id act).Inquires id := by
  have hcreate : (Manifest.create id).Keeps World.inquiries := by
    refine .bind (.bind .look fun w => ?_) fun _ => .bind .look fun _ =>
      .bind (.change fun _ => rfl) fun _ => .pure _
    split
    · exact .pure _
    · exact .fail _
  exact .bind (.keeps hcreate) fun manifest => .andFinally (hact manifest)
    (.keeps (.manifestRelease World.inquiries_hidesTransfers manifest))

theorem inquires_toFileBy (launch : Launch) (c : Composition) (outPath : Argument)
    (encoder : EncoderProfile) (progress verbose : Bool) :
    (toFileBy launch c outPath encoder progress verbose).Inquires c.context := by
  have hprepare (manifest : ManifestId) :
      (c.prepare outPath encoder manifest).Inquires c.context :=
    .bind (c.inquires_command _ _ _ _) fun _ => .ofExcept _
  cases launch with
  | blocking =>
    rw [toFileBy, toFile_eq]
    exact inquires_during fun manifest => .bind (hprepare manifest) fun _ =>
      .bind (.keeps (keeps_runTool _ _ _ _)) fun _ => .keeps (keeps_finish _)
  | asynchronous =>
    rw [toFileBy, toFileAsync_eq]
    exact .bind (inquires_during fun manifest => .bind (hprepare manifest) fun _ =>
      .keeps (keeps_runTool _ _ _ _)) fun _ => .keeps (keeps_finish _)

/-- A reader of a pipe may ask the context as well. -/
theorem inquires_toPipe {α : Type} (c : Composition) (format : Json)
    (encoder : Option EncoderProfile) (progress : Bool) {reader : PipeReader α}
    (hreader : ∀ text, (reader text).Inquires c.context) :
    (c.toPipe format encoder progress reader).Inquires c.context := by
  refine .bind (c.inquires_command _ _ _ _) fun _ => .bind (.keeps (Act.keeps_emit rfl)) fun _ =>
    .bind (.ofExcept _) fun _ => .bind (.keeps (keeps_info _)) fun _ =>
      .bind (.keeps (Act.keeps_spawn _ _ _ _)) fun reply => ?_
  split
  · exact .fail _
  · exact .bind (.keeps (keeps_report _ _)) fun _ => .andFinally (hreader _)
      (.bind (.keeps (Act.keeps_emit rfl)) fun _ => .keeps (Act.keeps_emit rfl))

end Composition

/-! ## Calls on one context -/

/-- A call that may ask a context about decoders. The compositions are those of the context. -/
inductive Call (id : ContextId) where
  | hasDecoder (name : String)
  | keepsVp9Alpha
  | inputArgs (b : Background) (width height fps : Json) (manifest : Option ManifestId)
  | graph (c : Composition) (h : c.context = id) (encoder : EncoderProfile)
  | command (c : Composition) (h : c.context = id) (outPath : Argument) (encoder : EncoderProfile)
      (format : Json) (manifest : Option ManifestId)
  | preview (c : Composition) (h : c.context = id)
  | toFile (c : Composition) (h : c.context = id) (launch : Launch) (outPath : Argument)
      (encoder : EncoderProfile) (progress verbose : Bool)
  | toPipe (c : Composition) (h : c.context = id) (format : Json)
      (encoder : Option EncoderProfile) (progress : Bool) (reader : PipeReader Unit)
      (hreader : ∀ text, (reader text).Inquires id)

namespace Call

variable {id : ContextId}

/-- Makes a call, and answers what the caller is told about a decoder. -/
def act : Call id → Act (Option (String × Bool))
  | .hasDecoder name => do return some (name, ← Context.hasDecoder id name)
  | .keepsVp9Alpha => do return some (Context.alphaDecoder, ← Context.keepsVp9Alpha id)
  | .inputArgs b width height fps manifest => do
    let _ ← b.inputArgs width height fps id manifest
    return none
  | .graph c _ encoder => do
    let _ ← c.graph encoder
    return none
  | .command c _ outPath encoder format manifest => do
    let _ ← c.command outPath encoder format manifest
    return none
  | .preview c _ => do
    let _ ← c.preview
    return none
  | .toFile c _ launch outPath encoder progress verbose => do
    toFileBy launch c outPath encoder progress verbose
    return none
  | .toPipe c _ format encoder progress reader _ => do
    c.toPipe format encoder progress reader
    return none

/-- What the caller is told about a decoder, if the call is about one and succeeds. -/
def heard (call : Call id) (w : World) : List (String × Bool) :=
  match (call.act w).1 with
  | .ok (some said) => [said]
  | _ => []

/-- The world after calls, one after the other, whether they fail or not. -/
def after : List (Call id) → World → World
  | [], w => w
  | call :: calls, w => after calls (call.act w).2

/-- What the callers are told about decoders, in this order. -/
def answers : List (Call id) → World → List (String × Bool)
  | [], _ => []
  | call :: calls, w => call.heard w ++ answers calls (call.act w).2

/-- A call that tells nothing about decoders may still ask. -/
theorem asks_silently {α : Type} {x : Act α} (hx : x.Inquires id)
    {silent : Act (Option (String × Bool))} (hsilent : silent = x >>= fun _ => pure none)
    (w : World) : ∃ asked, World.Inquired id w asked (silent w).2 ∧
      ∀ said, (silent w).1 ≠ .ok (some said) := by
  subst hsilent
  obtain ⟨asked, hasked⟩ := hx.bind (fun _ => .pure none) w
  refine ⟨asked, hasked, fun said h => ?_⟩
  obtain ⟨a, w', -, h⟩ := Act.bind_ok h
  cases h

theorem asks_directly (name : String) (w : World) :
    ∃ asked : List Question,
      World.Inquired id w asked ((Call.hasDecoder name : Call id).act w).2 ∧
        ((Call.hasDecoder name : Call id).heard w).Sublist (asked.map Question.said) := by
  rw [heard, act, Act.bind_apply]
  rcases Act.Inquires.hasDecoder_asks id name w with ⟨b, w', hrun, started, hasked⟩ | ⟨e, hrun⟩
  · rw [hrun]
    exact ⟨_, hasked, List.Sublist.refl _⟩
  · rw [hrun]
    exact ⟨[], .rest w, List.Sublist.refl _⟩

/-- Every call asks a list of questions, and what its caller is told is the answer to one. -/
theorem asks (call : Call id) (w : World) : ∃ asked : List Question,
    World.Inquired id w asked (call.act w).2 ∧
      (call.heard w).Sublist (asked.map Question.said) := by
  have hsilent {α : Type} {x : Act α} (hx : x.Inquires id)
      (hcall : call.act = x >>= fun _ => pure none) : ∃ asked : List Question,
      World.Inquired id w asked (call.act w).2 ∧
        (call.heard w).Sublist (asked.map Question.said) := by
    obtain ⟨asked, hasked, hheard⟩ := asks_silently hx hcall w
    refine ⟨asked, hasked, ?_⟩
    unfold heard
    split
    · exact absurd (by assumption) (hheard _)
    · exact List.nil_sublist _
  cases call with
  | hasDecoder name => exact asks_directly name w
  | keepsVp9Alpha => exact asks_directly Context.alphaDecoder w
  | inputArgs b width height fps manifest =>
    exact hsilent (b.inquires_inputArgs width height fps id manifest) rfl
  | graph c h encoder => exact hsilent (h ▸ c.inquires_graph encoder) rfl
  | command c h outPath encoder format manifest =>
    exact hsilent (h ▸ c.inquires_command outPath encoder format manifest) rfl
  | preview c h =>
    have hpreview : c.preview.Inquires c.context :=
      .bind (c.inquires_command _ _ _ _) fun _ => .pure _
    exact hsilent (h ▸ hpreview) rfl
  | toFile c h launch outPath encoder progress verbose =>
    exact hsilent (h ▸ inquires_toFileBy launch c outPath encoder progress verbose) rfl
  | toPipe c h format encoder progress reader hreader =>
    exact hsilent (h ▸ c.inquires_toPipe format encoder progress (h ▸ hreader)) rfl

/-- Calls ask a list of questions, and what the callers are told are answers to these. -/
theorem all_ask (calls : List (Call id)) (w : World) : ∃ asked : List Question,
    World.Inquired id w asked (after calls w) ∧
      (answers calls w).Sublist (asked.map Question.said) := by
  induction calls generalizing w with
  | nil => exact ⟨[], .rest w, List.Sublist.refl _⟩
  | cons call calls ih =>
    obtain ⟨asked, hasked, hheard⟩ := call.asks w
    obtain ⟨asked', hasked', hanswers⟩ := ih (call.act w).2
    refine ⟨asked ++ asked', hasked.trans hasked', ?_⟩
    rw [List.map_append]
    exact hheard.append hanswers

end Call

/-- Whatever a context keeps at first, whatever calls are made on it and whatever its tool
answers each time: all questions about decoders take at most one process for each decoder,
and none if the answer was kept at first. All answers about a decoder are the same. So a
command that was built without a manifest is built again as it was after any calls. -/
theorem Context.answers_settled (id : ContextId) (w : World) (calls : List (Call id)) :
    (∃ asked : List Question,
      World.Inquired id w asked (Call.after calls w) ∧
      (Call.answers calls w).Sublist (asked.map Question.said) ∧
      Event.listings (Call.after calls w).events =
        Event.listings w.events ++ asked.flatMap Question.started ∧
      (∀ name, (Question.startedFor name asked).length ≤ 1) ∧
      (∀ name b, w.kept? id name = some b → Question.startedFor name asked = []) ∧
      (∀ q ∈ asked, ∀ b, w.kept? id q.name = some b → q.answer = b) ∧
      ∀ q ∈ asked, ∀ q' ∈ asked, q.name = q'.name → q.answer = q'.answer) ∧
    ∀ (c : Composition) (outPath : Argument) (encoder : EncoderProfile) (format : Json)
      (line : List Argument), c.context = id →
      (c.command outPath encoder format none w).1 = .ok line →
      (c.command outPath encoder format none
        (Call.after calls (c.command outPath encoder format none w).2)).1 = .ok line := by
  constructor
  · obtain ⟨asked, hasked, hanswers⟩ := Call.all_ask calls w
    have hsettled := hasked.settled
    refine ⟨asked, hasked, hanswers, hsettled.listings, hsettled.once, hsettled.known, ?_, ?_⟩
    · intro q hq b hb
      exact Option.some.inj ((hsettled.answers q hq).symm.trans (hsettled.stays _ b hb))
    · intro q hq q' hq' hname
      have hanswer := hsettled.answers q hq
      rw [hname] at hanswer
      exact Option.some.inj (hanswer.symm.trans (hsettled.answers q' hq'))
  · rintro c outPath encoder format line rfl hline
    obtain ⟨asked, hasked, -⟩ := Call.all_ask calls (c.command outPath encoder format none w).2
    exact command_repeated hline hasked

end Compositor
