import Compositor.Proofs.World.Consulting
import Compositor.Proofs.World.Keeping

/-!
# The answers about decoders

A context keeps each answer about a decoder. `w.Inquired id asked w'` says that between two
moments the contexts and the processes that list decoders change only by questions to one
context, and `asked` tells what these are, with the answer and the processes started for
each. From that it follows, whatever the tool answers, that there is at most one process for
each decoder, and that all answers about it are the same.
-/
namespace Compositor

variable {α β : Type}

namespace Event

/-- A tool was started to list its decoders. -/
def listsDecoders : Event → Bool
  | .run [_, .str "-hide_banner", .str "-decoders"] _ => true
  | _ => false

/-- The processes that list decoders. -/
def listings (events : List Event) : List Event := events.filter listsDecoders

@[simp] theorem listings_nil : listings [] = [] := rfl

@[simp] theorem listings_append (a b : List Event) : listings (a ++ b) = listings a ++ listings b :=
  List.filter_append ..

theorem listings_deeds (events : List Event) : listings (deeds events) = listings events := by
  rw [listings, deeds, List.filter_filter]
  refine List.filter_congr fun e _ => ?_
  cases e with
  | log => rfl
  | _ => exact Bool.and_true _

theorem listings_of_deeds {events : List Event} (h : deeds events = []) : listings events = [] := by
  rw [← listings_deeds, h, listings_nil]

theorem listings_listing (tool : Argument) : listings [Context.listing tool] =
    [Context.listing tool] := rfl

end Event

/-- A question about a decoder, with its answer and the processes that it took. -/
structure Question where
  name : String
  answer : Bool
  started : List Event

namespace Question

/-- What the caller gets to know. -/
def said (q : Question) : String × Bool := (q.name, q.answer)

/-- The processes that were started for a decoder. -/
def startedFor (name : String) (asked : List Question) : List Event :=
  (asked.filter fun q => q.name == name).flatMap started

theorem startedFor_cons_same (q : Question) (asked : List Question) :
    startedFor q.name (q :: asked) = q.started ++ startedFor q.name asked := by
  rw [startedFor, List.filter_cons_of_pos (by simp), List.flatMap_cons]
  rfl

theorem startedFor_cons_other {name : String} {q : Question} (h : q.name ≠ name)
    (asked : List Question) : startedFor name (q :: asked) = startedFor name asked := by
  rw [startedFor, List.filter_cons_of_neg (by simpa using h)]
  rfl

end Question

namespace World

/-- The answer about a decoder that a context keeps. -/
def kept? (w : World) (id : ContextId) (name : String) : Option Bool :=
  (w.contexts[id.index]?).bind fun c =>
    (c.decoders.find? fun d => d.1 == name).map fun d => d.2

/-- What a context is going to say about a decoder: the answer that it keeps, else the one
that its tool is going to give. -/
def verdict (w : World) (id : ContextId) (name : String) : Option Bool :=
  (w.tool? id).map fun tool =>
    (w.kept? id name).getD (Context.listed name (w.listingAnswer tool))

theorem tool?_of_context {w : World} {id : ContextId} {c : Context}
    (hc : w.contexts[id.index]? = some c) : w.tool? id = some c.ffmpeg := by
  rw [tool?, hc, Option.map_some]

theorem kept?_of_context {w : World} {id : ContextId} {c : Context}
    (hc : w.contexts[id.index]? = some c) (name : String) :
    w.kept? id name = (c.decoders.find? fun d => d.1 == name).map fun d => d.2 := by
  rw [kept?, hc, Option.bind_some]

/-- The contexts, and the processes that list decoders. -/
def inquiries (w : World) : List Context × List Event := (w.contexts, Event.listings w.events)

variable {id : ContextId} {w w' w'' : World}

theorem inquiries_hidesTransfers : HidesTransfers inquiries where
  files _ _ := rfl
  names _ _ := rfl
  message w level text := by
    rw [inquiries, Event.listings_append]
    exact congrArg _ (List.append_nil _)
  transfer w clock exchanges events h := by
    have hnone : Event.listings events = [] := List.filter_eq_nil_iff.mpr fun e he => by
      have hsent := h e he
      cases e with
      | request | hop => exact Bool.false_ne_true
      | _ => cases hsent
    rw [inquiries, Event.listings_append, hnone, List.append_nil]
    rfl
  manifests _ _ := rfl

theorem inquiries_eq (h : w'.inquiries = w.inquiries) :
    w'.contexts = w.contexts ∧ Event.listings w'.events = Event.listings w.events :=
  Prod.ext_iff.mp h

theorem kept?_of_inquiries (h : w'.inquiries = w.inquiries) (id : ContextId) (name : String) :
    w'.kept? id name = w.kept? id name := by
  rw [kept?, kept?, (inquiries_eq h).1]

theorem tool?_of_inquiries (h : w'.inquiries = w.inquiries) : w'.tool? id = w.tool? id := by
  rw [tool?, tool?, (inquiries_eq h).1]

/-- From one world to another one, contexts and processes that list decoders change only by
the questions to a context. -/
inductive Inquired (id : ContextId) : World → List Question → World → Prop
  | rest (w : World) : Inquired id w [] w
  | between {w w' w'' : World} {asked : List Question} (h : w'.inquiries = w.inquiries)
      (rest : Inquired id w' asked w'') : Inquired id w asked w''
  | ask {w w' w'' : World} {q : Question} {asked : List Question}
      (h : Context.hasDecoder id q.name w = (.ok q.answer, w'))
      (started : Event.listings w'.events = Event.listings w.events ++ q.started)
      (rest : Inquired id w' asked w'') : Inquired id w (q :: asked) w''

theorem Inquired.of_inquiries (h : w'.inquiries = w.inquiries) : Inquired id w [] w' :=
  .between h (.rest w')

theorem Inquired.trans {asked asked' : List Question} (h : Inquired id w asked w')
    (h' : Inquired id w' asked' w'') : Inquired id w (asked ++ asked') w'' := by
  induction h with
  | rest => exact h'
  | between hsame _ ih => exact .between hsame (ih h')
  | ask hask hstarted _ ih => exact .ask hask hstarted (ih h')

end World

/-! ## One question -/

/-- What one question does: its answer is kept from then on, a kept answer is given without
a process, and nothing else changes. -/
structure Question.Settles (id : ContextId) (w : World) (q : Question) (w' : World) : Prop where
  verdict : w.verdict id q.name = some q.answer
  kept : w'.kept? id q.name = some q.answer
  others : ∀ name, name ≠ q.name → w'.kept? id name = w.kept? id name
  known : ∀ b, w.kept? id q.name = some b → b = q.answer ∧ q.started = []
  once : q.started.length ≤ 1
  listings : Event.listings w'.events = Event.listings w.events ++ q.started
  tool : w'.tool? id = w.tool? id

namespace Context

variable {id : ContextId} {name : String} {w w' : World}

/-- Answers kept behind the others. -/
theorem kept?_append {c : Context} (hc : w.contexts[id.index]? = some c) {answer : Bool}
    (hnew : (c.decoders.find? fun d => d.1 == name) = none) {runs : List (String × List RunReply)}
    {events : List Event} (other : String) :
    World.kept? { w with
      runs
      events
      contexts := w.contexts.modify id.index fun c =>
        { c with decoders := c.decoders ++ [(name, answer)] } } id other =
      if other = name then some answer else w.kept? id other := by
  rw [World.kept?, World.kept?, List.getElem?_modify_eq, hc]
  simp only [Option.map_eq_map, Option.map_some, Option.bind_some, List.find?_append]
  by_cases hother : other = name
  · subst hother
    simp [hnew]
  · rw [if_neg hother]
    have hlast : ([(name, answer)].find? fun d => d.1 == other) = none := by
      simpa using fun heq => hother heq.symm
    rw [hlast, Option.or_none]

/-- A context answers every question, and then keeps the answer. -/
theorem hasDecoder_settles {c : Context} (hc : w.contexts[id.index]? = some c) (name : String) :
    ∃ (q : Question) (w' : World), q.name = name ∧ hasDecoder id name w = (.ok q.answer, w') ∧
      q.Settles id w w' := by
  cases hfound : c.decoders.find? fun d => d.1 == name with
  | some d =>
    have hkept : w.kept? id name = some d.2 := by
      rw [World.kept?_of_context hc, hfound, Option.map_some]
    refine ⟨⟨name, d.2, []⟩, w, rfl, hasDecoder_known hc hfound, ?_, hkept, fun _ _ => rfl, ?_,
      Nat.zero_le 1, (List.append_nil _).symm, rfl⟩
    · rw [World.verdict, World.tool?_of_context hc, hkept]
      rfl
    · intro b hb
      cases hkept.symm.trans hb
      exact ⟨rfl, rfl⟩
  | none =>
    obtain ⟨runs, news, hnews, hrun⟩ := hasDecoder_unknown hc hfound
    have hunkept : w.kept? id name = none := by
      rw [World.kept?_of_context hc, hfound, Option.map_none]
    refine ⟨⟨name, listed name (w.listingAnswer c.ffmpeg), [listing c.ffmpeg]⟩, _, rfl, hrun,
      ?_, ?_, ?_, ?_, Nat.le_refl 1, ?_, ?_⟩
    · rw [World.verdict, World.tool?_of_context hc, hunkept]
      rfl
    · rw [kept?_append hc hfound, if_pos rfl]
    · intro other hother
      rw [kept?_append hc hfound, if_neg hother]
    · intro b hb
      rw [hunkept] at hb
      cases hb
    · rw [Event.listings_append]
      refine congrArg _ ?_
      rw [← List.singleton_append, Event.listings_append, Event.listings_of_deeds hnews,
        List.append_nil, Event.listings_listing]
    · rw [World.tool?, World.tool?, List.getElem?_modify_eq, hc]
      rfl

theorem hasDecoder_missing (hc : w.contexts[id.index]? = none) (name : String) :
    hasDecoder id name w = (.error .noAttribute, w) := by
  rw [hasDecoder, Act.bind_apply, ofId_missing hc]

/-- Whatever question is answered, it is settled. -/
theorem settles_of_hasDecoder {q : Question} (h : hasDecoder id q.name w = (.ok q.answer, w'))
    (hstarted : Event.listings w'.events = Event.listings w.events ++ q.started) :
    q.Settles id w w' := by
  cases hc : w.contexts[id.index]? with
  | none =>
    rw [hasDecoder_missing hc] at h
    cases h
  | some c =>
    obtain ⟨q', w₁, hname, hrun, hsettles⟩ := hasDecoder_settles hc q.name
    obtain ⟨hanswer, rfl⟩ := Prod.ext_iff.mp (h.symm.trans hrun)
    have hsame : q.started = q'.started :=
      List.append_cancel_left (hstarted.symm.trans hsettles.listings)
    obtain ⟨name, answer, started⟩ := q
    obtain ⟨name', answer', started'⟩ := q'
    cases hname
    cases hsame
    cases Except.ok.inj hanswer
    exact hsettles

end Context

/-! ## All questions -/

/-- What questions do, all together. -/
structure World.Settled (id : ContextId) (w : World) (asked : List Question) (w' : World) :
    Prop where
  stays : ∀ name b, w.kept? id name = some b → w'.kept? id name = some b
  answers : ∀ q ∈ asked, w'.kept? id q.name = some q.answer
  once : ∀ name, (Question.startedFor name asked).length ≤ 1
  known : ∀ name b, w.kept? id name = some b → Question.startedFor name asked = []
  listings : Event.listings w'.events =
    Event.listings w.events ++ asked.flatMap Question.started
  tool : w'.tool? id = w.tool? id

/-- The first question settles its decoder for all the others. -/
theorem World.Settled.cons {id : ContextId} {w w' w'' : World} {q : Question}
    {asked : List Question} (hq : q.Settles id w w') (h : World.Settled id w' asked w'') :
    World.Settled id w (q :: asked) w'' where
  stays name b hb := by
    by_cases hname : name = q.name
    · subst hname
      rw [(hq.known b hb).1]
      exact h.stays _ _ hq.kept
    · exact h.stays _ _ ((hq.others _ hname).trans hb)
  answers q' hq' := by
    rcases List.mem_cons.mp hq' with rfl | hq'
    · exact h.stays _ _ hq.kept
    · exact h.answers q' hq'
  once name := by
    by_cases hname : q.name = name
    · subst hname
      rw [Question.startedFor_cons_same, h.known _ _ hq.kept, List.append_nil]
      exact hq.once
    · rw [Question.startedFor_cons_other hname]
      exact h.once name
  known name b hb := by
    by_cases hname : q.name = name
    · subst hname
      rw [Question.startedFor_cons_same, h.known _ _ hq.kept, (hq.known b hb).2, List.nil_append]
    · rw [Question.startedFor_cons_other hname]
      exact h.known _ b ((hq.others _ (Ne.symm hname)).trans hb)
  listings := by
    rw [h.listings, hq.listings, List.flatMap_cons, List.append_assoc]
  tool := h.tool.trans hq.tool

theorem World.Inquired.settled {id : ContextId} {w w' : World} {asked : List Question}
    (h : World.Inquired id w asked w') : World.Settled id w asked w' := by
  induction h with
  | rest w =>
    exact ⟨fun _ _ hb => hb, List.forall_mem_nil _, fun _ => Nat.zero_le 1, fun _ _ _ => rfl,
      (List.append_nil _).symm, rfl⟩
  | between hsame _ ih =>
    have hkept (name : String) := World.kept?_of_inquiries hsame id name
    refine ⟨fun name b hb => ih.stays name b ((hkept name).trans hb), ih.answers, ih.once,
      fun name b hb => ih.known name b ((hkept name).trans hb), ?_,
      ih.tool.trans (World.tool?_of_inquiries hsame)⟩
    rw [ih.listings, (World.inquiries_eq hsame).2]
  | ask hask hstarted _ ih => exact .cons (Context.settles_of_hasDecoder hask hstarted) ih

/-! ## Actions that only ask -/

/-- The action changes contexts, and starts processes that list decoders, only by asking one
context. -/
def Act.Inquires (x : Act α) (id : ContextId) : Prop :=
  ∀ w, ∃ asked, World.Inquired id w asked (x w).2

namespace Act.Inquires

variable {x : Act α} {id : ContextId}

theorem keeps (hx : x.Keeps World.inquiries) : x.Inquires id :=
  fun w => ⟨[], .of_inquiries (hx w)⟩

theorem pure (a : α) : (Pure.pure a : Act α).Inquires id := keeps (.pure a)

theorem fail (e : Fault) : (Act.fail e : Act α).Inquires id := keeps (.fail e)

theorem ofExcept (r : Except Fault α) : (Act.ofExcept r).Inquires id := keeps (.ofExcept r)

theorem log (level : LogLevel) (text : String) : (log level text).Inquires id :=
  keeps (.log World.inquiries_hidesTransfers.toHidesFiles level text)

theorem bind {f : α → Act β} (hx : x.Inquires id) (hf : ∀ a, (f a).Inquires id) :
    (x >>= f).Inquires id := by
  intro w
  refine bind_stays (P := fun w' => ∃ asked, World.Inquired id w asked w') (hx w) fun a w' => ?_
  rintro ⟨asked, hasked⟩
  obtain ⟨asked', hasked'⟩ := hf a w'
  exact ⟨asked ++ asked', hasked.trans hasked'⟩

theorem ite {p : Prop} [Decidable p] {y : Act α} (hx : x.Inquires id) (hy : y.Inquires id) :
    (if p then x else y).Inquires id := by
  split
  · exact hx
  · exact hy

theorem andFinally {after : Act Unit} (hx : x.Inquires id) (hafter : after.Inquires id) :
    (andFinally x after).Inquires id := by
  intro w
  obtain ⟨asked, hasked⟩ := hx w
  obtain ⟨asked', hasked'⟩ := hafter (x w).2
  refine ⟨asked ++ asked', ?_⟩
  unfold Act.andFinally
  match hrun : x w with
  | (r, w') =>
    rw [hrun] at hasked hasked'
    dsimp only at hasked' ⊢
    match hlast : after w' with
    | (.ok (), w'') | (.error e, w'') =>
      rw [hlast] at hasked'
      exact hasked.trans hasked'

/-- What a question is answered is what the caller gets to know. -/
theorem hasDecoder_asks (id : ContextId) (name : String) (w : World) :
    (∃ b w', Context.hasDecoder id name w = (.ok b, w') ∧ ∃ started,
      World.Inquired id w [⟨name, b, started⟩] w') ∨
    ∃ e, Context.hasDecoder id name w = (.error e, w) := by
  cases hc : w.contexts[id.index]? with
  | none => exact .inr ⟨_, Context.hasDecoder_missing hc name⟩
  | some c =>
    obtain ⟨q, w', rfl, hrun, hsettles⟩ := Context.hasDecoder_settles hc name
    exact .inl ⟨q.answer, w', hrun, q.started, .ask hrun hsettles.listings (.rest w')⟩

theorem hasDecoder (id : ContextId) (name : String) : (Context.hasDecoder id name).Inquires id := by
  intro w
  rcases hasDecoder_asks id name w with ⟨b, w', hrun, started, hasked⟩ | ⟨e, hrun⟩
  · rw [hrun]
    exact ⟨_, hasked⟩
  · rw [hrun]
    exact ⟨[], .rest w⟩

end Act.Inquires

end Compositor
