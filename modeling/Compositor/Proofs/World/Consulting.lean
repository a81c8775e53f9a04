import Compositor.Proofs.World.Steps

/-!
# Asking about decoders

While a command is built, the tool of its context may be asked for its decoders, but only
once, because the answer is kept. Nothing else changes, but for the messages that are
logged. `World.Consulted` says so, and every action that only asks keeps it.
-/
namespace Compositor

variable {α β : Type}

/-! ## Messages -/

/-- A message is for readers of the log; any other event is something that was done. -/
def Event.isMessage : Event → Bool
  | .log .. => true
  | _ => false

/-- What was done, without the messages. -/
def Event.deeds (events : List Event) : List Event := events.filter fun e => !e.isMessage

@[simp] theorem Event.deeds_nil : deeds [] = [] := rfl

@[simp] theorem Event.deeds_append (a b : List Event) : deeds (a ++ b) = deeds a ++ deeds b :=
  List.filter_append ..

@[simp] theorem World.deeds_messages (w : World) (level : LogLevel) (text : String) :
    Event.deeds (w.messages level text) = [] := by
  unfold messages
  split <;> rfl

/-! ## What asking changes -/

namespace World

/-- The tool of a context. -/
def tool? (w : World) (id : ContextId) : Option Argument :=
  (w.contexts[id.index]?).map Context.ffmpeg

/-- Whether it is known if the tool of a context has the decoder for alpha. -/
def knowsAlpha (w : World) (id : ContextId) : Bool :=
  (w.contexts[id.index]?).any fun c => c.decoders.any fun d => d.1 == Context.alphaDecoder

theorem knowsAlpha_of_context {w : World} {id : ContextId} {c : Context}
    (hc : w.contexts[id.index]? = some c) :
    w.knowsAlpha id = (c.decoders.find? fun d => d.1 == Context.alphaDecoder).isSome := by
  rw [knowsAlpha, hc, Option.any_some, Bool.eq_iff_iff]
  simp

end World

/-- The question for the decoders of a tool. -/
def Context.listing (tool : Argument) : Event := .run [tool, "-hide_banner", "-decoders"] 10

/-- A context without the answers that it keeps. -/
def Context.setup (c : Context) : Context := { c with decoders := [] }

/-- The world `w'` is `w` but for what comes from asking the tool of a context about the
decoder for alpha, which happens at most once, only if the answer is not known yet, and
only if it `may` be needed. -/
structure World.Consulted (id : ContextId) (may : Prop) (w w' : World) : Prop where
  files : w'.files = w.files
  manifests : w'.manifests = w.manifests
  processes : w'.processes = w.processes
  exchanges : w'.exchanges = w.exchanges
  tempRoot : w'.tempRoot = w.tempRoot
  contexts : w'.contexts.map Context.setup = w.contexts.map Context.setup
  events : ∃ news, w'.events = w.events ++ news ∧
    (w'.knowsAlpha id = w.knowsAlpha id ∧ Event.deeds news = [] ∨
      may ∧ w.knowsAlpha id = false ∧ w'.knowsAlpha id = true ∧
        ∃ tool, w.tool? id = some tool ∧ Event.deeds news = [Context.listing tool])

namespace World.Consulted

variable {id : ContextId} {may : Prop} {w w' w'' : World}

theorem refl (w : World) : Consulted id may w w :=
  ⟨rfl, rfl, rfl, rfl, rfl, rfl, [], (List.append_nil _).symm, .inl ⟨rfl, rfl⟩⟩

theorem tool_eq (h : Consulted id may w w') : w'.tool? id = w.tool? id := by
  have hsetup := congrArg (fun l => (l[id.index]?).map Context.ffmpeg) h.contexts
  simpa [tool?, Context.setup, Function.comp_def] using hsetup

/-- A kept answer is not lost. -/
theorem knows (h : Consulted id may w w') (hw : w.knowsAlpha id = true) :
    w'.knowsAlpha id = true := by
  obtain ⟨news, -, ⟨hknows, -⟩ | ⟨-, -, hknows, -⟩⟩ := h.events
  · rw [hknows, hw]
  · exact hknows

theorem trans (h : Consulted id may w w') (h' : Consulted id may w' w'') :
    Consulted id may w w'' where
  files := h'.files.trans h.files
  manifests := h'.manifests.trans h.manifests
  processes := h'.processes.trans h.processes
  exchanges := h'.exchanges.trans h.exchanges
  tempRoot := h'.tempRoot.trans h.tempRoot
  contexts := h'.contexts.trans h.contexts
  events := by
    obtain ⟨news, he, hnews⟩ := h.events
    obtain ⟨news', he', hnews'⟩ := h'.events
    refine ⟨news ++ news', by rw [he', he, List.append_assoc], ?_⟩
    rw [Event.deeds_append]
    rcases hnews with ⟨hknows, hdeeds⟩ | ⟨hmay, hunknown, hknows, tool, htool, hdeeds⟩
    · rcases hnews' with ⟨hknows', hdeeds'⟩ | ⟨hmay, hunknown, hknows', tool, htool, hdeeds'⟩
      · exact .inl ⟨hknows'.trans hknows, by rw [hdeeds, hdeeds', List.append_nil]⟩
      · exact .inr ⟨hmay, hknows ▸ hunknown, hknows', tool, h.tool_eq ▸ htool,
          by rw [hdeeds, hdeeds', List.nil_append]⟩
    · -- what the first step has learned the second one does not ask again
      rcases hnews' with ⟨hknows', hdeeds'⟩ | ⟨-, hunknown', -⟩
      · exact .inr ⟨hmay, hunknown, hknows'.trans hknows, tool, htool,
          by rw [hdeeds, hdeeds', List.append_nil]⟩
      · rw [hknows] at hunknown'
        cases hunknown'

/-- A message changes nothing else. -/
theorem note (h : Consulted id may w w') {news : List Event} (hnews : Event.deeds news = []) :
    Consulted id may w { w' with events := w'.events ++ news } :=
  h.trans ⟨rfl, rfl, rfl, rfl, rfl, rfl, news, rfl, .inl ⟨rfl, hnews⟩⟩

end World.Consulted

/-! ## Putting the question -/

section

variable {id : ContextId} {may : Prop}

/-- Whether an answer of the tool lists a decoder; no answer counts as no. -/
def Context.listed (name : String) : RunReply → Bool
  | .finished code stdout _ => code == 0 && mentions stdout name
  | _ => false

/-- What a tool is going to answer to the question for its decoders. -/
def World.listingAnswer (w : World) (tool : Argument) : RunReply :=
  w.answer [tool, "-hide_banner", "-decoders"] "-decoders"

/-- What is left behind when the tool has answered, before the answer is kept. -/
theorem Context.askDecoder_apply (tool : Argument) (name : String) (w : World) :
    ∃ runs news, askDecoder tool name w = (.ok (listed name (w.listingAnswer tool)),
        { w with runs, events := w.events ++ listing tool :: news }) ∧
      Event.deeds news = [] := by
  have hlast : [tool, "-hide_banner", "-decoders"].getLast? = some (.str "-decoders") := rfl
  obtain ⟨runs, hrun, -⟩ := Act.runCommand_apply rfl hlast 10 w
  have hwarn : ∀ text : String, ∃ news, (Act.warning text >>= fun _ => (pure false : Act Bool))
      { w with runs, events := w.events ++ [listing tool] } =
        (.ok false, { w with runs, events := w.events ++ listing tool :: news }) ∧
      Event.deeds news = [] := by
    intro text
    refine ⟨w.messages .warning text, ?_, w.deeds_messages .warning text⟩
    rw [Act.bind_apply, Act.warning, Act.log_apply]
    dsimp only
    rw [List.append_assoc]
    rfl
  rw [askDecoder, Act.bind_apply, hrun, World.listingAnswer]
  match w.answer [tool, "-hide_banner", "-decoders"] "-decoders" with
  | .finished code stdout stderr =>
    by_cases hcode : code == 0
    · refine ⟨runs, [], ?_, rfl⟩
      simp only [hcode, if_pos, listed, Bool.true_and]
      rfl
    · obtain ⟨news, hnews, hdeeds⟩ := hwarn ("Could not list decoders: " ++ stderr)
      refine ⟨runs, news, ?_, hdeeds⟩
      simp only [hcode, listed, Bool.false_and]
      exact hnews
  | .refused e =>
    obtain ⟨news, hnews, hdeeds⟩ := hwarn ("Error checking decoder " ++ name ++ ": " ++ e.text)
    exact ⟨runs, news, hnews, hdeeds⟩
  | .timedOut text =>
    obtain ⟨news, hnews, hdeeds⟩ := hwarn ("Error checking decoder " ++ name ++ ": " ++ text)
    exact ⟨runs, news, hnews, hdeeds⟩

/-- Keeping the answer about the decoder for alpha settles the question. -/
theorem World.Consulted.settle {w : World} {c : Context} (hmay : may)
    (hc : w.contexts[id.index]? = some c) (hunknown : w.knowsAlpha id = false) (answer : Bool)
    (runs : List (String × List RunReply)) {news : List Event} (hnews : Event.deeds news = []) :
    let w' := { w with
      runs
      events := w.events ++ Context.listing c.ffmpeg :: news
      contexts := w.contexts.modify id.index fun c =>
        { c with decoders := c.decoders ++ [(Context.alphaDecoder, answer)] } }
    Consulted id may w w' ∧ w'.knowsAlpha id = true := by
  intro w'
  have hknows : w'.knowsAlpha id = true := by
    rw [knowsAlpha, List.getElem?_modify_eq, hc]
    simp
  refine ⟨⟨rfl, rfl, rfl, rfl, rfl, ?_, _, rfl,
    .inr ⟨hmay, hunknown, hknows, c.ffmpeg, ?_, ?_⟩⟩, hknows⟩
  · refine List.ext_getElem? fun k => ?_
    rw [List.getElem?_map, List.getElem?_map, List.getElem?_modify]
    cases w.contexts[k]? with
    | none => rfl
    | some c => by_cases hk : id.index = k <;> simp [hk, Context.setup]
  · rw [tool?, hc]
    rfl
  · exact congrArg (Context.listing c.ffmpeg :: ·) hnews

/-- A question that has been answered is not put again. -/
theorem Context.hasDecoder_known {w : World} {c : Context} {name : String} {d : String × Bool}
    (hc : w.contexts[id.index]? = some c)
    (hold : (c.decoders.find? fun d => d.1 == name) = some d) :
    hasDecoder id name w = (.ok d.2, w) := by
  rw [hasDecoder, Act.bind_apply, ofId_apply hc]
  dsimp only
  rw [hold]
  rfl

/-- A question that is still open is put to the tool, and the answer is kept. -/
theorem Context.hasDecoder_unknown {w : World} {c : Context} {name : String}
    (hc : w.contexts[id.index]? = some c) (hnew : (c.decoders.find? fun d => d.1 == name) = none) :
    let answer := listed name (w.listingAnswer c.ffmpeg)
    ∃ runs news, Event.deeds news = [] ∧
      hasDecoder id name w = (.ok answer, { w with
        runs
        events := w.events ++ listing c.ffmpeg :: news
        contexts := w.contexts.modify id.index fun c =>
          { c with decoders := c.decoders ++ [(name, answer)] } }) := by
  intro answer
  obtain ⟨runs, news, hask, hnews⟩ := askDecoder_apply c.ffmpeg name w
  let text := "Decoder " ++ name ++ " available: " ++ (Json.bool answer).text
  refine ⟨runs, news ++ w.messages .debug text, by simp [hnews], ?_⟩
  rw [hasDecoder, Act.bind_apply, ofId_apply hc]
  dsimp only
  rw [hnew]
  dsimp only
  rw [Act.bind_apply, hask]
  dsimp only
  rw [Act.debug, Act.bind_apply, Act.log_apply]
  dsimp only
  rw [List.append_assoc]
  rfl

end

/-! ## Actions that only ask -/

/-- The action changes nothing but what comes from asking the tool of a context, and if it
answers, what it needs to know has been found out. -/
def Act.Consults (x : Act α) (id : ContextId) (may needs : Prop) : Prop :=
  ∀ w, World.Consulted id may w (x w).2 ∧
    ((∃ a, (x w).1 = .ok a) → needs → (x w).2.knowsAlpha id = true)

namespace Act.Consults

variable {x : Act α} {id : ContextId} {may needs needs' : Prop}

theorem of_consulted (h : ∀ w, World.Consulted id may w (x w).2) : x.Consults id may False :=
  fun w => ⟨h w, fun _ => False.elim⟩

theorem needing (hx : x.Consults id may needs) (h : needs' → needs) :
    x.Consults id may needs' := fun w => ⟨(hx w).1, fun ha hn => (hx w).2 ha (h hn)⟩

theorem pure (a : α) : (Pure.pure a : Act α).Consults id may False :=
  of_consulted fun w => .refl w

theorem fail (e : Fault) : (Act.fail e : Act α).Consults id may needs :=
  fun w => ⟨.refl w, fun ⟨_, h⟩ => nomatch h⟩

theorem ofExcept (r : Except Fault α) : (Act.ofExcept r).Consults id may False :=
  of_consulted fun w => by cases r <;> exact .refl w

theorem ofId (other : ContextId) : (Context.ofId other).Consults id may False := by
  refine of_consulted fun w => ?_
  cases h : w.contexts[other.index]? with
  | none =>
    rw [Context.ofId_missing h]
    exact .refl w
  | some c =>
    rw [Context.ofId_apply h]
    exact .refl w

theorem log (level : LogLevel) (text : String) : (log level text).Consults id may False := by
  refine of_consulted fun w => ?_
  rw [log_apply]
  exact (World.Consulted.refl w).note (w.deeds_messages level text)

/-- What was found out before is not forgotten. -/
theorem bind {f : α → Act β} (hx : x.Consults id may needs)
    (hf : ∀ a, (f a).Consults id may needs') : (x >>= f).Consults id may (needs ∨ needs') := by
  intro w
  have hrun := hx w
  rw [bind_apply]
  match h : x w with
  | (.error e, w') =>
    rw [h] at hrun
    exact ⟨hrun.1, fun ⟨_, hok⟩ => nomatch hok⟩
  | (.ok a, w') =>
    rw [h] at hrun
    have hnext := hf a w'
    refine ⟨hrun.1.trans hnext.1, fun hok hneeds => ?_⟩
    rcases hneeds with hneeds | hneeds
    · exact hnext.1.knows (hrun.2 ⟨a, rfl⟩ hneeds)
    · exact hnext.2 hok hneeds

theorem bind_left {f : α → Act β} (hx : x.Consults id may needs)
    (hf : ∀ a, (f a).Consults id may False) : (x >>= f).Consults id may needs :=
  (hx.bind hf).needing .inl

theorem bind_right {f : α → Act β} (hx : x.Consults id may False)
    (hf : ∀ a, (f a).Consults id may needs) : (x >>= f).Consults id may needs :=
  (hx.bind hf).needing .inr

theorem ite {p : Prop} [Decidable p] {y : Act α} (hx : x.Consults id may needs)
    (hy : y.Consults id may needs) : (if p then x else y).Consults id may needs := by
  split
  · exact hx
  · exact hy

/-- Whoever needs the decoder for alpha knows afterwards whether the tool has it. -/
theorem keepsVp9Alpha (hmay : may) : (Context.keepsVp9Alpha id).Consults id may True := by
  intro w
  rw [Context.keepsVp9Alpha]
  cases hc : w.contexts[id.index]? with
  | none =>
    rw [Context.hasDecoder, bind_apply, Context.ofId_missing hc]
    exact ⟨.refl w, fun ⟨_, h⟩ => nomatch h⟩
  | some c =>
    have hknows := World.knowsAlpha_of_context hc
    cases hfound : c.decoders.find? fun d => d.1 == Context.alphaDecoder with
    | some d =>
      rw [hfound] at hknows
      rw [Context.hasDecoder_known hc hfound]
      exact ⟨.refl w, fun _ _ => hknows⟩
    | none =>
      rw [hfound] at hknows
      obtain ⟨runs, news, hnews, hrun⟩ := Context.hasDecoder_unknown hc hfound
      rw [hrun]
      obtain ⟨hsettled, hnow⟩ := World.Consulted.settle hmay hc hknows _ runs hnews
      exact ⟨hsettled, fun _ _ => hnow⟩

end Act.Consults

end Compositor
