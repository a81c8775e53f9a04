import Compositor.Proofs.World.Consulting
import Compositor.Proofs.World.Keeping

/-!
# Two runs side by side

Two worlds agree on a context if it is the same in both of them, and if its tool is going to
answer the question for its decoders in the same way, should it still be open. `x.Leads y`:
whenever the action `x` succeeds in one world, the action `y` succeeds in each world that
agrees with it, and the two worlds they leave agree again.
-/
namespace Compositor

variable {α β : Type}

namespace World

/-- The same context, and the same answer to a question that is still open. -/
structure Agrees (id : ContextId) (w w' : World) : Prop where
  context : w'.contexts[id.index]? = w.contexts[id.index]?
  answer : w.knowsAlpha id = false → ∀ tool, w.tool? id = some tool →
    w'.listingAnswer tool = w.listingAnswer tool

/-- The contexts, and what commands that run to their end are going to answer. -/
def tools (w : World) : List Context × List (String × List RunReply) × Platform :=
  (w.contexts, w.runs, w.platform)

theorem Agrees.of_tools {id : ContextId} {w w' v v' : World} (h : Agrees id w w')
    (hv : v.tools = w.tools) (hv' : v'.tools = w'.tools) : Agrees id v v' := by
  simp only [tools, Prod.mk.injEq] at hv hv'
  obtain ⟨hcontexts, hruns, hplatform⟩ := hv
  obtain ⟨hcontexts', hruns', hplatform'⟩ := hv'
  obtain ⟨hcontext, hanswer⟩ := h
  refine ⟨by rw [hcontexts', hcontexts, hcontext], ?_⟩
  unfold knowsAlpha tool? listingAnswer World.answer at hanswer ⊢
  rwa [hcontexts, hruns, hruns', hplatform, hplatform']

theorem tools_hidesTransfers : HidesTransfers tools :=
  ⟨⟨fun _ _ => rfl, fun _ _ => rfl, fun _ _ _ => rfl⟩, fun _ _ _ _ _ => rfl, fun _ _ => rfl⟩

end World

/-! ## The relation between two actions -/

/-- Success of the first action implies success of the second one, with an answer that
`post` relates to the first one. -/
def Act.Leads (x : Act α) (y : Act β) (id : ContextId) (post : α → β → Prop) : Prop :=
  ∀ w w', World.Agrees id w w' → ∀ a, (x w).1 = .ok a →
    ∃ b, (y w').1 = .ok b ∧ post a b ∧ World.Agrees id (x w).2 (y w').2

namespace Act.Leads

variable {γ δ : Type} {x : Act α} {y : Act β} {id : ContextId} {post : α → β → Prop}

theorem pure {a : α} {b : β} (h : post a b) :
    (Pure.pure a : Act α).Leads (Pure.pure b : Act β) id post := by
  intro w w' hw a' ha
  cases ha
  exact ⟨b, rfl, h, hw⟩

theorem bind {f : α → Act γ} {g : β → Act δ} {post' : γ → δ → Prop} (hxy : x.Leads y id post)
    (hfg : ∀ a b, post a b → (f a).Leads (g b) id post') : (x >>= f).Leads (y >>= g) id post' := by
  intro w w' hw c hc
  obtain ⟨a, v, hrun, hc⟩ := bind_ok hc
  obtain ⟨b, hb, hpost, hagrees⟩ := hxy w w' hw a (by rw [hrun])
  obtain ⟨v', hrun'⟩ : ∃ v', y w' = (.ok b, v') := ⟨_, Prod.ext hb rfl⟩
  rw [hrun, hrun'] at hagrees
  rw [bind_apply, bind_apply, hrun, hrun']
  exact hfg a b hpost v v' hagrees c hc

/-- Going on with the same answer. -/
theorem bind_same {y : Act α} {f : α → Act γ} {g : α → Act δ} {post' : γ → δ → Prop}
    (hxy : x.Leads y id fun a b => b = a) (hfg : ∀ a, (f a).Leads (g a) id post') :
    (x >>= f).Leads (y >>= g) id post' :=
  hxy.bind fun a _ heq => heq ▸ hfg a

theorem ite {p : Prop} [Decidable p] {x' : Act α} {y' : Act β} (h : x.Leads y id post)
    (h' : x'.Leads y' id post) : (if p then x else x').Leads (if p then y else y') id post := by
  split
  · exact h
  · exact h'

theorem ofExcept (r : Except Fault α) :
    (Act.ofExcept r).Leads (Act.ofExcept r) id fun a b => b = a := by
  intro w w' hw a ha
  cases r with
  | ok a' =>
    cases ha
    exact ⟨a, rfl, rfl, hw⟩
  | error e => cases ha

theorem ofId : (Context.ofId id).Leads (Context.ofId id) id fun a b => b = a := by
  intro w w' hw c hc
  cases hcontext : w.contexts[id.index]? with
  | none =>
    rw [Context.ofId_missing hcontext] at hc
    cases hc
  | some found =>
    rw [Context.ofId_apply hcontext] at hc ⊢
    rw [Context.ofId_apply (hw.context.trans hcontext)]
    exact ⟨c, hc, rfl, hw⟩

theorem log (level : LogLevel) (text : String) :
    (log level text).Leads (log level text) id fun _ _ => True := by
  intro w w' hw u hu
  refine ⟨u, by rw [log_apply], trivial, hw.of_tools ?_ ?_⟩
  · exact Keeps.log World.tools_hidesTransfers.toHidesFiles level text w
  · exact Keeps.log World.tools_hidesTransfers.toHidesFiles level text w'

/-- What keeps contexts and answers may be left out of the second run. -/
theorem alone {b : β} (hx : x.Keeps World.tools) (h : ∀ w a, (x w).1 = .ok a → post a b) :
    x.Leads (Pure.pure b) id post :=
  fun w _ hw a ha => ⟨b, rfl, h w a ha, hw.of_tools (hx w) rfl⟩

theorem keepsVp9Alpha :
    (Context.keepsVp9Alpha id).Leads (Context.keepsVp9Alpha id) id fun a b => b = a := by
  intro w w' hw a ha
  have hlater : (Context.keepsVp9Alpha id w).2.knowsAlpha id = true :=
    (Consults.keepsVp9Alpha trivial w).2 ⟨a, ha⟩ trivial
  rw [Context.keepsVp9Alpha] at ha hlater ⊢
  cases hc : w.contexts[id.index]? with
  | none =>
    rw [Context.hasDecoder, bind_apply, Context.ofId_missing hc] at ha
    cases ha
  | some c =>
    have hc' : w'.contexts[id.index]? = some c := hw.context.trans hc
    cases hfound : c.decoders.find? fun d => d.1 == Context.alphaDecoder with
    | some d =>
      rw [Context.hasDecoder_known hc hfound] at ha ⊢
      rw [Context.hasDecoder_known hc' hfound]
      exact ⟨a, ha, rfl, hw⟩
    | none =>
      have hunknown := World.knowsAlpha_of_context hc
      rw [hfound] at hunknown
      have hanswer := hw.answer hunknown c.ffmpeg (by rw [World.tool?, hc]; rfl)
      obtain ⟨runs, news, -, hrun⟩ := Context.hasDecoder_unknown hc hfound
      obtain ⟨runs', news', -, hrun'⟩ := Context.hasDecoder_unknown hc' hfound
      rw [hanswer] at hrun'
      rw [hrun] at ha hlater ⊢
      rw [hrun']
      refine ⟨a, ha, rfl, ?_, fun hopen => ?_⟩
      · dsimp only
        rw [List.getElem?_modify_eq, List.getElem?_modify_eq, hc, hc']
      · rw [hlater] at hopen
        cases hopen

end Act.Leads

end Compositor
