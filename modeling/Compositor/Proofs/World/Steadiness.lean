import Compositor.Proofs.World.Following
import Compositor.Proofs.World.Inquiring

/-!
# Steady actions

Two worlds are alike for a context if it has the same tool in both of them and, should it
matter, says the same about the decoder for alpha. An action is steady if it has the same
result in worlds that are alike, and leaves a world that is like the one it began in. What
is steady can be done again later, with the same result.
-/
namespace Compositor

variable {α β : Type}

namespace World

/-- The same tool and, if it `may` matter, the same word about the decoder for alpha. -/
structure Alike (id : ContextId) (may : Prop) (w w' : World) : Prop where
  tool : w'.tool? id = w.tool? id
  verdict : may → w'.verdict id Context.alphaDecoder = w.verdict id Context.alphaDecoder

variable {id : ContextId} {may : Prop} {w w' w'' : World}

namespace Alike

theorem refl (w : World) : Alike id may w w := ⟨rfl, fun _ => rfl⟩

theorem symm (h : Alike id may w w') : Alike id may w' w :=
  ⟨h.tool.symm, fun hmay => (h.verdict hmay).symm⟩

theorem trans (h : Alike id may w w') (h' : Alike id may w' w'') : Alike id may w w'' :=
  ⟨h'.tool.trans h.tool, fun hmay => (h'.verdict hmay).trans (h.verdict hmay)⟩

theorem of_tools (h : w'.tools = w.tools) : Alike id may w w' := by
  simp only [tools, Prod.mk.injEq] at h
  obtain ⟨hcontexts, hruns, hplatform⟩ := h
  have htool : w'.tool? id = w.tool? id := by rw [tool?, tool?, hcontexts]
  refine ⟨htool, fun _ => ?_⟩
  unfold World.verdict kept? listingAnswer answer
  rw [htool, hcontexts, hruns, hplatform]

end Alike

theorem verdict_of_kept {name : String} {b : Bool} (h : w.kept? id name = some b) :
    w.verdict id name = (w.tool? id).map fun _ => b := by
  rw [verdict, h]
  rfl

/-- A context says what it keeps. -/
theorem alike_of_settles {q : Question} (h : q.Settles id w w')
    (hname : q.name = Context.alphaDecoder) : Alike id may w w' := by
  refine ⟨h.tool, fun _ => ?_⟩
  have hsaid := h.verdict
  obtain ⟨tool, htool, -⟩ := Option.map_eq_some_iff.mp hsaid
  rw [hname] at hsaid
  rw [hsaid, ← hname, verdict_of_kept h.kept, h.tool, htool]
  rfl

theorem knowsAlpha_iff : w.knowsAlpha id = true ↔
    ∃ b, w.kept? id Context.alphaDecoder = some b := by
  rw [← Option.isSome_iff_exists]
  cases hc : w.contexts[id.index]? with
  | none =>
    rw [knowsAlpha, kept?, hc]
    exact Iff.rfl
  | some c => rw [knowsAlpha_of_context hc, kept?_of_context hc, Option.isSome_map]

/-- What is known stays as it is, whatever is asked. -/
theorem Inquired.alike {asked : List Question} (h : Inquired id w asked w')
    (hknown : may → w.knowsAlpha id = true) : Alike id may w w' := by
  have hsettled := h.settled
  refine ⟨hsettled.tool, fun hmay => ?_⟩
  obtain ⟨b, hb⟩ := knowsAlpha_iff.mp (hknown hmay)
  rw [verdict_of_kept hb, verdict_of_kept (hsettled.stays _ b hb), hsettled.tool]

end World

/-- The action has the same result in all worlds that are alike, and it leaves a world that
is like the one before. -/
structure Act.Steady (x : Act α) (id : ContextId) (may : Prop) : Prop where
  stays : ∀ w, World.Alike id may w (x w).2
  same : ∀ w w', World.Alike id may w w' → (x w').1 = (x w).1

namespace Act.Steady

variable {x : Act α} {id : ContextId} {may : Prop}

theorem pure (a : α) : (Pure.pure a : Act α).Steady id may := ⟨.refl, fun _ _ _ => rfl⟩

theorem fail (e : Fault) : (Act.fail e : Act α).Steady id may := ⟨.refl, fun _ _ _ => rfl⟩

theorem ofExcept (r : Except Fault α) : (Act.ofExcept r).Steady id may := by
  cases r with
  | ok a => exact .pure a
  | error e => exact .fail e

theorem log (level : LogLevel) (text : String) : (log level text).Steady id may :=
  ⟨fun w => .of_tools (Keeps.log World.tools_hidesTransfers.toHidesFiles level text w),
    fun w w' _ => by rw [log_apply, log_apply]⟩

theorem bind {f : α → Act β} (hx : x.Steady id may) (hf : ∀ a, (f a).Steady id may) :
    (x >>= f).Steady id may where
  stays w := bind_stays (hx.stays w) fun a v h => h.trans ((hf a).stays v)
  same w w' h := by
    have hv := (hx.stays w).symm.trans (h.trans (hx.stays w'))
    have hsame := hx.same w w' h
    rw [bind_apply, bind_apply]
    match hrun : x w, hrun' : x w' with
    | (.ok a, v), (r, v') =>
      rw [hrun, hrun'] at hsame hv
      obtain rfl : r = .ok a := hsame
      exact (hf a).same v v' hv
    | (.error e, v), (r, v') =>
      rw [hrun, hrun'] at hsame
      obtain rfl : r = .error e := hsame
      rfl

theorem ite {p : Prop} [Decidable p] {y : Act α} (hx : x.Steady id may) (hy : y.Steady id may) :
    (if p then x else y).Steady id may := by
  split
  · exact hx
  · exact hy

/-- Using the tool of a context, but nothing else of it. -/
theorem tool {f : Argument → Act β} (hf : ∀ tool, (f tool).Steady id may) :
    (Context.ofId id >>= fun c => f c.ffmpeg).Steady id may := by
  have hrun (w : World) : (Context.ofId id >>= fun c => f c.ffmpeg) w =
      match w.tool? id with
      | some tool => f tool w
      | none => (.error .noAttribute, w) := by
    rw [bind_apply]
    cases hc : w.contexts[id.index]? with
    | none => rw [Context.ofId_missing hc, World.tool?, hc, Option.map_none]
    | some c => rw [Context.ofId_apply hc, World.tool?_of_context hc]
  constructor
  · intro w
    rw [hrun]
    cases w.tool? id with
    | none => exact .refl w
    | some tool => exact (hf tool).stays w
  · intro w w' h
    rw [hrun, hrun, h.tool]
    cases w.tool? id with
    | none => rfl
    | some tool => exact (hf tool).same w w' h

/-- A context always says the same about the decoder for alpha. -/
theorem keepsVp9Alpha (hmay : may) : (Context.keepsVp9Alpha id).Steady id may := by
  have hrun (w : World) : (Context.keepsVp9Alpha id w).1 =
        (match w.verdict id Context.alphaDecoder with
        | some b => .ok b
        | none => .error .noAttribute) ∧
      World.Alike id may w (Context.keepsVp9Alpha id w).2 := by
    rw [Context.keepsVp9Alpha]
    cases hc : w.contexts[id.index]? with
    | none =>
      rw [Context.hasDecoder_missing hc, World.verdict, World.tool?, hc, Option.map_none,
        Option.map_none]
      exact ⟨rfl, .refl w⟩
    | some c =>
      obtain ⟨q, w', hname, hasked, hsettles⟩ :=
        Context.hasDecoder_settles hc Context.alphaDecoder
      rw [hasked, ← hname, hsettles.verdict]
      exact ⟨rfl, World.alike_of_settles hsettles hname⟩
  refine ⟨fun w => (hrun w).2, fun w w' h => ?_⟩
  rw [(hrun w).1, (hrun w').1, h.verdict hmay]

end Act.Steady

end Compositor
