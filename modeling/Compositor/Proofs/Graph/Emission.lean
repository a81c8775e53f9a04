import Compositor.Proofs.Graph.Assembly
import Compositor.Proofs.Graph.Taking

/-!
# What builders append to any graph

A builder looks at its graph only to refuse a statement. So one run tells what all others
append: `Emits m a more` says that `m` answers `a` and appends `more` to any graph that takes
it, and a builder is `Uniform` if all of its runs are of this kind.
-/
namespace Compositor

variable {α β : Type}

/-! ## The filters of a statement -/

/-- The name of the first filter of an expression. -/
def firstFilter (expr : String) : List Char :=
  expr.toList.takeWhile fun c => c != '=' && c != ','

/-- Whether a statement lays one picture over another one. -/
def FilterNode.overlays (n : FilterNode) : Bool := n.name == "overlay"

theorem FilterNode.overlays_iff (n : FilterNode) :
    n.overlays = true ↔ firstFilter n.expr = "overlay".toList := by
  rw [overlays, beq_iff_eq, name, ← String.toList_inj, String.toList_ofList]
  rfl

/-- A text in which the name of the first filter ends. -/
def Ends (start : String) : Prop :=
  start.toList.all (fun c => c != '=' && c != ',') = false

instance (start : String) : Decidable (Ends start) := inferInstanceAs (Decidable (_ = _))

/-- What follows the name of the first filter does not change it. -/
theorem firstFilter_append {start : String} (h : Ends start) (rest : String) :
    firstFilter (start ++ rest) = firstFilter start := by
  unfold firstFilter
  rw [String.toList_append, List.takeWhile_append, if_neg]
  intro hall
  have hwhole := (List.takeWhile_prefix _).eq_of_length hall
  rw [Ends, ← hwhole, List.all_takeWhile] at h
  cases h

/-- An expression that is no overlay. -/
def Aside (expr : String) : Prop := firstFilter expr ≠ "overlay".toList

instance (expr : String) : Decidable (Aside expr) := inferInstanceAs (Decidable (_ ≠ _))

theorem Aside.append {start : String} (h : Aside start) (hend : Ends start) (rest : String) :
    Aside (start ++ rest) := by
  rw [Aside, firstFilter_append hend]
  exact h

theorem Aside.overlays {n : FilterNode} (h : Aside n.expr) : n.overlays = false :=
  Bool.eq_false_iff.mpr fun ho => h (n.overlays_iff.mp ho)

/-! ## Statements that are taken -/

/-- A statement that a graph takes is determined by its call. -/
theorem FilterGraph.addMulti_nodes {g g' : FilterGraph} {expr : String} {first : Pad}
    {rest : List Pad} {labels : List String} {pads : List Pad}
    (h : g.addMulti expr (first :: rest) labels none = (g', .ok pads)) :
    pads = labels.map (Pad.link · first.kind) ∧
      g'.nodes = g.nodes ++ [⟨expr, first.kind, first :: rest, pads⟩] := by
  obtain ⟨n, hn, rfl, hinputs, rfl, rfl, rfl⟩ := addMulti_ok h
  have hkind : first.kind = n.kind := hn.kind first (hinputs ▸ List.mem_cons_self)
  rw [hkind]
  refine ⟨hn.fresh.eq_links.symm, ?_⟩
  rw [← hinputs]
  rfl

namespace GraphBuilder

/-- A sequence of builders ends when both do. -/
theorem run_bind {m : GraphBuilder α} {f : α → GraphBuilder β} {g : FilterGraph}
    {r : β × FilterGraph} (h : (m >>= f) g = .ok r) :
    ∃ a g', m g = .ok (a, g') ∧ f a g' = .ok r := by
  obtain ⟨⟨a, g'⟩, hfirst, hrest⟩ := bind_eq_ok.mp (show (m g >>= fun r => f r.1 r.2) = _ from h)
  exact ⟨a, g', hfirst, hrest⟩

theorem run_lift {x : Except Fault α} {f : α → GraphBuilder β} {g : FilterGraph}
    {r : β × FilterGraph} (h : ((liftM x : GraphBuilder α) >>= f) g = .ok r) :
    ∃ a, x = .ok a ∧ f a g = .ok r := by
  cases x with
  | ok a => exact ⟨a, rfl, h⟩
  | error e => cases h

/-! ## What a builder appends -/

/-- Run on any graph, the builder answers `a` and appends `more`, unless a statement is
refused. -/
def Emits (m : GraphBuilder α) (a : α) (more : List FilterNode) : Prop :=
  ∀ g, (∃ g', m g = .ok (a, g') ∧ g'.nodes = g.nodes ++ more) ∨ ∃ e, m g = .error (.graph e)

namespace Emits

variable {m : GraphBuilder α} {a : α} {more : List FilterNode}

/-- A run that ends is as it has to be. -/
theorem of_run (h : m.Emits a more) {g g' : FilterGraph} {a' : α} (hrun : m g = .ok (a', g')) :
    a' = a ∧ g'.nodes = g.nodes ++ more := by
  obtain ⟨g₁, hrun', hnodes⟩ | ⟨e, hrun'⟩ := h g
  · cases hrun.symm.trans hrun'
    exact ⟨rfl, hnodes⟩
  · cases hrun.symm.trans hrun'

theorem pure (a : α) : (Pure.pure a : GraphBuilder α).Emits a [] :=
  fun g => .inl ⟨g, rfl, (List.append_nil _).symm⟩

theorem bind {f : α → GraphBuilder β} {b : β} {more' : List FilterNode} (hm : m.Emits a more)
    (hf : (f a).Emits b more') : (m >>= f).Emits b (more ++ more') := by
  intro g
  change (∃ g', (m g >>= fun r => f r.1 r.2) = _ ∧ _) ∨ ∃ e, (m g >>= fun r => f r.1 r.2) = _
  obtain ⟨g₁, hrun, hnodes⟩ | ⟨e, hrun⟩ := hm g
  · rw [hrun]
    obtain ⟨g₂, hrun', hnodes'⟩ | hrefused := hf g₁
    · exact .inl ⟨g₂, hrun', by rw [hnodes', hnodes, List.append_assoc]⟩
    · exact .inr hrefused
  · rw [hrun]
    exact .inr ⟨e, rfl⟩

theorem bind_lift {x : Except Fault α} {f : α → GraphBuilder β} {b : β} (hx : x = .ok a)
    (hf : (f a).Emits b more) : ((liftM x : GraphBuilder α) >>= f).Emits b more := by
  subst hx
  exact hf

theorem statement (expr : String) (first : Pad) (rest : List Pad) (label : String) :
    (statement expr (first :: rest) label).Emits (Pad.link label first.kind)
      [⟨expr, first.kind, first :: rest, [Pad.link label first.kind]⟩] := by
  intro g
  unfold GraphBuilder.statement FilterGraph.add
  cases hadd : g.addMulti expr (first :: rest) [label] none with
  | mk g' result =>
    cases result with
    | error e => exact .inr ⟨e, rfl⟩
    | ok pads =>
      obtain ⟨rfl, hnodes⟩ := FilterGraph.addMulti_nodes hadd
      exact .inl ⟨g', rfl, hnodes⟩

/-- A statement that reads nothing is always refused. -/
theorem refused (expr label : String) :
    (GraphBuilder.statement expr [] label).Emits (Pad.link label .video) [] :=
  fun _ => .inr ⟨.noInputs expr, rfl⟩

theorem fork (expr : String) (input : Pad) (first second : String) :
    (fork expr input first second).Emits
      (Pad.link first input.kind, Pad.link second input.kind)
      [⟨expr, input.kind, [input], [Pad.link first input.kind, Pad.link second input.kind]⟩] := by
  intro g
  unfold GraphBuilder.fork
  cases hadd : g.addMulti expr [input] [first, second] none with
  | mk g' result =>
    cases result with
    | error e => exact .inr ⟨e, rfl⟩
    | ok pads =>
      obtain ⟨rfl, hnodes⟩ := FilterGraph.addMulti_nodes hadd
      exact .inl ⟨g', rfl, hnodes⟩

theorem markOutput (pad : Pad) : (markOutput pad).Emits () [] :=
  fun g => .inl ⟨g.markOutput pad, rfl, (List.append_nil _).symm⟩

theorem declare (pad : Pad) : (do
    if !(← get).isEmpty then GraphBuilder.markOutput pad
    return pad : GraphBuilder Pad).Emits pad [] := by
  refine fun g => .inl ⟨_, declare_apply pad g, ?_⟩
  rw [List.append_nil]
  split <;> rfl

end Emits

/-! ## One run tells all -/

/-- Whatever a run of the builder answers and appends, all other runs do, too; `post` holds of
the answer, and all statements have the property `P`. -/
def Uniform (m : GraphBuilder α) (P : FilterNode → Prop) (post : α → Prop) : Prop :=
  ∀ g a g', m g = .ok (a, g') → post a ∧ ∃ more, m.Emits a more ∧ ∀ n ∈ more, P n

/-- One run of the builder tells all others. -/
abbrev Settled (m : GraphBuilder α) : Prop := m.Uniform (fun _ => True) fun _ => True

namespace Uniform

variable {P : FilterNode → Prop} {post : α → Prop} {m m' : GraphBuilder α}

theorem of_emits {a : α} {more : List FilterNode} (h : m.Emits a more) (ha : post a)
    (hmore : ∀ n ∈ more, P n) : m.Uniform P post := by
  intro g a' g' hrun
  obtain ⟨rfl, -⟩ := h.of_run hrun
  exact ⟨ha, more, h, hmore⟩

theorem any {a : α} {more : List FilterNode} (h : m.Emits a more) :
    m.Settled :=
  of_emits h trivial fun _ _ => trivial

theorem pure {a : α} (h : post a) : (Pure.pure a : GraphBuilder α).Uniform P post :=
  of_emits (.pure a) h nofun

theorem bind {f : α → GraphBuilder β} {post' : β → Prop} (hm : m.Uniform P post)
    (hf : ∀ a, post a → (f a).Uniform P post') : (m >>= f).Uniform P post' := by
  intro g b g'' hrun
  obtain ⟨a, g', hfirst, hrest⟩ := run_bind hrun
  obtain ⟨ha, more, hemits, hmore⟩ := hm g a g' hfirst
  obtain ⟨hb, more', hemits', hmore'⟩ := hf a ha g' b g'' hrest
  refine ⟨hb, more ++ more', hemits.bind hemits', fun n hn => ?_⟩
  exact (List.mem_append.mp hn).elim (hmore n) (hmore' n)

theorem bind_lift {x : Except Fault α} {f : α → GraphBuilder β} {post' : β → Prop}
    (hf : ∀ a, x = .ok a → (f a).Uniform P post') :
    ((liftM x : GraphBuilder α) >>= f).Uniform P post' := by
  intro g b g' hrun
  obtain ⟨a, rfl, hrest⟩ := run_lift hrun
  obtain ⟨hb, more, hemits, hmore⟩ := hf a rfl g b g' hrest
  exact ⟨hb, more, hemits.bind_lift rfl, hmore⟩

theorem ite {p : Prop} [Decidable p] (hm : m.Uniform P post) (hm' : m'.Uniform P post) :
    (if p then m else m').Uniform P post := by
  split
  · exact hm
  · exact hm'

end Uniform

end GraphBuilder

end Compositor
