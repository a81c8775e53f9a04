import Compositor.Proofs.Graph.Wired

/-!
# What a pad carries

A pad is unfolded by replacing its label by the statement that produces it, and the
labels that this statement reads in the same way, until only streams of inputs are
left. The result is a term of filters. There is at most one, and statements that are
appended later do not change it.
-/
namespace Compositor

/-- A picture or a sound, as filters applied to streams of inputs. -/
inductive Term where
  | stream (name : String)
  /-- One of the outputs of a filter, counted from zero. -/
  | filter (expr : String) (inputs : List Term) (output : Nat)

/-- The term of a filter with one output. -/
def Term.apply (expr : String) (inputs : List Term) : Term := .filter expr inputs 0

namespace FilterGraph

mutual

/-- Unfolding a pad in a graph. -/
inductive Unfolds (g : FilterGraph) : Pad → Term → Prop where
  | stream {p : Pad} (hp : p.isInput = true) : Unfolds g p (.stream p.label)
  | link {p : Pad} {n : FilterNode} {ts : List Term} (hp : p.isInput = false)
      (hn : g.producer? p.label = some n) (hts : UnfoldsAll g n.inputs ts) :
      Unfolds g p (.filter n.expr ts (n.outputs.findIdx fun q => q.label == p.label))

/-- Unfolding pads one by one. -/
inductive UnfoldsAll (g : FilterGraph) : List Pad → List Term → Prop where
  | nil : UnfoldsAll g [] []
  | cons {p : Pad} {ps : List Pad} {t : Term} {ts : List Term} (ht : Unfolds g p t)
      (hts : UnfoldsAll g ps ts) : UnfoldsAll g (p :: ps) (t :: ts)

end

/-- A later state of a graph: more statements, and the old ones unchanged. -/
def Grows (g g' : FilterGraph) : Prop := g.nodes <+: g'.nodes

namespace Grows

variable {g g' g'' : FilterGraph}

theorem refl (g : FilterGraph) : Grows g g := List.prefix_refl _

theorem trans (h : Grows g g') (h' : Grows g' g'') : Grows g g'' := List.IsPrefix.trans h h'

theorem grow (g : FilterGraph) (n : FilterNode) : Grows g (g.grow n) := List.prefix_append _ _

theorem markOutput (g : FilterGraph) (p : Pad) : Grows g (g.markOutput p) := List.prefix_refl _

theorem producer?_eq (h : Grows g g') {label : String} {n : FilterNode}
    (hn : g.producer? label = some n) : g'.producer? label = some n := by
  obtain ⟨more, hm⟩ := h
  unfold producer? at hn ⊢
  rw [← hm, List.find?_append, hn]
  rfl

end Grows

variable {g g' : FilterGraph}

mutual

theorem Unfolds.mono (h : Grows g g') {p : Pad} {t : Term} : g.Unfolds p t → g'.Unfolds p t
  | .stream hp => .stream hp
  | .link hp hn hts => .link hp (h.producer?_eq hn) (hts.mono h)

theorem UnfoldsAll.mono (h : Grows g g') {ps : List Pad} {ts : List Term} :
    g.UnfoldsAll ps ts → g'.UnfoldsAll ps ts
  | .nil => .nil
  | .cons ht hts => .cons (ht.mono h) (hts.mono h)

end

mutual

/-- A pad unfolds to at most one term. -/
theorem Unfolds.unique {p : Pad} {t u : Term} : g.Unfolds p t → g.Unfolds p u → t = u
  | .stream _, .stream _ => rfl
  | .stream hp, .link hp' _ _ => by rw [hp] at hp'; cases hp'
  | .link hp _ _, .stream hp' => by rw [hp] at hp'; cases hp'
  | .link _ hn hts, .link _ hn' hts' => by
    rw [hn] at hn'
    cases hn'
    rw [hts.unique hts']

theorem UnfoldsAll.unique {ps : List Pad} {ts us : List Term} :
    g.UnfoldsAll ps ts → g.UnfoldsAll ps us → ts = us
  | .nil, .nil => rfl
  | .cons ht hts, .cons hu hus => by rw [ht.unique hu, hts.unique hus]

end

theorem Unfolds.iff_eq {p : Pad} {t : Term} (h : g.Unfolds p t) (u : Term) :
    g.Unfolds p u ↔ u = t :=
  ⟨fun hu => hu.unique h, fun hu => hu ▸ h⟩

/-- A new statement is what its own labels unfold to. -/
theorem Unfolds.grow {live : List Pad} (hg : g.Wired live) {n : FilterNode} {q : Pad}
    {ts : List Term} (hq : q ∈ n.outputs) (hlink : q.isInput = false)
    (hnew : q.label ∉ g.produced.map Pad.label) (hts : g.UnfoldsAll n.inputs ts) :
    (g.grow n).Unfolds q
      (.filter n.expr ts (n.outputs.findIdx fun p => p.label == q.label)) := by
  have hold : g.nodes.find? (fun m => m.outputs.any fun p => p.label == q.label) = none := by
    rw [List.find?_eq_none]
    intro m hm hany
    obtain ⟨p, hp, hl⟩ := List.any_eq_true.mp hany
    have hmem : p ∈ g.produced := by
      rw [hg.produced_eq]
      exact List.mem_flatMap.mpr ⟨m, hm, hp⟩
    exact hnew (by rw [← eq_of_beq hl]; exact List.mem_map_of_mem hmem)
  have hprod : (g.grow n).producer? q.label = some n := by
    unfold producer? FilterGraph.grow
    rw [List.find?_append, hold, Option.none_or, List.find?_cons_of_pos]
    exact List.any_eq_true.mpr ⟨q, hq, by simp⟩
  exact .link hlink hprod (hts.mono (.grow g n))

end FilterGraph

end Compositor
