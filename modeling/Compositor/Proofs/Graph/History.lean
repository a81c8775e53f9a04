import Compositor.Proofs.Graph.Taking

/-!
# Histories of graphs

A graph is a value that anybody may extend: the pads given to a call can come from an earlier
call, from another graph or from nowhere, and a call that is refused may still leave labels
taken. `History.of` follows a new graph through any calls, together with the pads it answered
and those it used. What holds of every history is `History.Sound`: every call keeps it, also one
that is refused.
-/
namespace Compositor

/-- A call that may change a graph. The texts given to it can be any values. -/
inductive GraphCall where
  | add (expr : Json) (inputs : List Pad) (label : Json) (kind : Option StreamKind)
  | addMulti (expr : Json) (inputs : List Pad) (labels : List Json) (kind : Option StreamKind)
  | markOutput (p : Pad)

namespace GraphCall

/-- The graph after a call, and the links that the call made. -/
def run (g : FilterGraph) : GraphCall → FilterGraph × Except Fault (List Pad)
  | .add expr inputs label kind => g.addRecord expr inputs [label] kind
  | .addMulti expr inputs labels kind => g.addRecord expr inputs labels kind
  | .markOutput p => (g.markOutput p, .ok [])

/-- The pads that a call is given. -/
def given : GraphCall → List Pad
  | .add _ inputs _ _ | .addMulti _ inputs _ _ => inputs
  | .markOutput p => [p]

/-- The courses of a call: a statement, a declared output, or a refusal. -/
theorem run_cases (g : FilterGraph) (c : GraphCall) :
    (∃ n, g.Takes n ∧ n.inputs = c.given ∧ c.run g = (g.grow n, .ok n.outputs)) ∨
    (∃ p, c.given = [p] ∧ c.run g = (g.markOutput p, .ok [])) ∨
    ∃ kind lost e, g.Fresh kind lost ∧
      c.run g = ({ g with produced := g.produced ++ lost }, .error e) := by
  cases c with
  | add expr inputs label kind =>
    refine (g.addRecord_cases expr inputs [label] kind).imp ?_ .inr
    rintro ⟨n, hn, -, hin, -, hrun⟩
    exact ⟨n, hn, hin.symm, hrun⟩
  | addMulti expr inputs labels kind =>
    refine (g.addRecord_cases expr inputs labels kind).imp ?_ .inr
    rintro ⟨n, hn, -, hin, -, hrun⟩
    exact ⟨n, hn, hin.symm, hrun⟩
  | markOutput p => exact .inr (.inl ⟨p, rfl, rfl⟩)

end GraphCall

/-- What calls have made of a new graph: the links they answered, and the pads they used, once
for each time. A call that is refused uses nothing. -/
structure History where
  graph : FilterGraph
  made : List Pad
  used : List Pad

namespace History

open Pad (links)

def start : History := ⟨.empty, [], []⟩

def next (h : History) (c : GraphCall) : History :=
  match c.run h.graph with
  | (g, .ok pads) => ⟨g, h.made ++ pads, h.used ++ c.given⟩
  | (g, .error _) => { h with graph := g }

/-- The history of some calls on a new graph. -/
def of (calls : List GraphCall) : History := calls.foldl next start

theorem of_concat (calls : List GraphCall) (c : GraphCall) :
    of (calls ++ [c]) = (of calls).next c := by
  simp [of]

/-- The books of a graph agree, whatever pads it was given. -/
structure Sound (h : History) : Prop where
  made_eq : h.made = h.graph.nodes.flatMap FilterNode.outputs
  used_perm : h.used.Perm (h.graph.nodes.flatMap FilterNode.inputs ++ h.graph.outputs)
  link : ∀ p ∈ h.made, p.isInput = false
  taken : h.made.Sublist h.graph.produced
  distinct : (h.graph.produced.map Pad.label).Nodup
  kinds : ∀ n ∈ h.graph.nodes, ∀ p ∈ n.inputs ++ n.outputs, p.kind = n.kind

theorem sound_start : start.Sound := by
  constructor <;> simp [start, FilterGraph.empty]

namespace Sound

variable {h : History}

theorem grow (hs : h.Sound) {n : FilterNode} (hn : h.graph.Takes n) :
    (⟨h.graph.grow n, h.made ++ n.outputs, h.used ++ n.inputs⟩ : History).Sound where
  made_eq := by simp [FilterGraph.grow, hs.made_eq]
  used_perm := by
    have hmove : ((h.graph.nodes.flatMap FilterNode.inputs ++ h.graph.outputs) ++ n.inputs).Perm
        (h.graph.nodes.flatMap FilterNode.inputs ++ n.inputs ++ h.graph.outputs) := by
      simp only [List.append_assoc]
      exact List.perm_append_comm.append_left _
    simpa [FilterGraph.grow] using (hs.used_perm.append_right n.inputs).trans hmove
  link := fun p hp => (List.mem_append.mp hp).elim (hs.link p) (hn.fresh.link p)
  taken := hs.taken.append (.refl _)
  distinct := hn.fresh.nodup hs.distinct
  kinds := by
    intro m hm p hp
    rcases List.mem_append.mp hm with hm | hm
    · exact hs.kinds m hm p hp
    · obtain rfl := List.mem_singleton.mp hm
      exact (List.mem_append.mp hp).elim (hn.kind p) (hn.fresh.kind p)

theorem markOutput (hs : h.Sound) (p : Pad) :
    (⟨h.graph.markOutput p, h.made ++ [], h.used ++ [p]⟩ : History).Sound where
  made_eq := by simpa [FilterGraph.markOutput] using hs.made_eq
  used_perm := by
    simpa [FilterGraph.markOutput] using hs.used_perm.append_right [p]
  link := by simpa using hs.link
  taken := by simpa [FilterGraph.markOutput] using hs.taken
  distinct := hs.distinct
  kinds := hs.kinds

theorem refuse (hs : h.Sound) {kind : StreamKind} {lost : List Pad}
    (hlost : h.graph.Fresh kind lost) :
    ({ h with graph := { h.graph with produced := h.graph.produced ++ lost } } : History).Sound :=
  { hs with
    taken := hs.taken.trans (List.sublist_append_left _ _)
    distinct := hlost.nodup hs.distinct }

theorem next (hs : h.Sound) (c : GraphCall) : (h.next c).Sound := by
  unfold History.next
  rcases c.run_cases h.graph with ⟨n, hn, hin, hrun⟩ | ⟨p, hin, hrun⟩ | ⟨kind, lost, e, hlost, hrun⟩
  · rw [hrun, ← hin]
    exact hs.grow hn
  · rw [hrun, hin]
    exact hs.markOutput p
  · rw [hrun]
    exact hs.refuse hlost

end Sound

theorem sound_of (calls : List GraphCall) : (of calls).Sound :=
  List.foldlRecOn calls next sound_start fun _ hs c _ => hs.next c

namespace Sound

variable {h : History} (hs : h.Sound)

include hs

theorem made_distinct : (h.made.map Pad.label).Nodup := hs.distinct.sublist (hs.taken.map _)

theorem outputs_distinct :
    ((h.graph.nodes.flatMap FilterNode.outputs).map Pad.label).Nodup :=
  hs.made_eq ▸ hs.made_distinct

/-- Two links that a graph made are the same if they share their label. -/
theorem eq_of_label {p q : Pad} (hp : p ∈ h.made) (hq : q ∈ h.made) (hl : p.label = q.label) :
    p = q :=
  List.inj_on_of_nodup_map hs.made_distinct hp hq hl

theorem mem_made_iff {p : Pad} : p ∈ h.made ↔ ∃ n ∈ h.graph.nodes, p ∈ n.outputs := by
  rw [hs.made_eq, List.mem_flatMap]

/-- The statement that made a link is the one found by its label. -/
theorem producer?_eq {n : FilterNode} (hn : n ∈ h.graph.nodes) {p : Pad} (hp : p ∈ n.outputs) :
    h.graph.producer? p.label = some n := by
  obtain ⟨before, after, hnodes⟩ := List.append_of_mem hn
  have hd := hs.outputs_distinct
  rw [hnodes, List.flatMap_append, List.map_append] at hd
  have hlabel : p.label ∈ ((n :: after).flatMap FilterNode.outputs).map Pad.label :=
    List.mem_map_of_mem (List.mem_flatMap.mpr ⟨n, List.mem_cons_self, hp⟩)
  have hearlier : before.find? (fun m => m.outputs.any fun q => q.label == p.label) = none := by
    rw [List.find?_eq_none]
    intro m hm hany
    obtain ⟨q, hq, he⟩ := List.any_eq_true.mp hany
    have hqlabel : q.label ∈ (before.flatMap FilterNode.outputs).map Pad.label :=
      List.mem_map_of_mem (List.mem_flatMap.mpr ⟨m, hm, hq⟩)
    exact List.disjoint_of_nodup_append hd hqlabel (eq_of_beq he ▸ hlabel)
  have hmakes : (n.outputs.any fun q => q.label == p.label) = true :=
    List.any_eq_true.mpr ⟨p, hp, by simp⟩
  rw [FilterGraph.producer?, hnodes, List.find?_append, hearlier, Option.none_or,
    List.find?_cons_of_pos]
  exact hmakes

end Sound

end History

end Compositor
