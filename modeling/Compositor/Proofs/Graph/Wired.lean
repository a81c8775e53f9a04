import Compositor.Graph.Basic
import Mathlib.Data.List.Nodup
import Mathlib.Data.List.Perm.Basic

/-!
# Wired graphs

What a graph checks is stated first, for any graph: which inputs and labels it accepts, and when it
passes as a whole.

`FilterGraph.Wired` is the invariant of a graph under construction: labels are pairwise
distinct, a statement reads only what earlier ones produce, kinds agree, and the links
that are read so far together with those that still wait for a reader are exactly the
links produced. Every operation on graphs has one lemma here; a graph without waiting
links passes `validate`.
-/
namespace Compositor

/-- The links among some pads. -/
def Pad.links (pads : List Pad) : List Pad := pads.filter fun p => !p.isInput

namespace Pad

@[simp] theorem links_nil : links [] = [] := rfl

@[simp] theorem links_append (a b : List Pad) : links (a ++ b) = links a ++ links b :=
  List.filter_append ..

@[simp] theorem mem_links {p : Pad} {pads : List Pad} :
    p ∈ links pads ↔ p ∈ pads ∧ p.isInput = false := by
  simp [links]

theorem forall_mem_links_cons {P : Pad → Prop} {p : Pad} {pads : List Pad} :
    (∀ q ∈ links (p :: pads), P q) ↔ (p.isInput = false → P p) ∧ ∀ q ∈ links pads, P q := by
  simp [and_imp]

@[simp] theorem links_input (index : Int) (kind : StreamKind) : links [input index kind] = [] := rfl

end Pad

namespace FilterGraph

open Pad (links)

/-- The links that are read by a statement or declared as an output. -/
def reads (g : FilterGraph) : List Pad := links (g.nodes.flatMap FilterNode.inputs ++ g.outputs)

/-- The graph with one more statement. -/
def grow (g : FilterGraph) (n : FilterNode) : FilterGraph :=
  { g with nodes := g.nodes ++ [n], produced := g.produced ++ n.outputs }

/-- Statements that read only links made by earlier ones, or made before all of them. -/
def InOrder (made : List Pad) : List FilterNode → Prop
  | [] => True
  | n :: rest => (∀ p ∈ links n.inputs, p ∈ made) ∧ InOrder (made ++ n.outputs) rest

theorem inOrder_append (made : List Pad) (a b : List FilterNode) :
    InOrder made (a ++ b) ↔ InOrder made a ∧ InOrder (made ++ a.flatMap FilterNode.outputs) b := by
  induction a generalizing made with
  | nil => simp [InOrder]
  | cons n a ih => simp only [List.cons_append, InOrder, ih, List.flatMap_cons, and_assoc,
      List.append_assoc]

/-- A graph whose links `live` still wait for a reader. -/
structure Wired (g : FilterGraph) (live : List Pad) : Prop where
  produced_eq : g.produced = g.nodes.flatMap FilterNode.outputs
  links_only : ∀ p ∈ g.produced, p.isInput = false
  distinct : (g.produced.map Pad.label).Nodup
  kinds : ∀ n ∈ g.nodes, ∀ p ∈ n.inputs ++ n.outputs, p.kind = n.kind
  inOrder : InOrder [] g.nodes
  balance : (g.reads ++ live).Perm g.produced

theorem wired_empty : empty.Wired [] := by
  constructor <;> simp [empty, InOrder, reads]

variable {g : FilterGraph} {live : List Pad}

theorem isTaken_iff {label : String} :
    g.isTaken label = true ↔ label ∈ g.produced.map Pad.label := by
  simp [isTaken]

/-- Pads are accepted when they are of one kind and what they are labelled is taken. -/
theorem checkInputs_eq_ok_iff {expr : String} {kind : StreamKind} {pads : List Pad} :
    g.checkInputs expr kind pads = .ok () ↔
      (∀ p ∈ pads, p.kind = kind) ∧ ∀ p ∈ links pads, p.label ∈ g.produced.map Pad.label := by
  induction pads with
  | nil => simp [checkInputs]
  | cons p pads ih =>
    rw [List.forall_mem_cons, Pad.forall_mem_links_cons]
    unfold checkInputs
    by_cases hkind : p.kind = kind
    · by_cases hknown : p.isInput = false → p.label ∈ g.produced.map Pad.label
      · have hpass : (!p.isInput && !g.isTaken p.label) = false := by
          cases hi : p.isInput with
          | true => rfl
          | false => simpa using isTaken_iff.mpr (hknown hi)
        simp only [hkind, hpass, bne_self_eq_false, Bool.false_eq_true, if_false, ih, true_and]
        exact ⟨fun h => ⟨h.1, hknown, h.2⟩, fun h => ⟨h.1, h.2.2⟩⟩
      · obtain ⟨hi, hnot⟩ := Classical.not_imp.mp hknown
        have hfree : g.isTaken p.label = false := by
          rw [Bool.eq_false_iff]
          exact fun h => hnot (isTaken_iff.mp h)
        simp [hkind, hi, hfree, hnot]
    · simp [hkind]

theorem takeLabels_eq_ok {kind : StreamKind} {labels : List String} (hd : labels.Nodup)
    (hn : ∀ label ∈ labels, label ∉ g.produced.map Pad.label) :
    g.takeLabels kind labels =
      ({ g with produced := g.produced ++ labels.map (Pad.link · kind) },
        .ok (labels.map (Pad.link · kind))) := by
  induction labels generalizing g with
  | nil => simp [takeLabels]
  | cons label labels ih =>
    have hfree : g.isTaken label = false := by
      rw [Bool.eq_false_iff]
      exact fun h => hn label List.mem_cons_self (isTaken_iff.mp h)
    rw [List.nodup_cons] at hd
    unfold takeLabels
    rw [hfree]
    have ih' := ih (g := { g with produced := g.produced ++ [Pad.link label kind] }) hd.2 (by
      intro other ho hm
      rw [List.map_append, List.mem_append] at hm
      rcases hm with hm | hm
      · exact hn other (List.mem_cons_of_mem _ ho) hm
      · obtain rfl : other = label := by simpa [Pad.link] using hm
        exact hd.1 ho)
    simp only [Bool.false_eq_true, ↓reduceIte, ih', List.append_assoc, List.map_cons,
      List.singleton_append]
    rfl

/-- A statement whose inputs are of one kind and whose labels are new is appended. -/
theorem addMulti_eq_grow {expr : String} {kind : StreamKind} {pads : List Pad}
    {labels : List String} (hne : pads ≠ []) (hk : ∀ p ∈ pads, p.kind = kind)
    (ht : ∀ p ∈ links pads, p.label ∈ g.produced.map Pad.label) (hd : labels.Nodup)
    (hn : ∀ label ∈ labels, label ∉ g.produced.map Pad.label) :
    g.addMulti expr pads labels none =
      (g.grow ⟨expr, kind, pads, labels.map (Pad.link · kind)⟩,
        .ok (labels.map (Pad.link · kind))) := by
  cases pads with
  | nil => exact absurd rfl hne
  | cons p pads =>
    have hkind : p.kind = kind := hk p List.mem_cons_self
    simp only [addMulti, Option.getD_none, hkind, checkInputs_eq_ok_iff.mpr ⟨hk, ht⟩,
      takeLabels_eq_ok hd hn]
    rfl

/-- Statements that read only labels made by earlier ones, or made before all of them. -/
def LabelsInOrder (made : List String) : List FilterNode → Prop
  | [] => True
  | n :: rest =>
    (∀ p ∈ links n.inputs, p.label ∈ made) ∧ LabelsInOrder (made ++ n.outputs.map Pad.label) rest

theorem labelsInOrder_append (made : List String) (a b : List FilterNode) :
    LabelsInOrder made (a ++ b) ↔
      LabelsInOrder made a ∧
        LabelsInOrder (made ++ (a.flatMap FilterNode.outputs).map Pad.label) b := by
  induction a generalizing made with
  | nil => simp [LabelsInOrder]
  | cons n a ih => simp only [List.cons_append, LabelsInOrder, ih, List.flatMap_cons,
      List.map_append, and_assoc, List.append_assoc]

theorem InOrder.labels {made : List Pad} {nodes : List FilterNode} (h : InOrder made nodes) :
    LabelsInOrder (made.map Pad.label) nodes := by
  induction nodes generalizing made with
  | nil => trivial
  | cons n rest ih =>
    refine ⟨fun p hp => List.mem_map_of_mem (h.1 p hp), ?_⟩
    rw [← List.map_append]
    exact ih h.2

/-- Where no label is made twice, a label is found before a place exactly if a statement
before it makes the label: no later one can. -/
theorem isProducedBefore_iff {before rest : List FilterNode} (hn : g.nodes = before ++ rest)
    (hd : ((g.nodes.flatMap FilterNode.outputs).map Pad.label).Nodup) {label : String} :
    g.isProducedBefore before.length label = true ↔
      label ∈ (before.flatMap FilterNode.outputs).map Pad.label := by
  rw [hn, List.flatMap_append, List.map_append] at hd
  simp only [isProducedBefore, hn, List.take_left', List.drop_left', Bool.and_eq_true,
    Bool.not_eq_true', List.any_eq_true, List.any_eq_false, beq_iff_eq]
  constructor
  · rintro ⟨⟨m, hm, p, hp, rfl⟩, -⟩
    exact List.mem_map_of_mem (List.mem_flatMap.mpr ⟨m, hm, hp⟩)
  · intro hl
    obtain ⟨p, hp, rfl⟩ := List.mem_map.mp hl
    obtain ⟨m, hm, hpm⟩ := List.mem_flatMap.mp hp
    refine ⟨⟨m, hm, p, hpm, rfl⟩, ?_⟩
    rintro m' hm' ⟨q, hq, he⟩
    have hlater := List.mem_map_of_mem (f := Pad.label) (List.mem_flatMap.mpr ⟨m', hm', hq⟩)
    exact List.disjoint_of_nodup_append hd hl (he ▸ hlater)

theorem firstEarly?_eq_none_iff {before rest : List FilterNode} (hn : g.nodes = before ++ rest)
    (hd : ((g.nodes.flatMap FilterNode.outputs).map Pad.label).Nodup) :
    g.firstEarly? before.length rest = none ↔
      LabelsInOrder ((before.flatMap FilterNode.outputs).map Pad.label) rest := by
  induction rest generalizing before with
  | nil => simp [firstEarly?, LabelsInOrder]
  | cons n rest ih =>
    have hfirst :
        n.inputs.find? (fun p => !p.isInput && !g.isProducedBefore before.length p.label) = none ↔
          ∀ p ∈ links n.inputs, p.label ∈ (before.flatMap FilterNode.outputs).map Pad.label := by
      rw [List.find?_eq_none]
      refine forall_congr' fun p => ?_
      rw [← isProducedBefore_iff hn hd, Pad.mem_links, and_imp]
      simp
    have ih' := @ih (before ++ [n]) (by simp [hn])
    simp only [List.length_append, List.length_singleton, List.flatMap_append, List.flatMap_cons,
      List.flatMap_nil, List.append_nil, List.map_append] at ih'
    simp only [firstEarly?, LabelsInOrder, ← hfirst, ← ih']
    cases n.inputs.find? (fun p => !p.isInput && !g.isProducedBefore before.length p.label) <;> simp

/-- A graph that makes no label twice passes exactly if labels are read after they are made and
every label that is made or declared is used once. -/
theorem validate_eq_ok_iff (hd : ((g.nodes.flatMap FilterNode.outputs).map Pad.label).Nodup) :
    g.validate = .ok () ↔
      LabelsInOrder [] g.nodes ∧ ∀ label ∈ g.countedLabels, g.uses label = 1 := by
  have hearly : g.firstEarly? 0 g.nodes = none ↔ LabelsInOrder [] g.nodes :=
    @firstEarly?_eq_none_iff g [] g.nodes rfl hd
  have hcounted : g.countedLabels.find? (fun label => g.uses label != 1) = none ↔
      ∀ label ∈ g.countedLabels, g.uses label = 1 := by
    simp [List.find?_eq_none]
  rw [← hearly, ← hcounted, validate]
  cases g.firstEarly? 0 g.nodes with
  | some label => simp
  | none => cases g.countedLabels.find? (fun label => g.uses label != 1) <;> simp

theorem uses_eq_count (g : FilterGraph) (label : String) :
    g.uses label = (g.reads.map Pad.label).count label := by
  rw [uses, reads, Pad.links, List.count_eq_countP, List.countP_map, List.countP_filter]
  congr 1
  funext p
  simp [Bool.and_comm]

namespace Wired

theorem perm {live' : List Pad} (h : g.Wired live) (hp : live.Perm live') : g.Wired live' :=
  { h with balance := (hp.symm.append_left _).trans h.balance }

theorem live_produced (h : g.Wired live) {p : Pad} (hp : p ∈ live) : p ∈ g.produced :=
  h.balance.subset (List.mem_append_right _ hp)

theorem reads_produced (h : g.Wired live) {p : Pad} (hp : p ∈ g.reads) : p ∈ g.produced :=
  h.balance.subset (List.mem_append_left _ hp)

/-- A statement whose inputs wait for a reader, and whose outputs are new, keeps a graph
wired; the outputs then wait instead of the inputs. -/
theorem grow {n : FilterNode} {rest : List Pad} (h : g.Wired (links n.inputs ++ rest))
    (hkinds : ∀ p ∈ n.inputs ++ n.outputs, p.kind = n.kind)
    (hlinks : ∀ p ∈ n.outputs, p.isInput = false)
    (hdistinct : (n.outputs.map Pad.label).Nodup)
    (hnew : ∀ p ∈ n.outputs, p.label ∉ g.produced.map Pad.label) :
    (g.grow n).Wired (n.outputs ++ rest) where
  produced_eq := by simp [FilterGraph.grow, h.produced_eq]
  links_only := by
    intro p hp
    rcases List.mem_append.mp hp with hp | hp
    · exact h.links_only p hp
    · exact hlinks p hp
  distinct := by
    change ((g.produced ++ n.outputs).map Pad.label).Nodup
    rw [List.map_append]
    refine h.distinct.append hdistinct ?_
    intro label hg hn
    obtain ⟨p, hp, rfl⟩ := List.mem_map.mp hn
    exact hnew p hp hg
  kinds := by
    intro m hm
    rcases List.mem_append.mp hm with hm | hm
    · exact h.kinds m hm
    · rw [List.mem_singleton.mp hm]
      exact hkinds
  inOrder := by
    refine (inOrder_append _ _ _).mpr ⟨h.inOrder, ?_, trivial⟩
    intro p hp
    have hg := h.live_produced (List.mem_append_left _ hp)
    rw [h.produced_eq] at hg
    exact hg
  balance := by
    have hreads : ((g.grow n).reads).Perm (g.reads ++ links n.inputs) := by
      simp only [reads, FilterGraph.grow, List.flatMap_append, List.flatMap_cons,
        List.flatMap_nil, List.append_nil, Pad.links_append, List.append_assoc]
      exact List.perm_append_comm.append_left _
    have hmove : (g.reads ++ links n.inputs ++ (n.outputs ++ rest)).Perm
        (g.reads ++ (links n.inputs ++ rest) ++ n.outputs) := by
      simp only [List.append_assoc]
      exact ((List.perm_append_comm).append_left _).append_left _
    exact (hreads.append_right _).trans (hmove.trans (h.balance.append_right _))

/-- Declaring a pad as an output is the one use of a link. -/
theorem markOutput {p : Pad} {rest : List Pad} (h : g.Wired (links [p] ++ rest)) :
    (g.markOutput p).Wired rest := by
  refine { h with balance := ?_ }
  have hreads : (g.markOutput p).reads = g.reads ++ links [p] := by
    simp only [reads, FilterGraph.markOutput, ← List.append_assoc, Pad.links_append]
  rw [hreads, List.append_assoc]
  exact h.balance

/-- Once no link waits, every label produced is used exactly once. -/
theorem uses_eq_one (h : g.Wired []) {label : String} (hl : label ∈ g.produced.map Pad.label) :
    g.uses label = 1 := by
  have hb : g.reads.Perm g.produced := by simpa using h.balance
  rw [uses_eq_count, (hb.map Pad.label).count_eq]
  exact List.count_eq_one_of_mem h.distinct hl

theorem validate_eq_ok (h : g.Wired []) : g.validate = .ok () := by
  refine (validate_eq_ok_iff (by simpa [h.produced_eq] using h.distinct)).mpr
    ⟨h.inOrder.labels, fun label hl => ?_⟩
  obtain ⟨p, hp, rfl⟩ := List.mem_map.mp hl
  refine h.uses_eq_one (List.mem_map_of_mem ?_)
  rcases List.mem_append.mp hp with hp | hp
  · rw [h.produced_eq]
    exact hp
  · refine h.reads_produced (Pad.mem_links.mpr ?_)
    simp only [List.mem_filter, Bool.not_eq_true'] at hp
    exact ⟨List.mem_append_right _ hp.1, hp.2⟩

end Wired

end FilterGraph

end Compositor
