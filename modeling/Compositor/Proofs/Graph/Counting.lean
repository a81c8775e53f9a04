import Compositor.Proofs.Graph.History
import Compositor.Proofs.Graph.Term

/-!
# Every link used once

The check of a graph counts uses by label, over the statements and the declared outputs as they
stand. For a graph that is given streams of inputs and its own links only, this is the number of
times that the calls used each link. A graph passes exactly if this number is one for every link
that was made, and then each link has its one statement behind it, and one ahead of it or none.
-/
namespace Compositor

namespace History

open Pad (links)

/-- Calls that extend a graph by itself: every pad given to one is a stream of an input, or a link
that an earlier one answered. -/
def Own (h : History) : List GraphCall → Prop
  | [] => True
  | c :: calls => (∀ p ∈ c.given, p.isInput = true ∨ p ∈ h.made) ∧ (h.next c).Own calls

instance decidableOwn (h : History) : (calls : List GraphCall) → Decidable (h.Own calls)
  | [] => .isTrue trivial
  | c :: calls =>
    have := decidableOwn (h.next c) calls
    inferInstanceAs (Decidable (_ ∧ _))

/-- What a graph uses it made itself, and it made it before. -/
structure Closed (h : History) : Prop where
  used_made : ∀ p ∈ links h.used, p ∈ h.made
  inOrder : FilterGraph.InOrder [] h.graph.nodes

theorem closed_start : start.Closed := ⟨nofun, trivial⟩

theorem Closed.next {h : History} (hc : h.Closed) (hs : h.Sound) {c : GraphCall}
    (hown : ∀ p ∈ c.given, p.isInput = true ∨ p ∈ h.made) : (h.next c).Closed := by
  have hgiven : ∀ p ∈ links c.given, p ∈ h.made := by
    intro p hp
    obtain ⟨hmem, hlink⟩ := Pad.mem_links.mp hp
    exact (hown p hmem).resolve_left (by simp [hlink])
  have hused : ∀ p ∈ links (h.used ++ c.given), p ∈ h.made := by
    intro p hp
    rw [Pad.links_append] at hp
    exact (List.mem_append.mp hp).elim (hc.used_made p) (hgiven p)
  unfold History.next
  rcases c.run_cases h.graph with ⟨n, -, hin, hrun⟩ | ⟨p, -, hrun⟩ | ⟨_, lost, e, -, hrun⟩
  · rw [hrun]
    refine ⟨fun p hp => List.mem_append_left _ (hused p hp), ?_⟩
    refine (FilterGraph.inOrder_append _ _ _).mpr ⟨hc.inOrder, ?_, trivial⟩
    rw [hin, List.nil_append, ← hs.made_eq]
    exact hgiven
  · rw [hrun]
    exact ⟨fun p hp => List.mem_append_left _ (hused p hp), hc.inOrder⟩
  · rw [hrun]
    exact ⟨hc.used_made, hc.inOrder⟩

theorem Closed.run {h : History} (hc : h.Closed) (hs : h.Sound) {calls : List GraphCall}
    (hown : h.Own calls) : (calls.foldl History.next h).Closed := by
  induction calls generalizing h with
  | nil => exact hc
  | cons c calls ih => exact ih (hc.next hs hown.1) (hs.next c) hown.2

theorem closed_of {calls : List GraphCall} (hown : start.Own calls) : (of calls).Closed :=
  closed_start.run sound_start hown

theorem filter_inputs_eq_nil {nodes : List FilterNode} {p : Pad}
    (hcount : (nodes.flatMap FilterNode.inputs).count p = 0) :
    nodes.filter (fun n => n.inputs.contains p) = [] := by
  rw [List.filter_eq_nil_iff]
  intro n hn hcontains
  exact List.count_eq_zero.mp hcount
    (List.mem_flatMap.mpr ⟨n, hn, List.contains_iff_mem.mp hcontains⟩)

section

variable {h : History} (hs : h.Sound) (hc : h.Closed)

include hs hc

/-- Counting uses of a label is counting uses of the link that bears it. -/
theorem uses_eq_count_used {p : Pad} (hp : p ∈ h.made) :
    h.graph.uses p.label = h.used.count p := by
  rw [FilterGraph.uses, ← hs.used_perm.countP_eq, List.count_eq_countP]
  refine List.countP_congr fun q hq => ?_
  cases hi : q.isInput with
  | true =>
    have hne : q ≠ p := fun he => by simp [he, hs.link p hp] at hi
    simp [hne]
  | false =>
    have hmade : q ∈ h.made := hc.used_made q (Pad.mem_links.mpr ⟨hq, hi⟩)
    have hsame : q.label = p.label ↔ q = p :=
      ⟨hs.eq_of_label hmade hp, congrArg Pad.label⟩
    simp [hsame]

/-- The labels that are counted are those of the links made. -/
theorem mem_countedLabels_iff {label : String} :
    label ∈ h.graph.countedLabels ↔ ∃ p ∈ h.made, p.label = label := by
  have hdeclared : ∀ p ∈ links h.graph.outputs, p ∈ h.made := by
    intro p hp
    obtain ⟨hmem, hlink⟩ := Pad.mem_links.mp hp
    have hused : p ∈ h.used := hs.used_perm.symm.subset (List.mem_append_right _ hmem)
    exact hc.used_made p (Pad.mem_links.mpr ⟨hused, hlink⟩)
  rw [FilterGraph.countedLabels, ← hs.made_eq, List.mem_map]
  refine exists_congr fun p => and_congr_left fun _ => ?_
  rw [List.mem_append]
  exact ⟨fun hp => hp.elim id (hdeclared p), .inl⟩

theorem validate_iff_used_once :
    h.graph.validate = .ok () ↔ ∀ p ∈ h.made, h.used.count p = 1 := by
  rw [FilterGraph.validate_eq_ok_iff hs.outputs_distinct]
  constructor
  · rintro ⟨-, hall⟩ p hp
    rw [← uses_eq_count_used hs hc hp]
    exact hall _ ((mem_countedLabels_iff hs hc).mpr ⟨p, hp, rfl⟩)
  · intro hall
    refine ⟨hc.inOrder.labels, fun label hl => ?_⟩
    obtain ⟨p, hp, rfl⟩ := (mem_countedLabels_iff hs hc).mp hl
    rw [uses_eq_count_used hs hc hp]
    exact hall p hp

/-- A link that is read once is read by one statement, which stands behind the one that made
the link. -/
theorem consumers_of_count_inputs {n : FilterNode} (hn : n ∈ h.graph.nodes) {p : Pad}
    (hp : p ∈ n.outputs)
    (hcount : (h.graph.nodes.flatMap FilterNode.inputs).count p = 1) :
    ∃ m before between after, h.graph.consumers p = [m] ∧
      h.graph.nodes = before ++ n :: between ++ m :: after := by
  have hread : p ∈ h.graph.nodes.flatMap FilterNode.inputs := by
    rw [← List.count_pos_iff]
    omega
  obtain ⟨m, hm, hpm⟩ := List.mem_flatMap.mp hread
  obtain ⟨front, after, hsplit⟩ := List.append_of_mem hm
  -- the one use is in `m`, so that no other statement reads the link
  have hfew : (front.flatMap FilterNode.inputs).count p = 0 ∧
      (after.flatMap FilterNode.inputs).count p = 0 := by
    have hpos : 0 < m.inputs.count p := List.count_pos_iff.mpr hpm
    simp only [hsplit, List.flatMap_append, List.flatMap_cons, List.count_append] at hcount
    omega
  have hconsumers : h.graph.consumers p = [m] := by
    have hhere : [m].filter (fun k => k.inputs.contains p) = [m] := by simp [hpm]
    rw [FilterGraph.consumers, hsplit, List.append_cons, List.filter_append, List.filter_append,
      filter_inputs_eq_nil hfew.1, hhere, filter_inputs_eq_nil hfew.2]
    rfl
  have hmade : p ∈ h.made := hs.mem_made_iff.mpr ⟨n, hn, hp⟩
  have horder := hc.inOrder
  rw [hsplit, FilterGraph.inOrder_append] at horder
  have hfront := horder.2.1 p (Pad.mem_links.mpr ⟨hpm, hs.link p hmade⟩)
  obtain ⟨n', hn', hp'⟩ := List.mem_flatMap.mp hfront
  -- the statement in front that made the link can only be `n`
  have hsame : n' = n := by
    have hmem : n' ∈ h.graph.nodes := hsplit ▸ List.mem_append_left _ hn'
    exact Option.some.inj ((hs.producer?_eq hmem hp').symm.trans (hs.producer?_eq hn hp))
  obtain ⟨before, between, hbefore⟩ := List.append_of_mem (hsame ▸ hn')
  exact ⟨m, before, between, after, hconsumers, by rw [hsplit, hbefore]⟩

end

theorem Sound.count_used {h : History} (hs : h.Sound) (p : Pad) :
    h.used.count p =
      (h.graph.nodes.flatMap FilterNode.inputs).count p + h.graph.outputs.count p := by
  rw [hs.used_perm.count_eq, List.count_append]

/-- Later calls only add statements. -/
theorem grows_next (h : History) (c : GraphCall) : h.graph.Grows (h.next c).graph := by
  unfold History.next
  rcases c.run_cases h.graph with ⟨n, -, -, hrun⟩ | ⟨p, -, hrun⟩ | ⟨_, lost, e, -, hrun⟩
  · rw [hrun]
    exact .grow h.graph n
  · rw [hrun]
    exact .markOutput h.graph p
  · rw [hrun]
    exact .refl h.graph

theorem grows_of_append (before after : List GraphCall) :
    (of before).graph.Grows (of (before ++ after)).graph := by
  have hrun (h : History) : h.graph.Grows (after.foldl next h).graph := by
    induction after generalizing h with
    | nil => exact .refl h.graph
    | cons c after ih => exact (grows_next h c).trans (ih (h.next c))
  rw [of, of, List.foldl_append]
  exact hrun _

/-- The links that a call answers are the outputs of the one statement it adds. -/
theorem statement_of_answer {h : History} {c : GraphCall} {g : FilterGraph} {pads : List Pad}
    (hrun : c.run h.graph = (g, .ok pads)) {p : Pad} (hp : p ∈ pads) :
    ∃ n, g.nodes = h.graph.nodes ++ [n] ∧ p ∈ n.outputs ∧ (h.next c).graph = g := by
  have hnext : (h.next c).graph = g := by rw [History.next, hrun]
  rcases c.run_cases h.graph with ⟨n, -, -, hcase⟩ | ⟨q, -, hcase⟩ | ⟨_, lost, e, -, hcase⟩
  · obtain ⟨rfl, hpads⟩ := Prod.mk.inj (hcase.symm.trans hrun)
    cases hpads
    exact ⟨n, rfl, hp, hnext⟩
  · cases (Prod.mk.inj (hcase.symm.trans hrun)).2
    cases hp
  · cases (Prod.mk.inj (hcase.symm.trans hrun)).2

/-- A graph extended by itself makes no label twice, and it passes exactly if every link that was
answered is used once, by a statement or as a declared output. When it passes, the statement found
behind each link is the one that the call added, and ahead of the link is nothing but its
declaration, or one later statement. -/
theorem validate_counts_uses (calls : List GraphCall) (hown : start.Own calls) :
    ((of calls).made.map Pad.label).Nodup ∧
    ((of calls).graph.validate = .ok () ↔
      ∀ p ∈ (of calls).made, (of calls).used.count p = 1) ∧
    ((of calls).graph.validate = .ok () →
      ∀ before c after, calls = before ++ c :: after →
        ∀ g pads, c.run (of before).graph = (g, .ok pads) → ∀ p ∈ pads,
          ∃ n, g.nodes = (of before).graph.nodes ++ [n] ∧
            (of calls).graph.producer? p.label = some n ∧
            ((of calls).graph.outputs.count p = 1 ∧ (of calls).graph.consumers p = [] ∨
              (of calls).graph.outputs.count p = 0 ∧
              ∃ m front between back, (of calls).graph.consumers p = [m] ∧
                (of calls).graph.nodes = front ++ n :: between ++ m :: back)) := by
  have hs := sound_of calls
  have hc := closed_of hown
  refine ⟨hs.made_distinct, validate_iff_used_once hs hc, ?_⟩
  rintro hvalid before c after hcalls g pads hrun p hp
  obtain ⟨n, hnodes, hout, hnext⟩ := statement_of_answer hrun hp
  have hn : n ∈ (of calls).graph.nodes := by
    have hgrows := grows_of_append (before ++ [c]) after
    rw [of_concat, hnext, List.append_assoc, List.singleton_append, ← hcalls] at hgrows
    exact hgrows.subset (by simp [hnodes])
  have hused : (of calls).used.count p = 1 :=
    (validate_iff_used_once hs hc).mp hvalid p (hs.mem_made_iff.mpr ⟨n, hn, hout⟩)
  rw [hs.count_used] at hused
  refine ⟨n, hnodes, hs.producer?_eq hn hout, ?_⟩
  by_cases hdeclared : (of calls).graph.outputs.count p = 1
  · exact .inl ⟨hdeclared, filter_inputs_eq_nil (by omega)⟩
  · exact .inr ⟨by omega, consumers_of_count_inputs hs hc hn hout (by omega)⟩

/-- A picture is forked, a label is taken twice and refused, and both halves meet again. -/
def forked : List GraphCall :=
  [.addMulti "split" [.input 0 .video] ["a", "b"] none,
   .add "negate" [.link "a" .video] "b" none,
   .add "overlay" [.link "a" .video, .link "b" .video] "c" none,
   .markOutput (.link "c" .video)]

theorem validate_counts_uses_forked :
    start.Own forked ∧ (of forked).graph.validate = .ok () ∧
      ∀ p ∈ (of forked).made, (of forked).used.count p = 1 := by
  have hown : start.Own forked := by decide +kernel
  have hvalid : (of forked).graph.validate = .ok () := by decide +kernel
  exact ⟨hown, hvalid, (validate_counts_uses forked hown).2.1.mp hvalid⟩

end History

end Compositor
