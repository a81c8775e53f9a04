import Compositor.Proofs.Graph.Counting

/-!
# Links that come from elsewhere

A pad is a plain value, so that a call can be given a link of another graph, or one that no call
ever answered. The check looks at labels: what is read must have been made before under this
label. It does not compare kinds across statements, and for a declared output it only counts.
A graph that passes is therefore grounded exactly when all the links it was given are its own.
-/
namespace Compositor

open Pad (links)

/-- No link of a graph dangles or changes what it carries: behind every link that is read stands
an earlier statement with an output of this label and kind, and behind every link that is declared
stands some statement. -/
structure FilterGraph.Grounded (g : FilterGraph) : Prop where
  read : ∀ before n after, g.nodes = before ++ n :: after → ∀ p ∈ links n.inputs,
    ∃ m ∈ before, ∃ q ∈ m.outputs, q.label = p.label ∧ q.kind = p.kind
  declared : ∀ p ∈ links g.outputs,
    ∃ m ∈ g.nodes, ∃ q ∈ m.outputs, q.label = p.label ∧ q.kind = p.kind

namespace History

variable {h : History} (hs : h.Sound)

include hs

theorem Sound.mem_links_used {p : Pad} :
    p ∈ links h.used ↔
      (∃ n ∈ h.graph.nodes, p ∈ links n.inputs) ∨ p ∈ links h.graph.outputs := by
  simp only [Pad.mem_links, hs.used_perm.mem_iff, List.mem_append, List.mem_flatMap]
  rw [or_and_right]
  refine or_congr_left ⟨?_, ?_⟩
  · rintro ⟨⟨n, hn, hp⟩, hlink⟩
    exact ⟨n, hn, hp, hlink⟩
  · rintro ⟨n, hn, hp, hlink⟩
    exact ⟨⟨n, hn, hp⟩, hlink⟩

/-- A link is one that the graph made if some statement has an output of its label and kind. -/
theorem Sound.made_of_output {p q : Pad} (hp : p.isInput = false) {m : FilterNode}
    (hm : m ∈ h.graph.nodes) (hq : q ∈ m.outputs) (hl : q.label = p.label)
    (hk : q.kind = p.kind) : p ∈ h.made := by
  have hmade : q ∈ h.made := hs.mem_made_iff.mpr ⟨m, hm, hq⟩
  have hinput : q.inputIndex = p.inputIndex := by
    have hq' := hs.link q hmade
    unfold Pad.isInput at hp hq'
    rw [Option.isSome_eq_false_iff, Option.isNone_iff_eq_none] at hp hq'
    rw [hp, hq']
  obtain rfl : q = p := by
    cases p
    cases q
    simp_all
  exact hmade

/-- What a statement reads bears the label of an earlier output, and is of the statement's
own kind. -/
theorem Sound.label_made_before (horder : FilterGraph.LabelsInOrder [] h.graph.nodes)
    {before after : List FilterNode} {n : FilterNode}
    (hsplit : h.graph.nodes = before ++ n :: after) {p : Pad} (hp : p ∈ links n.inputs) :
    p.kind = n.kind ∧ ∃ m ∈ before, ∃ q ∈ m.outputs, q.label = p.label := by
  constructor
  · have hn : n ∈ h.graph.nodes := by simp [hsplit]
    exact hs.kinds n hn p (List.mem_append_left _ (Pad.mem_links.mp hp).1)
  · rw [hsplit, FilterGraph.labelsInOrder_append] at horder
    obtain ⟨q, hq, hl⟩ := List.mem_map.mp (horder.2.1 p hp)
    obtain ⟨m, hm, hqm⟩ := List.mem_flatMap.mp hq
    exact ⟨m, hm, q, hqm, hl⟩

theorem Sound.grounded_iff (horder : FilterGraph.LabelsInOrder [] h.graph.nodes) :
    h.graph.Grounded ↔ ∀ p ∈ links h.used, p ∈ h.made := by
  constructor
  · rintro hg p hp
    have hlink := (Pad.mem_links.mp hp).2
    rcases hs.mem_links_used.mp hp with ⟨n, hn, hread⟩ | hdeclared
    · obtain ⟨before, after, hsplit⟩ := List.append_of_mem hn
      obtain ⟨m, hm, q, hq, hl, hk⟩ := hg.read before n after hsplit p hread
      exact hs.made_of_output hlink (hsplit ▸ List.mem_append_left _ hm) hq hl hk
    · obtain ⟨m, hm, q, hq, hl, hk⟩ := hg.declared p hdeclared
      exact hs.made_of_output hlink hm hq hl hk
  · intro hown
    constructor
    · intro before n after hsplit p hp
      have hn : n ∈ h.graph.nodes := by simp [hsplit]
      have hmade : p ∈ h.made := hown p (hs.mem_links_used.mpr (.inl ⟨n, hn, hp⟩))
      obtain ⟨-, m, hm, q, hq, hl⟩ := hs.label_made_before horder hsplit hp
      have hmq : q ∈ h.made :=
        hs.mem_made_iff.mpr ⟨m, hsplit ▸ List.mem_append_left _ hm, hq⟩
      obtain rfl := hs.eq_of_label hmq hmade hl
      exact ⟨m, hm, q, hq, rfl, rfl⟩
    · intro p hp
      obtain ⟨m, hm, hq⟩ := hs.mem_made_iff.mp (hown p (hs.mem_links_used.mpr (.inr hp)))
      exact ⟨m, hm, p, hq, rfl, rfl⟩

omit hs

/-- Whatever pads the calls were given: in a graph that passes, a statement reads only links of its
own kind that bear the label of an earlier output. All of them, and the declared ones, are grounded
exactly if none comes from elsewhere. -/
theorem validate_grounds_own_links (calls : List GraphCall)
    (hvalid : (of calls).graph.validate = .ok ()) :
    (∀ before n after, (of calls).graph.nodes = before ++ n :: after →
      ∀ p ∈ links n.inputs,
        p.kind = n.kind ∧ ∃ m ∈ before, ∃ q ∈ m.outputs, q.label = p.label) ∧
    ((of calls).graph.Grounded ↔ ∀ p ∈ links (of calls).used, p ∈ (of calls).made) := by
  have hs := sound_of calls
  have horder := ((FilterGraph.validate_eq_ok_iff hs.outputs_distinct).mp hvalid).1
  refine ⟨fun before n after hsplit p hp => ?_, hs.grounded_iff horder⟩
  exact hs.label_made_before horder hsplit hp

theorem validate_grounds_own_links_forked :
    (of forked).graph.validate = .ok () ∧ (of forked).graph.Grounded := by
  have hvalid : (of forked).graph.validate = .ok () := by decide +kernel
  exact ⟨hvalid, (validate_grounds_own_links forked hvalid).2.mpr (by decide +kernel)⟩

/-- A single link from elsewhere, declared or read, is enough to lose the ground. -/
theorem not_grounded {calls : List GraphCall} (hvalid : (of calls).graph.validate = .ok ())
    {p : Pad} (hp : p ∈ links (of calls).used) (hnot : p ∉ (of calls).made) :
    ¬ (of calls).graph.Grounded := by
  have hs := sound_of calls
  have horder := ((FilterGraph.validate_eq_ok_iff hs.outputs_distinct).mp hvalid).1
  exact fun hg => hnot ((hs.grounded_iff horder).mp hg p hp)

/-- A link that nothing makes is declared as the output of an empty graph. -/
def stray : List GraphCall := [.markOutput (.link "nowhere" .video)]

/-- A picture is read as a sound, and the sound is declared as a picture. -/
def retyped : List GraphCall :=
  [.add "null" [.input 0 .video] "a" none,
   .add "anull" [.link "a" .audio] "b" none,
   .markOutput (.link "b" .video)]

/-- Passing the check grounds no graph. -/
theorem validate_not_grounding :
    ((of stray).graph.validate = .ok () ∧ ¬ (of stray).graph.Grounded) ∧
    ((of retyped).graph.validate = .ok () ∧ ¬ (of retyped).graph.Grounded) := by
  have hstray : (of stray).graph.validate = .ok () := by decide +kernel
  have hretyped : (of retyped).graph.validate = .ok () := by decide +kernel
  have hnowhere : ¬ (of stray).graph.Grounded :=
    not_grounded hstray (p := .link "nowhere" .video) (by decide +kernel) (by decide +kernel)
  have haudio : ¬ (of retyped).graph.Grounded :=
    not_grounded hretyped (p := .link "a" .audio) (by decide +kernel) (by decide +kernel)
  exact ⟨⟨hstray, hnowhere⟩, hretyped, haudio⟩

end History

end Compositor
