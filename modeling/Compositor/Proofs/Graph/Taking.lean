import Compositor.Graph.Record
import Compositor.Proofs.Graph.Wired

/-!
# Taking statements

What a call that appends a statement does to any graph: it appends a statement that the graph
`Takes`, or it is refused. A refused call may lose labels, since they are taken before the
statement is put together.
-/
namespace Compositor

namespace FilterGraph

open Pad (links)

/-- Links of one kind that a graph can make next. -/
structure Fresh (g : FilterGraph) (kind : StreamKind) (pads : List Pad) : Prop where
  link : ∀ p ∈ pads, p.isInput = false
  kind : ∀ p ∈ pads, p.kind = kind
  distinct : (pads.map Pad.label).Nodup
  new : ∀ p ∈ pads, p.label ∉ g.produced.map Pad.label

/-- A statement that a graph takes. -/
structure Takes (g : FilterGraph) (n : FilterNode) : Prop where
  reads : n.inputs ≠ []
  kind : ∀ p ∈ n.inputs, p.kind = n.kind
  known : ∀ p ∈ links n.inputs, p.label ∈ g.produced.map Pad.label
  fresh : g.Fresh n.kind n.outputs

theorem Fresh.nil (g : FilterGraph) (kind : StreamKind) : g.Fresh kind [] :=
  ⟨nofun, nofun, .nil, nofun⟩

theorem Fresh.cons {g : FilterGraph} {kind : StreamKind} {label : String} {pads : List Pad}
    (hfree : label ∉ g.produced.map Pad.label)
    (h : Fresh { g with produced := g.produced ++ [Pad.link label kind] } kind pads) :
    g.Fresh kind (Pad.link label kind :: pads) where
  link := List.forall_mem_cons.mpr ⟨rfl, h.link⟩
  kind := List.forall_mem_cons.mpr ⟨rfl, h.kind⟩
  distinct := by
    refine List.nodup_cons.mpr ⟨fun hl => ?_, h.distinct⟩
    obtain ⟨p, hp, he⟩ := List.mem_map.mp hl
    exact h.new p hp (by simp [he])
  new := List.forall_mem_cons.mpr ⟨hfree, fun p hp hl => h.new p hp (by simp_all)⟩

/-- Fresh links are determined by their labels. -/
theorem Fresh.eq_links {g : FilterGraph} {kind : StreamKind} {pads : List Pad}
    (h : g.Fresh kind pads) : (pads.map Pad.label).map (Pad.link · kind) = pads := by
  have hlink : ∀ p ∈ pads, Pad.link p.label kind = p := by
    intro p hp
    have hinput : p.inputIndex = none := by simpa [Pad.isInput] using h.link p hp
    rw [Pad.link, ← h.kind p hp, ← hinput]
  rw [List.map_map]
  exact (List.map_congr_left hlink).trans (List.map_id pads)

theorem Fresh.nodup {g : FilterGraph} {kind : StreamKind} {pads : List Pad} (h : g.Fresh kind pads)
    (hg : (g.produced.map Pad.label).Nodup) : ((g.produced ++ pads).map Pad.label).Nodup := by
  rw [List.map_append]
  refine hg.append h.distinct fun label hl hp => ?_
  obtain ⟨p, hmem, rfl⟩ := List.mem_map.mp hp
  exact h.new p hmem hl

/-- Whatever the labels are, those that are taken belong to fresh links. If there is an answer, it
consists of these links, and no label is missing. -/
theorem takeLabels_spec (g : FilterGraph) (kind : StreamKind) (labels : List String) :
    ∃ pads, (g.takeLabels kind labels).1 = { g with produced := g.produced ++ pads } ∧
      g.Fresh kind pads ∧ ∀ taken, (g.takeLabels kind labels).2 = .ok taken →
        taken = pads ∧ pads.map Pad.label = labels := by
  induction labels generalizing g with
  | nil =>
    refine ⟨[], by simp [takeLabels], .nil g kind, ?_⟩
    rintro _ ⟨⟩
    exact ⟨rfl, rfl⟩
  | cons label labels ih =>
    unfold takeLabels
    cases htaken : g.isTaken label with
    | true =>
      refine ⟨[], by simp, .nil g kind, fun taken hok => ?_⟩
      cases hok
    | false =>
      have hfree : label ∉ g.produced.map Pad.label := fun hl => by
        rw [isTaken_iff.mpr hl] at htaken
        cases htaken
      obtain ⟨pads, hgraph, hfresh, htake⟩ :=
        ih { g with produced := g.produced ++ [Pad.link label kind] }
      refine ⟨Pad.link label kind :: pads, ?_, hfresh.cons hfree, fun taken hok => ?_⟩
      · simp only [Bool.false_eq_true, if_false, hgraph, List.append_assoc, List.singleton_append]
      · simp only [Bool.false_eq_true, if_false] at hok
        cases hrest : (takeLabels { g with produced := g.produced ++ [Pad.link label kind] } kind
            labels).2 with
        | error e =>
          rw [hrest] at hok
          cases hok
        | ok rest =>
          rw [hrest] at hok
          cases hok
          obtain ⟨rfl, rfl⟩ := htake rest hrest
          exact ⟨rfl, rfl⟩

/-- Labels that are all texts are nothing else. -/
theorem eq_texts {labels : List Json} (h : labelFault? (leadingTexts labels).2 = none) :
    labels = (leadingTexts labels).1.map .str := by
  induction labels with
  | nil => rfl
  | cons label labels ih =>
    cases label with
    | str s =>
      change _ = Json.str s :: (leadingTexts labels).1.map .str
      rw [← ih h]
    | _ => cases h

/-- A call that appends a statement does so with a statement the graph takes, or it is refused;
then no more than some labels are lost. -/
theorem addRecord_cases (g : FilterGraph) (expr : Json) (inputs : List Pad) (labels : List Json)
    (kind : Option StreamKind) :
    (∃ n, g.Takes n ∧ expr = .str n.expr ∧ inputs = n.inputs ∧
      labels = n.outputs.map (fun p => .str p.label) ∧
      g.addRecord expr inputs labels kind = (g.grow n, .ok n.outputs)) ∨
    ∃ kind' lost e, g.Fresh kind' lost ∧
      g.addRecord expr inputs labels kind =
        ({ g with produced := g.produced ++ lost }, .error e) := by
  have hnone (e : Fault) : ({ g with produced := g.produced ++ [] }, Except.error e) =
      ((g, .error e) : FilterGraph × Except Fault (List Pad)) := by simp
  cases inputs with
  | nil => exact .inr ⟨.video, [], _, .nil g _, (hnone _).symm⟩
  | cons first rest =>
    unfold addRecord
    dsimp only
    generalize kind.getD first.kind = kind
    cases hcheck : g.checkInputs expr.text kind (first :: rest) with
    | error e => exact .inr ⟨.video, [], _, .nil g _, (hnone _).symm⟩
    | ok u =>
      obtain ⟨hkinds, hknown⟩ := checkInputs_eq_ok_iff.mp hcheck
      obtain ⟨pads, hgraph, hfresh, htake⟩ := g.takeLabels_spec kind (leadingTexts labels).1
      dsimp only
      cases htaken : g.takeLabels kind (leadingTexts labels).1 with
      | mk g' result =>
        rw [htaken] at hgraph htake
        obtain rfl : g' = { g with produced := g.produced ++ pads } := hgraph
        cases result with
        | error e => exact .inr ⟨kind, pads, _, hfresh, rfl⟩
        | ok taken =>
          obtain ⟨rfl, hlabels⟩ := htake taken rfl
          cases hfault : labelFault? (leadingTexts labels).2 with
          | some e => exact .inr ⟨kind, taken, e, hfresh, rfl⟩
          | none =>
            cases expr with
            | str text =>
              have htexts : labels = taken.map fun p => .str p.label := by
                rw [eq_texts hfault, ← hlabels, List.map_map]
                rfl
              exact .inl ⟨⟨text, kind, first :: rest, taken⟩,
                ⟨List.cons_ne_nil _ _, hkinds, hknown, hfresh⟩, rfl, rfl, htexts, rfl⟩
            | _ => exact .inr ⟨kind, taken, _, hfresh, rfl⟩

/-- Given proper texts, a statement is appended as if they were nothing else. -/
theorem addRecord_texts (g : FilterGraph) (expr : String) (inputs : List Pad)
    (labels : List String) (kind : Option StreamKind) :
    g.addRecord (.str expr) inputs (labels.map .str) kind =
      ((g.addMulti expr inputs labels kind).1,
        (g.addMulti expr inputs labels kind).2.mapError Fault.graph) := by
  have hlead : leadingTexts (labels.map Json.str) = (labels, []) := by
    induction labels with
    | nil => rfl
    | cons label labels ih => simp only [List.map_cons, leadingTexts, ih]
  cases inputs with
  | nil => rfl
  | cons first rest =>
    simp only [addRecord, addMulti, hlead, Json.text]
    cases g.checkInputs expr (kind.getD first.kind) (first :: rest) with
    | error e => rfl
    | ok u =>
      dsimp only
      rcases g.takeLabels (kind.getD first.kind) labels with ⟨g', e | pads⟩ <;> rfl

/-- A statement that was appended is the one that was given, with its outputs as they were
answered. -/
theorem addMulti_ok {g g' : FilterGraph} {expr : String} {inputs : List Pad}
    {labels : List String} {kind : Option StreamKind} {pads : List Pad}
    (h : g.addMulti expr inputs labels kind = (g', .ok pads)) :
    ∃ n, g.Takes n ∧ n.expr = expr ∧ n.inputs = inputs ∧ n.outputs = pads ∧
      pads.map Pad.label = labels ∧ g' = g.grow n := by
  have hrecord := g.addRecord_texts expr inputs labels kind
  rw [h] at hrecord
  rcases g.addRecord_cases (.str expr) inputs (labels.map .str) kind with
    ⟨n, hn, hexpr, hinputs, hlabels, hgrow⟩ | ⟨_, _, _, -, hrefused⟩
  · obtain ⟨hgraph, hpads⟩ := Prod.mk.inj (hgrow.symm.trans hrecord)
    cases hpads
    refine ⟨n, hn, (Json.str.inj hexpr).symm, hinputs.symm, rfl, ?_, hgraph.symm⟩
    have hmap : labels.map Json.str = (n.outputs.map Pad.label).map Json.str := by
      rw [hlabels, List.map_map]
      rfl
    exact (List.map_injective_iff.mpr (fun _ _ => Json.str.inj) hmap).symm
  · cases (Prod.mk.inj (hrefused.symm.trans hrecord)).2

end FilterGraph

end Compositor
