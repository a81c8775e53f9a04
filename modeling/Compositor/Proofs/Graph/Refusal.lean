import Compositor.Proofs.Graph.History

/-!
# Refused statements

A call that is refused leaves the statements and the declared outputs of a graph alone. Its
labels are taken one by one, however, and one that is already taken ends the call, so that the
labels in front of it are lost: no statement has them as outputs, and none can have them later.
A call with a single label loses nothing, and neither does one that is refused for its inputs.
-/
namespace Compositor

namespace FilterGraph

open Pad (links)

variable {g : FilterGraph}

/-- The graph after labels were taken for no statement. -/
def lose (g : FilterGraph) (lost : List Pad) : FilterGraph :=
  { g with produced := g.produced ++ lost }

theorem lose_nil (g : FilterGraph) : g.lose [] = g := by simp [lose]

/-- Labels that are lost when a call is refused: those in front of the first label that is
already taken, if that is why the call is refused, and none otherwise. -/
structure Loses (g : FilterGraph) (labels : List Json) (e : GraphError) (lost : List Pad) :
    Prop where
  fresh : ∃ kind, g.Fresh kind lost
  front : ∀ label, e = .duplicateLabel label →
    label ∈ (g.produced ++ lost).map Pad.label ∧
      ∃ rest, labels = lost.map (fun p => .str p.label) ++ .str label :: rest
  otherwise : (∀ label, e ≠ .duplicateLabel label) → lost = []

theorem Loses.nothing {labels : List Json} {e : GraphError}
    (h : ∀ label, e ≠ .duplicateLabel label) : g.Loses labels e [] :=
  ⟨⟨.video, .nil g _⟩, fun label he => absurd he (h label), fun _ => rfl⟩

/-- With one label there is nothing in front of it. -/
theorem Loses.of_single {label : Json} {e : GraphError} {lost : List Pad}
    (h : g.Loses [label] e lost) : lost = [] := by
  by_cases hdup : ∃ label, e = .duplicateLabel label
  · obtain ⟨taken, rfl⟩ := hdup
    obtain ⟨-, rest, hlabels⟩ := h.front taken rfl
    cases lost with
    | nil => rfl
    | cons p lost => simp at hlabels
  · exact h.otherwise (by simpa using hdup)

/-! ## What a refusal loses -/

theorem checkInputs_refused {expr : String} {kind : StreamKind} {pads : List Pad} {e : GraphError}
    (h : g.checkInputs expr kind pads = .error e) (label : String) : e ≠ .duplicateLabel label := by
  induction pads with
  | nil => cases h
  | cons p pads ih =>
    unfold checkInputs at h
    split at h
    · cases h
      intro heq
      cases heq
    · split at h
      · cases h
        intro heq
        cases heq
      · exact ih h

/-- Labels are refused at the first one that is taken, and those in front of it are not given
back. -/
theorem takeLabels_refused {g' : FilterGraph} {kind : StreamKind} {labels : List String}
    {e : GraphError} (h : g.takeLabels kind labels = (g', .error e)) :
    ∃ lost label rest, e = .duplicateLabel label ∧ labels = lost.map Pad.label ++ label :: rest ∧
      label ∈ (g.produced ++ lost).map Pad.label ∧ g.Fresh kind lost ∧ g' = g.lose lost := by
  induction labels generalizing g with
  | nil => cases h
  | cons label labels ih =>
    unfold takeLabels at h
    cases htaken : g.isTaken label with
    | true =>
      rw [htaken, if_pos rfl] at h
      cases h
      refine ⟨[], label, labels, rfl, rfl, ?_, .nil _ kind, (lose_nil _).symm⟩
      simpa using isTaken_iff.mp htaken
    | false =>
      have hfree : label ∉ g.produced.map Pad.label := fun hl => by
        rw [isTaken_iff.mpr hl] at htaken
        cases htaken
      rw [htaken, if_neg Bool.false_ne_true] at h
      cases hrest : (g.lose [Pad.link label kind]).takeLabels kind labels with
      | mk last result =>
        simp only [lose] at hrest
        simp only [hrest] at h
        cases result with
        | ok taken => cases h
        | error e' =>
          cases h
          obtain ⟨lost, dup, rest, rfl, rfl, hmem, hfresh, rfl⟩ := ih hrest
          refine ⟨Pad.link label kind :: lost, dup, rest, rfl, rfl, ?_, hfresh.cons hfree, ?_⟩
          · simpa using hmem
          · simp [lose]

theorem leadingTexts_eq {labels others : List Json} {texts : List String}
    (h : leadingTexts labels = (texts, others)) : labels = texts.map .str ++ others := by
  induction labels generalizing texts with
  | nil =>
    cases h
    rfl
  | cons label labels ih =>
    cases label with
    | str s =>
      cases hrest : leadingTexts labels with
      | mk texts' others' =>
        simp only [leadingTexts, hrest] at h
        cases h
        simp [ih hrest]
    | _ =>
      cases h
      rfl

/-- What a call that appends a statement loses when it is refused. -/
theorem addRecord_refused {expr : Json} {inputs : List Pad} {labels : List Json}
    {kind : Option StreamKind} {e : GraphError}
    (h : (g.addRecord expr inputs labels kind).2 = .error (.graph e)) :
    ∃ lost, (g.addRecord expr inputs labels kind).1 = g.lose lost ∧ g.Loses labels e lost := by
  cases inputs with
  | nil =>
    cases h
    exact ⟨[], g.lose_nil.symm, .nothing nofun⟩
  | cons first rest =>
    unfold addRecord at h ⊢
    dsimp only at h ⊢
    generalize kind.getD first.kind = kind at h ⊢
    cases hcheck : g.checkInputs expr.text kind (first :: rest) with
    | error refused =>
      rw [hcheck] at h
      cases h
      exact ⟨[], g.lose_nil.symm, .nothing (checkInputs_refused hcheck)⟩
    | ok u =>
      rw [hcheck] at h
      cases hlead : leadingTexts labels with
      | mk texts others =>
        cases htake : g.takeLabels kind texts with
        | mk g' result =>
          simp only [hlead, htake] at h ⊢
          cases result with
          | error refused =>
            cases h
            obtain ⟨lost, label, rest', rfl, rfl, hmem, hfresh, rfl⟩ := takeLabels_refused htake
            refine ⟨lost, rfl, ⟨kind, hfresh⟩, fun dup hdup => ?_,
              fun hne => absurd rfl (hne label)⟩
            obtain rfl : label = dup := by simpa using hdup
            refine ⟨hmem, rest'.map .str ++ others, ?_⟩
            rw [leadingTexts_eq hlead]
            simp
          | ok pads =>
            -- what is wrong now is no matter of the graph
            exfalso
            dsimp only at h
            cases hfault : labelFault? others with
            | some fault =>
              rw [hfault] at h
              cases others with
              | nil => cases hfault
              | cons v others => cases v <;> cases hfault <;> cases h
            | none =>
              rw [hfault] at h
              cases expr <;> cases h

/-! ## Trying again -/

/-- A graph appends the statements it takes. -/
theorem addMulti_takes {n : FilterNode} (hn : g.Takes n) {kind : Option StreamKind}
    (hkind : ∀ k ∈ kind, k = n.kind) :
    g.addMulti n.expr n.inputs (n.outputs.map Pad.label) kind = (g.grow n, .ok n.outputs) := by
  have hnew : ∀ label ∈ n.outputs.map Pad.label, label ∉ g.produced.map Pad.label := by
    intro label hlabel
    obtain ⟨p, hp, rfl⟩ := List.mem_map.mp hlabel
    exact hn.fresh.new p hp
  have htake : g.takeLabels n.kind (n.outputs.map Pad.label) = _ :=
    takeLabels_eq_ok hn.fresh.distinct hnew
  rw [hn.fresh.eq_links] at htake
  have hcheck : g.checkInputs n.expr n.kind n.inputs = .ok () :=
    checkInputs_eq_ok_iff.mpr ⟨hn.kind, hn.known⟩
  obtain ⟨first, rest, hinputs⟩ := List.exists_cons_of_ne_nil hn.reads
  have hfirst : kind.getD first.kind = n.kind := by
    cases kind with
    | none => exact hn.kind first (by simp [hinputs])
    | some k => exact hkind k rfl
  rw [hinputs] at hcheck ⊢
  simp only [addMulti, hfirst, hcheck, htake]
  rw [← hinputs]
  rfl

/-- A call that appends a statement is accepted exactly if the graph takes the statement. -/
theorem addRecord_ok_iff {expr : Json} {inputs : List Pad} {labels : List Json}
    {kind : Option StreamKind} {pads : List Pad} :
    (g.addRecord expr inputs labels kind).2 = .ok pads ↔
      ∃ n, g.Takes n ∧ (∀ k ∈ kind, k = n.kind) ∧ expr = .str n.expr ∧ inputs = n.inputs ∧
        labels = n.outputs.map (fun p => .str p.label) ∧ pads = n.outputs := by
  constructor
  · intro h
    rcases g.addRecord_cases expr inputs labels kind with
      ⟨n, hn, hexpr, rfl, hlabels, hrun⟩ | ⟨_, _, _, -, hrun⟩
    · have hpads : n.outputs = pads := by simpa [hrun] using h
      refine ⟨n, hn, ?_, hexpr, rfl, hlabels, hpads.symm⟩
      rintro k rfl
      obtain ⟨first, rest, hinputs⟩ := List.exists_cons_of_ne_nil hn.reads
      have hmem : first ∈ n.inputs := by simp [hinputs]
      rw [← hn.kind first hmem]
      rw [hinputs] at h
      simp only [addRecord, Option.getD_some] at h
      cases hcheck : g.checkInputs expr.text k (first :: rest) with
      | ok u => exact ((checkInputs_eq_ok_iff.mp hcheck).1 first List.mem_cons_self).symm
      | error e =>
        rw [hcheck] at h
        cases h
    · rw [hrun] at h
      cases h
  · rintro ⟨n, hn, hkind, rfl, rfl, rfl, rfl⟩
    have htexts := g.addRecord_texts n.expr n.inputs (n.outputs.map Pad.label) kind
    rw [addMulti_takes hn hkind, List.map_map] at htexts
    exact (Prod.ext_iff.mp htexts).2

theorem lose_labels (g : FilterGraph) (lost : List Pad) :
    (g.lose lost).produced.map Pad.label = g.produced.map Pad.label ++ lost.map Pad.label :=
  List.map_append

/-- A statement that needs a lost label is no longer taken. -/
theorem Takes.not_lost {n : FilterNode} {lost : List Pad} (h : (g.lose lost).Takes n) :
    ∀ p ∈ n.outputs, p.label ∉ lost.map Pad.label := by
  intro p hp hlost
  refine h.fresh.new p hp ?_
  rw [lose_labels]
  exact List.mem_append_right _ hlost

/-- Any other statement is taken as before. -/
theorem Takes.lose {n : FilterNode} {lost : List Pad} (h : g.Takes n)
    (hfree : ∀ p ∈ n.outputs, p.label ∉ lost.map Pad.label) : (g.lose lost).Takes n where
  reads := h.reads
  kind := h.kind
  known := by
    intro p hp
    rw [lose_labels]
    exact List.mem_append_left _ (h.known p hp)
  fresh := by
    refine ⟨h.fresh.link, h.fresh.kind, h.fresh.distinct, fun p hp hmem => ?_⟩
    rw [lose_labels] at hmem
    exact (List.mem_append.mp hmem).elim (h.fresh.new p hp) (hfree p hp)

end FilterGraph

namespace GraphCall

variable {g : FilterGraph} {c : GraphCall} {pads lost : List Pad} {e : GraphError}

/-- The labels for the outputs of the statement that a call would append. -/
def labels : GraphCall → List Json
  | .add _ _ label _ => [label]
  | .addMulti _ _ labels _ => labels
  | .markOutput _ => []

theorem run_refused (h : (c.run g).2 = .error (.graph e)) :
    ∃ lost, (c.run g).1 = g.lose lost ∧ g.Loses c.labels e lost := by
  cases c with
  | add expr inputs label kind => exact FilterGraph.addRecord_refused h
  | addMulti expr inputs labels kind => exact FilterGraph.addRecord_refused h
  | markOutput p => cases h

/-- What is accepted by a graph is accepted when labels were lost, unless it needs one of
them. -/
theorem run_lose_iff (h : (c.run g).2 = .ok pads) (lost : List Pad) :
    (c.run (g.lose lost)).2 = .ok pads ↔ ∀ p ∈ pads, p.label ∉ lost.map Pad.label := by
  have hrecord (expr : Json) (inputs : List Pad) (labels : List Json) (kind : Option StreamKind)
      (hok : (g.addRecord expr inputs labels kind).2 = .ok pads) :
      ((g.lose lost).addRecord expr inputs labels kind).2 = .ok pads ↔
        ∀ p ∈ pads, p.label ∉ lost.map Pad.label := by
    obtain ⟨n, hn, hkind, rfl, rfl, rfl, rfl⟩ := FilterGraph.addRecord_ok_iff.mp hok
    rw [FilterGraph.addRecord_ok_iff]
    constructor
    · rintro ⟨m, hm, -, -, -, -, houtputs⟩
      exact houtputs ▸ hm.not_lost
    · intro hfree
      exact ⟨n, hn.lose hfree, hkind, rfl, rfl, rfl, rfl⟩
  cases c with
  | add expr inputs label kind => exact hrecord expr inputs [label] kind h
  | addMulti expr inputs labels kind => exact hrecord expr inputs labels kind h
  | markOutput p =>
    cases h
    exact ⟨nofun, fun _ => rfl⟩

end GraphCall

namespace History

/-- A fresh label is no output of a statement. -/
theorem Sound.producer?_fresh {h : History} (hs : h.Sound) {kind : StreamKind} {pads : List Pad}
    (hfresh : h.graph.Fresh kind pads) {p : Pad} (hp : p ∈ pads) :
    h.graph.producer? p.label = none := by
  rw [FilterGraph.producer?, List.find?_eq_none]
  intro n hn hmakes
  obtain ⟨q, hq, hlabel⟩ := List.any_eq_true.mp hmakes
  have hmade : q ∈ h.graph.produced := hs.taken.subset (hs.mem_made_iff.mpr ⟨n, hn, hq⟩)
  have htaken : p.label ∈ h.graph.produced.map Pad.label :=
    eq_of_beq hlabel ▸ List.mem_map_of_mem hmade
  exact hfresh.new p hp htaken

/-- A call that is refused leaves the statements and the declared outputs of a graph as they are,
but it may lose the labels in front of one that is already taken. A single label is never lost.
No statement has a lost label as an output, and yet a call that the graph would have accepted
before the refusal is accepted afterwards exactly if it needs none of the labels that were
lost. -/
theorem refusal_loses_labels (calls : List GraphCall) (c : GraphCall) (e : GraphError)
    (h : (c.run (of calls).graph).2 = .error (.graph e)) :
    ∃ lost, (c.run (of calls).graph).1 = (of calls).graph.lose lost ∧
      (of calls).graph.Loses c.labels e lost ∧
      (∀ label, c.labels = [label] → lost = []) ∧
      (∀ p ∈ lost, ((of calls).graph.lose lost).producer? p.label = none) ∧
      ∀ (again : GraphCall) (pads : List Pad), (again.run (of calls).graph).2 = .ok pads →
        ((again.run ((of calls).graph.lose lost)).2 = .ok pads ↔
          ∀ p ∈ pads, p.label ∉ lost.map Pad.label) := by
  obtain ⟨lost, hrun, hloses⟩ := GraphCall.run_refused h
  refine ⟨lost, hrun, hloses, ?_, ?_, fun again pads hok => GraphCall.run_lose_iff hok lost⟩
  · rintro label hlabel
    exact (hlabel ▸ hloses).of_single
  · obtain ⟨kind, hfresh⟩ := hloses.fresh
    exact fun p hp => (sound_of calls).producer?_fresh hfresh hp

/-- A picture is split, but the second half is named like the first one. -/
def halved : GraphCall := .addMulti "split" [.input 0 .video] ["a", "a"] none

/-- The same with two names. -/
def renamed : GraphCall := .addMulti "split" [.input 0 .video] ["a", "b"] none

theorem refusal_loses_labels_halved :
    (halved.run (of []).graph).2 = .error (.graph (.duplicateLabel "a")) ∧
    ∃ lost, (halved.run (of []).graph).1 = (of []).graph.lose lost ∧ lost = [.link "a" .video] ∧
      (renamed.run ((of []).graph.lose lost)).2 ≠ .ok [.link "a" .video, .link "b" .video] := by
  have hrefused : (halved.run (of []).graph).2 = .error (.graph (.duplicateLabel "a")) := by
    rfl
  obtain ⟨lost, hrun, -, -, -, hagain⟩ := refusal_loses_labels [] halved _ hrefused
  have hlost : lost = [.link "a" .video] := by
    have hproduced := congrArg FilterGraph.produced hrun
    exact hproduced.symm
  have hrenamed := hagain renamed [.link "a" .video, .link "b" .video] rfl
  refine ⟨hrefused, lost, hrun, hlost, fun hok => ?_⟩
  exact hrenamed.mp hok _ List.mem_cons_self (by simp [hlost])

/-- A refused call need not leave the graph as it was, and the corrected call may be refused for
a label that no statement has. -/
theorem refusal_not_harmless :
    (¬ ∀ (calls : List GraphCall) (c : GraphCall) (e : GraphError),
      (c.run (of calls).graph).2 = .error (.graph e) →
      (c.run (of calls).graph).1 = (of calls).graph) ∧
    ((renamed.run (halved.run .empty).1).2 = .error (.graph (.duplicateLabel "a")) ∧
      (halved.run .empty).1.producer? "a" = none) := by
  refine ⟨fun hall => ?_, rfl, rfl⟩
  have hsame := hall [] halved (.duplicateLabel "a") rfl
  exact absurd (congrArg FilterGraph.produced hsame) (by decide)

end History

end Compositor
