import Compositor.Graph.Basic

/-!
# Reading the text of a graph

Three characters give the text of a graph its structure: brackets around a label, and the
semicolon between two statements. `Markup.read` splits the text at semicolons and reads each
statement as labels, an expression and labels again. A graph whose labels and expressions are free
of the three characters, and whose expressions are not empty, is read back from its text.
-/
namespace Compositor

namespace Markup

/-- The characters with a meaning of their own. -/
def marks : List Char := ['[', ']', ';']

end Markup

/-- A text that the structure of a graph does not show through. -/
def Unmarked (s : String) : Prop := ∀ c ∈ s.toList, c ∉ Markup.marks

instance (s : String) : Decidable (Unmarked s) :=
  decidable_of_iff ((s.toList.all fun c => !Markup.marks.contains c) = true) (by simp [Unmarked])

theorem Unmarked.append {s t : String} (hs : Unmarked s) (ht : Unmarked t) : Unmarked (s ++ t) := by
  intro c hc
  rw [String.toList_append] at hc
  exact (List.mem_append.mp hc).elim (hs c) (ht c)

/-- A statement as it is written. -/
structure Written where
  inputs : List String
  expr : String
  outputs : List String
  deriving DecidableEq, Repr

namespace Markup

/-- The labels at the beginning of a text, and what follows the last of them. While a label is
being read, `label?` is what there is of it. -/
def readLabels (label? : Option (List Char)) : List Char → Option (List String × List Char)
  | [] =>
    match label? with
    | none => some ([], [])
    | some _ => none
  | c :: rest =>
    match label? with
    | none => if c == '[' then readLabels (some []) rest else some ([], c :: rest)
    | some label =>
      if c == ']' then
        (readLabels none rest).map fun (labels, rest) => (String.ofList label :: labels, rest)
      else readLabels (some (label ++ [c])) rest

/-- Reads one statement; nothing may follow its last label. -/
def readStatement (text : List Char) : Option Written := do
  let (inputs, rest) ← readLabels none text
  let (outputs, rest') ← readLabels none (rest.dropWhile (· != '['))
  if rest' = [] then some ⟨inputs, String.ofList (rest.takeWhile (· != '[')), outputs⟩ else none

/-- Reads all statements. A text without characters has none. -/
def read (text : String) : Option (List Written) :=
  if text.isEmpty then some [] else (text.toList.splitOn ';').mapM readStatement

/-! ## One statement -/

/-- Labels as they are written. -/
def bracketed (labels : List String) : List Char :=
  labels.flatMap fun label => '[' :: label.toList ++ [']']

theorem readLabels_label {label : List Char} (read : List Char) (h : ']' ∉ label)
    (rest : List Char) :
    readLabels (some read) (label ++ ']' :: rest) =
      (readLabels none rest).map fun (labels, rest) =>
        (String.ofList (read ++ label) :: labels, rest) := by
  induction label generalizing read with
  | nil => simp [readLabels]
  | cons c label ih =>
    rw [List.mem_cons, not_or] at h
    have hc : (c == ']') = false := beq_eq_false_iff_ne.mpr fun he => h.1 he.symm
    have hstep : readLabels (some read) (c :: label ++ ']' :: rest) =
        readLabels (some (read ++ [c])) (label ++ ']' :: rest) := by
      simp [readLabels, hc]
    rw [hstep, ih (read ++ [c]) h.2, List.append_assoc, List.singleton_append]

theorem readLabels_bracketed {labels : List String} (h : ∀ l ∈ labels, Unmarked l)
    {rest : List Char} (hrest : rest.head? ≠ some '[') :
    readLabels none (bracketed labels ++ rest) = some (labels, rest) := by
  induction labels with
  | nil =>
    cases rest with
    | nil => rfl
    | cons c rest =>
      have hc : (c == '[') = false := beq_eq_false_iff_ne.mpr fun he => hrest (by rw [he]; rfl)
      simp [bracketed, readLabels, hc]
  | cons label labels ih =>
    obtain ⟨hlabel, hlabels⟩ := List.forall_mem_cons.mp h
    have hclose : ']' ∉ label.toList := fun hm => hlabel _ hm (by decide)
    have hstep : readLabels none (bracketed (label :: labels) ++ rest) =
        readLabels (some []) (label.toList ++ ']' :: (bracketed labels ++ rest)) := by
      simp [bracketed, readLabels]
    rw [hstep, readLabels_label [] hclose, ih hlabels]
    simp

end Markup

/-- The parts of a statement that its text shows. -/
def FilterNode.written (n : FilterNode) : Written :=
  ⟨n.inputs.map Pad.label, n.expr, n.outputs.map Pad.label⟩

/-- A statement whose text can be told apart. -/
structure FilterNode.Legible (n : FilterNode) : Prop where
  expr : Unmarked n.expr
  nonempty : n.expr ≠ ""
  inputs : ∀ p ∈ n.inputs, Unmarked p.label
  outputs : ∀ p ∈ n.outputs, Unmarked p.label

namespace Markup

theorem refs_toList (pads : List Pad) :
    (String.join (pads.map Pad.ref)).toList = bracketed (pads.map Pad.label) := by
  simp [String.toList_join, bracketed, Pad.ref, List.flatMap_map]

theorem render_toList (n : FilterNode) :
    n.render.toList =
      bracketed n.written.inputs ++ n.expr.toList ++ bracketed n.written.outputs := by
  simp only [FilterNode.render, String.toList_append, refs_toList, FilterNode.written]

/-- The text behind an expression begins with a bracket, unless there is none. -/
theorem cut_bracketed {cs : List Char} (h : '[' ∉ cs) (labels : List String) :
    (cs ++ bracketed labels).takeWhile (· != '[') = cs ∧
      (cs ++ bracketed labels).dropWhile (· != '[') = bracketed labels := by
  have hcs : ∀ c ∈ cs, (c != '[') = true := by
    intro c hc
    rw [bne_iff_ne]
    exact fun he => h (he ▸ hc)
  rw [List.takeWhile_append_of_pos hcs, List.dropWhile_append_of_pos hcs]
  cases labels with
  | nil => simp [bracketed]
  | cons label labels => simp [bracketed]

theorem readStatement_render {n : FilterNode} (h : n.Legible) :
    readStatement n.render.toList = some n.written := by
  have hinputs : ∀ l ∈ n.written.inputs, Unmarked l := List.forall_mem_map.mpr h.inputs
  have houtputs : ∀ l ∈ n.written.outputs, Unmarked l := List.forall_mem_map.mpr h.outputs
  have hopen : '[' ∉ n.expr.toList := fun hm => h.expr _ hm (by decide)
  have hhead : (n.expr.toList ++ bracketed n.written.outputs).head? ≠ some '[' := by
    have hne : n.expr.toList ≠ [] := fun he => h.nonempty (String.toList_eq_nil_iff.mp he)
    obtain ⟨c, cs, hcs⟩ := List.exists_cons_of_ne_nil hne
    rw [hcs] at hopen ⊢
    exact fun he => hopen (Option.some.inj he ▸ List.mem_cons_self)
  obtain ⟨htake, hdrop⟩ := cut_bracketed hopen n.written.outputs
  have hfirst := readLabels_bracketed hinputs hhead
  have hlast := @readLabels_bracketed _ houtputs [] nofun
  rw [List.append_nil] at hlast
  rw [render_toList, List.append_assoc, readStatement, hfirst]
  simp only [Option.bind_eq_bind, Option.bind_some, hdrop, hlast, htake, String.ofList_toList,
    if_true]
  rfl

theorem not_mem_bracketed {labels : List String} (h : ∀ l ∈ labels, Unmarked l) :
    ';' ∉ bracketed labels := by
  intro hm
  obtain ⟨label, hl, hc⟩ := List.mem_flatMap.mp hm
  simp only [List.cons_append, List.mem_cons, List.mem_append, List.not_mem_nil, or_false] at hc
  rcases hc with hc | hc | hc
  · exact absurd hc (by decide)
  · exact h label hl _ hc (by decide)
  · exact absurd hc (by decide)

theorem not_mem_render {n : FilterNode} (h : n.Legible) : ';' ∉ n.render.toList := by
  rw [render_toList, List.append_assoc]
  intro hm
  rcases List.mem_append.mp hm with hm | hm
  · exact not_mem_bracketed (List.forall_mem_map.mpr h.inputs) hm
  · rcases List.mem_append.mp hm with hm | hm
    · exact h.expr _ hm (by decide)
    · exact not_mem_bracketed (List.forall_mem_map.mpr h.outputs) hm

theorem render_ne_nil {n : FilterNode} (h : n.Legible) : n.render.toList ≠ [] := by
  rw [render_toList, List.append_assoc]
  have hne : n.expr.toList ≠ [] := fun he => h.nonempty (String.toList_eq_nil_iff.mp he)
  simp [hne]

theorem mapM_readStatement {nodes : List FilterNode} (h : ∀ n ∈ nodes, n.Legible) :
    (nodes.map fun n => n.render.toList).mapM readStatement =
      some (nodes.map FilterNode.written) := by
  induction nodes with
  | nil => rfl
  | cons n nodes ih =>
    obtain ⟨hn, hnodes⟩ := List.forall_mem_cons.mp h
    rw [List.map_cons, List.mapM_cons, readStatement_render hn, ih hnodes]
    rfl

/-- The text of a graph determines its statements. -/
theorem read_render {g : FilterGraph} (h : ∀ n ∈ g.nodes, n.Legible) :
    read g.render = some (g.nodes.map FilterNode.written) := by
  cases hnodes : g.nodes with
  | nil => simp [FilterGraph.render, read, hnodes]
  | cons n nodes =>
    rw [← hnodes]
    have htext : g.render.toList = [';'].intercalate (g.nodes.map fun n => n.render.toList) := by
      rw [FilterGraph.render, String.toList_intercalate, List.map_map]
      rfl
    have hsplit : g.render.toList.splitOn ';' = g.nodes.map fun n => n.render.toList := by
      rw [htext]
      refine List.splitOn_intercalate ';' (List.forall_mem_map.mpr fun m hm => ?_) ?_
      · exact not_mem_render (h m hm)
      · simp [hnodes]
    have hne : g.render.isEmpty = false := by
      rw [String.isEmpty_eq_false_iff]
      intro hempty
      rw [hempty, hnodes] at hsplit
      have hn : [] = n.render.toList := (List.cons.inj hsplit).1
      exact render_ne_nil (h n (by simp [hnodes])) hn.symm
    rw [read, hne, if_neg Bool.false_ne_true, hsplit, mapM_readStatement h]

example : read "[0:v]split[a][b];[a][b]hstack[out]" =
    some [⟨["0:v"], "split", ["a", "b"]⟩, ⟨["a", "b"], "hstack", ["out"]⟩] := by decide +kernel

end Markup

end Compositor
