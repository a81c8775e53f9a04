import Compositor.Address.Path

/-!
# Splitting off an extension

The extension of a path starts at the last dot of its last name, unless there are only dots in
front of it. What is split off and what is left of the path make up the path, and any other
extension in its place would be split off as well.
-/
namespace Compositor.Path

/-- The text behind the last slash. -/
def lastName (cs : List Char) : List Char := (cs.reverse.takeWhile (· != '/')).reverse

theorem lastName_append {part : List Char} (h : '/' ∉ part) (cs : List Char) :
    lastName (cs ++ part) = lastName cs ++ part := by
  have hpart : ∀ c ∈ part.reverse, (c != '/') = true := fun c hc => by
    simpa using fun heq : c = '/' => h (heq ▸ List.mem_reverse.mp hc)
  rw [lastName, List.reverse_append, List.takeWhile_append_of_pos hpart, List.reverse_append,
    List.reverse_reverse, lastName]

theorem slash_not_mem_lastName (cs : List Char) : '/' ∉ lastName cs := by
  rw [lastName, List.mem_reverse]
  intro h
  have hall := List.all_takeWhile (l := cs.reverse) (p := (· != '/'))
  simpa using List.all_eq_true.mp hall _ h

/-- What is in front of the last name ends in a slash. -/
theorem exists_lastName (cs : List Char) :
    ∃ directory, cs = directory ++ lastName cs ∧ lastName directory = [] := by
  refine ⟨(cs.reverse.dropWhile (· != '/')).reverse, ?_, ?_⟩
  · rw [lastName, ← List.reverse_append, List.takeWhile_append_dropWhile, List.reverse_reverse]
  · rw [lastName, List.reverse_reverse, List.reverse_eq_nil_iff]
    cases hrest : cs.reverse.dropWhile (· != '/') with
    | nil => rfl
    | cons c rest =>
      have hhead := List.head?_dropWhile_not (· != '/') cs.reverse
      rw [hrest] at hhead
      exact List.takeWhile_cons_of_neg (Bool.eq_false_iff.mp hhead)

/-- The text behind the last dot is split off. -/
theorem splitLastDot?_append {stem ext : List Char} (h : '.' ∉ ext) :
    splitLastDot? (stem ++ '.' :: ext) = some (stem, '.' :: ext) := by
  have hafter : (stem ++ '.' :: ext).reverse.takeWhile (· != '.') = ext.reverse := by
    rw [List.reverse_append, List.reverse_cons, List.append_assoc]
    rw [List.takeWhile_append_of_pos]
    · simp
    · intro c hc
      have hmem := List.mem_reverse.mp hc
      simpa using fun hdot : c = '.' => h (hdot ▸ hmem)
  unfold splitLastDot?
  rw [if_pos (by simp)]
  dsimp only
  have hlength : (stem ++ '.' :: ext).length - ext.length - 1 = stem.length := by
    rw [List.length_append, List.length_cons]
    omega
  rw [hafter, List.reverse_reverse, hlength, List.take_left']
  rfl

/-- A text that is split at its last dot is put together again. -/
theorem splitLastDot?_some {cs stem ext : List Char} (h : splitLastDot? cs = some (stem, ext)) :
    cs = stem ++ ext ∧ ∃ rest, ext = '.' :: rest ∧ '.' ∉ rest := by
  by_cases hdot : '.' ∈ cs
  · obtain ⟨after, before, hcs, hafter⟩ := List.eq_append_cons_of_mem (List.mem_reverse.mpr hdot)
    obtain rfl : cs = before.reverse ++ '.' :: after.reverse := by
      rw [← List.reverse_reverse cs, hcs]
      simp
    have hlast : '.' ∉ after.reverse := by simpa using hafter
    cases (splitLastDot?_append hlast).symm.trans h
    exact ⟨rfl, after.reverse, rfl, hlast⟩
  · rw [splitLastDot?, if_neg (by simpa using hdot)] at h
    cases h

/-- An extension behind the text in front of it: it starts at the last dot of a name that does not
begin there, leading dots left aside. -/
structure Extends (stem ext : List Char) : Prop where
  dotted : ∃ rest, ext = '.' :: rest ∧ '.' ∉ rest ∧ '/' ∉ rest
  named : ∃ c ∈ lastName stem, c ≠ '.'

theorem Extends.plain {stem ext : List Char} (h : Extends stem ext) : '/' ∉ ext := by
  obtain ⟨rest, rfl, -, hslash⟩ := h.dotted
  simpa using hslash

theorem Extends.head?_ne {stem ext : List Char} (h : Extends stem ext) (after : List Char) :
    (ext ++ after).head? ≠ some '/' := by
  obtain ⟨rest, rfl, -, -⟩ := h.dotted
  exact nofun

theorem Extends.ne_nil {stem ext : List Char} (h : Extends stem ext) : stem ≠ [] := by
  rintro rfl
  obtain ⟨c, hc, -⟩ := h.named
  cases hc

theorem splitExtension_eq (path : String) : splitExtension path =
    match splitLastDot? (lastName path.toList) with
    | some (stem, ext) =>
      if stem.all (· == '.') then (path, "")
      else (String.ofList (path.toList.take (path.toList.length - ext.length)), String.ofList ext)
    | none => (path, "") := rfl

theorem splitExtension_append {stem ext : List Char} (h : Extends stem ext) :
    splitExtension (String.ofList (stem ++ ext)) = (String.ofList stem, String.ofList ext) := by
  have hname := lastName_append h.plain stem
  obtain ⟨rest, rfl, hdot, -⟩ := h.dotted
  obtain ⟨c, hc, hproper⟩ := h.named
  have hall : (lastName stem).all (· == '.') = false :=
    List.all_eq_false.mpr ⟨c, hc, by simpa using hproper⟩
  rw [splitExtension_eq, String.toList_ofList, hname, splitLastDot?_append hdot]
  dsimp only
  rw [hall, if_neg Bool.false_ne_true, List.length_append, Nat.add_sub_cancel, List.take_left]

/-- A path has an extension that the rest is in front of, or it stays whole. -/
theorem splitExtension_cases (path : String) :
    (∃ stem ext, Extends stem ext ∧ path.toList = stem ++ ext ∧
      splitExtension path = (String.ofList stem, String.ofList ext)) ∨
    splitExtension path = (path, "") := by
  cases hsplit : splitLastDot? (lastName path.toList) with
  | none => exact .inr (by rw [splitExtension_eq, hsplit])
  | some parts =>
    obtain ⟨front, ext⟩ := parts
    by_cases hall : front.all (· == '.') = true
    · exact .inr (by rw [splitExtension_eq, hsplit]; exact if_pos hall)
    · obtain ⟨hname, rest, rfl, hdot⟩ := splitLastDot?_some hsplit
      obtain ⟨directory, hpath, hdirectory⟩ := exists_lastName path.toList
      have hslash := slash_not_mem_lastName path.toList
      rw [hname, List.mem_append, List.mem_cons, not_or, not_or] at hslash
      have hextends : Extends (directory ++ front) ('.' :: rest) := by
        refine ⟨⟨rest, rfl, hdot, hslash.2.2⟩, ?_⟩
        rw [lastName_append hslash.1, hdirectory, List.nil_append]
        simpa using hall
      have hwhole : path.toList = directory ++ front ++ '.' :: rest := by
        rw [List.append_assoc, ← hname, ← hpath]
      refine .inl ⟨_, _, hextends, hwhole, ?_⟩
      rw [← splitExtension_append hextends, ← hwhole, String.ofList_toList]

end Compositor.Path
