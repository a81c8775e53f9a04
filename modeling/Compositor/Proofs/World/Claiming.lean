import Compositor.Proofs.Graph.Link
import Compositor.Proofs.World.Cleaning
import Mathlib.Data.List.Nodup
import Mathlib.Data.List.Perm.Subperm

/-!
# Fresh files can be made

Temporary names are given out in order, so one of them is new when more are tried than the tree
has entries. A directory that is there takes a file of a new name, unless the name is too
long. So a fresh file can always be made in it.
-/
namespace Compositor

open Compositor.Path

/-! ## Names -/

/-- A character takes four bytes at most. -/
theorem Text.size_le (s : String) : s.utf8ByteSize ≤ 4 * s.toList.length := by
  induction s using String.push_induction with
  | empty => decide
  | push s c ih =>
    rw [String.utf8ByteSize_push, String.toList_push, List.length_append, List.length_singleton]
    have := c.utf8Size_le_four
    omega

namespace FileTree

variable {t : FileTree} {directory : String} {root : List String}

/-- A file below a directory can be made if nothing stands there. -/
theorem create_below {name : String} (hplace : t.place directory = .ok root)
    (hdir : t.at? root = some .directory) (hname : IsName name) :
    t.create (Path.below directory name) = if t.isTaken (root ++ [name])
      then .error (.existsAt (Path.below directory name))
      else .ok (t.put (root ++ [name]) (.file (.bytes []))) := by
  have hopen := not_endsWith_below directory hname.toIsComponent (.inl rfl)
  rw [create, place_below hplace hdir hname]
  simp only [bind, Except.bind, hopen, Bool.false_eq_true, if_false]

/-- Of one place more than there are entries, one is free. -/
theorem exists_free (t : FileTree) {places : Nat → List String} (hne : ∀ k, places k ≠ [])
    (hplaces : Function.Injective places) (first : Nat) :
    ∃ k, first ≤ k ∧ k < first + (t.entries.length + 1) ∧ ¬ t.isTaken (places k) = true := by
  by_contra hnone
  push Not at hnone
  have hsubset : (List.range' first (t.entries.length + 1)).map places ⊆
      t.entries.map Prod.fst := by
    intro place hmem
    obtain ⟨k, hk, rfl⟩ := List.mem_map.mp hmem
    obtain ⟨hfrom, hto⟩ := List.mem_range'_1.mp hk
    have htaken := hnone k hfrom hto
    rw [isTaken, List.isEmpty_eq_false_iff.mpr (hne k), Bool.false_or] at htaken
    obtain ⟨e, he⟩ := mem_of_at? (Option.isSome_iff_ne_none.mp htaken)
    exact List.mem_map.mpr ⟨_, he, rfl⟩
  have hnodup := List.Nodup.map hplaces (List.nodup_range' (s := first) (n := t.entries.length + 1))
  have hlength := (List.subperm_of_subset hnodup hsubset).length_le
  rw [List.length_map, List.length_map, List.length_range'] at hlength
  omega

end FileTree

/-! ## Claiming a name -/

namespace Act

/-- A name is claimed if one of those that are tried can be used, and the others are taken. -/
theorem claim_ok {make : FileTree → String → Except SystemError FileTree}
    {pathFor : String → Except Fault String} {tries : Nat} {w : World}
    (htaken : ∀ k, w.names ≤ k → k < w.names + tries → ∃ path,
      pathFor ("n" ++ toString k) = .ok path ∧ ((∃ files, make w.files path = .ok files) ∨
        ∃ text, make w.files path = .error (.exists_ text)))
    (hfree : ∃ k path files, w.names ≤ k ∧ k < w.names + tries ∧
      pathFor ("n" ++ toString k) = .ok path ∧ make w.files path = .ok files) :
    ∃ path, (claim make pathFor tries w).1 = .ok path := by
  induction tries generalizing w with
  | zero =>
    obtain ⟨k, _, _, hfrom, hto, -⟩ := hfree
    omega
  | succ tries ih =>
    obtain ⟨path, hpath, hmake⟩ := htaken w.names (Nat.le_refl _) (by omega)
    have hname : freshName w = (.ok ("n" ++ toString w.names), { w with names := w.names + 1 }) :=
      rfl
    rw [claim, bind_apply, hname]
    dsimp only
    rw [hpath, bind_apply, ofExcept, pure_apply]
    dsimp only
    rw [get_bind]
    dsimp only
    rcases hmake with ⟨files, hfiles⟩ | ⟨text, hexists⟩
    · rw [hfiles]
      exact ⟨path, rfl⟩
    · rw [hexists]
      refine ih (fun k hfrom hto => htaken k ?_ ?_) ?_
      · exact Nat.le_of_succ_le hfrom
      · dsimp only at hto
        omega
      · obtain ⟨k, path', files, hfrom, hto, hpath', hfiles⟩ := hfree
        refine ⟨k, path', files, Nat.lt_of_le_of_ne hfrom ?_, ?_, hpath', hfiles⟩
        · rintro rfl
          cases hpath.symm.trans hpath'
          cases hexists.symm.trans hfiles
        · dsimp only
          omega

/-- A fresh file can be made in a directory that is there, under any two texts around the name
that are not too long, if the first one starts with a letter. -/
theorem freshFile_ok {directory before ending : String} {w : World} {root : List String} {c : Char}
    {rest : List Char} (hbefore : before.toList = c :: rest) (hletter : c.isAlpha = true)
    (hplace : w.files.place (normal directory) = .ok root)
    (hdir : w.files.at? root = some .directory)
    (hnames : ∀ k < w.names + (w.files.entries.length + 1),
      IsName (before ++ ("n" ++ toString k) ++ ending) ∧
        isAbsolute (before ++ ("n" ++ toString k) ++ ending) = false) :
    ∃ path names files,
      freshFile directory before ending w = (.ok path, { w with names, files }) ∧
      w.files.create path = .ok files := by
  let name (k : Nat) : String := before ++ ("n" ++ toString k) ++ ending
  have hpath (k : Nat) : joinFrom w.platform.roots (normal directory) (name k) =
      join (normal directory) (name k) := by
    refine joinFrom_of_head (c := c) ?_ hletter
    simp only [name, String.toList_append, hbefore, List.cons_append, List.head?_cons]
  have hcreate (k : Nat) (hk : k < w.names + (w.files.entries.length + 1)) :
      w.files.create (join (normal directory) (name k)) =
        if w.files.isTaken (root ++ [name k])
          then .error (.existsAt (below (normal directory) (name k)))
          else .ok (w.files.put (root ++ [name k]) (.file (.bytes []))) := by
    obtain ⟨hname, hrelative⟩ := hnames k hk
    rw [join, if_neg (Bool.eq_false_iff.mp hrelative), FileTree.create_below hplace hdir hname]
  have hclaim : ∃ path, (freshFile directory before ending w).1 = .ok path := by
    have htries : (do return (← get).files.entries.length + 1 : Act Nat) w =
        (.ok (w.files.entries.length + 1), w) := rfl
    rw [freshFile, getThe_bind, tries, bind_apply, htries]
    refine claim_ok (fun k _ hk =>
      ⟨joinFrom w.platform.roots (normal directory) (name k), rfl, ?_⟩) ?_
    · rw [hpath, hcreate k hk]
      split
      · exact .inr ⟨_, rfl⟩
      · exact .inl ⟨_, rfl⟩
    · have hinjective : Function.Injective fun k => root ++ [name k] := fun k k' h => by
        have hdigits : Nat.repr k = Nat.repr k' := by simpa [name] using h
        exact digits_injective (by rw [← Nat.toList_repr, hdigits, Nat.toList_repr])
      obtain ⟨k, hfrom, hk, hfree⟩ := w.files.exists_free (fun _ => by simp) hinjective w.names
      have hmade := hcreate k hk
      rw [if_neg hfree, ← hpath] at hmade
      exact ⟨k, _, _, hfrom, hk, rfl, hmade⟩
  obtain ⟨path, hpath⟩ := hclaim
  rcases freshFile_apply directory before ending w with ⟨e, names, hrun⟩ | hrun
  · rw [hrun] at hpath
    cases hpath
  · exact hrun

end Act

end Compositor
