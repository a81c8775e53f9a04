import Compositor.Download
import Compositor.Proofs.Address.Extensions
import Compositor.Proofs.Fault.Wiring
import Compositor.Proofs.Text.Words

/-!
# Names of stored files

The extension under which a download is stored has no slash, whatever the server and the
address say. So the name of a fresh file is one name, and a path to the file ends in it.
-/
namespace Compositor

/-- A text without a slash. -/
def Path.IsPlain (s : String) : Prop := '/' ∉ s.toList

instance : DecidablePred Path.IsPlain := fun s => inferInstanceAs (Decidable ('/' ∉ s.toList))

theorem Path.IsPlain.append {s t : String} (hs : IsPlain s) (ht : IsPlain t) :
    IsPlain (s ++ t) := by
  rw [IsPlain, String.toList_append, List.mem_append]
  exact fun h => h.elim hs ht

theorem Text.lower_plain {s : String} (h : Path.IsPlain s) : Path.IsPlain (lower s) := by
  rw [Path.IsPlain, toList_lower, mem_lowerFrom_iff (by decide)]
  exact h

/-! ## Extensions -/

theorem Path.splitExtension_plain (path : String) : IsPlain (splitExtension path).2 := by
  rcases splitExtension_cases path with ⟨stem, ext, hextends, -, hsplit⟩ | hsplit
  · rw [hsplit, IsPlain, String.toList_ofList]
    exact hextends.plain
  · rw [hsplit]
    exact List.not_mem_nil

theorem MediaType.table_plain : ∀ e ∈ table, '/' ∉ e.1.toList := by decide +kernel

theorem MediaType.extension?_plain {type ext : String} (h : extension? type = some ext) :
    Path.IsPlain ext := by
  unfold extension? at h
  obtain ⟨e, he, rfl⟩ := Option.map_eq_some_iff.mp h
  exact table_plain e (List.mem_of_find?_eq_some he)

namespace Download

variable {guess : String → Option String}

theorem typeExtension?_plain (hguess : ∀ type ext, guess type = some ext → Path.IsPlain ext)
    {contentType ext : String} (h : typeExtension? guess contentType = some ext) :
    Path.IsPlain ext := by
  unfold typeExtension? at h
  split at h
  · cases h
  · exact hguess _ _ (Option.filter_eq_some_iff.mp h).1

theorem pathExtension?_plain {url ext : String} (h : pathExtension? url = .ok (some ext)) :
    Path.IsPlain ext := by
  obtain ⟨parts, -, hrest⟩ := bind_eq_ok.mp h
  have hplain := Path.splitExtension_plain parts.path
  generalize Path.splitExtension parts.path = split at hrest hplain
  obtain ⟨stem, found⟩ := split
  have hext : (if isGeneric found then none else some (Text.lower found)) = some ext :=
    Except.ok.inj hrest
  split at hext
  · cases hext
  · rw [← Option.some.inj hext]
    exact Text.lower_plain hplain

/-- A download is stored under an extension without a slash. -/
theorem extension_plain (hguess : ∀ type ext, guess type = some ext → Path.IsPlain ext)
    {contentType : Option String} {url default : String} {ext : Json}
    (hdefault : Path.IsPlain default) (h : extension guess contentType url default = .ok ext) :
    ∃ s, ext = .str s ∧ Path.IsPlain s := by
  unfold extension at h
  split at h
  · rename_i s hs
    cases h
    obtain ⟨type, -, htype⟩ := Option.bind_eq_some_iff.mp hs
    exact ⟨s, rfl, typeExtension?_plain hguess htype⟩
  · obtain ⟨found, hfound, hext⟩ := bind_eq_ok.mp h
    cases hext
    cases found with
    | none => exact ⟨default, rfl, hdefault⟩
    | some s => exact ⟨s, rfl, pathExtension?_plain hfound⟩

end Download

/-! ## Paths to fresh files -/

namespace Path

theorem components_plain {file : String} (hplain : IsPlain file) (hempty : file ≠ "")
    (hdot : file ≠ ".") : components file = [file] := by
  have hsplit : file.toList.splitOn '/' = [file.toList] := List.splitOn_eq_singleton hplain
  simp [components, hsplit, hempty, hdot]

theorem endsWith_iff {s t : String} : s.endsWith t = true ↔ t.toList <:+ s.toList := by
  have hslice : s.endsWith t = s.toSlice.endsWith t := rfl
  rw [hslice, String.Slice.endsWith_string_iff, String.copy_toSlice]

/-- A path below a directory ends in the name of the file. -/
theorem components_append {directory file : String} (hplain : IsPlain file) (hempty : file ≠ "")
    (hdot : file ≠ ".") (hdirectory : directory = "" ∨ directory.endsWith "/" = true) :
    (components (directory ++ file)).getLast? = some file := by
  rcases hdirectory with rfl | hslash
  · rw [String.empty_append, components_plain hplain hempty hdot]
    rfl
  · obtain ⟨before, hbefore⟩ := endsWith_iff.mp hslash
    have hsplit : (directory ++ file).toList.splitOn '/' = before.splitOn '/' ++ [file.toList] := by
      rw [String.toList_append, ← hbefore, ← List.splitOn_eq_singleton hplain, List.append_assoc]
      exact List.splitOn_append_cons_self before file.toList
    rw [components, hsplit]
    simp [hempty, hdot]

/-- The last name on the path of a file is that of the file. -/
theorem name_join {directory file : String} (hplain : IsPlain file) (hempty : file ≠ "")
    (hdot : file ≠ ".") (hrelative : isAbsolute file = false) :
    name (join directory file) = file := by
  have hlast : (components (join directory file)).getLast? = some file := by
    rw [join, if_neg (by simp [hrelative]), below]
    split
    · rename_i h
      rw [Bool.or_eq_true] at h
      exact components_append hplain hempty hdot (h.imp String.isEmpty_iff.mp id)
    · refine components_append hplain hempty hdot (.inr (endsWith_iff.mpr ?_))
      rw [String.toList_append]
      exact List.suffix_append _ _
  rw [name, hlast, Option.getD_some]

/-- A name that starts with a letter is not that of a directory that goes by its name. -/
theorem joinFrom_of_head {roots : List Root} {directory file : String} {c : Char}
    (hhead : file.toList.head? = some c) (hletter : c.isAlpha = true) :
    joinFrom roots directory file = join directory file := by
  refine if_neg fun hrooted => ?_
  obtain ⟨root, -, hstarts⟩ := List.any_eq_true.mp hrooted
  obtain ⟨rest, hrest⟩ := String.startsWith_string_iff.mp hstarts
  have hmarked := root.marked
  cases hname : root.name.toList with
  | nil =>
    rw [hname] at hmarked
    cases hmarked
  | cons first more =>
    rw [hname, List.cons_append] at hrest
    rw [← hrest] at hhead
    cases hhead
    rw [hname, List.head?_cons, Option.any_some, hletter] at hmarked
    cases hmarked

theorem plain_toString (n : Nat) : IsPlain (toString n) := by
  intro h
  have hdigit := Nat.isDigit_of_mem_toDigits (by decide) (by decide) (Nat.toList_repr ▸ h)
  exact absurd hdigit (by decide)

end Path

end Compositor
