import Compositor.Proofs.World.Naming

/-!
# Extensions of paths

The extension of a file is read off from the text behind the last dot of its name. On an
absolute path this is what the path as a locator has for its extension, whatever the
directories are called.
-/
namespace Compositor

namespace Path

/-- A proper extension: a dot and more without a dot. -/
structure IsExtension (ext : String) : Prop where
  plain : IsPlain ext
  dotted : ∃ c rest, ext.toList = '.' :: c :: rest ∧ '.' ∉ c :: rest

theorem suffix_of_name {path stem ext : String} (hname : name path = stem ++ ext)
    (hstem : stem ≠ "") (hext : IsExtension ext) : suffix path = ext := by
  obtain ⟨c, rest, hdotted, hone⟩ := hext.dotted
  have hne : stem.toList.isEmpty = false := by
    simpa using fun h : stem.toList = [] => hstem (String.toList_eq_nil_iff.mp h)
  unfold suffix
  rw [hname, String.toList_append, hdotted, splitLastDot?_append hone]
  dsimp only
  rw [if_neg (by simp [hne]), ← hdotted, String.ofList_toList]

theorem head_of_isAbsolute {path : String} (h : isAbsolute path = true) :
    ∃ rest, path.toList = '/' :: rest := by
  obtain ⟨rest, hrest⟩ := String.startsWith_string_iff.mp h
  exact ⟨rest, hrest.symm⟩

/-- A name that starts with a letter stands for itself, wherever it stands. -/
theorem relative_of_head {name : String} {c : Char} (hhead : name.toList.head? = some c)
    (hdot : c ≠ '.') (hslash : c ≠ '/') :
    name ≠ "" ∧ name ≠ "." ∧ isAbsolute name = false := by
  refine ⟨?_, ?_, Bool.eq_false_iff.mpr fun habsolute => ?_⟩
  · rintro rfl
    cases hhead
  · rintro rfl
    exact hdot (Option.some.inj hhead).symm
  · obtain ⟨rest, hpath⟩ := head_of_isAbsolute habsolute
    rw [hpath] at hhead
    exact hslash (Option.some.inj hhead).symm

/-- A path below an absolute directory starts with the directory. -/
theorem head_join {directory file : String} {c : Char} {rest : List Char}
    (hdirectory : directory.toList = c :: rest) (hrelative : isAbsolute file = false) :
    ∃ rest, (join directory file).toList = c :: rest := by
  rw [join, if_neg (by simp [hrelative]), below]
  split
  · exact ⟨_, by rw [String.toList_append, hdirectory]; rfl⟩
  · exact ⟨_, by rw [String.toList_append, String.toList_append, hdirectory]; rfl⟩

end Path

/-- Only what starts with a letter has a scheme. -/
theorem Address.splitScheme_of_head {c : Char} {rest : List Char} (hcolon : c ≠ ':')
    (hletter : isAsciiLetter c = false) : splitScheme (c :: rest) = ([], c :: rest) := by
  unfold splitScheme
  rw [List.takeWhile_cons_of_pos (by simpa using hcolon)]
  dsimp only
  split
  · rename_i hbefore _
    cases hbefore
    rw [hletter, Bool.false_and]
    rfl
  · rfl

namespace Locator

/-- A locator that starts with no letter has no scheme. -/
theorem extension_of_path {path ext : String} {rest : List Char}
    (hpath : path.toList = '/' :: rest)
    (h : extension path = .ok ext) : ext = Text.lower (Path.suffix path) := by
  obtain ⟨parts, hparts, h⟩ := bind_eq_ok.mp h
  have hscheme : parts.scheme = "" := by
    obtain ⟨kept, hcleaned⟩ : ∃ kept, Address.cleaned path = '/' :: kept :=
      ⟨_, Address.cleaned_of_head hpath (by decide)⟩
    have hsplit : Address.splitScheme ('/' :: kept) = ([], '/' :: kept) :=
      Address.splitScheme_of_head (by decide) (by decide)
    unfold Address.parts at hparts
    rw [hcleaned, hsplit] at hparts
    dsimp only at hparts
    split at hparts
    · cases hparts
    · cases hparts
      rfl
  have htype : typeOfScheme "" = .file := by decide
  rw [hscheme, htype] at h
  have hext := Except.ok.inj h
  rw [if_pos (by decide)] at hext
  exact hext.symm

end Locator

end Compositor
