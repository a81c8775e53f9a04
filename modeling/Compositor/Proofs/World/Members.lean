import Compositor.Proofs.World.Unpacking
import Mathlib.Data.List.Sort
import Mathlib.Data.String.Basic

/-!
# The members of an unpacked archive

A member of an archive is found by its name: a file at the top of the directory comes first,
then the one in the least directory that holds such a file. Which file this is depends only on
what stands in the tree, not on the order in which it is listed.
-/
namespace Compositor

/-! ## Files in a directory -/

namespace FileTree

variable {t : FileTree} {path name : String} {root place : List String}

/-- A file stands at a place. -/
def HasFile (t : FileTree) (place : List String) : Prop := ∃ c, t.at? place = some (.file c)

theorem HasFile.exists_ (h : t.HasFile place) : t.at? place ≠ none := by
  obtain ⟨c, hc⟩ := h
  rw [hc]
  exact nofun

theorem HasFile.not_directory (h : t.HasFile place) : t.at? place ≠ some .directory := by
  obtain ⟨c, hc⟩ := h
  rw [hc]
  exact nofun

/-- No file stands above a directory. -/
theorem Sound.not_file_above (ht : t.Sound) (hdir : t.at? root = some .directory) :
    ¬ t.HasFile root.dropLast := by
  intro h
  have hne := (ht.proper _ h.exists_).1
  refine h.not_directory (ht.reached root (by simp [hdir]) _ hne (List.dropLast_prefix root) ?_)
  intro heq
  rw [heq] at h
  exact h.not_directory hdir

/-- A path that ends in a slash is the path of no file. -/
theorem isFile_open (h : t.isFile path = true) : path.endsWith "/" = false := by
  unfold isFile at h
  split at h
  · rename_i c hentry
    obtain ⟨q, -, hrest⟩ := bind_eq_ok.mp hentry
    split at hrest
    · split at hrest
      · cases hrest
      · simpa using ‹¬ path.endsWith "/" = true›
    · cases hrest
    · cases hrest
  · cases h

end FileTree

/-- A name below a directory follows a slash. -/
theorem Path.exists_below {directory : String} (h : directory ≠ "") (name : String) :
    ∃ start, below directory name = start ++ "/" ++ name := by
  unfold below
  split
  · rename_i hends
    rw [Bool.or_eq_true, String.isEmpty_iff, or_iff_right h] at hends
    obtain ⟨start, hstart⟩ := endsWith_iff.mp hends
    refine ⟨String.ofList start, ?_⟩
    rw [← String.toList_inj, String.toList_append, String.toList_append, String.toList_append,
      String.toList_ofList, hstart]
  · exact ⟨directory, rfl⟩

/-! ## Members in a directory -/

namespace Archive

open FileTree Compositor.Path

variable {t t' : FileTree} {directory name entry : String} {root : List String}

/-- Only the name of an entry can be that of a member. -/
theorem isComponent_of_isMember (hplace : t.place directory = .ok root) (hplain : IsPlain name)
    (h : isMember t (Path.below directory name) = true) : IsComponent name := by
  obtain ⟨hfile, hends⟩ := Bool.and_eq_true_iff.mp h
  have hopen := isFile_open hfile
  have hclear := checkPath_ok (place_eq_ok.mp ((isFile_iff hopen).mp hfile).1).1
  obtain ⟨start, hstart⟩ := exists_below (ne_empty_of_place hplace) name
  rw [hstart] at hends hopen hclear
  refine ⟨hplain, ?_, ?_, fun hnull => hclear (by simp [hnull])⟩
  · rintro rfl
    refine Bool.eq_false_iff.mp hopen (endsWith_iff.mpr ?_)
    simp
  · rintro rfl
    have hdot : (start ++ "/" ++ ".").endsWith "/." = true := by
      rw [String.append_assoc]
      exact endsWith_iff.mpr (by simp)
    rw [hdot] at hends
    cases hends

/-- The members directly below a place are the files that stand there. -/
theorem isMember_below (ht : t.Sound) (hplace : t.place directory = .ok root) (hne : root ≠ [])
    (hplain : IsPlain name) :
    isMember t (Path.below directory name) = true ↔ t.HasFile (root ++ [name]) := by
  constructor
  · intro h
    have hname := isComponent_of_isMember hplace hplain h
    obtain ⟨hfile, -⟩ := Bool.and_eq_true_iff.mp h
    obtain ⟨hspot, hat⟩ := (isFile_iff (isFile_open hfile)).mp hfile
    obtain ⟨-, hdir, hclimb⟩ := (place_below_iff hplace hname).mp hspot
    have hdir := hdir.resolve_left hne
    rw [hclimb] at hat
    by_cases hup : name = ".."
    · subst hup
      rw [climb, if_neg (by simpa using hne), if_pos (by rfl)] at hat
      exact absurd hat (ht.not_file_above hdir)
    · rwa [climb_name hup] at hat
  · intro h
    obtain ⟨hname, hdir⟩ := ht.of_below hne h.exists_
    have hpath := place_below hplace hdir hname
    have hopen := not_endsWith_below directory hname.toIsComponent (.inl rfl)
    have hends := not_endsWith_below directory hname.toIsComponent (.inr rfl)
    have hspot := place_spot hpath
    rw [isMember, hends, (isFile_iff hopen).mpr ⟨hspot ▸ hpath, hspot ▸ h⟩]
    rfl

/-- A member one level below stands in a directory. -/
theorem isMember_nested (ht : t.Sound) (hplace : t.place directory = .ok root)
    (hdir : t.at? root = some .directory) (hentry : IsName entry) (hplain : IsPlain name) :
    isMember t (Path.below (Path.below directory entry) name) = true ↔
      t.HasFile (root ++ [entry, name]) := by
  have hbelow := isMember_below ht (place_below hplace hdir hentry) (by simp) hplain
  rwa [List.append_assoc] at hbelow

end Archive

/-! ## The least of the entries -/

section Least

variable {names : List String} {p : String → Bool} {a : String}

theorem least_of_find? (h : names.mergeSort.find? p = some a) :
    ∀ b ∈ names, p b = true → a ≤ b := by
  intro b hb hpb
  obtain ⟨-, before, after, hsorted, hbefore⟩ := List.find?_eq_some_iff_append.mp h
  have hpairs : List.Pairwise (· ≤ ·) names.mergeSort := List.sortedLE_mergeSort.pairwise
  have hmem : b ∈ names.mergeSort := List.mem_mergeSort.mpr hb
  rw [hsorted] at hpairs hmem
  rcases List.mem_append.mp hmem with hmem | hmem
  · have hfalse := hbefore b hmem
    rw [hpb] at hfalse
    cases hfalse
  · rcases List.mem_cons.mp hmem with rfl | hmem
    · exact le_rfl
    · exact (List.pairwise_cons.mp (List.pairwise_append.mp hpairs).2.1).1 b hmem

/-- What is found first in a sorted list is the least of what could be found. -/
theorem find?_mergeSort_eq_some : names.mergeSort.find? p = some a ↔
    a ∈ names ∧ p a = true ∧ ∀ b ∈ names, p b = true → a ≤ b := by
  constructor
  · intro h
    exact ⟨List.mem_mergeSort.mp (List.mem_of_find?_eq_some h), List.find?_some h,
      least_of_find? h⟩
  · rintro ⟨hmem, hp, hleast⟩
    obtain ⟨b, hb⟩ : ∃ b, names.mergeSort.find? p = some b :=
      Option.isSome_iff_exists.mp (List.find?_isSome.mpr ⟨a, List.mem_mergeSort.mpr hmem, hp⟩)
    have hle := hleast b (List.mem_mergeSort.mp (List.mem_of_find?_eq_some hb))
      (List.find?_some hb)
    rw [hb, le_antisymm (least_of_find? hb a hmem hp) hle]

end Least

/-! ## Which member is found -/

namespace Archive

open FileTree Compositor.Path

variable {t t' : FileTree} {directory name entry : String} {root : List String}
  {found : Option String}

/-- The file of a name in a directory that stands at a place: the one at the top, else the one
in the least entry that holds such a file. -/
inductive Finds (t : FileTree) (root : List String) (directory name : String) :
    Option String → Prop
  | top (htop : t.HasFile (root ++ [name])) :
    Finds t root directory name (some (Path.below directory name))
  | nested {entry : String} (htop : ¬ t.HasFile (root ++ [name]))
    (hnested : t.HasFile (root ++ [entry, name]))
    (hleast : ∀ other, t.HasFile (root ++ [other, name]) → entry ≤ other) :
    Finds t root directory name (some (Path.below (Path.below directory entry) name))
  | absent (htop : ¬ t.HasFile (root ++ [name]))
    (hnested : ∀ entry, ¬ t.HasFile (root ++ [entry, name])) :
    Finds t root directory name none

/-- A file of a name stands at a place or one level below. -/
def Holds (t : FileTree) (root : List String) (name : String) : Prop :=
  t.HasFile (root ++ [name]) ∨ ∃ entry, t.HasFile (root ++ [entry, name])

theorem Finds.unique {found' : Option String} (h : Finds t root directory name found)
    (h' : Finds t root directory name found') : found' = found := by
  cases h with
  | top htop =>
    cases h' with
    | top => rfl
    | nested hno => exact absurd htop hno
    | absent hno => exact absurd htop hno
  | nested htop hnested hleast =>
    cases h' with
    | top hyes => exact absurd hyes htop
    | nested _ hnested' hleast' => rw [le_antisymm (hleast _ hnested') (hleast' _ hnested)]
    | absent _ hno => exact absurd hnested (hno _)
  | absent htop hnested =>
    cases h' with
    | top hyes => exact absurd hyes htop
    | nested _ hyes => exact absurd hyes (hnested _)
    | absent => rfl

theorem Finds.isSome_iff (h : Finds t root directory name found) :
    found.isSome = true ↔ Holds t root name := by
  cases h with
  | top htop => exact iff_of_true rfl (.inl htop)
  | nested _ hnested => exact iff_of_true rfl (.inr ⟨_, hnested⟩)
  | absent htop hnested =>
    exact iff_of_false Bool.false_ne_true fun h => h.elim htop fun ⟨entry, h⟩ => hnested entry h

/-- Which file is found: there is an answer, and it is the one that the tree determines. -/
theorem findMember_finds (ht : t.Sound) (hplace : t.place directory = .ok root)
    (hdir : t.at? root = some .directory) (hplain : IsPlain name)
    (hrelative : isAbsolute name = false) :
    ∃ found, findMember t directory name = .ok found ∧ Finds t root directory name found := by
  have hne : root ≠ [] := (ht.proper root (by simp [hdir])).1
  have hjoin (path : String) : Path.join path name = Path.below path name :=
    if_neg (Bool.eq_false_iff.mp hrelative)
  have hinside {entry : String} : entry ∈ t.inside root → IsName entry := fun h =>
    (ht.of_below hne (mem_inside.mp h)).1
  have hlisted {entry : String} (h : t.HasFile (root ++ [entry, name])) :
      entry ∈ t.inside root := by
    refine mem_inside.mpr ?_
    have hbelow : root ++ [entry, name] = (root ++ [entry]) ++ [name] := by simp
    rw [(ht.of_below (by simp) (hbelow ▸ h.exists_)).2]
    exact nofun
  unfold findMember
  dsimp only
  rw [hjoin]
  by_cases htop : t.HasFile (root ++ [name])
  · rw [if_pos ((isMember_below ht hplace hne hplain).mpr htop)]
    exact ⟨_, rfl, .top htop⟩
  rw [if_neg fun h => htop ((isMember_below ht hplace hne hplain).mp h), list_inside hplace hdir]
  refine ⟨_, rfl, ?_⟩
  have hmember {entry : String} (h : entry ∈ t.inside root) :=
    isMember_nested ht hplace hdir (hinside h) hplain
  rw [firstNested?, List.find?_map]
  cases hfirst : (t.inside root).mergeSort.find?
      (isMember t ∘ fun entry => Path.join (Path.below directory entry) name) with
  | none =>
    refine .absent htop fun entry h => ?_
    have hmem := hlisted h
    have hno := List.find?_eq_none.mp hfirst entry (List.mem_mergeSort.mpr hmem)
    rw [Function.comp_apply, hjoin] at hno
    exact hno ((hmember hmem).mpr h)
  | some entry =>
    obtain ⟨hmem, hyes, hleast⟩ := find?_mergeSort_eq_some.mp hfirst
    rw [Function.comp_apply, hjoin] at hyes
    rw [Option.map_some, hjoin]
    refine .nested htop ((hmember hmem).mp hyes) fun other h => hleast other (hlisted h) ?_
    rw [Function.comp_apply, hjoin]
    exact (hmember (hlisted h)).mpr h

/-- What is found is a file. -/
theorem isFile_of_findMember {path : String} (h : findMember t directory name = .ok (some path)) :
    t.isFile path = true := by
  unfold findMember at h
  dsimp only at h
  split at h
  · rename_i hmember
    cases h
    exact (Bool.and_eq_true_iff.mp hmember).1
  · split at h
    · cases h
    · have hmember : isMember t path = true := List.find?_some (Except.ok.inj h)
      exact (Bool.and_eq_true_iff.mp hmember).1

/-- Trees in which the same stands at each place are equally sound. -/
theorem sound_congr (ht : t.Sound) (hsame : ∀ q, t'.at? q = t.at? q) : t'.Sound where
  reached q hq p hne hbelow hproper := by
    rw [hsame] at hq ⊢
    exact ht.reached q hq p hne hbelow hproper
  proper q hq := ht.proper q (hsame q ▸ hq)

/-- Only what stands in a tree decides, not the order of its entries. -/
theorem findMember_congr (ht : t.Sound) (hplace : t.place directory = .ok root)
    (hdir : t.at? root = some .directory) (hplain : IsPlain name)
    (hrelative : isAbsolute name = false) (hsame : ∀ q, t'.at? q = t.at? q) :
    findMember t' directory name = findMember t directory name := by
  have hfile (place : List String) : t'.HasFile place ↔ t.HasFile place := by
    rw [HasFile, HasFile, hsame]
  obtain ⟨found, hfound, hfinds⟩ := findMember_finds ht hplace hdir hplain hrelative
  have hplace' := place_mono (fun q hq => (hsame q).trans hq) hplace
  obtain ⟨found', hfound', hfinds'⟩ := findMember_finds (sound_congr ht hsame) hplace'
    ((hsame root).trans hdir) hplain hrelative
  have hsame' : Finds t root directory name found' := by
    cases hfinds' with
    | top htop => exact .top ((hfile _).mp htop)
    | nested htop hnested hleast =>
      exact .nested (fun h => htop ((hfile _).mpr h)) ((hfile _).mp hnested)
        fun other h => hleast other ((hfile _).mpr h)
    | absent htop hnested =>
      exact .absent (fun h => htop ((hfile _).mpr h)) fun entry h => hnested entry ((hfile _).mpr h)
  rw [hfound, hfound', hfinds.unique hsame']

end Archive

end Compositor
