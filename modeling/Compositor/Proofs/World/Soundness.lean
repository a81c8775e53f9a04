import Compositor.Proofs.Address.Slashes
import Compositor.Proofs.World.Trees

/-!
# Sound file trees

In a sound tree every entry stands in a directory, under a name that an entry can have. A
path has one spot at which it leads somewhere at all, whatever stands in the tree. So files
come and go one spot at a time: a new one is all that a creation adds, and a file is all
that its removal takes away.
-/
namespace Compositor

/-! ## Names and spots -/

namespace Path

/-- A name of an entry, as it can follow a slash. -/
structure IsComponent (name : String) : Prop where
  plain : IsPlain name
  nonempty : name ≠ ""
  not_here : name ≠ "."
  clear : '\x00' ∉ name.toList

/-- A name that an entry of a directory can have. -/
structure IsName (name : String) : Prop extends IsComponent name where
  not_up : name ≠ ".."
  short : name.utf8ByteSize ≤ FileTree.longestName

theorem mem_of_mem_splitOn {cs part : List Char} (h : part ∈ cs.splitOn '/') {c : Char}
    (hc : c ∈ part) : c ∈ cs := by
  induction cs generalizing part with
  | nil =>
    rw [List.splitOn_nil, List.mem_singleton] at h
    exact h ▸ hc
  | cons d cs ih =>
    rw [List.splitOn_cons_eq_if_modifyHead] at h
    split at h
    · rcases List.mem_cons.mp h with rfl | h
      · cases hc
      · exact List.mem_cons_of_mem _ (ih h hc)
    · cases hsplit : cs.splitOn '/' with
      | nil => exact absurd hsplit (List.splitOn_ne_nil _ _)
      | cons first rest =>
        rw [hsplit] at h
        rcases List.mem_cons.mp h with rfl | h
        · exact (List.mem_cons.mp hc).elim (fun heq => heq ▸ List.mem_cons_self)
            fun hc => List.mem_cons_of_mem _ (ih (hsplit ▸ List.mem_cons_self) hc)
        · exact List.mem_cons_of_mem _ (ih (hsplit ▸ List.mem_cons_of_mem _ h) hc)

theorem isComponent_of_mem {path name : String} (hclear : '\x00' ∉ path.toList)
    (h : name ∈ components path) : IsComponent name := by
  obtain ⟨hplain, hnonempty⟩ := plain_of_mem_components h
  obtain ⟨hmem, hkept⟩ := List.mem_filter.mp h
  obtain ⟨part, hpart, rfl⟩ := List.mem_map.mp hmem
  refine ⟨hplain, hnonempty, fun hdot => by simp [hdot] at hkept, fun hnull => ?_⟩
  rw [String.toList_ofList] at hnull
  exact hclear (mem_of_mem_splitOn hpart hnull)

theorem components_slash (directory file : String) :
    components (directory ++ "/" ++ file) = components directory ++ components file := by
  have hsplit : (directory ++ "/" ++ file).toList.splitOn '/' =
      directory.toList.splitOn '/' ++ file.toList.splitOn '/' := by
    rw [String.toList_append, String.toList_append, List.append_assoc]
    exact List.splitOn_append_cons_self _ _
  rw [components, hsplit, List.map_append, List.filter_append]
  rfl

/-- A name directly below a directory. -/
theorem components_below {directory name : String} (hname : IsComponent name) :
    components (below directory name) = components directory ++ [name] := by
  have hlast : components name = [name] :=
    components_plain hname.plain hname.nonempty hname.not_here
  have hempty : components "" = [] := by decide
  unfold below
  split
  · rename_i h
    rw [Bool.or_eq_true] at h
    rcases h with h | h
    · rw [String.isEmpty_iff.mp h, String.empty_append, hlast, hempty, List.nil_append]
    · obtain ⟨before, hbefore⟩ := endsWith_iff.mp h
      obtain rfl : directory = String.ofList before ++ "/" := by
        rw [← String.toList_inj, String.toList_append, String.toList_ofList, hbefore]
      have hslash := components_slash (String.ofList before) ""
      rw [String.append_empty, hempty, List.append_nil] at hslash
      rw [components_slash, hslash, hlast]
  · rw [components_slash, hlast]

/-- A path to a name ends in that name, so in no slash and not in the directory itself. -/
theorem not_endsWith_below (directory : String) {name ending : String} (hname : IsComponent name)
    (hending : ending = "/" ∨ ending = "/.") : (below directory name).endsWith ending = false := by
  obtain ⟨start, hstart⟩ : ∃ start, below directory name = start ++ name := by
    unfold below
    split
    · exact ⟨directory, rfl⟩
    · exact ⟨directory ++ "/", rfl⟩
  refine Bool.eq_false_iff.mpr fun hends => ?_
  have hsuffix := endsWith_iff.mp hends
  rw [hstart, String.toList_append] at hsuffix
  have hempty : name.toList ≠ [] := fun h => hname.nonempty (String.toList_eq_nil_iff.mp h)
  have hdot : name.toList ≠ ['.'] := fun h => hname.not_here (String.toList_inj.mp h)
  have hslash : ∀ {rest}, name.toList ≠ '/' :: rest := fun h =>
    hname.plain (h ▸ List.mem_cons_self)
  rcases List.suffix_or_suffix_of_suffix hsuffix (List.suffix_append _ _) with h | h
  · refine hname.plain (h.subset ?_)
    rcases hending with rfl | rfl <;> simp
  · rcases hending with rfl | rfl
    · rcases List.suffix_cons_iff.mp h with h | h
      · exact hslash h
      · exact hempty (List.suffix_nil.mp h)
    · rcases List.suffix_cons_iff.mp h with h | h
      · exact hslash h
      · rcases List.suffix_cons_iff.mp h with h | h
        · exact hdot h
        · exact hempty (List.suffix_nil.mp h)

theorem startsWith_append {s : String} (hs : s ≠ "") (t : String) :
    (s ++ t).startsWith "/" = s.startsWith "/" := by
  rw [Bool.eq_iff_iff, String.startsWith_string_iff, String.startsWith_string_iff,
    String.toList_append]
  cases hchars : s.toList with
  | nil => exact absurd (String.toList_eq_nil_iff.mp hchars) hs
  | cons c cs =>
    change ['/'] <+: c :: (cs ++ t.toList) ↔ ['/'] <+: c :: cs
    rw [List.cons_prefix_cons, List.cons_prefix_cons]
    simp only [List.nil_prefix]

/-- The only place to which a path can lead. -/
def spot (path : String) : List String := (FileTree.steps path).foldl FileTree.climb []

end Path

namespace FileTree

open Compositor.Path

variable {t t' t'' : FileTree} {path : String} {place q r : List String} {e : Entry}

theorem checkPath_ok (h : checkPath path = .ok ()) : '\x00' ∉ path.toList := by
  unfold checkPath at h
  split at h
  · cases h
  · simpa using ‹¬ path.toList.contains '\x00' = true›

theorem walk_spot {names : List String} (h : t.walk path place names = .ok q) :
    q = names.foldl climb place := by
  induction names generalizing place with
  | nil =>
    cases h
    rfl
  | cons name rest ih => exact ih (walk_cons_eq_ok.mp h).2.2

/-- A path leads to its spot or nowhere. -/
theorem place_spot (h : t.place path = .ok q) : q = spot path :=
  walk_spot (place_eq_ok.mp h).2.2

/-- A way can be continued from where it leads. The path itself only stands in the errors of
a way. -/
theorem walk_append {names rest : List String} {other : String}
    (h : t.walk path place names = .ok q) (hrest : t.walk other q rest = .ok r) :
    t.walk other place (names ++ rest) = .ok r := by
  induction names generalizing place with
  | nil =>
    cases h
    exact hrest
  | cons name names ih =>
    obtain ⟨hshort, hfrom, hnames⟩ := walk_cons_eq_ok.mp h
    exact walk_cons_eq_ok.mpr ⟨hshort, hfrom, ih hnames⟩

/-- Any part of a way leads somewhere if the whole way does. -/
theorem walk_split {names rest : List String} (h : t.walk path place (names ++ rest) = .ok r) :
    ∃ q, t.walk path place names = .ok q ∧ t.walk path q rest = .ok r := by
  induction names generalizing place with
  | nil => exact ⟨place, rfl, h⟩
  | cons name names ih =>
    obtain ⟨hshort, hfrom, hnames⟩ := walk_cons_eq_ok.mp h
    obtain ⟨q, hfirst, hrest⟩ := ih hnames
    exact ⟨q, walk_cons_eq_ok.mpr ⟨hshort, hfrom, hfirst⟩, hrest⟩

/-- A path that leads somewhere is not empty. -/
theorem ne_empty_of_place (h : t.place path = .ok q) : path ≠ "" := by
  rintro rfl
  exact (place_eq_ok.mp h).2.1 (by decide)

/-- The way to a name below a directory is longer by the name. -/
theorem steps_below {name : String} (hpath : path ≠ "") (hname : IsComponent name) :
    steps (Path.below path name) = steps path ++ [name] := by
  rw [steps, steps, components_below hname, List.append_assoc]
  congr 1
  unfold Path.below
  split
  · rw [startsWith_append hpath]
  · rw [String.append_assoc, startsWith_append hpath]

/-- Where the path of a name below a directory leads. -/
theorem place_below_iff {name : String} (h : t.place path = .ok q) (hname : IsComponent name) :
    t.place (Path.below path name) = .ok r ↔ name.utf8ByteSize ≤ longestName ∧
      (q = [] ∨ t.at? q = some .directory) ∧ r = climb q name := by
  obtain ⟨hcheck, -, hwalk⟩ := place_eq_ok.mp h
  have hlast {other : String} : t.walk other q [name] = .ok r ↔
      name.utf8ByteSize ≤ longestName ∧ (q = [] ∨ t.at? q = some .directory) ∧
        r = climb q name := by
    rw [walk_cons_eq_ok, walk, Except.ok.injEq, eq_comm (a := r)]
  rw [place_eq_ok, steps_below (ne_empty_of_place h) hname]
  constructor
  · rintro ⟨-, -, hrun⟩
    obtain ⟨middle, hfirst, hrest⟩ := walk_split hrun
    obtain rfl : middle = q := (walk_spot hfirst).trans (walk_spot hwalk).symm
    exact hlast.mp hrest
  · intro hr
    refine ⟨?_, by simp, walk_append hwalk (hlast.mpr hr)⟩
    have hclear := checkPath_ok hcheck
    rw [checkPath, if_neg]
    unfold Path.below
    split <;> simp [hclear, hname.clear]

theorem climb_name {name : String} (hname : name ≠ "..") : climb q name = q ++ [name] := by
  unfold climb
  split
  · rename_i hempty
    rw [List.isEmpty_iff.mp hempty, List.nil_append]
  · exact if_neg (by simpa using hname)

/-- A name directly below a directory has its place there. -/
theorem place_below {name : String} (h : t.place path = .ok q)
    (hdir : t.at? q = some .directory) (hname : IsName name) :
    t.place (Path.below path name) = .ok (q ++ [name]) :=
  (place_below_iff h hname.toIsComponent).mpr
    ⟨hname.short, .inr hdir, (climb_name hname.not_up).symm⟩

/-! ## Sound trees -/

/-- All names behind the first one are names of entries. -/
def IsProper (place : List String) : Prop := ∀ name ∈ place.tail, IsName name

/-- Every entry stands in a directory, under a proper name. -/
structure Sound (t : FileTree) : Prop where
  reached : ∀ q, t.at? q ≠ none → t.Reached q
  proper : ∀ q, t.at? q ≠ none → q ≠ [] ∧ IsProper q

/-- What stands below a place has the name of an entry, and the place is a directory. -/
theorem Sound.of_below {name : String} (ht : t.Sound) (hne : place ≠ [])
    (h : t.at? (place ++ [name]) ≠ none) : IsName name ∧ t.at? place = some .directory := by
  refine ⟨(ht.proper _ h).2 name ?_, ht.reached _ h place hne (List.prefix_append _ _) (by simp)⟩
  rw [List.tail_append_of_ne_nil hne]
  exact List.mem_append_right _ List.mem_cons_self

theorem IsProper.dropLast (h : IsProper place) : IsProper place.dropLast := fun name hname =>
  h name (by rw [List.tail_dropLast] at hname; exact List.dropLast_subset _ hname)

theorem IsProper.append (h : IsProper place) {name : String} (hname : IsName name) :
    IsProper (place ++ [name]) := by
  intro other hother
  cases place with
  | nil => cases hother
  | cons first rest =>
    rcases List.mem_append.mp hother with hother | hother
    · exact h other hother
    · exact List.mem_singleton.mp hother ▸ hname

theorem walk_proper {names : List String} (h : t.walk path place names = .ok q)
    (hplace : IsProper place) (hfirst : place ≠ [] → ∀ name ∈ names, IsComponent name)
    (hrest : ∀ name ∈ names.tail, IsComponent name) : IsProper q := by
  induction names generalizing place with
  | nil =>
    cases h
    exact hplace
  | cons name names ih =>
    obtain ⟨hshort, -, hnames⟩ := walk_cons_eq_ok.mp h
    refine ih hnames ?_ (fun _ => hrest)
      fun other hother => hrest other (List.mem_of_mem_tail hother)
    unfold climb
    by_cases hne : place = []
    · subst hne
      exact fun _ hother => nomatch hother
    · rw [if_neg (by simpa using hne)]
      have hname := hfirst hne name List.mem_cons_self
      split
      · exact hplace.dropLast
      · rename_i hup
        exact hplace.append { hname with
          not_up := by simpa using hup
          short := hshort }

theorem place_proper (h : t.place path = .ok q) : IsProper q := by
  obtain ⟨hcheck, -, hwalk⟩ := place_eq_ok.mp h
  have hcomponents (name : String) (hname : name ∈ components path) : IsComponent name :=
    isComponent_of_mem (checkPath_ok hcheck) hname
  refine walk_proper hwalk (fun _ hname => nomatch hname) (fun hne => absurd rfl hne) ?_
  intro name hname
  unfold steps at hname
  split at hname
  · exact hcomponents name hname
  · exact hcomponents name (List.mem_of_mem_tail hname)

/-- The tree `t'` is `t` with one entry more, at the place of a path. -/
structure Gains (t : FileTree) (path : String) (e : Entry) (t' : FileTree) : Prop where
  place : t.place path = .ok (spot path)
  nonempty : spot path ≠ []
  fresh : t.at? (spot path) = none
  at? : ∀ q, t'.at? q = if q = spot path then some e else t.at? q

theorem gains_of_put (h : t.place path = .ok q) (hfree : ¬ t.isTaken q = true) (e : Entry) :
    Gains t path e (t.put q e) := by
  obtain ⟨hne, hnone⟩ := not_isTaken.mp hfree
  obtain rfl := place_spot h
  refine ⟨h, hne, hnone, fun other => ?_⟩
  rw [put_new hnone, at?_append]
  by_cases hother : other = spot path
  · rw [hother, hnone, Option.none_or]
  · rw [if_neg (Ne.symm hother), if_neg hother, Option.or_none]

theorem create_gains (h : t.create path = .ok t') :
    Gains t path (.file (.bytes [])) t' ∧ path.endsWith "/" = false := by
  obtain ⟨p, hplace, hrest⟩ := bind_eq_ok.mp h
  split at hrest
  · cases hrest
  · rename_i hopen
    split at hrest
    · cases hrest
    · cases hrest
      exact ⟨gains_of_put hplace ‹_› _, by simpa using hopen⟩

theorem makeDirectory_gains (h : t.makeDirectory path = .ok t') : Gains t path .directory t' := by
  obtain ⟨p, hplace, hrest⟩ := bind_eq_ok.mp h
  split at hrest
  · cases hrest
  · cases hrest
    exact gains_of_put hplace ‹_› _

namespace Gains

theorem hasDirectories (h : Gains t path e t') : HasDirectories t t' := by
  intro q hq
  rw [h.at?, if_neg, hq]
  rintro rfl
  rw [h.fresh] at hq
  cases hq

theorem sound (h : Gains t path e t') (ht : t.Sound) : t'.Sound := by
  have hmono (q : List String) (hq : t.Reached q) : t'.Reached q :=
    fun p hne hbelow hproper => h.hasDirectories p (hq p hne hbelow hproper)
  constructor
  · intro q hq
    rw [h.at?] at hq
    split at hq
    · rename_i hself
      exact hmono q (hself ▸ place_reached h.place)
    · exact hmono q (ht.reached q hq)
  · intro q hq
    rw [h.at?] at hq
    split at hq
    · rename_i hself
      exact hself ▸ ⟨h.nonempty, place_proper h.place⟩
    · exact ht.proper q hq

end Gains

/-! ## Removing a file -/

theorem exists_iff (hopen : path.endsWith "/" = false) :
    t.exists_ path = true ↔ t.place path = .ok (spot path) ∧ t.at? (spot path) ≠ none := by
  unfold exists_ entry
  cases hplace : t.place path with
  | error e => simp [bind, Except.bind, Except.toOption]
  | ok p =>
    obtain rfl := place_spot hplace
    simp only [bind, Except.bind, hopen, true_and]
    cases t.at? (spot path) with
    | none => simp [Except.toOption]
    | some e => cases e <;> simp [Except.toOption]

theorem isFile_iff (hopen : path.endsWith "/" = false) :
    t.isFile path = true ↔
      t.place path = .ok (spot path) ∧ ∃ c, t.at? (spot path) = some (.file c) := by
  unfold isFile entry
  cases hplace : t.place path with
  | error e => simp [bind, Except.bind]
  | ok p =>
    obtain rfl := place_spot hplace
    simp only [bind, Except.bind, hopen, true_and]
    cases t.at? (spot path) with
    | none => simp
    | some e => cases e <;> simp

/-- Only the file itself goes when it is removed. -/
theorem remove_file (ht : t.Sound) (hopen : path.endsWith "/" = false)
    (hexists : t.exists_ path = true) (hfile : t.at? (spot path) ≠ some .directory) :
    ∃ t', t.remove path = .ok t' ∧
      ∀ q, t'.at? q = if q = spot path then none else t.at? q := by
  obtain ⟨hplace, hsome⟩ := (exists_iff hopen).mp hexists
  obtain ⟨c, hc⟩ : ∃ c, t.at? (spot path) = some (.file c) := by
    cases hat : t.at? (spot path) with
    | none => exact absurd hat hsome
    | some e =>
      cases e with
      | directory => exact absurd hat hfile
      | file c => exact ⟨c, rfl⟩
  have hentry : t.entry path = .ok (.file c) := by
    unfold entry
    rw [hplace]
    simp only [bind, Except.bind, hc, hopen]
    rfl
  refine ⟨t.prune (spot path), ?_, fun q => ?_⟩
  · unfold remove
    rw [hentry, hplace]
    rfl
  · rw [at?_prune]
    by_cases hself : q = spot path
    · rw [if_pos hself, if_pos (hself ▸ List.prefix_rfl)]
    · rw [if_neg hself]
      split
      · -- nothing stands below a file
        rename_i hbelow
        by_contra hq
        have hdir := ht.reached q (Ne.symm hq) _ (ht.proper _ hsome).1 hbelow (Ne.symm hself)
        exact hfile hdir
      · rfl

/-- Directories that stay, and entries that were there before, make a sound tree. -/
theorem Sound.shrink (ht : t.Sound) (hold : ∀ q, t'.at? q ≠ none → t'.at? q = t.at? q)
    (hdirs : ∀ p q, p <+: q → t'.at? q ≠ none → t.at? p = some .directory →
      t'.at? p = some .directory) : t'.Sound where
  reached q hq p hne hbelow hproper :=
    hdirs p q hbelow hq (ht.reached q (hold q hq ▸ hq) p hne hbelow hproper)
  proper q hq := ht.proper q (hold q hq ▸ hq)

end FileTree

end Compositor
