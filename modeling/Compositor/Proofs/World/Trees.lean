import Compositor.Proofs.Fault.Wiring
import Compositor.World.Files
import Mathlib.Data.List.Basic

/-!
# File trees

A path is followed from directory to directory, so all that matters of a tree is what
stands at the places that can be reached through directories. A file at a new place leads
nowhere: as long as it stands there no other path is answered in another way, and when it
is removed the tree is as before for every path.
-/
namespace Compositor

/-! ## Places -/

namespace FileTree

@[simp] theorem at?_nil (q : List String) : (⟨[]⟩ : FileTree).at? q = none := rfl

theorem at?_cons (d : List String × Entry) (rest : List (List String × Entry)) (q : List String) :
    (⟨d :: rest⟩ : FileTree).at? q =
      if d.1 = q then some d.2 else (⟨rest⟩ : FileTree).at? q := by
  unfold at?
  rw [List.find?_cons]
  by_cases hd : d.1 = q
  · simp [hd]
  · simp [beq_eq_false_iff_ne.mpr hd, hd]

theorem at?_append (t : FileTree) (p q : List String) (e : Entry) :
    (⟨t.entries ++ [(p, e)]⟩ : FileTree).at? q =
      (t.at? q).or (if p = q then some e else none) := by
  obtain ⟨entries⟩ := t
  induction entries with
  | nil => simp [at?_cons]
  | cons d rest ih =>
    rw [List.cons_append, at?_cons, at?_cons]
    by_cases hd : d.1 = q
    · simp [hd]
    · simpa [hd] using ih

theorem put_new {t : FileTree} {p : List String} (h : t.at? p = none) (e : Entry) :
    t.put p e = ⟨t.entries ++ [(p, e)]⟩ := by
  unfold put
  rw [h]
  rfl

theorem not_mem_of_at? {t : FileTree} {p : List String} (h : t.at? p = none) :
    ∀ d ∈ t.entries, d.1 ≠ p := by
  intro d hd hp
  have hnone : (t.entries.find? fun d => d.1 == p) = none := Option.map_eq_none_iff.mp h
  exact absurd hp (by simpa using List.find?_eq_none.mp hnone d hd)

/-- What stands at a place is replaced. -/
theorem put_last {t : FileTree} {p : List String} (h : t.at? p = none) (e e' : Entry) :
    (⟨t.entries ++ [(p, e)]⟩ : FileTree).put p e' = ⟨t.entries ++ [(p, e')]⟩ := by
  have hsame : (t.entries.map fun d => if d.1 == p then (p, e') else d) = t.entries := by
    refine (List.map_congr_left fun d hd => ?_).trans (List.map_id _)
    rw [if_neg (by simpa using not_mem_of_at? h d hd)]
    rfl
  unfold put
  rw [at?_append, h, if_pos (by simp)]
  simp only [List.map_append, hsame, List.map_cons, List.map_nil, beq_self_eq_true, if_true]

/-- Entries that are kept by their places. -/
theorem at?_filter (t : FileTree) (keep : List String → Bool) (q : List String) :
    (⟨t.entries.filter fun e => keep e.1⟩ : FileTree).at? q =
      if keep q then t.at? q else none := by
  obtain ⟨entries⟩ := t
  induction entries with
  | nil => simp
  | cons d rest ih =>
    rw [at?_cons, List.filter_cons]
    by_cases hd : d.1 = q
    · subst hd
      cases hkeep : keep d.1 with
      | true => simp [at?_cons]
      | false => simpa [hkeep] using ih
    · cases hkeep : keep d.1 with
      | true => simpa [at?_cons, hd] using ih
      | false => simpa [hd] using ih

theorem at?_prune (t : FileTree) (p q : List String) :
    (t.prune p).at? q = if p <+: q then none else t.at? q := by
  rw [prune, t.at?_filter fun place => !p.isPrefixOf place]
  by_cases h : p <+: q
  · rw [if_pos h, List.isPrefixOf_iff_prefix.mpr h]
    rfl
  · rw [if_neg h, Bool.eq_false_iff.mpr (fun h' => h (List.isPrefixOf_iff_prefix.mp h'))]
    rfl

/-! ## Following a path -/

/-- A place to which a path can lead: all places on the way are directories. The first
name of a way is always there. -/
def Reached (t : FileTree) (place : List String) : Prop :=
  ∀ p, p ≠ [] → p <+: place → p ≠ place → t.at? p = some .directory

theorem Reached.nil (t : FileTree) : t.Reached [] :=
  fun _ hne hbelow _ => absurd (List.prefix_nil.mp hbelow) hne

theorem Reached.singleton (t : FileTree) (name : String) : t.Reached [name] := by
  intro p hne hbelow hproper
  rcases List.prefix_cons_iff.mp hbelow with rfl | ⟨rest, rfl, hrest⟩
  · exact absurd rfl hne
  · rw [List.prefix_nil.mp hrest] at hproper
    exact absurd rfl hproper

theorem Reached.dropLast {t : FileTree} {place : List String} (h : t.Reached place) :
    t.Reached place.dropLast := by
  intro p hne hbelow hproper
  have hdrop := List.dropLast_prefix place
  refine h p hne (hbelow.trans hdrop) ?_
  rintro rfl
  exact hproper (hbelow.eq_of_length_le (by simp))

theorem Reached.append {t : FileTree} {place : List String} (h : t.Reached place)
    (hdir : t.at? place = some .directory) (name : String) : t.Reached (place ++ [name]) := by
  intro p hne hbelow hproper
  rcases List.prefix_concat_iff.mp hbelow with rfl | hbefore
  · exact absurd rfl hproper
  · by_cases hp : p = place
    · rw [hp, hdir]
    · exact h p hne hbefore hp

/-- Nothing that can be reached stands behind a place where nothing stands. -/
theorem Reached.not_behind {t : FileTree} {p q : List String} (hq : t.Reached q) (hne : p ≠ [])
    (hnone : t.at? p = none) (hsome : t.at? q ≠ none) : ¬p <+: q := by
  intro hbelow
  by_cases hpq : p = q
  · exact hsome (hpq ▸ hnone)
  · have hdir := hq p hne hbelow hpq
    rw [hnone] at hdir
    cases hdir

/-- One step along a way; the empty place takes any first name. -/
def climb (place : List String) (name : String) : List String :=
  if place.isEmpty then [name] else if name == ".." then place.dropLast else place ++ [name]

theorem Reached.climb {t : FileTree} {place : List String} (h : t.Reached place)
    (hplace : place = [] ∨ t.at? place = some .directory) (name : String) :
    t.Reached (climb place name) := by
  unfold FileTree.climb
  split
  · exact .singleton t name
  · rename_i hne
    split
    · exact h.dropLast
    · exact h.append (hplace.resolve_left fun hempty => hne (hempty ▸ rfl)) name

/-- A step that succeeds: the name is not too long, and a way that has begun goes on from a
directory. -/
theorem walk_cons_eq_ok {t : FileTree} {path name : String} {place rest q : List String} :
    t.walk path place (name :: rest) = .ok q ↔
      name.utf8ByteSize ≤ longestName ∧ (place = [] ∨ t.at? place = some .directory) ∧
        t.walk path (climb place name) rest = .ok q := by
  rw [walk, climb]
  by_cases hshort : name.utf8ByteSize ≤ longestName
  · cases place with
    | nil => simp [hshort]
    | cons first others =>
      cases hat : t.at? (first :: others) with
      | none => simp
      | some e => cases e <;> simp [hshort, Nat.not_lt.mpr hshort]
  · have hlong : longestName < name.utf8ByteSize := Nat.not_le.mp hshort
    cases t.at? place with
    | none => simp [hshort]
    | some e => cases e <;> simp [hshort, hlong]

theorem walk_reached {t : FileTree} {path : String} {names place q : List String}
    (h : t.walk path place names = .ok q) (hplace : t.Reached place) : t.Reached q := by
  induction names generalizing place with
  | nil =>
    cases h
    exact hplace
  | cons name rest ih =>
    obtain ⟨-, hfrom, hrest⟩ := walk_cons_eq_ok.mp h
    exact ih hrest (hplace.climb hfrom name)

/-- A tree with at least the directories of another one. -/
def HasDirectories (t t' : FileTree) : Prop :=
  ∀ p, t.at? p = some .directory → t'.at? p = some .directory

/-- A way that leads somewhere needs nothing but directories. -/
theorem walk_mono {t t' : FileTree} (hdirs : HasDirectories t t') {path : String}
    {names place q : List String} (h : t.walk path place names = .ok q) :
    t'.walk path place names = .ok q := by
  induction names generalizing place with
  | nil => exact h
  | cons name rest ih =>
    obtain ⟨hshort, hfrom, hrest⟩ := walk_cons_eq_ok.mp h
    exact walk_cons_eq_ok.mpr ⟨hshort, hfrom.imp_right (hdirs place), ih hrest⟩

/-- The names directly inside a place. -/
def inside (t : FileTree) (place : List String) : List String :=
  t.entries.filterMap fun e => if e.1.dropLast == place && e.1 != [] then e.1.getLast? else none

/-- Two trees in which the same stands at each place that can be reached in the first, and
the same inside each directory. -/
structure Like (t t' : FileTree) : Prop where
  places : ∀ q, t.Reached q → t'.at? q = t.at? q
  directories : ∀ q, t.Reached q → t.at? q = some .directory → t'.inside q = t.inside q

theorem walk_like {t t' : FileTree} (hlike : Like t t') {path : String}
    {names place : List String} (hplace : t.Reached place) :
    t'.walk path place names = t.walk path place names := by
  induction names generalizing place with
  | nil => rfl
  | cons name rest ih =>
    rw [walk, walk, hlike.places place hplace]
    split
    · exact ih (.singleton t name)
    · split
      · rfl
      · rfl
      · split
        · rfl
        · refine ih ?_
          split
          · exact hplace.dropLast
          · exact hplace.append ‹_› name

theorem place_eq_ok {t : FileTree} {path : String} {q : List String} :
    t.place path = .ok q ↔
      checkPath path = .ok () ∧ steps path ≠ [] ∧ t.walk path [] (steps path) = .ok q := by
  unfold place
  cases checkPath path with
  | error e => simp [bind, Except.bind]
  | ok u =>
    cases hsteps : steps path with
    | nil => simp [bind, Except.bind]
    | cons name rest => simp [bind, Except.bind]

theorem place_reached {t : FileTree} {path : String} {q : List String}
    (h : t.place path = .ok q) : t.Reached q :=
  walk_reached (place_eq_ok.mp h).2.2 (.nil t)

theorem place_mono {t t' : FileTree} (hdirs : HasDirectories t t') {path : String}
    {q : List String} (h : t.place path = .ok q) : t'.place path = .ok q := by
  obtain ⟨hcheck, hsteps, hwalk⟩ := place_eq_ok.mp h
  exact place_eq_ok.mpr ⟨hcheck, hsteps, walk_mono hdirs hwalk⟩

theorem place_like {t t' : FileTree} (hlike : Like t t') (path : String) :
    t'.place path = t.place path := by
  unfold place
  simp only [walk_like hlike (.nil t)]

/-- Trees that are alike answer every path in the same way. -/
theorem entry_like {t t' : FileTree} (hlike : Like t t') (path : String) :
    t'.entry path = t.entry path := by
  unfold entry
  rw [place_like hlike]
  cases hplace : t.place path with
  | error e => rfl
  | ok q =>
    simp only [bind, Except.bind]
    rw [hlike.places q (place_reached hplace)]

theorem entry_eq_directory {t : FileTree} {path : String} (h : t.entry path = .ok .directory) :
    ∃ q, t.place path = .ok q ∧ t.at? q = some .directory := by
  obtain ⟨q, hq, hrest⟩ := bind_eq_ok.mp h
  refine ⟨q, hq, ?_⟩
  split at hrest
  · split at hrest <;> cases hrest
  · assumption
  · cases hrest

theorem list_like {t t' : FileTree} (hlike : Like t t') (path : String) :
    t'.list path = t.list path := by
  unfold list
  rw [entry_like hlike, place_like hlike]
  match hentry : t.entry path with
  | .error e => rfl
  | .ok (.file c) => rfl
  | .ok .directory =>
    obtain ⟨q, hq, hdir⟩ := entry_eq_directory hentry
    have hinside := hlike.directories q (place_reached hq) hdir
    unfold inside at hinside
    simp only [bind, Except.bind, hq, hinside]

/-! ## A file at a new place -/

/-- The tree `t'` is `t` and a file at a path where nothing stood. -/
structure Holding (t : FileTree) (path : String) (c : Content) (t' : FileTree) : Prop where
  isOpen : path.endsWith "/" = false
  place : ∃ p, p ≠ [] ∧ t.place path = .ok p ∧ t.at? p = none ∧
    t' = ⟨t.entries ++ [(p, .file c)]⟩

theorem not_isTaken {t : FileTree} {p : List String} :
    ¬ t.isTaken p = true ↔ p ≠ [] ∧ t.at? p = none := by
  rw [isTaken, Bool.or_eq_true, not_or, List.isEmpty_iff, Option.not_isSome_iff_eq_none]

theorem create_holding {t t' : FileTree} {path : String} (h : t.create path = .ok t') :
    Holding t path (.bytes []) t' := by
  obtain ⟨p, hplace, hrest⟩ := bind_eq_ok.mp h
  split at hrest
  · cases hrest
  · split at hrest
    · cases hrest
    · cases hrest
      rename_i hopen hnew
      obtain ⟨hne, hnone⟩ := not_isTaken.mp hnew
      exact ⟨by simpa using hopen, p, hne, hplace, hnone, put_new hnone _⟩

namespace Holding

variable {t t' t'' : FileTree} {path : String} {c c' : Content}

theorem hasDirectories (h : Holding t path c t') : HasDirectories t t' := by
  obtain ⟨p, -, -, -, rfl⟩ := h.place
  intro q hq
  rw [at?_append, hq]
  rfl

/-- Nothing stood at the path before. -/
theorem absent (h : Holding t path c t') : t.exists_ path = false := by
  obtain ⟨p, -, hplace, hnone, -⟩ := h.place
  rw [exists_, FileTree.entry, hplace]
  simp only [bind, Except.bind, hnone]
  rfl

/-- The path leads to the place of the file. -/
theorem found (h : Holding t path c t') : ∃ p, p ≠ [] ∧ t'.place path = .ok p ∧
    t.at? p = none ∧ t'.at? p = some (.file c) ∧ t' = ⟨t.entries ++ [(p, .file c)]⟩ := by
  obtain ⟨p, hne, hplace, hnone, ht⟩ := h.place
  refine ⟨p, hne, place_mono h.hasDirectories hplace, hnone, ?_, ht⟩
  rw [ht, at?_append, hnone]
  simp

theorem entry (h : Holding t path c t') : t'.entry path = .ok (.file c) := by
  obtain ⟨p, -, hplace, -, hat, -⟩ := h.found
  unfold FileTree.entry
  rw [hplace]
  simp only [bind, Except.bind, hat, h.isOpen]
  rfl

theorem read (h : Holding t path c t') : t'.read path = .ok c := by
  unfold FileTree.read
  rw [h.entry]
  rfl

/-- The file can be written again, and nothing else changes. -/
theorem write (h : Holding t path c t') (c' : Content) :
    ∃ t'', t'.write path c' = .ok t'' ∧ Holding t path c' t'' := by
  obtain ⟨p, hne, hplace, hnone, rfl⟩ := h.place
  obtain ⟨p', -, hplace', -, hat, -⟩ := h.found
  rw [place_mono h.hasDirectories hplace] at hplace'
  cases hplace'
  refine ⟨_, ?_, h.isOpen, p, hne, hplace, hnone, rfl⟩
  unfold FileTree.write
  rw [place_mono h.hasDirectories hplace]
  simp only [bind, Except.bind, hat, h.isOpen, put_last hnone, List.isEmpty_eq_false_iff.mpr hne]
  rfl

/-- Without the file the tree is as before. -/
theorem remove (h : Holding t path c t') : ∃ t'', t'.remove path = .ok t'' ∧ Like t t'' := by
  obtain ⟨p, hne, hplace, hnone, -, ht⟩ := h.found
  have hpruned : t'.prune p = ⟨t.entries.filter fun e => !p.isPrefixOf e.1⟩ := by
    simp [ht, prune]
  refine ⟨t'.prune p, ?_, ⟨fun q hq => ?_, fun q hq hdir => ?_⟩⟩
  · unfold FileTree.remove
    rw [h.entry, hplace]
    rfl
  · rw [hpruned]
    refine (at?_prune t p q).trans ?_
    split
    · cases hat : t.at? q with
      | none => rfl
      | some e => exact absurd ‹p <+: q› (hq.not_behind hne hnone (by simp [hat]))
    · rfl
  · rw [hpruned, inside, inside, List.filterMap_filter]
    refine List.filterMap_congr fun e he => ?_
    split
    · rfl
    · rename_i hgone
      have hbelow : p <+: e.1 := by simpa using hgone
      rw [if_neg]
      rintro hchild
      simp only [Bool.and_eq_true, beq_iff_eq, bne_iff_ne] at hchild
      obtain ⟨hparent, hnonempty⟩ := hchild
      rw [← List.dropLast_append_getLast hnonempty, List.prefix_concat_iff, hparent] at hbelow
      rcases hbelow with hself | hup
      · refine not_mem_of_at? hnone e he ?_
        rw [hself, ← hparent, List.dropLast_append_getLast hnonempty]
      · exact hq.not_behind hne hnone (by simp [hdir]) hup

end Holding

end FileTree

end Compositor
