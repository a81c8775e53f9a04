import Compositor.Archive
import Compositor.Proofs.World.Cleaning
import Compositor.Proofs.World.Supporting
import Mathlib.Data.List.TakeDrop

/-!
# What an archive leaves behind

Members are unpacked one after the other, each with the directories on the way to it. A sound
tree stays sound by this, whatever the members are called, and no directory goes away. So an
archive that was unpacked stands in a directory of its own, which was not there before.
-/
namespace Compositor

/-! ## Growing trees -/

namespace FileTree

variable {t t' t'' : FileTree} {path : String} {p q : List String} {e : Entry}

theorem at?_map (entries : List (List String × Entry)) (p q : List String) (e : Entry) :
    (⟨entries.map fun d => if d.1 == p then (p, e) else d⟩ : FileTree).at? q =
      if q = p then ((⟨entries⟩ : FileTree).at? p).map fun _ => e
      else (⟨entries⟩ : FileTree).at? q := by
  induction entries with
  | nil => simp
  | cons d rest ih =>
    rw [List.map_cons, at?_cons, at?_cons, at?_cons, ih]
    by_cases hd : d.1 = p
    · by_cases hq : q = p
      · simp [hd, hq]
      · simp [hd, hq, Ne.symm hq]
    · by_cases hq : q = p
      · simp [hd, hq]
      · simp [hd, hq]

/-- What is put somewhere stands there, and everything else is as before. -/
theorem at?_put (t : FileTree) (p q : List String) (e : Entry) :
    (t.put p e).at? q = if q = p then some e else t.at? q := by
  cases hp : t.at? p with
  | none =>
    rw [put_new hp, at?_append]
    by_cases hq : q = p
    · rw [hq, hp, if_pos rfl]
      rfl
    · rw [if_neg hq, if_neg (Ne.symm hq), Option.or_none]
  | some old =>
    have hmap := at?_map t.entries p q e
    unfold put
    rw [hp]
    refine hmap.trans ?_
    rw [show (⟨t.entries⟩ : FileTree) = t from rfl, hp]
    rfl

/-- A sound tree that has all directories of an earlier one. -/
structure Grows (t t' : FileTree) : Prop where
  sound : t'.Sound
  directories : HasDirectories t t'

theorem Sound.grows (h : t.Sound) : Grows t t := ⟨h, fun _ hdir => hdir⟩

theorem Grows.trans (h : Grows t t') (h' : Grows t' t'') : Grows t t'' :=
  ⟨h'.sound, fun p hp => h'.directories p (h.directories p hp)⟩

theorem Reached.mono (h : t.Reached q) (hdirs : HasDirectories t t') : t'.Reached q :=
  fun p hne hbelow hbefore => hdirs p (h p hne hbelow hbefore)

/-- Anything can be put where a way can lead to, but no file in the place of a directory. -/
theorem Sound.put (ht : t.Sound) (hne : p ≠ []) (hreached : t.Reached p) (hproper : IsProper p)
    (hkeeps : t.at? p = some .directory → e = .directory) : Grows t (t.put p e) := by
  have hdirs : HasDirectories t (t.put p e) := by
    intro q hq
    rw [at?_put]
    split
    · rw [hkeeps (‹q = p› ▸ hq)]
    · exact hq
  refine ⟨⟨fun q hq => ?_, fun q hq => ?_⟩, hdirs⟩
  · rw [at?_put] at hq
    split at hq
    · rename_i hself
      exact hself ▸ hreached.mono hdirs
    · exact (ht.reached q hq).mono hdirs
  · rw [at?_put] at hq
    split at hq
    · rename_i hself
      exact hself ▸ ⟨hne, hproper⟩
    · exact ht.proper q hq

theorem Sound.write {c : Content} (ht : t.Sound) (h : t.write path c = .ok t') : Grows t t' := by
  obtain ⟨p, hplace, hrest⟩ := bind_eq_ok.mp h
  split at hrest
  · cases hrest
  · rename_i hfree
    cases hrest
    simp only [Bool.or_eq_true, List.isEmpty_iff, beq_iff_eq, not_or] at hfree
    exact ht.put hfree.1.1 (place_reached hplace) (place_proper hplace)
      fun hdir => absurd hdir hfree.1.2

theorem Sound.makeDirectory (ht : t.Sound) (h : t.makeDirectory path = .ok t') : Grows t t' :=
  ⟨(makeDirectory_gains h).sound ht, (makeDirectory_gains h).hasDirectories⟩

/-- One directory on a way whose earlier directories are there. -/
theorem Sound.makeStep {names : List String} {length : Nat} (ht : t.Sound) (hpos : 0 < length)
    (hlength : length ≤ names.length) (hreached : t.Reached (names.take length))
    (hnames : ∀ name ∈ names.tail, Path.IsComponent name ∧ name ≠ "..")
    (h : makeStep names t length = .ok t') :
    Grows t t' ∧ (length < names.length → t'.at? (names.take length) = some .directory) := by
  unfold FileTree.makeStep at h
  dsimp only at h
  split at h
  · cases h
    exact ⟨ht.grows, fun _ => ‹_›⟩
  · split at h
    · cases h
      rename_i hlast
      exact ⟨ht.grows, fun hmore => absurd (beq_iff_eq.mp hlast) hmore.ne⟩
    · cases h
  · split at h
    · cases h
    · rename_i hshort
      cases h
      have hne : names.take length ≠ [] := by
        rw [Ne, List.take_eq_nil_iff]
        rintro (hzero | rfl)
        · omega
        · rw [List.length_nil] at hlength
          omega
      have hproper : IsProper (names.take length) := by
        intro name hname
        obtain ⟨hcomponent, hup⟩ := hnames name
          (List.mem_of_mem_take (names.tail_take_eq_take_tail length ▸ hname))
        have hsize : ¬ longestName < name.utf8ByteSize := fun hlong =>
          hshort (List.any_eq_true.mpr ⟨name, List.mem_of_mem_tail hname, decide_eq_true hlong⟩)
        exact { hcomponent with
          not_up := hup
          short := not_lt.mp hsize }
      exact ⟨ht.put hne hreached hproper fun _ => rfl, fun _ => by rw [at?_put, if_pos rfl]⟩

/-- The directories on a way without steps upward. -/
theorem Sound.makeWay (ht : t.Sound) (hup : ".." ∉ Path.components path)
    (h : t.makeWay path = .ok t') : Grows t t' := by
  obtain ⟨_, hcheck, h⟩ := bind_eq_ok.mp h
  have hclear := checkPath_ok hcheck
  have hnames : ∀ name ∈ (steps path).tail, Path.IsComponent name ∧ name ≠ ".." := by
    intro name hname
    have hmem : name ∈ Path.components path := by
      unfold steps at hname
      split at hname
      · exact hname
      · exact List.mem_of_mem_tail hname
    exact ⟨Path.isComponent_of_mem hclear hmem, fun heq => hup (heq ▸ hmem)⟩
  generalize steps path = names at h hnames
  dsimp only at h
  split at h
  · cases h
  -- after some steps the next directory has its place
  have hsteps (n : Nat) : ∀ t', n ≤ names.length →
      (List.range n).foldlM (fun t i => FileTree.makeStep names t (i + 1)) t = .ok t' →
      Grows t t' ∧ (n < names.length → t'.Reached (names.take (n + 1))) := by
    induction n with
    | zero =>
      intro t' _ hrun
      cases hrun
      refine ⟨ht.grows, fun _ => ?_⟩
      cases names with
      | nil => exact .nil t
      | cons name names => exact .singleton t name
    | succ n ih =>
      intro t' hn hrun
      rw [List.range_succ, List.foldlM_append] at hrun
      obtain ⟨t₁, hbefore, hrun⟩ := bind_eq_ok.mp hrun
      obtain ⟨hgrows, hreached⟩ := ih t₁ (Nat.le_of_succ_le hn) hbefore
      obtain ⟨t₂, hstep, hrun⟩ := bind_eq_ok.mp hrun
      cases hrun
      obtain ⟨hgrows', hdir⟩ := hgrows.sound.makeStep n.succ_pos hn (hreached hn) hnames hstep
      refine ⟨hgrows.trans hgrows', fun hmore => ?_⟩
      rw [List.take_succ_eq_append_getElem hmore]
      exact ((hreached hn).mono hgrows'.directories).append (hdir hmore) _
  exact (hsteps names.length t' le_rfl h).1

end FileTree

/-! ## Paths without steps upward -/

namespace Path

/-- Names in a row are the components of a path again. -/
theorem components_intercalate {names : List String}
    (h : ∀ n ∈ names, IsPlain n ∧ n ≠ "" ∧ n ≠ ".") :
    components (String.intercalate "/" names) = names := by
  induction names with
  | nil => decide
  | cons n names ih =>
    obtain ⟨⟨hplain, hempty, hdot⟩, hrest⟩ := List.forall_mem_cons.mp h
    cases names with
    | nil => rw [String.intercalate_singleton, components_plain hplain hempty hdot]
    | cons m names =>
      rw [String.intercalate_cons_of_ne_nil (List.cons_ne_nil m names), components_slash,
        components_plain hplain hempty hdot, ih hrest]
      rfl

/-- The names that are kept when steps upward take names away. -/
theorem mem_kept {out names : List String} {n : String}
    (h : n ∈ names.foldl (fun out name => if name == ".." then out.dropLast else out ++ [name])
      out) : n ∈ out ∨ n ∈ names ∧ n ≠ ".." := by
  induction names generalizing out with
  | nil => exact .inl h
  | cons m names ih =>
    rcases ih h with h | ⟨h, hup⟩
    · dsimp only at h
      split at h
      · exact .inl (List.dropLast_subset out h)
      · rename_i hup
        rcases List.mem_append.mp h with h | h
        · exact .inl h
        · rw [List.mem_singleton.mp h]
          exact .inr ⟨List.mem_cons_self, by simpa using hup⟩
    · exact .inr ⟨List.mem_cons_of_mem _ h, hup⟩

theorem not_up_normal (path : String) : ".." ∉ components (normal path) := by
  have hkept : ∀ n ∈ (components path).foldl
      (fun out name => if name == ".." then out.dropLast else out ++ [name]) [],
      n ∈ components path ∧ n ≠ ".." :=
    fun n hn => (mem_kept hn).resolve_left List.not_mem_nil
  have hcomponents : components (normal path) = (components path).foldl
      (fun out name => if name == ".." then out.dropLast else out ++ [name]) [] := by
    have hnames := components_intercalate fun n hn => by
      obtain ⟨hplain, hempty⟩ := plain_of_mem_components (hkept n hn).1
      obtain ⟨-, hdot⟩ := List.mem_filter.mp (hkept n hn).1
      exact ⟨hplain, hempty, fun heq => by simp [heq] at hdot⟩
    unfold normal
    dsimp only
    split
    · have hslash := components_slash "" (String.intercalate "/" ((components path).foldl
        (fun out name => if name == ".." then out.dropLast else out ++ [name]) []))
      rw [String.empty_append] at hslash
      rw [hslash, hnames]
      rfl
    · rw [String.empty_append, hnames]
  rw [hcomponents]
  exact fun hup => (hkept _ hup).2 rfl

end Path

/-! ## Members -/

namespace Archive

open FileTree (Grows HasDirectories)

variable {t t' : FileTree} {path directory : String}

theorem makeParent_grows (ht : t.Sound) {member : Member} {target : String}
    (h : makeParent directory t member = .ok (t', target)) : Grows t t' := by
  unfold makeParent at h
  dsimp only at h
  generalize String.intercalate "/" (directory :: (memberSteps member.name).dropLast) = way at h
  split at h
  · cases h
    exact ht.grows
  · obtain ⟨t₁, hway, hrest⟩ := bind_eq_ok.mp h
    cases hrest
    exact ht.makeWay (Path.not_up_normal way) hway

theorem unpackData_grows (ht : t.Sound) (target : String) (member : Member) :
    Grows t (unpackData path target t member).1 := by
  unfold unpackData
  split
  · exact ht.grows
  · split
    · exact ht.grows
    · exact ht.write ‹_›

theorem unpackMember_grows (ht : t.Sound) (path directory : String) (member : Member) :
    Grows t (unpackMember path directory t member).1 := by
  unfold unpackMember
  split
  · exact ht.grows
  · have hway := makeParent_grows ht ‹_›
    split
    · exact hway
    · split
      · split
        · exact hway
        · split
          · exact hway.trans (hway.sound.makeDirectory ‹_›)
          · exact hway
      · exact hway.trans (unpackData_grows hway.sound _ member)

/-- However far the members of an archive are unpacked. -/
theorem unpackAll_grows (ht : t.Sound) (path directory : String) (members : List Member) :
    Grows t (unpackAll path directory t members).1 := by
  induction members generalizing t with
  | nil => exact ht.grows
  | cons member rest ih =>
    have hmember := unpackMember_grows ht path directory member
    rw [unpackAll_cons]
    generalize unpackMember path directory t member = run at hmember
    obtain ⟨files, result⟩ := run
    cases result with
    | ok _ => exact hmember.trans (ih hmember.sound)
    | error e => exact hmember

theorem ofExcept_world {α : Type} {r : Except Fault α} {w w' : World} {a : α}
    (h : Act.ofExcept r w = (.ok a, w')) : w' = w := by
  cases r with
  | ok b =>
    cases h
    rfl
  | error e => cases h

theorem tempDirectory_gains {w w' : World} {context : ContextId} {start : Json}
    (hsound : w.files.Sound) (h : Context.tempDirectory context start w = (.ok directory, w')) :
    w.files.Gains directory .directory w'.files ∧ w'.files.Sound := by
  obtain ⟨c, w₀, hc, hfresh⟩ := Act.bind_eq_ok h
  obtain rfl : w₀ = w := by
    cases hcontext : w.contexts[context.index]? with
    | none =>
      rw [Context.ofId_missing hcontext] at hc
      cases hc
    | some c' =>
      rw [Context.ofId_apply hcontext] at hc
      cases hc
      rfl
  rcases Act.freshDirectory_apply c.directory start w₀ with ⟨e, names, hrun⟩ |
    ⟨made, names, files, hrun, hmake⟩
  · cases hrun.symm.trans hfresh
  · cases hrun.symm.trans hfresh
    exact ⟨FileTree.makeDirectory_gains hmake, (FileTree.makeDirectory_gains hmake).sound hsound⟩

/-- An archive is unpacked into a directory that was not there before, and the tree that it
leaves is sound. -/
theorem extract_fresh {w w' : World} {context : ContextId} {start : Json}
    (hsound : w.files.Sound) (h : extract (.str path) context start w = (.ok directory, w')) :
    w.files.at? (Path.spot directory) = none ∧ w'.files.Sound ∧
      w'.files.place directory = .ok (Path.spot directory) ∧
      w'.files.at? (Path.spot directory) = some .directory := by
  obtain ⟨made, w₁, hmade, hrest⟩ := Act.bind_eq_ok h
  obtain ⟨hgains, hsound₁⟩ := tempDirectory_gains hsound hmade
  dsimp only at hrest
  rw [Act.getThe_bind] at hrest
  obtain ⟨found, w₂, hfound, hrest⟩ := Act.bind_eq_ok hrest
  obtain rfl : w₁ = w₂ := (ofExcept_world hfound).symm
  rw [Act.getThe_bind] at hrest
  have hgrows := unpackAll_grows hsound₁ path made (latest found)
  generalize unpackAll path made w₁.files (latest found) = run at hrest hgrows
  obtain ⟨files, result⟩ := run
  rw [Act.bind_apply, Act.modify_apply] at hrest
  obtain ⟨_, w₃, hresult, hrest⟩ := Act.bind_eq_ok hrest
  obtain rfl := ofExcept_world hresult
  rw [Act.bind_apply, Act.info, Act.log_apply] at hrest
  cases hrest
  refine ⟨hgains.fresh, hgrows.sound, ?_, ?_⟩
  · exact FileTree.place_mono hgrows.directories
      (FileTree.place_mono hgains.hasDirectories hgains.place)
  · refine hgrows.directories _ ?_
    rw [hgains.at?, if_pos rfl]

end Archive

end Compositor
