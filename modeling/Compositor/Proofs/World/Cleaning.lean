import Compositor.Proofs.World.Soundness
import Compositor.Proofs.World.Staging

/-!
# Cleaning up

The directory of a context stands in the tree of files, and the path to it leads through
nothing that it holds. A cleanup leaves this directory empty. A release takes away the
files of its manifest that are still there, and neither of them ever fails.
-/
namespace Compositor

/-! ## Emptying a directory -/

namespace FileTree

variable {t t' : FileTree} {path : String} {root : List String}

/-- A tree without what stands below a place. -/
def emptied (t : FileTree) (root : List String) : FileTree :=
  ⟨t.entries.filter fun e => !(root.isPrefixOf e.1 && e.1 != root)⟩

theorem at?_emptied (t : FileTree) (root q : List String) :
    (t.emptied root).at? q = if root <+: q ∧ q ≠ root then none else t.at? q := by
  rw [emptied, t.at?_filter fun place => !(root.isPrefixOf place && place != root)]
  by_cases h : root <+: q ∧ q ≠ root <;> simp [h]

theorem emptied_mono (h : HasDirectories t t') :
    HasDirectories (t.emptied root) (t'.emptied root) := by
  intro q hq
  rw [at?_emptied] at hq ⊢
  split at hq
  · cases hq
  · rw [if_neg ‹_›, h q hq]

theorem emptied_hasDirectories (t : FileTree) (root : List String) :
    HasDirectories (t.emptied root) t := by
  intro q hq
  rw [at?_emptied] at hq
  split at hq
  · cases hq
  · exact hq

theorem at?_of_mem {e : List String × Entry} (h : e ∈ t.entries) : t.at? e.1 ≠ none :=
  fun hnone => not_mem_of_at? hnone e h rfl

theorem mem_of_at? {q : List String} (h : t.at? q ≠ none) : ∃ e, (q, e) ∈ t.entries := by
  obtain ⟨e, he⟩ := Option.ne_none_iff_exists'.mp h
  obtain ⟨⟨place, e'⟩, hfound, rfl⟩ := Option.map_eq_some_iff.mp he
  have hplace : place = q := by simpa using List.find?_some hfound
  exact ⟨e', hplace ▸ List.mem_of_find?_eq_some hfound⟩

/-- The names inside a place are those of the entries directly below it. -/
theorem mem_inside {name : String} :
    name ∈ t.inside root ↔ t.at? (root ++ [name]) ≠ none := by
  constructor
  · intro h
    obtain ⟨e, he, hname⟩ := List.mem_filterMap.mp h
    split at hname
    · rename_i hchild
      simp only [Bool.and_eq_true, beq_iff_eq, bne_iff_ne] at hchild
      obtain ⟨hparent, hne⟩ := hchild
      have hplace : e.1 = root ++ [name] := by
        rw [← List.dropLast_append_getLast? name hname, hparent]
      exact hplace ▸ at?_of_mem he
    · cases hname
  · intro h
    obtain ⟨e, he⟩ := mem_of_at? h
    refine List.mem_filterMap.mpr ⟨_, he, ?_⟩
    simp

theorem entry_of_directory (hplace : t.place path = .ok root)
    (hdir : t.at? root = some .directory) : t.entry path = .ok .directory := by
  unfold entry
  rw [hplace]
  simp only [bind, Except.bind, hdir]

/-- The listing of a directory. -/
theorem list_inside (hplace : t.place path = .ok root) (hdir : t.at? root = some .directory) :
    t.list path = .ok (t.inside root) := by
  unfold list
  rw [entry_of_directory hplace hdir, hplace]
  rfl

theorem not_below_self (root : List String) (name : String) : ¬ root ++ [name] <+: root := by
  intro hbelow
  have hlength := hbelow.length_le
  rw [List.length_append, List.length_singleton] at hlength
  omega

/-- Removing names directly below a directory, one after the other. -/
theorem removeAll_names {names : List String} (hplace : (t.emptied root).place path = .ok root)
    (hnames : ∀ name ∈ names, Path.IsName name)
    (hdirs : HasDirectories (t.emptied root) t') (hdir : t'.at? root = some .directory)
    (q : List String) :
    (names.foldl (fun t name => t.removeAll (Path.below path name)) t').at? q =
      if ∃ name ∈ names, root ++ [name] <+: q then none else t'.at? q := by
  induction names generalizing t' with
  | nil => simp
  | cons name names ih =>
    have hremoved : t'.removeAll (Path.below path name) = t'.prune (root ++ [name]) := by
      rw [removeAll,
        place_below (place_mono hdirs hplace) hdir (hnames name List.mem_cons_self)]
    have hdirs' : HasDirectories (t.emptied root) (t'.prune (root ++ [name])) := by
      intro p hp
      rw [at?_prune, if_neg, hdirs p hp]
      intro hbelow
      rw [at?_emptied, if_pos] at hp
      · cases hp
      · refine ⟨(List.prefix_append _ _).trans hbelow, ?_⟩
        rintro rfl
        exact not_below_self p name hbelow
    have hdir' : (t'.prune (root ++ [name])).at? root = some .directory := by
      rw [at?_prune, if_neg (not_below_self root name), hdir]
    rw [List.foldl_cons, hremoved,
      ih (fun name hname => hnames name (List.mem_cons_of_mem _ hname)) hdirs' hdir', at?_prune]
    simp only [List.mem_cons, exists_eq_or_imp]
    by_cases hhere : root ++ [name] <+: q <;>
      by_cases hthere : ∃ name ∈ names, root ++ [name] <+: q <;> simp [hhere, hthere]

/-- What stands below a directory stands below one of the names inside. -/
theorem below_inside (ht : t.Sound) (hne : root ≠ []) {q : List String} (hq : t.at? q ≠ none) :
    (∃ name ∈ t.inside root, root ++ [name] <+: q) ↔ root <+: q ∧ q ≠ root := by
  constructor
  · rintro ⟨name, -, hbelow⟩
    refine ⟨(List.prefix_append _ _).trans hbelow, ?_⟩
    rintro rfl
    exact not_below_self q name hbelow
  · rintro ⟨⟨rest, rfl⟩, hproper⟩
    cases rest with
    | nil => exact absurd (List.append_nil root) hproper
    | cons name rest =>
      have hbelow : root ++ [name] <+: root ++ name :: rest :=
        (List.prefix_append_right_inj root).mpr ⟨rest, rfl⟩
      refine ⟨name, mem_inside.mpr ?_, hbelow⟩
      by_cases hself : root ++ [name] = root ++ name :: rest
      · rw [hself]
        exact hq
      · have hdir := ht.reached _ hq _ (by simp) hbelow hself
        rw [hdir]
        exact nofun

/-- The directory at a path is emptied by removing all names inside. -/
theorem removeAll_inside (ht : t.Sound) (hplace : (t.emptied root).place path = .ok root)
    (hne : root ≠ []) (hdir : t.at? root = some .directory) (q : List String) :
    ((t.inside root).foldl (fun t name => t.removeAll (Path.below path name)) t).at? q =
      (t.emptied root).at? q := by
  have hnames (name : String) (hname : name ∈ t.inside root) : Path.IsName name :=
    (ht.of_below hne (mem_inside.mp hname)).1
  rw [removeAll_names hplace hnames (t.emptied_hasDirectories root) hdir, at?_emptied]
  by_cases hq : t.at? q = none
  · rw [hq, ite_self, ite_self]
  · simp only [below_inside ht hne hq]

end FileTree

/-! ## The directory of a context -/

/-- The directory of a context stands at a place, and its path leads there without going
through anything that it holds. -/
structure World.Houses (w : World) (id : ContextId) (directory : String) (root : List String) :
    Prop where
  context : (w.contexts[id.index]?).map Context.directory = some directory
  sound : w.files.Sound
  nonempty : root ≠ []
  isDirectory : w.files.at? root = some .directory
  place : (w.files.emptied root).place directory = .ok root

/-- The path of the directory leads to it. -/
theorem World.Houses.entry {w : World} {id : ContextId} {directory : String}
    {root : List String} (h : w.Houses id directory root) :
    w.files.place directory = .ok root ∧ w.files.entry directory = .ok .directory := by
  have hplace : w.files.place directory = .ok root :=
    FileTree.place_mono (w.files.emptied_hasDirectories root) h.place
  exact ⟨hplace, FileTree.entry_of_directory hplace h.isDirectory⟩

theorem World.Houses.list {w : World} {id : ContextId} {directory : String}
    {root : List String} (h : w.Houses id directory root) :
    w.files.list directory = .ok (w.files.inside root) :=
  FileTree.list_inside h.entry.1 h.isDirectory

/-- More directories, or the same ones, do no harm to the directory of a context. -/
theorem World.Houses.keep {w w' : World} {id : ContextId} {directory : String}
    {root : List String} (h : w.Houses id directory root) (hcontexts : w'.contexts = w.contexts)
    (hsound : w'.files.Sound) (hdirs : FileTree.HasDirectories w.files w'.files) :
    w'.Houses id directory root where
  context := by rw [hcontexts, h.context]
  sound := hsound
  nonempty := h.nonempty
  isDirectory := hdirs _ h.isDirectory
  place := FileTree.place_mono (FileTree.emptied_mono hdirs) h.place

namespace Act

variable {α : Type}

/-- Changing the files once for each item. -/
theorem each_modify (change : FileTree → α → FileTree) (items : List α) (w : World) :
    (forIn items PUnit.unit fun a _ => do
      modify fun w : World => { w with files := change w.files a }
      pure (ForInStep.yield PUnit.unit) : Act PUnit) w =
      (.ok (), { w with files := items.foldl change w.files }) := by
  induction items generalizing w with
  | nil => rfl
  | cons a items ih =>
    rw [List.forIn_cons, bind_apply, bind_apply, modify_apply]
    exact ih _

theorem freshDirectory_apply (directory before : Json) (w : World) :
    (∃ e names, freshDirectory directory before w = (.error e, { w with names })) ∨
      ∃ path names files,
        freshDirectory directory before w = (.ok path, { w with names, files }) ∧
        w.files.makeDirectory path = .ok files := by
  rw [freshDirectory, getThe_bind, tries]
  have htries : (do return (← get).files.entries.length + 1 : Act Nat) w =
      (.ok (w.files.entries.length + 1), w) := rfl
  rw [bind_apply, htries]
  rcases claim_apply FileTree.makeDirectory _ _ w with
    hfail | ⟨path, names, files, hclaim, hmake, -⟩
  · exact .inl hfail
  · exact .inr ⟨path, names, files, hclaim, hmake⟩

end Act

theorem World.sound_initial : initial.files.Sound := by
  have hplaces {q : List String} (hq : initial.files.at? q ≠ none) :
      q = ["/"] ∨ q = ["/", "tmp"] := by
    obtain ⟨e, he⟩ := FileTree.mem_of_at? hq
    rcases List.mem_cons.mp he with h | h
    · exact .inl (congrArg Prod.fst h)
    · exact .inr (congrArg Prod.fst (List.mem_singleton.mp h))
  have hroot := FileTree.Reached.singleton initial.files "/"
  have htemp : Path.IsName "tmp" :=
    ⟨⟨by decide +kernel, by decide, by decide, by decide +kernel⟩, by decide, by decide +kernel⟩
  constructor
  · intro q hq
    rcases hplaces hq with rfl | rfl
    · exact hroot
    · exact hroot.append (by decide +kernel) "tmp"
  · intro q hq
    rcases hplaces hq with rfl | rfl
    · exact ⟨List.cons_ne_nil _ _, fun _ hname => nomatch hname⟩
    · exact ⟨List.cons_ne_nil _ _, fun _ hname => List.mem_singleton.mp hname ▸ htemp⟩

/-- A new context has a directory of its own. -/
theorem Context.create_houses {ffmpeg ffprobe : Argument} {root : Option Json} {w w' : World}
    {id : ContextId} (hsound : w.files.Sound) (h : create ffmpeg ffprobe root w = (.ok id, w')) :
    ∃ directory, w'.Houses id directory (Path.spot directory) := by
  rw [create, Act.getThe_bind] at h
  obtain ⟨directory, w₁, hfresh, h⟩ := Act.bind_eq_ok h
  rcases Act.freshDirectory_apply (root.getD w.tempRoot) "bgcompose_" w with
    ⟨e, names, hrun⟩ | ⟨path, names, files, hrun, hmake⟩
  · cases hrun.symm.trans hfresh
  · cases hrun.symm.trans hfresh
    cases h
    have hgains := FileTree.makeDirectory_gains hmake
    refine ⟨directory, ?_, hgains.sound hsound, hgains.nonempty, ?_, ?_⟩
    · dsimp only
      rw [List.getElem?_concat_length]
      rfl
    · dsimp only
      rw [hgains.at?, if_pos rfl]
    · -- nothing stood below the new directory, so its path does not need anything there
      refine FileTree.place_mono (fun q hq => ?_) hgains.place
      dsimp only
      rw [FileTree.at?_emptied, if_neg, hgains.hasDirectories q hq]
      rintro ⟨hbelow, hproper⟩
      have hold := hsound.reached q (by rw [hq]; exact nofun)
      exact hold.not_behind hgains.nonempty hgains.fresh (by rw [hq]; exact nofun) hbelow

/-- A cleanup leaves the directory of the context, and nothing in it. -/
theorem Context.cleanup_empties {w : World} {id : ContextId} {directory : String}
    {root : List String} (h : w.Houses id directory root) :
    ∃ files, cleanup id w = (.ok (), { w with
        files
        events := w.events ++ w.messages .debug "Temporary files cleaned up" }) ∧
      ∀ q, files.at? q = (w.files.emptied root).at? q := by
  obtain ⟨c, hc, rfl⟩ := Option.map_eq_some_iff.mp h.context
  refine ⟨(w.files.inside root).foldl (fun t name => t.removeAll (Path.below c.directory name))
    w.files, ?_, FileTree.removeAll_inside h.sound h.place h.nonempty h.isDirectory⟩
  rw [cleanup, Act.bind_apply, ofId_apply hc]
  dsimp only
  rw [Act.getThe_bind, h.list, Act.bind_apply, Act.ofSystem, Act.pure_apply]
  dsimp only
  rw [Act.bind_apply, Act.each_modify fun t name => t.removeAll (Path.below c.directory name)]
  dsimp only
  rw [Act.debug, Act.log_apply]
  rfl

/-! ## Releasing -/

/-- The files at some paths are gone, if they were there, and everything else is as before. -/
structure FileTree.Loses (t : FileTree) (paths : List String) (t' : FileTree) : Prop where
  gone : ∀ p ∈ paths, t.exists_ p = true → t'.at? (Path.spot p) = none
  others : ∀ q, (∀ p ∈ paths, t.exists_ p = true → Path.spot p ≠ q) → t'.at? q = t.at? q

/-- A path that can only lead to a file. -/
structure FileTree.Tracks (t : FileTree) (path : String) : Prop where
  isOpen : path.endsWith "/" = false
  notDirectory : t.at? (Path.spot path) ≠ some .directory

namespace FileTree.Loses

variable {t t' : FileTree} {paths : List String}

/-- What is still there was there before. -/
theorem old (h : t.Loses paths t') {q : List String} (hq : t'.at? q ≠ none) :
    t'.at? q = t.at? q := by
  refine h.others q ?_
  rintro p hp hexists rfl
  exact hq (h.gone p hp hexists)

theorem at?_none (h : t.Loses paths t') {q : List String} (hq : t.at? q = none) :
    t'.at? q = none := by
  by_contra hthere
  exact hthere ((h.old hthere).trans hq)

theorem tracks (h : t.Loses paths t') {path : String} (hpath : t.Tracks path) :
    t'.Tracks path :=
  ⟨hpath.isOpen, fun hdir => hpath.notDirectory (by rw [← h.old (by rw [hdir]; exact nofun), hdir])⟩

theorem hasDirectories (h : t.Loses paths t') (htracks : ∀ p ∈ paths, t.Tracks p) :
    HasDirectories t t' := by
  intro q hq
  rw [h.others q, hq]
  rintro p hp - rfl
  exact (htracks p hp).notDirectory hq

end FileTree.Loses

namespace Manifest

/-- Deleting the file at a path, whether it is there or not. -/
theorem deleteFile_loses {w : World} {path : String} (hsound : w.files.Sound)
    (htracks : w.files.Tracks path) : ∃ files, deleteFile path w = (.ok (), { w with files }) ∧
      files.Sound ∧ w.files.Loses [path] files := by
  rw [deleteFile, Act.getThe_bind]
  by_cases hexists : w.files.exists_ path = true
  · obtain ⟨files, hremove, hat⟩ :=
      FileTree.remove_file hsound htracks.isOpen hexists htracks.notDirectory
    rw [if_pos hexists, hremove]
    refine ⟨files, rfl, hsound.shrink (fun q hq => ?_) (fun p q hbelow hq hdir => ?_), ?_, ?_⟩
    · rw [hat] at hq ⊢
      split
      · rw [if_pos ‹_›] at hq
        exact absurd rfl hq
      · rfl
    · rw [hat, if_neg, hdir]
      rintro rfl
      exact htracks.notDirectory hdir
    · simp [hat]
    · intro q hq
      rw [hat, if_neg]
      exact fun hself => hq path List.mem_cons_self hexists hself.symm
  · rw [if_neg hexists]
    refine ⟨w.files, rfl, hsound, fun p hp hp' => ?_, fun _ _ => rfl⟩
    exact absurd (List.mem_singleton.mp hp ▸ hp') hexists

/-- Losing one file and then others. -/
theorem loses_cons {t t₁ t' : FileTree} {path : String} {paths : List String}
    (htracks : ∀ p ∈ path :: paths, t.Tracks p) (hfirst : t.Loses [path] t₁)
    (hrest : t₁.Loses paths t') : t.Loses (path :: paths) t' := by
  have hone : ∀ p ∈ [path], t.Tracks p := fun p hp =>
    htracks p (List.mem_singleton.mp hp ▸ List.mem_cons_self)
  have hdirs : FileTree.HasDirectories t t₁ := hfirst.hasDirectories hone
  constructor
  · intro p hp hexists
    rcases List.mem_cons.mp hp with rfl | hp'
    · exact hrest.at?_none (hfirst.gone p List.mem_cons_self hexists)
    · have hopen := (htracks p hp).isOpen
      obtain ⟨hplace, -⟩ := (FileTree.exists_iff hopen).mp hexists
      by_cases hthere : t₁.at? (Path.spot p) = none
      · exact hrest.at?_none hthere
      · exact hrest.gone p hp' ((FileTree.exists_iff hopen).mpr
          ⟨FileTree.place_mono hdirs hplace, hthere⟩)
  · intro q hq
    rw [hrest.others q, hfirst.others q]
    · exact fun p hp => hq p (List.mem_singleton.mp hp ▸ List.mem_cons_self)
    · intro p hp hexists
      have hopen := (htracks p (List.mem_cons_of_mem _ hp)).isOpen
      obtain ⟨hplace, hthere⟩ := (FileTree.exists_iff hopen).mp hexists
      refine hq p (List.mem_cons_of_mem _ hp) ((FileTree.exists_iff hopen).mpr ⟨?_, ?_⟩)
      · exact FileTree.place_mono
          (fun q hdir => by rw [← hfirst.old (by rw [hdir]; exact nofun), hdir]) hplace
      · rwa [← hfirst.old hthere]

/-- Deleting files one after the other. -/
theorem deleteFiles_lose {w : World} {paths : List String} (hsound : w.files.Sound)
    (htracks : ∀ p ∈ paths, w.files.Tracks p) :
    ∃ files, (forIn paths PUnit.unit fun path _ => do
        deleteFile path
        pure (ForInStep.yield PUnit.unit) : Act PUnit) w = (.ok (), { w with files }) ∧
      files.Sound ∧ w.files.Loses paths files := by
  induction paths generalizing w with
  | nil => exact ⟨w.files, rfl, hsound, List.forall_mem_nil _, fun _ _ => rfl⟩
  | cons path paths ih =>
    obtain ⟨first, hdelete, hsound₁, hfirst⟩ :=
      deleteFile_loses hsound (htracks path List.mem_cons_self)
    obtain ⟨files, hrest, hsound', hloses⟩ := ih (w := { w with files := first }) hsound₁
      fun p hp => hfirst.tracks (htracks p (List.mem_cons_of_mem _ hp))
    refine ⟨files, ?_, hsound', loses_cons htracks hfirst hloses⟩
    rw [List.forIn_cons, Act.bind_apply, Act.bind_apply, hdelete]
    exact hrest

/-- A release takes away the files of its manifest that are still there, and the manifest
forgets them. -/
theorem release_loses {w : World} {id : ManifestId} {m : Manifest}
    (hm : w.manifests[id.index]? = some m) (hsound : w.files.Sound)
    (htracks : ∀ p ∈ m.paths, w.files.Tracks p) :
    ∃ files, release id w = (.ok (), { w with
        files
        manifests := w.manifests.modify id.index fun m => { m with paths := [] } }) ∧
      files.Sound ∧ w.files.Loses m.paths files := by
  obtain ⟨files, hdelete, hsound', hloses⟩ := deleteFiles_lose hsound htracks
  refine ⟨files, ?_, hsound', hloses⟩
  rw [release, Act.bind_apply, ofId_apply hm]
  dsimp only
  rw [Act.bind_apply, hdelete]
  rfl

end Manifest

end Compositor
