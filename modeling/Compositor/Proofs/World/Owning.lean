import Compositor.Proofs.World.Cleaning
import Mathlib.Data.List.Nodup
import Mathlib.Logic.Function.Basic

/-!
# Who owns which temporary files

Manifests share the directory of their context, in which the context also makes files and
directories of its own. A ledger is kept beside the world: which paths were handed out, and
to which manifest since its last release. It agrees with the world after any errands in any
order, so no path is tracked twice and every manifest releases its own files only.
-/
namespace Compositor

/-- What is done with the temporary files of a context. -/
inductive Errand where
  /-- A new manifest is begun. -/
  | manifest
  | path (m : ManifestId) (suffix start : Json)
  | release (m : ManifestId)
  | tempPath (suffix start : Json)
  | tempDirectory (start : Json)
  | cleanup

/-- The paths that a manifest tracks. -/
def World.tracked (w : World) (m : ManifestId) : List String :=
  ((w.manifests[m.index]?).map Manifest.paths).getD []

/-- When one manifest is changed, all others track what they tracked before. -/
theorem World.tracked_modify {w w' : World} {m : ManifestId} {manifest : Manifest}
    {change : Manifest → Manifest} (hm : w.manifests[m.index]? = some manifest)
    (hw : w'.manifests = w.manifests.modify m.index change) :
    w'.tracked = Function.update w.tracked m (change manifest).paths := by
  funext m'
  unfold tracked
  rw [hw, List.getElem?_modify]
  by_cases hm' : m' = m
  · rw [hm', Function.update_self, hm]
    simp
  · have hindex : m.index ≠ m'.index := fun heq => hm' (by cases m; cases m'; cases heq; rfl)
    rw [Function.update_of_ne hm']
    simp [hindex]

/-- The world, and what was handed out. -/
structure Ledger where
  world : World
  /-- All paths of files and directories, in the order in which they were handed out. -/
  handed : List String
  /-- The files that were handed out by a manifest since its last release. -/
  held : ManifestId → List String
  /-- The same, but only since the last cleanup. -/
  kept : ManifestId → List String

namespace Ledger

/-- What the manifests track in the beginning counts as handed out. -/
def start (w : World) : Ledger :=
  ⟨w, w.manifests.flatMap Manifest.paths, w.tracked, fun _ => []⟩

/-- The context has handed out a path of its own, or has failed. -/
def handOut (l : Ledger) : Except Fault String × World → Ledger
  | (.ok p, w) => { l with world := w, handed := l.handed ++ [p] }
  | (.error _, w) => { l with world := w }

/-- One errand. An errand that fails hands nothing out and forgets nothing. -/
def next (id : ContextId) (l : Ledger) : Errand → Ledger
  | .manifest => { l with world := (Manifest.create id l.world).2 }
  | .path m suffix start =>
    match Manifest.path m suffix start l.world with
    | (.ok p, w) => ⟨w, l.handed ++ [p], Function.update l.held m (l.held m ++ [p]),
        Function.update l.kept m (l.kept m ++ [p])⟩
    | (.error _, w) => { l with world := w }
  | .release m =>
    match Manifest.release m l.world with
    | (.ok (), w) => ⟨w, l.handed, Function.update l.held m [], Function.update l.kept m []⟩
    | (.error _, w) => { l with world := w }
  | .tempPath suffix start => l.handOut (Context.tempPath id suffix start l.world)
  | .tempDirectory start => l.handOut (Context.tempDirectory id start l.world)
  | .cleanup => ⟨(Context.cleanup id l.world).2, l.handed, l.held, fun _ => []⟩

def run (id : ContextId) (l : Ledger) (errands : List Errand) : Ledger :=
  errands.foldl (next id) l

variable {id : ContextId} {directory : String} {root : List String} {l : Ledger}

theorem handed_release (l : Ledger) (m : ManifestId) :
    (l.next id (.release m)).handed = l.handed := by
  rw [next]
  rcases Manifest.release m l.world with ⟨_ | _, w⟩ <;> rfl

theorem handed_path (l : Ledger) (m : ManifestId) (suffix start : Json) :
    l.handed <+: (l.next id (.path m suffix start)).handed := by
  rw [next]
  rcases Manifest.path m suffix start l.world with ⟨_ | p, w⟩
  · exact List.prefix_rfl
  · exact List.prefix_append _ _

/-- The ledger agrees with the world. -/
structure Sound (id : ContextId) (directory : String) (root : List String) (l : Ledger) :
    Prop where
  home : l.world.Houses id directory root
  tracked : ∀ m, l.world.tracked m = l.held m
  handed : ∀ m, ∀ p ∈ l.held m, p ∈ l.handed
  apart : ∀ m m' p, p ∈ l.held m → p ∈ l.held m' → m = m'
  tracks : ∀ m, ∀ p ∈ l.held m, l.world.files.Tracks p
  kept : ∀ m, ∀ p ∈ l.kept m, p ∈ l.held m ∧ l.world.files.isFile p = true

/-- No place was handed out twice. -/
def Distinct (l : Ledger) : Prop := (l.handed.map Path.spot).Nodup

theorem Distinct.spot_ne {p : String}
    (h : ({ l with handed := l.handed ++ [p] } : Ledger).Distinct) {p' : String}
    (hp' : p' ∈ l.handed) : Path.spot p' ≠ Path.spot p := by
  intro heq
  unfold Distinct at h
  rw [List.map_append, List.map_cons, List.map_nil, List.nodup_append] at h
  exact h.2.2 _ (List.mem_map_of_mem hp') _ List.mem_cons_self heq

namespace Sound

/-- Only temporary names were used up. -/
theorem names (h : l.Sound id directory root) (names : Nat) :
    Sound id directory root { l with world := { l.world with names } } :=
  ⟨h.home.keep rfl h.home.sound fun _ hq => hq, h.tracked, h.handed, h.apart, h.tracks, h.kept⟩

theorem paths_eq (h : l.Sound id directory root) {m : ManifestId} {manifest : Manifest}
    (hm : l.world.manifests[m.index]? = some manifest) : manifest.paths = l.held m := by
  rw [← h.tracked m, World.tracked, hm]
  rfl

/-- A file that is still at its spot is found by its path. -/
theorem isFile_of_gains {t t' : FileTree} {p p' : String} {e : Entry} (h : t.Gains p e t')
    (hne : Path.spot p' ≠ Path.spot p) (htracks : t.Tracks p') (hfile : t.isFile p' = true) :
    t'.isFile p' = true := by
  obtain ⟨hplace, c, hc⟩ := (FileTree.isFile_iff htracks.isOpen).mp hfile
  refine (FileTree.isFile_iff htracks.isOpen).mpr
    ⟨FileTree.place_mono h.hasDirectories hplace, c, ?_⟩
  rw [h.at?, if_neg hne, hc]

/-- A new path was handed out. -/
theorem gains (h : l.Sound id directory root) {p : String} {e : Entry} {files : FileTree}
    (hgains : l.world.files.Gains p e files) (names : Nat)
    (hdistinct : ({ l with handed := l.handed ++ [p] } : Ledger).Distinct) :
    Sound id directory root
      { l with world := { l.world with names, files }, handed := l.handed ++ [p] } where
  home := h.home.keep rfl (hgains.sound h.home.sound) hgains.hasDirectories
  tracked := h.tracked
  handed m p' hp' := List.mem_append_left _ (h.handed m p' hp')
  apart := h.apart
  tracks m p' hp' := by
    refine ⟨(h.tracks m p' hp').isOpen, ?_⟩
    dsimp only
    rw [hgains.at?, if_neg (hdistinct.spot_ne (h.handed m p' hp'))]
    exact (h.tracks m p' hp').notDirectory
  kept m p' hp' := by
    obtain ⟨hheld, hfile⟩ := h.kept m p' hp'
    exact ⟨hheld, isFile_of_gains hgains (hdistinct.spot_ne (h.handed m p' hheld))
      (h.tracks m p' hheld) hfile⟩

/-- A manifest lists a file that was handed out to nobody else. -/
theorem lists (h : l.Sound id directory root) {m : ManifestId} {p : String}
    (hm : (l.world.manifests[m.index]?).isSome) (hp : p ∈ l.handed)
    (hfree : ∀ m', p ∉ l.held m') (htracks : l.world.files.Tracks p)
    (hfile : l.world.files.isFile p = true) :
    Sound id directory root {
      world := { l.world with
        manifests := l.world.manifests.modify m.index fun m => { m with paths := m.paths ++ [p] } }
      handed := l.handed
      held := Function.update l.held m (l.held m ++ [p])
      kept := Function.update l.kept m (l.kept m ++ [p]) } := by
  have hheld {m' : ManifestId} {q : String}
      (hq : q ∈ Function.update l.held m (l.held m ++ [p]) m') :
      q ∈ l.held m' ∨ q = p ∧ m' = m := by
    by_cases hm' : m' = m
    · subst hm'
      rw [Function.update_self, List.mem_append, List.mem_singleton] at hq
      exact hq.imp_right fun heq => ⟨heq, rfl⟩
    · rw [Function.update_of_ne hm'] at hq
      exact .inl hq
  have hmore {m' : ManifestId} {q : String} (hq : q ∈ l.held m') :
      q ∈ Function.update l.held m (l.held m ++ [p]) m' := by
    by_cases hm' : m' = m
    · subst hm'
      rw [Function.update_self]
      exact List.mem_append_left _ hq
    · rwa [Function.update_of_ne hm']
  refine ⟨h.home.keep rfl h.home.sound fun _ hq => hq, ?_, ?_, ?_, ?_, ?_⟩
  · obtain ⟨manifest, hmanifest⟩ := Option.isSome_iff_exists.mp hm
    refine congrFun ?_
    rw [World.tracked_modify hmanifest rfl, h.paths_eq hmanifest, funext h.tracked]
  · intro m' q hq
    rcases hheld hq with hq | ⟨rfl, -⟩
    · exact h.handed m' q hq
    · exact hp
  · intro m₁ m₂ q hq₁ hq₂
    rcases hheld hq₁ with hq₁ | ⟨rfl, rfl⟩ <;> rcases hheld hq₂ with hq₂ | ⟨heq, hm₂⟩
    · exact h.apart m₁ m₂ q hq₁ hq₂
    · exact absurd (heq ▸ hq₁) (hfree m₁)
    · exact absurd hq₂ (hfree m₂)
    · exact hm₂.symm
  · intro m' q hq
    rcases hheld hq with hq | ⟨rfl, -⟩
    · exact h.tracks m' q hq
    · exact htracks
  · intro m' q hq
    dsimp only at hq
    by_cases hm' : m' = m
    · subst hm'
      rw [Function.update_self, List.mem_append, List.mem_singleton] at hq
      rcases hq with hq | rfl
      · exact ⟨hmore (h.kept _ q hq).1, (h.kept _ q hq).2⟩
      · refine ⟨?_, hfile⟩
        dsimp only
        rw [Function.update_self]
        exact List.mem_append_right _ List.mem_cons_self
    · rw [Function.update_of_ne hm'] at hq
      exact ⟨hmore (h.kept _ q hq).1, (h.kept _ q hq).2⟩

/-! ## The errands -/

/-- A release takes away what its manifest holds, and nothing that another one keeps. -/
theorem releases (h : l.Sound id directory root) (hdistinct : l.Distinct) {m : ManifestId}
    (hm : (l.world.manifests[m.index]?).isSome) :
    ∃ files, Manifest.release m l.world = (.ok (), { l.world with
        files
        manifests := l.world.manifests.modify m.index fun m => { m with paths := [] } }) ∧
      l.world.files.Loses (l.held m) files ∧
      Sound id directory root (l.next id (.release m)) := by
  obtain ⟨manifest, hmanifest⟩ := Option.isSome_iff_exists.mp hm
  obtain ⟨files, hrelease, hsound, hloses⟩ := Manifest.release_loses hmanifest h.home.sound
    fun p hp => h.tracks m p (h.paths_eq hmanifest ▸ hp)
  rw [h.paths_eq hmanifest] at hloses
  refine ⟨files, hrelease, hloses, ?_⟩
  rw [next, hrelease]
  have hheld {m' : ManifestId} {q : String} (hq : q ∈ Function.update l.held m [] m') :
      q ∈ l.held m' ∧ m' ≠ m := by
    by_cases hm' : m' = m
    · subst hm'
      rw [Function.update_self] at hq
      cases hq
    · rw [Function.update_of_ne hm'] at hq
      exact ⟨hq, hm'⟩
  have hdirs := hloses.hasDirectories (h.tracks m)
  refine ⟨h.home.keep rfl hsound hdirs, ?_, ?_, ?_, ?_, ?_⟩
  · refine congrFun ?_
    rw [World.tracked_modify hmanifest rfl, funext h.tracked]
  · exact fun m' p hp => h.handed m' p (hheld hp).1
  · exact fun m₁ m₂ p hp₁ hp₂ => h.apart m₁ m₂ p (hheld hp₁).1 (hheld hp₂).1
  · exact fun m' p hp => hloses.tracks (h.tracks m' p (hheld hp).1)
  · intro m' p hp
    dsimp only at hp ⊢
    by_cases hm' : m' = m
    · subst hm'
      rw [Function.update_self] at hp
      cases hp
    · rw [Function.update_of_ne hm'] at hp ⊢
      obtain ⟨hmine, hfile⟩ := h.kept m' p hp
      have hopen := (h.tracks m' p hmine).isOpen
      obtain ⟨hplace, c, hc⟩ := (FileTree.isFile_iff hopen).mp hfile
      refine ⟨hmine, (FileTree.isFile_iff hopen).mpr ⟨FileTree.place_mono hdirs hplace, c, ?_⟩⟩
      rw [hloses.others, hc]
      -- two manifests hold different paths, and different paths have different spots
      rintro q hq - heq
      have hsame := List.inj_on_of_nodup_map hdistinct (h.handed m q hq) (h.handed m' p hmine) heq
      exact hm' (h.apart m' m p hmine (hsame ▸ hq))

/-- A cleanup leaves the directory of the context empty. -/
theorem cleans (h : l.Sound id directory root) :
    ∃ files, Context.cleanup id l.world = (.ok (), { l.world with
        files
        events := l.world.events ++ l.world.messages .debug "Temporary files cleaned up" }) ∧
      (∀ q, files.at? q = (l.world.files.emptied root).at? q) ∧
      Sound id directory root (l.next id .cleanup) := by
  obtain ⟨files, hcleanup, hat⟩ := Context.cleanup_empties h.home
  refine ⟨files, hcleanup, hat, ?_⟩
  have hold (q : List String) (hq : files.at? q ≠ none) : files.at? q = l.world.files.at? q := by
    rw [hat, FileTree.at?_emptied] at hq ⊢
    split at hq
    · exact absurd rfl hq
    · rw [if_neg ‹_›]
  have hkeeps (q : List String) (hq : ¬ (root <+: q ∧ q ≠ root)) :
      files.at? q = l.world.files.at? q := by
    rw [hat, FileTree.at?_emptied, if_neg hq]
  have hsound : files.Sound := by
    refine h.home.sound.shrink hold fun p q hbelow hq hdir => ?_
    rw [hkeeps, hdir]
    rintro ⟨hroot, hproper⟩
    rw [hat, FileTree.at?_emptied, if_pos] at hq
    · exact hq rfl
    · refine ⟨hroot.trans hbelow, ?_⟩
      rintro rfl
      exact hproper (hbelow.eq_of_length_le hroot.length_le)
  rw [next, hcleanup]
  refine ⟨⟨h.home.context, hsound, h.home.nonempty, ?_, ?_⟩, h.tracked, h.handed, h.apart, ?_,
    fun _ _ hp => nomatch hp⟩
  · dsimp only
    rw [hkeeps root fun hroot => hroot.2 rfl, h.home.isDirectory]
  · refine FileTree.place_mono (fun q hq => ?_) h.home.place
    dsimp only
    rw [FileTree.at?_emptied] at hq ⊢
    split at hq
    · cases hq
    · rw [if_neg ‹_›, hkeeps q ‹_›, hq]
  · intro m p hp
    refine ⟨(h.tracks m p hp).isOpen, fun hdir => (h.tracks m p hp).notDirectory ?_⟩
    dsimp only at hdir
    rw [← hold _ (by rw [hdir]; exact nofun), hdir]

/-- A path of the context itself is handed out. -/
theorem handsOut (h : l.Sound id directory root) {act : Act String} {e : Entry}
    (hact : (∃ error names, act l.world = (.error error, { l.world with names })) ∨
      ∃ p names files, act l.world = (.ok p, { l.world with names, files }) ∧
        l.world.files.Gains p e files)
    (hdistinct : (l.handOut (act l.world)).Distinct) :
    Sound id directory root (l.handOut (act l.world)) := by
  rcases hact with ⟨error, names, hrun⟩ | ⟨p, names, files, hrun, hgains⟩
  · rw [hrun]
    exact h.names names
  · rw [hrun] at hdistinct ⊢
    exact h.gains hgains names hdistinct

/-- A path is handed out by a manifest. -/
theorem handsOutTo (h : l.Sound id directory root) {m : ManifestId} {suffix start : Json}
    (hdistinct : (l.next id (.path m suffix start)).Distinct) :
    Sound id directory root (l.next id (.path m suffix start)) := by
  rw [next] at hdistinct ⊢
  cases hm : l.world.manifests[m.index]? with
  | none =>
    have hmissing : Manifest.path m suffix start l.world = (.error .noAttribute, l.world) := by
      rw [Manifest.path, Act.bind_apply, Manifest.ofId, Act.getThe_bind, hm]
      rfl
    rw [hmissing]
    exact h
  | some manifest =>
    rcases Manifest.path_apply hm suffix start with
      ⟨e, names, hrun⟩ | ⟨p, names, files, hrun, hcreate⟩
    · rw [hrun]
      exact h.names names
    · rw [hrun] at hdistinct ⊢
      obtain ⟨hgains, hopen⟩ := FileTree.create_gains hcreate
      have hnew : ({ l with handed := l.handed ++ [p] } : Ledger).Distinct := hdistinct
      have hthere : files.at? (Path.spot p) = some (.file (.bytes [])) := by
        rw [hgains.at?, if_pos rfl]
      refine (h.gains hgains names hnew).lists (m := m) (p := p) ?_
        (List.mem_append_right _ List.mem_cons_self) ?_ ⟨hopen, ?_⟩ ?_
      · rw [hm]
        rfl
      · exact fun m' hp => hnew.spot_ne (h.handed m' p hp) rfl
      · intro hdir
        rw [hthere] at hdir
        cases hdir
      · exact (FileTree.isFile_iff hopen).mpr
          ⟨FileTree.place_mono hgains.hasDirectories hgains.place, _, hthere⟩

/-- A manifest is begun, and tracks nothing yet. -/
theorem begins (h : l.Sound id directory root) :
    Sound id directory root (l.next id .manifest) := by
  obtain ⟨c, hc, -⟩ := Option.map_eq_some_iff.mp h.home.context
  rw [next, Manifest.create_apply hc]
  refine ⟨h.home.keep rfl h.home.sound fun _ hq => hq, fun m => ?_, h.handed, h.apart, h.tracks,
    h.kept⟩
  rw [← h.tracked m]
  unfold World.tracked World.withManifest
  dsimp only
  rw [List.getElem?_append]
  split
  · rfl
  · rename_i hlength
    rw [List.getElem?_eq_none (Nat.not_lt.mp hlength), List.getElem?_singleton]
    split <;> rfl

/-- The ledger agrees with the world after one more errand. -/
theorem step (h : l.Sound id directory root) {errand : Errand}
    (hdistinct : (l.next id errand).Distinct) : Sound id directory root (l.next id errand) := by
  obtain ⟨c, hc, -⟩ := Option.map_eq_some_iff.mp h.home.context
  cases errand with
  | manifest => exact h.begins
  | path m suffix start => exact h.handsOutTo hdistinct
  | release m =>
    cases hm : l.world.manifests[m.index]? with
    | none =>
      have hmissing : Manifest.release m l.world = (.error .noAttribute, l.world) := by
        rw [Manifest.release, Act.bind_apply, Manifest.ofId, Act.getThe_bind, hm]
        rfl
      rw [next, hmissing]
      exact h
    | some manifest =>
      have hbefore : l.Distinct := by
        rwa [Distinct, handed_release] at hdistinct
      obtain ⟨files, -, -, hsound⟩ := h.releases hbefore (m := m) (by rw [hm]; rfl)
      exact hsound
  | tempPath suffix start =>
    refine h.handsOut (e := .file (.bytes [])) ?_ hdistinct
    rw [Context.tempPath, Act.bind_apply, Context.ofId_apply hc]
    refine (Act.freshFile_apply c.directory start suffix l.world).imp_right ?_
    rintro ⟨p, names, files, hrun, hcreate⟩
    exact ⟨p, names, files, hrun, (FileTree.create_gains hcreate).1⟩
  | tempDirectory start =>
    refine h.handsOut (e := .directory) ?_ hdistinct
    rw [Context.tempDirectory, Act.bind_apply, Context.ofId_apply hc]
    refine (Act.freshDirectory_apply c.directory start l.world).imp_right ?_
    rintro ⟨p, names, files, hrun, hmake⟩
    exact ⟨p, names, files, hrun, FileTree.makeDirectory_gains hmake⟩
  | cleanup =>
    obtain ⟨files, -, -, hsound⟩ := h.cleans
    exact hsound

end Sound

end Ledger

end Compositor
