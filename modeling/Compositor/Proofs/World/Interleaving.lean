import Compositor.Proofs.Fault.Wiring
import Compositor.Proofs.World.Owning

/-!
# Manifests side by side

Any number of manifests are filled and released in any order, while the context makes files
and directories of its own and is cleaned in between. As long as no name is given out twice,
each manifest sees its own files only.
-/
namespace Compositor

/-- A release succeeds: of the files at some paths those that are left go, nothing else is
touched, and the manifest tracks nothing any more. -/
def Manifest.Releases (w : World) (m : ManifestId) (paths : List String) : Prop :=
  ∃ files, release m w = (.ok (), { w with
      files
      manifests := w.manifests.modify m.index fun m => { m with paths := [] } }) ∧
    w.files.Loses paths files

namespace Ledger

variable {id : ContextId} {directory : String} {root : List String} {l : Ledger}

/-! ## All errands -/

/-- What was handed out stays handed out. -/
theorem handed_next (l : Ledger) (errand : Errand) : l.handed <+: (l.next id errand).handed := by
  have hout (result : Except Fault String × World) : l.handed <+: (l.handOut result).handed := by
    obtain ⟨r, w⟩ := result
    cases r with
    | ok p => exact List.prefix_append _ _
    | error e => exact List.prefix_rfl
  cases errand with
  | manifest => exact List.prefix_rfl
  | path m suffix start => exact l.handed_path m suffix start
  | release m => exact (l.handed_release m).symm ▸ List.prefix_rfl
  | tempPath suffix start => exact hout _
  | tempDirectory start => exact hout _
  | cleanup => exact List.prefix_rfl

theorem handed_run (l : Ledger) (errands : List Errand) :
    l.handed <+: (l.run id errands).handed := by
  induction errands generalizing l with
  | nil => exact List.prefix_rfl
  | cons errand errands ih => exact (l.handed_next errand).trans (ih _)

theorem Distinct.of_prefix {l' : Ledger} (h : l'.Distinct) (hbefore : l.handed <+: l'.handed) :
    l.Distinct :=
  List.Nodup.sublist (hbefore.sublist.map _) h

theorem Sound.run (h : l.Sound id directory root) {errands : List Errand}
    (hdistinct : (l.run id errands).Distinct) :
    Sound id directory root (l.run id errands) := by
  induction errands generalizing l with
  | nil => exact h
  | cons errand errands ih =>
    have hfirst : (l.next id errand).Distinct :=
      hdistinct.of_prefix ((l.next id errand).handed_run errands)
    exact ih (h.step hfirst) hdistinct

/-- In the beginning every manifest tracks paths of its own. -/
theorem sound_start {w : World} (hhome : w.Houses id directory root)
    (htracks : ∀ m, ∀ p ∈ w.tracked m, w.files.Tracks p) (hdistinct : (start w).Distinct) :
    (start w).Sound id directory root := by
  have htracked {m : ManifestId} {p : String} (hp : p ∈ w.tracked m) :
      ∃ manifest, w.manifests[m.index]? = some manifest ∧ p ∈ manifest.paths := by
    unfold World.tracked at hp
    cases hm : w.manifests[m.index]? with
    | none =>
      rw [hm] at hp
      cases hp
    | some manifest =>
      rw [hm] at hp
      exact ⟨manifest, rfl, hp⟩
  refine ⟨hhome, fun _ => rfl, fun m p hp => ?_, fun m m' p hp hp' => ?_, htracks,
    fun _ _ hp => absurd hp List.not_mem_nil⟩
  · obtain ⟨manifest, hmanifest, hmem⟩ := htracked hp
    exact List.mem_flatMap.mpr ⟨manifest, List.mem_of_getElem? hmanifest, hmem⟩
  · -- a path in the lists of two manifests would have been handed out twice
    have hpairwise := (List.nodup_flatMap.mp (List.Nodup.of_map _ hdistinct)).2
    rw [List.pairwise_iff_getElem] at hpairwise
    obtain ⟨manifest, hmanifest, hmem⟩ := htracked hp
    obtain ⟨manifest', hmanifest', hmem'⟩ := htracked hp'
    obtain ⟨hlt, rfl⟩ := List.getElem?_eq_some_iff.mp hmanifest
    obtain ⟨hlt', rfl⟩ := List.getElem?_eq_some_iff.mp hmanifest'
    have hindex : m.index = m'.index := by
      rcases Nat.lt_trichotomy m.index m'.index with h | h | h
      · exact absurd hmem' (hpairwise _ _ hlt hlt' h hmem)
      · exact h
      · exact absurd hmem (hpairwise _ _ hlt' hlt h hmem')
    cases m
    cases m'
    exact congrArg ManifestId.mk hindex

/-! ## Isolation -/

/-- The manifests of a context do not get in each other's way. -/
structure Isolated (id : ContextId) (directory : String) (l : Ledger) : Prop where
  tracked : ∀ m, l.world.tracked m = l.held m
  apart : ∀ m m' p, p ∈ l.world.tracked m → p ∈ l.world.tracked m' → m = m'
  files : ∀ m, ∀ p ∈ l.held m, l.world.files.exists_ p = true → l.world.files.isFile p = true
  kept : ∀ m, ∀ p ∈ l.kept m, l.world.files.isFile p = true
  releases : ∀ m : ManifestId, (l.world.manifests[m.index]?).isSome →
    Manifest.Releases l.world m (l.held m)
  cleans : ∃ w, Context.cleanup id l.world = (.ok (), w) ∧
    w.files.isDirectory directory = true ∧ w.files.list directory = .ok [] ∧
    ∀ m : ManifestId, (w.manifests[m.index]?).isSome → Manifest.Releases w m (l.held m)

theorem Sound.isolated (h : l.Sound id directory root) (hdistinct : l.Distinct) :
    l.Isolated id directory where
  tracked := h.tracked
  apart m m' p hp hp' := h.apart m m' p (h.tracked m ▸ hp) (h.tracked m' ▸ hp')
  files m p hp hexists := by
    have htracks := h.tracks m p hp
    obtain ⟨hplace, hthere⟩ := (FileTree.exists_iff htracks.isOpen).mp hexists
    refine (FileTree.isFile_iff htracks.isOpen).mpr ⟨hplace, ?_⟩
    cases hentry : l.world.files.at? (Path.spot p) with
    | none => exact absurd hentry hthere
    | some e =>
      cases e with
      | file c => exact ⟨c, rfl⟩
      | directory => exact absurd hentry htracks.notDirectory
  kept m p hp := (h.kept m p hp).2
  releases m hm := by
    obtain ⟨files, hrelease, hloses, -⟩ := h.releases hdistinct hm
    exact ⟨files, hrelease, hloses⟩
  cleans := by
    obtain ⟨files, hcleanup, hat, hsound⟩ := h.cleans
    rw [next, hcleanup] at hsound
    refine ⟨_, hcleanup, ?_, ?_, fun m hm => ?_⟩
    · unfold FileTree.isDirectory
      rw [hsound.home.entry.2]
    · rw [hsound.home.list]
      refine congrArg Except.ok (List.eq_nil_iff_forall_not_mem.mpr fun name hname => ?_)
      refine FileTree.mem_inside.mp hname ?_
      rw [hat, FileTree.at?_emptied, if_pos ⟨List.prefix_append _ _, by simp⟩]
    · obtain ⟨files, hrelease, hloses, -⟩ := hsound.releases hdistinct hm
      exact ⟨files, hrelease, hloses⟩

/-- After any errands in any order every manifest tracks just what it handed out since its
last release, and no path is tracked by two of them. A release removes the files of its
manifest that are left and nothing else. A file stays until it is released or cleaned away,
and after a cleanup, which leaves the directory of the context empty, a release does not miss
what is gone. -/
theorem manifests_isolated {w : World} (hhome : w.Houses id directory root)
    (htracks : ∀ m, ∀ p ∈ w.tracked m, w.files.Tracks p) (errands : List Errand)
    (hdistinct : ((start w).run id errands).Distinct) :
    ((start w).run id errands).Isolated id directory := by
  have hstart : (start w).Distinct := hdistinct.of_prefix (handed_run _ errands)
  exact ((sound_start hhome htracks hstart).run hdistinct).isolated hdistinct

/-- Two manifests of the first context of a world, between which the context is cleaned. -/
def mixed : List Errand :=
  [.manifest, .manifest, .path ⟨0⟩ ".mp4" "bgc_export_", .tempPath "" "bgc_",
    .path ⟨1⟩ ".mp4" "bgc_export_", .release ⟨0⟩, .tempDirectory "bgc_", .cleanup,
    .path ⟨0⟩ ".png" "bgc_export_", .path ⟨1⟩ ".png" "bgc_export_"]

theorem manifests_isolated_mixed :
    let w := (Context.create "ffmpeg" "ffprobe" none World.initial).2
    (∀ m, ∀ p ∈ w.tracked m, w.files.Tracks p) ∧ ((start w).run ⟨0⟩ mixed).Distinct ∧
    ∃ directory root, w.Houses ⟨0⟩ directory root ∧
      ((start w).run ⟨0⟩ mixed).Isolated ⟨0⟩ directory := by
  intro w
  have hcreate : Context.create "ffmpeg" "ffprobe" none World.initial = (.ok ⟨0⟩, w) :=
    Prod.ext (ok_of_toOption (by decide +kernel)) rfl
  obtain ⟨directory, hhome⟩ := Context.create_houses World.sound_initial hcreate
  have hmanifests : w.manifests = [] := by decide +kernel
  have htracks : ∀ m, ∀ p ∈ w.tracked m, w.files.Tracks p := by
    intro m p hp
    rw [World.tracked, hmanifests] at hp
    cases hp
  have hdistinct : ((start w).run ⟨0⟩ mixed).Distinct := by
    unfold Distinct
    decide +kernel
  exact ⟨htracks, hdistinct, directory, _, hhome, manifests_isolated hhome htracks mixed hdistinct⟩

end Ledger

end Compositor
