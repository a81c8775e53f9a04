import Compositor.Proofs.Fault.Values
import Compositor.Proofs.Graph.Assembly
import Compositor.Composition.Sound

/-!
# The sound that sources stand for

What is heard, written down from the sources alone, and the statements of the sound as
what they carry. They take links of the sound only.
-/
namespace Compositor

open FilterGraph GraphBuilder
open Pad (links)

/-- What a command does about the sound. -/
inductive Sounding where
  | silent
  /-- The stream of a source, which may be missing. -/
  | direct (pad : Pad)
  | mixed (t : Term)

namespace AudioSource

/-- A source after its delay, if that is above zero. -/
def delayedTerm (s : AudioSource) : Except Fault Term :=
  if 0 < s.delay then do .ok (.apply (← delayExpr s.delay) [.stream s.pad.label])
  else .ok (.stream s.pad.label)

/-- A source on its own, in its volume. -/
def singleTerm (s : AudioSource) : Except Fault Term := do
  let t ← s.delayedTerm
  .ok (.apply (if s.volume == 1 then "anull" else volumeExpr s.volume) [t])

/-- One of several sources, in its volume, if that is not one. -/
def partTerm (s : AudioSource) : Except Fault Term := do
  let t ← s.delayedTerm
  .ok (if s.volume == 1 then t else .apply (volumeExpr s.volume) [t])

def mixTerm (sources : List AudioSource) : Except Fault Term := do
  let parts ← sources.mapM partTerm
  .ok (.apply ("amix=inputs=" ++ toString sources.length ++ ":duration=longest") parts)

/-- The sound of the sources that may be heard. -/
def audibleSounding : List AudioSource → Except Fault Sounding
  | [] => .ok .silent
  | [s] => if s.isPlain then .ok (.direct s.pad) else s.singleTerm.map .mixed
  | sources => (mixTerm sources).map .mixed

/-- The sound of some sources. A single one to which nothing is done passes even when
it is known to be silent. -/
def sounding (sources : List AudioSource) : Except Fault Sounding :=
  let heard := audibleSounding (sources.filter AudioSource.audible)
  match sources with
  | [s] => if s.isPlain then .ok (.direct s.pad) else heard
  | _ => heard

end AudioSource

/-- The pad of the sound. -/
def Pad.sound : Pad := .link Link.sound.label .audio

namespace Sounding

/-- The arguments for a sound. -/
def selection : Sounding → List String
  | .silent => ["-an"]
  | .direct pad => ["-map", pad.label ++ "?"]
  | .mixed _ => ["-map", Pad.sound.mapSpec]

/-- A graph whose output for the sound is what it should be. -/
def In (g : FilterGraph) : Sounding → Prop
  | .mixed t => g.Unfolds Pad.sound t
  | _ => True

end Sounding

/-- The links of the sound. -/
def SoundLink (l : Link) : Prop :=
  l = .delayed ∨ (∃ k, l = .delayedPart k) ∨ (∃ k, l = .volumePart k) ∨ l = .sound

namespace AudioSource

variable {g g₀ : FilterGraph} {taken : Link → Prop} {rest : List Pad} {s : AudioSource}

/-- A source that is a stream of sound of an input. -/
def IsStream (s : AudioSource) : Prop := ∃ index, s.pad = Pad.input index .audio

theorem delayed_carries (h : g.Holds taken rest) (hs : s.IsStream) {l : Link} (hl : ¬ taken l) :
    (s.delayed l.label).Assembles g fun pad g' => ∃ t, s.delayedTerm = .ok t ∧
      g.Carries (fun x => taken x ∨ x = l) rest .audio t pad g' := by
  obtain ⟨index, hpad⟩ := hs
  have hsource := Carries.input h index .audio
  rw [← hpad] at hsource
  refine .ite ?_ ?_
  · intro hd
    refine .bind_lift (clean_delayExpr s.delay) fun expr he => ?_
    refine (statement_through hsource expr hl).mono fun pad g' hc => ⟨_, ?_, hc⟩
    rw [delayedTerm, if_pos hd, he]
    rfl
  · intro hd
    exact .pure ⟨_, by rw [delayedTerm, if_neg hd], hsource.weaken fun _ => .inl⟩

/-- The last statement of the sound, whose pad is the output. -/
theorem output_carries {ins : List Pad} {ts : List Term} (h : g.Holds taken (links ins ++ rest))
    (hne : ins ≠ []) (hk : ∀ p ∈ ins, p.kind = .audio) (hts : g.UnfoldsAll ins ts) (expr : String)
    (hfree : ¬ taken .sound) :
    (statement expr ins "audio_out").Assembles g fun pad g' => pad = Pad.sound ∧
      g.Carries (fun x => taken x ∨ x = .sound) rest .audio (.apply expr ts) pad g' :=
  statement_named h hne hk hts expr hfree

theorem single_carries (h : g.Holds taken rest) (hs : s.IsStream)
    (hfree : ∀ l, SoundLink l → ¬ taken l) :
    s.single.Assembles g fun pad g' => pad = Pad.sound ∧ ∃ t, s.singleTerm = .ok t ∧
      g.Carries (fun x => taken x ∨ SoundLink x) rest .audio t pad g' := by
  refine .bind (delayed_carries (l := .delayed) h hs (hfree _ (.inl rfl))) ?_
  rintro pad g' ⟨t, ht, hc⟩
  have hout := fun expr => output_carries hc.holds (List.cons_ne_nil _ _)
    (by simpa using hc.kind_eq) (.cons hc.unfolds .nil) expr
    (by simpa using hfree .sound (.inr (.inr (.inr rfl))))
  have hlinks : ∀ x, (taken x ∨ x = .delayed) ∨ x = .sound → taken x ∨ SoundLink x := by
    rintro x ((hx | rfl) | rfl)
    · exact .inl hx
    · exact .inr (.inl rfl)
    · exact .inr (.inr (.inr (.inr rfl)))
  have hterm : ∀ expr, expr = (if s.volume == 1 then "anull" else volumeExpr s.volume) →
      (statement expr [pad] "audio_out").Assembles g' fun pad g' => pad = Pad.sound ∧
        ∃ t, s.singleTerm = .ok t ∧
          g.Carries (fun x => taken x ∨ SoundLink x) rest .audio t pad g' := by
    rintro expr rfl
    refine (hout _).mono ?_
    rintro pad' g'' ⟨hp, hc'⟩
    refine ⟨hp, _, ?_, (hc'.since hc.grows).weaken hlinks⟩
    rw [singleTerm, ht]
    rfl
  refine .ite (fun hv => hterm _ ?_) (fun hv => hterm _ ?_)
  · have hv' : (s.volume == 1) = false := by simpa [bne] using hv
    rw [hv', if_neg Bool.false_ne_true]
  · have hv' : (s.volume == 1) = true := by simpa [bne] using hv
    rw [hv', if_pos rfl]

theorem part_carries (h : g.Holds taken rest) (hs : s.IsStream) {i : Nat}
    (hd : ¬ taken (.delayedPart i)) (hv : ¬ taken (.volumePart i)) :
    (s.part i).Assembles g fun pad g' => ∃ t, s.partTerm = .ok t ∧
      g.Carries (fun x => taken x ∨ x = .delayedPart i ∨ x = .volumePart i) rest .audio t pad
        g' := by
  refine .bind (delayed_carries (l := .delayedPart i) h hs hd) ?_
  rintro pad g' ⟨t, ht, hc⟩
  refine .ite (fun hvol => ?_) (fun hvol => ?_)
  · have hvol' : (s.volume == 1) = false := by simpa [bne] using hvol
    refine (statement_through (l := .volumePart i) hc _ (by simp [hv])).mono fun pad' g'' hc' => ?_
    refine ⟨_, ?_, hc'.weaken fun x hx => by rwa [or_assoc] at hx⟩
    rw [partTerm, ht, hvol']
    rfl
  · have hvol' : (s.volume == 1) = true := by simpa [bne] using hvol
    refine .pure ⟨t, ?_, hc.weaken fun x hx => hx.imp_right .inl⟩
    rw [partTerm, ht, hvol']
    rfl

/-- Links of the parts of a mix. -/
def PartLink (l : Link) : Prop := ∃ k, l = .delayedPart k ∨ l = .volumePart k

/-- The parts of a mix wait together. -/
theorem parts_carry {sources : List AudioSource} (hs : ∀ s ∈ sources, s.IsStream) {i : Nat}
    (h : g.Holds taken rest)
    (hfree : ∀ k, i ≤ k → ¬ taken (.delayedPart k) ∧ ¬ taken (.volumePart k)) :
    (parts i sources).Assembles g fun pads g' => ∃ ts, sources.mapM partTerm = .ok ts ∧
      pads.length = sources.length ∧ (∀ p ∈ pads, p.kind = .audio) ∧ g.Grows g' ∧
      g'.Holds (fun x => taken x ∨ PartLink x) (links pads ++ rest) ∧ g'.UnfoldsAll pads ts := by
  induction sources generalizing i g taken rest with
  | nil =>
    exact .pure ⟨[], rfl, rfl, nofun, .refl g, h.weaken fun _ => .inl, .nil⟩
  | cons s sources ih =>
    obtain ⟨hd, hv⟩ := hfree i (Nat.le_refl i)
    refine .bind (part_carries h (hs s List.mem_cons_self) hd hv) ?_
    rintro pad g₁ ⟨t, ht, hc⟩
    have hfree' : ∀ k, i + 1 ≤ k →
        ¬ (taken (.delayedPart k) ∨ Link.delayedPart k = .delayedPart i ∨
          Link.delayedPart k = .volumePart i) ∧
        ¬ (taken (.volumePart k) ∨ Link.volumePart k = .delayedPart i ∨
          Link.volumePart k = .volumePart i) := by
      intro k hk
      obtain ⟨hd, hv⟩ := hfree k (Nat.le_of_succ_le hk)
      have hne : k ≠ i := by omega
      simp [hd, hv, hne]
    refine .bind (ih (fun s hm => hs s (List.mem_cons_of_mem _ hm)) hc.holds hfree') ?_
    rintro pads g₂ ⟨ts, hts, hlen, hkinds, hgrows, hholds, hunfolds⟩
    refine .pure ⟨t :: ts, ?_, by simp [hlen], ?_, hc.grows.trans hgrows, ?_, ?_⟩
    · rw [List.mapM_cons, ht, hts]
      rfl
    · exact List.forall_mem_cons.mpr ⟨hc.kind_eq, hkinds⟩
    · refine (hholds.perm ?_).weaken ?_
      · have happ : links (pad :: pads) = links [pad] ++ links pads := Pad.links_append [pad] pads
        rw [happ, ← List.append_assoc]
        exact List.perm_append_comm.append_right rest
      · rintro x ((hx | hx | hx) | hx)
        · exact .inl hx
        · exact .inr ⟨i, .inl hx⟩
        · exact .inr ⟨i, .inr hx⟩
        · exact .inr hx
    · exact .cons (hc.unfolds.mono hgrows) hunfolds

theorem mix_carries {sources : List AudioSource} (hne : sources ≠ [])
    (hs : ∀ s ∈ sources, s.IsStream) (h : g.Holds taken rest)
    (hfree : ∀ l, SoundLink l → ¬ taken l) :
    (mix sources).Assembles g fun pad g' => pad = Pad.sound ∧ ∃ t, mixTerm sources = .ok t ∧
      g.Carries (fun x => taken x ∨ SoundLink x) rest .audio t pad g' := by
  have hparts : ∀ k, 0 ≤ k → ¬ taken (.delayedPart k) ∧ ¬ taken (.volumePart k) := fun k _ =>
    ⟨hfree _ (.inr (.inl ⟨k, rfl⟩)), hfree _ (.inr (.inr (.inl ⟨k, rfl⟩)))⟩
  refine .bind (parts_carry hs h hparts) ?_
  rintro pads g₁ ⟨ts, hts, hlen, hkinds, hgrows, hholds, hunfolds⟩
  have hpads : pads ≠ [] := by
    rintro rfl
    exact hne (List.length_eq_zero_iff.mp hlen.symm)
  have hnew : ¬ (taken .sound ∨ PartLink .sound) := by
    rintro (ht | ⟨k, he | he⟩)
    · exact hfree _ (.inr (.inr (.inr rfl))) ht
    · cases he
    · cases he
  refine (output_carries hholds hpads hkinds hunfolds _ hnew).mono ?_
  rintro pad g₂ ⟨hp, hc⟩
  refine ⟨hp, _, ?_, (hc.since hgrows).weaken ?_⟩
  · rw [mixTerm, hts, hlen]
    rfl
  · rintro x ((hx | ⟨k, hx | hx⟩) | hx)
    · exact .inl hx
    · exact .inr (.inr (.inl ⟨k, hx⟩))
    · exact .inr (.inr (.inr (.inl ⟨k, hx⟩)))
    · exact .inr (.inr (.inr (.inr hx)))

/-- The statements of the sound that ends in `sounding`, and their selection. -/
def Sounds (g : FilterGraph) (taken : Link → Prop) (sounding : Except Fault Sounding)
    (selection : List String) (g' : FilterGraph) : Prop :=
  ∃ sound, sounding = .ok sound ∧ selection = sound.selection ∧ sound.In g' ∧ g.Grows g' ∧
    g'.Holds (fun x => taken x ∨ SoundLink x) []

theorem select_sounds {pad : Pad} {t : Term}
    (hp : pad = Pad.sound) (h : g₀.Carries (fun x => taken x ∨ SoundLink x) [] .audio t pad g) :
    (select pad).Assembles g (Sounds g₀ taken (.ok (.mixed t))) := by
  refine .of_ok ["-map", pad.mapSpec] (g.markOutput pad) rfl ?_
  refine ⟨_, rfl, by rw [hp]; rfl, ?_, h.grows.trans (.markOutput g pad), h.holds.markOutput⟩
  exact hp ▸ h.unfolds.mono (.markOutput g pad)

theorem audibleArgs_sounds {sources : List AudioSource} (hs : ∀ s ∈ sources, s.IsStream)
    (h : g.Holds taken []) (hfree : ∀ l, SoundLink l → ¬ taken l) :
    (audibleArgs sources).Assembles g (Sounds g taken (audibleSounding sources)) := by
  have hpass : g.Holds (fun x => taken x ∨ SoundLink x) [] := h.weaken fun _ => .inl
  match sources with
  | [] => exact .pure ⟨_, rfl, rfl, trivial, .refl g, hpass⟩
  | [s] =>
    refine .ite (fun hp => ?_) (fun hp => ?_)
    · refine .pure ⟨.direct s.pad, ?_, rfl, trivial, .refl g, hpass⟩
      rw [audibleSounding, if_pos hp]
    · refine .bind (single_carries h (hs s List.mem_cons_self) hfree) ?_
      rintro pad g₁ ⟨hpad, t, ht, hc⟩
      rw [audibleSounding, if_neg hp, ht]
      exact select_sounds hpad hc
  | s :: s' :: rest =>
    refine .bind (mix_carries (List.cons_ne_nil _ _) hs h hfree) ?_
    rintro pad g₁ ⟨hpad, t, ht, hc⟩
    have hsound : audibleSounding (s :: s' :: rest) = .ok (.mixed t) := by
      simp only [audibleSounding, ht, Except.map]
    rw [hsound]
    exact select_sounds hpad hc

/-- The statements of the sound are those of what is heard. -/
theorem args_sounds {sources : List AudioSource} (hs : ∀ s ∈ sources, s.IsStream)
    (h : g.Holds taken []) (hfree : ∀ l, SoundLink l → ¬ taken l) :
    (args sources).Assembles g (Sounds g taken (sounding sources)) := by
  have hheard : (audibleArgs (sources.filter AudioSource.audible)).Assembles g
      (Sounds g taken (audibleSounding (sources.filter AudioSource.audible))) :=
    audibleArgs_sounds (fun s hm => hs s (List.mem_of_mem_filter hm)) h hfree
  match sources with
  | [] | _ :: _ :: _ => exact hheard
  | [s] =>
    have hone : sounding [s] = if s.isPlain then .ok (.direct s.pad)
        else audibleSounding ([s].filter AudioSource.audible) := rfl
    rw [hone]
    refine .ite (fun hp => ?_) (fun hp => ?_)
    · rw [if_pos hp]
      exact .pure ⟨.direct s.pad, rfl, rfl, trivial, .refl g, h.weaken fun _ => .inl⟩
    · rw [if_neg hp]
      exact hheard

end AudioSource

end Compositor
