import Compositor.Proofs.Graph.Wording
import Compositor.Proofs.Sound.Mixing

/-!
# The statements of the sound

All statements of the sound are worded, so that they belong to every idiom that its streams belong
to: they are about sound, and they are legible.
-/
namespace Compositor.AudioSource

open GraphBuilder

theorem worded_delayExpr {seconds : Float} {expr : String} (h : delayExpr seconds = .ok expr) :
    Worded expr := by
  obtain ⟨delay, -, h⟩ := bind_eq_ok.mp h
  cases h
  have hname : Worded "adelay=delays=" := by decide
  have hall : Unmarked ":all=1" := by decide
  exact (hname.append (unmarked_int delay)).append hall

theorem worded_volumeExpr (volume : Float) : Worded (volumeExpr volume) := by
  have hname : Worded "volume=" := by decide
  exact hname.append (Decimal.unmarked_text volume)

section

variable {P : FilterNode → Prop} {Q : Pad → Prop} (hPQ : Idiom P Q)

include hPQ

variable {s : AudioSource}

theorem extends_delayed (hs : Q s.pad) {label : String} (hlabel : Worded label) :
    (s.delayed label).Extends P Q :=
  .ite (.bind_lift fun _ hexpr => .through hPQ (worded_delayExpr hexpr) hlabel hs) (.pure hs)

theorem extends_single (hs : Q s.pad) : s.single.Extends P Q :=
  .bind (extends_delayed hPQ hs (by decide)) fun _ hpad =>
    .ite (.through hPQ (worded_volumeExpr _) (by decide) hpad)
      (.through hPQ (by decide) (by decide) hpad)

theorem extends_part (hs : Q s.pad) (i : Nat) : (s.part i).Extends P Q := by
  have hdelayed : Worded "audio_delayed_" := by decide
  have hvolume : Worded "audio_vol_" := by decide
  refine .bind (extends_delayed hPQ hs (hdelayed.append (unmarked_nat i))) fun pad hpad => ?_
  exact .ite (.through hPQ (worded_volumeExpr _) (hvolume.append (unmarked_nat i)) hpad)
    (.pure hpad)

theorem extends_parts {sources : List AudioSource} (hs : ∀ s ∈ sources, Q s.pad) (i : Nat) :
    (parts i sources).Extends P fun pads => ∀ p ∈ pads, Q p := by
  induction sources generalizing i with
  | nil => exact .pure nofun
  | cons s sources ih =>
    refine .bind (extends_part hPQ (hs s List.mem_cons_self) i) fun pad hpad => ?_
    have hrest := ih (fun s' hs' => hs s' (List.mem_cons_of_mem _ hs')) (i + 1)
    refine .bind hrest fun pads hpads => ?_
    exact .pure (List.forall_mem_cons.mpr ⟨hpad, hpads⟩)

theorem extends_mix {sources : List AudioSource} (hs : ∀ s ∈ sources, Q s.pad) :
    (mix sources).Extends P Q := by
  have hname : Worded "amix=inputs=" := by decide
  have hduration : Unmarked ":duration=longest" := by decide
  refine .bind (extends_parts hPQ hs 0) fun pads hpads => ?_
  exact .statement hPQ ((hname.append (unmarked_nat _)).append hduration) (by decide) hpads

omit hPQ in
theorem extends_select (pad : Pad) : (select pad).Extends P fun _ => True :=
  .bind (.markOutput pad) fun _ _ => .pure trivial

theorem extends_audibleArgs {sources : List AudioSource} (hs : ∀ s ∈ sources, Q s.pad) :
    (audibleArgs sources).Extends P fun _ => True := by
  match sources with
  | [] => exact .pure trivial
  | [s] =>
    exact .ite (.pure trivial)
      (.bind (extends_single hPQ (hs s List.mem_cons_self)) fun pad _ => extends_select pad)
  | s :: s' :: rest => exact .bind (extends_mix hPQ hs) fun pad _ => extends_select pad

/-- The sound of some streams belongs to the idioms of these streams. -/
theorem extends_args {sources : List AudioSource} (hs : ∀ s ∈ sources, Q s.pad) :
    (args sources).Extends P fun _ => True := by
  have hheard : (audibleArgs (sources.filter AudioSource.audible)).Extends P fun _ => True :=
    extends_audibleArgs hPQ fun s hm => hs s (List.mem_of_mem_filter hm)
  match sources with
  | [] | _ :: _ :: _ => exact hheard
  | [s] => exact .ite (.pure trivial) hheard

end

theorem IsStream.kind_eq {s : AudioSource} (hs : s.IsStream) : s.pad.kind = .audio := by
  obtain ⟨index, hpad⟩ := hs
  rw [hpad]
  rfl

end Compositor.AudioSource
