import Compositor.Proofs.Json.Value
import Compositor.Proofs.Layer.Editing

/-!
# Clamped settings

The opacity of a layer and the volume of its sound are forced into the unit interval when
they are set. An edit that is refused leaves the layer as it was, but for one: the sound is
switched before the volume turns out to be no number.
-/
namespace Compositor

namespace Decimal

/-- A double in the unit interval. -/
def InUnit (x : Float) : Prop := ∃ p, value? x = some p ∧ 0 ≤ p ∧ p ≤ 1

theorem value?_one : value? 1 = some 1 := by
  have hone : Dyadic.ofFloat? 1 = some ⟨false, 2 ^ 52, -52⟩ := by decide
  have hvalue : Dyadic.value ⟨false, 2 ^ 52, -52⟩ = 1 := by
    rw [Dyadic.value_eq]
    norm_num [Dyadic.magnitude]
  rw [value?_of_dyadic hone, hvalue, Rat.cast_one, EReal.coe_one]

theorem inUnit_one : InUnit 1 := ⟨1, value?_one, zero_le_one, le_rfl⟩

/-- The smaller one of a double and one has the smaller value; NaN counts as one. -/
theorem value?_capped (x : Float) :
    value? (if x < 1 then x else 1) = some (min 1 ((value? x).getD 1)) := by
  cases hx : value? x with
  | none =>
    have hlt : ¬x < 1 := fun h => by
      obtain ⟨p, hp, -⟩ := lt_iff.mp h
      rw [hx] at hp
      cases hp
    rw [if_neg hlt, value?_one, Option.getD_none, min_self]
  | some p =>
    have hlt : x < 1 ↔ p < 1 := by simp [lt_iff, hx, value?_one]
    rw [Option.getD_some]
    split
    · next h => rw [hx, min_eq_right (hlt.mp h).le]
    · next h => rw [value?_one, min_eq_left (not_lt.mp (mt hlt.mpr h))]

/-- The greater one of zero and a double has the greater value. -/
theorem value?_raised {x : Float} {p : EReal} (hx : value? x = some p) :
    value? (if 0 < x then x else 0) = some (max 0 p) := by
  have hlt : 0 < x ↔ 0 < p := by simp [lt_iff, hx, value?_zero]
  split
  · next h => rw [hx, max_eq_right (hlt.mp h).le]
  · next h => rw [value?_zero, max_eq_left (not_lt.mp (mt hlt.mpr h))]

end Decimal

namespace Json

/-- The value of a clamped number is the clamped value; NaN counts as one. -/
theorem clampUnit_number {v : Json} {n : Number} (h : v.number? = some n) :
    ∃ x, v.clampUnit = .ok x ∧
      Decimal.value? x = some (max 0 (min 1 (n.value?.getD 1))) := by
  unfold clampUnit toNumber
  rw [h]
  cases n with
  | int n =>
    refine ⟨if n < 1 then 0 else 1, rfl, ?_⟩
    rw [Number.value?, Option.getD_some]
    split
    · next hn =>
      have hle : ((n : ℝ) : EReal) ≤ 0 := by exact_mod_cast Int.lt_add_one_iff.mp hn
      rw [Decimal.value?_zero, max_eq_left ((min_le_right _ _).trans hle)]
    · next hn =>
      have hle : (1 : EReal) ≤ ((n : ℝ) : EReal) := by exact_mod_cast not_lt.mp hn
      rw [Decimal.value?_one, min_eq_left hle, max_eq_right zero_le_one]
  | real x => exact ⟨_, rfl, Decimal.value?_raised (Decimal.value?_capped x)⟩

/-- What is no number cannot be clamped. -/
theorem clampUnit_other {v : Json} (h : v.number? = none) : v.clampUnit = .error .wrongType := by
  unfold clampUnit toNumber
  rw [h]
  rfl

theorem inUnit_of_clampUnit {v : Json} {x : Float} (h : v.clampUnit = .ok x) :
    Decimal.InUnit x := by
  cases hn : v.number? with
  | none =>
    rw [clampUnit_other hn] at h
    cases h
  | some n =>
    obtain ⟨y, hy, hvalue⟩ := clampUnit_number hn
    rw [hy] at h
    cases h
    exact ⟨_, hvalue, le_max_left .., max_le zero_le_one (min_le_left ..)⟩

end Json

namespace Layer

/-- The settings that are clamped lie in the unit interval. -/
structure Clamped (l : Layer) : Prop where
  opacity : Decimal.InUnit l.opacity
  volume : Decimal.InUnit l.volume

theorem clamped_ofClip (name : String) (clip : Foreground) (z : Nat) :
    (ofClip name clip z).Clamped := ⟨Decimal.inUnit_one, Decimal.inUnit_one⟩

/-- No edit leads out of the unit interval, whether it succeeds or not. -/
theorem Clamped.edit {l : Layer} (hl : l.Clamped) (e : Edit) : (l.edit e).1.Clamped := by
  cases e with
  | size settings =>
    rw [Layer.edit]
    cases (Size.read settings).toExcept <;> exact ⟨hl.opacity, hl.volume⟩
  | opacity alpha =>
    rw [Layer.edit]
    cases h : alpha.clampUnit with
    | error fault => exact hl
    | ok opacity => exact ⟨Json.inUnit_of_clampUnit h, hl.volume⟩
  | audio enabled volume =>
    rw [Layer.edit]
    cases h : volume.clampUnit with
    | error fault => exact ⟨hl.opacity, hl.volume⟩
    | ok volume => exact ⟨hl.opacity, Json.inUnit_of_clampUnit h⟩
  | _ => exact ⟨hl.opacity, hl.volume⟩

/-- An edit is refused with a layer that is half edited only if it sets a volume that is no
number. -/
theorem edit_refused {l l' : Layer} {e : Edit} {fault : Fault}
    (h : l.edit e = (l', .error fault)) :
    l' = l ∨ ∃ enabled volume, e = .audio enabled volume ∧ volume.number? = none ∧
      fault = .wrongType ∧ l' = { l with audioEnabled := enabled } := by
  cases e with
  | size settings =>
    rw [edit] at h
    cases hsize : (Size.read settings).toExcept with
    | ok size =>
      rw [hsize] at h
      cases h
    | error e =>
      rw [hsize] at h
      cases h
      exact .inl rfl
  | opacity alpha =>
    rw [edit] at h
    cases hopacity : alpha.clampUnit with
    | ok opacity =>
      rw [hopacity] at h
      cases h
    | error e =>
      rw [hopacity] at h
      cases h
      exact .inl rfl
  | audio enabled volume =>
    rw [edit] at h
    cases hn : volume.number? with
    | some n =>
      obtain ⟨x, hx, -⟩ := Json.clampUnit_number hn
      rw [hx] at h
      cases h
    | none =>
      rw [Json.clampUnit_other hn] at h
      cases h
      exact .inr ⟨enabled, volume, rfl, hn, rfl, rfl⟩
  | _ => cases h

/-- A volume that is no number comes too late for the switch of the sound. -/
theorem edit_audio_refused (l : Layer) (enabled : Json) {volume : Json}
    (h : volume.number? = none) :
    l.edit (.audio enabled volume) = ({ l with audioEnabled := enabled }, .error .wrongType) := by
  rw [edit, Json.clampUnit_other h]

end Layer

end Compositor
