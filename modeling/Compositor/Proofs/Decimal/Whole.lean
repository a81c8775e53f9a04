import Compositor.Proofs.Json.Value

/-!
# Whole numbers as doubles

A whole number below `2 ^ 53` is a double. A greater one is rounded to a whole number that is not
below `2 ^ 53` either, unless it is too large for a double. The sign plays no part in this.
-/
namespace Compositor

namespace Decimal

open Float.Model (UnpackedFloat Format totalExponent)
open Float.Model.UnpackedFloat (Sign Accuracy ExtendedMantissa packedInfinity roundWithAccuracy
  shiftToExponent shiftToTargetExponent)
open Compositor.Decimal.Dyadic (Canonical magnitude)

/-! ## Rounding a long number -/

theorem shiftRight_mantissa (em : ExtendedMantissa) (k : Nat) :
    (em >>> k).mantissa = em.mantissa / 2 ^ k := by
  change (k.repeat ExtendedMantissa.shiftRightOne em).mantissa = _
  induction k with
  | zero => simp [Nat.repeat]
  | succ k ih =>
    rw [Nat.repeat, ExtendedMantissa.shiftRightOne, ih, Nat.div_div_eq_div_mul, pow_succ]

theorem roundedMantissa_bounds (em : ExtendedMantissa) :
    em.mantissa ≤ em.roundedMantissa ∧ em.roundedMantissa ≤ em.mantissa + 1 := by
  obtain ⟨m, roundBit, stickyBit⟩ := em
  cases roundBit <;> cases stickyBit <;>
    simp [ExtendedMantissa.roundedMantissa, ExtendedMantissa.accuracy, Accuracy.roundToNearestEven]
  omega

variable {n m : Nat} {f : Int}

theorem ne_zero_of_long (hn : 2 ^ 53 ≤ n) : n ≠ 0 := by
  rintro rfl
  exact absurd hn (by decide)

theorem log2_of_long (hn : 2 ^ 53 ≤ n) : 53 ≤ n.log2 :=
  (Nat.le_log2 (ne_zero_of_long hn)).mpr hn

/-- The leading bits of a number. -/
theorem leading_bounds (hn : n ≠ 0) :
    2 ^ 52 ≤ n * 2 ^ 53 / 2 ^ (n.log2 + 1) ∧ n * 2 ^ 53 / 2 ^ (n.log2 + 1) < 2 ^ 53 := by
  have hpos : 0 < 2 ^ (n.log2 + 1) := Nat.two_pow_pos _
  constructor
  · refine (Nat.le_div_iff_mul_le hpos).mpr ?_
    calc 2 ^ 52 * 2 ^ (n.log2 + 1) = 2 ^ n.log2 * 2 ^ 53 := by ring
      _ ≤ n * 2 ^ 53 := by gcongr; exact Nat.log2_self_le hn
  · refine (Nat.div_lt_iff_lt_mul hpos).mpr ?_
    rw [mul_comm]
    gcongr
    exact Nat.lt_log2_self

/-- A significand of full length that was rounded is shifted once more if it has become too
long. -/
theorem shift_rounded {r : Nat} (hfull : 2 ^ 52 ≤ r) (hlong : r ≤ 2 ^ 53) (hf : -1074 < f) :
    ∃ m g, shiftToTargetExponent Format.binary64 r f .exact = (⟨m, false, false⟩, g) ∧
      Canonical m g ∧ 2 ^ 52 ≤ m ∧ f ≤ g := by
  rcases hlong.lt_or_eq with hshort | rfl
  · have hc : Canonical r f := ⟨hshort, hf.le, fun _ => hfull⟩
    have hshift := shiftToTargetExponent_shift (by omega) hc 0
    rw [pow_zero, Nat.mul_one, Nat.cast_zero, Int.sub_zero] at hshift
    exact ⟨r, f, hshift, hc, hfull, le_rfl⟩
  · have hc : Canonical (2 ^ 52) (f + 1) :=
      ⟨by decide, by change -1074 ≤ f + 1; omega, fun _ => le_rfl⟩
    have hshift := shiftToTargetExponent_shift (by decide) hc 1
    rw [Nat.cast_one, Int.add_sub_cancel] at hshift
    exact ⟨2 ^ 52, f + 1, hshift, hc, le_rfl, by omega⟩

theorem round_long (hn : 2 ^ 53 ≤ n) : ∃ m f h,
    roundWithAccuracy Format.binary64 .positive (n * 2 ^ 53) (-53) .exact =
      .finite .positive m f h ∧ Canonical m f ∧ 2 ^ 52 ≤ m ∧ (n.log2 : Int) - 52 ≤ f := by
  have hne := ne_zero_of_long hn
  have hlog := log2_of_long hn
  have htotal : totalExponent (n * 2 ^ 53) (-53) = n.log2 + 1 :=
    (totalExponent_shift (f := 0) (Nat.pos_of_ne_zero hne) 53).trans (Int.add_zero _)
  have htarget : Format.binary64.targetExponent (totalExponent (n * 2 ^ 53) (-53)) =
      (n.log2 : Int) - 52 := by
    rw [htotal]
    change max ((n.log2 : Int) + 1 - 53) (-1074) = _
    omega
  have hamount : ((n.log2 : Int) - 52 - -53).toNat = n.log2 + 1 := by omega
  have hfirst : shiftToTargetExponent Format.binary64 (n * 2 ^ 53) (-53) .exact =
      ((⟨n * 2 ^ 53, false, false⟩ : ExtendedMantissa) >>> (n.log2 + 1), (n.log2 : Int) - 52) := by
    unfold shiftToTargetExponent
    rw [htarget]
    simp only [shiftToExponent, hamount]
    refine Prod.ext rfl ?_
    dsimp only
    omega
  generalize hem : (⟨n * 2 ^ 53, false, false⟩ : ExtendedMantissa) >>> (n.log2 + 1) = em at hfirst
  have hmantissa : em.mantissa = n * 2 ^ 53 / 2 ^ (n.log2 + 1) := by
    rw [← hem, shiftRight_mantissa]
  obtain ⟨hleast, hmost⟩ := leading_bounds hne
  obtain ⟨hdown, hup⟩ := roundedMantissa_bounds em
  rw [← hmantissa] at hleast hmost
  obtain ⟨m, f, hsecond, hc, hfull, hle⟩ := shift_rounded (f := (n.log2 : Int) - 52)
    (hleast.trans hdown) (hup.trans hmost) (by omega)
  have hm : 0 < m := lt_of_lt_of_le (by decide) hfull
  refine ⟨m, f, hm, ?_, hc, hfull, hle⟩
  unfold roundWithAccuracy
  simp only [hfirst, hsecond]
  exact dif_neg hm.ne'

/-! ## What becomes of a whole number -/

/-- What is too large for a double is packed as an infinity. -/
theorem unpack_pack_large (s : Sign) (hm : 0 < m) (hf : greatestExponent < f) :
    (Float.Model.pack (.finite s m f hm)).unpack = .infinity s := by
  have hbiased : 2 ^ 11 ≤ (f + 1023 + 52).toNat + 1 := by
    change 971 < f at hf
    omega
  have hpack : UnpackedFloat.pack Format.binary64 (.finite s m f hm) =
      if 2 ^ 11 ≤ (f + 1023 + 52).toNat + 1 then packedInfinity Format.binary64 s else _ := rfl
  change UnpackedFloat.unpack Format.binary64 (UnpackedFloat.pack Format.binary64 _) = _
  rw [hpack, if_pos hbiased]
  cases s <;> rfl

/-- A whole number is rounded with a significand that is surely long enough. -/
theorem ofScientific_whole (hn : n ≠ 0) : UnpackedFloat.ofScientific Format.binary64 n 0 =
    roundWithAccuracy Format.binary64 .positive (n * 2 ^ 53) (-53) .exact := by
  have hsmall : ¬ (0 : Int) < -(2 ^ 11 + n.log2) := by omega
  unfold UnpackedFloat.ofScientific
  rw [dif_neg hn, if_neg (by decide), if_neg hsmall, if_pos le_rfl]
  simp only [UnpackedFloat.mul, Int.toNat_zero, pow_zero, Nat.mul_one, Nat.shiftLeft_eq,
    Int.add_zero]
  rfl

/-- A long number becomes a long double or an infinity. -/
theorem unpack_long (hn : 2 ^ 53 ≤ n) : ∃ m f h, Canonical m f ∧ 2 ^ 52 ≤ m ∧
    (n.log2 : Int) - 52 ≤ f ∧ (Float.ofInt n).toModel.unpack =
      if f ≤ greatestExponent then .finite .positive m f h else .infinity .positive := by
  obtain ⟨m, f, hm, hround, hc, hfull, hlog⟩ := round_long hn
  refine ⟨m, f, hm, hc, hfull, hlog, ?_⟩
  have hslow : ¬ (n < 2 ^ 53 ∧ 0 ≤ 22) := fun h => absurd h.1 (not_lt.mpr hn)
  have hmodel : (Float.ofInt n).toModel = Float.Model.pack (.finite .positive m f hm) := by
    change (Float.ofScientific n false 0).toModel = _
    unfold Float.ofScientific
    rw [dif_neg hslow]
    change Float.Model.pack (UnpackedFloat.ofScientific Format.binary64 n 0) = _
    rw [ofScientific_whole (ne_zero_of_long hn), hround]
  rw [hmodel]
  split
  · exact unpack_pack _ hm hc ‹_›
  · exact unpack_pack_large _ hm (not_le.mp ‹_›)

/-- A whole number beside the one that it is rounded to. -/
structure Near (n k : Nat) : Prop where
  short : n < 2 ^ 53 → k = n
  long : 2 ^ 53 ≤ n → 2 ^ 53 ≤ k

theorem Near.eq_iff {k j : Nat} (h : Near n k) (hj : j < 2 ^ 53) : k = j ↔ n = j := by
  rcases lt_or_ge n (2 ^ 53) with hn | hn
  · rw [h.short hn]
  · have hk := h.long hn
    omega

/-- A whole number becomes a whole number, or it is too large. -/
theorem value?_whole (n : Nat) :
    (∃ k, Near n k ∧ value? (Float.ofInt n) = some (((k : ℚ) : ℝ) : EReal)) ∨
      value? (Float.ofInt n) = some ⊤ := by
  rcases lt_or_ge n (2 ^ 53) with hn | hn
  · exact .inl ⟨n, ⟨fun _ => rfl, fun h => absurd h (not_le.mpr hn)⟩, value?_ofNat hn⟩
  obtain ⟨m, f, hm, hc, hfull, hlog, hunpack⟩ := unpack_long hn
  have hlong := log2_of_long hn
  have hexponent : ((f.toNat : Nat) : Int) = f := Int.toNat_of_nonneg (by omega)
  unfold value?
  rw [hunpack]
  split
  · refine .inl ⟨m * 2 ^ f.toNat, ⟨fun h => absurd hn (not_le.mpr h), fun _ => ?_⟩, ?_⟩
    · have hdouble : 2 ^ 1 ≤ 2 ^ f.toNat := Nat.pow_le_pow_right (by decide) (by omega)
      calc 2 ^ 53 = 2 ^ 52 * 2 ^ 1 := by decide
        _ ≤ m * 2 ^ f.toNat := Nat.mul_le_mul hfull hdouble
    · have hvalue : ((m * 2 ^ f.toNat : Nat) : ℚ) = magnitude m f := by
        rw [magnitude, ← hexponent, zpow_natCast]
        push_cast
        rfl
      rw [hvalue]
      rfl
  · exact .inr rfl

/-- A number of more than four hundred digits is too large. -/
theorem value?_of_digits {digits : Nat} (hdigits : 400 ≤ digits) (hn : 10 ^ digits ≤ n) :
    value? (Float.ofInt n) = some ⊤ := by
  have hbits : 2 ^ (3 * digits) ≤ n := by
    calc 2 ^ (3 * digits) = (2 ^ 3) ^ digits := pow_mul 2 3 digits
      _ ≤ 10 ^ digits := Nat.pow_le_pow_left (by decide) digits
      _ ≤ n := hn
  have hlong : 2 ^ 53 ≤ n := le_trans (Nat.pow_le_pow_right (by decide) (by omega)) hbits
  have hmany : 3 * digits ≤ n.log2 := (Nat.le_log2 (ne_zero_of_long hlong)).mpr hbits
  obtain ⟨m, f, hm, -, -, hlog, hunpack⟩ := unpack_long hlong
  have hlarge : ¬ f ≤ greatestExponent := by
    change ¬ f ≤ 971
    omega
  unfold value?
  rw [hunpack, if_neg hlarge]
  rfl

/-! ## Signs -/

theorem exponent_le {x : Float} {d : Dyadic} (h : Dyadic.ofFloat? x = some d) :
    d.exponent ≤ greatestExponent := by
  unfold Dyadic.ofFloat? at h
  dsimp only at h
  have hlt : x.toBits.toNat / Nat.pow 2 52 % Nat.pow 2 11 < 2048 := Nat.mod_lt _ (by decide)
  generalize x.toBits.toNat / Nat.pow 2 52 % Nat.pow 2 11 = biased at h hlt
  change d.exponent ≤ 971
  split at h
  · cases h
  · rename_i hfinite
    rw [beq_iff_eq] at hfinite
    split at h
    · obtain rfl := Option.some.inj h
      change (-1074 : Int) ≤ 971
      decide
    · obtain rfl := Option.some.inj h
      dsimp only
      omega

/-- Turning the sign of a double turns the sign of its value. -/
theorem value?_neg (x : Float) : value? (-x) = (value? x).map Neg.neg := by
  have hx := unpacks x
  have hexponent {d : Dyadic} := exponent_le (x := x) (d := d)
  change unpackedValue? (Float.Model.pack x.toModel.unpack.neg).unpack = _
  unfold value?
  generalize x.toModel.unpack = u at hx
  generalize Dyadic.ofFloat? x = d at hx hexponent
  generalize (x.toBits.toNat / 2 ^ 63 == 1) = negative at hx
  cases hx with
  | infinity =>
    cases negative
    · exact congrArg some EReal.neg_top.symm
    · exact congrArg some EReal.neg_bot.symm
  | notANumber => rfl
  | zero e => cases negative <;> exact congrArg some neg_zero.symm
  | @finite m e hpos hc =>
    have hback (s : Sign) := unpack_pack s hpos hc (hexponent rfl)
    cases negative with
    | false =>
      change unpackedValue? (Float.Model.pack (.finite .negative m e hpos)).unpack = _
      rw [hback]
      simp [unpackedValue?, signOf]
    | true =>
      change unpackedValue? (Float.Model.pack (.finite .positive m e hpos)).unpack = _
      rw [hback]
      simp [unpackedValue?, signOf]

/-! ## The size of a double -/

/-- The whole part of a double that is a whole number. -/
theorem truncate_of_whole {x : Float} {k : Int} (h : value? x = some (((k : ℚ) : ℝ) : EReal)) :
    Number.truncate x = .ok k := by
  obtain ⟨d, hd, hvalue⟩ := exists_dyadic h
  have hden : (d.fraction.2 : ℚ) ≠ 0 := by exact_mod_cast d.fraction_den_pos.ne'
  have hnumerator : d.numerator = k * d.fraction.2 := by
    rw [Dyadic.value, div_eq_iff hden] at hvalue
    exact_mod_cast hvalue
  rw [Number.truncate, hd]
  change Except.ok d.truncate = _
  rw [Dyadic.truncate, hnumerator, Int.mul_tdiv_cancel _ (by exact_mod_cast d.fraction_den_pos.ne')]

theorem isFinite_iff {x : Float} : x.isFinite = true ↔ ∃ d, Dyadic.ofFloat? x = some d := by
  have hx := unpacks x
  change x.toModel.unpack.isFinite = true ↔ _
  generalize x.toModel.unpack = u at hx
  generalize Dyadic.ofFloat? x = d at hx
  cases hx with
  | finite hpos hc => exact ⟨fun _ => ⟨_, rfl⟩, fun _ => rfl⟩
  | zero e => exact ⟨fun _ => ⟨_, rfl⟩, fun _ => rfl⟩
  | _ => exact ⟨nofun, nofun⟩

/-- Infinities are not finite and have no whole part. -/
theorem truncate_of_infinite {x : Float} (h : value? x = some ⊤ ∨ value? x = some ⊥) :
    x.isFinite = false ∧ Number.truncate x = .error .overflow := by
  have hd : Dyadic.ofFloat? x = none := by
    refine Option.eq_none_iff_forall_ne_some.mpr fun d hd => ?_
    rw [value?_of_dyadic hd] at h
    rcases h with h | h
    · exact EReal.coe_ne_top _ (Option.some.inj h)
    · exact EReal.coe_ne_bot _ (Option.some.inj h)
  have hnan : x.isNaN = false := by
    rw [value?_of_none hd] at h
    by_contra hnan
    rw [if_pos ((Bool.not_eq_false _).mp hnan)] at h
    rcases h with h | h <;> cases h
  constructor
  · refine Bool.eq_false_iff.mpr fun hfinite => ?_
    obtain ⟨d, hd'⟩ := isFinite_iff.mp hfinite
    rw [hd] at hd'
    cases hd'
  · rw [Number.truncate, hd]
    change Except.error (if x.isNaN = true then Fault.wrongValue else .overflow) = _
    rw [hnan]
    rfl

/-- A double that is rounded from a whole number, apart from the sign. -/
def HasSize (x : Float) (n : Nat) : Prop :=
  value? x = value? (Float.ofInt n) ∨ value? x = (value? (Float.ofInt n)).map Neg.neg

theorem HasSize.neg {x : Float} (h : HasSize x n) : HasSize (-x) n := by
  unfold HasSize
  rw [value?_neg]
  rcases h with h | h
  · exact .inr (congrArg _ h)
  · refine .inl ?_
    rw [h]
    cases value? (Float.ofInt n) with
    | none => rfl
    | some X => exact congrArg some (neg_neg X)

theorem hasSize_ofInt (r : Int) : HasSize (Float.ofInt r) r.natAbs := by
  cases r with
  | ofNat n => exact .inl rfl
  | negSucc n => exact HasSize.neg (.inl rfl)

/-- Doubles of one size are all finite, and then their whole parts are of that size up to
rounding, or they are all infinite. -/
theorem size_cases (n : Nat) :
    (ofInt? n ≠ none ∧ ∃ k : Nat, Near n k ∧ ∀ x, HasSize x n → x.isFinite = true ∧
      (Number.truncate x).map Int.natAbs = .ok k) ∨
    (ofInt? n = none ∧ ∀ x, HasSize x n → x.isFinite = false ∧
      Number.truncate x = .error .overflow) := by
  have hself : HasSize (Float.ofInt n) n := .inl rfl
  rcases value?_whole n with ⟨k, hk, hvalue⟩ | hvalue
  · have hall (x : Float) (hx : HasSize x n) : x.isFinite = true ∧
        (Number.truncate x).map Int.natAbs = .ok k := by
      obtain ⟨j, hj, hvalue'⟩ : ∃ j : Int, j.natAbs = k ∧
          value? x = some (((j : ℚ) : ℝ) : EReal) := by
        rcases hx with hx | hx
        · exact ⟨k, rfl, by rw [hx, hvalue]; norm_cast⟩
        · exact ⟨-k, by simp, by rw [hx, hvalue]; simp⟩
      obtain ⟨d, hd, -⟩ := exists_dyadic hvalue'
      refine ⟨isFinite_iff.mpr ⟨d, hd⟩, ?_⟩
      rw [truncate_of_whole hvalue']
      exact congrArg Except.ok hj
    refine .inl ⟨?_, k, hk, hall⟩
    rw [ofInt?, if_pos (hall _ hself).1]
    exact nofun
  · have hall (x : Float) (hx : HasSize x n) : x.isFinite = false ∧
        Number.truncate x = .error .overflow := by
      refine truncate_of_infinite ?_
      rcases hx with hx | hx
      · exact .inl (hx.trans hvalue)
      · exact .inr (by rw [hx, hvalue]; exact congrArg some EReal.neg_top)
    refine .inr ⟨?_, hall⟩
    rw [ofInt?, if_neg (Bool.eq_false_iff.mp (hall _ hself).1)]

theorem ofInt?_of_digits {digits : Nat} (hdigits : 400 ≤ digits) (hn : 10 ^ digits ≤ n) :
    ofInt? n = none := by
  have hinfinite := truncate_of_infinite (.inl (value?_of_digits hdigits hn))
  rw [ofInt?, if_neg (Bool.eq_false_iff.mp hinfinite.1)]

end Decimal

end Compositor
