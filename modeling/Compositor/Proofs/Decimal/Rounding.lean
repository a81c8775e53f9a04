import Compositor.Proofs.Decimal.Value

/-!
# Differences that are not rounded

Rounding keeps what a double can hold. A whole number below `2 ^ 53` is a double, and so is what
is left of a double when a smaller whole number is taken from it: its significand only gets
shorter.
-/
namespace Compositor.Decimal

open Float.Model (UnpackedFloat Format totalExponent)
open Float.Model.UnpackedFloat (Sign ExtendedMantissa decreaseExponent packComponents
  roundWithAccuracy shiftToExponent shiftToTargetExponent unpackExponent_packComponents
  unpackMantissa_packComponents unpackSign_packComponents)

/-- The exponent of the greatest doubles. -/
def greatestExponent : Int := 971

namespace Dyadic

variable {m n : Nat} {e f : Int}

theorem magnitude_shift (n k : Nat) (f : Int) :
    magnitude (n * 2 ^ k) (f - k) = magnitude n f := by
  unfold magnitude
  rw [zpow_sub₀ (by norm_num), zpow_natCast]
  push_cast
  field_simp

/-- A number has one significand for each exponent. -/
theorem magnitude_inj : magnitude m e = magnitude n e ↔ m = n := by
  have hpow : (2 : ℚ) ^ e ≠ 0 := by positivity
  simp [magnitude, hpow]

/-- The significands of a number differ by zeros at their ends. -/
theorem magnitude_eq_cases (h : magnitude m e = magnitude n f) :
    (∃ k : Nat, e = f - k ∧ m = n * 2 ^ k) ∨ ∃ k : Nat, f = e - k ∧ n = m * 2 ^ k := by
  rcases le_total e f with hle | hle
  · obtain ⟨k, rfl⟩ := Int.le.dest hle
    refine .inl ⟨k, (Int.add_sub_cancel e k).symm, magnitude_inj (e := e) |>.mp ?_⟩
    rw [h, ← magnitude_shift n k, Int.add_sub_cancel]
  · obtain ⟨k, rfl⟩ := Int.le.dest hle
    refine .inr ⟨k, (Int.add_sub_cancel f k).symm, magnitude_inj (e := f) |>.mp ?_⟩
    rw [← h, ← magnitude_shift m k, Int.add_sub_cancel]

/-- A significand can be made as large as the format allows. -/
theorem exists_canonical {m : Nat} {e : Int} (hm : m < 2 ^ significandBits)
    (he : leastExponent ≤ e) : ∃ n f, Canonical n f ∧ f ≤ e ∧ magnitude n f = magnitude m e := by
  by_cases hfull : e = leastExponent ∨ 2 ^ (significandBits - 1) ≤ m
  · exact ⟨m, e, ⟨hm, he, hfull.resolve_left⟩, le_rfl, rfl⟩
  · rw [not_or, not_le] at hfull
    obtain ⟨hne, hshort⟩ := hfull
    have hstep : leastExponent ≤ e - 1 := by omega
    have hdouble : m * 2 ^ 1 < 2 ^ significandBits := by
      change m < 2 ^ 52 at hshort
      change m * 2 ^ 1 < 2 ^ 53
      omega
    obtain ⟨n, f, hcanonical, hle, hvalue⟩ := exists_canonical hdouble hstep
    exact ⟨n, f, hcanonical, by omega, hvalue.trans (magnitude_shift m 1 e)⟩
termination_by (e - leastExponent).toNat

end Dyadic

open Compositor.Decimal.Dyadic

/-! ## Rounding -/

section

variable {n : Nat} {f : Int}

theorem log2_shift (hn : 0 < n) (k : Nat) : (n * 2 ^ k).log2 = n.log2 + k := by
  induction k with
  | zero => simp
  | succ k ih =>
    have hne : n * 2 ^ k ≠ 0 := by positivity
    rw [pow_succ', Nat.mul_left_comm, Nat.log2_two_mul hne, ih]
    rfl

theorem totalExponent_shift (hn : 0 < n) (k : Nat) :
    totalExponent (n * 2 ^ k) (f - k) = totalExponent n f := by
  unfold totalExponent
  rw [log2_shift hn]
  push_cast
  ring

/-- The format asks for the exponent that a number has. -/
theorem targetExponent_canonical (hn : 0 < n) (hc : Canonical n f) :
    Format.binary64.targetExponent (totalExponent n f) = f := by
  have hbelow : n.log2 < 53 := (Nat.log2_lt hn.ne').mpr hc.below
  have hleast : -1074 ≤ f := hc.least
  change max ((n.log2 : Int) + 1 + f - 53) (-1074) = f
  by_cases hf : f = leastExponent
  · change f = -1074 at hf
    omega
  · have hfull : 52 ≤ n.log2 := (Nat.le_log2 hn.ne').mpr (hc.full hf)
    omega

theorem shiftRight_exact (n k : Nat) :
    (⟨n * 2 ^ k, false, false⟩ : ExtendedMantissa) >>> k = ⟨n, false, false⟩ := by
  change k.repeat ExtendedMantissa.shiftRightOne _ = _
  induction k generalizing n with
  | zero => simp [Nat.repeat]
  | succ k ih =>
    rw [Nat.repeat, pow_succ', ← Nat.mul_assoc, ih]
    simp [ExtendedMantissa.shiftRightOne]

theorem shiftToTargetExponent_shift (hn : 0 < n) (hc : Canonical n f) (k : Nat) :
    shiftToTargetExponent Format.binary64 (n * 2 ^ k) (f - k) .exact =
      (⟨n, false, false⟩, f) := by
  have hamount : (f - (f - k)).toNat = k := by omega
  have hexponent : f - k + (k : Int) = f := by omega
  unfold shiftToTargetExponent
  rw [totalExponent_shift hn, targetExponent_canonical hn hc]
  simp only [shiftToExponent, hamount, hexponent]
  exact congrArg (·, f) (shiftRight_exact n k)

/-- Bits that are zero are dropped without loss. -/
theorem roundWithAccuracy_shift (s : Sign) (hn : 0 < n) (hc : Canonical n f) (k : Nat) :
    roundWithAccuracy Format.binary64 s (n * 2 ^ k) (f - k) .exact = .finite s n f hn := by
  have hagain := shiftToTargetExponent_shift hn hc 0
  simp only [pow_zero, Nat.mul_one, Nat.cast_zero, Int.sub_zero] at hagain
  have hrounded : (⟨n, false, false⟩ : ExtendedMantissa).roundedMantissa = n := rfl
  unfold roundWithAccuracy
  simp only [shiftToTargetExponent_shift hn hc k, hrounded, hagain]
  exact dif_neg hn.ne'

/-- A number that a double can hold is not rounded. -/
theorem round_canonical (s : Sign) {m : Nat} {e : Int} (hn : 0 < n) (hc : Canonical n f)
    (h : magnitude m e = magnitude n f) :
    UnpackedFloat.round Format.binary64 s m e = .finite s n f hn := by
  obtain ⟨k, htotal, hdecrease⟩ : ∃ k : Nat, totalExponent m e = totalExponent n f ∧
      decreaseExponent m e f = (n * 2 ^ k, f - k) := by
    unfold decreaseExponent
    dsimp only
    rw [Nat.shiftLeft_eq]
    rcases magnitude_eq_cases h with ⟨k, rfl, rfl⟩ | ⟨k, rfl, rfl⟩
    · exact ⟨k, totalExponent_shift hn k, by simp⟩
    · have hm : 0 < m := Nat.pos_of_mul_pos_right hn
      exact ⟨0, (totalExponent_shift hm k).symm, by simp⟩
  unfold UnpackedFloat.round
  simp only [htotal, targetExponent_canonical hn hc, hdecrease]
  exact roundWithAccuracy_shift s hn hc k

end

/-! ## Bits -/

/-- The leading one of a long significand is not among the bits. -/
theorem append_ofNat {n : Nat} (hfull : 2 ^ 52 ≤ n) (hbelow : n < 2 ^ 53) :
    (1#1 ++ BitVec.ofNat 52 n).toNat = n := by
  rw [BitVec.toNat_append, ← Nat.shiftLeft_add_eq_or_of_lt (BitVec.isLt _), BitVec.toNat_ofNat]
  change 2 ^ 52 + n % 2 ^ 52 = n
  omega

theorem unpack_normal (s : Sign) {n b : Nat} (hfull : 2 ^ 52 ≤ n) (hbelow : n < 2 ^ 53)
    (hpos : 0 < b) (hb : b < 2047) (hn : 0 < n) :
    UnpackedFloat.unpack Format.binary64
      (packComponents Format.binary64 s (BitVec.ofNat 11 b) (BitVec.ofNat 52 n)) =
      .finite s n (b - 1075) hn := by
  have hbiased : (BitVec.ofNat 11 b).toNat = b := by
    rw [BitVec.toNat_ofNat]
    omega
  have hnone : BitVec.ofNat 11 b ≠ 0#11 := fun h => by
    have := congrArg BitVec.toNat h
    rw [hbiased, BitVec.toNat_zero] at this
    omega
  have hall : BitVec.ofNat 11 b ≠ -1#11 := fun h => by
    have := congrArg BitVec.toNat h
    rw [hbiased] at this
    change b = 2047 at this
    omega
  unfold UnpackedFloat.unpack
  simp only [unpackMantissa_packComponents, unpackExponent_packComponents,
    unpackSign_packComponents, Sign.ofBitVec_toBitVec, if_neg hall, if_neg hnone,
    append_ofNat hfull hbelow, hbiased]
  rfl

theorem unpack_subnormal (s : Sign) {n : Nat} (hshort : n < 2 ^ 52) (hn : 0 < n) :
    UnpackedFloat.unpack Format.binary64
      (packComponents Format.binary64 s 0#11 (BitVec.ofNat 52 n)) =
      .finite s n leastExponent hn := by
  have hman : (BitVec.ofNat 52 n).toNat = n := by
    rw [BitVec.toNat_ofNat]
    omega
  have hnonzero : BitVec.ofNat 52 n ≠ 0#52 := fun h => by
    have := congrArg BitVec.toNat h
    rw [hman, BitVec.toNat_zero] at this
    omega
  unfold UnpackedFloat.unpack
  simp only [unpackMantissa_packComponents, unpackExponent_packComponents,
    unpackSign_packComponents, Sign.ofBitVec_toBitVec, if_neg (by decide : 0#11 ≠ -1#11), if_true,
    dif_neg hnonzero, hman]
  rfl

/-- A double holds what is not too large. -/
theorem unpack_pack (s : Sign) {n : Nat} {f : Int} (hn : 0 < n) (hc : Canonical n f)
    (hf : f ≤ greatestExponent) :
    (Float.Model.pack (.finite s n f hn)).unpack = .finite s n f hn := by
  have hbelow : n < 2 ^ 53 := hc.below
  have hleast : -1074 ≤ f := hc.least
  change f ≤ 971 at hf
  obtain ⟨b, hb⟩ : ∃ b : Nat, f + 1023 + 52 = b := Int.eq_ofNat_of_zero_le (by omega)
  have hpack : UnpackedFloat.pack Format.binary64 (.finite s n f hn) =
      if 2 ^ 11 ≤ (f + 1023 + 52).toNat + 1 then _ else
        if n.log2 + 1 = 53 then
          packComponents Format.binary64 s (BitVec.ofNat 11 (f + 1023 + 52).toNat)
            (BitVec.ofNat 52 n)
        else packComponents Format.binary64 s 0#11 (BitVec.ofNat 52 n) := rfl
  rw [hb, Int.toNat_natCast, if_neg (by omega)] at hpack
  change UnpackedFloat.unpack Format.binary64 (UnpackedFloat.pack Format.binary64 _) = _
  rw [hpack]
  by_cases hfull : 2 ^ 52 ≤ n
  · have hlog : n.log2 + 1 = 53 := by
      rw [(Nat.log2_eq_iff hn.ne').mpr ⟨hfull, hbelow⟩]
    obtain rfl : f = b - 1075 := by omega
    rw [if_pos hlog, unpack_normal s hfull hbelow (by omega) (by omega) hn]
  · have hshort : n < 2 ^ 52 := not_le.mp hfull
    have hlog : ¬ n.log2 + 1 = 53 := by
      have := (Nat.log2_lt hn.ne').mpr hshort
      omega
    obtain rfl : f = leastExponent := by
      by_contra hne
      exact hfull (hc.full hne)
    rw [if_neg hlog, unpack_subnormal s hshort hn]

/-! ## Differences -/

theorem magnitude_decreaseExponent (m : Nat) {e f : Int} (h : f ≤ e) :
    magnitude (decreaseExponent m e f).1 f = magnitude m e := by
  obtain ⟨k, rfl⟩ := Int.le.dest h
  have hshift := magnitude_shift m k (f + k)
  rw [Int.add_sub_cancel] at hshift
  simpa [decreaseExponent, Nat.shiftLeft_eq] using hshift

/-- A positive number that a double can hold. -/
structure Fits (p : ℚ) : Prop where
  pos : 0 < p
  digits : ∃ m e, m < 2 ^ significandBits ∧ leastExponent ≤ e ∧ e ≤ greatestExponent ∧
    p = magnitude m e

theorem Fits.round {p : ℚ} (h : Fits p) {m : Nat} {e : Int} (hvalue : p = magnitude m e) :
    unpackedValue? (Float.Model.pack (UnpackedFloat.round Format.binary64 .positive m e)).unpack =
      some ((p : ℝ) : EReal) := by
  obtain ⟨hpos, n, f, hbelow, hleast, hgreatest, hn⟩ := h
  obtain ⟨c, g, hc, hle, hcvalue⟩ := exists_canonical hbelow hleast
  have hcpos : 0 < c := by
    refine Nat.pos_of_ne_zero fun hzero => hpos.ne' ?_
    rw [hn, ← hcvalue, hzero, magnitude, Nat.cast_zero, zero_mul]
  have hsame : magnitude m e = magnitude c g := by rw [← hvalue, hcvalue, hn]
  rw [round_canonical .positive hcpos hc hsame, unpack_pack _ _ hc (hle.trans hgreatest)]
  change some (((magnitude c g : ℚ) : ℝ) : EReal) = _
  rw [hcvalue, hn]

theorem Fits.normalize {p : ℚ} (h : Fits p) {d : Int} {e : Int} (hvalue : p = d * 2 ^ e)
    (zeroSign : Sign) :
    unpackedValue? (Float.Model.pack
      (UnpackedFloat.normalize Format.binary64 d e zeroSign)).unpack = some ((p : ℝ) : EReal) := by
  have hd : 0 < d := by
    have hprod : (0 : ℚ) < d * 2 ^ e := hvalue ▸ h.pos
    exact_mod_cast (pos_iff_pos_of_mul_pos hprod).mpr (by positivity)
  unfold UnpackedFloat.normalize
  rw [show compare d 0 = .gt from compare_gt_iff_gt.mpr hd]
  refine h.round ?_
  have hcast : ((d.toNat : Int) : ℚ) = d := congrArg _ (Int.toNat_of_nonneg hd.le)
  rw [hvalue, magnitude, ← hcast]
  rfl

/-- The model of a double of a positive value. -/
theorem unpack_of_pos {x : Float} {p : ℚ} (hx : value? x = some ((p : ℝ) : EReal)) (hp : 0 < p) :
    ∃ m e h, x.toModel.unpack = .finite .positive m e h ∧ Canonical m e ∧ p = magnitude m e := by
  have hcanonical := (unpacks x).isCanonical
  unfold value? at hx
  generalize x.toModel.unpack = u at hx hcanonical
  have hvalue {q : ℚ} (h : ((q : ℝ) : EReal) = ((p : ℝ) : EReal)) : q = p := by
    exact_mod_cast h
  cases u with
  | notANumber => cases hx
  | infinity s => cases s <;> cases hx
  | zero s =>
    have := hvalue (q := 0) (by simpa [unpackedValue?] using hx)
    exact absurd this hp.ne
  | finite s m e h =>
    cases s with
    | positive => exact ⟨m, e, h, rfl, hcanonical _ _ _ _ rfl, (hvalue (Option.some.inj hx)).symm⟩
    | negative =>
      have := hvalue (Option.some.inj hx)
      have hm := magnitude_pos h e
      linarith

/-- A double that is not infinite has a rational value. -/
theorem exists_rational {x : Float} {X : EReal} (hx : value? x = some X) (hbot : X ≠ ⊥)
    (htop : X ≠ ⊤) : ∃ p : ℚ, X = ((p : ℝ) : EReal) := by
  unfold value? at hx
  generalize x.toModel.unpack = u at hx
  cases u with
  | notANumber => cases hx
  | infinity s =>
    cases s with
    | positive => exact absurd (Option.some.inj hx).symm htop
    | negative => exact absurd (Option.some.inj hx).symm hbot
  | zero s => exact ⟨0, by simpa [unpackedValue?, eq_comm] using hx⟩
  | finite s m e h =>
    cases s with
    | positive => exact ⟨_, (Option.some.inj hx).symm⟩
    | negative => exact ⟨_, (Option.some.inj hx).symm⟩

/-- A difference that a double can hold is not rounded. -/
theorem value?_sub {x y : Float} {p q : ℚ} (hx : value? x = some ((p : ℝ) : EReal))
    (hy : value? y = some ((q : ℝ) : EReal)) (hq : 0 < q) (h : Fits (p - q)) :
    value? (x - y) = some (((p - q : ℚ) : ℝ) : EReal) := by
  have hp : 0 < p := by linarith [h.pos]
  obtain ⟨m, e, hm, hxmodel, -, hpvalue⟩ := unpack_of_pos hx hp
  obtain ⟨n, f, hn, hymodel, -, hqvalue⟩ := unpack_of_pos hy hq
  change unpackedValue? (Float.Model.pack (UnpackedFloat.sub Format.binary64 x.toModel.unpack
    y.toModel.unpack)).unpack = _
  rw [hxmodel, hymodel]
  have hdiff : p - q = (((decreaseExponent m e (min e f)).1 -
      (decreaseExponent n f (min e f)).1 : Int) : ℚ) * 2 ^ min e f := by
    rw [hpvalue, hqvalue, ← magnitude_decreaseExponent m (min_le_left e f),
      ← magnitude_decreaseExponent n (min_le_right e f)]
    unfold magnitude
    push_cast
    ring
  exact h.normalize hdiff .positive

/-! ## Whole numbers -/

theorem Fits.ofNat {n : Nat} (hn : 0 < n) (hbelow : n < 2 ^ significandBits) : Fits n where
  pos := by exact_mod_cast hn
  digits := ⟨n, 0, hbelow, by decide, by decide, by simp [magnitude]⟩

theorem pack_unpack (x : Float) : Float.Model.pack x.toModel.unpack = x.toModel := by
  obtain ⟨bits, hvalid⟩ := x.toModel
  have hbits := Float.Model.UnpackedFloat.pack_unpack_of_valid hvalid
  unfold Float.Model.pack Float.Model.unpack
  congr 1
  exact congrArg UInt64.ofBitVec hbits

/-- The powers of ten begin with one. -/
theorem mul_one_of_pos {x : Float} {p : ℚ} (hx : value? x = some ((p : ℝ) : EReal)) (hp : 0 < p) :
    x * Float.ofBits 0x3FF0000000000000 = x := by
  obtain ⟨m, e, hm, hmodel, hc, -⟩ := unpack_of_pos hx hp
  have hone : (Float.ofBits 0x3FF0000000000000).toModel.unpack =
      .finite .positive (2 ^ 52) (-52) (by decide) := by
    rfl
  have hmul : UnpackedFloat.mul Format.binary64 x.toModel.unpack
      (Float.ofBits 0x3FF0000000000000).toModel.unpack = x.toModel.unpack := by
    rw [hone, hmodel]
    exact roundWithAccuracy_shift .positive hm hc 52
  change Float.ofModel (Float.Model.pack (UnpackedFloat.mul Format.binary64 _ _)) = x
  rw [hmul, pack_unpack]

theorem value?_ofNat {n : Nat} (hbelow : n < 2 ^ significandBits) :
    value? (Float.ofInt n) = some (((n : ℚ) : ℝ) : EReal) := by
  rcases n.eq_zero_or_pos with rfl | hn
  · exact value?_zero.trans (by simp)
  have hfits := Fits.ofNat hn hbelow
  have hword : value? n.toUInt64.toFloat = some (((n : ℚ) : ℝ) : EReal) := by
    have hsame : n.toUInt64.toNat = n := by
      refine UInt64.toNat_ofNat_of_lt' ?_
      exact hbelow.trans (by decide)
    refine hfits.normalize (d := n.toUInt64.toNat) (e := 0) ?_ .positive
    simp [hsame]
  change value? (Float.ofScientific n false 0) = _
  have hfast : n < 2 ^ 53 ∧ 0 ≤ 22 := ⟨hbelow, by decide⟩
  unfold Float.ofScientific
  rw [dif_pos hfast]
  change value? (n.toUInt64.toFloat * Float.ofBits 0x3FF0000000000000) = _
  rw [mul_one_of_pos hword hfits.pos, hword]

/-- A whole number that is short enough is converted without loss. -/
theorem ofInt?_eq {n : Nat} (hbelow : n < 2 ^ significandBits) :
    ofInt? n = some (Float.ofInt n) := by
  have hfinite : (Float.ofInt n).isFinite = true := by
    rcases n.eq_zero_or_pos with rfl | hn
    · decide
    · obtain ⟨m, e, hm, hmodel, -⟩ :=
        unpack_of_pos (value?_ofNat hbelow) (Fits.ofNat hn hbelow).pos
      change (Float.ofInt n).toModel.unpack.isFinite = true
      rw [hmodel]
      rfl
  exact if_pos hfinite

/-- What is left of a double when a smaller whole number is taken from it. -/
theorem Fits.sub_natCast {x : Float} {p : ℚ} (hx : value? x = some ((p : ℝ) : EReal))
    (hp : p < 2 ^ significandBits) {n : Nat} (hn : n < p) : Fits (p - n) := by
  have hpos : 0 < p := n.cast_nonneg.trans_lt hn
  obtain ⟨m, e, hm, -, hc, rfl⟩ := unpack_of_pos hx hpos
  have he : e ≤ 0 := by
    by_contra hlt
    have hfull : 2 ^ 52 ≤ m := hc.full (by change e ≠ -1074; omega)
    have hfull' : (2 ^ 52 : ℚ) ≤ m := by exact_mod_cast hfull
    have htwo : (2 : ℚ) ^ (1 : Int) ≤ 2 ^ e := zpow_le_zpow_right₀ (by norm_num) (by omega)
    refine hp.not_ge ?_
    calc (2 ^ significandBits : ℚ) = 2 ^ 52 * 2 ^ (1 : Int) := by norm_num [significandBits]
      _ ≤ m * 2 ^ e := by gcongr
  obtain ⟨k, hk⟩ := Int.eq_ofNat_of_zero_le (neg_nonneg.mpr he)
  obtain rfl : e = -k := by omega
  have hunit : magnitude (n * 2 ^ k) (-k) = n := by
    simp [magnitude]
  refine ⟨by linarith, m - n * 2 ^ k, -k, ?_, hc.least, he.trans (by decide), ?_⟩
  · exact (Nat.sub_le _ _).trans_lt hc.below
  · have hle : n * 2 ^ k ≤ m := by
      rw [← hunit] at hn
      exact_mod_cast (lt_of_mul_lt_mul_right hn (by positivity)).le
    rw [← hunit]
    unfold magnitude
    rw [Nat.cast_sub hle]
    ring

/-- Taking a whole number from a double that is greater, but not too great, is exact. -/
theorem value?_sub_natCast {x : Float} {p : ℚ} (hx : value? x = some ((p : ℝ) : EReal))
    (hp : p < 2 ^ significandBits) {n : Nat} (hn : n < p) :
    value? (x - Float.ofInt n) = some (((p - n : ℚ) : ℝ) : EReal) := by
  rcases n.eq_zero_or_pos with rfl | hpos
  · obtain ⟨m, e, hm, hmodel, -⟩ := unpack_of_pos hx (by simpa using hn)
    have hsub : UnpackedFloat.sub Format.binary64 x.toModel.unpack
        (Float.ofInt (0 : Nat)).toModel.unpack = x.toModel.unpack := by
      have hzero : (Float.ofInt (0 : Nat)).toModel.unpack = .zero .positive := by rfl
      rw [hzero, hmodel]
      rfl
    change unpackedValue? (Float.Model.pack (UnpackedFloat.sub Format.binary64 _ _)).unpack = _
    rw [hsub, pack_unpack, Nat.cast_zero, sub_zero]
    exact hx
  · have hbelow : n < 2 ^ significandBits := by exact_mod_cast hn.trans hp
    exact value?_sub hx (value?_ofNat hbelow) (by exact_mod_cast hpos) (.sub_natCast hx hp hn)

end Compositor.Decimal
