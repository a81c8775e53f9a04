import Compositor.Decimal.Shortest
import Mathlib

/-!
# The values of doubles

Every double but NaN has an exact value, a dyadic fraction or an infinity. Doubles are compared
by their exponents first and by their significands then; since significands are as large as the
format allows, this is the order of the values. The decomposition by which the rest of the
library looks at a double has the same value.
-/
namespace Compositor.Decimal

open Float.Model (UnpackedFloat Format)
open Float.Model.UnpackedFloat (Sign unpackMantissa unpackExponent unpackSign)

namespace Dyadic

/-- An exact value without its sign. -/
def magnitude (m : Nat) (e : Int) : ℚ := m * (2 : ℚ) ^ e

/-- The exact value. -/
def value (d : Dyadic) : ℚ := d.numerator / d.fraction.2

theorem value_eq (d : Dyadic) :
    d.value = if d.negative then -magnitude d.mantissa d.exponent
      else magnitude d.mantissa d.exponent := by
  obtain ⟨negative, mantissa, exponent⟩ := d
  cases exponent with
  | ofNat e => cases negative <;> simp [value, numerator, fraction, magnitude]
  | negSucc e =>
    cases negative <;>
      simp [value, numerator, fraction, magnitude, div_eq_mul_inv, zpow_negSucc]

/-- A significand that is as large as the format allows. -/
structure Canonical (m : Nat) (e : Int) : Prop where
  below : m < 2 ^ significandBits
  least : leastExponent ≤ e
  full : e ≠ leastExponent → 2 ^ (significandBits - 1) ≤ m

theorem magnitude_pos {m : Nat} (h : 0 < m) (e : Int) : 0 < magnitude m e := by
  unfold magnitude
  positivity

/-- A larger exponent outweighs every significand. -/
theorem magnitude_lt_of_exponent {m n : Nat} {e f : Int} (hm : Canonical m e)
    (hn : Canonical n f) (h : e < f) : magnitude m e < magnitude n f := by
  have hleast := hm.least
  have hfull : 2 ^ 52 ≤ n := hn.full (by omega)
  have hfull' : (2 ^ 52 : ℚ) ≤ n := by exact_mod_cast hfull
  have hbelow : m < 2 ^ 53 := hm.below
  have hbelow' : (m : ℚ) < 2 ^ 53 := by exact_mod_cast hbelow
  have hstep : (2 : ℚ) ^ (e + 1) ≤ 2 ^ f := zpow_le_zpow_right₀ (by norm_num) (by omega)
  unfold magnitude
  calc (m : ℚ) * 2 ^ e < (2 ^ 53 : ℚ) * 2 ^ e := by gcongr
    _ = (2 ^ 52 : ℚ) * 2 ^ (e + 1) := by
        rw [zpow_add_one₀ (by norm_num)]
        ring
    _ ≤ n * 2 ^ f := by gcongr

theorem compare_magnitude {m n : Nat} {e f : Int} (hm : Canonical m e) (hn : Canonical n f) :
    (compare e f).then (compare m n) = compare (magnitude m e) (magnitude n f) := by
  rcases lt_trichotomy e f with h | rfl | h
  · rw [compare_lt_iff_lt.mpr h, compare_lt_iff_lt.mpr (magnitude_lt_of_exponent hm hn h)]
    rfl
  · rw [compare_eq_iff_eq.mpr rfl]
    have hpos : (0 : ℚ) < 2 ^ e := by positivity
    rcases lt_trichotomy m n with h | rfl | h
    · rw [compare_lt_iff_lt.mpr h, Eq.comm]
      simpa [magnitude, compare_lt_iff_lt, hpos] using h
    · simp
    · rw [compare_gt_iff_gt.mpr h, Eq.comm]
      simpa [magnitude, compare_gt_iff_gt, hpos] using h
  · rw [compare_gt_iff_gt.mpr h, compare_gt_iff_gt.mpr (magnitude_lt_of_exponent hn hm h)]
    rfl

end Dyadic

/-! ## The order of values -/

/-- The value that the model of a double stands for. -/
noncomputable def unpackedValue? : UnpackedFloat → Option EReal
  | .notANumber => none
  | .infinity .positive => some ⊤
  | .infinity .negative => some ⊥
  | .zero _ => some 0
  | .finite .positive m e _ => some ((Dyadic.magnitude m e : ℚ) : ℝ)
  | .finite .negative m e _ => some ((-Dyadic.magnitude m e : ℚ) : ℝ)

/-- The exact value of a double; only NaN has none. -/
noncomputable def value? (x : Float) : Option EReal := unpackedValue? x.toModel.unpack

def IsCanonical (u : UnpackedFloat) : Prop :=
  ∀ s m e h, u = .finite s m e h → Dyadic.Canonical m e

theorem compare_coe (p q : ℚ) : compare ((p : ℝ) : EReal) ((q : ℝ) : EReal) = compare p q := by
  rcases lt_trichotomy p q with h | rfl | h
  · rw [compare_lt_iff_lt.mpr h, compare_lt_iff_lt]
    exact_mod_cast h
  · rw [compare_eq_iff_eq.mpr rfl, compare_eq_iff_eq.mpr rfl]
  · rw [compare_gt_iff_gt.mpr h, compare_gt_iff_gt]
    exact_mod_cast h

theorem compare_neg_neg (p q : ℚ) : compare (-p) (-q) = (compare p q).swap := by
  rcases lt_trichotomy p q with h | rfl | h
  · rw [compare_lt_iff_lt.mpr h, compare_gt_iff_gt.mpr (neg_lt_neg h)]
    rfl
  · simp
  · rw [compare_gt_iff_gt.mpr h, compare_lt_iff_lt.mpr (neg_lt_neg h)]
    rfl

/-- Canonical models are compared as their values are. -/
theorem compare_unpacked {u v : UnpackedFloat} (hu : IsCanonical u) (hv : IsCanonical v) :
    u.compare v = (do return compare (← unpackedValue? u) (← unpackedValue? v)) := by
  have hpos {m : Nat} (h : 0 < m) (e : Int) : (0 : EReal) < ((Dyadic.magnitude m e : ℚ) : ℝ) := by
    exact_mod_cast Dyadic.magnitude_pos h e
  have hneg {m : Nat} (h : 0 < m) (e : Int) :
      (((-Dyadic.magnitude m e : ℚ) : ℝ) : EReal) < 0 := by
    exact_mod_cast neg_lt_zero.mpr (Dyadic.magnitude_pos h e)
  have hlt {p q : EReal} (h : p < q) : some Ordering.lt = some (compare p q) :=
    congrArg some (compare_lt_iff_lt.mpr h).symm
  have hgt {p q : EReal} (h : q < p) : some Ordering.gt = some (compare p q) :=
    congrArg some (compare_gt_iff_gt.mpr h).symm
  have heq (p : EReal) : some Ordering.eq = some (compare p p) :=
    congrArg some (compare_eq_iff_eq.mpr rfl).symm
  cases u with
  | notANumber => rfl
  | infinity s =>
    cases v with
    | notANumber => cases s <;> rfl
    | infinity t =>
      cases s with
      | positive =>
        cases t with
        | positive => exact heq ⊤
        | negative => exact hgt bot_lt_top
      | negative =>
        cases t with
        | positive => exact hlt bot_lt_top
        | negative => exact heq ⊥
    | zero t =>
      cases s with
      | positive => exact hgt EReal.zero_lt_top
      | negative => exact hlt EReal.bot_lt_zero
    | finite t n f hn =>
      cases s with
      | positive => cases t <;> exact hgt (EReal.coe_lt_top _)
      | negative => cases t <;> exact hlt (EReal.bot_lt_coe _)
  | zero s =>
    cases v with
    | notANumber => rfl
    | infinity t =>
      cases t with
      | positive => exact hlt EReal.zero_lt_top
      | negative => exact hgt EReal.bot_lt_zero
    | zero t => exact heq 0
    | finite t n f hn =>
      cases t with
      | positive => exact hlt (hpos hn f)
      | negative => exact hgt (hneg hn f)
  | finite s m e hm =>
    cases v with
    | notANumber => cases s <;> rfl
    | infinity t =>
      cases t with
      | positive => cases s <;> exact hlt (EReal.coe_lt_top _)
      | negative => cases s <;> exact hgt (EReal.bot_lt_coe _)
    | zero t =>
      cases s with
      | positive => exact hgt (hpos hm e)
      | negative => exact hlt (hneg hm e)
    | finite t n f hn =>
      have hme := hu s m e hm rfl
      have hnf := hv t n f hn rfl
      cases s with
      | positive =>
        cases t with
        | positive =>
          refine congrArg some ?_
          rw [compare_coe, Dyadic.compare_magnitude hme hnf]
        | negative => exact hgt ((hneg hn f).trans (hpos hm e))
      | negative =>
        cases t with
        | positive => exact hlt ((hneg hm e).trans (hpos hn f))
        | negative =>
          refine congrArg some ?_
          rw [compare_coe, compare_neg_neg, Dyadic.compare_magnitude hme hnf]

/-! ## The bits of a double -/

theorem unpackMantissa_toNat (b : BitVec 64) :
    (@unpackMantissa Format.binary64 b).toNat = b.toNat % 2 ^ 52 := by
  simp [unpackMantissa, BitVec.extractLsb_toNat]

theorem unpackExponent_toNat (b : BitVec 64) :
    (@unpackExponent Format.binary64 b).toNat = b.toNat / 2 ^ 52 % 2 ^ 11 := by
  simp [unpackExponent, BitVec.extractLsb_toNat, Nat.shiftRight_eq_div_pow]

theorem unpackSign_toNat (b : BitVec 64) :
    (@unpackSign Format.binary64 b).toNat = b.toNat / 2 ^ 63 := by
  have hlt := b.isLt
  simp [unpackSign, BitVec.extractLsb_toNat, Nat.shiftRight_eq_div_pow]
  omega

/-- The sign that a bit stands for. -/
def signOf (negative : Bool) : Sign := if negative then .negative else .positive

theorem ofBitVec_eq_signOf (bit : BitVec 1) : Sign.ofBitVec bit = signOf (bit.toNat == 1) := by
  rcases BitVec.eq_zero_or_eq_one bit with rfl | rfl <;> rfl

/-- A decomposition reads the three parts of a double. -/
theorem ofFloat?_eq (x : Float) :
    Dyadic.ofFloat? x =
      let bits := x.toModel.toBits.toBitVec
      let sign := (@unpackSign Format.binary64 bits).toNat == 1
      let biased := (@unpackExponent Format.binary64 bits).toNat
      let trailing := (@unpackMantissa Format.binary64 bits).toNat
      if biased = 2047 then none
      else if biased = 0 then some ⟨sign, trailing, Dyadic.leastExponent⟩
      else some ⟨sign, 2 ^ 52 + trailing, (biased : Int) - 1075⟩ := by
  dsimp only
  rw [unpackSign_toNat, unpackExponent_toNat, unpackMantissa_toNat]
  simp only [Dyadic.ofFloat?, beq_iff_eq]
  rfl

/-- The decomposition of a double with a sign, and the model of the double. -/
inductive Unpacks (negative : Bool) : Option Dyadic → UnpackedFloat → Prop
  | infinity : Unpacks negative none (.infinity (signOf negative))
  | notANumber : Unpacks negative none .notANumber
  | zero (e : Int) : Unpacks negative (some ⟨negative, 0, e⟩) (.zero (signOf negative))
  | finite {m : Nat} {e : Int} (hpos : 0 < m) (hc : Dyadic.Canonical m e) :
    Unpacks negative (some ⟨negative, m, e⟩) (.finite (signOf negative) m e hpos)

theorem Unpacks.isCanonical {negative : Bool} {d : Option Dyadic} {u : UnpackedFloat}
    (h : Unpacks negative d u) : IsCanonical u := by
  intro s m e hm hu
  cases h with
  | finite hpos hc =>
    cases hu
    exact hc
  | _ => cases hu

theorem unpacks (x : Float) :
    Unpacks (x.toBits.toNat / 2 ^ 63 == 1) (Dyadic.ofFloat? x) x.toModel.unpack := by
  have hsign : x.toBits.toNat / 2 ^ 63 =
      (@unpackSign Format.binary64 x.toModel.toBits.toBitVec).toNat :=
    (unpackSign_toNat _).symm
  rw [ofFloat?_eq, hsign]
  dsimp only
  unfold Float.Model.unpack
  fun_cases UnpackedFloat.unpack Format.binary64 x.toModel.toBits.toBitVec with
  | case1 m e bit s he hm =>
    have hall : e.toNat = 2047 := by rw [he]; rfl
    rw [if_pos hall, show s = _ from ofBitVec_eq_signOf bit]
    exact .infinity
  | case2 m e he hm =>
    have hall : e.toNat = 2047 := by rw [he]; rfl
    rw [if_pos hall]
    exact .notANumber
  | case3 m e bit s hfin he hm =>
    have hnone : e.toNat = 0 := by rw [he]; rfl
    have hall : e.toNat ≠ 2047 := by omega
    have hzero : m.toNat = 0 := by rw [hm]; rfl
    rw [if_neg hall, if_pos hnone, show s = _ from ofBitVec_eq_signOf bit, hzero]
    exact .zero _
  | case4 m e exp bit s hfin he hm =>
    have hnone : e.toNat = 0 := by rw [he]; rfl
    have hall : e.toNat ≠ 2047 := by omega
    have hexp : exp + 1 = Dyadic.leastExponent := by
      simp only [exp, hnone]
      rfl
    rw [if_neg hall, if_pos hnone, show s = _ from ofBitVec_eq_signOf bit, hexp]
    exact .finite _ ⟨m.isLt.trans (by decide), le_rfl, fun h => absurd rfl h⟩
  | case5 m e exp bit s hfin he =>
    have hnone : e.toNat ≠ 0 := fun h => he (BitVec.toNat_inj.mp h)
    have hall : e.toNat ≠ 2047 := fun h => hfin (BitVec.toNat_inj.mp h)
    have hexp : exp = (e.toNat : Int) - 1075 := rfl
    have hlt : m.toNat < 2 ^ 52 := m.isLt
    -- the leading one is not among the bits
    have hman : (1#1 ++ m).toNat = 2 ^ 52 + m.toNat := by
      rw [BitVec.toNat_append, ← Nat.shiftLeft_add_eq_or_of_lt m.isLt]
      rfl
    have hc : Dyadic.Canonical (2 ^ 52 + m.toNat) exp := by
      refine ⟨?_, ?_, fun _ => Nat.le_add_right _ _⟩
      · change 2 ^ 52 + m.toNat < 2 ^ 53
        omega
      · change -1074 ≤ exp
        omega
    rw [if_neg hall, if_neg hnone, show s = _ from ofBitVec_eq_signOf bit]
    rw [← hman] at hc ⊢
    exact .finite _ hc

/-! ## What the library asks about doubles -/

/-- A double has the value of its decomposition. -/
theorem value?_of_dyadic {x : Float} {d : Dyadic} (h : Dyadic.ofFloat? x = some d) :
    value? x = some ((d.value : ℝ) : EReal) := by
  have hx := unpacks x
  rw [h] at hx
  unfold value?
  generalize x.toModel.unpack = u at hx
  cases hx with
  | zero e => simp [unpackedValue?, Dyadic.value_eq, Dyadic.magnitude]
  | finite hpos hc =>
    rw [Dyadic.value_eq]
    generalize (x.toBits.toNat / 2 ^ 63 == 1) = negative
    cases negative <;> rfl

/-- A double without a decomposition is NaN or an infinity. -/
theorem value?_of_none {x : Float} (h : Dyadic.ofFloat? x = none) :
    value? x = if x.isNaN then none else if isNegative x then some ⊥ else some ⊤ := by
  have hx := unpacks x
  have hnan : x.isNaN = x.toModel.unpack.isNaN := rfl
  rw [h] at hx
  rw [isNegative, hnan, value?]
  change _ = if _ then _ else if (_ && (x.toBits.toNat / 2 ^ 63 == 1)) = true then _ else _
  generalize x.toModel.unpack = u at hx
  generalize (x.toBits.toNat / 2 ^ 63 == 1) = negative at hx
  cases hx with
  | infinity => cases negative <;> rfl
  | notANumber => rfl

/-- A double with a rational value is a dyadic number. -/
theorem exists_dyadic {x : Float} {p : ℚ} (h : value? x = some ((p : ℝ) : EReal)) :
    ∃ d, Dyadic.ofFloat? x = some d ∧ d.value = p := by
  cases hd : Dyadic.ofFloat? x with
  | none =>
    rw [value?_of_none hd] at h
    split at h
    · cases h
    · split at h
      · exact absurd (Option.some.inj h).symm (EReal.coe_ne_bot _)
      · exact absurd (Option.some.inj h).symm (EReal.coe_ne_top _)
  | some d =>
    have hvalue : ((d.value : ℝ) : EReal) = ((p : ℝ) : EReal) :=
      Option.some.inj ((value?_of_dyadic hd).symm.trans h)
    exact ⟨d, rfl, by exact_mod_cast hvalue⟩

/-- A double is below another one exactly if its value is. -/
theorem lt_iff {x y : Float} : x < y ↔ ∃ p ∈ value? x, ∃ q ∈ value? y, p < q := by
  have hcompare := compare_unpacked (unpacks x).isCanonical (unpacks y).isCanonical
  have hlt : x < y ↔ x.toModel.unpack.compare y.toModel.unpack = some .lt :=
    decide_eq_true_iff.trans beq_iff_eq
  rw [hlt, hcompare]
  unfold value?
  cases unpackedValue? x.toModel.unpack with
  | none => simp
  | some p =>
    cases unpackedValue? y.toModel.unpack with
    | none => simp
    | some q => simp [compare_lt_iff_lt]

theorem value?_zero : value? 0 = some 0 := by
  have hzero : Dyadic.ofFloat? 0 = some ⟨false, 0, Dyadic.leastExponent⟩ := by decide
  rw [value?_of_dyadic hzero]
  simp [Dyadic.value_eq, Dyadic.magnitude]

/-- A double equals zero exactly if its value does. -/
theorem beq_zero_iff {x : Float} : (x == 0) = true ↔ value? x = some 0 := by
  have hcompare := compare_unpacked (unpacks x).isCanonical (unpacks 0).isCanonical
  have heq : (x == 0) = true ↔ x.toModel.unpack.compare (0 : Float).toModel.unpack = some .eq := by
    change (x.toModel.unpack.compare (0 : Float).toModel.unpack == some .eq) = true ↔ _
    exact beq_iff_eq
  have hzero : unpackedValue? (0 : Float).toModel.unpack = some 0 := value?_zero
  rw [heq, hcompare, hzero]
  unfold value?
  cases unpackedValue? x.toModel.unpack with
  | none => simp
  | some p => simp

end Compositor.Decimal
