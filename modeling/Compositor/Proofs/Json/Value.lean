import Compositor.Json.Arithmetic
import Compositor.Proofs.Decimal.Rounding

/-!
# The values of numbers

Integers and doubles are ordered by their exact values, also among each other. A difference is
taken in doubles unless both numbers are integers, so that it may be rounded; it is exact if its
value is the difference of the values.
-/
namespace Compositor

namespace Number

/-- The exact value of a number; only NaN has none. -/
noncomputable def value? : Number → Option EReal
  | .int n => some ((n : ℝ) : EReal)
  | .real x => Decimal.value? x

theorem compareInt_swap (d : Decimal.Dyadic) (n : Int) :
    (d.compareInt n).swap = compare (n : ℚ) d.value := by
  have hden : (0 : ℚ) < d.fraction.2 := by exact_mod_cast d.fraction_den_pos
  unfold Decimal.Dyadic.compareInt Decimal.Dyadic.value
  rcases lt_trichotomy d.numerator (n * d.fraction.2) with h | h | h
  · have hq : (d.numerator : ℚ) < n * d.fraction.2 := by exact_mod_cast h
    rw [compare_lt_iff_lt.mpr h, compare_gt_iff_gt.mpr ((div_lt_iff₀ hden).mpr hq)]
    rfl
  · have hq : (d.numerator : ℚ) = n * d.fraction.2 := by exact_mod_cast h
    rw [compare_eq_iff_eq.mpr h, compare_eq_iff_eq.mpr ((div_eq_iff hden.ne').mpr hq).symm]
    rfl
  · have hq : (n : ℚ) * d.fraction.2 < d.numerator := by exact_mod_cast h
    rw [compare_gt_iff_gt.mpr h, compare_lt_iff_lt.mpr ((lt_div_iff₀ hden).mpr hq)]
    rfl

/-- An integer and a double are compared exactly. -/
theorem compareIntReal_eq (n : Int) (x : Float) :
    compareIntReal n x = (Decimal.value? x).map (compare ((n : ℝ) : EReal)) := by
  unfold compareIntReal
  cases h : Decimal.Dyadic.ofFloat? x with
  | some d =>
    have hcast := Decimal.compare_coe n d.value
    rw [Rat.cast_intCast] at hcast
    simp only [Decimal.value?_of_dyadic h, Option.map_some, compareInt_swap, hcast]
  | none =>
    simp only [Decimal.value?_of_none h]
    split
    · rfl
    · split
      · exact congrArg some (compare_gt_iff_gt.mpr (EReal.bot_lt_coe _)).symm
      · exact congrArg some (compare_lt_iff_lt.mpr (EReal.coe_lt_top _)).symm

/-- A number is below another one exactly if its value is. -/
theorem less_iff {m n : Number} :
    m.less n = true ↔ ∃ p ∈ m.value?, ∃ q ∈ n.value?, p < q := by
  cases m with
  | int a =>
    cases n with
    | int b => simp [less, value?]
    | real y =>
      simp only [less, value?, compareIntReal_eq]
      cases Decimal.value? y <;> simp [compare_lt_iff_lt]
  | real x =>
    cases n with
    | int b =>
      simp only [less, value?, compareIntReal_eq]
      cases Decimal.value? x <;> simp [compare_gt_iff_gt]
    | real y =>
      rw [less, decide_eq_true_iff]
      exact Decimal.lt_iff

end Number

namespace Json

/-- The exact value of a number; NaN and what is no number have none. -/
noncomputable def value? (v : Json) : Option EReal := v.number?.bind Number.value?

theorem isSome_number? {v : Json} {p : EReal} (h : v.value? = some p) : v.number?.isSome := by
  obtain ⟨n, hn, -⟩ := Option.bind_eq_some_iff.mp h
  rw [hn]
  rfl

/-- Numbers are ordered by their values; NaN is neither below nor above a number. -/
theorem less_of_numbers {a b : Json} (ha : a.number?.isSome) (hb : b.number?.isSome) :
    ∃ below, less a b = .ok below ∧
      (below = true ↔ ∃ p ∈ a.value?, ∃ q ∈ b.value?, p < q) := by
  obtain ⟨m, hm⟩ := Option.isSome_iff_exists.mp ha
  obtain ⟨n, hn⟩ := Option.isSome_iff_exists.mp hb
  refine ⟨m.less n, ?_, ?_⟩
  · have hless : less a b = (do .ok ((← a.toNumber).less (← b.toNumber))) := by
      unfold less
      split
      · cases hm
      · cases hm
      · rfl
    rw [hless, toNumber, toNumber, hm, hn]
    rfl
  · rw [Number.less_iff, value?, value?, hm, hn]
    rfl

theorem value?_int (n : Int) : (int n).value? = some ((n : ℝ) : EReal) := rfl

theorem value?_real {x : Float} {d : Decimal.Dyadic} (h : Decimal.Dyadic.ofFloat? x = some d) :
    (real x).value? = some ((d.value : ℝ) : EReal) := Decimal.value?_of_dyadic h

/-- The difference of two numbers is not rounded. -/
structure SubtractsExactly (a b : Json) : Prop where
  exact : ∃ d p q, Json.sub a b = .ok d ∧ a.value? = some p ∧ b.value? = some q ∧
    d.value? = some (p - q)

theorem SubtractsExactly.of_rationals {a b d : Json} {p q : ℚ} (h : Json.sub a b = .ok d)
    (ha : a.value? = some ((p : ℝ) : EReal)) (hb : b.value? = some ((q : ℝ) : EReal))
    (hd : d.value? = some (((p - q : ℚ) : ℝ) : EReal)) : SubtractsExactly a b := by
  refine ⟨d, _, _, h, ha, hb, ?_⟩
  rw [hd, ← EReal.coe_sub]
  push_cast
  rfl

/-- Integers are never rounded. -/
theorem subtractsExactly_ints (m n : Int) : SubtractsExactly (int m) (int n) := by
  have hm : (int m).value? = some (((m : ℚ) : ℝ) : EReal) := by simp [value?_int]
  have hn : (int n).value? = some (((n : ℚ) : ℝ) : EReal) := by simp [value?_int]
  refine .of_rationals rfl hm hn ?_
  change (int (m - n)).value? = _
  rw [value?_int]
  push_cast
  rfl

/-- Nor is a double that is greater than a whole number, but not too great. -/
theorem subtractsExactly_natCast {x : Float} {X : EReal} (hx : (real x).value? = some X)
    (hgreat : X < ((2 ^ 53 : ℚ) : ℝ)) {n : Nat} (hn : ((n : ℝ) : EReal) < X) :
    SubtractsExactly (real x) (int n) := by
  obtain ⟨p, rfl⟩ := Decimal.exists_rational hx (hn.trans' (EReal.bot_lt_coe _)).ne'
    (hgreat.trans (EReal.coe_lt_top _)).ne
  have hp : p < 2 ^ 53 := by exact_mod_cast hgreat
  have hnp : (n : ℚ) < p := by exact_mod_cast hn
  have hbelow : n < 2 ^ 53 := by exact_mod_cast hnp.trans hp
  have hdiff : Json.sub (real x) (int n) = .ok (real (x - Float.ofInt n)) := by
    have hfloat : Number.toFloat (.int n) = .ok (Float.ofInt n) := by
      simp only [Number.toFloat, Decimal.ofInt?_eq hbelow]
    change (Number.toFloat (.int n) >>= fun y => Except.ok (Number.real (x - y))).map
      Number.toJson = _
    rw [hfloat]
    rfl
  have hint : (int n).value? = some (((n : ℚ) : ℝ) : EReal) := by simp [value?_int]
  exact .of_rationals hdiff hx hint (Decimal.value?_sub_natCast hx hp hnp)

end Json

end Compositor
