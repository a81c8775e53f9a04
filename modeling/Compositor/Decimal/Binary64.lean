/-!
# Doubles as exact fractions

A finite double is an integer times a power of two. Every rule of this library
that looks at the exact value of a double (its decimal text, its comparison with
an integer, its floor) works on the decomposition given here.
-/
namespace Compositor.Decimal

/-- The value `mantissa * 2 ^ exponent`, negated when `negative`. -/
structure Dyadic where
  negative : Bool
  mantissa : Nat
  exponent : Int
  deriving DecidableEq, Repr

namespace Dyadic

/-- The number of significand bits of a double, the implied leading one included. -/
def significandBits : Nat := 53

/-- The exponent of the smallest positive double. -/
def leastExponent : Int := -1074

/-- The decomposition of a finite double; infinities and NaN have none. -/
def ofFloat? (x : Float) : Option Dyadic :=
  let bits := x.toBits.toNat
  let negative := bits / Nat.pow 2 63 == 1
  let biased : Nat := bits / Nat.pow 2 52 % Nat.pow 2 11
  let trailing : Nat := bits % Nat.pow 2 52
  if biased == 2047 then none
  else if biased == 0 then some ⟨negative, trailing, leastExponent⟩
  else some ⟨negative, Nat.pow 2 52 + trailing, (biased : Int) - 1075⟩

/-- The absolute value as a numerator over a positive denominator. -/
def fraction (d : Dyadic) : Nat × Nat :=
  match d.exponent with
  | .ofNat e => (d.mantissa * Nat.pow 2 e, 1)
  | .negSucc e => (d.mantissa, Nat.pow 2 (e + 1))

/-- The signed numerator over the denominator of `fraction`. -/
def numerator (d : Dyadic) : Int :=
  if d.negative then -(d.fraction.1 : Int) else (d.fraction.1 : Int)

/-- The largest integer that is not above the value. -/
def floor (d : Dyadic) : Int := Int.fdiv d.numerator d.fraction.2

/-- The integer part, toward zero. -/
def truncate (d : Dyadic) : Int := Int.tdiv d.numerator d.fraction.2

/-- Whether the value has no fractional part. -/
def isIntegral (d : Dyadic) : Bool := d.fraction.1 % d.fraction.2 == 0

/-- The order of the value against an integer, decided exactly. -/
def compareInt (d : Dyadic) (n : Int) : Ordering :=
  compare d.numerator (n * (d.fraction.2 : Int))

theorem fraction_den_pos (d : Dyadic) : 0 < d.fraction.2 := by
  unfold fraction
  split
  · exact Nat.one_pos
  · exact Nat.pow_pos (by decide)

end Dyadic

/-- The double nearest to an integer, or nothing when it lies beyond the largest one. -/
def ofInt? (n : Int) : Option Float :=
  let x := Float.ofInt n
  if x.isFinite then some x else none

end Compositor.Decimal
