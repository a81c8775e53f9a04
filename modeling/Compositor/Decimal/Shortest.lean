import Compositor.Decimal.Binary64

/-!
# The shortest decimal of a double

`Dyadic.shortest` gives the fewest digits that read back as the same double and,
among those, the digits nearest to its exact value. The search runs over decimal
grids from coarse to fine: the first grid with a point inside the rounding
interval wins, and only the two grid points around the value need a test.
`Style` holds how those digits are then laid out as text.
-/
namespace Compositor.Decimal

/-- A decimal `digits * 10 ^ exponent` without sign. -/
structure Scaled where
  digits : Nat
  exponent : Int
  deriving DecidableEq, Repr

namespace Dyadic

/-- The rounding interval in quarter units of the last place: the distance of
its lower end is halved where the spacing of doubles changes. -/
def lowerQuarters (d : Dyadic) : Nat :=
  if d.mantissa == Nat.pow 2 52 && d.exponent != leastExponent then 1 else 2

/-- A grid point inside the rounding interval, nearest to the value, on the
grid of multiples of `10 ^ t`. The ends of the interval belong to it when the
significand is even. -/
def pointOnGrid? (d : Dyadic) (t : Int) : Option Nat :=
  let e := d.exponent - 2
  let grid := Nat.pow 10 t.toNat * Nat.pow 2 (-e).toNat
  let unit := Nat.pow 2 e.toNat * Nat.pow 10 (-t).toNat
  let value := 4 * d.mantissa * unit
  let low := (4 * d.mantissa - d.lowerQuarters) * unit
  let high := (4 * d.mantissa + 2) * unit
  let inside (n : Nat) : Bool :=
    if d.mantissa % 2 == 0 then low ≤ n * grid && n * grid ≤ high
    else low < n * grid && n * grid < high
  let below := value / grid
  let above := below + 1
  let gapBelow := value - below * grid
  let gapAbove := above * grid - value
  match inside below && below != 0, inside above with
  | true, true =>
    if gapBelow < gapAbove then some below
    else if gapAbove < gapBelow then some above
    else if below % 2 == 0 then some below else some above
  | true, false => some below
  | false, true => some above
  | false, false => none

/-- The first grid, from `10 ^ t` downward, that has a point for the value. -/
def searchGrids (d : Dyadic) : Nat → Int → Scaled
  | 0, t => ⟨d.fraction.1 * Nat.pow 10 (-t).toNat / (d.fraction.2 * Nat.pow 10 t.toNat), t⟩
  | steps + 1, t =>
    match d.pointOnGrid? t with
    | some n => ⟨n, t⟩
    | none => d.searchGrids steps (t - 1)

/-- The shortest decimal that reads back as the value. Zero is `0 * 10 ^ 0`.
The first grid tried is at least as coarse as the value is large, and some grid
of seventeen digits always has a point, so forty steps are enough. -/
def shortest (d : Dyadic) : Scaled :=
  if d.mantissa == 0 then ⟨0, 0⟩
  else
    let binary := d.exponent + (Nat.log2 d.mantissa : Int) + 1
    d.searchGrids 40 (Int.fdiv (binary * 30103) 100000 + 2)

end Dyadic

/-- How the digits of a double become text. -/
structure Style where
  /-- The least decimal exponent of the first digit that is written without an exponent. -/
  positionalFrom : Int
  /-- The first decimal exponent of the first digit that needs an exponent. -/
  positionalBelow : Int
  /-- The least number of digits of a written exponent. -/
  exponentDigits : Nat

/-- Numbers from `0.0001` up to sixteen integer digits are written positionally,
always with a point; an exponent has a sign and at least two digits. -/
def Style.plain : Style := ⟨-4, 16, 2⟩

namespace Scaled

/-- The decimal exponent of the first digit. -/
def leading (s : Scaled) : Int :=
  s.exponent + ((toString s.digits).length : Int) - 1

def zeros (n : Nat) : String := String.ofList (List.replicate n '0')

/-- Positional text, with a point and at least one digit on both sides of it. -/
def positional (s : Scaled) : String :=
  let digits := (toString s.digits).toList
  let point := s.leading + 1
  if point ≤ 0 then "0." ++ zeros (-point).toNat ++ String.ofList digits
  else
    let whole := digits.take point.toNat
    let rest := digits.drop point.toNat
    let padding := zeros (point.toNat - digits.length)
    String.ofList whole ++ padding ++ "." ++
      (if rest.isEmpty then "0" else String.ofList rest)

/-- One digit before the point and an exponent after the digits. -/
def scientific (style : Style) (s : Scaled) : String :=
  let digits := (toString s.digits).toList
  let size := toString s.leading.natAbs
  let exponent := zeros (style.exponentDigits - size.length) ++ size
  let sign := if s.leading < 0 then "-" else "+"
  String.ofList (digits.take 1) ++
    (if digits.length ≤ 1 then "" else "." ++ String.ofList (digits.drop 1)) ++
    "e" ++ sign ++ exponent

def text (style : Style) (s : Scaled) : String :=
  if style.positionalFrom ≤ s.leading && s.leading < style.positionalBelow then s.positional
  else s.scientific style

end Scaled

/-- The absolute value of a double as text. -/
def magnitudeText (x : Float) : String :=
  match Dyadic.ofFloat? x with
  | some d => d.shortest.text Style.plain
  | none => if x.isNaN then "nan" else "inf"

/-- Whether a double is written with a minus sign; zero keeps its sign, NaN has none. -/
def isNegative (x : Float) : Bool :=
  !x.isNaN && x.toBits.toNat / Nat.pow 2 63 == 1

/-- The shortest text that reads back as the double. -/
def text (x : Float) : String :=
  (if isNegative x then "-" else "") ++ magnitudeText x

/-- As `text`, but a number that is not negative carries a plus sign. -/
def signedText (x : Float) : String :=
  (if isNegative x then "-" else "+") ++ magnitudeText x

end Compositor.Decimal
