import Compositor.Decimal.Shortest

/-!
# Doubles with a fixed number of places

The exact binary value is rounded once, to the nearest multiple of the last
place, and a value halfway between two of them goes to the even one.
-/
namespace Compositor.Decimal

/-- The integer nearest to `num / den`; halfway cases go to the even neighbour. -/
def roundDiv (num den : Nat) : Nat :=
  let below := num / den
  let rest := num % den
  if 2 * rest < den then below
  else if den < 2 * rest then below + 1
  else if below % 2 == 0 then below else below + 1

/-- Digits with the last `places` of them behind a point. -/
def pointed (n places : Nat) : String :=
  let digits := toString n
  let padded := (Scaled.zeros (places + 1 - digits.length) ++ digits).toList
  let whole := padded.length - places
  String.ofList (padded.take whole) ++
    (if places == 0 then "" else "." ++ String.ofList (padded.drop whole))

/-- A double with exactly `places` digits after the point. -/
def fixedText (x : Float) (places : Nat) : String :=
  (if isNegative x then "-" else "") ++
    match Dyadic.ofFloat? x with
    | some d => pointed (roundDiv (d.fraction.1 * Nat.pow 10 places) d.fraction.2) places
    | none => if x.isNaN then "nan" else "inf"

end Compositor.Decimal
