import Compositor.Decimal.Reading
import Compositor.Json.Arithmetic

/-!
# Conversions

Documents of other programs write numbers as numbers or as text. Text is read, a
double loses its fractional part where an integer is wanted, and what is no
number is refused. Arrays are not the only values with items: text is a row of
characters, and an object is the row of its names. Rules that take a pair apart
accept all of them.
-/
namespace Compositor.Json

/-- The double that a value stands for. -/
def toReal : Json → Except Fault Float
  | .str s =>
    match Decimal.readFloat? s with
    | some x => .ok x
    | none => .error .wrongValue
  | v => do (← v.toNumber).toFloat

/-- The integer that a value stands for. -/
def toInt : Json → Except Fault Int
  | .str s =>
    match Decimal.readInt? s with
    | some n => .ok n
    | none => .error .wrongValue
  | v => do
    match ← v.toNumber with
    | .int n => .ok n
    | .real x => Number.truncate x

/-- The items of a value in order. Numbers, booleans and null have none. -/
def items : Json → Except Fault (List Json)
  | .arr items => .ok items
  | .str s => .ok (s.toList.map fun c => .str (String.ofList [c]))
  | .obj fields => .ok (fields.map fun f => .str f.1)
  | _ => .error .wrongType

/-- The two items of a value that has exactly two. -/
def pair (v : Json) : Except Fault (Json × Json) := do
  match ← v.items with
  | [a, b] => .ok (a, b)
  | _ => .error .wrongValue

/-- An item that may be missing: null stands for nothing. -/
def some? : Json → Option Json
  | .null => none
  | v => some v

end Compositor.Json
