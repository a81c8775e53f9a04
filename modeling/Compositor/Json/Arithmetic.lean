import Compositor.Fault

/-!
# Arithmetic on values kept as given

Settings are not converted when they are set, so a rule that computes with one
has to say what happens for every kind of value. Booleans count as the integers
0 and 1, integers are exact, and an integer that meets a double is rounded to a
double first, unless the two are only compared.
-/
namespace Compositor

/-- A number: an exact integer or a double. -/
inductive Number where
  | int (n : Int)
  | real (x : Float)
  deriving DecidableEq, Repr

namespace Number

/-- The double nearest to a number, unless the number is too large for one. -/
def toFloat : Number → Except Fault Float
  | .int n =>
    match Decimal.ofInt? n with
    | some x => .ok x
    | none => .error .overflow
  | .real x => .ok x

def toJson : Number → Json
  | .int n => .int n
  | .real x => .real x

/-- The exact order of an integer and a double; NaN and only NaN has none. -/
def compareIntReal (n : Int) (x : Float) : Option Ordering :=
  match Decimal.Dyadic.ofFloat? x with
  | some d => some (d.compareInt n).swap
  | none => if x.isNaN then none else if Decimal.isNegative x then some .gt else some .lt

def less : Number → Number → Bool
  | .int a, .int b => a < b
  | .real a, .real b => a < b
  | .int a, .real b => compareIntReal a b == some .lt
  | .real a, .int b => compareIntReal b a == some .gt

/-- Combines two numbers exactly when both are integers, as doubles otherwise. -/
def combine (exact : Int → Int → Int) (rounded : Float → Float → Float) :
    Number → Number → Except Fault Number
  | .int a, .int b => .ok (.int (exact a b))
  | a, b => do
    let x ← a.toFloat
    let y ← b.toFloat
    .ok (.real (rounded x y))

def add : Number → Number → Except Fault Number := combine (· + ·) (· + ·)

def sub : Number → Number → Except Fault Number := combine (· - ·) (· - ·)

/-- The largest integer that is not above a double; the infinities and NaN have none. -/
def floor (x : Float) : Except Fault Int :=
  match Decimal.Dyadic.ofFloat? x with
  | some d => .ok d.floor
  | none => .error (if x.isNaN then .wrongValue else .overflow)

/-- The integer part of a double. -/
def truncate (x : Float) : Except Fault Int :=
  match Decimal.Dyadic.ofFloat? x with
  | some d => .ok d.truncate
  | none => .error (if x.isNaN then .wrongValue else .overflow)

end Number

namespace Json

/-- The number that a value is. -/
def number? : Json → Option Number
  | .bool b => some (.int (if b then 1 else 0))
  | .int n => some (.int n)
  | .real x => some (.real x)
  | _ => none

def toNumber (v : Json) : Except Fault Number :=
  match v.number? with
  | some n => .ok n
  | none => .error .wrongType

mutual

/-- The order of two values. Numbers, strings and arrays have one among themselves. -/
def less : Json → Json → Except Fault Bool
  | .str a, .str b => .ok (a < b)
  | .arr a, .arr b => lessItems a b
  | a, b => do
    let m ← a.toNumber
    let n ← b.toNumber
    .ok (m.less n)

def lessItems : List Json → List Json → Except Fault Bool
  | [], [] => .ok false
  | [], _ :: _ => .ok true
  | _ :: _, [] => .ok false
  | a :: as, b :: bs => if same a b then lessItems as bs else less a b

/-- Whether two values are equal, numbers by value. -/
def same : Json → Json → Bool
  | .null, .null => true
  | .str a, .str b => a == b
  | .arr a, .arr b => sameItems a b
  | .obj a, .obj b => a.length == b.length && sameFields a b
  | a, b =>
    match a.number?, b.number? with
    | some (.int m), some (.int n) => m == n
    | some (.real x), some (.real y) => x == y
    | some (.int m), some (.real y) => Number.compareIntReal m y == some .eq
    | some (.real x), some (.int n) => Number.compareIntReal n x == some .eq
    | _, _ => false

def sameItems : List Json → List Json → Bool
  | [], [] => true
  | a :: as, b :: bs => same a b && sameItems as bs
  | _, _ => false

def sameFields : List (String × Json) → List (String × Json) → Bool
  | [], _ => true
  | (k, v) :: rest, fields =>
    (match lookup? fields k with
      | some w => same v w
      | none => false) && sameFields rest fields

end

def add (a b : Json) : Except Fault Json := do
  let m ← a.toNumber
  let n ← b.toNumber
  (m.add n).map Number.toJson

def sub (a b : Json) : Except Fault Json := do
  let m ← a.toNumber
  let n ← b.toNumber
  (m.sub n).map Number.toJson

/-- A number with its sign, plus included. An integer is written out however long it is. -/
def signedText : Json → Except Fault String
  | .real x => .ok (Decimal.signedText x)
  | .str _ => .error .wrongValue
  | v => do
    match ← v.toNumber with
    | .int n => .ok ((if n < 0 then "" else "+") ++ toString n)
    | .real x => .ok (Decimal.signedText x)

/-- A number with one place after the point. -/
def onePlaceText : Json → Except Fault String
  | .str _ => .error .wrongValue
  | v => do
    let x ← (← v.toNumber).toFloat
    .ok (Decimal.fixedText x 1)

/-- A number forced into the unit interval, as a double. NaN counts as one. -/
def clampUnit (v : Json) : Except Fault Float := do
  match ← v.toNumber with
  | .int n => .ok (if n < 1 then 0.0 else 1.0)
  | .real x =>
    let capped := if x < 1.0 then x else 1.0
    .ok (if 0.0 < capped then capped else 0.0)

end Json

end Compositor
