import Compositor.Text.Blank
import Compositor.Text.Digit

/-!
# Reading numbers

Number text may be surrounded by blanks, may use the decimal digits of any script
and may separate digits by single underscores. What is left is an optional sign
and either digits with an optional point and exponent, or a word for infinity or
NaN. Reading a decimal rounds its exact value to the nearest double.
-/
namespace Compositor.Decimal

/-- The value of ASCII digits read from the left. -/
def ofDigits (digits : List Char) : Nat :=
  digits.foldl (fun v d => 10 * v + (d.toNat - '0'.toNat)) 0

/-- The double nearest to `mantissa * 10 ^ exponent`. Exponents far outside the
range of doubles are answered without computing the power. -/
def toFloat (negative : Bool) (mantissa : Nat) (exponent : Int) : Float :=
  let size := ((toString mantissa).length : Int) + exponent
  let x :=
    if mantissa == 0 || size < -400 then 0.0
    else if 400 < size then 1.0 / 0.0
    else Float.ofScientific mantissa (exponent < 0) exponent.natAbs
  if negative then -x else x

/-- Splits an optional sign off; true stands for minus. -/
def splitSign : List Char → Bool × List Char
  | '-' :: rest => (true, rest)
  | '+' :: rest => (false, rest)
  | cs => (false, cs)

/-- An exponent part, if there is one; it must end the text. -/
def readExponent? : List Char → Option Int
  | [] => some 0
  | c :: rest =>
    let (negative, digits) := splitSign rest
    if (c == 'e' || c == 'E') && !digits.isEmpty && digits.all Char.isDigit then
      let e := (ofDigits digits : Int)
      some (if negative then -e else e)
    else none

/-- Digits with an optional point and exponent. -/
def readUnsigned? (negative : Bool) (cs : List Char) : Option Float :=
  let whole := cs.takeWhile Char.isDigit
  let rest := cs.dropWhile Char.isDigit
  let (places, tail) :=
    match rest with
    | '.' :: more => (more.takeWhile Char.isDigit, more.dropWhile Char.isDigit)
    | _ => ([], rest)
  if whole.isEmpty && places.isEmpty then none
  else
    (readExponent? tail).map fun e =>
      toFloat negative (ofDigits (whole ++ places)) (e - (places.length : Int))

/-- A decimal number, or a word for infinity or NaN in any case, with an optional sign. -/
def readSigned? (cs : List Char) : Option Float :=
  let (negative, body) := splitSign cs
  let word := String.ofList (body.map Char.toLower)
  if word == "inf" || word == "infinity" then
    some (if negative then -1.0 / 0.0 else 1.0 / 0.0)
  else if word == "nan" then some (0.0 / 0.0)
  else readUnsigned? negative body

/-- Digits of any script as ASCII digits, other characters beyond ASCII as a
character that stands in no number. -/
def asciiDigits (cs : List Char) : List Char :=
  cs.map fun c =>
    if c.toNat < 0x80 then c
    else
      match Text.decimalValue? c with
      | some d => Char.ofNat ('0'.toNat + d)
      | none => '?'

/-- Removes single underscores between digits; any other underscore is refused. -/
def joinDigits? (afterDigit : Bool) : List Char → Option (List Char)
  | [] => some []
  | '_' :: d :: rest =>
    if afterDigit && d.isDigit then (joinDigits? true rest).map (d :: ·) else none
  | c :: rest => if c == '_' then none else (joinDigits? c.isDigit rest).map (c :: ·)

/-- The characters of a number text without blanks around it and without separators. -/
def numberChars? (s : String) : Option (List Char) :=
  joinDigits? false (asciiDigits (Text.trimWith Text.isNumberBlank s.toList))

/-- The double that a text stands for. -/
def readFloat? (s : String) : Option Float := (numberChars? s).bind readSigned?

/-- The largest number of digits of an integer that is read. -/
def digitLimit : Nat := 4300

/-- The integer that a text stands for. -/
def readInt? (s : String) : Option Int :=
  (numberChars? s).bind fun cs =>
    let (negative, digits) := splitSign cs
    if digits.isEmpty || !digits.all Char.isDigit || digitLimit < digits.length then none
    else
      let n := (ofDigits digits : Int)
      some (if negative then -n else n)

end Compositor.Decimal
