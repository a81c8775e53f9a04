import Compositor.Decimal.Reading
import Compositor.Json.Basic

/-!
# Reading JSON text

The reader walks a position through the text. It also accepts the words `NaN`,
`Infinity` and `-Infinity`; of fields with one name the last one counts, at the
place of the first. An error says what was expected and where.
-/
namespace Compositor

/-- Why a text is no JSON document; positions count characters from the start. -/
inductive JsonError where
  | byteOrderMark
  | value (at_ : Nat)
  | property (at_ : Nat)
  | colon (at_ : Nat)
  | comma (at_ : Nat)
  | unterminated (at_ : Nat)
  | control (at_ : Nat)
  | escape (at_ : Nat)
  | unicodeEscape (at_ : Nat)
  | extra (at_ : Nat)
  /-- An integer has more digits than are read. -/
  | tooLong
  /-- The document is nested deeper than there is room for. -/
  | tooDeep
  deriving DecidableEq, Repr

namespace JsonError

def position : JsonError → Nat
  | .byteOrderMark | .tooLong | .tooDeep => 0
  | .value p | .property p | .colon p | .comma p | .unterminated p | .control p
  | .escape p | .unicodeEscape p | .extra p => p

def expectation : JsonError → String
  | .byteOrderMark => "Unexpected UTF-8 BOM (decode using utf-8-sig)"
  | .value _ => "Expecting value"
  | .property _ => "Expecting property name enclosed in double quotes"
  | .colon _ => "Expecting ':' delimiter"
  | .comma _ => "Expecting ',' delimiter"
  | .unterminated _ => "Unterminated string starting at"
  | .control _ => "Invalid control character at"
  | .escape _ => "Invalid \\escape"
  | .unicodeEscape _ => "Invalid \\uXXXX escape"
  | .extra _ => "Extra data"
  | .tooLong => "Exceeds the limit of digits for an integer"
  | .tooDeep => "Exceeds the depth of nesting"

/-- The expectation with line, column and position, lines and columns counted from one. -/
def message (e : JsonError) (source : String) : String :=
  let before := source.toList.take e.position
  let line := before.count '\n' + 1
  let column := (before.reverse.takeWhile (· != '\n')).length + 1
  e.expectation ++ ": line " ++ toString line ++ " column " ++ toString column ++
    " (char " ++ toString e.position ++ ")"

end JsonError

namespace Json

/-- What is left to read: the position of the next character, and the characters. -/
structure Rest where
  at_ : Nat
  chars : List Char

namespace Rest

def drop (r : Rest) (n : Nat) : Rest := ⟨r.at_ + n, r.chars.drop n⟩

def isSpace (c : Char) : Bool := c == ' ' || c == '\t' || c == '\n' || c == '\r'

def skipSpace (r : Rest) : Rest := r.drop (r.chars.takeWhile isSpace).length

end Rest

def hexQuad? (cs : List Char) : Option Nat :=
  match cs with
  | [a, b, c, d] => do
    let a ← Text.hexValue? a
    let b ← Text.hexValue? b
    let c ← Text.hexValue? c
    let d ← Text.hexValue? d
    some (((a * 16 + b) * 16 + c) * 16 + d)
  | _ => none

def isHighSurrogate (n : Nat) : Bool := 0xD800 ≤ n && n < 0xDC00

def isLowSurrogate (n : Nat) : Bool := 0xDC00 ≤ n && n < 0xE000

/-- The character of an escape of four digits; half of a pair stands for no character. -/
def unicodeChar (n : Nat) : Char :=
  if isHighSurrogate n || isLowSurrogate n then '\uFFFD' else Char.ofNat n

/-- The character after a backslash that is not `u`. -/
def simpleEscape? : Char → Option Char
  | '"' => some '"'
  | '\\' => some '\\'
  | '/' => some '/'
  | 'b' => some '\x08'
  | 'f' => some '\x0c'
  | 'n' => some '\n'
  | 'r' => some '\r'
  | 't' => some '\t'
  | _ => none

/-- The four digits of an escape whose backslash is at `p`. A character must
follow them, since a string cannot end with its escape. -/
def readUnicode (p : Nat) (digits : List Char) : Except JsonError Nat :=
  if digits.length < 5 then .error (.unicodeEscape (p + 1))
  else
    match hexQuad? (digits.take 4) with
    | some n => .ok n
    | none => .error (.unicodeEscape (p + 1))

/-- The second half of a pair, if one follows. -/
def readLowHalf (p : Nat) (cs : List Char) : Except JsonError (Option Nat) :=
  match cs with
  | '\\' :: 'u' :: digits =>
    if digits.length < 5 then .ok none
    else
      match hexQuad? (digits.take 4) with
      | some n => .ok (if isLowSurrogate n then some n else none)
      | none => .error (.unicodeEscape (p + 1))
  | _ => .ok none

/-- Reads a string after its opening quote, which is at `start`. The fuel bounds
the number of characters. -/
def readString (start : Nat) : Nat → List Char → Rest → Except JsonError (String × Rest)
  | 0, _, _ => .error (.unterminated start)
  | fuel + 1, acc, ⟨p, cs⟩ =>
    match cs with
    | [] => .error (.unterminated start)
    | '"' :: rest => .ok (String.ofList acc.reverse, ⟨p + 1, rest⟩)
    | '\\' :: rest =>
      match rest with
      | [] => .error (.unterminated start)
      | 'u' :: digits => do
        let n ← readUnicode p digits
        let after := digits.drop 4
        let low ← if isHighSurrogate n then readLowHalf (p + 6) after else .ok none
        match low with
        | some low =>
          let c := Char.ofNat (0x10000 + (n - 0xD800) * 0x400 + (low - 0xDC00))
          readString start fuel (c :: acc) ⟨p + 12, after.drop 6⟩
        | none => readString start fuel (unicodeChar n :: acc) ⟨p + 6, after⟩
      | c :: rest =>
        match simpleEscape? c with
        | some c => readString start fuel (c :: acc) ⟨p + 2, rest⟩
        | none => .error (.escape p)
    | c :: rest =>
      if c.toNat ≤ 0x1F then .error (.control p)
      else readString start fuel (c :: acc) ⟨p + 1, rest⟩

/-- The fractional part of a number: a point must be followed by a digit. -/
def takePlaces (cs : List Char) : List Char :=
  match cs with
  | '.' :: d :: rest => if d.isDigit then '.' :: d :: rest.takeWhile Char.isDigit else []
  | _ => []

/-- The exponent of a number, which needs a digit. -/
def takeExponent (cs : List Char) : List Char :=
  match cs with
  | e :: rest =>
    if e == 'e' || e == 'E' then
      let sign := match rest with
        | '+' :: _ => ['+']
        | '-' :: _ => ['-']
        | _ => []
      let digits := (rest.drop sign.length).takeWhile Char.isDigit
      if digits.isEmpty then [] else e :: sign ++ digits
    else []
  | [] => []

/-- Integer digits: a zero stands alone. -/
def takeWhole (cs : List Char) : List Char :=
  match cs with
  | '0' :: _ => ['0']
  | _ => cs.takeWhile Char.isDigit

def readNumber (r : Rest) : Except JsonError (Json × Rest) :=
  let (negative, body) := match r.chars with
    | '-' :: rest => (true, rest)
    | cs => (false, cs)
  let whole := takeWhole body
  let places := takePlaces (body.drop whole.length)
  let exponent := takeExponent (body.drop (whole.length + places.length))
  let size := whole.length + places.length + exponent.length
  let next := r.drop (size + if negative then 1 else 0)
  if whole.isEmpty then .error (.value r.at_)
  else if places.isEmpty && exponent.isEmpty then
    if Decimal.digitLimit < whole.length then .error .tooLong
    else
      let n := (Decimal.ofDigits whole : Int)
      .ok (.int (if negative then -n else n), next)
  else
    match Decimal.readUnsigned? negative (body.take size) with
    | some x => .ok (.real x, next)
    | none => .error (.value r.at_)

/-- A word of the format at the start of the text. -/
def readWord? (r : Rest) : Option (Json × Rest) :=
  let words : List (String × Json) :=
    [("null", .null), ("true", .bool true), ("false", .bool false), ("NaN", .real (0.0 / 0.0)),
      ("Infinity", .real (1.0 / 0.0)), ("-Infinity", .real (-1.0 / 0.0))]
  (words.find? fun w => w.1.toList.isPrefixOf r.chars).map fun w => (w.2, r.drop w.1.length)

/-- Adds a field, in the place of an earlier one of the same name if there is one. -/
def putField (fields : List (String × Json)) (name : String) (v : Json) : List (String × Json) :=
  if fields.any fun f => f.1 == name then
    fields.map fun f => if f.1 == name then (name, v) else f
  else fields ++ [(name, v)]

mutual

/-- Reads one value; the fuel bounds the nesting and the number of items together, and
`room` is how many arrays and objects may still be opened inside of each other. -/
def readValue : Nat → Nat → Rest → Except JsonError (Json × Rest)
  | _, 0, r => .error (.value r.at_)
  | room, fuel + 1, r =>
    match r.chars with
    | [] => .error (.value r.at_)
    | '"' :: _ => do
      let (s, next) ← readString r.at_ r.chars.length [] (r.drop 1)
      .ok (.str s, next)
    | '\x7b' :: _ =>
      match room with
      | 0 => .error .tooDeep
      | room + 1 =>
        let inner := (r.drop 1).skipSpace
        match inner.chars with
        | '\x7d' :: _ => .ok (.obj [], inner.drop 1)
        | _ => readFields room fuel [] inner
    | '[' :: _ =>
      match room with
      | 0 => .error .tooDeep
      | room + 1 =>
        let inner := (r.drop 1).skipSpace
        match inner.chars with
        | ']' :: _ => .ok (.arr [], inner.drop 1)
        | _ => readItems room fuel [] inner
    | _ =>
      match readWord? r with
      | some found => .ok found
      | none => readNumber r

/-- Reads the fields of an object from the next name on. -/
def readFields : Nat → Nat → List (String × Json) → Rest → Except JsonError (Json × Rest)
  | _, 0, _, r => .error (.property r.at_)
  | room, fuel + 1, fields, r =>
    match r.chars with
    | '"' :: _ => do
      let (name, next) ← readString r.at_ r.chars.length [] (r.drop 1)
      let next := next.skipSpace
      match next.chars with
      | ':' :: _ => do
        let (v, next) ← readValue room fuel (next.drop 1).skipSpace
        let next := next.skipSpace
        let fields := putField fields name v
        match next.chars with
        | '\x7d' :: _ => .ok (.obj fields, next.drop 1)
        | ',' :: _ => readFields room fuel fields (next.drop 1).skipSpace
        | _ => .error (.comma next.at_)
      | _ => .error (.colon next.at_)
    | _ => .error (.property r.at_)

/-- Reads the items of an array from the next item on. -/
def readItems : Nat → Nat → List Json → Rest → Except JsonError (Json × Rest)
  | _, 0, _, r => .error (.value r.at_)
  | room, fuel + 1, items, r => do
    let (v, next) ← readValue room fuel r
    let next := next.skipSpace
    let items := items ++ [v]
    match next.chars with
    | ']' :: _ => .ok (.arr items, next.drop 1)
    | ',' :: _ => readItems room fuel items (next.drop 1).skipSpace
    | _ => .error (.comma next.at_)

end

/-- Reads a whole document, in which arrays and objects are nested no deeper than there is
room for. Each value, name and item takes at least one character, so the length of the
text bounds the fuel. -/
def read (source : String) (room : Nat := source.length) : Except JsonError Json :=
  match source.toList with
  | '\uFEFF' :: _ => .error .byteOrderMark
  | cs => do
    let (v, next) ← readValue room (2 * cs.length + 2) (Rest.mk 0 cs).skipSpace
    let next := next.skipSpace
    if next.chars.isEmpty then .ok v else .error (.extra next.at_)

end Json

end Compositor
