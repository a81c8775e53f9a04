import Compositor.Decimal.Reading
import Compositor.Fault
import Compositor.Timing.Trim

/-!
# Records

A record is read from the fields of an object. Each field has a reader, which
converts a value if its meaning is clear and complains otherwise. All fields are
read, so that all complaints are reported, in the order of the fields; a rule of
the record itself is looked at only when every field is fine.
-/
namespace Compositor

/-- A value, or everything that is wrong with what was given for it. -/
inductive Checked (α : Type) where
  | valid (a : α)
  | invalid (issues : List Issue)

namespace Checked

protected def map (f : α → β) : Checked α → Checked β
  | .valid a => .valid (f a)
  | .invalid issues => .invalid issues

/-- Applies a function; the complaints of both sides are kept. -/
protected def ap (f : Checked (α → β)) (a : Checked α) : Checked β :=
  match f, a with
  | .valid f, .valid a => .valid (f a)
  | .valid _, .invalid issues => .invalid issues
  | .invalid issues, .valid _ => .invalid issues
  | .invalid first, .invalid second => .invalid (first ++ second)

instance : Applicative Checked where
  pure := .valid
  map := Checked.map
  seq f a := Checked.ap f (a ())

/-- A complaint about the value itself. -/
def complain (c : Complaint) : Checked α := .invalid [⟨[], c⟩]

/-- Places all complaints inside a larger value. -/
def within (place : Place) : Checked α → Checked α
  | .valid a => .valid a
  | .invalid issues => .invalid (issues.map fun i => { i with place := place :: i.place })

/-- Applies a rule to a valid value. -/
def andThen (a : Checked α) (rule : α → Checked β) : Checked β :=
  match a with
  | .valid a => rule a
  | .invalid issues => .invalid issues

/-- Reads every item and keeps the complaints of all of them. -/
def each (read : α → Checked β) : Nat → List α → Checked (List β)
  | _, [] => .valid []
  | i, a :: rest => List.cons <$> (read a).within (.item i) <*> each read (i + 1) rest

def toExcept : Checked α → Except Fault α
  | .valid a => .ok a
  | .invalid issues => .error (.invalid issues)

end Checked

namespace Record

open Checked

/-- The fields of an object, by name. -/
abbrev Fields := List (String × Json)

/-- How a value is read. -/
abbrev Reader (α : Type) := Json → Checked α

/-- A field that has to be given. -/
def required (fields : Fields) (name : String) (read : Reader α) : Checked α :=
  match Json.lookup? fields name with
  | some v => (read v).within (.field name)
  | none => .invalid [⟨[.field name], .missing⟩]

/-- A field with a default, which is taken as it is. -/
def optional (fields : Fields) (name : String) (read : Reader α) (default : α) : Checked α :=
  match Json.lookup? fields name with
  | some v => (read v).within (.field name)
  | none => .valid default

/-- Null stands for nothing. -/
def nullable (read : Reader α) : Reader (Option α)
  | .null => .valid none
  | v => some <$> read v

/-- A field that may be missing or null. -/
def maybe (fields : Fields) (name : String) (read : Reader α) : Checked (Option α) :=
  optional fields name (nullable read) none

def text : Reader String
  | .str s => .valid s
  | _ => complain .stringType

/-- One of several words. -/
def word (ofName? : String → Option α) (complaint : Complaint) : Reader α
  | .str s =>
    match ofName? s with
    | some a => .valid a
    | none => complain complaint
  | _ => complain complaint

/-- The text of a number without blanks around it. -/
def trimmed (s : String) : List Char := Text.trimWith Text.isNumberBlank s.toList

/-- An integer in plain notation: an optional minus and digits without needless zeros
in front. More digits than are ever read are refused as soon as they are seen. -/
def plainInt (cs : List Char) : Except Complaint Int :=
  let (negative, body) : Bool × List Char :=
    match cs with
    | '-' :: rest => (true, rest)
    | _ => (false, cs)
  let digits := body.takeWhile Char.isDigit
  if digits.isEmpty then .error .intParsing
  else if digits.head? == some '0' then
    if body.length == 1 then .ok 0 else .error .intParsing
  else if Decimal.digitLimit < digits.length then .error .intParsingSize
  else if digits.length < body.length then .error .intParsing
  else
    let n := (Decimal.ofDigits digits : Int)
    .ok (if negative then -n else n)

/-- What follows zeros and underscores after a zero; `last` is the character before.
Nothing but these leaves the last character, and a point keeps the one before it. -/
def afterZeros (last : Char) : List Char → Option (List Char)
  | [] => some [last]
  | c :: rest =>
    if c == '0' || c == '_' then afterZeros c rest
    else if c == '-' || c.isDigit then some (c :: rest)
    else if c == '.' then some (last :: c :: rest)
    else none

/-- Text without leading zeros; it has to start like a number. -/
def withoutLeadingZeros : List Char → Option (List Char)
  | '0' :: rest => afterZeros '0' rest
  | c :: rest => if c == '-' || c.isDigit then some (c :: rest) else none
  | [] => none

/-- Text without a point that only zeros follow. -/
def withoutZeroPlaces (cs : List Char) : List Char :=
  let whole := cs.takeWhile (· != '.')
  if (cs.drop (whole.length + 1)).all (· == '0') then whole else cs

/-- Whether underscores stand between other characters only. -/
def isSeparated (cs : List Char) : Bool :=
  cs.head? != some '_' && cs.getLast? != some '_' &&
    (cs.zip (cs.drop 1)).all fun p => p.1 != '_' || p.2 != '_'

/-- The plain notation of an integer that has a plus, leading zeros, zero places or
separators. -/
def plainNotation? (cs : List Char) : Option (List Char) := do
  let unsigned ← match cs with
    | '+' :: '-' :: _ => none
    | '+' :: rest => some rest
    | _ => some cs
  let digits := withoutZeroPlaces (← withoutLeadingZeros unsigned)
  if isSeparated digits then some (digits.filter (· != '_')) else none

/-- The integer that a text stands for. -/
def readInt (s : String) : Checked Int :=
  let cs := trimmed s
  let answer : Except Complaint Int → Checked Int
    | .ok n => .valid n
    | .error c => complain c
  match plainInt cs with
  | .error .intParsing =>
    match plainNotation? cs with
    | some plain => answer (plainInt plain)
    | none => complain .intParsing
  | result => answer result

/-- Whether an integer fits the sixty-four bits that numbers without text have. -/
def isWord (n : Int) : Bool := Int64.minValue.toInt ≤ n && n ≤ Int64.maxValue.toInt

/-- The integer that a double is, if it lies strictly inside the sixty-four bits. -/
def wordOfReal (x : Float) : Except Complaint Int :=
  match Decimal.Dyadic.ofFloat? x with
  | none => .error .finiteNumber
  | some d =>
    if !d.isIntegral then .error .intFromFloat
    else if isWord d.truncate && d.truncate != Int64.minValue.toInt then .ok d.truncate
    else .error .intParsingSize

/-- An integer: also booleans, doubles without fractional part, and text. -/
def int : Reader Int
  | .int n => .valid n
  | .bool b => .valid (if b then 1 else 0)
  | .real x =>
    match wordOfReal x with
    | .ok n => .valid n
    | .error c => complain c
  | .str s => readInt s
  | _ => complain .intType

/-- The double that a text stands for. Separators are looked for in the text with
its blanks, so that a text has one of the two only. -/
def readReal (s : String) : Checked Float :=
  let separated? : Option Float :=
    if isSeparated s.toList then Decimal.readSigned? (s.toList.filter (· != '_')) else none
  match (Decimal.readSigned? (trimmed s)).or separated? with
  | some x => .valid x
  | none => complain .floatParsing

/-- A double: also integers that are not too large for one, booleans, and text. -/
def real : Reader Float
  | .real x => .valid x
  | .bool b => .valid (if b then 1 else 0)
  | .int n =>
    match Decimal.ofInt? n with
    | some x => .valid x
    | none => complain .floatType
  | .str s => readReal s
  | _ => complain .floatType

def falseWords : List String := ["0", "off", "f", "false", "n", "no"]

def trueWords : List String := ["1", "on", "t", "true", "y", "yes"]

def boolOfInt (n : Int) : Checked Bool :=
  if n == 0 then .valid false else if n == 1 then .valid true else complain .boolParsing

/-- A boolean: also the numbers 0 and 1, and some words in any case. -/
def bool : Reader Bool
  | .bool b => .valid b
  | .int n => if isWord n then boolOfInt n else complain .boolType
  | .real x =>
    match wordOfReal x with
    | .ok n => boolOfInt n
    | .error _ => complain .boolType
  | .str s =>
    let word := String.ofList (s.toList.map Char.toLower)
    if falseWords.contains word then .valid false
    else if trueWords.contains word then .valid true
    else complain .boolParsing
  | _ => complain .boolType

/-- The fields of an object. -/
def object (read : Fields → Checked α) : Reader α
  | .obj fields => read fields
  | _ => complain .modelType

/-- The item of a tuple at an index. -/
def item (items : List Json) (i : Nat) (read : Reader α) : Checked α :=
  match items[i]? with
  | some v => (read v).within (.item i)
  | none => .invalid [⟨[.item i], .missing⟩]

/-- A pair of times, of which the second may be null. -/
def trim : Reader (Trim Json)
  | .arr items =>
    if 2 < items.length then complain .tooLong
    else
      (fun start stop => ⟨Json.real start, stop.map Json.real⟩) <$>
        item items 0 real <*> item items 1 (nullable real)
  | _ => complain .tupleType

end Record

end Compositor
