import Compositor.Json.Basic

/-!
# JSON text

Values are written in ASCII, with a space after each comma and colon.
-/
namespace Compositor.Json

/-- The two halves of a character beyond the basic plane. -/
def surrogates (n : Nat) : Nat × Nat :=
  (0xD800 + (n - 0x10000) / 0x400, 0xDC00 + (n - 0x10000) % 0x400)

def escapeUnit (n : Nat) : List Char := '\\' :: 'u' :: Text.hexPadded n 4

def writeChar (c : Char) : List Char :=
  let n := c.toNat
  if c == '"' || c == '\\' then ['\\', c]
  else if c == '\n' then ['\\', 'n']
  else if c == '\r' then ['\\', 'r']
  else if c == '\t' then ['\\', 't']
  else if n == 8 then ['\\', 'b']
  else if n == 12 then ['\\', 'f']
  else if 0x20 ≤ n && n < 0x7F then [c]
  else if n < 0x10000 then escapeUnit n
  else
    let (high, low) := surrogates n
    escapeUnit high ++ escapeUnit low

def writeString (s : String) : String :=
  String.ofList ('"' :: s.toList.flatMap writeChar ++ ['"'])

/-- A double as JSON text; the infinities and NaN have their own words. -/
def writeReal (x : Float) : String :=
  if x.isNaN then "NaN"
  else if x.isInf then (if Decimal.isNegative x then "-Infinity" else "Infinity")
  else Decimal.text x

mutual

def write : Json → String
  | .null => "null"
  | .bool b => if b then "true" else "false"
  | .int n => toString n
  | .real x => writeReal x
  | .str s => writeString s
  | .arr items => "[" ++ writeItems items ++ "]"
  | .obj fields => "\x7b" ++ writeFields fields ++ "\x7d"

def writeItems : List Json → String
  | [] => ""
  | [v] => write v
  | v :: rest => write v ++ ", " ++ writeItems rest

def writeFields : List (String × Json) → String
  | [] => ""
  | [(k, v)] => writeString k ++ ": " ++ write v
  | (k, v) :: rest => writeString k ++ ": " ++ write v ++ ", " ++ writeFields rest

end

end Compositor.Json
