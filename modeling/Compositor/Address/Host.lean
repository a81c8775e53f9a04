import Compositor.Address.Label.Web
import Compositor.Decimal.Reading
import Compositor.Text.Percent
import Compositor.Text.Blank

/-!
# Hosts

The host of a web address is a name, four numbers or a bracketed group of eight.
Each has one normal form: names in ASCII, numbers in decimal, and groups in
hexadecimal with the longest run of zeros left out.
-/
namespace Compositor.Address.Host

/-- Characters that no name may hold. -/
def isForbidden (c : Char) : Bool :=
  c.toNat ≤ 0x20 || c.toNat == 0x7F || "#%/:<>?@[\\]^|".toList.contains c

/-- A number in decimal, in octal after a zero, or in hexadecimal after `0x`. -/
def readPart? (cs : List Char) : Option Nat :=
  let (base, digits) : Nat × List Char :=
    match cs with
    | '0' :: 'x' :: rest | '0' :: 'X' :: rest => (16, rest)
    | '0' :: d :: rest => (8, d :: rest)
    | _ => (10, cs)
  if cs.isEmpty then none
  else
    digits.foldl (fun acc c => do
      let v ← acc
      let d ← Text.hexValue? c
      if d < base then some (v * base + d) else none) (some 0)

/-- The parts of a name without an empty last one. -/
def numericParts (cs : List Char) : List (List Char) :=
  let parts := Text.pieces (· == '.') cs
  if parts.getLast? == some [] && 1 < parts.length then parts.dropLast else parts

/-- Whether the last part of a name is a number, so that all of them have to be. -/
def endsInNumber (cs : List Char) : Bool :=
  match (numericParts cs).getLast? with
  | some [] | none => false
  | some last => last.all Char.isDigit || (readPart? last).isSome

/-- The four bytes of up to four numbers, of which the last fills all that is left. -/
def readFour? (cs : List Char) : Option Nat := do
  let numbers ← (numericParts cs).mapM readPart?
  let last ← numbers.getLast?
  let front := numbers.dropLast
  if 4 < numbers.length || front.any (255 < ·) || Nat.pow 256 (5 - numbers.length) ≤ last then none
  else
    let places := (List.range front.length).map fun i => Nat.pow 256 (3 - i)
    some ((front.zip places).foldl (fun n p => n + p.1 * p.2) last)

def fourText (n : Nat) : String :=
  String.intercalate "." ([n / Nat.pow 256 3, n / Nat.pow 256 2 % 256, n / 256 % 256, n % 256].map
    toString)

/-- Four decimal numbers of at most 255 without leading zeros, as two groups. -/
def trailingFour? (cs : List Char) : Option (List Nat) := do
  let numbers ← (Text.pieces (· == '.') cs).mapM fun part =>
    if part.isEmpty || !part.all Char.isDigit || 3 < part.length then none
    else if part.length != 1 && part.head? == some '0' then none
    else
      let n := Decimal.ofDigits part
      if n ≤ 255 then some n else none
  match numbers with
  | [a, b, c, d] => some [a * 256 + b, c * 256 + d]
  | _ => none

/-- A group of up to four hexadecimal digits. -/
def readGroup? (part : List Char) : Option (List Nat) :=
  if part.isEmpty || 4 < part.length then none
  else (part.mapM Text.hexValue?).map fun ds => [ds.foldl (fun v d => v * 16 + d) 0]

/-- Groups between colons; the last may be four decimal numbers. -/
def readGroups? (four? : List Char → Option (List Nat)) (cs : List Char) :
    Option (List Nat) :=
  if cs.isEmpty then some []
  else
    let parts := Text.pieces (· == ':') cs
    do
      let first ← parts.dropLast.mapM readGroup?
      let last ← parts.getLast?
      let last ← if last.contains '.' then four? last else readGroup? last
      some (first.flatten ++ last)

/-- Splits at the first pair of colons. -/
def splitGap? : List Char → Option (List Char × List Char)
  | ':' :: ':' :: rest => some ([], rest)
  | c :: rest => (splitGap? rest).map fun (a, b) => (c :: a, b)
  | [] => none

/-- Eight groups, or fewer around one gap that stands for groups of zero. -/
def readEight? (four? : List Char → Option (List Nat)) (cs : List Char) :
    Option (List Nat) := do
  match splitGap? cs with
  | some (before, after) =>
    let front ← readGroups? four? before
    let back ← readGroups? four? after
    if 8 ≤ front.length + back.length || before.contains '.' then none
    else some (front ++ List.replicate (8 - front.length - back.length) 0 ++ back)
  | none =>
    let groups ← readGroups? four? cs
    if groups.length == 8 then some groups else none

/-- The start and length of the first longest run of zeros that has two groups or more. -/
def longestGap (groups : List Nat) : Option (Nat × Nat) :=
  let runs := (List.range groups.length).map fun i =>
    (i, ((groups.drop i).takeWhile (· == 0)).length)
  runs.foldl (fun best run =>
    match best with
    | some b => if b.2 < run.2 then some run else best
    | none => if 2 ≤ run.2 then some run else none) none

def hexGroup (n : Nat) : String :=
  String.ofList (match (Text.hexPadded n 4).dropWhile (· == '0') with
    | [] => ['0']
    | ds => ds)

def eightText (groups : List Nat) : String :=
  let joined (gs : List Nat) := String.intercalate ":" (gs.map hexGroup)
  match longestGap groups with
  | some (start, size) => joined (groups.take start) ++ "::" ++ joined (groups.drop (start + size))
  | none => joined groups

/-- The normal form of the host of a web address. -/
def normal? (cs : List Char) : Option String :=
  match cs with
  | '[' :: rest =>
    if rest.getLast? == some ']' then
      (readEight? trailingFour? rest.dropLast).map fun gs => "[" ++ eightText gs ++ "]"
    else none
  | _ =>
    match Label.webName? (Text.Utf8.decodeLossy (Text.Percent.decodeBytes cs)).toList with
    | none => none
    | some name =>
      if name.isEmpty || name.any isForbidden then none
      else if endsInNumber name then (readFour? name).map fourText
      else some (String.ofList name)

end Compositor.Address.Host
