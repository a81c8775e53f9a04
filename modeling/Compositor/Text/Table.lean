import Compositor.Text.Hex
import Compositor.Text.Blank

/-!
# Tables of characters

A table is text: entries in hexadecimal between blanks. `41-5a` is a range of
characters and `ab` is one character. `/2` after a range takes every second
character of it. `=` and what follows gives values to the characters of the entry.
-/
namespace Compositor.Text

/-- The characters from `first` to `last` in steps, with the values they have. -/
structure TableEntry where
  first : Nat
  last : Nat
  step : Nat
  values : List Nat
  deriving DecidableEq, Repr

/-- A number in hexadecimal; other characters count as zeros. -/
def hexNumber (cs : List Char) : Nat :=
  cs.foldl (fun n c => 16 * n + (hexValue? c).getD 0) 0

namespace TableEntry

def ofWord (word : List Char) : TableEntry :=
  let characters := word.takeWhile (· != '=')
  let values := (word.drop characters.length).drop 1
  let range := characters.takeWhile (· != '/')
  let step := (characters.drop range.length).drop 1
  let first := range.takeWhile (· != '-')
  let last := (range.drop first.length).drop 1
  { first := hexNumber first
    last := hexNumber (if last.isEmpty then first else last)
    step := if step.isEmpty then 1 else hexNumber step
    values := if values.isEmpty then [] else (pieces (· == ',') values).map hexNumber }

/-- Whether an entry is about a character; a step of zero takes all of its range. -/
def covers (e : TableEntry) (n : Nat) : Bool :=
  e.first ≤ n && n ≤ e.last && (e.step ≤ 1 || (n - e.first) % e.step == 0)

end TableEntry

/-- The entries of a table. -/
def tableOf (table : String) : List TableEntry :=
  ((pieces (fun c => c == ' ' || c == '\n') table.toList).filter (!·.isEmpty)).map
    TableEntry.ofWord

/-- The entry of a table about a character. -/
def entryFor? (table : List TableEntry) (c : Char) : Option TableEntry :=
  table.find? (·.covers c.toNat)

def isInTable (table : List TableEntry) (c : Char) : Bool := (entryFor? table c).isSome

end Compositor.Text
