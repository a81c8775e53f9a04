/-!
# Blanks and marks

Three sets of blanks are in use: those of general text, those that may surround
a number, and those of the Unicode property White_Space. They differ in the four
ASCII separators U+001C to U+001F only.

Marks divide a text into pieces: one more than there are marks, some maybe empty.
-/
namespace Compositor.Text

/-- The blanks beyond ASCII. -/
def isWideBlank (c : Char) : Bool :=
  let n := c.toNat
  n == 0x85 || n == 0xA0 || n == 0x1680 || (0x2000 ≤ n && n ≤ 0x200A) || n == 0x2028 ||
    n == 0x2029 || n == 0x202F || n == 0x205F || n == 0x3000

/-- The blanks that may surround a number. -/
def isNumberBlank (c : Char) : Bool :=
  let n := c.toNat
  n == 0x20 || (0x09 ≤ n && n ≤ 0x0D) || isWideBlank c

/-- The blanks of general text. -/
def isBlank (c : Char) : Bool :=
  isNumberBlank c || (0x1C ≤ c.toNat && c.toNat ≤ 0x1F)

/-- Drops the leading and trailing characters of a class. -/
def trimWith (drop : Char → Bool) (cs : List Char) : List Char :=
  ((cs.dropWhile drop).reverse.dropWhile drop).reverse

/-- Text without surrounding blanks. -/
def strip (s : String) : String := String.ofList (trimWith isBlank s.toList)

/-- The pieces of a text between its marks. -/
def pieces (isMark : Char → Bool) (cs : List Char) : List (List Char) :=
  cs.foldr (fun c acc =>
    if isMark c then [] :: acc
    else match acc with
      | piece :: rest => (c :: piece) :: rest
      | [] => [[c]]) [[]]

end Compositor.Text
