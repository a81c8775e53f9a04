import Compositor.Text.Direction
import Compositor.Text.Joining
import Compositor.Text.Mark

/-!
# Characters in the context of a label

A name is shown in labels between dots. Whether its parts stay in order on screen
depends on the directions of its letters, and the invisible joiners may only stand
where they change how letters look.
-/
namespace Compositor.Address.Label

open Compositor.Text

/-- Whether every character fits between what comes before it, backwards, and after it. -/
def allFit (fits : List Char → Char → List Char → Bool) (before : List Char) :
    List Char → Bool
  | [] => true
  | c :: after => fits before c after && allFit fits (c :: before) after

def isNonJoiner (c : Char) : Bool := c == '\u200C'

def isJoiner (c : Char) : Bool := c == '\u200D'

/-- A joiner follows a virama; a non-joiner may also part letters that would join. -/
def joinerFits (before : List Char) (c : Char) (after : List Char) : Bool :=
  let nearest (cs : List Char) := cs.find? fun d => joiningOf d != .transparent
  before.head?.any isVirama ||
    (isNonJoiner c && (nearest before).any joinsNext && (nearest after).any joinsPrevious)

def joinersFit (label : List Char) : Bool :=
  allFit (fun before c after => !(isJoiner c || isNonJoiner c) || joinerFits before c after)
    [] label

/-- Whether a character is written from right to left, or is a number that may be. -/
def goesLeft (c : Char) : Bool := [Direction.right, .arabicNumber].contains (directionOf c)

/-- A label that begins with a letter from right to left: no letters of the other
direction, no numbers of both kinds, and a letter or a number at the end. -/
def runsLeft (directions : List Direction) : Bool :=
  let last := (directions.filter (· != .mark)).getLast?
  !directions.contains .left &&
    !(directions.contains .arabicNumber && directions.contains .europeanNumber) &&
    last.any fun d => [Direction.right, .arabicNumber, .europeanNumber].contains d

/-- A label that begins with a letter from left to right: no letters of the other
direction, and a letter or a number at the end. -/
def runsRight (directions : List Direction) : Bool :=
  let last := (directions.filter (· != .mark)).getLast?
  !directions.contains .right && !directions.contains .arabicNumber &&
    last.any fun d => [Direction.left, .europeanNumber].contains d

/-- Whether the directions in a label keep its characters together and in order. -/
def keepsOrder (label : List Char) : Bool :=
  let directions := label.map directionOf
  match directions.head? with
  | some .right => runsLeft directions
  | some .left => runsRight directions
  | _ => false

end Compositor.Address.Label
