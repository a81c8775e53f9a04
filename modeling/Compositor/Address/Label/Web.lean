import Compositor.Address.Label.Registered

/-!
# Names of web addresses

Web addresses take more names than can be registered. A label that is marked as
encoded must stand for one that would be encoded, and no label may begin with a
mark. The order of characters only matters if some label goes from right to left.
-/
namespace Compositor.Address.Label

open Compositor.Text

/-- A label as it is shown and as it is written in ASCII. -/
structure WebLabel where
  shown : List Char
  ascii : List Char
  deriving DecidableEq, Repr

/-- Whether reading a label as part of a name leaves it as it is. -/
def isFixed (label : List Char) : Bool :=
  label.all (fun c => mapped? c == some [c]) && compose label == label

/-- Whether the only hyphen of an encoded label is at its start, with nothing to divide. -/
def hasLoneHyphen (code : List Char) : Bool :=
  code.head? == some '-' && !(code.drop 1).contains '-'

/-- Reads a label of composed characters. -/
def webLabel? (label : List Char) : Option WebLabel :=
  match encodedPart? label with
  | some code =>
    match Punycode.decode? code with
    | some shown =>
      if !hasLoneHyphen code && !isAscii shown && isFixed shown then some ⟨shown, label⟩
      else none
    | none => none
  | none => some ⟨label, if isAscii label then label else marked label⟩

/-- The ASCII form of a name. -/
def webName? (name : List Char) : Option (List Char) := do
  let labels ← (pieces (· == '.') (compose (← name.mapM mapped?).flatten)).mapM webLabel?
  let shown := labels.map (·.shown)
  let turns := shown.any fun label => label.any goesLeft
  if shown.all fun label =>
      !label.head?.any isCombining && joinersFit label &&
        (!turns || label.isEmpty || keepsOrder label) then
    some (List.intercalate ['.'] (labels.map (·.ascii)))
  else none

end Compositor.Address.Label
