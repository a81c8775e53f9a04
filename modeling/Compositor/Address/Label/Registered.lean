import Compositor.Address.Label.Context
import Compositor.Address.Label.Permitted
import Compositor.Address.Label.Mapping
import Compositor.Address.Punycode
import Compositor.Text.Composed
import Compositor.Text.Table

/-!
# Registered names

The strict form of international names: only labels that could be registered are
written in ASCII, and all others are refused. Some punctuation is registered between
letters and signs of the script that it belongs to.
-/
namespace Compositor.Text

def greekLetters : List TableEntry := tableOf "
  370-373 375-377 37a-37d 37f 384 386 388-38a 38c 38e-3a1 3a3-3e1 3f0-3ff 1d26-1d2a 1d5d-1d61
  1d66-1d6a 1dbf 1f00-1f15 1f18-1f1d 1f20-1f45 1f48-1f4d 1f50-1f57 1f59 1f5b 1f5d 1f5f-1f7d
  1f80-1fb4 1fb6-1fc4 1fc6-1fd3 1fd6-1fdb 1fdd-1fef 1ff2-1ff4 1ff6-1ffe 2126 ab65 10140-1018e
  101a0 1d200-1d245"

def hebrewLetters : List TableEntry := tableOf "
  591-5c7 5d0-5ea 5ef-5f4 fb1d-fb36 fb38-fb3c fb3e fb40-fb41 fb43-fb44 fb46-fb4f"

def hiraganaSigns : List TableEntry := tableOf "
  3041-3096 309d-309f 1b001-1b11f 1b132 1b150-1b152 1f200"

def katakanaSigns : List TableEntry := tableOf "
  30a1-30fa 30fd-30ff 31f0-31ff 32d0-32fe 3300-3357 ff66-ff6f ff71-ff9d 1aff0-1aff3 1aff5-1affb
  1affd-1affe 1b000 1b120-1b122 1b155 1b164-1b167"

def hanSigns : List TableEntry := tableOf "
  2e80-2e99 2e9b-2ef3 2f00-2fd5 3005 3007 3021-3029 3038-303b 3400-4dbf 4e00-9fff f900-fa6d
  fa70-fad9 16fe2-16fe3 16ff0-16ff6 20000-2a6df 2a700-2b81d 2b820-2cead 2ceb0-2ebe0 2ebf0-2ee5d
  2f800-2fa1d 30000-3134a 31350-33479"

def isGreek (c : Char) : Bool := isInTable greekLetters c

def isHebrew (c : Char) : Bool := isInTable hebrewLetters c

/-- The scripts of Japanese. -/
def isJapanese (c : Char) : Bool :=
  [hiraganaSigns, katakanaSigns, hanSigns].any fun table => isInTable table c

end Compositor.Text

namespace Compositor.Address.Label

open Compositor.Text

/-- The longest label in ASCII. -/
def maxLabel : Nat := 63

/-- The longest name in ASCII, without a dot at its end. -/
def maxName : Nat := 253

def isAscii (cs : List Char) : Bool := cs.all fun c => c.toNat < 0x80

/-- Writes a label in ASCII without a check. -/
def marked (label : List Char) : List Char := "xn--".toList ++ Punycode.encode label

/-- The encoded part of a label that is marked as such. -/
def encodedPart? (label : List Char) : Option (List Char) :=
  match label with
  | 'x' :: 'n' :: '-' :: '-' :: code => some code
  | _ => none

def isArabicDigit (c : Char) : Bool := '\u0660' ≤ c && c ≤ '\u0669'

def isPersianDigit (c : Char) : Bool := '\u06F0' ≤ c && c ≤ '\u06F9'

/-- Whether a character that no table permits may stand between what comes before it,
backwards, and what comes after it: a dot between two `l`, the sign of a Greek or
Hebrew numeral, a dot in Japanese, or digits that are all of one kind. -/
def fitsContext (before : List Char) (c : Char) (after : List Char) : Bool :=
  if isJoiner c || isNonJoiner c then joinerFits before c after
  else if c == '\u00B7' then before.head? == some 'l' && after.head? == some 'l'
  else if c == '\u0375' then after.head?.any isGreek
  else if c == '\u05F3' || c == '\u05F4' then before.head?.any isHebrew
  else if c == '\u30FB' then (before ++ after).any fun d => d != '\u30FB' && isJapanese d
  else if isArabicDigit c then !(before ++ after).any isPersianDigit
  else if isPersianDigit c then !(before ++ after).any isArabicDigit
  else false

def hasPlainHyphens (label : List Char) : Bool :=
  label.head? != some '-' && label.getLast? != some '-' &&
    (label.drop 2).take 2 != ['-', '-']

/-- Whether a label could be registered. -/
def isRegistrable (label : List Char) : Bool :=
  !label.isEmpty && label.length ≤ maxName + 1 &&
    compose label == label && hasPlainHyphens label && !label.head?.any isCombining &&
    allFit (fun before c after => isPermitted c || fitsContext before c after) [] label &&
    (!label.any goesLeft || keepsOrder label)

/-- Whether a label in ASCII could be registered, by what it stands for. -/
def isRegistrableAscii (label : List Char) : Bool :=
  let lowered := label.map Char.toLower
  match encodedPart? lowered with
  | some code =>
    code.getLast?.any (· != '-') && (Punycode.decode? code).any isRegistrable
  | none => isRegistrable lowered

/-- The ASCII form of a label that could be registered. -/
def registered? (label : List Char) : Option (List Char) :=
  let ascii := if isAscii label then label else marked label
  let fine := if isAscii label then isRegistrableAscii label else isRegistrable label
  if fine && ascii.length ≤ maxLabel then some ascii else none

/-- A dot of any script. -/
def isDot (c : Char) : Bool := ".\u3002\uFF0E\uFF61".toList.contains c

/-- The ASCII form of a name, whose characters are replaced first. A dot may end it. -/
def registeredName? (name : List Char) : Option (List Char) := do
  let mapped := compose (← name.mapM mapped?).flatten
  let labels := pieces isDot mapped
  let dotted := 1 < labels.length && labels.getLast? == some []
  let ascii ← (if dotted then labels.dropLast else labels).mapM registered?
  let text := List.intercalate ['.'] (if dotted then ascii ++ [[]] else ascii)
  if mapped.length ≤ maxName + 1 && text.length ≤ (if dotted then maxName + 1 else maxName) then
    some text
  else none

end Compositor.Address.Label
