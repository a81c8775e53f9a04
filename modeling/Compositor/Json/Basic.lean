import Compositor.Decimal.Places
import Compositor.Text.Quoted

/-!
# JSON values

Probe documents, bodies of the job service and settings that are kept as given
are values of this type. Integers and doubles are different values, and an object
keeps the order of its fields.
-/
namespace Compositor

inductive Json where
  | null
  | bool (b : Bool)
  | int (n : Int)
  | real (x : Float)
  | str (s : String)
  | arr (items : List Json)
  | obj (fields : List (String × Json))
  deriving Inhabited, BEq, Repr

namespace Json

instance : Coe String Json := ⟨Json.str⟩
instance : Coe Bool Json := ⟨Json.bool⟩

/-- The values that stand for nothing: null, false, zero and everything empty. -/
def isTruthy : Json → Bool
  | .null => false
  | .bool b => b
  | .int n => n != 0
  | .real x => !(x == 0)
  | .str s => !s.isEmpty
  | .arr items => !items.isEmpty
  | .obj fields => !fields.isEmpty

def isNull : Json → Bool
  | .null => true
  | _ => false

/-- The value of a field of an association list. -/
def lookup? (fields : List (String × Json)) (name : String) : Option Json :=
  (fields.find? fun f => f.1 == name).map Prod.snd

/-- The value, unless it stands for nothing. -/
def orElse (v : Json) (other : Json) : Json := if v.isTruthy then v else other

/-- A value that may be missing, with null for nothing. -/
def ofOption (f : α → Json) : Option α → Json
  | some a => f a
  | none => .null

mutual

/-- The text of a value inside another one: strings are quoted. -/
def quoted : Json → String
  | .null => "None"
  | .bool b => if b then "True" else "False"
  | .int n => toString n
  | .real x => Decimal.text x
  | .str s => Text.quoted s
  | .arr items => "[" ++ quotedItems items ++ "]"
  | .obj fields => "\x7b" ++ quotedFields fields ++ "\x7d"

def quotedItems : List Json → String
  | [] => ""
  | [v] => quoted v
  | v :: rest => quoted v ++ ", " ++ quotedItems rest

def quotedFields : List (String × Json) → String
  | [] => ""
  | [(k, v)] => Text.quoted k ++ ": " ++ quoted v
  | (k, v) :: rest => Text.quoted k ++ ": " ++ quoted v ++ ", " ++ quotedFields rest

end

/-- The text of a value inside a message or an argument. -/
def text : Json → String
  | .str s => s
  | v => v.quoted

end Json

end Compositor
