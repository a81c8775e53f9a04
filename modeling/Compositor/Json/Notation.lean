import Compositor.Decimal.Reading
import Compositor.Json.Basic

/-!
# Documents with marked doubles

A document in which a bare number is always an integer writes a double as an object
with one field, and a text that repeats another one as an object too. `mark` writes
such documents and `unmark` reads them. Fields are read by name, with null for one
that is not there.
-/
namespace Compositor.Json

mutual

/-- The value with its doubles marked. -/
def mark : Json → Json
  | .real x => .obj [("float", .str (Decimal.text x))]
  | .arr items => .arr (markItems items)
  | .obj fields => .obj (markFields fields)
  | v => v

def markItems : List Json → List Json
  | [] => []
  | v :: rest => mark v :: markItems rest

def markFields : List (String × Json) → List (String × Json)
  | [] => []
  | (name, v) :: rest => (name, mark v) :: markFields rest

end

mutual

/-- The value that a document with marks stands for. -/
def unmark : Json → Json
  | .obj [("float", .str s)] => .real ((Decimal.readFloat? s).getD 0)
  | .obj [("repeat", .arr [.str s, .int n])] => .str (String.join (List.replicate n.toNat s))
  | .arr items => .arr (unmarkItems items)
  | .obj fields => .obj (unmarkFields fields)
  | v => v

def unmarkItems : List Json → List Json
  | [] => []
  | v :: rest => unmark v :: unmarkItems rest

def unmarkFields : List (String × Json) → List (String × Json)
  | [] => []
  | (name, v) :: rest => (name, unmark v) :: unmarkFields rest

end

/-- A field of an object, or another value if it is not there. -/
def fieldOr (v : Json) (name : String) (other : Json) : Json :=
  match v with
  | .obj fields => (lookup? fields name).getD other
  | _ => other

def field (v : Json) (name : String) : Json := v.fieldOr name .null

/-- The text of a field, empty if it is not there. -/
def textField (v : Json) (name : String) : String := (v.fieldOr name "").text

/-- The fields of an object; other values have none. -/
def fields : Json → List (String × Json)
  | .obj fields => fields
  | _ => []

/-- The items of an array; other values have none. -/
def members : Json → List Json
  | .arr items => items
  | _ => []

def intOr (other : Int) : Json → Int
  | .int n => n
  | _ => other

end Compositor.Json
