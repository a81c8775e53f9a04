import Compositor.Json.Basic

/-!
# Anchors

An anchor names one of nine points of the canvas by an alignment on each axis.
-/
namespace Compositor

/-- The place of a layer along one axis: at its beginning, in the middle or at its end. -/
inductive Align where
  | near
  | middle
  | far
  deriving DecidableEq, Repr

structure Anchor where
  horizontal : Align
  vertical : Align
  deriving DecidableEq, Repr

namespace Align

/-- The word for an alignment from left to right (`halign`). -/
def horizontalName : Align → String
  | .near => "left"
  | .middle => "center"
  | .far => "right"

/-- The word for an alignment from top to bottom (`valign`). -/
def verticalName : Align → String
  | .near => "top"
  | .middle => "center"
  | .far => "bottom"

end Align

namespace Anchor

def center : Anchor := ⟨.middle, .middle⟩

/-- The middle of both axes is named once; elsewhere the vertical part comes first. -/
def name (a : Anchor) : String :=
  if a == center then "center" else a.vertical.verticalName ++ "-" ++ a.horizontal.horizontalName

def all : List Anchor :=
  [.near, .middle, .far].flatMap fun v => [.near, .middle, .far].map fun h => ⟨h, v⟩

def ofName? (s : String) : Option Anchor := all.find? fun a => a.name == s

/-- An anchor given as any value, or the value that is none. -/
def ofJson : Json → Except Json Anchor
  | .str s => ((ofName? s).map Except.ok).getD (.error s)
  | v => .error v

example : all.map name = ["top-left", "top-center", "top-right", "center-left", "center",
    "center-right", "bottom-left", "bottom-center", "bottom-right"] := by decide

end Anchor

end Compositor
