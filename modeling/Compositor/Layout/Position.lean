import Compositor.Json.Conversion
import Compositor.Layout.Anchor
import Compositor.Layout.Size

/-!
# Positions

The position of a layer is a pair of expressions that the media tool evaluates
when it draws: `W` and `H` are the sides of the canvas, `w` and `h` those of the
drawn layer. A box of fixed size is placed as a whole, and the layer is then
aligned inside it the same way.
-/
namespace Compositor

namespace Align

/-- An expression with a signed offset, unless the offset stands for nothing (`_with_offset`). -/
def withOffset (base : String) (offset : Json) : Except Fault String :=
  if offset.isTruthy then do .ok (base ++ (← offset.signedText)) else .ok base

/-- The place of an extent along a side of the canvas (`_axis_base`). -/
def base (a : Align) (side extent : String) : String :=
  match a with
  | .near => "0"
  | .middle => "(" ++ side ++ "-" ++ extent ++ ")/2"
  | .far => side ++ "-" ++ extent

/-- The place of the drawn extent inside a box that stands at `outer`. -/
def inside (a : Align) (outer box extent : String) : String :=
  match a with
  | .near => outer
  | .middle => "(" ++ outer ++ ")+(" ++ box ++ "-" ++ extent ++ ")/2"
  | .far => "(" ++ outer ++ ")+(" ++ box ++ "-" ++ extent ++ ")"

/-- The expression for one axis. -/
def position (a : Align) (side extent : String) (offset : Json) (box : Option String) :
    Except Fault String :=
  match box with
  | none => withOffset (a.base side extent) offset
  | some b => do
    let outer ← withOffset (a.base side b) offset
    .ok (a.inside outer b extent)

end Align

namespace Anchor

/-- The expressions of a layer placed by an anchor and an offset on each axis (`anchor_position`).
The sides of a box stand in them as they are written. -/
def position (a : Anchor) (dx dy : Json) (box : Option (String × String)) :
    Except Fault (String × String) := do
  let x ← a.horizontal.position "W" "w" dx (box.map Prod.fst)
  let y ← a.vertical.position "H" "h" dy (box.map Prod.snd)
  .ok (x, y)

/-- The sides of a box given as any value with two items; null is no box. -/
def boxOfJson : Json → Except Fault (Option (String × String))
  | .null => .ok none
  | v => do
    let (width, height) ← v.pair
    .ok (some (width.text, height.text))

end Anchor

end Compositor
