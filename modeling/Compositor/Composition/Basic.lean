import Compositor.Background
import Compositor.Layer
import Compositor.Order.Insertion
import Compositor.Timing.Length

/-!
# Compositions

Layers over a background. The canvas and the length of the output follow from the
parts of a composition unless they are given.
-/
namespace Compositor

/-- A canvas and its frame rate. -/
structure Frame where
  width : Json
  height : Json
  fps : Json

namespace Frame

def canvas (f : Frame) : Canvas := ⟨f.width, f.height⟩

def toJson (f : Frame) : Json := .arr [f.width, f.height, f.fps]

end Frame

structure Composition where
  background : Option Background
  layers : List Layer
  /-- The canvas for a composition whose background gives none. -/
  hint : Option Frame
  /-- The length that overrides every other one. -/
  length : Option Json
  context : ContextId

namespace Composition

def toJson (c : Composition) : Json :=
  .obj [("background", .ofOption (fun b => .str b.kind.name) c.background),
    ("layers", .arr (c.layers.map fun l => .str l.name)),
    ("canvas_hint", .ofOption Frame.toJson c.hint),
    ("explicit_duration", .ofOption id c.length)]

/-- The canvas of a background, if it has an extent and a rate. -/
def frameOf? (b : Background) : Option Frame :=
  if b.width == 0 || b.height == 0 || b.fps == 0 then none
  else some ⟨.int b.width, .int b.height, .real b.fps⟩

/-- The canvas: that of the background, else the given one (`canvas_size`). -/
def frame (c : Composition) : Except Fault Frame :=
  match (c.background.bind frameOf?).or c.hint with
  | some f => .ok f
  | none => .error (.media .canvas)

/-- The length that the background dictates. -/
def backgroundLength (c : Composition) : Except Fault (Option Json) :=
  match c.background with
  | some b => if b.controlsDuration then b.duration else .ok none
  | none => .ok none

/-- The length of the output and the rule it comes from (`_duration_rule`). -/
def lengthRule (c : Composition) : Except Fault (Option Json × LengthRule) :=
  Length.resolve c.length c.backgroundLength (c.layers.mapM Layer.duration)

/-- How long a composition lasts, if that is known (`resolved_duration`). -/
def duration (c : Composition) : Except Fault (Option Json) := c.lengthRule.map Prod.fst

/-- The layers with their numbers, from the lowest to the highest; layers of equal height stay in
the order in which they were added (`_ordered_layers`). -/
def ordered (c : Composition) : Except Fault (List (Nat × Layer)) :=
  Order.sort (fun a b => Json.less a.2.z b.2.z) (c.layers.zipIdx.map fun (l, i) => (i, l))

end Composition

end Compositor
