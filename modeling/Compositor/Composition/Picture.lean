import Compositor.Composition.Basic
import Compositor.Encoder

/-!
# The picture of a composition

The video graph draws the layers over the background, from the lowest to the
highest. Each layer is brought to one picture, moved in time, cropped, scaled,
rotated and faded, in this order, and then laid over what is already there.
-/
namespace Compositor

namespace Layer

open GraphBuilder

/-- Appends a stage, if there is one. -/
def stage (expr : Option String) (pad : Pad) (label : String) : GraphBuilder Pad :=
  match expr with
  | some expr => statement expr [pad] label
  | none => pure pad

def shiftExpr (l : Layer) : Except Fault (Option String) := do
  .ok ((← l.placement.delay?).map fun delay =>
    "setpts=PTS-STARTPTS,setpts=PTS+" ++ delay.text ++ "/TB")

def cropExpr (l : Layer) : Option String :=
  l.crop.map fun r =>
    "crop=" ++ r.width.text ++ ":" ++ r.height.text ++ ":" ++ r.x.text ++ ":" ++ r.y.text

def scaleExpr (l : Layer) (canvas : Canvas) : Except Fault (Option String) := do
  .ok ((← l.size.scaleParams canvas).map ("scale=" ++ ·))

def rotateExpr (l : Layer) : Option String :=
  if Json.same l.rotation (.int 0) then none
  else some ("rotate=" ++ l.rotation.text ++ "*PI/180")

def opacityExpr (l : Layer) : Option String :=
  if l.opacity == 1 then none
  else
    let expr := "colorchannelmixer=aa=" ++ Decimal.text l.opacity
    some (if l.alphaEnabled.isTruthy then expr else "format=rgba," ++ expr)

/-- The statements that bring one picture into shape (`_transform`). -/
def transform (l : Layer) (label : String) (pad : Pad) (canvas : Canvas) : GraphBuilder Pad := do
  let pad ← stage (← l.shiftExpr) pad (label ++ "_timed")
  let pad ← stage l.cropExpr pad (label ++ "_crop")
  let pad ← stage (← (l.scaleExpr canvas)) pad (label ++ "_scale")
  let pad ← stage l.rotateExpr pad (label ++ "_rotate")
  stage l.opacityExpr pad (label ++ "_opacity")

/-- The anchor of the layer, if it is one. -/
def properAnchor (l : Layer) : Except Fault Anchor :=
  l.anchor.mapError fun _ => .noAttribute

/-- Where the layer is drawn: by its own expressions if both are there, else by
its anchor, with the box of a layer sized in percent. -/
def position (l : Layer) (canvas : Canvas) : Except Fault (String × String) :=
  if l.xExpr.isTruthy && l.yExpr.isTruthy then .ok (l.xExpr.text, l.yExpr.text)
  else if l.size.mode == .percent then do
    let (width, height) ← l.size.box canvas
    (← l.properAnchor).position l.dx l.dy (some (toString width, toString height))
  else do (← l.properAnchor).position l.dx l.dy none

/-- The condition on the time at which the layer is seen. -/
def windowParams (l : Layer) : Except Fault String := do
  match ← l.placement.windowEnd with
  | none => .ok ""
  | some stop =>
    .ok (":enable='between(t," ++ l.placement.startOrZero.text ++ "," ++ stop.text ++ ")'")

/-- The parameters with which a layer is laid over the picture (`_overlay_params`). -/
def overlayParams (l : Layer) (canvas : Canvas) : Except Fault String := do
  let (x, y) ← l.position canvas
  let window ← l.windowParams
  .ok ("x='" ++ x ++ "':y='" ++ y ++ "':eof_action=pass" ++ window)

end Layer

namespace Composition

open GraphBuilder

/-- Draws one layer over what is there. -/
def drawLayer (inputs : InputTable) (canvas : Canvas) (number : Nat) (layer : Layer)
    (below : Pad) (label : String) : GraphBuilder Pad := do
  let name := Foreground.layerLabel (.int number)
  let pad ← layer.clip.normalize (inputs.stream · .video) name layer.alphaEnabled.isTruthy
  let pad ← layer.transform name pad canvas
  let params ← (layer.overlayParams canvas)
  statement ("overlay=" ++ params) [below, pad] label

/-- Draws layers from the lowest to the highest; the last one gives the final picture. -/
def drawLayers (inputs : InputTable) (canvas : Canvas) (final : String) :
    Nat → List (Nat × Layer) → Pad → GraphBuilder Pad
  | _, [], below => pure below
  | _, [(number, layer)], below => drawLayer inputs canvas number layer below final
  | position, (number, layer) :: rest, below => do
    let picture ← drawLayer inputs canvas number layer below ("tmp" ++ toString position)
    drawLayers inputs canvas final (position + 1) rest picture

/-- Puts the picture and its alpha channel into one frame (`_stack_alpha`). -/
def stackAlpha (picture : Pad) (layout : StackLayout) : GraphBuilder Pad := do
  let (colorSource, alphaSource) ←
    fork "format=rgba,split" picture "stack_color_src" "stack_alpha_src"
  let color ← statement "format=rgb24" [colorSource] "stack_color"
  let mask ← statement "alphaextract,format=rgb24" [alphaSource] "stack_mask"
  let stacker := match layout with
    | .vertical => "vstack"
    | .horizontal => "hstack"
  statement (stacker ++ "=inputs=2") [color, mask] "out"

/-- The name of the input that shows the background. -/
def backgroundKey : String := "background"

/-- The statements of the picture; its pad is an output of the graph, unless there are no statements
(`_build_video`). -/
def picture (c : Composition) (inputs : InputTable) (canvas : Canvas) (encoder : EncoderProfile) :
    GraphBuilder Pad := do
  let background ← (inputs.stream backgroundKey .video)
  let layers ← c.ordered
  let final := if encoder.stacksAlpha then "composed" else "out"
  let pad ← drawLayers inputs canvas final 0 layers background
  let pad ← if encoder.stacksAlpha then stackAlpha pad (encoder.layout.getD .vertical)
    else pure pad
  if !(← get).isEmpty then markOutput pad
  return pad

end Composition

end Compositor
