import Compositor.Composition.Picture
import Compositor.Proofs.Graph.Term

/-!
# The picture that a composition stands for

The picture as a term of filters, written down from the layers alone: no labels, no
graph, no numbers of steps. `Composition.drawn` lays the layers over the background one
by one, and `Layer.shaped` is one layer in its final shape.
-/
namespace Compositor

/-- Whether a value is a number above zero. -/
def Json.isPositive (v : Json) : Bool :=
  match Json.less (.int 0) v with
  | .ok above => above
  | .error _ => false

namespace Foreground

/-- The stream of one kind of an input. -/
def streamTerm (index : Int) (kind : StreamKind) : Term := .stream (Pad.input index kind).label

/-- The matte in a gray picture. -/
def matteTerm (soft : Bool) (mask : Term) : Term :=
  let gray := Term.apply "format=gray" [mask]
  if soft then gray else .apply thresholdExpr [gray]

/-- The picture of a clip whose first input has a number. -/
def normalTerm (f : Foreground) (first : Int) (alpha : Bool) : Term :=
  let source := streamTerm first .video
  match f.format with
  | .webm | .prores => if alpha then source else .apply "format=rgb24" [source]
  | .bundle =>
    if alpha then
      .apply "alphamerge" [.apply "format=rgba" [source],
        matteTerm f.softAlpha (streamTerm (first + 1) .video)]
    else .apply "format=rgb24" [source]
  | .stacked =>
    let top := Term.apply "crop=iw:ih/2:0:0" [source]
    if alpha then
      .apply "alphamerge" [.apply "format=rgba" [top],
        matteTerm false (.apply "crop=iw:ih/2:0:ih/2" [source])]
    else .apply "format=rgb24" [top]

end Foreground

namespace Layer

/-- A picture that begins after an offset, if the offset is above zero. -/
def shifted (offset : Json) (t : Term) : Term :=
  if offset.isPositive then
    .apply ("setpts=PTS-STARTPTS,setpts=PTS+" ++ offset.text ++ "/TB") [t]
  else t

/-- A picture cut to a rectangle, if there is one. -/
def cropped (box : Option Rectangle) (t : Term) : Term :=
  match box with
  | some r =>
    .apply ("crop=" ++ r.width.text ++ ":" ++ r.height.text ++ ":" ++ r.x.text ++ ":" ++ r.y.text)
      [t]
  | none => t

/-- A picture brought to a size, if there is one. -/
def scaled (params : Option String) (t : Term) : Term :=
  match params with
  | some params => .apply ("scale=" ++ params) [t]
  | none => t

/-- A picture turned by an angle other than zero. -/
def rotated (degrees : Json) (t : Term) : Term :=
  if Json.same degrees (.int 0) then t
  else .apply ("rotate=" ++ degrees.text ++ "*PI/180") [t]

/-- A picture faded to an opacity other than one; without an alpha channel it gets one. -/
def faded (opacity : Float) (alpha : Bool) (t : Term) : Term :=
  if opacity == 1 then t
  else .apply ((if alpha then "" else "format=rgba,") ++ "colorchannelmixer=aa=" ++
    Decimal.text opacity) [t]

/-- A picture in the shape that a layer gives it. -/
def shaped (l : Layer) (canvas : Canvas) (t : Term) : Except Fault Term := do
  let offset ← l.startOffset
  let params ← l.size.scaleParams canvas
  .ok (faded l.opacity l.alphaEnabled.isTruthy
    (rotated l.rotation (scaled params (cropped l.crop (shifted offset t)))))

end Layer

namespace Composition

/-- Layers laid over a picture one by one; `first` is the number of the first input of
the layer with a number. -/
def drawn (canvas : Canvas) (first : Nat → Int) : List (Nat × Layer) → Term → Except Fault Term
  | [], below => .ok below
  | (number, layer) :: rest, below => do
    let top ← layer.shaped canvas
      (layer.clip.normalTerm (first number) layer.alphaEnabled.isTruthy)
    let params ← layer.overlayParams canvas
    drawn canvas first rest (.apply ("overlay=" ++ params) [below, top])

/-- The filter that puts two pictures into one frame. -/
def stacker : StackLayout → String
  | .vertical => "vstack=inputs=2"
  | .horizontal => "hstack=inputs=2"

/-- A picture beside its own alpha channel, or above it. -/
def stackedTerm (layout : StackLayout) (t : Term) : Term :=
  let parts (output : Nat) := Term.filter "format=rgba,split" [t] output
  .apply (stacker layout) [.apply "format=rgb24" [parts 0],
    .apply "alphaextract,format=rgb24" [parts 1]]

/-- A picture as an encoder wants it. -/
def finished (encoder : EncoderProfile) (t : Term) : Term :=
  if encoder.stacksAlpha then stackedTerm (encoder.layout.getD .vertical) t else t

end Composition

end Compositor
