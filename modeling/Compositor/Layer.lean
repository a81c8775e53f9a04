import Compositor.Foreground
import Compositor.Layout.Position
import Compositor.Timing.Placement

/-!
# Layers

A layer places one clip on the canvas and on the timeline. Its settings are kept
as they were given; an edit changes the settings it names.
-/
namespace Compositor

structure Rectangle where
  x : Json
  y : Json
  width : Json
  height : Json

structure Layer where
  name : String
  clip : Foreground
  /-- An anchor, or another value, by which nothing can be placed. -/
  anchor : Except Json Anchor
  dx : Json
  dy : Json
  /-- Expressions that replace the position given by the anchor. -/
  xExpr : Json
  yExpr : Json
  size : Size Float
  opacity : Float
  rotation : Json
  crop : Option Rectangle
  placement : Placement Json
  trim : Option (Trim Json)
  audioEnabled : Json
  volume : Float
  alphaEnabled : Json
  z : Json

/-- The sizes that a layer may have. -/
def Size.read (fields : Record.Fields) : Checked (Size Float) :=
  open Record in
  Size.mk <$> optional fields "mode" (word SizeMode.ofName? .enumeration) .contain
    <*> maybe fields "width" real
    <*> maybe fields "height" real
    <*> maybe fields "percent" real
    <*> maybe fields "scale" real

def Size.toJson (s : Size Float) : Json :=
  .obj [("mode", s.mode.name), ("width", .ofOption .real s.width),
    ("height", .ofOption .real s.height), ("percent", .ofOption .real s.percent),
    ("scale", .ofOption .real s.scale)]

namespace Layer

/-- A clip in the middle of the canvas, fitted into it, for its whole length. -/
def ofClip (name : String) (clip : Foreground) (z : Nat) : Layer where
  name := name
  clip := clip
  anchor := .ok .center
  dx := .int 0
  dy := .int 0
  xExpr := .null
  yExpr := .null
  size := Size.default
  opacity := 1
  rotation := .real 0
  crop := none
  placement := ⟨none, none, none⟩
  trim := none
  audioEnabled := true
  volume := 1
  alphaEnabled := true
  z := .int z

/-- The trim of the layer, else that of its clip (`effective_trim`). -/
def effectiveTrim (l : Layer) : Option (Trim Json) := l.trim.or l.clip.trim

/-- The length of the trimmed source, if it is known (`Layer.duration`). -/
def duration (l : Layer) : Except Fault (Option Json) :=
  Trim.clipLength (l.clip.info.bind StreamInfo.length) l.effectiveTrim

/-- The delay of the layer as a value; zero when it is seen from the beginning (`start_offset`). -/
def startOffset (l : Layer) : Except Fault Json := do
  .ok ((← l.placement.delay?).getD (.real 0))

def anchorJson (l : Layer) : Json :=
  match l.anchor with
  | .ok anchor => anchor.name
  | .error other => other

/-- The settings of a layer, and the trim that follows from them. -/
def record (l : Layer) : Record.Fields :=
  [("name", l.name), ("fg", l.clip.path), ("anchor", l.anchorJson), ("dx", l.dx),
    ("dy", l.dy), ("x_expr", l.xExpr), ("y_expr", l.yExpr), ("size", l.size.toJson),
    ("opacity", .real l.opacity), ("rotate", l.rotation),
    ("crop", .ofOption (fun r => .arr [r.x, r.y, r.width, r.height]) l.crop),
    ("comp_start", .ofOption id l.placement.start), ("comp_end", .ofOption id l.placement.stop),
    ("comp_duration", .ofOption id l.placement.duration),
    ("source_trim", .ofOption Trim.toJson l.trim), ("audio_enabled", l.audioEnabled),
    ("audio_volume", .real l.volume), ("alpha_enabled", l.alphaEnabled), ("z", l.z),
    ("effective_trim", .ofOption Trim.toJson l.effectiveTrim)]

def toJson (l : Layer) : Except Fault Json := do
  let startOffset ← l.startOffset
  let windowEnd ← l.placement.windowEnd
  let duration ← l.duration
  .ok (.obj (l.record ++ [("start_offset", startOffset),
    ("window_end", .ofOption id windowEnd), ("duration()", .ofOption id duration)]))

/-- A change of the settings of a layer. -/
inductive Edit where
  | at_ (anchor : Except Json Anchor) (dx dy : Json)
  | xy (x y : Json)
  | size (settings : Record.Fields)
  | opacity (alpha : Json)
  | rotate (degrees : Json)
  | crop (box : Rectangle)
  | start (seconds : Option Json)
  | stop (seconds : Option Json)
  | duration (seconds : Option Json)
  | subclip (start : Json) (stop : Option Json)
  | audio (enabled volume : Json)
  | z (index : Json)
  | alpha (enabled : Json)

/-- Applies an edit (the methods of `LayerHandle`). What an edit that fails has already set stays
set. -/
def edit (l : Layer) : Edit → Layer × Except Fault Unit
  | .at_ anchor dx dy => ({ l with anchor, dx, dy }, .ok ())
  | .xy x y => ({ l with xExpr := x, yExpr := y }, .ok ())
  | .size settings =>
    match (Size.read settings).toExcept with
    | .ok size => ({ l with size }, .ok ())
    | .error e => (l, .error e)
  | .opacity alpha =>
    match alpha.clampUnit with
    | .ok opacity => ({ l with opacity }, .ok ())
    | .error e => (l, .error e)
  | .rotate degrees => ({ l with rotation := degrees }, .ok ())
  | .crop box => ({ l with crop := some box }, .ok ())
  | .start seconds => ({ l with placement := { l.placement with start := seconds } }, .ok ())
  | .stop seconds => ({ l with placement := { l.placement with stop := seconds } }, .ok ())
  | .duration seconds => ({ l with placement := { l.placement with duration := seconds } }, .ok ())
  | .subclip start stop => ({ l with trim := some ⟨start, stop⟩ }, .ok ())
  | .audio enabled volume =>
    let l := { l with audioEnabled := enabled }
    match volume.clampUnit with
    | .ok volume => ({ l with volume }, .ok ())
    | .error e => (l, .error e)
  | .z index => ({ l with z := index }, .ok ())
  | .alpha enabled => ({ l with alphaEnabled := enabled }, .ok ())

end Layer

end Compositor
