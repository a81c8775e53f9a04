import Compositor.Json.Arithmetic

/-!
# Sizes

The size of a layer is a mode with parameters. `Size.box` gives the box of a
layer sized in percent of the canvas, and `Size.scaleParams` the parameters of
the scaling filter for every mode.
-/
namespace Compositor

inductive SizeMode where
  /-- Fit into the canvas. -/
  | contain
  /-- Fill the canvas. -/
  | cover
  /-- Fit into a box in pixels. -/
  | pixels
  /-- Fit into a box in percent of the canvas. -/
  | percent
  /-- A factor of the source size. -/
  | factor
  | fitWidth
  | fitHeight
  deriving DecidableEq, Repr

namespace SizeMode

def name : SizeMode → String
  | .contain => "contain"
  | .cover => "cover"
  | .pixels => "px"
  | .percent => "canvas_percent"
  | .factor => "scale"
  | .fitWidth => "fit_width"
  | .fitHeight => "fit_height"

def all : List SizeMode := [.contain, .cover, .pixels, .percent, .factor, .fitWidth, .fitHeight]

def ofName? (s : String) : Option SizeMode := all.find? fun m => m.name == s

/-- How the picture keeps its aspect ratio inside the given box, where it does
(`aspect_constraint`). -/
def aspectConstraint? : SizeMode → Option String
  | .pixels | .percent | .contain => some "decrease"
  | .cover => some "increase"
  | .factor | .fitWidth | .fitHeight => none

end SizeMode

/-- A mode and its parameters, whose unit depends on the mode (`SizeSpec`). -/
structure Size (α : Type) where
  mode : SizeMode
  width : Option α
  height : Option α
  percent : Option α
  scale : Option α
  deriving DecidableEq, Repr

/-- Width and height of the canvas. Both are kept as given. -/
structure Canvas where
  width : Json
  height : Json

/-- Percentages `α` of a canvas side `κ`, in whole pixels. -/
class Percentage (κ α : Type) where
  /-- The whole part of so many hundredths of a side. -/
  share : κ → α → Except Fault Int
  /-- All of a side. -/
  whole : κ → Except Fault Int
  /-- Whether a percentage stands for nothing. -/
  isZero : α → Bool

namespace Percentage

variable {κ α : Type} [Percentage κ α]

/-- One side of a box: its own percentage, else the common one, else the whole side. -/
def side (canvas : κ) (own common : Option α) : Except Fault Int :=
  match own with
  | some p => share canvas p
  | none =>
    match common with
    | some p => if isZero κ p then whole α canvas else share canvas p
    | none => whole α canvas

/-- Both sides of the box of a size in percent. -/
def box (width height : κ) (size : Size α) : Except Fault (Int × Int) := do
  let w ← side width size.width size.percent
  let h ← side height size.height size.percent
  .ok (w, h)

end Percentage

/-- Percentages given as doubles: the side is rounded to a double, and so are the
product and the quotient. A whole integer side is rounded once. -/
instance : Percentage Json Float where
  share side p := do
    let x ← (← side.toNumber).toFloat
    Number.floor (x * p / 100)
  whole side := do
    match ← side.toNumber with
    | .int n => Number.floor (← (Number.int n).toFloat)
    | .real x => Number.floor (x * 100 / 100)
  isZero p := p == 0

namespace Size

def default : Size Float := ⟨.contain, none, none, none, none⟩

/-- The text of a parameter; a whole number has no point (`_fmt`). -/
def paramText (x : Float) : String :=
  match Decimal.Dyadic.ofFloat? x with
  | some d => if d.isIntegral then toString d.truncate else Decimal.text x
  | none => Decimal.text x

/-- The box of a size (`target_box`). -/
def box (size : Size Float) (canvas : Canvas) : Except Fault (Int × Int) :=
  Percentage.box canvas.width canvas.height size

/-- The two factors of a size in factors of the source. -/
def factors? (size : Size α) : Option (α × α) :=
  match size.width, size.height with
  | some w, some h => some (w, h)
  | width, height => ((size.scale.or width).or height).map fun f => (f, f)

/-- Width and height for the scaling filter, when there is something to scale. -/
def target? (size : Size Float) (canvas : Canvas) : Except Fault (Option (String × String)) :=
  match size.mode with
  | .pixels =>
    match size.width, size.height with
    | some w, some h =>
      .ok (if w == 0 || h == 0 then none else some (paramText w, paramText h))
    | _, _ => .ok none
  | .percent => do
    let (w, h) ← size.box canvas
    .ok (some (toString w, toString h))
  | .contain | .cover => .ok (some (canvas.width.text, canvas.height.text))
  | .fitWidth => .ok (some (canvas.width.text, "-1"))
  | .fitHeight => .ok (some ("-1", canvas.height.text))
  | .factor =>
    .ok (some (match size.factors? with
      | some (fx, fy) => ("iw*" ++ paramText fx, "ih*" ++ paramText fy)
      | none => ("iw", "ih")))

/-- The parameters of the scaling filter, or nothing for no scaling (`scale_params`). -/
def scaleParams (size : Size Float) (canvas : Canvas) : Except Fault (Option String) := do
  match ← size.target? canvas with
  | none => .ok none
  | some (w, h) =>
    let constraint := match size.mode.aspectConstraint? with
      | some c => ":force_original_aspect_ratio=" ++ c
      | none => ""
    .ok (some (w ++ ":" ++ h ++ constraint))

end Size

end Compositor
