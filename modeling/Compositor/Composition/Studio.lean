import Compositor.Composition.Basic

/-!
# Shared layers

Compositions that are derived from one another share the layers they have in
common: an edit of a layer is seen in all of them. The studio keeps every layer
once, and a sheet lists the layers of one composition by number. Layers are never
removed, so a number always means the same layer.
-/
namespace Compositor

/-- One composition, whose layers are kept by the studio. -/
structure Sheet where
  background : Option Background
  /-- The numbers of the layers in the order in which they were added. -/
  layers : List Nat
  hint : Option Frame
  length : Option Json
  context : ContextId

structure Studio where
  layers : List Layer
  sheets : List Sheet

structure SheetId where
  index : Nat
  deriving DecidableEq, Repr

/-- A layer of a composition, by its place in the order of layers (`LayerHandle`). -/
structure Handle where
  sheet : SheetId
  number : Nat
  deriving DecidableEq, Repr

namespace Studio

def empty : Studio := ⟨[], []⟩

def sheet? (s : Studio) (id : SheetId) : Option Sheet := s.sheets[id.index]?

/-- Adds a sheet and answers its number. -/
def enter (s : Studio) (sheet : Sheet) : Studio × SheetId :=
  ({ s with sheets := s.sheets ++ [sheet] }, ⟨s.sheets.length⟩)

/-- A new composition without layers (`Composition`). -/
def create (s : Studio) (background : Option Background) (context : ContextId) :
    Studio × SheetId :=
  s.enter ⟨background, [], none, none, context⟩

/-- A new composition that differs from another one as `change` says (`_copy`). -/
def derive (s : Studio) (id : SheetId) (change : Sheet → Sheet) : Studio × Except Fault SheetId :=
  match s.sheet? id with
  | some sheet =>
    let (s, entered) := s.enter (change sheet)
    (s, .ok entered)
  | none => (s, .error .noKey)

/-- The same layers over another background (`background`). -/
def withBackground (s : Studio) (id : SheetId) (background : Option Background) :
    Studio × Except Fault SheetId :=
  s.derive id fun sheet => { sheet with background }

/-- The same layers with a canvas for the case that the background gives none (`set_canvas`). -/
def withCanvas (s : Studio) (id : SheetId) (frame : Frame) : Studio × Except Fault SheetId :=
  s.derive id fun sheet => { sheet with hint := some frame }

/-- The same layers with another length (`set_duration`). -/
def withLength (s : Studio) (id : SheetId) (length : Option Json) : Studio × Except Fault SheetId :=
  s.derive id fun sheet => { sheet with length }

/-- The layer with a number. -/
def layerAt? (s : Studio) (number : Nat) : Option Layer := s.layers[number]?

/-- The numbers of the layers of a composition. -/
def layerNumbers (s : Studio) (id : SheetId) : List Nat :=
  ((s.sheet? id).map Sheet.layers).getD []

/-- The composition on a sheet. -/
def composition? (s : Studio) (id : SheetId) : Option Composition :=
  (s.sheet? id).map fun sheet => {
    background := sheet.background
    layers := sheet.layers.filterMap s.layerAt?
    hint := sheet.hint
    length := sheet.length
    context := sheet.context }

/-- The number of the layer that a handle stands for. -/
def layerNumber? (s : Studio) (h : Handle) : Option Nat :=
  (s.sheet? h.sheet).bind fun sheet => sheet.layers[h.number]?

/-- The layer that a handle stands for. -/
def layer? (s : Studio) (h : Handle) : Option Layer := (s.layerNumber? h).bind s.layerAt?

/-- The name of a layer: a given one, or one made from its place. -/
def layerName (name : Json) (place : Nat) : Checked String :=
  Record.text (name.orElse ("layer" ++ toString place))

/-- Adds a clip as a new layer on top of one composition and answers its handle (`add`). -/
def add (s : Studio) (id : SheetId) (clip : Checked Foreground) (name : Json) :
    Studio × Except Fault Handle :=
  match s.sheet? id with
  | none => (s, .error .noKey)
  | some sheet =>
    let place := sheet.layers.length
    let layer := (fun name clip => Layer.ofClip name clip place) <$>
      (layerName name place).within (.field "name") <*> clip.within (.field "fg")
    match layer with
    | .invalid issues => (s, .error (.invalid issues))
    | .valid layer =>
      let sheet := { sheet with layers := sheet.layers ++ [s.layers.length] }
      ({ layers := s.layers ++ [layer], sheets := s.sheets.set id.index sheet }, .ok ⟨id, place⟩)

/-- Edits the layer that a handle stands for, in every composition that has it. -/
def edit (s : Studio) (h : Handle) (e : Layer.Edit) : Studio × Except Fault Unit :=
  match s.layerNumber? h with
  | none => (s, .error .noKey)
  | some number =>
    match s.layerAt? number with
    | none => (s, .error .noKey)
    | some layer =>
      let (layer, result) := layer.edit e
      ({ s with layers := s.layers.set number layer }, result)

end Studio

end Compositor
