import Compositor.Graph.Basic
import Compositor.Record

/-!
# Pads and graphs as records

A graph is shown with its statements as text. A statement may be given with texts
that are any values; only proper texts are taken.
-/
namespace Compositor

namespace Pad

open Record in
def read (fields : Fields) : Checked Pad :=
  Pad.mk <$> required fields "label" text
    <*> required fields "kind" (word StreamKind.ofLetter? .enumeration)
    <*> maybe fields "input_index" int

def toJson (p : Pad) : Json :=
  .obj [("label", p.label), ("kind", p.kind.letter), ("input_index", .ofOption .int p.inputIndex)]

/-- The stream of one kind of an input whose number is kept as given in its label. -/
def ofIndex (index : Json) (kind : StreamKind) : Checked Pad :=
  read [("label", index.text ++ ":" ++ kind.letter), ("kind", kind.letter),
    ("input_index", index)]

/-- The video stream of an input found by name in a table given as any value. -/
def ofTable (table : Json) (name : String) : Except Fault Pad :=
  match table with
  | .obj inputs =>
    match Json.lookup? inputs name with
    | some index => (ofIndex index .video).toExcept
    | none => .error .noKey
  | _ => .error .wrongType

end Pad

namespace FilterNode

def toJson (n : FilterNode) : Json :=
  .obj [("name", n.name), ("kind", n.kind.letter), ("render", n.render)]

end FilterNode

namespace FilterGraph

def nodesJson (g : FilterGraph) : Json := .arr (g.nodes.map FilterNode.toJson)

def toJson (g : FilterGraph) : Json :=
  let labels (pads : List Pad) : Json := .arr (pads.map fun p => .str p.label)
  .obj [("nodes", .arr (g.nodes.map fun n => .str n.render)), ("outputs", labels g.outputs),
    ("produced", labels g.produced), ("len", .int g.nodes.length), ("bool", !g.isEmpty)]

/-- The texts at the beginning of a list of values, and what follows them. -/
def leadingTexts : List Json → List String × List Json
  | .str s :: rest =>
    let (texts, others) := leadingTexts rest
    (s :: texts, others)
  | others => ([], others)

/-- What is wrong with the first value that is no label. A value with items cannot
even be looked up. -/
def labelFault? : List Json → Option Fault
  | [] => none
  | .arr _ :: _ | .obj _ :: _ => some .wrongType
  | _ :: _ => some (.invalid [⟨[.field "label"], .stringType⟩])

/-- Appends a statement whose expression and labels are given as any values. Labels
before the first value that is none stay taken, as do those of a statement without a
proper expression. -/
def addRecord (g : FilterGraph) (expr : Json) (inputs : List Pad) (labels : List Json)
    (kind : Option StreamKind) : FilterGraph × Except Fault (List Pad) :=
  match inputs with
  | [] => (g, .error (.graph (.noInputs expr.text)))
  | first :: _ =>
    let kind := kind.getD first.kind
    match g.checkInputs expr.text kind inputs with
    | .error e => (g, .error (.graph e))
    | .ok () =>
      let (texts, others) := leadingTexts labels
      match g.takeLabels kind texts with
      | (g, .error e) => (g, .error (.graph e))
      | (g, .ok pads) =>
        match labelFault? others, expr with
        | some e, _ => (g, .error e)
        | none, .str expr => ({ g with nodes := g.nodes ++ [⟨expr, kind, inputs, pads⟩] }, .ok pads)
        | none, _ => (g, .error (.invalid [⟨[.field "expr"], .stringType⟩]))

end FilterGraph

end Compositor
