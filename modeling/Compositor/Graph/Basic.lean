/-!
# Filter graphs

A filter graph is a list of statements `[in]expression[out]`. Its edges are pads:
either a stream of an input file or a labelled output of an earlier statement.
`FilterGraph.addMulti` appends a statement, `validate` checks that every label is
produced before it is read and used exactly once, and `render` gives the text.
-/
namespace Compositor

/-- What an edge of a graph carries. -/
inductive StreamKind where
  | video
  | audio
  deriving DecidableEq, Repr

namespace StreamKind

def letter : StreamKind → String
  | .video => "v"
  | .audio => "a"

/-- The word used in messages. -/
def word : StreamKind → String
  | .video => "VIDEO"
  | .audio => "AUDIO"

def ofLetter? (s : String) : Option StreamKind :=
  if s == "v" then some .video else if s == "a" then some .audio else none

end StreamKind

/-- An edge of a graph: a stream of input `inputIndex`, or a labelled output of a statement. -/
structure Pad where
  label : String
  kind : StreamKind
  inputIndex : Option Int
  deriving DecidableEq, Repr

namespace Pad

def isInput (p : Pad) : Bool := p.inputIndex.isSome

/-- The reference to a pad inside a statement (`ref`). -/
def ref (p : Pad) : String := "[" ++ p.label ++ "]"

/-- The value that selects a pad for the output file (`map_spec`). -/
def mapSpec (p : Pad) : String := if p.isInput then p.label else p.ref

/-- The stream of one kind of an input file (`FilterGraph.input`). -/
def input (index : Int) (kind : StreamKind) : Pad :=
  ⟨toString index ++ ":" ++ kind.letter, kind, some index⟩

/-- The output of a statement. -/
def link (label : String) (kind : StreamKind) : Pad := ⟨label, kind, none⟩

end Pad

/-- One statement. -/
structure FilterNode where
  expr : String
  kind : StreamKind
  inputs : List Pad
  outputs : List Pad
  deriving DecidableEq, Repr

namespace FilterNode

/-- The name of the first filter of the expression. -/
def name (n : FilterNode) : String :=
  String.ofList (n.expr.toList.takeWhile fun c => c != '=' && c != ',')

def render (n : FilterNode) : String :=
  String.join (n.inputs.map Pad.ref) ++ n.expr ++ String.join (n.outputs.map Pad.ref)

end FilterNode

/-- Why a statement or a graph is refused. -/
inductive GraphError where
  | noInputs (expr : String)
  | mixedKinds (expr : String) (pad : Pad) (node : StreamKind)
  | unknownLabel (expr label : String)
  | duplicateLabel (label : String)
  | consumedEarly (label : String)
  | consumedTimes (label : String) (count : Nat)
  deriving DecidableEq, Repr

namespace GraphError

def message : GraphError → String
  | .noInputs expr => "Filter '" ++ expr ++ "' has no inputs"
  | .mixedKinds expr pad node =>
    "Filter '" ++ expr ++ "' mixes " ++ pad.kind.word ++ " input " ++ pad.label ++
      " into a " ++ node.word ++ " node"
  | .unknownLabel expr label => "Filter '" ++ expr ++ "' consumes unknown label " ++ label
  | .duplicateLabel label => "Duplicate filter label: " ++ label
  | .consumedEarly label => "Label " ++ label ++ " consumed before it is produced"
  | .consumedTimes label count =>
    "Label " ++ label ++ " is consumed " ++ toString count ++ " times"

end GraphError

/-- Statements in order, the pads declared as outputs of the whole graph, and the
labels taken so far. -/
structure FilterGraph where
  nodes : List FilterNode
  outputs : List Pad
  produced : List Pad
  deriving DecidableEq, Repr

namespace FilterGraph

def empty : FilterGraph := ⟨[], [], []⟩

def isEmpty (g : FilterGraph) : Bool := g.nodes.isEmpty

def isTaken (g : FilterGraph) (label : String) : Bool :=
  g.produced.any fun p => p.label == label

/-- Refuses the first pad of another kind or with a label that nothing produces. -/
def checkInputs (g : FilterGraph) (expr : String) (kind : StreamKind) :
    List Pad → Except GraphError Unit
  | [] => .ok ()
  | p :: rest =>
    if p.kind != kind then .error (.mixedKinds expr p kind)
    else if !p.isInput && !g.isTaken p.label then .error (.unknownLabel expr p.label)
    else g.checkInputs expr kind rest

/-- Takes new labels one by one, up to the first that is already taken; the ones
before it stay taken. -/
def takeLabels (g : FilterGraph) (kind : StreamKind) :
    List String → FilterGraph × Except GraphError (List Pad)
  | [] => (g, .ok [])
  | label :: rest =>
    if g.isTaken label then (g, .error (.duplicateLabel label))
    else
      let pad := Pad.link label kind
      let (g, taken) := takeLabels { g with produced := g.produced ++ [pad] } kind rest
      (g, taken.map (pad :: ·))

/-- Appends a statement with any number of outputs and answers their pads (`add_multi`). The kind of
the statement is that of its first input unless it is given. -/
def addMulti (g : FilterGraph) (expr : String) (inputs : List Pad) (labels : List String)
    (kind : Option StreamKind) : FilterGraph × Except GraphError (List Pad) :=
  match inputs with
  | [] => (g, .error (.noInputs expr))
  | first :: _ =>
    let kind := kind.getD first.kind
    match g.checkInputs expr kind inputs with
    | .error e => (g, .error e)
    | .ok () =>
      match g.takeLabels kind labels with
      | (g, .error e) => (g, .error e)
      | (g, .ok pads) => ({ g with nodes := g.nodes ++ [⟨expr, kind, inputs, pads⟩] }, .ok pads)

/-- Appends a statement with one output (`add`). -/
def add (g : FilterGraph) (expr : String) (inputs : List Pad) (label : String)
    (kind : Option StreamKind) : FilterGraph × Except GraphError Pad :=
  let (g, pads) := g.addMulti expr inputs [label] kind
  (g, pads.map fun ps => ps.headD (Pad.link label (kind.getD .video)))

/-- Declares a pad as an output of the graph (`mark_output`). -/
def markOutput (g : FilterGraph) (p : Pad) : FilterGraph :=
  { g with outputs := g.outputs ++ [p] }

/-- The statement that produces a label (`producer`). -/
def producer? (g : FilterGraph) (label : String) : Option FilterNode :=
  g.nodes.find? fun n => n.outputs.any fun p => p.label == label

/-- The statements that read a pad, in order (`consumers`). -/
def consumers (g : FilterGraph) (p : Pad) : List FilterNode :=
  g.nodes.filter fun n => n.inputs.contains p

/-- Whether one of the first `bound` statements produces the label and no later one does. -/
def isProducedBefore (g : FilterGraph) (bound : Nat) (label : String) : Bool :=
  let makes (n : FilterNode) : Bool := n.outputs.any fun p => p.label == label
  (g.nodes.take bound).any makes && !(g.nodes.drop bound).any makes

/-- The first label, reading the statements in order from the `i`-th on, that is
read before it is produced. -/
def firstEarly? (g : FilterGraph) : Nat → List FilterNode → Option String
  | _, [] => none
  | i, n :: rest =>
    match n.inputs.find? fun p => !p.isInput && !g.isProducedBefore i p.label with
    | some p => some p.label
    | none => g.firstEarly? (i + 1) rest

/-- The number of times a label is read by a statement or declared as an output. -/
def uses (g : FilterGraph) (label : String) : Nat :=
  (g.nodes.flatMap FilterNode.inputs ++ g.outputs).countP fun p =>
    !p.isInput && p.label == label

/-- The labels whose uses are counted: all outputs of statements, then all declared ones. -/
def countedLabels (g : FilterGraph) : List String :=
  ((g.nodes.flatMap FilterNode.outputs) ++ g.outputs.filter fun p => !p.isInput).map Pad.label

/-- Checks that labels are read after they are produced, and that each is used exactly once
(`validate`). -/
def validate (g : FilterGraph) : Except GraphError Unit :=
  match g.firstEarly? 0 g.nodes with
  | some label => .error (.consumedEarly label)
  | none =>
    match g.countedLabels.find? fun label => g.uses label != 1 with
    | some label => .error (.consumedTimes label (g.uses label))
    | none => .ok ()

/-- The statements joined by semicolons (`render`). -/
def render (g : FilterGraph) : String :=
  String.intercalate ";" (g.nodes.map FilterNode.render)

end FilterGraph

end Compositor
