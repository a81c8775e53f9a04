import Compositor.Fault

/-!
# Building graphs

A graph that belongs to one computation is built statement by statement; the
first statement that is refused ends the computation.
-/
namespace Compositor

/-- A computation that appends to a graph. -/
abbrev GraphBuilder := StateT FilterGraph (Except Fault)

namespace GraphBuilder

/-- Appends a statement with one output. -/
def statement (expr : String) (inputs : List Pad) (label : String) : GraphBuilder Pad := fun g =>
  match g.add expr inputs label none with
  | (g, .ok pad) => .ok (pad, g)
  | (_, .error e) => .error (.graph e)

/-- Appends a statement with two outputs. -/
def fork (expr : String) (input : Pad) (first second : String) : GraphBuilder (Pad × Pad) :=
  fun g =>
    match g.addMulti expr [input] [first, second] none with
    | (g, .ok [a, b]) => .ok ((a, b), g)
    | (_, .ok _) => .error .wrongValue
    | (_, .error e) => .error (.graph e)

def markOutput (p : Pad) : GraphBuilder Unit := modify fun g => g.markOutput p

end GraphBuilder

/-- The inputs of a command by name. -/
abbrev InputTable := List (String × Int)

namespace InputTable

/-- The stream of a named input. -/
def stream (inputs : InputTable) (name : String) (kind : StreamKind) : Except Fault Pad :=
  match inputs.find? fun e => e.1 == name with
  | some e => .ok (Pad.input e.2 kind)
  | none => .error .noKey

end InputTable

end Compositor
