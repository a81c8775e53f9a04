import Compositor.Composition.Picture
import Compositor.Composition.Sound

/-!
# The command of a composition

A composition becomes one command: the inputs in the order of background and
layers, the graph, the streams that go into the output, its length, and how it is
encoded.
-/
namespace Compositor

/-- The containers of output that is piped. -/
inductive PipeFormat where
  | y4m
  | webm
  | matroska
  | fragmentedMp4
  deriving DecidableEq, Repr

namespace PipeFormat

def name : PipeFormat → String
  | .y4m => "y4m"
  | .webm => "webm"
  | .matroska => "matroska"
  | .fragmentedMp4 => "mp4_fragmented"

def ofName? (s : String) : Option PipeFormat :=
  [PipeFormat.y4m, .webm, .matroska, .fragmentedMp4].find? fun f => f.name == s

def args : PipeFormat → List String
  | .y4m => ["-f", "yuv4mpegpipe"]
  | .webm => ["-f", "webm"]
  | .matroska => ["-f", "matroska"]
  | .fragmentedMp4 => ["-f", "mp4", "-movflags", "frag_keyframe+empty_moov"]

/-- The arguments for a container given by its name. A value that stands for nothing
names none, and a value with items cannot be a name. -/
def namedArgs (name : Json) : Except Fault (List String) :=
  if !name.isTruthy then .ok []
  else
    match name with
    | .str name =>
      match ofName? name with
      | some f => .ok f.args
      | none => .error .noKey
    | .arr _ | .obj _ => .error .wrongType
    | _ => .error .noKey

end PipeFormat

/-- The input stage of a command. -/
structure InputStage where
  args : List String
  inputs : InputTable
  audio : List AudioSource

namespace Composition

/-- Wires the inputs of layers in the order in which they were added, counted
from `next`. -/
def wireLayers (context : ContextId)
    (sound : Layer → InputWiring → Except Fault (List AudioSource)) :
    Nat → Int → List Layer → Act InputStage
  | _, _, [] => return ⟨[], [], []⟩
  | i, next, layer :: rest => do
    let trim ← Act.ofExcept (Trim.args layer.effectiveTrim)
    let wiring ← layer.clip.wiring next (Foreground.layerLabel (.int i)) context trim
    let audio ← Act.ofExcept (sound layer wiring)
    let others ← wireLayers context sound (i + 1) (next + wiring.inputs.length) rest
    return ⟨wiring.args ++ others.args, wiring.inputs ++ others.inputs, audio ++ others.audio⟩

/-- The inputs of the layers by name, with the background in front. -/
def inputTable (stage : InputStage) : InputTable := (backgroundKey, 0) :: stage.inputs

/-- The arguments of the input that shows the background. -/
def backgroundArgs (c : Composition) (frame : Frame) (manifest : Option ManifestId) :
    Act (List Argument) := do
  match c.background with
  | some b => b.inputArgs frame.width frame.height frame.fps c.context manifest
  | none =>
    return Argument.ofTexts
      (Background.colorInput Background.transparent frame.width frame.height frame.fps)

/-- A command up to its inputs. -/
structure Opening where
  frame : Frame
  args : List Argument
  stage : InputStage

/-- The canvas, the tool and all inputs. -/
def opening (c : Composition) (manifest : Option ManifestId) : Act Opening := do
  let frame ← Act.ofExcept c.frame
  let tools ← Context.ofId c.context
  let background ← c.backgroundArgs frame manifest
  let stage ← wireLayers c.context Layer.audioSource 0 1 c.layers
  return ⟨frame, [tools.ffmpeg, "-y"] ++ background ++ Argument.ofTexts stage.args, stage⟩

/-- The graph and the arguments that select its outputs. -/
def outputs (c : Composition) (stage : InputStage) (frame : Frame) (encoder : EncoderProfile) :
    Except Fault (FilterGraph × List String) := do
  let sources := stage.audio ++ (c.background.map Background.audioSource).getD []
  let build : GraphBuilder (List String) := do
    let pad ← c.picture (inputTable stage) frame.canvas encoder
    let audio ← AudioSource.args sources
    return ["-map", pad.mapSpec] ++ audio
  let (selection, graph) ← build.run FilterGraph.empty
  match graph.validate with
  | .error e => .error (.graph e)
  | .ok () => .ok (graph, selection)

/-- The graph as an argument, unless it is empty. -/
def graphArgs (graph : FilterGraph) : List String :=
  if graph.isEmpty then [] else ["-filter_complex", graph.render]

/-- The length of the output as an argument; the rule it comes from is logged. -/
def lengthArgs (c : Composition) : Act (List String) := do
  match ← Act.ofExcept c.lengthRule with
  | (some d, rule) =>
    if d.isTruthy then
      let shown ← Act.ofExcept d.onePlaceText
      Act.info ("Using " ++ rule.text ++ ": " ++ shown ++ "s")
      return ["-t", d.text]
    else return []
  | (none, _) => return []

/-- The complete command that renders a composition (`build_argv`). -/
def command (c : Composition) (outPath : Argument) (encoder : EncoderProfile)
    (format : Json) (manifest : Option ManifestId) : Act (List Argument) := do
  let o ← c.opening manifest
  let (graph, selection) ← Act.ofExcept (c.outputs o.stage o.frame encoder)
  let length ← c.lengthArgs
  let container ← Act.ofExcept (PipeFormat.namedArgs format)
  return o.args ++ Argument.ofTexts (graphArgs graph ++ selection ++ length ++
    encoder.codecArgs ++ container) ++ [outPath]

/-- The graph of the picture alone (`build_graph`). -/
def graph (c : Composition) (encoder : EncoderProfile) : Act FilterGraph := do
  let frame ← Act.ofExcept c.frame
  let stage ← wireLayers c.context (fun _ _ => .ok []) 0 1 c.layers
  let build := c.picture (inputTable stage) frame.canvas encoder
  let (_, graph) ← Act.ofExcept (build.run FilterGraph.empty)
  return graph

/-- The command for a file, as one line of text (`dry_run`). Nothing is rendered. -/
def preview (c : Composition) : Act String := do
  let command ← c.command "OUT.mp4" EncoderProfile.h264 .null none
  return String.intercalate " " (command.map Json.text)

end Composition

end Compositor
