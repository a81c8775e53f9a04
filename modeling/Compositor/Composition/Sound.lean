import Compositor.Composition.Basic

/-!
# The sound of a composition

Every layer and the background may be a source of sound. A single source is
passed on as it is when nothing has to be done to it; otherwise the sources that
may be heard are delayed, made louder or softer, and mixed.
-/
namespace Compositor

structure AudioSource where
  pad : Pad
  volume : Float
  /-- The time before it is heard, in seconds. -/
  delay : Float
  /-- Whether it may be heard at all. -/
  audible : Bool
  deriving DecidableEq, Repr

namespace AudioSource

/-- Whether nothing has to be done to the source (`plain`). -/
def isPlain (s : AudioSource) : Bool := s.delay ≤ 0 && s.volume == 1

/-- A delay in whole milliseconds (`_adelay`). -/
def delayExpr (seconds : Float) : Except Fault String := do
  .ok ("adelay=delays=" ++ toString (← Number.floor (seconds * 1000)) ++ ":all=1")

def volumeExpr (volume : Float) : String := "volume=" ++ Decimal.text volume

open GraphBuilder in
/-- Delays a source, if it has a delay. -/
def delayed (s : AudioSource) (label : String) : GraphBuilder Pad := do
  if 0 < s.delay then statement (← (delayExpr s.delay)) [s.pad] label else return s.pad

/-- Selects the stream of a source; a missing one is tolerated. -/
def direct (s : AudioSource) : List String := ["-map", s.pad.label ++ "?"]

open GraphBuilder in
/-- The statements for one source, which end in the audio output. -/
def single (s : AudioSource) : GraphBuilder Pad := do
  let pad ← s.delayed "audio_delayed"
  if s.volume != 1 then statement (volumeExpr s.volume) [pad] "audio_out"
  else statement "anull" [pad] "audio_out"

open GraphBuilder in
/-- The statements for one of several sources. -/
def part (s : AudioSource) (i : Nat) : GraphBuilder Pad := do
  let pad ← s.delayed ("audio_delayed_" ++ toString i)
  if s.volume != 1 then statement (volumeExpr s.volume) [pad] ("audio_vol_" ++ toString i)
  else return pad

def parts : Nat → List AudioSource → GraphBuilder (List Pad)
  | _, [] => pure []
  | i, s :: rest => do
    let pad ← s.part i
    return pad :: (← parts (i + 1) rest)

open GraphBuilder in
/-- The statements that mix several sources. -/
def mix (sources : List AudioSource) : GraphBuilder Pad := do
  let pads ← parts 0 sources
  statement ("amix=inputs=" ++ toString pads.length ++ ":duration=longest") pads "audio_out"

open GraphBuilder in
/-- Declares a pad as an output and selects it. -/
def select (pad : Pad) : GraphBuilder (List String) := do
  markOutput pad
  return ["-map", pad.mapSpec]

/-- The sound of the sources that may be heard. -/
def audibleArgs : List AudioSource → GraphBuilder (List String)
  | [] => pure ["-an"]
  | [s] => do if s.isPlain then return s.direct else select (← s.single)
  | sources => do select (← mix sources)

/-- The statements of the sound, and the arguments that select it (`_build_audio`). -/
def args (sources : List AudioSource) : GraphBuilder (List String) :=
  let heard := sources.filter AudioSource.audible
  match sources with
  | [s] => if s.isPlain then pure s.direct else audibleArgs heard
  | _ => audibleArgs heard

end AudioSource

namespace Layer

/-- A delay as a double; an integer may be too large for one. -/
def delaySeconds (delay : Json) : Except Fault Float :=
  ((Record.real delay).within (.field "delay")).toExcept

/-- The sound of a layer whose inputs are wired, if it is switched on. -/
def audioSource (l : Layer) (wiring : InputWiring) : Except Fault (List AudioSource) :=
  if l.audioEnabled.isTruthy then do
    let pad ← wiring.inputs.stream wiring.audioKey .audio
    let delay ← delaySeconds (← l.startOffset)
    .ok [⟨pad, l.volume, delay, l.clip.mayHaveAudio⟩]
  else .ok []

end Layer

/-- The sound of a background, if it is switched on and there is any. -/
def Background.audioSource (b : Background) : List AudioSource :=
  if b.audioEnabled.isTruthy && b.hasAudio then [⟨Pad.input 0 .audio, b.volume, 0, true⟩] else []

end Compositor
