import Compositor.Context
import Compositor.Stream.Document

/-!
# Probing

A source is described by the probing tool. When the tool gives no usable answer,
this is logged and a placeholder is returned.
-/
namespace Compositor.StreamInfo

/-- The entries of a document that the probing tool is to show. -/
def shownEntries : String :=
  "stream=codec_name,codec_type,pix_fmt,width,height,duration,r_frame_rate,rotation" ++
    ":stream_tags=rotate:format=duration"

/-- What the probing tool is asked for. -/
def probeCommand (ffprobe source : Argument) : List Argument :=
  [ffprobe, "-v", "quiet", "-print_format", "json", "-show_entries",
    shownEntries, source]

/-- Remote sources get more time. -/
def probeTimeout : SourceType → Nat
  | .url => 10
  | _ => 5

/-- The document in an answer of the probing tool, or why there is none. A document that
cannot be read for its size ends the probe in a fault, and so does a command that the system is
not asked to run. -/
def documentIn (room : Nat) (source : String) : RunReply → Except Fault (Except String Json)
  | .timedOut _ => .ok (.error ("Probing timed out for " ++ source))
  | .refused .nullCharacter => .error (.ofSystem .nullCharacter)
  | .refused e => .ok (.error ("Probing failed for " ++ source ++ ": " ++ e.text))
  | .finished code stdout stderr =>
    if code != 0 then .ok (.error ("ffprobe failed for " ++ source ++ ": " ++ stderr))
    else
      match Json.read stdout room with
      | .ok data => .ok (.ok data)
      | .error .tooLong => .error (.ofJson .tooLong)
      | .error .tooDeep => .error (.ofJson .tooDeep)
      | .error e =>
        .ok (.error ("Invalid ffprobe output for " ++ source ++ ": " ++ e.message stdout))

/-- A line about a probed source. -/
def summary (i : StreamInfo) : String :=
  "Probed " ++ i.source ++ ": " ++ i.codec ++ "/" ++ i.pixelFormat ++ " " ++
    (Json.ofOption .int i.width).text ++ "x" ++ (Json.ofOption .int i.height).text ++ " @ " ++
    (Json.ofOption .real i.fps).text ++ " fps, duration=" ++ (Json.ofOption .real i.duration).text

/-- Logs why a source could not be probed and answers the placeholder. -/
def giveUp (source reason : String) : Act StreamInfo := do
  Act.warning reason
  Act.ofExcept (placeholder source)

/-- Describes a source by an answer of the probing tool. -/
def ofReply (room : Nat) (source : String) (reply : RunReply) : Act StreamInfo := do
  match ← Act.ofExcept (documentIn room source reply) with
  | .error reason => giveUp source reason
  | .ok data =>
    match ← Act.ofExcept (ofDocument? source data) with
    | none => giveUp source ("No video streams found in " ++ source)
    | some info =>
      Act.debug info.summary
      return info

/-- Describes a source with the tool of a context (`probe_source`). Only text can be given to the
tool. -/
def probe (source : Json) (context : ContextId) : Act StreamInfo := do
  let c ← Context.ofId context
  let sourceType ← Act.ofExcept (Locator.typeOfValue source)
  let reply ← Act.runCommand (probeCommand c.ffprobe source) (probeTimeout sourceType)
  ofReply (← getThe World).platform.room source.text reply

end Compositor.StreamInfo
