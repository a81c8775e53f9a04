import Compositor.Json.Conversion
import Compositor.Stream.Info

/-!
# Probe documents

The probing tool describes a source by a document with a list of streams and a
section about the container. The first video stream decides about everything but
the presence of audio; the container is asked for a duration only when that
stream has none.
-/
namespace Compositor

namespace ProbeDocument

/-- The frame rate of sources that give none. -/
def defaultRate : Float := 30

/-- A field of an object, null when it is missing. -/
def get (v : Json) (name : String) : Except Fault Json :=
  match v with
  | .obj fields => .ok ((Json.lookup? fields name).getD .null)
  | _ => .error .noAttribute

/-- The rate written as a number or as a fraction of two (`parse_frame_rate`). -/
def readRate? (s : String) : Option Float :=
  let numerator := s.toList.takeWhile (· != '/')
  match s.toList.drop numerator.length with
  | [] => Decimal.readFloat? s
  | _ :: denominator => do
    let n ← Decimal.readFloat? (String.ofList numerator)
    let d ← Decimal.readFloat? (String.ofList denominator)
    if d == 0 then none else some (n / d)

/-- The frame rate of a stream; text that is no rate stands for the default. -/
def frameRate (v : Json) : Except Fault Float :=
  if !v.isTruthy then .ok defaultRate
  else
    match v with
    | .str s => .ok ((readRate? s).getD defaultRate)
    | .arr items => .error (if items.any (Json.same · "/") then .noAttribute else .wrongType)
    | .obj fields =>
      .error (if (Json.lookup? fields "/").isSome then .noAttribute else .wrongType)
    | _ => .error .wrongType

/-- Answers a value of the wrong kind or outside the range by another result. -/
def orIfUnreadable (r : Except Fault α) (other : α) : Except Fault α :=
  match r with
  | .error .wrongType | .error .wrongValue => .ok other
  | r => r

/-- A duration, unless there is none or it cannot be read (`_parse_duration`). -/
def duration? (v : Json) : Except Fault (Option Float) :=
  match v with
  | .null | .str "" | .str "N/A" => .ok none
  | v => orIfUnreadable (v.toReal.map some) none

/-- The size of a rotation in whole degrees. -/
def degrees (v : Json) : Except Fault Int := do
  let n ← Number.truncate (← v.toReal)
  .ok n.natAbs

/-- The rotation of a stream: its own, else that of its tags, else none (`_parse_rotation`). -/
def rotation (stream : Json) : Except Fault Int := do
  let own ← get stream "rotation"
  if own.isTruthy then orIfUnreadable (degrees own) 0
  else
    let tags := (← get stream "tags").orElse (.obj [])
    let tag ← get tags "rotate"
    if tag.isTruthy then orIfUnreadable (degrees tag) 0 else .ok 0

/-- The streams of a document. -/
def streams (data : Json) : Except Fault (List Json) := do
  ((← get data "streams").orElse (.arr [])).items

/-- The first stream of a type. -/
def firstOfType? (type : String) : List Json → Except Fault (Option Json)
  | [] => .ok none
  | s :: rest => do
    if Json.same (← get s "codec_type") type then .ok (some s) else firstOfType? type rest

/-- Width and height, exchanged when the picture lies on its side. -/
def upright (rotation : Int) (width height : Json) : Json × Json :=
  if !width.isNull && !height.isNull && (rotation == 90 || rotation == 270) then (height, width)
  else (width, height)

def side (v : Json) : Except Fault (Option Int) :=
  if v.isNull then .ok none else v.toInt.map some

/-- Whether a stream is of the kind that keeps alpha only with another decoder. -/
def keepsAlphaInVp9 (codec pixelFormat : Json) : Except Fault Bool :=
  if Json.same codec "vp9" then
    match pixelFormat with
    | .str s => .ok (StreamInfo.alphaFormats.contains s)
    | .arr _ | .obj _ => .error .wrongType
    | _ => .ok false
  else .ok false

end ProbeDocument

open ProbeDocument in
/-- What a document says about a source; nothing when it has no video stream
(`parse_probe_output`). -/
def StreamInfo.ofDocument? (source data : Json) : Except Fault (Option StreamInfo) := do
  let all ← streams data
  match ← firstOfType? "video" all with
  | none => .ok none
  | some video =>
    let width ← get video "width"
    let height ← get video "height"
    let turned ← ProbeDocument.rotation video
    let (width, height) := upright turned width height
    let own ← ProbeDocument.duration? (← get video "duration")
    let duration ← match own with
      | some d => pure (some d)
      | none => do
        let container := (← get data "format").orElse (.obj [])
        ProbeDocument.duration? (← get container "duration")
    let codec := (← get video "codec_name").orElse unknown
    let pixelFormat := (← get video "pix_fmt").orElse unknown
    let sourceType ← Locator.typeOfValue source
    let width ← side width
    let height ← side height
    let fps ← frameRate (← get video "r_frame_rate")
    let audio ← firstOfType? "audio" all
    let needsVp9 ← keepsAlphaInVp9 codec pixelFormat
    let info ← (read [("source", source), ("source_type", sourceType.name),
      ("codec_name", codec), ("pix_fmt", pixelFormat), ("width", .ofOption .int width),
      ("height", .ofOption .int height), ("rotation", .int turned), ("fps", .real fps),
      ("duration", .ofOption .real duration), ("has_audio", audio.isSome),
      ("needs_vp9_decoder", needsVp9)]).toExcept
    .ok (some info)

end Compositor
