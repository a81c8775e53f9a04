import Compositor.Locator
import Compositor.Record

/-!
# Streams

What is known about the first video stream of a source. When probing fails, a
placeholder stands in, whose codec is unknown.
-/
namespace Compositor

structure StreamInfo where
  source : String
  sourceType : SourceType
  codec : String
  pixelFormat : String
  width : Option Int
  height : Option Int
  rotation : Int
  fps : Option Float
  duration : Option Float
  hasAudio : Bool
  needsVp9Decoder : Bool
  deriving DecidableEq, Repr

namespace StreamInfo

def unknown : String := "unknown"

/-- The pixel formats with an alpha channel. -/
def alphaFormats : List String :=
  ["yuva420p", "yuva422p", "yuva444p", "yuva444p10le", "rgba", "bgra", "argb", "abgr"]

/-- Whether probing succeeded (`complete`). -/
def isComplete (i : StreamInfo) : Bool := i.codec != unknown

/-- Whether the pixels have an alpha channel (`has_alpha`). -/
def hasAlpha (i : StreamInfo) : Bool := alphaFormats.contains i.pixelFormat

/-- The length as a quantity of time. -/
def length (i : StreamInfo) : Option Json := i.duration.map Json.real

/-- Width and height, if both are known and not zero. -/
def dimensions? (i : StreamInfo) : Option (Int × Int) :=
  match i.width, i.height with
  | some w, some h => if w == 0 || h == 0 then none else some (w, h)
  | _, _ => none

/-- The decoder a source will need, guessed from its locator. -/
def guessVp9 (source : String) : Except Fault Bool := do
  match ← Locator.sourceType source with
  | .stream => .ok (1 < ((Text.lower source).splitOn ".webm").length)
  | _ => .ok ((← Locator.extension source) == ".webm")

/-- What is assumed about a source that cannot be probed (`placeholder_info`). -/
def placeholder (source : String) : Except Fault StreamInfo := do
  let sourceType ← Locator.sourceType source
  let needsVp9Decoder ← guessVp9 source
  .ok {
    source, sourceType, codec := unknown, pixelFormat := unknown, width := none, height := none,
    rotation := 0, fps := none, duration := none, hasAudio := false, needsVp9Decoder }

/-- What is assumed about a source given as any value. Only text can be a source. -/
def placeholderOf (source : Json) : Except Fault StreamInfo := do
  match source with
  | .str source => placeholder source
  | other =>
    let _ ← Locator.typeOfValue other
    let _ ← Locator.extensionOfValue other
    .error .wrongType

open Record in
def read (fields : Fields) : Checked StreamInfo :=
  StreamInfo.mk <$> required fields "source" text
    <*> optional fields "source_type" (word SourceType.ofName? .literal) .file
    <*> optional fields "codec_name" text unknown
    <*> optional fields "pix_fmt" text unknown
    <*> maybe fields "width" int
    <*> maybe fields "height" int
    <*> optional fields "rotation" int 0
    <*> maybe fields "fps" real
    <*> maybe fields "duration" real
    <*> optional fields "has_audio" bool false
    <*> optional fields "needs_vp9_decoder" bool false

def toJson (i : StreamInfo) : Json :=
  .obj [("source", i.source), ("source_type", i.sourceType.name), ("codec_name", i.codec),
    ("pix_fmt", i.pixelFormat), ("width", .ofOption .int i.width),
    ("height", .ofOption .int i.height), ("rotation", .int i.rotation),
    ("fps", .ofOption .real i.fps), ("duration", .ofOption .real i.duration),
    ("has_audio", i.hasAudio), ("needs_vp9_decoder", i.needsVp9Decoder)]

end StreamInfo

end Compositor
