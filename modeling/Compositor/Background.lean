import Compositor.Download
import Compositor.Stream.Probe

/-!
# Backgrounds

The canvas of a composition shows a color, a still image that is repeated, a
video, or nothing at all. Only a video has a length and may have sound.
-/
namespace Compositor

inductive BackgroundKind where
  | color
  | image
  | video
  | empty
  deriving DecidableEq, Repr

namespace BackgroundKind

def name : BackgroundKind → String
  | .color => "color"
  | .image => "image"
  | .video => "video"
  | .empty => "empty"

def ofName? (s : String) : Option BackgroundKind :=
  [BackgroundKind.color, .image, .video, .empty].find? fun k => k.name == s

end BackgroundKind

/-- A backdrop. Audio settings and trims that were set later are kept as given. -/
structure Background where
  kind : BackgroundKind
  width : Int
  height : Int
  fps : Float
  color : Option String
  source : Option String
  trim : Option (Trim Json)
  audioEnabled : Json
  volume : Float
  info : Option StreamInfo

/-- A number sign and six hexadecimal digits. -/
def isHexColor (s : String) : Bool :=
  match s.toList with
  | '#' :: digits => digits.length == 6 && digits.all fun c => (Text.hexValue? c).isSome
  | _ => false

namespace Background

open Record in
/-- A color, if it is written in hexadecimal (`_check_color`). -/
def readColor : Reader (Option String) := fun v =>
  (nullable text v).andThen fun color =>
    match color with
    | none => .valid none
    | some s =>
      if isHexColor s then .valid (some s)
      else Checked.complain
        (.rule ("Color must be in hex format (#RRGGBB), got " ++ Text.quoted s))

open Record in
def read (fields : Fields) : Checked Background :=
  Background.mk <$> required fields "kind" (word BackgroundKind.ofName? .literal)
    <*> required fields "width" int
    <*> required fields "height" int
    <*> required fields "fps" real
    <*> optional fields "color" readColor none
    <*> maybe fields "source" text
    <*> maybe fields "source_trim" Record.trim
    <*> (Json.bool <$> optional fields "audio_enabled" bool false)
    <*> optional fields "audio_volume" real 1
    <*> maybe fields "info" (object StreamInfo.read)

def toJson (b : Background) : Json :=
  .obj [("kind", b.kind.name), ("width", .int b.width), ("height", .int b.height),
    ("fps", .real b.fps), ("color", .ofOption .str b.color), ("source", .ofOption .str b.source),
    ("source_trim", .ofOption Trim.toJson b.trim), ("audio_enabled", b.audioEnabled),
    ("audio_volume", .real b.volume), ("info", .ofOption StreamInfo.toJson b.info)]

/-- A plain color (`from_color`). -/
def ofColor (color width height fps : Json) : Checked Background :=
  read [("kind", "color"), ("color", color), ("width", width), ("height", height), ("fps", fps)]

/-- A transparent canvas (`empty`). -/
def ofCanvas (width height fps : Json) : Checked Background :=
  read [("kind", "empty"), ("width", width), ("height", height), ("fps", fps)]

/-- A still image, which gives the canvas its size (`from_image`). -/
def ofImage (source : String) (fps : Json) (context : Option ContextId) : Act Background := do
  let info ← StreamInfo.probe source (← Context.orDefault context)
  match info.dimensions? with
  | none => Act.fail (.media (.imageSize source))
  | some (w, h) =>
    Act.ofExcept (Checked.toExcept (read [("kind", "image"), ("source", source),
      ("width", .int w), ("height", .int h), ("fps", fps), ("info", info.toJson)]))

/-- The frame rate of a video, unless it is unknown or zero. -/
def frameRate (info : StreamInfo) : Float :=
  match info.fps with
  | some fps => if fps == 0 then 30 else fps
  | none => 30

/-- A video with its sound, which gives the canvas its size and rate (`from_video`). -/
def ofVideo (source : String) (context : Option ContextId) : Act Background := do
  let info ← StreamInfo.probe source (← Context.orDefault context)
  match info.dimensions? with
  | none => Act.fail (.media (.videoSize source))
  | some (width, height) =>
    if info.rotation == 90 || info.rotation == 270 then
      Act.debug ("Video has " ++ toString info.rotation ++ "° rotation, using " ++
        toString width ++ "x" ++ toString height)
    return {
      kind := .video, width, height, fps := frameRate info, color := none, source := some source,
      trim := none, audioEnabled := true, volume := 1, info := some info }

/-- Other settings for the sound (`audio`). -/
def withAudio (b : Background) (enabled volume : Json) : Except Fault Background := do
  .ok { b with audioEnabled := enabled, volume := ← volume.clampUnit }

/-- A part of a video (`subclip`). -/
def subclip (b : Background) (start : Json) (stop : Option Json) : Except Fault Background :=
  if b.kind == .video then .ok { b with trim := some ⟨start, stop⟩ }
  else .error (.media (.subclipOf b.kind.name))

/-- Whether the background gives the composition its length (`controls_duration`). -/
def controlsDuration (b : Background) : Bool := b.kind == .video

/-- Whether the source was found to have sound (`has_audio`). -/
def hasAudio (b : Background) : Bool :=
  b.kind == .video && (b.info.map StreamInfo.hasAudio).getD false

/-- The length of the trimmed source, if it is known (`duration`). -/
def duration (b : Background) : Except Fault (Option Json) :=
  if b.kind == .video then Trim.clipLength (b.info.bind StreamInfo.length) b.trim else .ok none

/-- An input that shows one color for ever (`lavfi_color`). -/
def colorInput (color width height fps : Json) : List String :=
  ["-f", "lavfi", "-i",
    "color=c=" ++ color.text ++ ":size=" ++ width.text ++ "x" ++ height.text ++
      ":rate=" ++ fps.text]

/-- The color of a transparent canvas. -/
def transparent : Json := "black@0.0"

/-- The local copy of a remote image, which the tool would otherwise fetch over and over. -/
def stagedImage (source : String) (manifest : ManifestId) : Act String := do
  if (← Act.ofExcept (Locator.sourceType source)) == .url then
    Download.toFile source (fun ext => Manifest.path manifest ext "downloaded_image_") ".png"
      (.int 30)
  else return source

/-- The source of an image; with a manifest, remote images are staged (`_image_args`). -/
def imageSource (b : Background) (manifest : Option ManifestId) : Act (Option String) := do
  match b.source, manifest with
  | some source, some id => return some (← stagedImage source id)
  | source, _ => return source

/-- A source as an element of a command. One that was never set leaves a gap. -/
def sourceArgument (source : Option String) : Argument := .ofOption .str source

/-- The arguments that select the decoder of a video (`_video_args`). -/
def decoderArgs (b : Background) (context : ContextId) : Act (List String) := do
  if (b.info.map StreamInfo.needsVp9Decoder).getD false then
    if ← Context.keepsVp9Alpha context then
      Act.debug ("Using libvpx-vp9 decoder for: " ++ (sourceArgument b.source).text)
      return ["-c:v", Context.alphaDecoder]
  return []

/-- The arguments of the input of a background, for a canvas of some size (`input_args`). -/
def inputArgs (b : Background) (width height fps : Json) (context : ContextId)
    (manifest : Option ManifestId) : Act (List Argument) := do
  match b.kind with
  | .color =>
    return Argument.ofTexts (colorInput (.ofOption .str b.color) width height fps)
  | .empty => return Argument.ofTexts (colorInput transparent width height fps)
  | .image =>
    let source ← imageSource b manifest
    return ["-loop", "1", "-i", sourceArgument source]
  | .video =>
    let decoder ← decoderArgs b context
    let trim ← Act.ofExcept (Trim.args b.trim)
    return Argument.ofTexts (decoder ++ trim ++ ["-i"]) ++ [sourceArgument b.source]

end Background

end Compositor
