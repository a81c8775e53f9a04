import Compositor.Archive
import Compositor.Download
import Compositor.Graph.Builder
import Compositor.Stream.Probe

/-!
# Foregrounds

A foreground is a clip that carries transparency in one of four ways. Its inputs
are wired into a command by `wiring`, and `normalize` turns them into one picture
with an alpha channel, or into the bare picture when transparency is off.
-/
namespace Compositor

inductive ForegroundFormat where
  /-- Alpha in the stream itself, as VP9. -/
  | webm
  /-- Alpha in the stream itself, as ProRes. -/
  | prores
  /-- A picture, a matte and possibly sound, in separate files. -/
  | bundle
  /-- The picture above its matte in each frame. -/
  | stacked
  deriving DecidableEq, Repr

namespace ForegroundFormat

def name : ForegroundFormat → String
  | .webm => "webm_vp9"
  | .prores => "mov_prores"
  | .bundle => "pro_bundle"
  | .stacked => "stacked_video"

def all : List ForegroundFormat := [.webm, .prores, .bundle, .stacked]

def ofName? (s : String) : Option ForegroundFormat := all.find? fun f => f.name == s

/-- The format of files with an extension. -/
def ofExtension? (ext : String) : Option ForegroundFormat :=
  if ext == ".webm" then some .webm
  else if ext == ".mov" then some .prores
  else if ext == ".zip" then some .bundle
  else if [".mp4", ".m4v", ".mkv", ".avi"].contains ext then some .stacked
  else none

end ForegroundFormat

/-- A clip. Trims that were set later are kept as given. -/
structure Foreground where
  format : ForegroundFormat
  path : String
  mask : Option String
  audio : Option String
  trim : Option (Trim Json)
  softAlpha : Bool
  info : Option StreamInfo

/-- The inputs of one clip inside a command. -/
structure InputWiring where
  args : List String
  inputs : InputTable
  audioKey : String
  deriving DecidableEq, Repr

namespace InputWiring

def toJson (w : InputWiring) : Json :=
  .obj [("args", .arr (w.args.map Json.str)),
    ("inputs", .obj (w.inputs.map fun e => (e.1, .int e.2))), ("audio_key", w.audioKey)]

end InputWiring

namespace Foreground

/-- The rules of a clip: a matte belongs to bundles and only to them, soft alpha needs one, and a
trim does not end before it starts (`_check_invariants`). -/
def check (f : Foreground) : Checked Foreground :=
  let bundled := f.format == .bundle
  if f.mask.isSome != bundled then
    Checked.complain (.rule "mask_path is required for pro_bundle and only allowed there")
  else if f.softAlpha && !bundled then
    Checked.complain (.rule "soft_alpha is only supported for pro_bundle foregrounds")
  else
    match f.trim.map Trim.check with
    | some (.error e) => Checked.complain (.rule (e.message?.getD ""))
    | _ => .valid f

open Record in
def read (fields : Fields) : Checked Foreground :=
  (Foreground.mk <$> required fields "format" (word ForegroundFormat.ofName? .literal)
    <*> required fields "primary_path" text
    <*> maybe fields "mask_path" text
    <*> maybe fields "audio_path" text
    <*> maybe fields "source_trim" Record.trim
    <*> optional fields "soft_alpha" bool false
    <*> maybe fields "info" (object StreamInfo.read)).andThen check

def toJson (f : Foreground) : Json :=
  .obj [("format", f.format.name), ("primary_path", f.path),
    ("mask_path", .ofOption .str f.mask), ("audio_path", .ofOption .str f.audio),
    ("source_trim", .ofOption Trim.toJson f.trim), ("soft_alpha", f.softAlpha),
    ("info", .ofOption StreamInfo.toJson f.info)]

/-- A clip in one file or at one address (`from_webm_vp9`, `from_mov_prores`,
`from_stacked_video`). -/
def ofSource (format : ForegroundFormat) (path : Json) (context : ContextId) :
    Act Foreground := do
  let info ← StreamInfo.probe path context
  Act.ofExcept (Checked.toExcept (read [("format", format.name), ("primary_path", path),
    ("info", info.toJson)]))

/-- A clip in separate files for the picture, the matte and possibly the sound
(`from_video_and_mask`). -/
def ofFiles (picture mask audio soft : Json) (context : ContextId) : Act Foreground := do
  let info ← StreamInfo.probe picture context
  Act.ofExcept (Checked.toExcept (read [("format", ForegroundFormat.bundle.name),
    ("primary_path", picture), ("mask_path", mask), ("audio_path", audio), ("soft_alpha", soft),
    ("info", info.toJson)]))

/-- The files inside a bundle. -/
def bundlePicture : String := "color.mp4"

def bundleMask : String := "alpha.mp4"

def bundleAudio : String := "audio.m4a"

/-- The path of a bundle on this machine; a remote one is downloaded. -/
def localBundle (path : Json) (context : ContextId) : Act Json := do
  if (← Act.ofExcept (Locator.typeOfValue path)) == .url then
    Download.toFile path.text (fun ext => Context.tempPath context ext "pro_bundle_") ".zip"
  else return path

/-- A member of a bundle that has to be there. -/
def needMember (member path : String) : Option String → Act String
  | some found => return found
  | none => Act.fail (.media (.memberMissing member path))

/-- A clip from an archive that holds its files (`from_pro_bundle_zip`). -/
def ofBundle (path soft : Json) (context : ContextId) : Act Foreground := do
  let path ← localBundle path context
  let directory ← Archive.extract path context
  let files := (← getThe World).files
  let find (member : String) := Act.ofExcept (Archive.findMember files directory member)
  let picture ← find bundlePicture
  let mask ← find bundleMask
  let audio ← find bundleAudio
  let picture ← needMember bundlePicture path.text picture
  let mask ← needMember bundleMask path.text mask
  Act.info ("Pro bundle members: " ++ bundlePicture ++ ", " ++ bundleMask ++
    (if audio.isSome then ", " ++ bundleAudio else " (no audio)"))
  ofFiles picture mask (.ofOption .str audio) soft context

/-- A clip of a known format. -/
def ofFormat (format : ForegroundFormat) (path : Json) (context : ContextId) : Act Foreground :=
  match format with
  | .bundle => ofBundle path false context
  | format => ofSource format path context

/-- A clip whose format follows from its extension (`from_file`). -/
def ofLocator (path : Json) (context : Option ContextId) : Act Foreground := do
  let context ← Context.orDefault context
  let ext ← Act.ofExcept (Locator.extensionOfValue path)
  match ForegroundFormat.ofExtension? ext with
  | some format => ofFormat format path context
  | none => Act.fail (.media (.unknownExtension path.text ext))

/-- A clip of a named format, or one whose format follows from its extension (`from_url`). -/
def ofNamedFormat (path format : Json) (context : Option ContextId) : Act Foreground := do
  match format with
  | .null => ofLocator path context
  | .str name =>
    match ForegroundFormat.ofName? name with
    | some format => ofFormat format path (← Context.orDefault context)
    | none => Act.fail (.media (.unknownFormat name))
  | .arr _ | .obj _ => Act.fail .wrongType
  | other => Act.fail (.media (.unknownFormat other.text))

/-- A part of a clip; it replaces an earlier trim (`subclip`). -/
def subclip (f : Foreground) (start : Json) (stop : Option Json) : Except Fault Foreground := do
  let trim : Trim Json := ⟨start, stop⟩
  trim.check
  .ok { f with trim := some trim }

/-- The length of the trimmed source, if it is known (`duration`). -/
def duration (f : Foreground) : Except Fault (Option Json) :=
  Trim.clipLength (f.info.bind StreamInfo.length) f.trim

/-- The name under which the inputs and labels of a layer are known. -/
def layerLabel (layer : Json) : String := "layer_" ++ layer.text

/-- The arguments that select the decoder with alpha, if the tool has it (`_vp9_decoder`). -/
def alphaDecoderArgs (path : String) (context : ContextId) : Act (List String) := do
  if ← Context.keepsVp9Alpha context then
    Act.debug ("Using libvpx-vp9 decoder for WebM: " ++ path)
    return ["-c:v", Context.alphaDecoder]
  else return []

/-- Whether the picture may need the decoder with alpha. -/
def wantsAlphaDecoder (f : Foreground) : Except Fault Bool :=
  match f.format with
  | .webm => .ok true
  | .bundle => do .ok ((← Locator.extension f.path) == ".webm")
  | _ => .ok false

/-- The arguments that select the decoder of a clip. -/
def decoderArgs (f : Foreground) (context : ContextId) : Act (List String) := do
  if ← Act.ofExcept f.wantsAlphaDecoder then alphaDecoderArgs f.path context else return []

/-- The inputs of a clip in the order of the command, by name (`_single_input`,
`_bundle_inputs`). -/
def sources (f : Foreground) (label : String) : List (String × String) :=
  match f.format with
  | .webm | .prores => [(label, f.path)]
  | .stacked => [(label ++ "_stacked", f.path)]
  | .bundle =>
    [(label ++ "_rgb", f.path), (label ++ "_mask", f.mask.getD "")] ++
      match f.audio with
      | some audio => if audio.isEmpty then [] else [(label ++ "_audio", audio)]
      | none => []

/-- The name of the input that the sound comes from. -/
def audioKey (f : Foreground) (label : String) : String :=
  let hasOwn := match f.audio with
    | some audio => !audio.isEmpty
    | none => false
  match f.format with
  | .webm | .prores => label
  | .stacked => label ++ "_stacked"
  | .bundle => if hasOwn then label ++ "_audio" else label ++ "_rgb"

/-- Names with numbers, counted from `first`. -/
def numbered (first : Int) : List (String × String) → InputTable
  | [] => []
  | (name, _) :: rest => (name, first) :: numbered (first + 1) rest

/-- The inputs of a clip, counted from `first`; each is trimmed the same way (`input_wiring`). -/
def wiring (f : Foreground) (first : Int) (label : String) (context : ContextId)
    (trimArgs : List String) : Act InputWiring := do
  let decoder ← f.decoderArgs context
  let sources := f.sources label
  return {
    args := decoder ++ sources.flatMap fun s => trimArgs ++ ["-i", s.2]
    inputs := numbered first sources
    audioKey := f.audioKey label }

/-- The numbers of inputs, counted from a number given as any value. -/
def numberedFrom (first : Json) (sources : List (String × String)) :
    Except Fault (List (String × Json)) :=
  sources.zipIdx.mapM fun (s, i) => do
    return (s.1, ← if i == 0 then .ok first else first.add (.int i))

open Record in
/-- The inputs of a clip, for a first number and arguments given as any values. -/
def wiringOf (f : Foreground) (first : Json) (label : String) (context : ContextId)
    (trimArgs : Json) : Act InputWiring := do
  let decoder ← f.decoderArgs context
  let sources := f.sources label
  match trimArgs with
  | .arr trimArgs =>
    let args := decoder.map Json.str ++ sources.flatMap fun s =>
      trimArgs ++ [Json.str "-i", Json.str s.2]
    let inputs ← Act.ofExcept (numberedFrom first sources)
    let wiring := (fun args numbers => InputWiring.mk args numbers (f.audioKey label))
      <$> (Checked.each text 0 args).within (.field "args")
      <*> (inputs.foldr (fun e rest =>
        (fun n rest => (e.1, n) :: rest) <$> (int e.2).within (.field e.1) <*> rest)
        (.valid [])).within (.field "inputs")
    Act.ofExcept wiring.toExcept
  | _ => Act.fail .wrongType

/-- Luminance from the middle up is opaque, and everything darker is transparent. -/
def thresholdExpr : String := "geq='if(gte(lum(X,Y),128),255,0)'"

open GraphBuilder in
/-- The matte in a gray picture, with a threshold unless it is soft (`_matte`). -/
def matte (mask : Pad) (label : String) (soft : Bool) : GraphBuilder Pad := do
  let gray ← statement "format=gray" [mask] (label ++ "_mask_gray")
  if soft then return gray
  else statement thresholdExpr [gray] (label ++ "_binary_mask")

open GraphBuilder in
/-- The statements that turn a clip into one picture; `stream` finds the streams of its inputs by
name (`normalize`). -/
def normalize (f : Foreground) (stream : String → Except Fault Pad) (label : String)
    (alpha : Bool) : GraphBuilder Pad := do
  let input (name : String) : GraphBuilder Pad := stream name
  match f.format with
  | .webm | .prores =>
    let source ← input label
    if alpha then return source
    else statement "format=rgb24" [source] (label ++ "_merged")
  | .bundle =>
    let picture ← input (label ++ "_rgb")
    if !alpha then statement "format=rgb24" [picture] (label ++ "_merged")
    else
      let rgba ← statement "format=rgba" [picture] (label ++ "_rgba")
      let mask ← matte (← input (label ++ "_mask")) label f.softAlpha
      statement "alphamerge" [rgba, mask] (label ++ "_merged")
  | .stacked =>
    let source ← input (label ++ "_stacked")
    let top ← statement "crop=iw:ih/2:0:0" [source] (label ++ "_top")
    if !alpha then statement "format=rgb24" [top] (label ++ "_merged")
    else
      let rgba ← statement "format=rgba" [top] (label ++ "_top_rgba")
      let bottom ← statement "crop=iw:ih/2:0:ih/2" [source] (label ++ "_bottom")
      let mask ← matte bottom label false
      statement "alphamerge" [rgba, mask] (label ++ "_merged")

/-- Whether the clip may have sound: only a complete probe without audio, and no audio file of its
own, says no (`_may_have_audio`). -/
def mayHaveAudio (f : Foreground) : Bool :=
  let attached := match f.audio with
    | some audio => !audio.isEmpty
    | none => false
  attached || match f.info with
    | none => true
    | some info => !info.isComplete || info.hasAudio

end Foreground

end Compositor
