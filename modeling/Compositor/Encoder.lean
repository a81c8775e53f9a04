import Compositor.Record

/-!
# Encoders

A profile says how the output is encoded. Its arguments end with the output path.
-/
namespace Compositor

inductive EncoderKind where
  | h264
  | vp9
  | transparentWebm
  | prores4444
  | pngSequence
  | stackedVideo
  deriving DecidableEq, Repr

namespace EncoderKind

def name : EncoderKind → String
  | .h264 => "h264"
  | .vp9 => "vp9"
  | .transparentWebm => "transparent_webm"
  | .prores4444 => "prores_4444"
  | .pngSequence => "png_sequence"
  | .stackedVideo => "stacked_video"

def all : List EncoderKind :=
  [.h264, .vp9, .transparentWebm, .prores4444, .pngSequence, .stackedVideo]

def ofName? (s : String) : Option EncoderKind := all.find? fun k => k.name == s

end EncoderKind

/-- How a picture and its matte share a frame. -/
inductive StackLayout where
  | vertical
  | horizontal
  deriving DecidableEq, Repr

namespace StackLayout

def name : StackLayout → String
  | .vertical => "vertical"
  | .horizontal => "horizontal"

def ofName? (s : String) : Option StackLayout :=
  [StackLayout.vertical, .horizontal].find? fun l => l.name == s

end StackLayout

structure EncoderProfile where
  kind : EncoderKind
  crf : Option Int
  preset : Option String
  layout : Option StackLayout
  fps : Option Float
  deriving DecidableEq, Repr

namespace EncoderProfile

open Record in
def read (fields : Fields) : Checked EncoderProfile :=
  EncoderProfile.mk <$> required fields "kind" (word EncoderKind.ofName? .literal)
    <*> maybe fields "crf" int
    <*> maybe fields "preset" text
    <*> maybe fields "layout" (word StackLayout.ofName? .literal)
    <*> maybe fields "fps" real

def toJson (p : EncoderProfile) : Json :=
  .obj [("kind", p.kind.name), ("crf", .ofOption .int p.crf), ("preset", .ofOption .str p.preset),
    ("layout", .ofOption (fun l => .str l.name) p.layout), ("fps", .ofOption .real p.fps)]

/-- The settings of a profile that are chosen for the caller. -/
def defaults : EncoderKind → Record.Fields
  | .h264 => [("crf", .int 18), ("preset", "medium")]
  | .vp9 => [("crf", .int 32)]
  | .transparentWebm => [("crf", .int 28)]
  | .prores4444 | .pngSequence => []
  | .stackedVideo => [("layout", "vertical"), ("crf", .int 18), ("preset", "medium")]

/-- A profile of a kind; settings that are not given have their defaults. -/
def make (kind : EncoderKind) (settings : Record.Fields) : Checked EncoderProfile :=
  read ([("kind", Json.str kind.name)] ++ settings ++ defaults kind)

def h264 : EncoderProfile := ⟨.h264, some 18, some "medium", none, none⟩

def vp9 : EncoderProfile := ⟨.vp9, some 32, none, none, none⟩

/-- Whether the picture is stacked with its alpha channel (`stacks_alpha`). -/
def stacksAlpha (p : EncoderProfile) : Bool := p.kind == .stackedVideo

def quality (p : EncoderProfile) (default : Int) : List String :=
  ["-crf", toString (p.crf.getD default)]

def x264 (p : EncoderProfile) : List String :=
  let preset := match p.preset with
    | some s => if s.isEmpty then "medium" else s
    | none => "medium"
  ["-c:v", "libx264"] ++ p.quality 18 ++ ["-preset", preset, "-pix_fmt", "yuv420p"]

/-- The arguments of a profile, without the output path. -/
def codecArgs (p : EncoderProfile) : List String :=
  match p.kind with
  | .h264 | .stackedVideo => p.x264
  | .vp9 => ["-c:v", "libvpx-vp9"] ++ p.quality 32 ++ ["-b:v", "0"]
  | .transparentWebm =>
    ["-c:v", "libvpx-vp9"] ++ p.quality 28 ++
      ["-b:v", "0", "-pix_fmt", "yuva420p", "-auto-alt-ref", "0"]
  | .prores4444 => ["-c:v", "prores_ks", "-profile:v", "4", "-pix_fmt", "yuva444p10le"]
  | .pngSequence =>
    ["-c:v", "png", "-pix_fmt", "rgba"] ++
      match p.fps with
      | some fps => if fps == 0 then [] else ["-r", Decimal.text fps]
      | none => []

/-- The arguments for the output (`EncoderProfile.args`). -/
def args (p : EncoderProfile) (outPath : String) : List String := p.codecArgs ++ [outPath]

end EncoderProfile

end Compositor
