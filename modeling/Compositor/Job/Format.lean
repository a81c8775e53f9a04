import Compositor.Record

/-!
# Formats of results

What the job service can put behind a subject, the formats with transparency it
can write, and the preference of a caller among them.
-/
namespace Compositor

inductive BackdropType where
  | color
  | transparent
  deriving DecidableEq, Repr

namespace BackdropType

def name : BackdropType → String
  | .color => "color"
  | .transparent => "transparent"

def ofName? (s : String) : Option BackdropType :=
  [BackdropType.color, .transparent].find? fun t => t.name == s

end BackdropType

inductive TransparentFormat where
  | webmVp9
  | movProres
  | proBundle
  | stackedVideo
  deriving DecidableEq, Repr

namespace TransparentFormat

def name : TransparentFormat → String
  | .webmVp9 => "webm_vp9"
  | .movProres => "mov_prores"
  | .proBundle => "pro_bundle"
  | .stackedVideo => "stacked_video"

def ofName? (s : String) : Option TransparentFormat :=
  [TransparentFormat.webmVp9, .movProres, .proBundle, .stackedVideo].find? fun f => f.name == s

end TransparentFormat

/-- A format, or the best one that the media tool can read (`Prefer`). -/
inductive Preference where
  | auto
  | format (f : TransparentFormat)
  deriving DecidableEq, Repr

namespace Preference

def name : Preference → String
  | .auto => "auto"
  | .format f => f.name

def ofName? (s : String) : Option Preference :=
  if s == "auto" then some .auto else (TransparentFormat.ofName? s).map .format

/-- The format that a preference names (`transparent_format`). -/
def format? : Preference → Option TransparentFormat
  | .auto => none
  | .format f => some f

end Preference

inductive SegmentationModel where
  | full
  | light
  deriving DecidableEq, Repr

namespace SegmentationModel

def name : SegmentationModel → String
  | .full => "videobgremover-original"
  | .light => "videobgremover-light"

def ofName? (s : String) : Option SegmentationModel :=
  [SegmentationModel.full, .light].find? fun m => m.name == s

end SegmentationModel

/-- What a caller wants of a removal job (`RemoveBGOptions`). -/
structure RemovalOptions where
  prefer : Preference
  model : Option String
  deriving DecidableEq, Repr

namespace RemovalOptions

def default : RemovalOptions := ⟨.auto, none⟩

open Record in
def read (fields : Fields) : Checked RemovalOptions :=
  RemovalOptions.mk <$> optional fields "prefer" (word Preference.ofName? .enumeration) .auto
    <*> maybe fields "model" text

def toJson (o : RemovalOptions) : Json :=
  .obj [("prefer", o.prefer.name), ("model", .ofOption .str o.model)]

end RemovalOptions

end Compositor
