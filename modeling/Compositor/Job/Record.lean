import Compositor.Address.Web
import Compositor.Job.Format

/-!
# Records of the job service

What is sent to the service and what it answers.
-/
namespace Compositor

open Record in
/-- A web address in normal form. -/
def WebAddress.read : Reader WebAddress
  | .str s =>
    match WebAddress.parse s with
    | .ok a => .valid a
    | .error c => Checked.complain c
  | _ => Checked.complain .urlType

/-- A job whose video is uploaded (`CreateJobFileUpload`). -/
structure UploadJob where
  fileName : String
  contentType : String
  deriving DecidableEq, Repr

namespace UploadJob

/-- The types of video that can be uploaded. -/
def contentTypes : List String := ["video/mp4", "video/mov", "video/webm"]

open Record in
def read (fields : Fields) : Checked UploadJob :=
  UploadJob.mk <$> required fields "filename" text
    <*> required fields "content_type" (word (fun s => contentTypes.find? (· == s)) .literal)

def toJson (j : UploadJob) : Json :=
  .obj [("filename", j.fileName), ("content_type", j.contentType)]

end UploadJob

/-- A job whose video the service fetches itself (`CreateJobUrlDownload`). -/
structure LinkJob where
  video : WebAddress
  deriving DecidableEq, Repr

namespace LinkJob

open Record in
def read (fields : Fields) : Checked LinkJob :=
  LinkJob.mk <$> required fields "video_url" WebAddress.read

def toJson (j : LinkJob) : Json := .obj [("video_url", j.video.text)]

end LinkJob

/-- A number sign and six or eight hexadecimal digits. -/
def isAlphaHexColor (s : String) : Bool :=
  match s.toList with
  | '#' :: digits =>
    (digits.length == 6 || digits.length == 8) && digits.all fun c => (Text.hexValue? c).isSome
  | _ => false

/-- What is put behind the subject of a job (`BackgroundOptions`). -/
structure Backdrop where
  type : BackdropType
  color : Option String
  format : Option TransparentFormat
  deriving DecidableEq, Repr

namespace Backdrop

open Record in
def readColor : Reader String := fun v =>
  (text v).andThen fun s => if isAlphaHexColor s then .valid s else Checked.complain .pattern

/-- A color needs its value, and transparency its format (`_check_type_fields`). -/
def check (b : Backdrop) : Checked Backdrop :=
  if b.type == .color && b.color.isNone then
    Checked.complain (.rule "color required when type='color'")
  else if b.type == .transparent && b.format.isNone then
    Checked.complain (.rule "transparent_format required when type='transparent'")
  else .valid b

open Record in
def read (fields : Fields) : Checked Backdrop :=
  (Backdrop.mk <$> required fields "type" (word BackdropType.ofName? .enumeration)
    <*> maybe fields "color" readColor
    <*> maybe fields "transparent_format" (word TransparentFormat.ofName? .enumeration)).andThen
      check

def toJson (b : Backdrop) : Json :=
  .obj [("type", b.type.name), ("color", .ofOption .str b.color),
    ("transparent_format", .ofOption (fun f => .str f.name) b.format)]

end Backdrop

/-- How a job is to be done (`StartJobRequest`). -/
structure StartRequest where
  format : String
  model : Option String
  background : Option Backdrop
  webhook : Option String
  deriving DecidableEq, Repr

namespace StartRequest

/-- The only container of results. -/
def container : String := "mp4"

open Record in
def read (fields : Fields) : Checked StartRequest :=
  StartRequest.mk
    <$> optional fields "format" (word (fun s => [container].find? (· == s)) .literal) container
    <*> maybe fields "model" text
    <*> maybe fields "background" (object Backdrop.read)
    <*> maybe fields "webhook_url" text

def toJson (r : StartRequest) : Json :=
  .obj [("format", r.format), ("model", .ofOption .str r.model),
    ("background", .ofOption Backdrop.toJson r.background),
    ("webhook_url", .ofOption .str r.webhook)]

end StartRequest

inductive JobState where
  | created
  | uploaded
  | processing
  | completed
  | failed
  deriving DecidableEq, Repr

namespace JobState

def name : JobState → String
  | .created => "created"
  | .uploaded => "uploaded"
  | .processing => "processing"
  | .completed => "completed"
  | .failed => "failed"

def ofName? (s : String) : Option JobState :=
  [JobState.created, .uploaded, .processing, .completed, .failed].find? fun t => t.name == s

end JobState

/-- What the service says about a job. -/
structure JobStatus where
  id : String
  state : JobState
  fileName : String
  createdAt : String
  lengthSeconds : Option Float
  thumbnail : Option WebAddress
  video : Option WebAddress
  mask : Option WebAddress
  message : Option String
  background : Option Backdrop
  outputFormat : Option String

namespace JobStatus

open Record in
def read (fields : Fields) : Checked JobStatus :=
  JobStatus.mk <$> required fields "id" text
    <*> required fields "status" (word JobState.ofName? .literal)
    <*> required fields "filename" text
    <*> required fields "created_at" text
    <*> maybe fields "length_seconds" real
    <*> maybe fields "thumbnail_url" WebAddress.read
    <*> maybe fields "processed_video_url" WebAddress.read
    <*> maybe fields "processed_mask_url" WebAddress.read
    <*> maybe fields "message" text
    <*> maybe fields "background" (object Backdrop.read)
    <*> maybe fields "output_format" text

def toJson (s : JobStatus) : Json :=
  let address (a : Option WebAddress) : Json := .ofOption (fun a => .str a.text) a
  .obj [("id", s.id), ("status", s.state.name), ("filename", s.fileName),
    ("created_at", s.createdAt), ("length_seconds", .ofOption .real s.lengthSeconds),
    ("thumbnail_url", address s.thumbnail), ("processed_video_url", address s.video),
    ("processed_mask_url", address s.mask), ("message", .ofOption .str s.message),
    ("background", .ofOption Backdrop.toJson s.background),
    ("output_format", .ofOption .str s.outputFormat)]

end JobStatus

structure CreditBalance where
  user : String
  total : Float
  remaining : Float
  used : Float
  deriving DecidableEq, Repr

namespace CreditBalance

open Record in
def read (fields : Fields) : Checked CreditBalance :=
  CreditBalance.mk <$> required fields "user_id" text
    <*> required fields "total_credits" real
    <*> required fields "remaining_credits" real
    <*> required fields "used_credits" real

def toJson (b : CreditBalance) : Json :=
  .obj [("user_id", b.user), ("total_credits", .real b.total),
    ("remaining_credits", .real b.remaining), ("used_credits", .real b.used)]

end CreditBalance

end Compositor
