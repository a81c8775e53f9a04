import Compositor.Foreground
import Compositor.Job.Polling
import Compositor.Video

/-!
# Removing a background

A removal creates a job for a source video, starts it, waits for it and opens its
result as a foreground. The service fetches a public video itself; any other one
is uploaded.
-/
namespace Compositor

namespace Removal

/-- Whether the media tool lists a name; no answer counts as no (`_ffmpeg_lists`). -/
def toolLists (context : ContextId) (flag name : String) : Act Bool := do
  let c ← Context.ofId context
  match ← Act.runCommand [c.ffmpeg, "-hide_banner", flag] 10 with
  | .finished code stdout _ => return code == 0 && Context.mentions stdout name
  | .refused e =>
    Act.warning ("Error checking FFmpeg " ++ flag ++ ": " ++ e.text)
    return false
  | .timedOut text =>
    Act.warning ("Error checking FFmpeg " ++ flag ++ ": " ++ text)
    return false

/-- Whether the media tool can write a stream with alpha. -/
def toolWritesAlpha (context : ContextId) : Act Bool := do
  if ← toolLists context "-encoders" Context.alphaDecoder then
    toolLists context "-pix_fmts" "yuva420p"
  else return false

/-- The preferred format, or the best one that the media tool can handle (`choose_format`). -/
def chooseFormat (context : ContextId) (options : RemovalOptions) : Act TransparentFormat := do
  match options.prefer.format? with
  | some format => return format
  | none =>
    if ← toolWritesAlpha context then
      Act.debug "WebM VP9 alpha support detected"
      return .webmVp9
    else
      Act.debug "Falling back to stacked video"
      return .stackedVideo

/-- The largest video that the service fetches itself, in bytes. -/
def maxLinkBytes : Int := 1000000000

/-- Whether a length that a server gives is too large. -/
def isTooLarge (length : Option String) : Except Fault Bool :=
  match length with
  | none => .ok false
  | some s =>
    if s.isEmpty || !s.toList.all Text.isDigitLike then .ok false
    else do .ok (maxLinkBytes < (← (Json.str s).toInt))

/-- Whether the service can fetch an address itself (`_public_url_ok`). -/
def isPublic (url : String) : Act Bool := do
  match ← Act.exchange ⟨"HEAD", url, [], [], .none, .int 5⟩ with
  | .error e =>
    Act.debug ("URL check failed for " ++ url ++ ": " ++ e.message)
    return false
  | .ok (response, _) =>
    if response.status != 200 && response.status != 204 then return false
    else return !(← Act.ofExcept (isTooLarge (response.header? "Content-Length")))

/-- A field of an answer of the service. -/
def field (answer : Json) (name : String) : Except Fault Json :=
  match answer with
  | .obj fields =>
    match Json.lookup? fields name with
    | some v => .ok v
    | none => .error .noKey
  | _ => .error .wrongType

/-- The type under which a video is uploaded. -/
def uploadType (source : String) : String :=
  match MediaType.ofLocator? source with
  | some type => if UploadJob.contentTypes.contains type then type else "video/mp4"
  | none => "video/mp4"

/-- The name under which a video is uploaded. -/
def uploadName (source : String) : Except Fault String := do
  let name ← Locator.fileName source
  .ok (if name.isEmpty then "video.mp4" else name)

/-- The path of a video on this machine; a remote one is downloaded. -/
def localVideo (source : String) (context : ContextId) : Act String := do
  if (← Act.ofExcept (Locator.sourceType source)) == .url then
    Download.toFile source fun ext => Context.tempPath context ext "upload_"
  else return source

/-- Sends a file to an address. -/
def sendFile (url path contentType : String) (content : Content) : Act Unit := do
  let headers := [("Content-Type", Json.str contentType)]
  let result ← Act.exchange ⟨"PUT", url, [], headers, .content content, .int 300⟩
  let checked := do
    let (response, target) ← result
    response.checkStatus target
  match checked with
  | .ok () => return
  | .error e => Act.fail (.failed (.upload path e.message))

/-- Uploads a video (`_upload`). -/
def upload (url source contentType : String) (context : ContextId) : Act Unit := do
  let path ← localVideo source context
  match (← getThe World).files.read path with
  | .error e => Act.fail (.ofStep (.upload path) e)
  | .ok content => sendFile url path contentType content

/-- Creates a job for a public video and answers its number. -/
def createLinkJob (source : String) (client : Client) : Act Json := do
  let job ← Act.ofExcept ((LinkJob.read [("video_url", source)]).toExcept)
  Act.ofExcept (field (← client.createLink job) "id")

/-- Creates a job, uploads its video and answers its number. -/
def createUploadJob (source : String) (client : Client) (context : ContextId) : Act Json := do
  let contentType := uploadType source
  let name ← Act.ofExcept (uploadName source)
  let answer ← client.createUpload ⟨name, contentType⟩
  let target ← Act.ofExcept (field answer "upload_url")
  upload target.text source contentType context
  Act.ofExcept (field answer "id")

/-- Creates a job for a video and answers its number (`_create_job`). -/
def createJob (video : Video) (client : Client) (context : ContextId) : Act Json := do
  let linked ← if video.kind == .url then isPublic video.source else pure false
  if linked then createLinkJob video.source client
  else createUploadJob video.source client context

/-- The extensions of results. -/
def resultExtensions : List String := [".mp4", ".mov", ".webm", ".zip"]

/-- The extension under which a result is stored. -/
def resultExtension (url : String) : Except Fault String := do
  let ext ← Locator.extension url
  .ok (if resultExtensions.contains ext then ext else ".mp4")

/-- Downloads the result of a job and opens it (`import_result`). -/
def importResult (status : JobStatus) (context : ContextId) : Act Foreground := do
  match status.video with
  | none => Act.fail (.failed .noResult)
  | some address =>
    let ext ← Act.ofExcept (resultExtension address.text)
    let path ← Download.toFile address.text fun _ => Context.tempPath context ext "processed_"
    Foreground.ofLocator path (some context)

/-- How a job for a transparent result is started. -/
def startRequest (format : TransparentFormat) (options : RemovalOptions) (webhook : Json) :
    Checked StartRequest :=
  let background : Backdrop := ⟨.transparent, none, some format⟩
  StartRequest.read [("background", background.toJson), ("model", .ofOption .str options.model),
    ("webhook_url", webhook)]

end Removal

open Removal in
/-- Removes the background of a video and answers the result as a foreground
(`remove_background`). -/
def Video.removeBackground (video : Video) (client : Client) (options : RemovalOptions)
    (telling : Bool) (interval webhook : Json) (context : Option ContextId) : Act Foreground := do
  let context ← Context.orDefault context
  let format ← chooseFormat context options
  Act.info ("Using transparent format: " ++ format.name)
  let job ← createJob video client context
  Act.info ("Created job: " ++ job.text)
  let request ← Act.ofExcept (startRequest format options webhook).toExcept
  let _ ← client.start job request
  Act.info "Job started, waiting for completion..."
  let status ← client.wait job interval none telling
  Act.info "Job completed, downloading result..."
  importResult status context

end Compositor
