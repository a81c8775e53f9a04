import Compositor.Graph.Basic
import Compositor.Json.Reader

/-!
# Faults

Everything that can go wrong, by cause. Each cause has one text, given by the
`message` functions; the causes of one family share a constructor of `Fault`.
-/
namespace Compositor

/-- Where in a record a complaint belongs. -/
inductive Place where
  | field (name : String)
  | item (index : Nat)
  deriving DecidableEq, Repr

/-- What is wrong with a field of a record. -/
inductive Complaint where
  | missing
  | stringType
  | intType
  | intParsing
  | intParsingSize
  | intFromFloat
  | finiteNumber
  | floatType
  | floatParsing
  | boolType
  | boolParsing
  | literal
  | enumeration
  | tupleType
  | tooLong
  | modelType
  | pattern
  | urlType
  | urlParsing
  | urlScheme
  | urlTooLong
  | frozen
  /-- A rule of the record itself is broken. -/
  | rule (text : String)
  deriving DecidableEq, Repr

namespace Complaint

/-- The code of a complaint in a report. -/
def code : Complaint → String
  | .missing => "missing"
  | .stringType => "string_type"
  | .intType => "int_type"
  | .intParsing => "int_parsing"
  | .intParsingSize => "int_parsing_size"
  | .intFromFloat => "int_from_float"
  | .finiteNumber => "finite_number"
  | .floatType => "float_type"
  | .floatParsing => "float_parsing"
  | .boolType => "bool_type"
  | .boolParsing => "bool_parsing"
  | .literal => "literal_error"
  | .enumeration => "enum"
  | .tupleType => "tuple_type"
  | .tooLong => "too_long"
  | .modelType => "model_type"
  | .pattern => "string_pattern_mismatch"
  | .urlType => "url_type"
  | .urlParsing => "url_parsing"
  | .urlScheme => "url_scheme"
  | .urlTooLong => "url_too_long"
  | .frozen => "frozen_instance"
  | .rule _ => "value_error"

/-- The text of a complaint about a rule of the record. -/
def message? : Complaint → Option String
  | .rule text => some ("Value error, " ++ text)
  | _ => none

end Complaint

/-- A complaint and the way to the field it is about. -/
structure Issue where
  place : List Place
  complaint : Complaint
  deriving DecidableEq, Repr

/-- What the operating system refuses. -/
inductive SystemError where
  | notFound (text : String)
  | denied (text : String)
  | isDirectory (text : String)
  | notDirectory (text : String)
  | exists_ (text : String)
  | nameTooLong (text : String)
  /-- A path with a NUL, which the system is never asked about. -/
  | nullCharacter
  deriving DecidableEq, Repr

namespace SystemError

def text : SystemError → String
  | .notFound t | .denied t | .isDirectory t | .notDirectory t | .exists_ t | .nameTooLong t => t
  | .nullCharacter => "embedded null byte"

def noSuchFile (path : String) : SystemError :=
  .notFound ("[Errno 2] No such file or directory: " ++ Text.quoted path)

def directoryAt (path : String) : SystemError :=
  .isDirectory ("[Errno 21] Is a directory: " ++ Text.quoted path)

def noDirectoryAt (path : String) : SystemError :=
  .notDirectory ("[Errno 20] Not a directory: " ++ Text.quoted path)

def existsAt (path : String) : SystemError :=
  .exists_ ("[Errno 17] File exists: " ++ Text.quoted path)

def tooLongAt (path : String) : SystemError :=
  .nameTooLong ("[Errno 36] File name too long: " ++ Text.quoted path)

end SystemError

/-- What a composition, a source or a setting is refused for. -/
inductive MediaError where
  /-- A trim whose end is before its start. -/
  | trimReversed (start stop : Json)
  /-- Only a video background can be cut. -/
  | subclipOf (kind : String)
  | apiKeyUnset
  | canvas
  | unknownExtension (path extension : String)
  | unknownFormat (format : String)
  | memberMissing (member path : String)
  | imageSize (source : String)
  | videoSize (source : String)
  deriving Repr

/-- The families of media errors. -/
inductive MediaFamily where
  | configuration
  | canvas
  | unsupported
  | bundle
  | probe
  deriving DecidableEq, Repr

namespace MediaError

def family : MediaError → MediaFamily
  | .trimReversed .. | .subclipOf _ | .apiKeyUnset => .configuration
  | .canvas => .canvas
  | .unknownExtension .. | .unknownFormat _ => .unsupported
  | .memberMissing .. => .bundle
  | .imageSize _ | .videoSize _ => .probe

def message : MediaError → String
  | .trimReversed start stop =>
    "Trim end (" ++ stop.text ++ ") is before start (" ++ start.text ++ ")"
  | .subclipOf kind => "Cannot subclip a " ++ kind ++ " background"
  | .apiKeyUnset => "BGCOMPOSE_API_KEY environment variable is not set"
  | .canvas =>
    "Cannot determine canvas size. Please provide a background " ++
      "(Background.from_image/from_video/from_color) or set explicit canvas dimensions " ++
      "using Composition.canvas() or .set_canvas()."
  | .unknownExtension path extension =>
    "Unknown video format for file: " ++ path ++ "\nDetected extension: " ++
      (if extension.isEmpty then "none" else extension) ++ "\nSupported formats:\n" ++
      "  - .webm → Foreground.from_webm_vp9()\n" ++
      "  - .mov  → Foreground.from_mov_prores()\n" ++
      "  - .mp4/.m4v/.mkv/.avi → Foreground.from_stacked_video()\n" ++
      "  - .zip  → Foreground.from_pro_bundle_zip()"
  | .unknownFormat format =>
    "Unknown foreground format: " ++ format ++
      ". Expected one of: webm_vp9, mov_prores, stacked_video, pro_bundle"
  | .memberMissing member path => member ++ " not found in pro bundle " ++ path
  | .imageSize source => "Could not determine dimensions for image " ++ source
  | .videoSize source => "Could not determine video dimensions for " ++ source

end MediaError

/-- What is wrong with a media tool. -/
inductive ToolCause where
  | notInstalled (binary reason : String)
  | hangs (binary : String)
  | broken (binary : String)
  | cannotStart (binary reason : String)
  /-- A run that ended without success; no code means that none is known. -/
  | ended (code : Option Int) (stderr : String)
  deriving DecidableEq, Repr

namespace ToolCause

/-- Whether the tool could not be started at all. -/
def isMissing : ToolCause → Bool
  | .notInstalled .. | .cannotStart .. => true
  | _ => false

def message : ToolCause → String
  | .notInstalled binary reason => binary ++ " not found. Please install FFmpeg: " ++ reason
  | .hangs binary => binary ++ " verification timed out"
  | .broken binary => binary ++ " not working"
  | .cannotStart binary reason => "FFmpeg not found (" ++ binary ++ "): " ++ reason
  | .ended code stderr =>
    "FFmpeg failed with code " ++ (code.map toString).getD "None" ++ ": " ++ stderr

end ToolCause

/-- A media tool that could not be started or did not do its work. -/
structure ToolError where
  cause : ToolCause
  exitCode : Option Int
  stderr : String
  command : List Json
  deriving Repr

/-- Why the data of an archive cannot be understood. -/
inductive FormatError where
  /-- A part of the format that is not read. -/
  | unsupported
  /-- Data that ends too early. -/
  | endOfData
  /-- A compressed stream that no compression writes. -/
  | badStream
  /-- A name that is no text. -/
  | undecodable
  deriving DecidableEq, Repr

/-- A step outside the program that failed. -/
inductive StepError where
  | download (url reason : String)
  | store (url path reason : String)
  | extract (path reason : String)
  | upload (path reason : String)
  | noResult
  | reader
  /-- A document was nested deeper than there was room for. -/
  | tooDeep
  deriving DecidableEq, Repr

namespace StepError

def message : StepError → String
  | .download url reason => "Failed to download " ++ url ++ ": " ++ reason
  | .store url path reason => "Failed to write " ++ url ++ " to " ++ path ++ ": " ++ reason
  | .extract path reason => "Failed to extract " ++ path ++ ": " ++ reason
  | .upload path reason => "Failed to upload " ++ path ++ ": " ++ reason
  | .noResult => "No processed video URL in job status"
  | .reader => "reader failed"
  | .tooDeep => "maximum recursion depth exceeded"

end StepError

/-- The families of errors of the job service. -/
inductive ApiKind where
  | general
  | insufficientCredits
  | notFound
  | processing
  deriving DecidableEq, Repr

/-- An error answer of the job service, or an exchange that failed. -/
structure ApiError where
  kind : ApiKind
  text : String
  status : Option Int
  data : Json
  deriving Repr

/-- Everything that can go wrong. -/
inductive Fault where
  /-- An operation that values of this kind do not have. -/
  | wrongType
  /-- A value outside the range of an operation. -/
  | wrongValue
  /-- A member that values of this kind do not have. -/
  | noAttribute
  /-- A name that is not in a table. -/
  | noKey
  /-- A place outside a sequence. -/
  | noItem
  /-- A number too large for a double. -/
  | overflow
  | system (e : SystemError)
  | json (e : JsonError)
  | invalid (issues : List Issue)
  | graph (e : GraphError)
  | media (e : MediaError)
  | tool (e : ToolError)
  | api (e : ApiError)
  | failed (e : StepError)
  | format (e : FormatError)
  /-- A job did not end in time. -/
  | timedOut (job limit : String)
  deriving Repr

namespace Fault

/-- The fault that a refusal of the system is. A path that the system cannot be
asked about is a value out of range. -/
def ofSystem : SystemError → Fault
  | .nullCharacter => .wrongValue
  | e => .system e

/-- The fault of a step outside the program that the system refused; `step` says
what was tried. -/
def ofStep (step : String → StepError) : SystemError → Fault
  | .nullCharacter => .wrongValue
  | e => .failed (step e.text)

/-- The fault of a text that is read as a document and is none. Numbers that are too long
and documents that are nested too deep are faults of other kinds. -/
def ofJson : JsonError → Fault
  | .tooLong => .wrongValue
  | .tooDeep => .failed .tooDeep
  | e => .json e

/-- The text of a fault, for the families that have one of their own. -/
def message? : Fault → Option String
  | .graph e => some e.message
  | .media e => some e.message
  | .tool e => some e.cause.message
  | .api e => some e.text
  | .failed e => some e.message
  | .timedOut job limit =>
    some ("Job " ++ job ++ " did not complete within " ++ limit ++ " seconds")
  | _ => none

end Fault

end Compositor
