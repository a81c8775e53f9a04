import Compositor.Text.Hex
import Compositor.World.Basic

/-!
# Events and faults as records

What happened outside, and what went wrong, in the form in which it is reported.
-/
namespace Compositor

namespace Content

/-- Bytes in hexadecimal. -/
def toJson (c : Content) : Json := .obj [("hex", .str (Text.hexOfBytes c.data))]

end Content

namespace Redirect

def toJson : Redirect → Json
  | .pipe => "pipe"
  | .devnull => "devnull"
  | .inherited => .null

end Redirect

namespace Launch

/-- The word for a way of starting a process. -/
def name : Launch → String
  | .blocking => "popen"
  | .asynchronous => "exec"

end Launch

namespace LogLevel

def name : LogLevel → String
  | .debug => "DEBUG"
  | .info => "INFO"
  | .warning => "WARNING"

end LogLevel

namespace Body

def toJson : Body → Json
  | .none => .null
  | .json v => .obj [("json", v)]
  | .content c => c.toJson

end Body

namespace Event

/-- An event as a list that begins with its word. -/
def items : Event → List Json
  | .run command timeout => ["run", .arr command, .int timeout]
  | .spawn launch command input output errors present =>
    [launch.name, .arr (Argument.ofTexts command),
      .obj [("stdin", input.toJson), ("stdout", output.toJson), ("stderr", errors.toJson)],
      .arr (Argument.ofTexts present)]
  | .request method url headers body timeout | .hop method url headers body timeout =>
    ["http", method, url, .obj headers, body.toJson, timeout]
  | .sleep seconds => ["sleep", seconds]
  | .terminate => ["terminate"]
  | .wait => ["wait"]
  | .opened => ["opened"]
  | .progress s => ["on_progress", s]
  | .status s => ["on_status", s]
  | .log level message => ["log", level.name, message]

def toJson (e : Event) : Json := .arr e.items

end Event

namespace Place

def toJson : Place → Json
  | .field name => name
  | .item i => .int i

end Place

/-- The field for a text, if there is one. -/
def messageField (text : Option String) : List (String × Json) :=
  (text.map fun m => ("message", Json.str m)).toList

namespace Issue

def toJson (i : Issue) : Json :=
  .obj ([("type", .str i.complaint.code), ("loc", .arr (i.place.map Place.toJson))] ++
    messageField i.complaint.message?)

end Issue

namespace Fault

/-- What is reported of a fault besides its kind. -/
def details (e : Fault) : List (String × Json) :=
  messageField e.message? ++
    match e with
    | .invalid issues => [("errors", .arr (issues.map Issue.toJson))]
    | .tool t => [("returncode", .ofOption .int t.exitCode), ("stderr", t.stderr),
        ("argv", .arr t.command)]
    | .api a => [("status_code", .ofOption .int a.status), ("response_data", a.data)]
    | _ => []

end Fault

end Compositor
