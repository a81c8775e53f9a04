import Compositor.Archive.Directory
import Compositor.Text.Utf8
import Compositor.World.Argument
import Compositor.World.Files

/-!
# The world around the program

Everything outside the program is part of one state: files, temporary names,
environment variables, the clock, and the answers that processes and servers are
going to give. An action reads and changes this state and may end in a fault,
which leaves the changes made so far in place. What happens outside is recorded
as a list of events. What the libraries below the program make of a response, and
what the system offers, is part of the state as well, so it can be anything.
-/
namespace Compositor

/-- Where a standard stream of a process leads. -/
inductive Redirect where
  | pipe
  | devnull
  | inherited
  deriving DecidableEq, Repr

/-- The two ways of starting a process that runs while the program waits. -/
inductive Launch where
  | blocking
  | asynchronous
  deriving DecidableEq, Repr

/-- The body of a request. -/
inductive Body where
  | none
  | json (v : Json)
  | content (c : Content)
  deriving Repr

inductive LogLevel where
  | debug
  | info
  | warning
  deriving DecidableEq, Repr

/-- Something that happened outside the program, or a callback of the caller. -/
inductive Event where
  | run (command : List Argument) (timeout : Nat)
  /-- A process was started; `present` are its arguments that were temporary files then. -/
  | spawn (launch : Launch) (command : List String) (input output errors : Redirect)
      (present : List String)
  | request (method url : String) (headers : List (String × Json)) (body : Body)
      (timeout : Json)
  /-- A request was sent on to another address, because a response said so. -/
  | hop (method url : String) (headers : List (String × Json)) (body : Body) (timeout : Json)
  | sleep (seconds : Json)
  | terminate
  | wait
  | opened
  | progress (status : String)
  | status (status : String)
  | log (level : LogLevel) (message : String)
  deriving Repr

/-- How running a command to its end turns out. What it writes is text: output that cannot be
decoded is not among the outcomes. -/
inductive RunReply where
  | finished (code : Int) (stdout stderr : String)
  | refused (e : SystemError)
  | timedOut (text : String)
  deriving DecidableEq, Repr

/-- How a started process turns out. -/
inductive ProcessReply where
  | finished (code : Option Int) (stdout : String) (stderr : List UInt8)
  | refused (e : SystemError)
  deriving DecidableEq, Repr

/-- The families of failures of an exchange with a server. -/
inductive ExchangeFailure where
  | timeout
  | connection
  | other
  deriving DecidableEq, Repr

/-- A failure below the program, with its text. One without a family is not known to the
library that sends requests: it comes from below it, as for a host with an empty label. -/
abbrev Failure := Option ExchangeFailure × String

/-- Where the library goes from a response. -/
inductive Onward where
  | stays
  | to (url : String)
  | fails (failure : Failure)
  deriving DecidableEq, Repr

/-- How deep a document may usually be nested. -/
def usualRoom : Nat := 900

structure Response where
  status : Int
  reason : String
  headers : List (String × String)
  /-- The body, as far as it arrives. -/
  body : Content
  /-- Why the body breaks off, if it does. -/
  cut : Option (ExchangeFailure × String) := none
  /-- The body as text; in which encoding that is, the library tells from the headers and
  the body. -/
  text : String := Text.Utf8.decodeLossy body.data
  /-- How deep a document in the body may be nested. -/
  room : Nat := usualRoom
  /-- What the library makes of the location in a response that is a redirect. -/
  onward : Onward := .stays
  deriving DecidableEq, Repr

/-- How an exchange with a server turns out, and how long it takes. -/
structure HttpReply where
  elapsed : Float
  outcome : Except Failure Response

/-- What the system offers, whatever the program does. -/
structure Platform where
  /-- The answers of commands for which none is laid out. -/
  unforeseen : List Argument → RunReply
  /-- How deep a document in the output of a command may be nested. -/
  room : Nat
  /-- The methods of compression that can be undone. -/
  codecs : Archive.Codecs
  /-- The directories that go by names. -/
  roots : List Path.Root

/-- A media context: the tools, the directory for temporary files and the answers about decoders
that are already known (`MediaContext`). -/
structure Context where
  ffmpeg : Argument
  ffprobe : Argument
  directory : String
  decoders : List (String × Bool)
  deriving Repr

/-- The temporary files of one export (`TempManifest`). -/
structure Manifest where
  directory : String
  paths : List String
  deriving DecidableEq, Repr

structure World where
  files : FileTree
  /-- The directory for temporary files of the system. -/
  tempRoot : String
  /-- The number of temporary names given out. -/
  names : Nat
  clock : Float
  logging : Bool
  environment : List (String × String)
  /-- Answers of commands that run to their end, by the last argument. -/
  runs : List (String × List RunReply)
  /-- Answers of processes, in the order in which they start. -/
  processes : List ProcessReply
  /-- Answers of servers, by method and address. -/
  exchanges : List (String × List HttpReply)
  events : List Event
  contexts : List Context
  manifests : List Manifest
  defaultContext : Option Nat
  platform : Platform

/-- An action in the world. -/
abbrev Act := ExceptT Fault (StateM World)

/-- The number of a context or a manifest, in the order of creation. -/
structure ContextId where
  index : Nat
  deriving DecidableEq, Repr

structure ManifestId where
  index : Nat
  deriving DecidableEq, Repr

namespace Act

def fail (e : Fault) : Act α := throw e

/-- A result that may be a fault, as an action. -/
def ofExcept : Except Fault α → Act α
  | .ok a => pure a
  | .error e => throw e

/-- A result of the file system as an action. -/
def ofSystem : Except SystemError α → Act α
  | .ok a => pure a
  | .error e => throw (.ofSystem e)

def emit (e : Event) : Act Unit :=
  modify fun w => { w with events := w.events ++ [e] }

/-- Log messages are recorded only when logging is on. -/
def log (level : LogLevel) (message : String) : Act Unit := do
  if (← get).logging then emit (.log level message)

def debug (message : String) : Act Unit := log .debug message

def info (message : String) : Act Unit := log .info message

def warning (message : String) : Act Unit := log .warning message

/-- Changes the files, or fails and leaves them as they are. -/
def changeFiles (f : FileTree → Except SystemError FileTree) : Act Unit := do
  let w ← get
  match f w.files with
  | .ok files => set { w with files }
  | .error e => throw (.ofSystem e)

/-- Changes the files by an operation on a path. -/
def changePath (f : FileTree → String → Except SystemError FileTree) (path : String) : Act Unit :=
  changeFiles fun files => f files path

/-- What the file at a path holds. -/
def contentAt (path : String) : Act Content := do ofSystem ((← get).files.read path)

def environment? (name : String) : Act (Option String) := do
  return ((← get).environment.find? fun v => v.1 == name).map Prod.snd

/-- The next temporary name. -/
def freshName : Act String := do
  let w ← get
  set { w with names := w.names + 1 }
  return "n" ++ toString w.names

/-- Runs an action and then another one, whether the first one fails or not. -/
def andFinally (act : Act α) (after : Act Unit) : Act α := fun w =>
  match act w with
  | (result, w) =>
    match after w with
    | (.ok (), w) => (result, w)
    | (.error e, w) => (.error e, w)

/-- Runs an action and answers its fault as a value. -/
def attempt (act : Act α) : Act (Except Fault α) := fun w =>
  match act w with
  | (result, w) => (.ok result, w)

end Act

/-- A system without media tools and with the usual methods of compression. -/
def Platform.usual : Platform where
  unforeseen command := .refused (.noSuchFile (command.headD "").text)
  room := usualRoom
  codecs := Archive.usualCodecs
  roots := []

namespace World

/-- The empty world: no files, but a directory for temporary ones. -/
def initial : World where
  files := ⟨[(["/"], .directory), (["/", "tmp"], .directory)]⟩
  tempRoot := "/tmp"
  names := 0
  clock := 0
  logging := false
  environment := []
  runs := []
  processes := []
  exchanges := []
  events := []
  contexts := []
  manifests := []
  defaultContext := none
  platform := .usual

end World

end Compositor
