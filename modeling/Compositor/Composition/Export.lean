import Compositor.Composition.Command

/-!
# Exports

A composition is rendered into a file or into a pipe. Files can be rendered in
two ways, while the caller waits or beside it; both end the same way. Files that
are staged for an export are removed when it ends.
-/
namespace Compositor.Composition

/-- Tells the caller how far an export is, if it wants to know. -/
def report (wanted : Bool) (status : String) : Act Unit := do
  if wanted then Act.emit (.progress status)

/-- A command as one line of text. -/
def commandLine (command : List String) : String := String.intercalate " " command

/-- The failure of a tool that could not be started. -/
def startFault (command : List String) : SystemError → Fault
  | .notFound reason =>
    .tool ⟨.cannotStart (command.headD "") reason, none, "", Argument.ofTexts command⟩
  | e => .ofSystem e

/-- Refuses every exit but success (`_check_exit`). -/
def checkExit (code : Option Int) (stderr : String) (command : List String) : Except Fault Unit :=
  if code == some 0 then .ok ()
  else .error (.tool ⟨.ended code stderr, code, stderr, Argument.ofTexts command⟩)

/-- Where the output of a tool goes: to the console, or to the program. -/
def outputTarget (verbose : Bool) : Redirect := if verbose then .inherited else .pipe

/-- What the program sees of the error output of a tool. Both launches decode it in the same way,
and what is not text in it is replaced. -/
def seenErrors (verbose : Bool) (stderr : List UInt8) : String :=
  if verbose then "" else Text.Utf8.decodeLossy stderr

/-- Starts the tool and waits for its end (`_run`). -/
def runTool (launch : Launch) (command : List String) (progress verbose : Bool) : Act Unit := do
  Act.info ("Running FFmpeg: " ++ commandLine command)
  report progress "processing"
  let target := outputTarget verbose
  match ← Act.spawn launch command target target with
  | .refused e => Act.fail (startFault command e)
  | .finished code _ stderr =>
    Act.ofExcept (checkExit code (seenErrors verbose stderr) command)

/-- Reports that an export has succeeded. -/
def finish (progress : Bool) : Act Unit := do
  report progress "completed"
  Act.info "FFmpeg completed successfully"

/-- Renders into a file while the caller waits (`to_file`). -/
def toFile (c : Composition) (outPath : Argument) (encoder : EncoderProfile)
    (progress verbose : Bool) : Act Unit :=
  Manifest.during c.context fun manifest => do
    let arguments ← c.command outPath encoder .null (some manifest)
    let command ← Act.ofExcept (Argument.command arguments)
    runTool .blocking command progress verbose
    finish progress

/-- Renders into a file beside the caller (`to_file_async`). -/
def toFileAsync (c : Composition) (outPath : Argument) (encoder : EncoderProfile)
    (progress verbose : Bool) : Act Unit := do
  Manifest.during c.context fun manifest => do
    let arguments ← c.command outPath encoder .null (some manifest)
    let command ← Act.ofExcept (Argument.command arguments)
    runTool .asynchronous command progress verbose
  finish progress

/-- What a reader of a pipe does with the output. -/
abbrev PipeReader (α : Type) := String → Act α

/-- Runs a command whose output is read from a pipe (`_pipe_context`). The tool is stopped when the
reader is done, whether it failed or not. -/
def readPipe (arguments : List Argument) (progress : Bool) (reader : PipeReader α) : Act α := do
  let command ← Act.ofExcept (Argument.command arguments)
  Act.info ("Starting FFmpeg stream: " ++ commandLine command)
  match ← Act.spawn .blocking command .pipe .devnull with
  | .refused e => Act.fail (startFault command e)
  | .finished _ stdout _ =>
    report progress "processing"
    Act.andFinally (reader stdout) do
      Act.emit .terminate
      Act.emit .wait

/-- Renders into a pipe (`to_stream`). The tool is started when the pipe is opened, after the
command is complete. -/
def toPipe (c : Composition) (format : Json) (encoder : Option EncoderProfile)
    (progress : Bool) (reader : PipeReader α) : Act α := do
  let arguments ← c.command "-" (encoder.getD EncoderProfile.vp9) format none
  Act.emit .opened
  readPipe arguments progress reader

end Compositor.Composition
