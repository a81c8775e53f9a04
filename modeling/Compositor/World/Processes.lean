import Compositor.World.Basic

/-!
# Processes

Commands that run to their end within a time limit, and processes that are
started and waited for. The answers come from the world: a list of answers is
used up one by one, and for commands the last one stays.
-/
namespace Compositor

namespace World

/-- The next answer for a key, and what is left; the last answer stays. -/
def takeRun (key : String) :
    List (String × List RunReply) → Option (RunReply × List (String × List RunReply))
  | [] => none
  | (k, replies) :: rest =>
    if k == key then
      match replies with
      | [] => none
      | [reply] => some (reply, (k, [reply]) :: rest)
      | reply :: more => some (reply, (k, more) :: rest)
    else (takeRun key rest).map fun (reply, left) => (reply, (k, replies) :: left)

end World

namespace Act

/-- Whether an argument of a command, behind the name of its tool, has a NUL in it. -/
def hasNull (command : List Argument) : Bool :=
  command.tail.any fun
    | .str s => s.toList.contains '\x00'
    | _ => false

/-- Runs a command to its end. The answer depends on its last element, which has to
be text. The system is not asked to run a command with a NUL in an argument. -/
def runCommand (command : List Argument) (timeout : Nat) : Act RunReply := do
  if hasNull command then return .refused .nullCharacter
  emit (.run command timeout)
  let w ← get
  match command.getLast? with
  | some (.str last) =>
    match World.takeRun last w.runs with
    | some (reply, runs) =>
      set { w with runs }
      return reply
    | none => return w.platform.unforeseen command
  | _ => fail .noAttribute

/-- Starts a process. When nothing more is laid out, it succeeds in silence. -/
def spawn (launch : Launch) (command : List String) (output errors : Redirect) :
    Act ProcessReply := do
  let w ← get
  let present := command.filter fun arg =>
    arg.startsWith w.tempRoot && w.files.isFile arg
  emit (.spawn launch command .devnull output errors present)
  match w.processes with
  | [] => return .finished (some 0) "" []
  | reply :: rest =>
    modify fun w => { w with processes := rest }
    return reply

end Act

end Compositor
