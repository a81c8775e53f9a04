import Compositor.Job.Client

/-!
# Waiting for a job

A job is asked for its status until it is completed or has failed, or until the
time is up, as `wait` of the client does. Waiting is stated for any surroundings in
which one can ask, tell, look at a clock and sleep: in the world they send requests
and move the clock of the world, and any other clock or sequence of answers will do
as well.
-/
namespace Compositor

/-- A kind of clock. Its readings have a difference, the time that passes between them. -/
class Clock (τ : Type) extends Sub τ where
  /-- Whether a number is less than a time that passed. -/
  isBelow : Json → τ → Except Fault Bool

/-- What waiting uses of the world. -/
structure Means (m : Type → Type) (τ : Type) where
  /-- Asks for the status of the job. -/
  ask : m JobStatus
  /-- Tells the caller a new state. -/
  tell : JobState → m Unit
  /-- Reads the clock. -/
  now : m τ
  sleep : Json → m Unit

/-- What one round of waiting needs. -/
structure Watch (m : Type → Type) where
  /-- Asks for the status of the job. -/
  ask : m JobStatus
  /-- Tells the caller a new state. -/
  tell : JobState → m Unit
  /-- Whether more than the allowed time has passed since the start. -/
  isLate : m Bool
  /-- Lets the time between two requests pass. -/
  rest : m Unit

namespace Polling

/-- The state that the caller is told, which is only one that it was not told last. -/
def news (last : Option JobState) (state : JobState) : Option JobState :=
  if last == some state then none else some state

/-- The failure of a job. -/
def failure (job : Json) (s : JobStatus) : ApiError :=
  let text := match s.message with
    | some m => if m.isEmpty then "Job processing failed" else m
    | none => "Job processing failed"
  ⟨.processing, text, none, .obj [("job_id", job), ("status", s.toJson)]⟩

/-- The fault of a job that does not end within its time. -/
def expiry (job : Json) (timeout : Option Json) : Fault :=
  .timedOut job.text (Json.ofOption id timeout).text

variable {m : Type → Type} [Monad m] [MonadExceptOf Fault m]

/-- What follows from one answer: the final status, or nothing when the job has to
be asked again. The time is looked at only when the answer is not final. -/
def judge (w : Watch m) (job : Json) (timeout : Option Json) (s : JobStatus) :
    m (Option JobStatus) := do
  match s.state with
  | .completed => return some s
  | .failed => throw (.api (failure job s))
  | _ =>
    if ← w.isLate then throw (expiry job timeout)
    else return none

/-- Asks for the status of a job at most `rounds` times, with a rest between two requests; nothing
means that the job has not ended by then (the loop of `wait`). -/
def loop (w : Watch m) (job : Json) (timeout : Option Json) :
    Nat → Option JobState → m (Option JobStatus)
  | 0, _ => return none
  | rounds + 1, last => do
    let s ← w.ask
    match news last s.state with
    | some state => w.tell state
    | none => pure ()
    match ← judge w job timeout s with
    | some final => return some final
    | none =>
      w.rest
      loop w job timeout rounds (some s.state)

variable {τ : Type} [Clock τ]

/-- Whether more than the timeout has passed; without one there is always time. -/
def isLate (timeout : Option Json) (elapsed : τ) : Except Fault Bool :=
  match timeout with
  | none => .ok false
  | some t => Clock.isBelow t elapsed

/-- The rounds of someone who began to wait at `started`. -/
def watch (means : Means m τ) (interval : Json) (timeout : Option Json) (started : τ) :
    Watch m where
  ask := means.ask
  tell := means.tell
  isLate := do MonadExcept.ofExcept (isLate timeout ((← means.now) - started))
  rest := means.sleep interval

/-- Waits for a job from now on, for at most so many rounds. -/
def wait (means : Means m τ) (job interval : Json) (timeout : Option Json) (rounds : Nat) :
    m (Option JobStatus) := do
  loop (watch means interval timeout (← means.now)) job timeout rounds none

end Polling

/-- The clock of the world counts seconds in doubles. -/
instance : Clock Float where
  isBelow t elapsed := Json.less t (.real elapsed)

namespace Client

/-- Lets time pass. -/
def sleep (seconds : Json) : Act Unit := do
  Act.emit (.sleep seconds)
  let x ← Act.ofExcept (do (← seconds.toNumber).toFloat)
  modify fun w => { w with clock := w.clock + x }

/-- What a client that waits uses of the world. -/
def means (c : Client) (job : Json) (telling : Bool) : Means Act Float where
  ask := c.status job
  tell state := do if telling then Act.emit (.status state.name)
  now := do return (← getThe World).clock
  sleep := sleep

/-- The rounds of a client that began to wait at `started`. -/
def watch (c : Client) (job interval : Json) (timeout : Option Json) (telling : Bool)
    (started : Float) : Watch Act :=
  Polling.watch (c.means job telling) interval timeout started

/-- Waits until a job is completed (`wait`). A request without an answer ends the waiting with a
fault, so one round more than there are answers is never used up. -/
def wait (c : Client) (job interval : Json) (timeout : Option Json) (telling : Bool) :
    Act JobStatus := do
  let answers := ((← getThe World).exchanges.flatMap fun e => e.2).length
  match ← Polling.wait (c.means job telling) job interval timeout (answers + 1) with
  | some s => return s
  | none => c.status job

end Client

end Compositor
