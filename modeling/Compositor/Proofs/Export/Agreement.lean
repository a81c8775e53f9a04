import Compositor.Proofs.Export.Running

/-!
# Two ways of exporting

An export that waits for the tool and one that runs beside it end in the same way and leave
the same world behind, whatever the world answers. Both tell the caller of success exactly
if they succeed, and that is exactly if the tool was started and exited with success.
-/
namespace Compositor

namespace Event

/-- An event without the way in which a process was started. -/
def anyLaunch : Event → Event
  | .spawn _ command input output errors present =>
    .spawn .blocking command input output errors present
  | e => e

def isSpawn : Event → Bool
  | .spawn .. => true
  | _ => false

/-- The processes that were started. -/
def starts (events : List Event) : List Event := events.filter isSpawn

def report? : Event → Option String
  | .progress text => some text
  | _ => none

/-- What the caller was told, in this order. -/
def reported (events : List Event) : List String := events.filterMap report?

@[simp] theorem starts_nil : starts [] = [] := rfl

@[simp] theorem reported_nil : reported [] = [] := rfl

@[simp] theorem starts_append (a b : List Event) : starts (a ++ b) = starts a ++ starts b :=
  List.filter_append ..

@[simp] theorem reported_append (a b : List Event) :
    reported (a ++ b) = reported a ++ reported b :=
  List.filterMap_append

theorem starts_quiet {events : List Event} (h : ∀ e ∈ events, e.isExport = false) :
    starts events = [] := by
  refine List.filter_eq_nil_iff.mpr fun e he hspawn => ?_
  have hquiet := h e he
  cases e <;> simp_all [isSpawn, isExport]

theorem reported_quiet {events : List Event} (h : ∀ e ∈ events, e.isExport = false) :
    reported events = [] := by
  refine List.filterMap_eq_nil_iff.mpr fun e he => ?_
  have hquiet := h e he
  cases e <;> simp_all [report?, isExport]

end Event

namespace World

theorem messages_quiet (w : World) (level : LogLevel) (text : String) :
    ∀ e ∈ w.messages level text, e.isExport = false := by
  unfold messages
  split
  · intro e he
    rw [List.mem_singleton.mp he]
    rfl
  · exact nofun

@[simp] theorem starts_messages (w : World) (level : LogLevel) (text : String) :
    Event.starts (w.messages level text) = [] :=
  Event.starts_quiet (w.messages_quiet level text)

@[simp] theorem reported_messages (w : World) (level : LogLevel) (text : String) :
    Event.reported (w.messages level text) = [] :=
  Event.reported_quiet (w.messages_quiet level text)

/-- A world without the ways in which processes were started. -/
def anyLaunch (w : World) : World := { w with events := w.events.map Event.anyLaunch }

end World

namespace Composition

@[simp] theorem starts_reports (wanted : Bool) (status : String) :
    Event.starts (reports wanted status) = [] := by
  cases wanted <;> rfl

@[simp] theorem reported_reports (wanted : Bool) (status : String) :
    Event.reported (reports wanted status) = if wanted then [status] else [] := by
  cases wanted <;> rfl

variable {c : Composition} {outPath : Argument} {encoder : EncoderProfile}
  {progress verbose : Bool} {w v : World}

theorem starting_anyLaunch (w : World) (launch launch' : Launch) (command : List String)
    (progress verbose : Bool) :
    (starting w launch command progress verbose).map Event.anyLaunch =
      (starting w launch' command progress verbose).map Event.anyLaunch := by
  simp [starting, Event.anyLaunch]

/-- The caller hears of the start, and of the end if it is a success. -/
theorem reported_run (w : World) (launch : Launch) (command : List String)
    (progress verbose : Bool) (result : Except Fault Unit) :
    Event.reported (starting w launch command progress verbose ++ ending w progress result) =
      if progress then "processing" :: (match result with
        | .ok () => ["completed"]
        | .error _ => [])
      else [] := by
  have hspawn : Event.reported [.spawn launch command .devnull (outputTarget verbose)
      (outputTarget verbose) (w.present command)] = [] := rfl
  rw [Event.reported_append, starting, Event.reported_append, hspawn]
  cases result with
  | error e => cases progress <;> simp [ending]
  | ok u => cases progress <;> simp [ending]

/-- The tool is started once. -/
theorem starts_run (w : World) (launch : Launch) (command : List String)
    (progress verbose : Bool) (result : Except Fault Unit) :
    Event.starts (starting w launch command progress verbose ++ ending w progress result) =
      [.spawn launch command .devnull (outputTarget verbose) (outputTarget verbose)
        (w.present command)] := by
  have hspawn (e : Event) (he : e.isSpawn = true) : Event.starts [e] = [e] := by
    rw [Event.starts, List.filter_cons_of_pos he, List.filter_nil]
  rw [Event.starts_append, starting, Event.starts_append, hspawn _ rfl]
  cases result <;> simp [ending]

/-- A command succeeds if its process exits with success. -/
theorem toolResult_eq_ok (command : List String) (verbose : Bool) (reply : ProcessReply) :
    toolResult command verbose reply = .ok () ↔
      ∃ stdout stderr, reply = .finished (some 0) stdout stderr := by
  cases reply with
  | refused e => exact ⟨nofun, nofun⟩
  | finished code stdout stderr =>
    rw [toolResult, checkExit]
    by_cases hcode : code = some 0
    · simp [hcode]
    · simp [hcode]

/-- Both ways of exporting a composition have the same result, and the worlds behind them
differ only in the way in which the tool was started: with the same command, the same
streams and the same files, between the same messages and reports. In both of them the
caller, if it wants to know, is told of the success exactly if there is one, and success
means that the tool was started and exited with 0. -/
theorem exports_agree (c : Composition) (outPath : Argument) (encoder : EncoderProfile)
    (progress verbose : Bool) (w : World) :
    (c.toFile outPath encoder progress verbose w).1 =
      (c.toFileAsync outPath encoder progress verbose w).1 ∧
    (c.toFile outPath encoder progress verbose w).2.anyLaunch =
      (c.toFileAsync outPath encoder progress verbose w).2.anyLaunch ∧
    ∀ launch, ∃ news,
      (toFileBy launch c outPath encoder progress verbose w).2.events = w.events ++ news ∧
      Event.reported news ∈ [[], ["processing"], ["processing", "completed"]] ∧
      (progress = false → Event.reported news = []) ∧
      (progress = true → ("completed" ∈ Event.reported news ↔
        (toFileBy launch c outPath encoder progress verbose w).1 = .ok ())) ∧
      ((toFileBy launch c outPath encoder progress verbose w).1 = .ok () ↔
        (∃ start, Event.starts news = [start]) ∧
          ∃ stdout stderr, w.nextProcess = .finished (some 0) stdout stderr) := by
  obtain ⟨run, hrun, hcourse⟩ := c.exports outPath encoder progress verbose w
  have hblocking : c.toFile outPath encoder progress verbose w = run .blocking := hrun .blocking
  have hasynchronous : c.toFileAsync outPath encoder progress verbose w = run .asynchronous :=
    hrun .asynchronous
  simp only [hblocking, hasynchronous, hrun]
  cases hcourse with
  | homeless =>
    refine ⟨rfl, rfl, fun launch => ⟨[], (List.append_nil _).symm, ?_⟩⟩
    simp
  | unprepared home prepared quiet like =>
    obtain ⟨news, hevents, hnews⟩ := quiet.events
    refine ⟨rfl, rfl, fun launch => ⟨news, hevents, ?_⟩⟩
    simp [Event.reported_quiet hnews, Event.starts_quiet hnews]
  | @started context command v files manifests home prepared quiet like copied =>
    obtain ⟨news, hevents, hnews⟩ := quiet.events
    have hnext : v.nextProcess = w.nextProcess := by rw [World.nextProcess, quiet.processes]; rfl
    refine ⟨rfl, ?_, fun launch => ⟨news ++ (starting v launch command progress verbose ++
      ending v progress (toolResult command verbose v.nextProcess)), ?_, ?_⟩⟩
    · simp only [World.anyLaunch, List.map_append, starting_anyLaunch v .blocking .asynchronous]
    · rw [hevents]
      simp only [List.append_assoc]
    · rw [Event.reported_append, Event.starts_append, Event.reported_quiet hnews,
        Event.starts_quiet hnews, List.nil_append, List.nil_append, reported_run, starts_run,
        ← hnext, ← toolResult_eq_ok command verbose]
      cases progress <;> cases toolResult command verbose v.nextProcess <;> simp

end Composition

end Compositor
