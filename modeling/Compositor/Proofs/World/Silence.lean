import Compositor.Foreground
import Compositor.Proofs.World.Staging
import Compositor.Proofs.World.Talking

/-!
# Actions that say nothing to servers

Most actions neither send a request nor use up an answer: they ask a tool, write a file or
take a note. Opening a file that was stored is one of them, since its path is no address.
-/
namespace Compositor

variable {α γ : Type}

/-- The action sends no request. -/
abbrev Act.IsSilent (x : Act α) : Prop := x.Keeps World.traffic

/-- A view that shows nothing of files, of tools and of what they answer. -/
structure World.HidesTools (view : World → γ) : Prop extends HidesFiles view where
  run : ∀ (w : World) command timeout,
    view { w with events := w.events ++ [.run command timeout] } = view w
  answers : ∀ w runs, view { w with runs } = view w

namespace Act

theorem silent_emit {e : Event} (h : e.isTransfer = false) : (emit e).IsSilent := by
  intro w
  have hnone : [e].filter Event.isTransfer = [] := by simp [h]
  rw [emit_apply, World.traffic, List.filter_append, hnone, List.append_nil]
  rfl

theorem silent_log (level : LogLevel) (text : String) : (log level text).IsSilent :=
  .log World.traffic_hidesFiles level text

namespace Keeps

variable {view : World → γ}

theorem runCommand (h : World.HidesTools view) (command : List Argument) (timeout : Nat) :
    (runCommand command timeout).Keeps view := by
  refine .ite (.pure _) (.bind (.change fun w => h.run w _ _) fun _ w => ?_)
  rw [get_bind]
  cases command.getLast? with
  | none => rfl
  | some last =>
    cases last with
    | str last =>
      dsimp only
      cases World.takeRun last w.runs with
      | none => rfl
      | some found => exact h.answers w _
    | _ => rfl

theorem contextId (id : ContextId) : (Context.ofId id).Keeps view := by
  refine .bind .look fun w => ?_
  split
  · exact .pure _
  · exact .fail _

theorem tempPath (h : World.HidesFiles view) (id : ContextId) (suffix start : Json) :
    (Context.tempPath id suffix start).Keeps view :=
  .bind (.contextId id) fun _ => .freshFile h _ _ _

theorem freshDirectory (h : World.HidesFiles view) (directory before : Json) :
    (freshDirectory directory before).Keeps view :=
  .bind .look fun _ => .bind (.bind .look fun _ => .pure _) fun _ => .claim h _ _ _

end Keeps

end Act

theorem World.traffic_hidesTools : HidesTools traffic :=
  ⟨traffic_hidesFiles, fun w _ _ => Act.silent_emit rfl w, fun _ _ => rfl⟩

theorem Act.silent_runCommand (command : List Argument) (timeout : Nat) :
    (runCommand command timeout).IsSilent := .runCommand World.traffic_hidesTools command timeout

theorem Context.silent_tempPath (id : ContextId) (suffix start : Json) :
    (tempPath id suffix start).IsSilent := .tempPath World.traffic_hidesFiles id suffix start

/-- The default context is made without a server. -/
theorem Context.silent_orDefault (context : Option ContextId) : (orDefault context).IsSilent := by
  have hcreate (ffmpeg ffprobe : Argument) (root : Option Json) :
      (create ffmpeg ffprobe root).IsSilent :=
    .bind .look fun _ => .bind (.freshDirectory World.traffic_hidesFiles _ _) fun _ =>
      .bind (.change fun _ => rfl) fun _ => .pure _
  have hvariable (name : String) : (Act.environment? name).IsSilent :=
    .bind .look fun _ => .pure _
  cases context with
  | some id => exact .pure _
  | none =>
    refine .bind .look fun w => ?_
    split
    · exact .pure _
    · exact .bind (.bind (hvariable _) fun _ => .bind (hvariable _) fun _ =>
        .bind (hvariable _) fun _ => hcreate _ _ _) fun _ =>
          .bind (.change fun _ => rfl) fun _ => .pure _

/-! ## Opening a clip -/

namespace Act.Keeps

variable {view : World → γ}

theorem probe (h : World.HidesTools view) (source : Json) (context : ContextId) :
    (StreamInfo.probe source context).Keeps view := by
  have hgiveUp (source reason : String) : (StreamInfo.giveUp source reason).Keeps view :=
    .bind (.log h.toHidesFiles _ _) fun _ => .ofExcept _
  have hreply (room : Nat) (source : String) (reply : RunReply) :
      (StreamInfo.ofReply room source reply).Keeps view := by
    refine .bind (.ofExcept _) fun document => ?_
    split
    · exact hgiveUp _ _
    · refine .bind (.ofExcept _) fun info => ?_
      split
      · exact hgiveUp _ _
      · exact .bind (.log h.toHidesFiles _ _) fun _ => .pure _
  exact .bind (.contextId _) fun _ => .bind (.ofExcept _) fun _ =>
    .bind (.runCommand h _ _) fun _ => .bind .look fun _ => hreply _ _ _

theorem extract (h : World.HidesFiles view) (path : Json) (context : ContextId) (start : Json) :
    (Archive.extract path context start).Keeps view := by
  have hdirectory : (Context.tempDirectory context start).Keeps view :=
    .bind (.contextId _) fun _ => .freshDirectory h _ _
  refine .bind hdirectory fun directory => ?_
  cases path with
  | str path =>
    refine .bind .look fun _ => .bind (.ofExcept _) fun members => .bind .look fun _ => ?_
    exact .bind (.change fun w => h.files w _) fun _ => .bind (.ofExcept _) fun _ =>
      .bind (.log h _ _) fun _ => .pure _
  | _ => exact .fail _

/-- Nothing is sent to what is no address. -/
theorem send_spaced {url : String} (h : Path.IsSpaced url) (timeout : Json) :
    (Act.send ⟨"GET", url, [], [], .none, timeout⟩).Keeps view := by
  intro w
  rcases send_talked ⟨"GET", url, [], [], .none, timeout⟩ w with
    ⟨error, hrun⟩ | ⟨e, -, htarget, -⟩
  · rw [hrun]
  · exact absurd h (Address.Target.prepare_slashes htarget)

theorem ofSource (h : World.HidesTools view) (format : ForegroundFormat) (path : Json)
    (context : ContextId) : (Foreground.ofSource format path context).Keeps view :=
  .bind (.probe h _ _) fun _ => .ofExcept _

theorem ofBundle (h : World.HidesTools view) {path : String} (hpath : Path.IsSpaced path)
    (soft : Json) (context : ContextId) :
    (Foreground.ofBundle path soft context).Keeps view := by
  have hlocal : (Foreground.localBundle path context).Keeps view :=
    .bind (.ofExcept _) fun _ => .ite (.bind (.toFile h.toHidesFiles (.send_spaced hpath _)
      (fun _ => .tempPath h.toHidesFiles _ _ _) _) fun _ => .pure _) (.pure _)
  have hneed (member : String) (path : String) (found : Option String) :
      (Foreground.needMember member path found).Keeps view := by
    cases found with
    | none => exact .fail _
    | some found => exact .pure _
  have hfiles (picture mask audio soft : Json) :
      (Foreground.ofFiles picture mask audio soft context).Keeps view :=
    .bind (.probe h _ _) fun _ => .ofExcept _
  exact .bind hlocal fun _ => .bind (.extract h.toHidesFiles _ _ _) fun _ => .bind .look fun _ =>
    .bind (.ofExcept _) fun _ => .bind (.ofExcept _) fun _ => .bind (.ofExcept _) fun _ =>
    .bind (hneed _ _ _) fun _ => .bind (hneed _ _ _) fun _ =>
    .bind (.log h.toHidesFiles _ _) fun _ => hfiles _ _ _ _

/-- Opening a stored clip takes its files and tools, and nothing else. -/
theorem ofLocator (h : World.HidesTools view) {path : String} (hpath : Path.IsSpaced path)
    (context : ContextId) : (Foreground.ofLocator path (some context)).Keeps view := by
  refine .bind (.pure context) fun context => .bind (.ofExcept _) fun ext => ?_
  split
  · rename_i format _
    cases format with
    | bundle => exact .ofBundle h hpath _ _
    | _ => exact .ofSource h _ _ _
  · exact .fail _

end Act.Keeps

end Compositor
