import Mathlib.Data.List.Destutter
import Compositor.Job.Polling

/-!
# The course of waiting

What is done while waiting for a job is a list of deeds: asking, telling, looking at the
time and resting, each with what came of it. A course says which deeds these are. Some
answers leave the job open, and each of them is followed by a look at the time and a rest.
Then waiting ends, in one of few ways, or the rounds are used up.

The surroundings are any that have a state. Whatever they answer, and however long that
goes on, waiting takes such a course.
-/
namespace Compositor

/-- The states in which a job has not ended. -/
def JobState.IsOpen (state : JobState) : Prop := state ≠ .completed ∧ state ≠ .failed

namespace Polling

/-- Something that is done while waiting, and what comes of it. -/
inductive Deed where
  | asked (reply : Except Fault JobStatus)
  | told (state : JobState) (outcome : Except Fault Unit)
  | looked (late : Except Fault Bool)
  | rested (outcome : Except Fault Unit)

/-- How waiting ends. -/
inductive Ending where
  /-- The exchange about the status ends in an error. -/
  | refused (error : Fault)
  | completed (status : JobStatus) (h : status.state = .completed)
  | failed (status : JobStatus) (h : status.state = .failed)
  /-- The job is open, and its time is up. -/
  | expired (status : JobStatus) (h : status.state.IsOpen)
  /-- The caller fails when told. -/
  | untold (status : JobStatus) (error : Fault)
  /-- The time that has passed cannot be compared. -/
  | timeless (status : JobStatus) (h : status.state.IsOpen) (error : Fault)
  | restless (status : JobStatus) (h : status.state.IsOpen) (error : Fault)

/-- The answers that leave the job open, and the end of waiting, unless the rounds are used
up before it. -/
structure Course where
  pending : List JobStatus
  ending : Option Ending

variable {σ : Type} {watch : Watch (ExceptT Fault (StateM σ))} {job : Json}
  {timeout : Option Json}

/-! ## What a course consists of -/

/-- Telling a state to a caller who was told another one, or none, before. -/
def tidings (last : Option JobState) (state : JobState) : List Deed :=
  (news last state).toList.map fun state => .told state (.ok ())

namespace Ending

/-- The deeds with which waiting ends. Only an open job makes the waiter look at the time. -/
def deeds (last : Option JobState) : Ending → List Deed
  | .refused error => [.asked (.error error)]
  | .completed status _ => .asked (.ok status) :: tidings last status.state
  | .failed status _ => .asked (.ok status) :: tidings last status.state
  | .expired status _ => .asked (.ok status) :: tidings last status.state ++ [.looked (.ok true)]
  | .untold status error => [.asked (.ok status), .told status.state (.error error)]
  | .timeless status _ error =>
    .asked (.ok status) :: tidings last status.state ++ [.looked (.error error)]
  | .restless status _ error =>
    .asked (.ok status) :: tidings last status.state ++
      [.looked (.ok false), .rested (.error error)]

/-- What whoever waited gets. -/
def result (job : Json) (timeout : Option Json) : Ending → Except Fault JobStatus
  | .completed status _ => .ok status
  | .failed status _ => .error (.api {
      kind := .processing
      text := (status.message.filter (· ≠ "")).getD "Job processing failed"
      status := none
      data := .obj [("job_id", job), ("status", status.toJson)] })
  | .expired _ _ => .error (.timedOut job.text (Json.ofOption id timeout).text)
  | .refused error | .untold _ error | .timeless _ _ error | .restless _ _ error => .error error

/-- Waiting ends by itself: by what the job has come to, by an error of the exchange or by
the time. -/
def IsRegular : Ending → Prop
  | .refused _ | .completed _ _ | .failed _ _ | .expired _ _ => True
  | .untold _ _ | .timeless _ _ _ | .restless _ _ _ => False

end Ending

/-- The deeds of waiting, when the caller was told `last` before. -/
def deeds (ending : Option Ending) : Option JobState → List JobStatus → List Deed
  | last, [] => (ending.map (Ending.deeds last)).getD []
  | last, status :: pending =>
    .asked (.ok status) :: tidings last status.state ++
      [.looked (.ok false), .rested (.ok ())] ++ deeds ending (some status.state) pending

namespace Deed

/-- The state in an answer. -/
def received? : Deed → Option JobState
  | .asked (.ok status) => some status.state
  | _ => none

/-- The state that the caller is told. -/
def told? : Deed → Option JobState
  | .told state _ => some state
  | _ => none

/-- Doing a deed at `s` leads to `s'`. -/
def Done (watch : Watch (ExceptT Fault (StateM σ))) (s : σ) : Deed → σ → Prop
  | .asked reply, s' => watch.ask s = (reply, s')
  | .told state outcome, s' => watch.tell state s = (outcome, s')
  | .looked late, s' => watch.isLate s = (late, s')
  | .rested outcome, s' => watch.rest s = (outcome, s')

end Deed

/-- Doing deeds one after the other. -/
def Performed (watch : Watch (ExceptT Fault (StateM σ))) : List Deed → σ → σ → Prop
  | [], s, s'' => s = s''
  | deed :: rest, s, s'' => ∃ s', deed.Done watch s s' ∧ Performed watch rest s' s''

theorem Performed.append {first second : List Deed} {s s' s'' : σ}
    (h : Performed watch first s s') (h' : Performed watch second s' s'') :
    Performed watch (first ++ second) s s'' := by
  induction first generalizing s with
  | nil =>
    cases h
    exact h'
  | cons deed rest ih =>
    obtain ⟨s₁, hdone, hrest⟩ := h
    exact ⟨s₁, hdone, ih hrest⟩

namespace Course

def deeds (course : Course) : List Deed := Polling.deeds course.ending none course.pending

/-- What comes of waiting; nothing when it has not ended. -/
def outcome (job : Json) (timeout : Option Json) (course : Course) :
    Except Fault (Option JobStatus) :=
  match course.ending with
  | none => .ok none
  | some ending => (ending.result job timeout).map some

theorem outcome_of_ended {course : Course} (h : course.ending ≠ none) :
    course.outcome job timeout ≠ .ok none := by
  obtain ⟨pending, ending⟩ := course
  cases ending with
  | none => exact absurd rfl h
  | some ending =>
    unfold outcome
    dsimp only
    cases ending.result job timeout <;> exact nofun

/-- Waiting takes a course from `s` to `s'`. -/
structure Taken (watch : Watch (ExceptT Fault (StateM σ))) (course : Course) (s s' : σ) :
    Prop where
  performed : Performed watch course.deeds s s'
  pending_isOpen : ∀ status ∈ course.pending, status.state.IsOpen
  /-- The caller is told every state that is not the one before. -/
  told_eq : course.deeds.filterMap Deed.told? =
    (course.deeds.filterMap Deed.received?).destutter (· ≠ ·)

end Course

/-! ## Telling each new state once -/

/-- What the caller is told after `last`, with `last` before it. -/
def Fresh (last : Option JobState) (deeds : List Deed) : Prop :=
  last.toList ++ deeds.filterMap Deed.told? =
    (last.toList ++ deeds.filterMap Deed.received?).destutter (· ≠ ·)

theorem told_tidings (last : Option JobState) (state : JobState) :
    (tidings last state).filterMap Deed.told? = (news last state).toList := by
  unfold tidings
  cases news last state <;> rfl

theorem received_tidings (last : Option JobState) (state : JobState) :
    (tidings last state).filterMap Deed.received? = [] := by
  unfold tidings
  cases news last state <;> rfl

theorem news_self (state : JobState) : news (some state) state = none := by
  rw [news, if_pos (beq_self_eq_true _)]

theorem news_of_ne {last : Option JobState} {state : JobState} (h : last ≠ some state) :
    news last state = some state := by
  rw [news, if_neg]
  rwa [beq_iff_eq]

/-- An answer and what the caller hears of it. -/
theorem Fresh.told {last : Option JobState} {status : JobStatus} {heard rest : List Deed}
    (htold : heard.filterMap Deed.told? = (news last status.state).toList)
    (hreceived : heard.filterMap Deed.received? = []) (h : Fresh (some status.state) rest) :
    Fresh last (.asked (.ok status) :: heard ++ rest) := by
  have hrest : status.state :: rest.filterMap Deed.told? =
      (rest.filterMap Deed.received?).destutter' (· ≠ ·) status.state := h
  have hsaid : (Deed.asked (.ok status) :: heard ++ rest).filterMap Deed.told? =
      (news last status.state).toList ++ rest.filterMap Deed.told? := by
    rw [List.filterMap_append, List.filterMap_cons, htold]
    rfl
  have hgot : (Deed.asked (.ok status) :: heard ++ rest).filterMap Deed.received? =
      status.state :: rest.filterMap Deed.received? := by
    rw [List.filterMap_append, List.filterMap_cons, hreceived]
    rfl
  rw [Fresh, hsaid, hgot]
  cases last with
  | none => exact hrest
  | some state =>
    by_cases hstate : state = status.state
    · subst hstate
      rw [news_self]
      exact hrest.trans (List.destutter'_cons_neg _ (not_not.mpr rfl)).symm
    · rw [news_of_ne (by simpa using hstate)]
      refine .trans ?_ (List.destutter'_cons_pos _ hstate).symm
      rw [← hrest]
      rfl

/-- What neither asks nor tells is passed over. -/
theorem Fresh.quiet {last : Option JobState} {quiet rest : List Deed}
    (htold : quiet.filterMap Deed.told? = []) (hreceived : quiet.filterMap Deed.received? = [])
    (h : Fresh last rest) : Fresh last (quiet ++ rest) := by
  rw [Fresh, List.filterMap_append, List.filterMap_append, htold, hreceived]
  exact h

theorem fresh_nil (last : Option JobState) : Fresh last [] := by cases last <;> rfl

/-! ## One round -/

theorem bind_apply {α β : Type} (x : ExceptT Fault (StateM σ) α)
    (f : α → ExceptT Fault (StateM σ) β) (s : σ) :
    (x >>= f) s = match x s with
      | (.ok a, s') => f a s'
      | (.error e, s') => (.error e, s') := by
  change ExceptT.bind x f s = _
  simp only [ExceptT.bind, ExceptT.mk, Bind.bind, StateT.bind, ExceptT.bindCont]
  cases x s with
  | mk r s' => cases r <;> rfl

theorem loop_zero (last : Option JobState) (s : σ) :
    loop watch job timeout 0 last s = (.ok none, s) := by
  rw [loop]
  rfl

/-- One round, and then the others. -/
theorem loop_succ (watch : Watch (ExceptT Fault (StateM σ))) (job : Json)
    (timeout : Option Json) (rounds : Nat) (last : Option JobState) :
    loop watch job timeout (rounds + 1) last = watch.ask >>= fun status =>
      (match news last status.state with
        | some state => watch.tell state
        | none => pure ()) >>= fun _ =>
      judge watch job timeout status >>= fun final =>
      match final with
      | some status => pure (some status)
      | none => watch.rest >>= fun _ => loop watch job timeout rounds (some status.state) := by
  rw [loop]
  congr
  funext status
  cases news last status.state with
  | none => rfl
  | some state => rfl

/-- The text of a failure is the job's own, unless that is empty. -/
theorem failure_eq (job : Json) (status : JobStatus) : failure job status = {
    kind := .processing
    text := (status.message.filter (· ≠ "")).getD "Job processing failed"
    status := none
    data := .obj [("job_id", job), ("status", status.toJson)] } := by
  unfold failure
  cases status.message with
  | none => rfl
  | some message => by_cases h : message = "" <;> simp [h, Option.filter]

theorem judge_completed {status : JobStatus} (h : status.state = .completed) (s : σ) :
    judge watch job timeout status s = (.ok (some status), s) := by
  rw [judge, h]
  rfl

theorem judge_failed {status : JobStatus} (h : status.state = .failed) (s : σ) :
    judge watch job timeout status s = (.error (.api (failure job status)), s) := by
  rw [judge, h]
  rfl

/-- An open job is judged by the time. -/
theorem judge_open {status : JobStatus} (h : status.state.IsOpen) (s : σ) :
    judge watch job timeout status s = match watch.isLate s with
      | (.ok late, s') => (if late then .error (expiry job timeout) else .ok none, s')
      | (.error error, s') => (.error error, s') := by
  have hjudge : judge watch job timeout status = watch.isLate >>= fun late =>
      if late then throw (expiry job timeout) else pure none := by
    unfold judge
    cases hstate : status.state with
    | completed => exact absurd hstate h.1
    | failed => exact absurd hstate h.2
    | _ => rfl
  rw [hjudge, bind_apply]
  match watch.isLate s with
  | (.ok late, s') => cases late <;> rfl
  | (.error error, s') => rfl

theorem tidings_done {last : Option JobState} {state : JobState} {s s' : σ}
    (h : (match news last state with
      | some state => watch.tell state
      | none => pure ()) s = (.ok (), s')) : Performed watch (tidings last state) s s' := by
  unfold tidings
  cases hnews : news last state with
  | none =>
    rw [hnews] at h
    cases h
    rfl
  | some state =>
    rw [hnews] at h
    exact ⟨s', h, rfl⟩

theorem tidings_failed {last : Option JobState} {state : JobState} {error : Fault} {s s' : σ}
    (h : (match news last state with
      | some state => watch.tell state
      | none => pure ()) s = (.error error, s')) :
    news last state = some state ∧ watch.tell state s = (.error error, s') := by
  by_cases hlast : last = some state
  · rw [hlast, news_self] at h
    cases h
  · rw [news_of_ne hlast] at h ⊢
    exact ⟨rfl, h⟩

/-- Waiting ends in the next round. -/
def Ends (watch : Watch (ExceptT Fault (StateM σ))) (job : Json) (timeout : Option Json)
    (last : Option JobState) (s : σ) (ending : Ending) (s' : σ) : Prop :=
  (∀ rounds, loop watch job timeout (rounds + 1) last s =
    ((ending.result job timeout).map some, s')) ∧
  Performed watch (ending.deeds last) s s' ∧ Fresh last (ending.deeds last)

/-- The next round leaves the job open. -/
def GoesOn (watch : Watch (ExceptT Fault (StateM σ))) (job : Json) (timeout : Option Json)
    (last : Option JobState) (s : σ) (status : JobStatus) (s' : σ) : Prop :=
  status.state.IsOpen ∧
  (∀ rounds, loop watch job timeout (rounds + 1) last s =
    loop watch job timeout rounds (some status.state) s') ∧
  Performed watch (.asked (.ok status) :: tidings last status.state ++
    [.looked (.ok false), .rested (.ok ())]) s s'

theorem fresh_closing {last : Option JobState} {status : JobStatus} {quiet : List Deed}
    (htold : quiet.filterMap Deed.told? = []) (hreceived : quiet.filterMap Deed.received? = []) :
    Fresh last (.asked (.ok status) :: tidings last status.state ++ quiet) := by
  refine .told (told_tidings last status.state) (received_tidings last status.state) ?_
  have hquiet := Fresh.quiet htold hreceived (fresh_nil (some status.state))
  rwa [List.append_nil] at hquiet

/-- A round in which the job is known to be `status` and the caller has heard of it. -/
theorem round_of_status {last : Option JobState} {status : JobStatus} {s s₁ s₂ : σ}
    (hask : watch.ask s = (.ok status, s₁))
    (hheard : Performed watch (tidings last status.state) s₁ s₂)
    (hround : ∀ rounds, loop watch job timeout (rounds + 1) last s =
      (judge watch job timeout status >>= fun final =>
        match final with
        | some status => pure (some status)
        | none => watch.rest >>= fun _ =>
          loop watch job timeout rounds (some status.state)) s₂) :
    (∃ ending s', Ends watch job timeout last s ending s') ∨
      ∃ status s', GoesOn watch job timeout last s status s' := by
  have hdeeds {quiet : List Deed} {s' : σ} (h : Performed watch quiet s₂ s') :
      Performed watch (.asked (.ok status) :: tidings last status.state ++ quiet) s s' :=
    ⟨s₁, hask, hheard.append h⟩
  have hsilent : Performed watch (.asked (.ok status) :: tidings last status.state) s s₂ :=
    ⟨s₁, hask, hheard⟩
  have hfresh : Fresh last (.asked (.ok status) :: tidings last status.state) := by
    rw [← List.append_nil (.asked (.ok status) :: tidings last status.state)]
    exact fresh_closing rfl rfl
  by_cases hcompleted : status.state = .completed
  · refine .inl ⟨.completed status hcompleted, s₂, fun rounds => ?_, hsilent, hfresh⟩
    rw [hround, bind_apply, judge_completed hcompleted]
    rfl
  by_cases hfailed : status.state = .failed
  · refine .inl ⟨.failed status hfailed, s₂, fun rounds => ?_, hsilent, hfresh⟩
    rw [hround, bind_apply, judge_failed hfailed, failure_eq]
    rfl
  have hopen : status.state.IsOpen := ⟨hcompleted, hfailed⟩
  match hlate : watch.isLate s₂ with
  | (.error error, s₃) =>
    refine .inl ⟨.timeless status hopen error, s₃, fun rounds => ?_, hdeeds ⟨s₃, hlate, rfl⟩,
      fresh_closing rfl rfl⟩
    rw [hround, bind_apply, judge_open hopen, hlate]
    rfl
  | (.ok true, s₃) =>
    refine .inl ⟨.expired status hopen, s₃, fun rounds => ?_, hdeeds ⟨s₃, hlate, rfl⟩,
      fresh_closing rfl rfl⟩
    rw [hround, bind_apply, judge_open hopen, hlate]
    rfl
  | (.ok false, s₃) =>
    have hrests (rounds : Nat) : loop watch job timeout (rounds + 1) last s =
        (watch.rest >>= fun _ => loop watch job timeout rounds (some status.state)) s₃ := by
      rw [hround, bind_apply, judge_open hopen, hlate]
      rfl
    match hrest : watch.rest s₃ with
    | (.error error, s₄) =>
      refine .inl ⟨.restless status hopen error, s₄, fun rounds => ?_,
        hdeeds ⟨s₃, hlate, s₄, hrest, rfl⟩, fresh_closing rfl rfl⟩
      rw [hrests, bind_apply, hrest]
      rfl
    | (.ok (), s₄) =>
      refine .inr ⟨status, s₄, hopen, fun rounds => ?_, hdeeds ⟨s₃, hlate, s₄, hrest, rfl⟩⟩
      rw [hrests, bind_apply, hrest]

/-- Every round ends the waiting or leaves the job open. -/
theorem round_ends_or_goesOn (watch : Watch (ExceptT Fault (StateM σ))) (job : Json)
    (timeout : Option Json) (last : Option JobState) (s : σ) :
    (∃ ending s', Ends watch job timeout last s ending s') ∨
      ∃ status s', GoesOn watch job timeout last s status s' := by
  match hask : watch.ask s with
  | (.error error, s₁) =>
    refine .inl ⟨.refused error, s₁, fun rounds => ?_, ⟨s₁, hask, rfl⟩, fresh_nil last⟩
    rw [loop_succ, bind_apply, hask]
    rfl
  | (.ok status, s₁) =>
    have hheard (rounds : Nat) : loop watch job timeout (rounds + 1) last s =
        ((match news last status.state with
          | some state => watch.tell state
          | none => pure ()) >>= fun _ =>
        judge watch job timeout status >>= fun final =>
        match final with
        | some status => pure (some status)
        | none => watch.rest >>= fun _ =>
          loop watch job timeout rounds (some status.state)) s₁ := by
      rw [loop_succ, bind_apply, hask]
    match htell : (match news last status.state with
        | some state => watch.tell state
        | none => pure ()) s₁ with
    | (.error error, s₂) =>
      obtain ⟨hnews, hfailed⟩ := tidings_failed htell
      refine .inl ⟨.untold status error, s₂, fun rounds => ?_, ⟨s₁, hask, s₂, hfailed, rfl⟩, ?_⟩
      · rw [hheard, bind_apply, htell]
        rfl
      · have htold : [Deed.told status.state (.error error)].filterMap Deed.told? =
            (news last status.state).toList := by
          rw [hnews]
          rfl
        exact .told htold rfl (fresh_nil _)
    | (.ok (), s₂) =>
      refine round_of_status hask (tidings_done htell) fun rounds => ?_
      rw [hheard, bind_apply, htell]

/-! ## All rounds -/

/-- Whatever is answered in the rounds that are allowed, waiting takes a course. -/
theorem loop_course (watch : Watch (ExceptT Fault (StateM σ))) (job : Json)
    (timeout : Option Json) (rounds : Nat) (last : Option JobState) (s : σ) :
    ∃ course : Course, ∃ s', loop watch job timeout rounds last s =
        (course.outcome job timeout, s') ∧
      Performed watch (deeds course.ending last course.pending) s s' ∧
      (∀ status ∈ course.pending, status.state.IsOpen) ∧
      Fresh last (deeds course.ending last course.pending) ∧
      (course.ending = none → course.pending.length = rounds) := by
  induction rounds generalizing last s with
  | zero => exact ⟨⟨[], none⟩, s, loop_zero last s, rfl, List.forall_mem_nil _, fresh_nil last,
      fun _ => rfl⟩
  | succ rounds ih =>
    rcases round_ends_or_goesOn watch job timeout last s with
      ⟨ending, s', hloop, hdeeds, hfresh⟩ | ⟨status, s₁, hopen, hloop, hdeeds⟩
    · exact ⟨⟨[], some ending⟩, s', hloop rounds, hdeeds, List.forall_mem_nil _, hfresh,
        fun h => by cases h⟩
    · obtain ⟨⟨pending, ending⟩, s', hrest, hperformed, hpending, hfresh, hlength⟩ :=
        ih (some status.state) s₁
      refine ⟨⟨status :: pending, ending⟩, s', (hloop rounds).trans hrest,
        hdeeds.append hperformed, ?_, ?_, fun h => congrArg (· + 1) (hlength h)⟩
      · rw [List.forall_mem_cons]
        exact ⟨hopen, hpending⟩
      · rw [deeds, List.append_assoc]
        exact .told (told_tidings last status.state) (received_tidings last status.state)
          (.quiet rfl rfl hfresh)

/-- Rounds that are left when waiting ends are not used. -/
theorem loop_ended {rounds : Nat} {last : Option JobState} {s s' : σ}
    {outcome : Except Fault (Option JobStatus)}
    (h : loop watch job timeout rounds last s = (outcome, s')) (hended : outcome ≠ .ok none)
    (more : Nat) : loop watch job timeout (rounds + more) last s = (outcome, s') := by
  induction rounds generalizing last s with
  | zero =>
    rw [loop_zero] at h
    cases h
    exact absurd rfl hended
  | succ rounds ih =>
    rw [Nat.add_right_comm]
    rcases round_ends_or_goesOn watch job timeout last s with
      ⟨ending, s₁, hloop, -, -⟩ | ⟨status, s₁, -, hloop, -⟩
    · rw [hloop] at h ⊢
      exact h
    · rw [hloop] at h ⊢
      exact ih h

end Polling

end Compositor
