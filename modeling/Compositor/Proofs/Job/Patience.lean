import Compositor.Proofs.Job.Waiting
import Compositor.Proofs.Json.Value

/-!
# The client waits for its job

In the world, each deed of waiting leaves its record: a question leaves its request and those
with which it was sent on, a rest leaves its length, and the caller is told when there is one.
A client that waits takes a course to its end, for the answers of a server run out before the
rounds do.
-/
namespace Compositor

open Polling

/-- What a request leaves behind: itself, and the requests with which servers sent it on. One
that cannot be sent leaves nothing. -/
def Request.Leaves (r : Request) (events : List Event) : Prop :=
  match Address.Target.prepare r.url r.fields, headerError? r.headers with
  | .ok url, none =>
    ∃ hops, events = Sending.record ⟨r.method, url, r.headers, r.body⟩ r.timeout hops
  | _, _ => events = []

/-- A value that is a length of time: it is a number, and a double is near to it. -/
def Json.IsSpan (v : Json) : Prop := ∃ n x, v.number? = some n ∧ n.toFloat = .ok x

namespace Act

theorem send_records (r : Request) (w : World) :
    ∃ news, (send r w).2.events = w.events ++ news ∧ r.Leaves news := by
  unfold Request.Leaves
  cases htarget : Address.Target.prepare r.url r.fields with
  | error error =>
    rw [send, htarget]
    exact ⟨[], (List.append_nil _).symm, rfl⟩
  | ok url =>
    cases hheaders : Request.headerError? r.headers with
    | some error =>
      rw [send, htarget]
      dsimp only
      rw [hheaders]
      exact ⟨[], (List.append_nil _).symm, rfl⟩
    | none =>
      rw [send_apply htarget hheaders]
      exact ⟨_, rfl, _, rfl⟩

/-- What follows an action and records nothing does not change the record. -/
theorem bind_records {α β : Type} {x : Act α} {f : α → Act β} {w : World} {events : List Event}
    (hx : (x w).2.events = events) (hf : ∀ a, (f a).Keeps World.events) :
    ((x >>= f) w).2.events = events :=
  bind_stays (P := fun w' => w'.events = events) hx fun a w' h => (hf a w').trans h

theorem exchange_records (r : Request) (w : World) :
    ∃ news, (exchange r w).2.events = w.events ++ news ∧ r.Leaves news := by
  obtain ⟨news, hnews, hleaves⟩ := send_records r w
  refine ⟨news, bind_records hnews fun reply => ?_, hleaves⟩
  rcases reply with error | ⟨response, url⟩
  · exact .pure _
  · exact .pure _

end Act

namespace Client

/-- The question for the status of a job. -/
def statusRequest (c : Client) (job : Json) : Request :=
  ⟨"GET", c.baseUrl ++ ("/v1/jobs/" ++ job.text ++ "/status"), [], c.headers .none, .none,
    c.timeout⟩

variable {c : Client} {job interval : Json} {timeout : Option Json} {telling : Bool}
  {started : Float}

theorem request_records (c : Client) (method endpoint : String) (fields : List (String × String))
    (body : Body) (w : World) : ∃ news,
      (c.request method endpoint fields body w).2.events = w.events ++ news ∧
      Request.Leaves ⟨method, c.baseUrl ++ endpoint, fields, c.headers body, body, c.timeout⟩
        news := by
  obtain ⟨news, hnews, hleaves⟩ := Act.exchange_records
    ⟨method, c.baseUrl ++ endpoint, fields, c.headers body, body, c.timeout⟩ w
  refine ⟨news, Act.bind_records hnews fun reply => ?_, hleaves⟩
  rcases reply with error | ⟨response, url⟩
  · exact .fail _
  · exact .ofExcept _

/-- The client asks for a status by one request. -/
theorem status_records (c : Client) (job : Json) (w : World) :
    ∃ news, (c.status job w).2.events = w.events ++ news ∧ (c.statusRequest job).Leaves news := by
  obtain ⟨news, hnews, hleaves⟩ :=
    c.request_records "GET" ("/v1/jobs/" ++ job.text ++ "/status") [] .none w
  exact ⟨news, Act.bind_records hnews fun data => .ofExcept _, hleaves⟩

theorem tell_ok (state : JobState) (w : World) :
    (c.watch job interval timeout telling started).tell state w = (.ok (), { w with
      events := w.events ++ if telling then [.status state.name] else [] }) := by
  cases telling with
  | true => rfl
  | false =>
    change _ = (_, { w with events := w.events ++ [] })
    rw [List.append_nil]
    rfl

theorem looks_without_record :
    (c.watch job interval timeout telling started).isLate.Keeps World.events := by
  rw [watch_isLate]
  exact .bind .look fun _ => .ofExcept _

/-- The time is up: the timeout is below the time that has passed, both taken exactly. -/
def TimeIsUp (timeout : Option Json) (passed : Float) : Prop :=
  ∃ t ∈ timeout, ∃ limit ∈ t.value?, ∃ span ∈ Decimal.value? passed, limit < span

/-- A timeout that can be compared is over when it is less than the time that has passed. -/
theorem isLate_iff {passed : Float} {late : Bool}
    (h : Polling.isLate timeout passed = .ok late) : late = true ↔ TimeIsUp timeout passed := by
  cases timeout with
  | none =>
    cases h
    exact ⟨nofun, fun ⟨t, ht, _⟩ => nomatch ht⟩
  | some t =>
    have hless : Json.less t (.real passed) = .ok late := h
    have hnumber : t.number?.isSome := by
      cases t with
      | bool | int | real => rfl
      | _ => cases hless
    obtain ⟨below, hbelow, hiff⟩ := Json.less_of_numbers hnumber (b := .real passed) rfl
    rw [hless] at hbelow
    cases hbelow
    rw [hiff]
    exact ⟨fun hlimit => ⟨t, rfl, hlimit⟩, fun ⟨t', ht', hlimit⟩ => Option.some.inj ht' ▸ hlimit⟩

/-- Looking at the time changes nothing and tells whether it is up. -/
theorem looked {late : Bool} {w w' : World}
    (h : (c.watch job interval timeout telling started).isLate w = (.ok late, w')) :
    w' = w ∧ (late = true ↔ TimeIsUp timeout (w.clock - started)) := by
  rw [watch_isLate] at h
  change Act.ofExcept (Polling.isLate timeout (w.clock - started)) w = _ at h
  cases hlate : Polling.isLate timeout (w.clock - started) with
  | error error =>
    rw [hlate] at h
    cases h
  | ok late' =>
    rw [hlate] at h
    cases h
    exact ⟨rfl, isLate_iff hlate⟩

/-- Looking at the time fails only if the timeout is no number. -/
theorem isLate_ok (htimeout : ∀ t ∈ timeout, t.number?.isSome) (elapsed : Float) :
    ∃ late, Polling.isLate timeout elapsed = .ok late := by
  cases timeout with
  | none => exact ⟨false, rfl⟩
  | some t =>
    have ht := htimeout t rfl
    cases t with
    | bool | int | real => exact ⟨_, rfl⟩
    | _ => cases ht

theorem sleep_records (interval : Json) (w : World) :
    (sleep interval w).2.events = w.events ++ [.sleep interval] := by
  rw [sleep, Act.bind_apply, Act.emit_apply]
  have hquiet (r : Except Fault Float) : (Act.ofExcept r).Keeps World.events := .ofExcept r
  exact Act.bind_records (hquiet _ _) fun seconds => .change fun _ => rfl

theorem sleep_ok (h : interval.IsSpan) (w : World) : ∃ w', sleep interval w = (.ok (), w') := by
  obtain ⟨n, x, hnumber, hfloat⟩ := h
  have hspan : (do (← interval.toNumber).toFloat) = Except.ok (ε := Fault) x := by
    rw [Json.toNumber, hnumber]
    exact hfloat
  rw [sleep, Act.bind_apply, Act.emit_apply]
  dsimp only
  rw [hspan]
  exact ⟨_, rfl⟩

end Client

namespace Polling

/-- What a deed of a client leaves behind. -/
def Deed.Leaves (c : Client) (job interval : Json) (telling : Bool) (deed : Deed)
    (events : List Event) : Prop :=
  match deed with
  | .asked _ => (c.statusRequest job).Leaves events
  | .told state _ => events = if telling then [.status state.name] else []
  | .looked _ => events = []
  | .rested _ => events = [.sleep interval]

variable {c : Client} {job interval : Json} {timeout : Option Json} {telling : Bool}
  {started : Float}

theorem Deed.done_records {deed : Deed} {w w' : World}
    (h : deed.Done (c.watch job interval timeout telling started) w w') :
    ∃ news, w'.events = w.events ++ news ∧ deed.Leaves c job interval telling news := by
  cases deed with
  | asked reply =>
    have hasked : c.status job w = (reply, w') := h
    have hrecords := Client.status_records c job w
    rwa [hasked] at hrecords
  | told state outcome =>
    have htell := (Client.tell_ok state w).symm.trans h
    exact ⟨_, (congrArg (·.2.events) htell).symm, rfl⟩
  | looked late =>
    have hlooked : (c.watch job interval timeout telling started).isLate w = (late, w') := h
    have hrecords : ((c.watch job interval timeout telling started).isLate w).2.events = w.events :=
      Client.looks_without_record w
    rw [hlooked] at hrecords
    exact ⟨[], hrecords.trans (List.append_nil _).symm, rfl⟩
  | rested outcome =>
    have hrested : Client.sleep interval w = (outcome, w') := h
    have hrecords := Client.sleep_records interval w
    rw [hrested] at hrecords
    exact ⟨_, hrecords, rfl⟩

/-- The record of deeds is the records of each, one after the other. -/
theorem Performed.records {done : List Deed} {w w' : World}
    (h : Performed (c.watch job interval timeout telling started) done w w') :
    ∃ records, List.Forall₂ (Deed.Leaves c job interval telling) done records ∧
      w'.events = w.events ++ records.flatten := by
  induction done generalizing w with
  | nil =>
    cases h
    exact ⟨[], .nil, (List.append_nil _).symm⟩
  | cons deed rest ih =>
    obtain ⟨w₁, hdone, hrest⟩ := h
    obtain ⟨news, hnews, hleaves⟩ := Deed.done_records hdone
    obtain ⟨records, hrecords, hevents⟩ := ih hrest
    refine ⟨news :: records, .cons hleaves hrecords, ?_⟩
    rw [hevents, hnews, List.flatten_cons, List.append_assoc]

/-- Every deed is done at some time. -/
theorem Performed.done_of_mem {σ : Type} {watch : Watch (ExceptT Fault (StateM σ))}
    {done : List Deed} {deed : Deed} {s s' : σ} (h : Performed watch done s s')
    (hdeed : deed ∈ done) : ∃ before after, deed.Done watch before after := by
  induction done generalizing s with
  | nil => cases hdeed
  | cons first rest ih =>
    obtain ⟨s₁, hdone, hrest⟩ := h
    rcases List.mem_cons.mp hdeed with rfl | hdeed
    · exact ⟨s, s₁, hdone⟩
    · exact ih hrest hdeed

theorem ending_suffix (ending : Ending) (last : Option JobState) (pending : List JobStatus) :
    ∃ last', ending.deeds last' <:+ deeds (some ending) last pending := by
  induction pending generalizing last with
  | nil => exact ⟨last, List.suffix_rfl⟩
  | cons status pending ih =>
    obtain ⟨last', hsuffix⟩ := ih (some status.state)
    exact ⟨last', hsuffix.trans (List.suffix_append _ _)⟩

/-- With times that are numbers, a client waits until the end of the job, an error of the
exchange or the timeout. -/
theorem ending_isRegular {ending : Ending} {last : Option JobState} {pending : List JobStatus}
    {w w' : World} (hinterval : interval.IsSpan) (htimeout : ∀ t ∈ timeout, t.number?.isSome)
    (h : Performed (c.watch job interval timeout telling started)
      (deeds (some ending) last pending) w w') : ending.IsRegular := by
  obtain ⟨last', hsuffix⟩ := ending_suffix ending last pending
  have hdone (deed : Deed) (hdeed : deed ∈ ending.deeds last') :=
    h.done_of_mem (hsuffix.mem hdeed)
  cases ending with
  | refused | completed | failed | expired => exact trivial
  | untold status error =>
    obtain ⟨before, after, hfailed⟩ :=
      hdone (.told status.state (.error error)) (by simp [Ending.deeds])
    cases (Client.tell_ok status.state before).symm.trans hfailed
  | timeless status hopen error =>
    obtain ⟨before, after, hfailed⟩ :=
      hdone (.looked (.error error)) (by simp [Ending.deeds])
    obtain ⟨late, hlate⟩ := Client.isLate_ok htimeout (before.clock - started)
    have hlooked : (c.watch job interval timeout telling started).isLate before =
        (.ok late, before) := by
      rw [Client.watch_isLate]
      change Act.ofExcept (Polling.isLate timeout (before.clock - started)) before = _
      rw [hlate]
      rfl
    cases hlooked.symm.trans hfailed
  | restless status hopen error =>
    obtain ⟨before, after, hfailed⟩ :=
      hdone (.rested (.error error)) (by simp [Ending.deeds])
    obtain ⟨rested, hsleep⟩ := Client.sleep_ok hinterval before
    cases hsleep.symm.trans hfailed

end Polling

namespace Client

/-- The answers run out before the rounds, so waiting comes to an end. -/
theorem wait_taken (c : Client) (job interval : Json) (timeout : Option Json) (telling : Bool)
    (w : World) : ∃ pending ending w',
    Polling.wait (c.means job telling) job interval timeout (w.answersLeft + 1) w =
      ((ending.result job timeout).map some, w') ∧
    c.wait job interval timeout telling w = (ending.result job timeout, w') ∧
    Course.Taken (c.watch job interval timeout telling w.clock) ⟨pending, some ending⟩ w w' := by
  obtain ⟨⟨pending, ending⟩, w', hloop, hperformed, hopen, hfresh, -⟩ :=
    loop_course (c.watch job interval timeout telling w.clock) job timeout (w.answersLeft + 1)
      none w
  cases ending with
  | none =>
    have hspent := loop_spends hloop
    omega
  | some ending =>
    have hpolled := (polling_wait_apply _ w).trans hloop
    refine ⟨pending, ending, w', hpolled, ?_, hperformed, hopen, hfresh⟩
    rw [wait, Act.getThe_bind]
    change (Polling.wait (c.means job telling) job interval timeout (w.answersLeft + 1) >>= _) w = _
    rw [Act.bind_apply, hpolled]
    unfold Course.outcome
    dsimp only
    cases ending.result job timeout <;> rfl

/-- A client waits to the end, and further rounds would change nothing. -/
theorem wait_ended (c : Client) (job interval : Json) (timeout : Option Json) (telling : Bool)
    (w : World) : ∃ rounds outcome w',
    (∀ more, Polling.wait (c.means job telling) job interval timeout (rounds + more) w =
      (outcome.map some, w')) ∧ c.wait job interval timeout telling w = (outcome, w') := by
  obtain ⟨pending, ending, w', hpolled, hwait, -⟩ := wait_taken c job interval timeout telling w
  refine ⟨w.answersLeft + 1, ending.result job timeout, w', fun more => ?_, hwait⟩
  rw [polling_wait_apply] at hpolled ⊢
  refine loop_ended hpolled ?_ more
  cases ending.result job timeout <;> exact nofun

/-- Waiting follows the answers about its job, however many there are. In all surroundings and
for every number of rounds it takes a course: it asks once in each round, tells the caller
each state that is not the one before, looks at the time only if the job is open, and rests
before it asks again. It ends with a completed job, with the failure of the job, with the
error of an exchange or when the time is up, and then no further round is begun. In the
world, a client always comes to such an end, with nothing recorded but these deeds. The time is
up when the timeout is less than the time on the clock since waiting began. -/
theorem wait_takes_course :
    (∀ (σ : Type) (watch : Watch (ExceptT Fault (StateM σ))) (job : Json)
      (timeout : Option Json) (rounds : Nat) (s : σ), ∃ course : Course, ∃ s',
      loop watch job timeout rounds none s = (course.outcome job timeout, s') ∧
      course.Taken watch s s' ∧
      (course.ending = none → course.pending.length = rounds) ∧
      (course.ending ≠ none → ∀ more, loop watch job timeout (rounds + more) none s =
        (course.outcome job timeout, s'))) ∧
    ∀ (c : Client) (job interval : Json) (timeout : Option Json) (telling : Bool) (w : World),
      ∃ pending ending w', ∃ records : List (List Event),
        c.wait job interval timeout telling w = (ending.result job timeout, w') ∧
        Course.Taken (c.watch job interval timeout telling w.clock) ⟨pending, some ending⟩ w w' ∧
        w'.events = w.events ++ records.flatten ∧
        List.Forall₂ (Deed.Leaves c job interval telling) (deeds (some ending) none pending)
          records ∧
        (∀ (s s' : World) (late : Bool),
          (c.watch job interval timeout telling w.clock).isLate s = (.ok late, s') →
            s' = s ∧ (late = true ↔ TimeIsUp timeout (s.clock - w.clock))) ∧
        (interval.IsSpan → (∀ t ∈ timeout, t.number?.isSome) → ending.IsRegular) := by
  constructor
  · intro σ watch job timeout rounds s
    obtain ⟨course, s', hloop, hperformed, hopen, hfresh, hlength⟩ :=
      loop_course watch job timeout rounds none s
    refine ⟨course, s', hloop, ⟨hperformed, hopen, hfresh⟩, hlength, fun hended more => ?_⟩
    exact loop_ended hloop (Course.outcome_of_ended hended) more
  · intro c job interval timeout telling w
    obtain ⟨pending, ending, w', -, hwait, htaken⟩ :=
      wait_taken c job interval timeout telling w
    obtain ⟨records, hrecords, hevents⟩ := htaken.performed.records
    exact ⟨pending, ending, w', records, hwait, htaken, hevents, hrecords, fun _ _ _ => looked,
      fun hinterval htimeout => ending_isRegular hinterval htimeout htaken.performed⟩

end Client

end Compositor
