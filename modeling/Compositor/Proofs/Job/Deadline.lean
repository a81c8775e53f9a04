import Mathlib.Algebra.BigOperators.Group.Finset.Basic
import Mathlib.Algebra.Order.BigOperators.Group.Finset
import Mathlib.Algebra.Order.Floor.Semiring
import Mathlib.Data.Rat.Floor
import Compositor.Proofs.Job.Patience

/-!
# Waiting with a time limit

A job that stays open for ever is asked for its status again and again, but with a time limit
waiting ends. Each round but the last one comes to a rest, which begins within the limit and
takes its time, so there cannot be many. The limit is looked at only when an answer is there,
so that it may be exceeded by one rest and one request.

The surroundings are those of an exact clock, with a server whose answers and whose times to
answer are any sequences. What waits in them is what waits in the world, with its own test of
the time.
-/
namespace Compositor

/-- The exact value of a finite number. -/
def Json.rational? (v : Json) : Option ℚ :=
  match v.number? with
  | some (.int n) => some n
  | some (.real x) => (Decimal.Dyadic.ofFloat? x).map Decimal.Dyadic.value
  | none => none

/-- A clock that counts exactly. Numbers are compared with its times by their exact values;
infinities are beyond all times, and NaN is not below any. -/
instance : Clock ℚ where
  isBelow t passed :=
    match t.rational?, t.number? with
    | some limit, _ => .ok (limit < passed)
    | none, some (.real x) => .ok (!x.isNaN && Decimal.isNegative x)
    | none, _ => .error .wrongType

namespace Polling

/-- What a server answers, and how long each request takes. -/
structure Script where
  answer : ℕ → Except Fault JobStatus
  duration : ℕ → ℚ

/-- How far waiting has come. -/
structure Progress where
  clock : ℚ
  asked : ℕ
  /-- When each rest began. -/
  rests : List ℚ

namespace Script

variable (script : Script) (job interval timeout : Json) (started T p : ℚ)

/-- Someone who asks the server and sleeps by an exact clock. Telling the caller takes no
time. -/
def means : Means (ExceptT Fault (StateM Progress)) ℚ where
  ask := fun s => (script.answer s.asked,
    { s with clock := s.clock + script.duration s.asked, asked := s.asked + 1 })
  tell _ := pure ()
  now := fun s => (.ok s.clock, s)
  sleep seconds := fun s =>
    match seconds.rational? with
    | some span => (.ok (), { s with clock := s.clock + span, rests := s.rests ++ [s.clock] })
    | none => (.error .wrongType, s)

/-- The rounds of someone who began to wait at `started`. -/
def watch : Watch (ExceptT Fault (StateM Progress)) :=
  Polling.watch script.means interval (some timeout) started

/-- How much time has passed when an answer is there, if none before it was the last one. -/
def arrival (n : ℕ) : ℚ := ∑ i ∈ Finset.range (n + 1), script.duration i + n * p

/-- The answer leaves the job open; it is neither final nor an error. -/
def IsOpen (n : ℕ) : Prop := ∃ status, script.answer n = .ok status ∧ status.state.IsOpen

/-- There is still time after an answer that leaves the job open. -/
def GoesOn (n : ℕ) : Prop := script.IsOpen n ∧ script.arrival p n ≤ T

/-- The time is up at an answer: it is the first one after the limit that leaves the job open,
and all before it left it open too. -/
def ExpiresAt (n : ℕ) : Prop :=
  IsLeast {i | script.IsOpen i ∧ T < script.arrival p i} n ∧ ∀ i < n, script.IsOpen i

/-- What comes of waiting at an answer after which it does not go on. -/
def verdict (n : ℕ) : Except Fault (Option JobStatus) :=
  match script.answer n with
  | .error error => .error error
  | .ok status =>
    match status.state with
    | .completed => .ok (some status)
    | .failed => .error (.api (failure job status))
    | _ => .error (expiry job (some timeout))

/-! ## Rounds -/

/-- Before a request. -/
def before (n : ℕ) : Progress :=
  ⟨started + (∑ i ∈ Finset.range n, script.duration i + n * p), n,
    (List.range n).map fun i => started + script.arrival p i⟩

/-- When its answer is there. -/
def received (n : ℕ) : Progress :=
  ⟨started + script.arrival p n, n + 1, (List.range n).map fun i => started + script.arrival p i⟩

theorem ask_before (n : ℕ) :
    (script.watch interval timeout started).ask (script.before started p n) =
      (script.answer n, script.received started p n) := by
  have hclock : started + (∑ i ∈ Finset.range n, script.duration i + n * p) + script.duration n =
      started + script.arrival p n := by
    rw [arrival, Finset.sum_range_succ]
    ring
  change (script.answer n, (⟨_, n + 1, _⟩ : Progress)) = _
  rw [received, ← hclock]
  rfl

theorem elapsed_received (n : ℕ) :
    (script.received started p n).clock - started = script.arrival p n := add_sub_cancel_left _ _

variable {interval timeout T p}

/-- An exact number is compared exactly. -/
theorem isLate_eq (htimeout : timeout.rational? = some T) (passed : ℚ) :
    isLate (some timeout) passed = .ok (decide (T < passed)) := by
  change (match timeout.rational?, timeout.number? with
    | some limit, _ => Except.ok (decide (limit < passed))
    | none, some (.real x) => .ok (!x.isNaN && Decimal.isNegative x)
    | none, _ => .error Fault.wrongType) = _
  rw [htimeout]

theorem isLate_received (htimeout : timeout.rational? = some T) (n : ℕ) :
    (script.watch interval timeout started).isLate (script.received started p n) =
      (.ok (decide (T < script.arrival p n)), script.received started p n) := by
  change (MonadExcept.ofExcept (isLate (some timeout)
    ((script.received started p n).clock - started)) :
      ExceptT Fault (StateM Progress) Bool) (script.received started p n) = _
  rw [isLate_eq htimeout, elapsed_received]
  rfl

theorem rest_received (hinterval : interval.rational? = some p) (n : ℕ) :
    (script.watch interval timeout started).rest (script.received started p n) =
      (.ok (), script.before started p (n + 1)) := by
  have hclock : started + script.arrival p n + p =
      started + (∑ i ∈ Finset.range (n + 1), script.duration i + (n + 1 : ℕ) * p) := by
    rw [arrival]
    push_cast
    ring
  have hsleep : script.means.sleep interval (script.received started p n) = (.ok (),
      ⟨started + script.arrival p n + p, n + 1,
        ((List.range n).map fun i => started + script.arrival p i) ++
          [started + script.arrival p n]⟩) := by
    unfold means
    dsimp only
    rw [hinterval]
    rfl
  refine hsleep.trans ?_
  rw [before, List.range_succ, List.map_append, ← hclock]
  rfl

variable {script job started}

theorem verdict_completed {n : ℕ} {status : JobStatus} (h : script.answer n = .ok status)
    (hstate : status.state = .completed) : script.verdict job timeout n = .ok (some status) := by
  rw [verdict, h]
  dsimp only
  rw [hstate]

theorem verdict_failed {n : ℕ} {status : JobStatus} (h : script.answer n = .ok status)
    (hstate : status.state = .failed) :
    script.verdict job timeout n = .error (.api (failure job status)) := by
  rw [verdict, h]
  dsimp only
  rw [hstate]

theorem verdict_of_open {n : ℕ} (h : script.IsOpen n) :
    script.verdict job timeout n = .error (expiry job (some timeout)) := by
  obtain ⟨status, hanswer, hopen⟩ := h
  rw [verdict, hanswer]
  dsimp only
  cases hstate : status.state with
  | completed => exact absurd hstate hopen.1
  | failed => exact absurd hstate hopen.2
  | _ => rfl

section

variable (job interval timeout started)

/-- At most so many rounds of waiting, with what the caller was told last. -/
def rounds (k : ℕ) (last : Option JobState) :
    ExceptT Fault (StateM Progress) (Option JobStatus) :=
  loop (script.watch interval timeout started) job (some timeout) k last

theorem rounds_error {n : ℕ} {error : Fault} (h : script.answer n = .error error)
    (k : ℕ) (last : Option JobState) :
    script.rounds job interval timeout started (k + 1) last (script.before started p n) =
      (.error error, script.received started p n) := by
  rw [rounds, loop_succ, bind_apply, ask_before, h]

/-- After an answer, the caller hears of it and it is judged. -/
theorem rounds_ok {n : ℕ} {status : JobStatus} (h : script.answer n = .ok status)
    (k : ℕ) (last : Option JobState) :
    script.rounds job interval timeout started (k + 1) last (script.before started p n) =
      (judge (script.watch interval timeout started) job (some timeout) status >>= fun final =>
        match final with
        | some status => pure (some status)
        | none => (script.watch interval timeout started).rest >>= fun _ =>
          script.rounds job interval timeout started k (some status.state))
        (script.received started p n) := by
  rw [rounds, loop_succ, bind_apply, ask_before, h]
  dsimp only
  rw [bind_apply]
  cases news last status.state <;> rfl

theorem wait_eq (script : Script) (k : ℕ) :
    wait script.means job interval (some timeout) k ⟨started, 0, []⟩ =
      script.rounds job interval timeout started k none ⟨started, 0, []⟩ := by
  rw [wait, bind_apply]
  rfl

variable (htimeout : timeout.rational? = some T) (hinterval : interval.rational? = some p)
include htimeout

/-- An answer after which there is no time, or that does not leave the job open, is the last
one. -/
theorem rounds_ends {n : ℕ} (h : ¬ script.GoesOn T p n) (k : ℕ) (last : Option JobState) :
    script.rounds job interval timeout started (k + 1) last (script.before started p n) =
      (script.verdict job timeout n, script.received started p n) := by
  cases hanswer : script.answer n with
  | error error =>
    rw [rounds_error _ _ _ _ hanswer, verdict, hanswer]
  | ok status =>
    rw [rounds_ok _ _ _ _ hanswer, bind_apply]
    by_cases hcompleted : status.state = .completed
    · rw [judge_completed hcompleted, verdict_completed hanswer hcompleted]
      rfl
    by_cases hfailed : status.state = .failed
    · rw [judge_failed hfailed, verdict_failed hanswer hfailed]
    have hopen : status.state.IsOpen := ⟨hcompleted, hfailed⟩
    have hlate : T < script.arrival p n := by
      by_contra htime
      exact h ⟨⟨status, hanswer, hopen⟩, not_lt.mp htime⟩
    rw [judge_open hopen, script.isLate_received started htimeout, decide_eq_true hlate,
      verdict_of_open ⟨status, hanswer, hopen⟩]
    rfl

include hinterval

/-- An answer that leaves the job open within the limit is followed by a rest. -/
theorem rounds_goesOn {n : ℕ} (h : script.GoesOn T p n) (last : Option JobState) : ∃ last', ∀ k,
    script.rounds job interval timeout started (k + 1) last (script.before started p n) =
      script.rounds job interval timeout started k last' (script.before started p (n + 1)) := by
  obtain ⟨⟨status, hanswer, hopen⟩, htime⟩ := h
  have hearly : decide (T < script.arrival p n) = false := decide_eq_false (not_lt.mpr htime)
  refine ⟨some status.state, fun k => ?_⟩
  rw [rounds_ok _ _ _ _ hanswer, bind_apply, judge_open hopen,
    script.isLate_received started htimeout, hearly]
  change ((script.watch interval timeout started).rest >>= fun _ =>
    script.rounds job interval timeout started k _) _ = _
  rw [bind_apply, script.rest_received started hinterval]

/-- As long as there is time after each answer, the rounds follow each other. -/
theorem rounds_before {n : ℕ} (h : ∀ i < n, script.GoesOn T p i) : ∃ last, ∀ k,
    script.rounds job interval timeout started (n + k) none (script.before started p 0) =
      script.rounds job interval timeout started k last (script.before started p n) := by
  induction n with
  | zero => exact ⟨none, fun k => by rw [Nat.zero_add]⟩
  | succ n ih =>
    obtain ⟨last, hrun⟩ := ih fun i hi => h i (Nat.lt_succ_of_lt hi)
    obtain ⟨last', hround⟩ := rounds_goesOn job interval timeout started htimeout hinterval
      (h n n.lt_succ_self) last
    refine ⟨last', fun k => ?_⟩
    rw [Nat.add_right_comm, Nat.add_assoc, hrun, hround]

end

/-! ## Time -/

/-- A request is sent within the limit or one rest later. -/
theorem arrival_le (hT : 0 ≤ T) (hp : 0 < p) {n : ℕ} (h : ∀ i < n, script.GoesOn T p i) :
    script.arrival p n ≤ T + p + script.duration n := by
  cases n with
  | zero =>
    simp only [arrival, zero_add, Finset.sum_range_one, Nat.cast_zero, zero_mul, add_zero]
    linarith
  | succ n =>
    have hlast : script.arrival p n ≤ T := (h n n.lt_succ_self).2
    have hnext : script.arrival p (n + 1) = script.arrival p n + p + script.duration (n + 1) := by
      rw [arrival, arrival, Finset.sum_range_succ]
      push_cast
      ring
    rw [hnext]
    linarith

section

variable (hduration : ∀ n, 0 ≤ script.duration n)
include hduration

/-- The rests alone take so much time. -/
theorem mul_le_arrival (p : ℚ) (n : ℕ) : n * p ≤ script.arrival p n := by
  have hsum : 0 ≤ ∑ i ∈ Finset.range (n + 1), script.duration i :=
    Finset.sum_nonneg fun i _ => hduration i
  rw [arrival]
  linarith

/-- There is no time left after so many rests. -/
theorem exists_last (hp : 0 < p) : ∃ n ≤ ⌊T / p⌋₊ + 1, ¬ script.GoesOn T p n ∧
    ∀ i < n, script.GoesOn T p i := by
  classical
  have hlate : ¬ script.GoesOn T p (⌊T / p⌋₊ + 1) := by
    rintro ⟨-, htime⟩
    have hfloor : T < (⌊T / p⌋₊ + 1) * p := (div_lt_iff₀ hp).mp (Nat.lt_floor_add_one (T / p))
    have hrests := mul_le_arrival hduration p (⌊T / p⌋₊ + 1)
    push_cast at hrests
    linarith
  have hexists : ∃ n, ¬ script.GoesOn T p n := ⟨_, hlate⟩
  exact ⟨Nat.find hexists, Nat.find_min' hexists hlate, Nat.find_spec hexists,
    fun i hi => not_not.mp (Nat.find_min hexists hi)⟩

end

/-- The time is up at the last answer if and only if that one leaves the job open. -/
theorem expires_iff {n : ℕ} (hlast : ¬ script.GoesOn T p n)
    (h : ∀ i < n, script.GoesOn T p i) : (∃ m, script.ExpiresAt T p m) ↔ script.IsOpen n := by
  constructor
  · rintro ⟨m, ⟨⟨hopen, hlate⟩, hleast⟩, hearlier⟩
    have hend : ¬ script.GoesOn T p m := fun hgoes => absurd hgoes.2 (not_le.mpr hlate)
    have hbefore : ∀ i < m, script.GoesOn T p i := by
      intro i hi
      refine ⟨hearlier i hi, ?_⟩
      by_contra htime
      exact absurd (hleast ⟨hearlier i hi, not_le.mp htime⟩) (not_le.mpr hi)
    obtain rfl : m = n := by
      rcases lt_trichotomy m n with hlt | heq | hlt
      · exact absurd (h m hlt) hend
      · exact heq
      · exact absurd (hbefore n hlt) hlast
    exact hopen
  · intro hopen
    have hlate : T < script.arrival p n := by
      by_contra htime
      exact hlast ⟨hopen, not_lt.mp htime⟩
    refine ⟨n, ⟨⟨hopen, hlate⟩, ?_⟩, fun i hi => (h i hi).1⟩
    rintro i ⟨-, hlate'⟩
    by_contra hi
    exact absurd (h i (not_le.mp hi)).2 (not_le.mpr hlate')

theorem open_of_verdict {n : ℕ}
    (h : script.verdict job timeout n = .error (expiry job (some timeout)))
    (herror : script.answer n ≠ .error (expiry job (some timeout))) : script.IsOpen n := by
  rw [verdict] at h
  cases hanswer : script.answer n with
  | error error =>
    rw [hanswer] at h
    rw [hanswer, Except.error.inj h] at herror
    exact absurd rfl herror
  | ok status =>
    rw [hanswer] at h
    dsimp only at h
    refine ⟨status, hanswer, ?_, ?_⟩
    · intro hstate
      rw [hstate] at h
      cases h
    · intro hstate
      rw [hstate] at h
      cases h

theorem verdict_ne_none (n : ℕ) : script.verdict job timeout n ≠ .ok none := by
  unfold verdict
  split
  · exact nofun
  · split <;> exact nofun

end Script

open Script

/-- Waiting with a time limit ends, whatever is answered and however long that takes: no rest
begins after the limit, and there are at most two more requests than whole rests in the limit.
The last answer decides. The time is up if and only if the first answer after the limit that
leaves the job open comes after none that is final and no error; that is one rest and one request
after the limit at the latest. A client in the world waits in the same way, with the same rests
and the same test of the time, by the clock of the world. -/
theorem wait_within_limit (script : Script) (job : Json) {interval timeout : Json} {T p : ℚ}
    (started : ℚ) (htimeout : timeout.rational? = some T) (hinterval : interval.rational? = some p)
    (hT : 0 ≤ T) (hp : 0 < p) (hduration : ∀ n, 0 ≤ script.duration n) :
    (∃ n outcome s',
      (∀ rounds, ⌊T / p⌋₊ + 2 ≤ rounds →
        wait script.means job interval (some timeout) rounds ⟨started, 0, []⟩ = (outcome, s')) ∧
      outcome ≠ .ok none ∧ outcome = script.verdict job timeout n ∧
      (∀ t ∈ s'.rests, t - started ≤ T) ∧ s'.asked = n + 1 ∧ s'.asked ≤ ⌊T / p⌋₊ + 2 ∧
      ((∃ m, script.ExpiresAt T p m) ↔ script.IsOpen n) ∧
      ((∀ i, script.answer i ≠ .error (expiry job (some timeout))) →
        (outcome = .error (expiry job (some timeout)) ↔ ∃ m, script.ExpiresAt T p m)) ∧
      s'.clock - started ≤ T + p + script.duration n) ∧
    ∀ (c : Client) (telling : Bool) (w : World), ∃ rounds outcome w',
      (∀ more, wait (c.means job telling) job interval (some timeout) (rounds + more) w =
        (outcome.map some, w')) ∧
      c.wait job interval (some timeout) telling w = (outcome, w') := by
  refine ⟨?_, fun c telling w => Client.wait_ended c job interval (some timeout) telling w⟩
  obtain ⟨n, hn, hlast, hbefore⟩ := exists_last hduration (T := T) hp
  obtain ⟨last, hrun⟩ := rounds_before job interval timeout started htimeout hinterval hbefore
  have hexpires := expires_iff hlast hbefore
  have hbegin : (⟨started, 0, []⟩ : Progress) = script.before started p 0 := by
    simp [before]
  refine ⟨n, script.verdict job timeout n, script.received started p n, fun rounds hrounds => ?_,
    verdict_ne_none n, rfl, ?_, rfl, Nat.succ_le_succ hn, hexpires, fun herror => ?_, ?_⟩
  · obtain ⟨more, rfl⟩ : ∃ more, rounds = n + (more + 1) := ⟨rounds - (n + 1), by omega⟩
    rw [wait_eq, hbegin, hrun, rounds_ends _ _ _ _ htimeout hlast]
  · intro t ht
    obtain ⟨i, hi, rfl⟩ := List.mem_map.mp ht
    rw [add_sub_cancel_left]
    exact (hbefore i (List.mem_range.mp hi)).2
  · rw [hexpires]
    exact ⟨fun hverdict => open_of_verdict hverdict (herror n), verdict_of_open⟩
  · rw [elapsed_received]
    exact arrival_le hT hp hbefore

/-- A job that is processed for ever, by a server that takes half a second to say so. -/
def endless : Script where
  answer _ := .ok ⟨"job", .processing, "a.mp4", "", none, none, none, none, none, none, none⟩
  duration _ := 1 / 2

/-- With a limit of three seconds, the answers are there after 1/2, 3 and 11/2 seconds. -/
theorem wait_within_limit_endless : (Json.int 3).rational? = some 3 ∧
    (Json.int 2).rational? = some 2 ∧ (0 : ℚ) ≤ 3 ∧ (0 : ℚ) < 2 ∧
    (∀ n, 0 ≤ endless.duration n) ∧
    ∃ s', wait endless.means (.str "job") (.int 2) (some (.int 3)) 3 ⟨0, 0, []⟩ =
        (.error (.timedOut "job" "3"), s') ∧
      s'.asked ≤ 3 ∧ (∀ t ∈ s'.rests, t ≤ 3) ∧ s'.clock ≤ 11 / 2 := by
  have hduration : ∀ n, 0 ≤ endless.duration n := fun n => by norm_num [endless]
  have htimeout : (Json.int 3).rational? = some 3 := rfl
  have hinterval : (Json.int 2).rational? = some 2 := rfl
  have hfloor : ⌊(3 / 2 : ℚ)⌋₊ = 1 := by
    rw [Nat.floor_eq_iff (by norm_num)]
    norm_num
  obtain ⟨⟨n, outcome, s', hwait, -, hverdict, hrests, -, hasked, -, -, hclock⟩, -⟩ :=
    wait_within_limit endless (.str "job") 0 htimeout hinterval (by norm_num) (by norm_num)
      hduration
  have hopen : endless.IsOpen n := ⟨_, rfl, by decide, by decide⟩
  have hexpiry : outcome = .error (.timedOut "job" "3") := hverdict.trans (verdict_of_open hopen)
  rw [hfloor] at hwait hasked
  have hlast : endless.duration n = 1 / 2 := rfl
  refine ⟨htimeout, hinterval, by norm_num, by norm_num, hduration, s', ?_, hasked,
    fun t ht => ?_, ?_⟩
  · rw [hwait 3 le_rfl, hexpiry]
  · have hrest := hrests t ht
    rwa [sub_zero] at hrest
  · rw [hlast] at hclock
    linarith

end Polling

end Compositor
