import Compositor.Proofs.Job.Conversing
import Compositor.Proofs.Job.Course

/-!
# Waiting keeps to the protocol

A job that runs is asked for its status again and again, until an answer is final. Each
answer is used up, so the rounds that are allowed never run out, and only a completed job
ends the waiting.
-/
namespace Compositor

open Removal

/-- Silence uses up no answer. -/
theorem Act.Keeps.answersLeft {α : Type} {x : Act α} (hx : x.IsSilent) {w w' : World}
    {r : Except Fault α} (h : x w = (r, w')) : w'.answersLeft = w.answersLeft := by
  have hexchanges : (x w).2.exchanges = w.exchanges := (Prod.ext_iff.mp (hx w)).1
  rw [h] at hexchanges
  rw [World.answersLeft, World.answersLeft, hexchanges]

/-- Whoever gets a response uses up an answer, or more than one if there were redirects. -/
theorem Act.exchange_spends {r : Request} {arrived : Response × String} {w w' : World}
    (h : exchange r w = (.ok (.ok arrived), w')) : w'.answersLeft + 1 ≤ w.answersLeft := by
  obtain ⟨reply, w₁, hsend, hwhole⟩ := bind_eq_ok h
  cases reply with
  | error error => cases hwhole
  | ok response =>
    obtain rfl : w₁ = w' := (Prod.ext_iff.mp hwhole).2
    rcases send_talked r w with ⟨error, hrun⟩ | ⟨e, -, -, hreply, -, hspent⟩
    · rw [hrun] at hsend
      cases hsend
    · rw [hsend] at hreply hspent
      exact hspent ⟨_, Ending.outcome_of_answer hreply.symm⟩

namespace Client

variable {c : Client} {job interval : Json} {timeout : Option Json} {telling : Bool}
  {started : Float}

/-- An answer about the status of a job is one that was laid out. -/
theorem status_spends {status : JobStatus} {w w' : World}
    (h : c.status job w = (.ok status, w')) : w'.answersLeft + 1 ≤ w.answersLeft := by
  obtain ⟨data, w₁, hrequest, hread⟩ := Act.bind_eq_ok h
  obtain ⟨reply, w₂, hexchange, hanswer⟩ := Act.bind_eq_ok hrequest
  have hsilent : w'.answersLeft = w₂.answersLeft := by
    cases reply with
    | error error => cases hanswer
    | ok arrived =>
      rw [(Act.Keeps.ofExcept _).answersLeft hread, (Act.Keeps.ofExcept _).answersLeft hanswer]
  cases reply with
  | error error => cases hanswer
  | ok arrived => exact hsilent ▸ Act.exchange_spends hexchange

theorem speaks_status (video : Video) :
    (c.status job).Speaks c video (.running job) fun status s' =>
      s' = Stage.judged job status := by
  refine (Act.Speaks.request List.mem_cons_self).bind ?_
  rintro data s' ⟨e, -, hdocument, rfl⟩
  refine .silent (.ofExcept _) fun w status hstatus => ?_
  have hread := Act.ofExcept_ok (Prod.ext hstatus rfl)
  simp only [Stage.next, Stage.told, hdocument, Option.map_some, Option.getD_some, hread]

/-- Looking at the time reads the clock of the world. -/
theorem watch_isLate : (c.watch job interval timeout telling started).isLate =
    getThe World >>= fun w => Act.ofExcept (Polling.isLate timeout (w.clock - started)) := by
  funext w
  change (MonadExcept.ofExcept (Polling.isLate timeout (w.clock - started)) : Act Bool) w =
    Act.ofExcept (Polling.isLate timeout (w.clock - started)) w
  cases Polling.isLate timeout (w.clock - started) <;> rfl

/-- Waiting begins at the time that the clock of the world shows. -/
theorem polling_wait_apply (rounds : Nat) (w : World) :
    Polling.wait (c.means job telling) job interval timeout rounds w =
      Polling.loop (c.watch job interval timeout telling w.clock) job timeout rounds none w :=
  rfl

theorem silent_tell (state : JobState) :
    ((c.watch job interval timeout telling started).tell state).IsSilent :=
  .ite (Act.silent_emit rfl) (.pure _)

theorem silent_isLate : (c.watch job interval timeout telling started).isLate.IsSilent := by
  rw [watch_isLate]
  exact .bind .look fun _ => .ofExcept _

theorem silent_rest : (c.watch job interval timeout telling started).rest.IsSilent :=
  .bind (Act.silent_emit rfl) fun _ => .bind (.ofExcept _) fun _ => .change fun _ => rfl

theorem silent_judge (status : JobStatus) :
    (Polling.judge (c.watch job interval timeout telling started) job timeout status).IsSilent := by
  unfold Polling.judge
  split
  · exact .pure _
  · exact .fail _
  · exact .bind silent_isLate fun _ => .ite (.fail _) (.pure _)

/-- Judging ends the waiting exactly if the job is completed. -/
theorem judge_ok {status : JobStatus} {final : Option JobStatus} {w : World}
    (h : (Polling.judge (c.watch job interval timeout telling started) job timeout status w).1 =
      .ok final) : Stage.judged job status = (final.map .completed).getD (.running job) := by
  unfold Polling.judge at h
  unfold Stage.judged
  cases hstate : status.state with
  | completed =>
    rw [hstate] at h
    cases h
    rfl
  | failed =>
    rw [hstate] at h
    cases h
  | _ =>
    rw [hstate] at h
    obtain ⟨late, w₁, -, h⟩ := Act.bind_ok h
    cases late with
    | true => cases h
    | false =>
      cases h
      rfl

theorem silent_news (last : Option JobState) (state : JobState) :
    (match Polling.news last state with
      | some state => (c.watch job interval timeout telling started).tell state
      | none => pure ()).IsSilent := by
  cases Polling.news last state with
  | some state => exact silent_tell state
  | none => exact .pure _

/-- Waiting stays at a job that runs until it is completed. -/
theorem speaks_loop (video : Video) (rounds : Nat) (last : Option JobState) :
    (Polling.loop (c.watch job interval timeout telling started) job timeout rounds last).Speaks
      c video (.running job) fun final s' => ∀ status, final = some status →
        s' = .completed status := by
  induction rounds generalizing last with
  | zero => exact .pure fun _ => nofun
  | succ rounds ih =>
    rw [Polling.loop_succ]
    refine (speaks_status video).bind fun status s' hs => ?_
    subst hs
    refine .after (silent_news _ _) fun _ _ _ =>
      .after (silent_judge status) fun _ final hfinal => ?_
    rw [judge_ok hfinal]
    cases final with
    | some final => exact .pure fun _ heq => by cases heq; rfl
    | none => exact .after silent_rest fun _ _ _ => ih _

/-- Every round that does not end the waiting uses up an answer. -/
theorem loop_spends {rounds : Nat} {last : Option JobState} {w w' : World}
    (h : Polling.loop (c.watch job interval timeout telling started) job timeout rounds last w =
      (.ok none, w')) : w'.answersLeft + rounds ≤ w.answersLeft := by
  induction rounds generalizing last w with
  | zero =>
    cases h
    exact Nat.le_refl _
  | succ rounds ih =>
    rw [Polling.loop_succ] at h
    obtain ⟨status, w₁, hask, h⟩ := Act.bind_eq_ok h
    obtain ⟨u, w₂, hnews, h⟩ := Act.bind_eq_ok h
    obtain ⟨final, w₃, hjudge, h⟩ := Act.bind_eq_ok h
    cases final with
    | some final => cases h
    | none =>
      obtain ⟨u', w₄, hrest, h⟩ := Act.bind_eq_ok h
      have hloop := ih h
      rw [silent_rest.answersLeft hrest, (silent_judge status).answersLeft hjudge,
        (silent_news _ _).answersLeft hnews] at hloop
      have hspent := status_spends hask
      omega

theorem speaks_wait (video : Video) :
    (c.wait job interval timeout telling).Speaks c video (.running job) fun status s' =>
      s' = .completed status := by
  intro w
  rw [wait, Act.getThe_bind]
  generalize hrounds : (w.exchanges.flatMap fun e => e.2).length + 1 = rounds
  have hspeaks : (Polling.loop (c.watch job interval timeout telling w.clock) job timeout rounds
      none).Speaks c video (.running job) _ := speaks_loop video rounds none
  have hspends (w' : World) (h : Polling.loop (c.watch job interval timeout telling w.clock) job
      timeout rounds none w = (.ok none, w')) : w'.answersLeft + rounds ≤ w.answersLeft :=
    loop_spends h
  dsimp only
  rw [Act.bind_apply, polling_wait_apply]
  generalize Polling.loop (c.watch job interval timeout telling w.clock) job timeout rounds none =
    loop at hspeaks hspends ⊢
  obtain ⟨events, talk, s', hevents, htalked, hsigns, hok⟩ := hspeaks w
  match hrun : loop w with
  | (.error e, w') =>
    rw [hrun] at hevents htalked
    exact ⟨events, talk, s', hevents, htalked, hsigns, fun _ h => by cases h⟩
  | (.ok (some status), w') =>
    rw [hrun] at hevents htalked hok
    refine ⟨events, talk, s', hevents, htalked, hsigns, fun status' h => ?_⟩
    cases h
    exact hok _ rfl _ rfl
  | (.ok none, w') =>
    -- there was one round more than there are answers
    have hspent := hspends w' hrun
    rw [World.answersLeft, World.answersLeft, ← hrounds] at hspent
    omega

theorem converses_wait (source : String) :
    (c.wait job interval timeout telling).Converses c source (.running job) fun status s' =>
      s' = .completed status :=
  (speaks_wait ⟨.file, source⟩).converses nofun

end Client

end Compositor
