import Aether.Rpc.Wait

/-!
# Waits running concurrently on one client

Under asyncio a wait is a coroutine that runs, between two await points, one segment: the loop
test (at the start, after reading `start_time`, or on waking from `asyncio.sleep`) followed,
when it passes, by `_call`, which increments `_request_id` and sends the request before its first
await; or the reading of a response followed by a return, a raise, or the call to
`asyncio.sleep`. `Phase` is where a coroutine stands and `resume` runs one segment.
`resume_iterate_testing` shows that two segments are one turn of `pollLoop`.

An `EventLoop` holds any number of waits sharing one `AetherClient`, whose only mutable state
the waits touch is `_request_id`; the loop resumes one task at a time, in any order. `sent` lists
the requests the client sent, with the task that sent each and the id in its payload.
`concurrent_waits_run_alone` is the isolation property: under every schedule each task is where
it would be alone after as many segments, so it ends as it ends alone. Each task's entries in
`sent` are the `_call`s its coroutine makes on its own (`WaitTask.callsFrom`), and the request
ids are consecutive, none lost or repeated.
-/

namespace Aether.Rpc

open Aether

/-- Where a wait coroutine stands between two await points. -/
inductive Phase (Record : Type) where
  /-- About to run the loop test before probe `probe`: at the start, or woken from its sleep. -/
  | testing (probe : ℕ)
  /-- Probe `probe` was sent; the coroutine awaits its response. -/
  | awaiting (probe : ℕ)
  /-- The coroutine returned or raised. -/
  | done (outcome : Except PyException Record)

/-- Whether the coroutine awaits a response. -/
def Phase.isAwaiting {Record : Type} : Phase Record → Bool
  | .awaiting _ => true
  | _ => false

section Resume

variable {Response Record : Type} (classify : Response → Verdict Record) (timeout : ℚ)
  (observations : Observations Response)

/-- One segment of a wait coroutine. -/
def resume : Phase Record → Phase Record
  | .testing probe =>
      if observations.clock (probe + 1) - observations.clock 0 < timeout then .awaiting probe
      else .done (.error .timeoutError)
  | .awaiting probe =>
      match classify (observations.response probe) with
      | .success record => .done (.ok record)
      | .failure error => .done (.error error)
      | .pending => .testing (probe + 1)
  | .done outcome => .done outcome

/-- A coroutine that returned or raised stays so. -/
@[simp] theorem resume_iterate_done (segments : ℕ) (outcome : Except PyException Record) :
    (resume classify timeout observations)^[segments] (.done outcome) = .done outcome :=
  Function.iterate_fixed rfl segments

/-- Two segments of the coroutine are one turn of the loop: after `2 * fuel` segments from the
test before probe `probe` it has ended as `pollLoop` ends with that fuel, or, when the fuel runs
out, it is at the test `fuel` probes later. -/
theorem resume_iterate_testing :
    ∀ (fuel probe : ℕ), (resume classify timeout observations)^[2 * fuel] (.testing probe) =
      match pollLoop classify timeout observations fuel probe with
      | some ended => .done ended.outcome
      | none => .testing (probe + fuel)
  | 0, _ => rfl
  | fuel + 1, probe => by
      rw [Nat.mul_succ, Function.iterate_add_apply, pollLoop_succ]
      by_cases early : observations.clock (probe + 1) - observations.clock 0 < timeout
      · simp only [Function.iterate_succ_apply, Function.iterate_zero_apply, resume, if_pos early]
        cases classify (observations.response probe)
        · exact resume_iterate_done classify timeout observations _ _
        · exact resume_iterate_done classify timeout observations _ _
        · rw [resume_iterate_testing fuel (probe + 1), Nat.add_right_comm, Nat.add_assoc]
      · simp only [Function.iterate_succ_apply, Function.iterate_zero_apply, resume, if_neg early]
        exact resume_iterate_done classify timeout observations _ _

/-- A coroutine that has ended after some segments from the start ended as `pollLoop` does with
that many tests of fuel. -/
theorem pollLoop_of_resume_done {segments : ℕ} {outcome : Except PyException Record}
    (finished : (resume classify timeout observations)^[segments] (.testing 0) = .done outcome) :
    ∃ ended, pollLoop classify timeout observations segments 0 = some ended ∧
      ended.outcome = outcome := by
  have twice := resume_iterate_testing classify timeout observations segments 0
  rw [two_mul, Function.iterate_add_apply, finished, resume_iterate_done] at twice
  revert twice
  cases pollLoop classify timeout observations segments 0 with
  | none => exact nofun
  | some ended => exact fun same => ⟨ended, rfl, (Phase.done.inj same).symm⟩

/-- A coroutine given at least twice the tests `pollLoop` needs has ended as it does. -/
theorem resume_done_of_pollLoop {fuel segments : ℕ} {ended : Ended Record}
    (stopped : pollLoop classify timeout observations fuel 0 = some ended)
    (enough : 2 * fuel ≤ segments) :
    (resume classify timeout observations)^[segments] (.testing 0) = .done ended.outcome := by
  have twice := resume_iterate_testing classify timeout observations fuel 0
  rw [stopped] at twice
  rw [← Nat.sub_add_cancel enough, Function.iterate_add_apply, twice, resume_iterate_done]

end Resume

/-! ## Tasks sharing one client -/

/-- One wait task: what its coroutine makes of a response, its timeout, and what it observes. -/
structure WaitTask where
  Response : Type
  Record : Type
  classify : Response → Verdict Record
  timeout : ℚ
  observations : Observations Response

namespace WaitTask

/-- A task running `wait_for_transaction`. -/
def transaction {Receipt : Type} (timeout : ℚ)
    (observations : Observations (Except PyException (Option Receipt))) : WaitTask :=
  ⟨_, Receipt, classifyReceipt, timeout, observations⟩

/-- A task running `wait_for_job_completion`. -/
def job (jobId : String) (timeout : ℚ)
    (observations : Observations (Except PyException (Option AIJob))) : WaitTask :=
  ⟨_, AIJob, fun response => classifyJob jobId (getJob response), timeout, observations⟩

/-- One segment of the task's coroutine. -/
def resume (task : WaitTask) : Phase task.Record → Phase task.Record :=
  Rpc.resume task.classify task.timeout task.observations

/-- The task's wait run alone, with `fuel` tests. -/
def alone (task : WaitTask) (fuel : ℕ) : Option (Ended task.Record) :=
  pollLoop task.classify task.timeout task.observations fuel 0

/-- How many `_call`s the task's coroutine makes in `segments` segments from `phase`, run on its
own: each segment that ends awaiting a response has sent one request. -/
def callsFrom (task : WaitTask) : Phase task.Record → ℕ → ℕ
  | _, 0 => 0
  | phase, segments + 1 =>
      (if (task.resume phase).isAwaiting then 1 else 0) + task.callsFrom (task.resume phase) segments

/-- A `wait_for_transaction` task alone is `wait_for_transaction`. -/
theorem transaction_alone {Receipt : Type} (timeout : ℚ)
    (observations : Observations (Except PyException (Option Receipt))) (fuel : ℕ) :
    (transaction timeout observations).alone fuel = waitForTransaction timeout observations fuel :=
  rfl

/-- A `wait_for_job_completion` task alone is `wait_for_job_completion`. -/
theorem job_alone (jobId : String) (timeout : ℚ)
    (observations : Observations (Except PyException (Option AIJob))) (fuel : ℕ) :
    (job jobId timeout observations).alone fuel =
      waitForJobCompletion jobId timeout observations fuel :=
  rfl

end WaitTask

/-- Wait tasks on one `AetherClient`: where each coroutine stands, the client's `_request_id`, and
the requests sent so far, each with its task and the id in its payload. -/
structure EventLoop {Task : Type} (tasks : Task → WaitTask) where
  phase : (task : Task) → Phase (tasks task).Record
  requestId : ℕ
  sent : List (Task × ℕ)

namespace EventLoop

variable {Task : Type} {tasks : Task → WaitTask}

/-- Every task at its start, on a client whose `_request_id` is `requestId`. -/
def start (tasks : Task → WaitTask) (requestId : ℕ) : EventLoop tasks :=
  { phase := fun _ => .testing 0, requestId, sent := [] }

@[simp] theorem start_phase (requestId : ℕ) (task : Task) :
    (start tasks requestId).phase task = .testing 0 := rfl

@[simp] theorem start_requestId (requestId : ℕ) : (start tasks requestId).requestId = requestId :=
  rfl

@[simp] theorem start_sent (requestId : ℕ) : (start tasks requestId).sent = [] := rfl

variable [DecidableEq Task]

/-- The event loop resumes `task` for one segment. A segment that ends awaiting a response has
sent it through `_call`, which increments `_request_id` and puts the new value in the payload. -/
def resume (loop : EventLoop tasks) (task : Task) : EventLoop tasks :=
  if ((tasks task).resume (loop.phase task)).isAwaiting then
    { phase := Function.update loop.phase task ((tasks task).resume (loop.phase task)),
      requestId := loop.requestId + 1, sent := loop.sent ++ [(task, loop.requestId + 1)] }
  else
    { loop with phase := Function.update loop.phase task ((tasks task).resume (loop.phase task)) }

/-- The event loop resumes the tasks in the order `schedule` names them. -/
def run (loop : EventLoop tasks) (schedule : List Task) : EventLoop tasks :=
  schedule.foldl resume loop

@[simp] theorem run_nil (loop : EventLoop tasks) : loop.run [] = loop := rfl

@[simp] theorem run_cons (loop : EventLoop tasks) (task : Task) (schedule : List Task) :
    loop.run (task :: schedule) = (loop.resume task).run schedule := rfl

/-- The resumed task runs one segment of its own coroutine. -/
@[simp] theorem resume_phase_self (loop : EventLoop tasks) (task : Task) :
    (loop.resume task).phase task = (tasks task).resume (loop.phase task) := by
  unfold resume
  split <;> exact Function.update_same _ _ _

/-- Every other task stays where it was. -/
theorem resume_phase_other (loop : EventLoop tasks) {task other : Task} (distinct : other ≠ task) :
    (loop.resume task).phase other = loop.phase other := by
  unfold resume
  split <;> exact Function.update_noteq distinct _ _

/-- A segment sends at most one request, whose id is the incremented `_request_id`. -/
theorem resume_sent (loop : EventLoop tasks) (task : Task) :
    ((loop.resume task).sent = loop.sent ∧ (loop.resume task).requestId = loop.requestId) ∨
      ((loop.resume task).sent = loop.sent ++ [(task, loop.requestId + 1)] ∧
        (loop.resume task).requestId = loop.requestId + 1) := by
  unfold resume
  split
  · exact .inr ⟨rfl, rfl⟩
  · exact .inl ⟨rfl, rfl⟩

/-- One segment adds to `sent` one request of `task` when it is `task`'s and ends awaiting a
response, and none otherwise. -/
theorem resume_countP_sent (loop : EventLoop tasks) (scheduled task : Task) :
    (loop.resume scheduled).sent.countP (·.1 == task) = loop.sent.countP (·.1 == task) +
      if scheduled = task ∧ ((tasks scheduled).resume (loop.phase scheduled)).isAwaiting then 1
      else 0 := by
  unfold resume
  split
  case isTrue awaiting =>
    by_cases same : scheduled = task <;>
      simp [List.countP_append, same, awaiting]
  case isFalse running => simp [running]

/-- Under any schedule each task has run as many segments of its own coroutine as the schedule
resumed it. -/
theorem run_phase (schedule : List Task) :
    ∀ (loop : EventLoop tasks) (task : Task),
      (loop.run schedule).phase task = (tasks task).resume^[schedule.count task] (loop.phase task) := by
  induction schedule with
  | nil => intro loop task; rfl
  | cons scheduled schedule inductionHypothesis =>
      intro loop task
      rw [run_cons, inductionHypothesis, List.count_cons]
      by_cases resumed : scheduled = task
      · subst resumed
        rw [resume_phase_self, if_pos (beq_self_eq_true _), Function.iterate_succ_apply]
      · rw [resume_phase_other _ (Ne.symm resumed), if_neg (by simpa using resumed)]
        rfl

/-- Under any schedule each task's requests in `sent` are the `_call`s its own coroutine makes in
the segments the schedule gave it. -/
theorem run_countP_sent (schedule : List Task) :
    ∀ (loop : EventLoop tasks) (task : Task),
      (loop.run schedule).sent.countP (·.1 == task) = loop.sent.countP (·.1 == task) +
        (tasks task).callsFrom (loop.phase task) (schedule.count task) := by
  induction schedule with
  | nil => intro loop task; rfl
  | cons scheduled schedule inductionHypothesis =>
      intro loop task
      rw [run_cons, inductionHypothesis, resume_countP_sent, List.count_cons]
      by_cases resumed : scheduled = task
      · subst resumed
        simp only [resume_phase_self, beq_self_eq_true, if_true, true_and, WaitTask.callsFrom]
        omega
      · rw [resume_phase_other _ (Ne.symm resumed)]
        simp [resumed]

/-- The requests a run sends carry the ids after `_request_id`, one each, in order, and
`_request_id` ends increased by their number. -/
theorem run_sent (schedule : List Task) :
    ∀ loop : EventLoop tasks, ∃ sentNow : List (Task × ℕ),
      (loop.run schedule).sent = loop.sent ++ sentNow ∧
      sentNow.map Prod.snd = List.range' (loop.requestId + 1) sentNow.length ∧
      (loop.run schedule).requestId = loop.requestId + sentNow.length := by
  induction schedule with
  | nil => intro loop; exact ⟨[], by simp⟩
  | cons scheduled schedule inductionHypothesis =>
      intro loop
      obtain ⟨sentLater, sentRun, idsLater, requestIdRun⟩ :=
        inductionHypothesis (loop.resume scheduled)
      rcases resume_sent loop scheduled with ⟨sentSame, idSame⟩ | ⟨sentOne, idOne⟩
      · refine ⟨sentLater, ?_, ?_, ?_⟩ <;> simp only [run_cons, sentRun, requestIdRun, sentSame,
          idSame, idsLater]
      · refine ⟨(scheduled, loop.requestId + 1) :: sentLater, ?_, ?_, ?_⟩
        · simp only [run_cons, sentRun, sentOne, List.append_assoc, List.singleton_append]
        · simp only [List.map_cons, idsLater, idOne, List.length_cons, List.range'_succ]
        · simp only [run_cons, requestIdRun, idOne, List.length_cons]
          omega

end EventLoop

/-- Run any wait tasks on one client under any schedule. Each task stands where it would stand run
alone after as many segments, so a task that ended ended as its wait ends alone, and one
resumed often enough has ended as its wait does alone. Each task's requests in `sent` are as
many as the `_call`s its coroutine makes on its own in those segments, so `sent` holds every
`_call` of the run. The requests carry consecutive ids from the one after `_request_id`, which
ends increased by their number: none lost or repeated. -/
theorem concurrent_waits_run_alone {Task : Type} [DecidableEq Task] (tasks : Task → WaitTask)
    (requestId : ℕ) (schedule : List Task) :
    (∀ task, ((EventLoop.start tasks requestId).run schedule).phase task =
      (tasks task).resume^[schedule.count task] (.testing 0)) ∧
    (∀ task outcome, ((EventLoop.start tasks requestId).run schedule).phase task = .done outcome →
      ∃ ended, (tasks task).alone (schedule.count task) = some ended ∧ ended.outcome = outcome) ∧
    (∀ task fuel ended, (tasks task).alone fuel = some ended → 2 * fuel ≤ schedule.count task →
      ((EventLoop.start tasks requestId).run schedule).phase task = .done ended.outcome) ∧
    ((EventLoop.start tasks requestId).run schedule).requestId =
      requestId + ((EventLoop.start tasks requestId).run schedule).sent.length ∧
    ((EventLoop.start tasks requestId).run schedule).sent.map Prod.snd =
      List.range' (requestId + 1) ((EventLoop.start tasks requestId).run schedule).sent.length ∧
    (((EventLoop.start tasks requestId).run schedule).sent.map Prod.snd).Nodup ∧
    (∀ task, ((EventLoop.start tasks requestId).run schedule).sent.countP (·.1 == task) =
      (tasks task).callsFrom (.testing 0) (schedule.count task)) := by
  have phases := fun task => EventLoop.run_phase schedule (EventLoop.start tasks requestId) task
  simp only [EventLoop.start_phase] at phases
  obtain ⟨sentNow, sentRun, ids, requestIdRun⟩ :=
    EventLoop.run_sent schedule (EventLoop.start tasks requestId)
  simp only [EventLoop.start_sent, EventLoop.start_requestId, List.nil_append]
    at sentRun requestIdRun ids
  have consecutive : (((EventLoop.start tasks requestId).run schedule).sent.map Prod.snd) =
      List.range' (requestId + 1) ((EventLoop.start tasks requestId).run schedule).sent.length := by
    rw [sentRun, ids]
  refine ⟨phases, fun task outcome finished => ?_, fun task fuel ended stopped enough => ?_, ?_,
    consecutive, consecutive ▸ List.nodup_range' _ _, fun task => ?_⟩
  · rw [phases] at finished
    exact pollLoop_of_resume_done _ _ _ finished
  · rw [phases]
    exact resume_done_of_pollLoop _ _ _ stopped enough
  · rw [requestIdRun, sentRun]
  · simpa using EventLoop.run_countP_sent schedule (EventLoop.start tasks requestId) task

end Aether.Rpc
