import Aether.Python.Bytes
import Mathlib.Data.Rat.Floor

/-!
# Waiting on the node

`AetherClient.wait_for_transaction` and `AIJobHelper.wait_for_job_completion` are one loop: read
the start time, then, while the time since the start is below the timeout, probe the node once,
read the response, and return, raise, or sleep for the poll interval. They differ only in how
they read a response (`classifyReceipt`, `classifyJob`). `pollLoop` is the loop once, run on what
the wait observes: the clock readings and the responses of its probes. The sleep acts only
through the later clock readings. Python's floats are idealised as rationals, so the timeouts,
poll intervals and clock readings of every theorem here are finite numbers: an infinite timeout
(a wait that never times out) and a NaN one (`TimeoutError` before the first probe, since every
comparison with NaN is false) are outside them.

`track` is the specification's tracker, in its own words, and `waits_refine_track` compares the
two. `waits_end_within_probe_bound` bounds the probes of a wait whose clock advances by at least
the poll interval across each sleep.
-/

namespace Aether.Rpc

open Aether

/-- What a wait makes of one probe's response. -/
inductive Verdict (Record : Type) where
  | success (record : Record)
  | failure (error : PyException)
  | pending
  deriving DecidableEq, Repr

/-- What one wait observes: `clock 0` is `start_time`, `clock (probe + 1)` the reading of the loop
test before probe `probe`, and `response probe` what that probe returned or raised. -/
structure Observations (Response : Type) where
  clock : ℕ → ℚ
  response : ℕ → Response

/-- How a wait ended: what it returned or raised, and how many probes it sent. -/
structure Ended (Record : Type) where
  outcome : Except PyException Record
  probes : ℕ

section PollLoop

variable {Response Record : Type} (classify : Response → Verdict Record) (timeout : ℚ)
  (observations : Observations Response)

/-- The loop of both waits, from the test before probe `probe`; `fuel` bounds the number of
tests, and `none` means it ran out first. -/
def pollLoop : ℕ → ℕ → Option (Ended Record)
  | 0, _ => none
  | fuel + 1, probe =>
      if observations.clock (probe + 1) - observations.clock 0 < timeout then
        match classify (observations.response probe) with
        | .success record => some ⟨.ok record, probe + 1⟩
        | .failure error => some ⟨.error error, probe + 1⟩
        | .pending => pollLoop fuel (probe + 1)
      else some ⟨.error .timeoutError, probe⟩

/-- One test and what follows it, whatever the verdict. -/
theorem pollLoop_succ (fuel probe : ℕ) :
    pollLoop classify timeout observations (fuel + 1) probe =
      if observations.clock (probe + 1) - observations.clock 0 < timeout then
        match classify (observations.response probe) with
        | .success record => some ⟨.ok record, probe + 1⟩
        | .failure error => some ⟨.error error, probe + 1⟩
        | .pending => pollLoop classify timeout observations fuel (probe + 1)
      else some ⟨.error .timeoutError, probe⟩ :=
  rfl

/-- A wait stops by the test at which the time since the start has reached the timeout. -/
theorem pollLoop_isSome :
    ∀ (fuel probe : ℕ),
      timeout ≤ observations.clock (probe + fuel + 1) - observations.clock 0 →
      (pollLoop classify timeout observations (fuel + 1) probe).isSome
  | fuel, probe, late => by
      rw [pollLoop_succ]
      split
      case isFalse => rfl
      case isTrue early =>
        cases fuel with
        | zero => exact absurd late (not_le.mpr early)
        | succ fuel =>
            split
            all_goals first | rfl | exact pollLoop_isSome fuel (probe + 1) (by
              rwa [show probe + (fuel + 1) + 1 = probe + 1 + fuel + 1 by omega] at late)

/-- A wait that ended sent no probe after `probe`, or its last probe passed the loop test. -/
theorem pollLoop_probes {ended : Ended Record} :
    ∀ {fuel probe : ℕ}, pollLoop classify timeout observations fuel probe = some ended →
      ended.probes = probe ∨
        probe < ended.probes ∧
          observations.clock ended.probes - observations.clock 0 < timeout
  | 0, _, stopped => nomatch stopped
  | fuel + 1, probe, stopped => by
      rw [pollLoop_succ] at stopped
      split at stopped
      case isTrue early =>
        cases verdict : classify (observations.response probe) <;> simp only [verdict] at stopped
        case pending =>
          rcases pollLoop_probes stopped with same | ⟨later, passed⟩
          · exact .inr ⟨by omega, by rwa [same]⟩
          · exact .inr ⟨by omega, passed⟩
        all_goals
          cases stopped
          exact .inr ⟨Nat.lt_succ_self probe, early⟩
      case isFalse =>
        cases stopped
        exact .inl rfl

/-- A wait whose every probe is pending ends in `TimeoutError`. -/
theorem pollLoop_pending {ended : Ended Record}
    (alwaysPending : ∀ probe, classify (observations.response probe) = .pending) :
    ∀ {fuel probe : ℕ}, pollLoop classify timeout observations fuel probe = some ended →
      ended.outcome = .error .timeoutError
  | 0, _, stopped => nomatch stopped
  | fuel + 1, probe, stopped => by
      rw [pollLoop_succ, alwaysPending] at stopped
      split at stopped
      case isTrue => exact pollLoop_pending alwaysPending stopped
      case isFalse => cases stopped; rfl

end PollLoop

/-! ## The two waits -/

/-- `wait_for_transaction`'s reading of `get_transaction_receipt`: a receipt, a dataclass and so
always true, is returned; `None` is waited on; an exception of `_call` passes on. -/
def classifyReceipt {Receipt : Type} : Except PyException (Option Receipt) → Verdict Receipt
  | .ok (some receipt) => .success receipt
  | .ok none => .pending
  | .error error => .failure error

/-- `AetherClient.wait_for_transaction(hash, timeout, poll_interval)`. -/
def waitForTransaction {Receipt : Type} (timeout : ℚ)
    (observations : Observations (Except PyException (Option Receipt))) (fuel : ℕ) :
    Option (Ended Receipt) :=
  pollLoop classifyReceipt timeout observations fuel 0

/-- The field of an `AIJob` record that the wait reads. -/
structure AIJob where
  status : String
  deriving DecidableEq, Repr

/-- `AIJobHelper.get_job`: an exception of `_call` becomes `None`. -/
def getJob (response : Except PyException (Option AIJob)) : Option AIJob :=
  match response with
  | .ok job => job
  | .error _ => none

/-- `wait_for_job_completion`'s reading of `get_job`. -/
def classifyJob (jobId : String) (job : Option AIJob) : Verdict AIJob :=
  match job with
  | none => .failure (.valueError s!"Job {jobId} not found")
  | some job =>
      if job.status ∈ ["completed", "settled"] then .success job
      else if job.status = "challenged" then
        .failure (.valueError s!"Job {jobId} is being challenged")
      else .pending

/-- `AIJobHelper.wait_for_job_completion(job_id, timeout, poll_interval)`. -/
def waitForJobCompletion (jobId : String) (timeout : ℚ)
    (observations : Observations (Except PyException (Option AIJob))) (fuel : ℕ) :
    Option (Ended AIJob) :=
  pollLoop (fun response => classifyJob jobId (getJob response)) timeout observations fuel 0

/-! ## The specification's tracker -/

/-- What the specification's classifier says of a response. -/
inductive TrackVerdict (Record : Type) where
  | success (record : Record)
  | failure
  | pending
  deriving DecidableEq, Repr

/-- How the specification's tracker ends. -/
inductive TrackOutcome (Record : Type) where
  | success (record : Record)
  | remoteFailure
  | timeout
  deriving DecidableEq, Repr

/-- `Track(probe, classify)` of the specification: after reading the start time, repeat: once
`now - start ≥ timeout` raise Timeout; otherwise probe once and classify the response, returning
its record on success, raising RemoteFailure on failure, and sleeping on pending. -/
def track {Response Record : Type} (classify : Response → TrackVerdict Record) (timeout : ℚ)
    (observations : Observations Response) : ℕ → ℕ → Option (TrackOutcome Record)
  | 0, _ => none
  | fuel + 1, probe =>
      if timeout ≤ observations.clock (probe + 1) - observations.clock 0 then some .timeout
      else
        match classify (observations.response probe) with
        | .success record => some (.success record)
        | .failure => some .remoteFailure
        | .pending => track classify timeout observations fuel (probe + 1)

/-- The specification's classifier for receipts: absent is pending, a receipt a success. -/
def trackReceipt {Receipt : Type} : Option Receipt → TrackVerdict Receipt
  | none => .pending
  | some receipt => .success receipt

/-- The specification's classifier for jobs, with what it makes of an absent job as a parameter:
completed or settled is a success, challenged a failure, every other status pending. -/
def trackJob (absent : TrackVerdict AIJob) : Option AIJob → TrackVerdict AIJob
  | none => absent
  | some job =>
      if job.status = "completed" ∨ job.status = "settled" then .success job
      else if job.status = "challenged" then .failure
      else .pending

/-- The specification's name for how a wait ended: `TimeoutError` is Timeout, any other
exception RemoteFailure. -/
def Ended.toTrack {Record : Type} (ended : Ended Record) : TrackOutcome Record :=
  match ended.outcome with
  | .ok record => .success record
  | .error .timeoutError => .timeout
  | .error _ => .remoteFailure

/-- A verdict of the code and one of the specification say the same; a failure of the code must
not be a `TimeoutError`, which the specification reserves for the clock. -/
def Verdict.Agrees {Record : Type} : Verdict Record → TrackVerdict Record → Prop
  | .success record, .success other => record = other
  | .failure error, .failure => error ≠ .timeoutError
  | .pending, .pending => True
  | _, _ => False

/-- The code's loop is the specification's tracker when their classifiers agree on every
response. -/
theorem pollLoop_refines_track {Probe Response Record : Type}
    {classify : Response → Verdict Record} {specClassify : Probe → TrackVerdict Record}
    (read : Probe → Response) (agree : ∀ probe, (classify (read probe)).Agrees (specClassify probe))
    (timeout : ℚ) (clock : ℕ → ℚ) (responses : ℕ → Probe) :
    ∀ fuel probe, (pollLoop classify timeout ⟨clock, read ∘ responses⟩ fuel probe).map
      Ended.toTrack = track specClassify timeout ⟨clock, responses⟩ fuel probe
  | 0, _ => rfl
  | fuel + 1, probe => by
      rw [pollLoop_succ, track]
      by_cases early : clock (probe + 1) - clock 0 < timeout
      · simp only [if_pos early, if_neg (not_le.mpr early), Function.comp_apply]
        have agrees := agree (responses probe)
        generalize classify (read (responses probe)) = verdict at agrees ⊢
        generalize specClassify (responses probe) = specVerdict at agrees ⊢
        cases verdict <;> cases specVerdict <;> simp only [Verdict.Agrees] at agrees
        · rw [agrees]
          rfl
        · rename_i error
          cases error <;> first | exact absurd rfl agrees | rfl
        · exact pollLoop_refines_track read agree timeout clock responses fuel _
      · simp only [if_neg early, if_pos (not_lt.mp early)]
        rfl

/-- Each wait is the specification's tracker run on the same responses and clock readings, with
one difference: an absent job is a failure of `wait_for_job_completion` (it raises
`ValueError("Job … not found")`), not a pending probe. Timeouts and clock readings are finite
rationals; an infinite or NaN timeout is outside the statement. -/
theorem waits_refine_track :
    (∀ {Receipt : Type} (timeout : ℚ) (clock : ℕ → ℚ) (receipts : ℕ → Option Receipt) (fuel : ℕ),
      (waitForTransaction timeout ⟨clock, fun probe => .ok (receipts probe)⟩ fuel).map
        Ended.toTrack = track trackReceipt timeout ⟨clock, receipts⟩ fuel 0) ∧
    (∀ (jobId : String) (timeout : ℚ) (clock : ℕ → ℚ) (jobs : ℕ → Option AIJob) (fuel : ℕ),
      (waitForJobCompletion jobId timeout ⟨clock, fun probe => .ok (jobs probe)⟩ fuel).map
        Ended.toTrack = track (trackJob .failure) timeout ⟨clock, jobs⟩ fuel 0) := by
  constructor
  · intro Receipt timeout clock receipts fuel
    refine pollLoop_refines_track Except.ok (fun receipt => ?_) timeout clock receipts fuel 0
    cases receipt <;> trivial
  · intro jobId timeout clock jobs fuel
    refine pollLoop_refines_track Except.ok (fun job => ?_) timeout clock jobs fuel 0
    rcases job with _ | job
    · exact nofun
    simp only [getJob, classifyJob, trackJob, List.mem_cons, List.mem_singleton,
      List.not_mem_nil, or_false]
    split_ifs <;> first | rfl | trivial | exact nofun

/-- A job absent at the first probe ends `wait_for_job_completion` with `ValueError`, where the
specification's tracker, reading absence as pending, waits for the job to complete. -/
theorem absent_job_ends_wait :
    (waitForJobCompletion "0x0000000000000000000000000000000000000000000000000000000000000000" 10
        ⟨fun _ => 0, fun probe => .ok (if probe = 0 then none else some ⟨"completed"⟩)⟩ 2).map
      Ended.toTrack = some .remoteFailure ∧
    track (trackJob .pending) 10
        ⟨fun _ => 0, fun probe => if probe = 0 then none else some ⟨"completed"⟩⟩ 2 0 =
      some (.success ⟨"completed"⟩) := by
  constructor
  · norm_num [waitForJobCompletion, pollLoop, getJob, classifyJob, Ended.toTrack]
  · norm_num [track, trackJob]

/-! ## How long a wait lasts -/

/-- A clock that does not go back before the first test and advances by at least the poll
interval across each sleep has moved by `probe` intervals at the test before probe `probe`. -/
theorem clock_advances {clock : ℕ → ℚ} {pollInterval : ℚ} (forward : clock 0 ≤ clock 1)
    (sleeps : ∀ probe, clock (probe + 1) + pollInterval ≤ clock (probe + 2)) :
    ∀ probe : ℕ, clock 0 + probe * pollInterval ≤ clock (probe + 1)
  | 0 => by simpa using forward
  | probe + 1 => by
      have earlier := clock_advances forward sleeps probe
      have slept := sleeps probe
      push_cast
      linarith

/-- Under such a clock the loop ends within `⌈timeout / poll_interval⌉ + 1` tests, having sent at
most `⌈timeout / poll_interval⌉` probes. -/
theorem pollLoop_within_bound {Response Record : Type} (classify : Response → Verdict Record)
    {timeout pollInterval : ℚ} (positive : 0 < pollInterval) (observations : Observations Response)
    (forward : observations.clock 0 ≤ observations.clock 1)
    (sleeps : ∀ probe,
      observations.clock (probe + 1) + pollInterval ≤ observations.clock (probe + 2)) :
    ∃ ended, pollLoop classify timeout observations (⌈timeout / pollInterval⌉.toNat + 1) 0 =
        some ended ∧ ended.probes ≤ ⌈timeout / pollInterval⌉.toNat := by
  have ceilingBelowBound : (⌈timeout / pollInterval⌉ : ℚ) ≤ ⌈timeout / pollInterval⌉.toNat := by
    exact_mod_cast Int.self_le_toNat _
  have reached : timeout ≤ observations.clock (0 + ⌈timeout / pollInterval⌉.toNat + 1) -
      observations.clock 0 := by
    have advanced := clock_advances forward sleeps ⌈timeout / pollInterval⌉.toNat
    have withinCeiling := (div_le_iff₀ positive).mp (Int.le_ceil (timeout / pollInterval))
    have scaled := mul_le_mul_of_nonneg_right ceilingBelowBound positive.le
    rw [Nat.zero_add]
    linarith only [advanced, withinCeiling, scaled]
  obtain ⟨ended, stopped⟩ := Option.isSome_iff_exists.mp
    (pollLoop_isSome classify timeout observations _ 0 reached)
  refine ⟨ended, stopped, ?_⟩
  rcases pollLoop_probes classify timeout observations stopped with none | ⟨_, passed⟩
  · omega
  · obtain ⟨last, sent⟩ : ∃ last, ended.probes = last + 1 := ⟨ended.probes - 1, by omega⟩
    rw [sent] at passed ⊢
    have advanced := clock_advances forward sleeps last
    have beforeTimeout : (last : ℚ) < timeout / pollInterval := by
      rw [lt_div_iff₀ positive]
      linarith only [advanced, passed]
    have := Int.lt_ceil.mpr (by exact_mod_cast beforeTimeout : ((last : ℤ) : ℚ) < _)
    omega

/-- Under a clock that never goes back and advances by at least the poll interval across each
sleep, each wait ends, by returning or raising, after at most `⌈timeout / poll_interval⌉`
probes, so after none when the timeout is not positive; a wait whose every probe is pending
raises `TimeoutError`. The timeout and the interval are finite rationals: an infinite or NaN
timeout or interval is outside the bound. -/
theorem waits_end_within_probe_bound (timeout pollInterval : ℚ) (positive : 0 < pollInterval)
    (clock : ℕ → ℚ) (forward : clock 0 ≤ clock 1)
    (sleeps : ∀ probe, clock (probe + 1) + pollInterval ≤ clock (probe + 2)) :
    (∀ {Receipt : Type} (responses : ℕ → Except PyException (Option Receipt)),
      ∃ ended, waitForTransaction timeout ⟨clock, responses⟩
          (⌈timeout / pollInterval⌉.toNat + 1) = some ended ∧
        ended.probes ≤ ⌈timeout / pollInterval⌉.toNat ∧
        ((∀ probe, responses probe = .ok none) → ended.outcome = .error .timeoutError)) ∧
    (∀ (jobId : String) (responses : ℕ → Except PyException (Option AIJob)),
      ∃ ended, waitForJobCompletion jobId timeout ⟨clock, responses⟩
          (⌈timeout / pollInterval⌉.toNat + 1) = some ended ∧
        ended.probes ≤ ⌈timeout / pollInterval⌉.toNat ∧
        ((∀ probe, ∃ job, responses probe = .ok (some job) ∧
            job.status ∉ ["completed", "settled", "challenged"]) →
          ended.outcome = .error .timeoutError)) := by
  constructor
  · intro Receipt responses
    obtain ⟨ended, stopped, bounded⟩ :=
      pollLoop_within_bound classifyReceipt positive ⟨clock, responses⟩ forward sleeps
    refine ⟨ended, stopped, bounded, fun absent => pollLoop_pending _ _ _ (fun probe => ?_) stopped⟩
    simp only [absent, classifyReceipt]
  · intro jobId responses
    obtain ⟨ended, stopped, bounded⟩ := pollLoop_within_bound
      (fun response => classifyJob jobId (getJob response)) positive ⟨clock, responses⟩ forward
      sleeps
    refine ⟨ended, stopped, bounded, fun running => pollLoop_pending _ _ _ (fun probe => ?_) stopped⟩
    obtain ⟨job, response, unfinished⟩ := running probe
    simp only [List.mem_cons, List.mem_singleton, List.not_mem_nil, or_false, not_or] at unfinished
    simp [response, getJob, classifyJob, unfinished]

/-- A one-second poll against a clock that ticks one second a test, with a three-second timeout:
both waits end within three probes. -/
theorem waits_end_within_probe_bound_ticking :
    (∀ {Receipt : Type} (responses : ℕ → Except PyException (Option Receipt)),
      ∃ ended, waitForTransaction 3 ⟨fun tick => tick, responses⟩ (⌈(3 : ℚ) / 1⌉.toNat + 1) =
          some ended ∧
        ended.probes ≤ ⌈(3 : ℚ) / 1⌉.toNat ∧
        ((∀ probe, responses probe = .ok none) → ended.outcome = .error .timeoutError)) ∧
    (∀ (jobId : String) (responses : ℕ → Except PyException (Option AIJob)),
      ∃ ended, waitForJobCompletion jobId 3 ⟨fun tick => tick, responses⟩
          (⌈(3 : ℚ) / 1⌉.toNat + 1) = some ended ∧
        ended.probes ≤ ⌈(3 : ℚ) / 1⌉.toNat ∧
        ((∀ probe, ∃ job, responses probe = .ok (some job) ∧
            job.status ∉ ["completed", "settled", "challenged"]) →
          ended.outcome = .error .timeoutError)) :=
  waits_end_within_probe_bound 3 1 one_pos (fun tick => tick) (by norm_num)
    (fun probe => by push_cast; linarith)

end Aether.Rpc
