import Aether.Rpc.Helpers

/-!
# Signing helpers running concurrently

A contract-call helper method is a coroutine with one await before it signs: the nonce read.
Its first segment makes the checks and sends `get_nonce`; its second reads the node's answer,
encodes the call data and signs (`TransactionBuilder.sign` awaits nothing). `SigningLoop` runs
any number of such calls of one sender under any interleaving, next to a node whose reported
nonce for the sender changes only when one of the sender's transactions is included.

`signed_nonce_is_nonce_read` says what nonce a signed transaction carries: the one the node
reported when that call read it. Nothing in the helpers serialises the reads: under any schedule
without an inclusion every call signs the starting nonce (`signed_nonce_without_inclusion`, from
the invariant `SigningLoop.SignsOnly`), as the two gathered submissions of
`concurrent_reads_sign_same_nonce` do.
-/

namespace Aether.Rpc

open Aether

/-- Where a signing call stands. -/
inductive SigningPhase where
  | start
  /-- The checks passed and `get_nonce` was sent for the signer's address. -/
  | awaitingNonce (address : String)
  | done (result : Except PyException Transaction)

/-- The nonce of the transaction a call signed, if it signed one. -/
def SigningPhase.signedNonce : SigningPhase → Option Int
  | .done (.ok tx) => some tx.nonce
  | _ => none

section Signing

variable (sha256 ed25519Sign : Bytes → Bytes)

/-- One segment of a signing call, when the node reports `accountNonce` for the sender. -/
def HelperCall.resume (call : HelperCall) (accountNonce : Int) : SigningPhase → SigningPhase
  | .start =>
      match call.checks with
      | .ok address => .awaitingNonce address
      | .error error => .done (.error error)
  | .awaitingNonce address =>
      .done (call.builder address accountNonce >>= TransactionBuilder.sign sha256 ed25519Sign)
  | .done result => .done result

/-- What happens next: the event loop resumes a call, or the node includes one of the sender's
transactions and from then on reports `accountNonce`. -/
inductive SigningEvent (Task : Type) where
  | resume (task : Task)
  | included (accountNonce : Int)

/-- Signing calls of one sender, and the nonce the node reports for the sender. -/
structure SigningLoop (Task : Type) where
  phase : Task → SigningPhase
  accountNonce : Int

variable {Task : Type} [DecidableEq Task] (calls : Task → HelperCall)

/-- Every call at its start. -/
def SigningLoop.start (accountNonce : Int) : SigningLoop Task :=
  { phase := fun _ => .start, accountNonce }

/-- One event. -/
def SigningLoop.step (loop : SigningLoop Task) : SigningEvent Task → SigningLoop Task
  | .resume task =>
      let next := (calls task).resume sha256 ed25519Sign loop.accountNonce (loop.phase task)
      { loop with phase := Function.update loop.phase task next }
  | .included accountNonce => { loop with accountNonce }

/-- The events in order. -/
def SigningLoop.run (loop : SigningLoop Task) (events : List (SigningEvent Task)) :
    SigningLoop Task :=
  events.foldl (SigningLoop.step sha256 ed25519Sign calls) loop

theorem SigningLoop.run_append_single (loop : SigningLoop Task)
    (events : List (SigningEvent Task)) (event : SigningEvent Task) :
    loop.run sha256 ed25519Sign calls (events ++ [event]) =
      (loop.run sha256 ed25519Sign calls events).step sha256 ed25519Sign calls event :=
  List.foldl_append _ _ _ _

/-- A segment that ends with a signed transaction either found it already signed, or read the
nonce the node reports and signed a builder holding it. -/
theorem HelperCall.resume_signed {call : HelperCall} {accountNonce : Int} {phase : SigningPhase}
    {tx : Transaction}
    (signed : call.resume sha256 ed25519Sign accountNonce phase = .done (.ok tx)) :
    phase = .done (.ok tx) ∨ (∃ address, phase = .awaitingNonce address) ∧ tx.nonce = accountNonce := by
  cases phase with
  | start =>
      cases checks : call.checks <;>
        simp only [HelperCall.resume, checks, reduceCtorEq, SigningPhase.done.injEq] at signed
  | awaitingNonce address =>
      refine .inr ⟨⟨address, rfl⟩, ?_⟩
      cases built : call.builder address accountNonce with
      | error _ => simp only [HelperCall.resume, built, error_bind] at signed; cases signed
      | ok builder =>
          simp only [HelperCall.resume, built, ok_bind, SigningPhase.done.injEq] at signed
          have holds := call.builderHoldsNonce _ _ _ built
          rw [TransactionBuilder.sign_nonce sha256 ed25519Sign signed] at holds
          exact Option.some.inj holds
  | done result => exact .inl signed

/-- An event after which a call has signed either found it signed already, or resumed it while
it awaited its nonce, and the call signed the nonce the node reported. -/
theorem SigningLoop.step_signed {loop : SigningLoop Task} {event : SigningEvent Task} {task : Task}
    {tx : Transaction}
    (signed : (loop.step sha256 ed25519Sign calls event).phase task = .done (.ok tx)) :
    loop.phase task = .done (.ok tx) ∨ event = .resume task ∧
      (∃ address, loop.phase task = .awaitingNonce address) ∧ tx.nonce = loop.accountNonce := by
  cases event with
  | included _ => exact .inl signed
  | resume resumed =>
      by_cases same : task = resumed
      · subst same
        simp only [SigningLoop.step, Function.update_same] at signed
        exact (HelperCall.resume_signed sha256 ed25519Sign signed).imp_right (⟨rfl, ·⟩)
      · simp only [SigningLoop.step, Function.update_noteq same] at signed
        exact .inl signed

/-- The nonce a signed transaction carries is the one the node reported when its call read it:
the call was resumed, awaiting its nonce, right after some prefix of the events, and signed the
node's nonce after that prefix. -/
theorem signed_nonce_is_nonce_read (initialNonce : Int) (events : List (SigningEvent Task))
    (task : Task) (tx : Transaction)
    (signed : ((SigningLoop.start initialNonce).run sha256 ed25519Sign calls events).phase task =
      .done (.ok tx)) :
    ∃ before after address, events = before ++ .resume task :: after ∧
      ((SigningLoop.start initialNonce).run sha256 ed25519Sign calls before).phase task =
        .awaitingNonce address ∧
      tx.nonce = ((SigningLoop.start initialNonce).run sha256 ed25519Sign calls before).accountNonce := by
  induction events using List.reverseRecOn with
  | nil => cases signed
  | append_singleton events event inductionHypothesis =>
      rw [SigningLoop.run_append_single] at signed
      rcases SigningLoop.step_signed sha256 ed25519Sign calls signed with
        already | ⟨rfl, ⟨address, awaiting⟩, read⟩
      · obtain ⟨before, after, address, split, awaiting, read⟩ := inductionHypothesis already
        exact ⟨before, after ++ [event], address, by simp [split], awaiting, read⟩
      · exact ⟨events, [], address, rfl, awaiting, read⟩

/-- What holds while none of the sender's transactions is included: the node reports
`accountNonce`, and every call that signed carries it. -/
def SigningLoop.SignsOnly (loop : SigningLoop Task) (accountNonce : Int) : Prop :=
  loop.accountNonce = accountNonce ∧
    ∀ task tx, loop.phase task = .done (.ok tx) → tx.nonce = accountNonce

/-- Resuming a call keeps it. -/
theorem SigningLoop.signsOnly_resume {loop : SigningLoop Task} {accountNonce : Int}
    (holds : loop.SignsOnly accountNonce) (resumed : Task) :
    (loop.step sha256 ed25519Sign calls (.resume resumed)).SignsOnly accountNonce := by
  refine ⟨holds.1, fun task tx signed => ?_⟩
  rcases SigningLoop.step_signed sha256 ed25519Sign calls signed with already | ⟨-, -, read⟩
  · exact holds.2 task tx already
  · exact read.trans holds.1

/-- A run in which no transaction is included keeps it. -/
theorem SigningLoop.signsOnly_run {accountNonce : Int} {loop : SigningLoop Task}
    {events : List (SigningEvent Task)} (holds : loop.SignsOnly accountNonce)
    (noInclusion : ∀ included, .included included ∉ events) :
    (loop.run sha256 ed25519Sign calls events).SignsOnly accountNonce := by
  induction events generalizing loop with
  | nil => exact holds
  | cons event events inductionHypothesis =>
      cases event with
      | resume resumed =>
          exact inductionHypothesis (signsOnly_resume sha256 ed25519Sign calls holds resumed)
            fun included member => noInclusion included (List.mem_cons_of_mem _ member)
      | included included => exact absurd (List.mem_cons_self _ _) (noInclusion included)

/-- Under any interleaving in which none of the sender's transactions is included, every call
that signs signs the nonce the node reported at the start: concurrent calls collide. -/
theorem signed_nonce_without_inclusion (initialNonce : Int) (events : List (SigningEvent Task))
    (noInclusion : ∀ included, .included included ∉ events) (task : Task) (tx : Transaction)
    (signed : ((SigningLoop.start initialNonce).run sha256 ed25519Sign calls events).phase task =
      .done (.ok tx)) :
    tx.nonce = initialNonce :=
  (SigningLoop.signsOnly_run sha256 ed25519Sign calls
    ⟨rfl, fun _ _ started => SigningPhase.noConfusion started⟩ noInclusion).2 task tx signed

end Signing

/-- The second call of the gathered run signed the starting nonce: no transaction was included. -/
theorem signed_nonce_without_inclusion_gathered :
    let calls : Fin 2 → HelperCall := fun task =>
      AIJobHelper.submitJob (some "0xabc") "0x01" [task.val.toUInt8] 50000
    let events : List (SigningEvent (Fin 2)) := [.resume 0, .resume 1, .resume 0, .resume 1]
    (∀ included, SigningEvent.included included ∉ events) ∧
      ∃ tx, ((SigningLoop.start 5).run id id calls events).phase 1 = .done (.ok tx) ∧
        tx.nonce = 5 := by
  intro calls events
  have noInclusion : ∀ included, SigningEvent.included included ∉ events := by
    simp [events]
  obtain ⟨tx, signed⟩ : ∃ tx,
      ((SigningLoop.start 5).run id id calls events).phase 1 = .done (.ok tx) :=
    ⟨_, rfl⟩
  exact ⟨noInclusion, tx, signed,
    signed_nonce_without_inclusion id id calls 5 events noInclusion 1 tx signed⟩

/-- Two job submissions gathered at once, as the batch example does: both read the nonce before
either transaction is included, and both sign nonce 5. -/
theorem concurrent_reads_sign_same_nonce :
    let calls : Fin 2 → HelperCall := fun task =>
      AIJobHelper.submitJob (some "0xabc") "0x01" [task.val.toUInt8] 50000
    let final := (SigningLoop.start 5).run id id calls
      [.resume 0, .resume 1, .resume 0, .resume 1]
    (final.phase 0).signedNonce = some 5 ∧ (final.phase 1).signedNonce = some 5 ∧
      calls 0 ≠ calls 1 := by
  refine ⟨rfl, rfl, fun same => ?_⟩
  have sameData := congrArg
    (fun call : HelperCall => (call.builder "0xabc" 5).toOption.bind TransactionBuilder.dataField)
    same
  exact absurd sameData (by decide)

/-- The first call of that run signed, and it read its nonce after some prefix of the events. -/
theorem signed_nonce_is_nonce_read_gathered :
    let calls : Fin 2 → HelperCall := fun task =>
      AIJobHelper.submitJob (some "0xabc") "0x01" [task.val.toUInt8] 50000
    let events : List (SigningEvent (Fin 2)) := [.resume 0, .resume 1, .resume 0, .resume 1]
    ∃ tx, ((SigningLoop.start 5).run id id calls events).phase 0 = .done (.ok tx) ∧
      ∃ before after address, events = before ++ .resume 0 :: after ∧
        ((SigningLoop.start 5).run id id calls before).phase 0 = .awaitingNonce address ∧
        tx.nonce = ((SigningLoop.start 5).run id id calls before).accountNonce := by
  intro calls events
  obtain ⟨tx, signed⟩ : ∃ tx,
      ((SigningLoop.start 5).run id id calls events).phase 0 = .done (.ok tx) :=
    ⟨_, rfl⟩
  exact ⟨tx, signed, signed_nonce_is_nonce_read id id calls 5 events 0 tx signed⟩

end Aether.Rpc
