import Aether.Sdk.Transaction
import Aether.Rpc.Transaction

/-!
# `aether_sdk` builders

`TransferBuilder` accumulates the recipient, amount, memo, fee and gas limit of a transfer and
builds a `Transaction` from them and the signing fields; `JobBuilder` accumulates an AI job
request. Their setters check the argument and store it (`setField`); a setter's checks depend on
its argument only, and on the clock for `expires_at`, whose reading is part of the call here.

`setter_sequences_keep_last_accepted` is the accumulator property of the SDK's three fluent
builders: whatever calls are made, in whatever order, with every exception caught, each field
holds the last argument its setter accepted, or its initial value.
-/

namespace Aether.Sdk

open Aether

/-- `ClientConfig`, a frozen dataclass. -/
structure ClientConfig where
  defaultFee : Int := 2000000
  defaultGasLimit : Int := 500000
  deriving DecidableEq, Repr

/-- The fields of a `TransferBuilder`: `config`, `_recipient`, `_amount`, `_memo`, `_fee` and
`_gas_limit`. -/
@[ext] structure TransferBuilder where
  config : ClientConfig
  recipientField : Option String := none
  amountField : Option Int := none
  memoField : Option String := none
  feeField : Int := 0
  gasLimitField : Int := 0
  deriving DecidableEq, Repr

namespace TransferBuilder

/-- `TransferBuilder(config)`: `__post_init__` takes the fee and gas limit from the config. -/
def new (config : ClientConfig) : TransferBuilder :=
  { config, feeField := config.defaultFee, gasLimitField := config.defaultGasLimit }

/-- `TransferBuilder.to`. -/
def «to» (builder : TransferBuilder) (recipient : String) : Except PyException TransferBuilder :=
  setField (ensureHex recipient "recipient")
    (fun builder => { builder with recipientField := some recipient }) builder

/-- `TransferBuilder.amount`. -/
def amount (builder : TransferBuilder) (amount : Int) : Except PyException TransferBuilder :=
  setField (ensurePositiveInt amount "amount")
    (fun builder => { builder with amountField := some amount }) builder

/-- `TransferBuilder.memo`: no check. -/
def memo (builder : TransferBuilder) (memo : String) : Except PyException TransferBuilder :=
  setField (pure ()) (fun builder => { builder with memoField := some memo }) builder

/-- `TransferBuilder.fee`. -/
def fee (builder : TransferBuilder) (fee : Int) : Except PyException TransferBuilder :=
  setField (ensurePositiveInt fee "fee") (fun builder => { builder with feeField := fee })
    builder

/-- `TransferBuilder.gas_limit`. -/
def gasLimit (builder : TransferBuilder) (gasLimit : Int) : Except PyException TransferBuilder :=
  setField (ensurePositiveInt gasLimit "gas_limit")
    (fun builder => { builder with gasLimitField := gasLimit }) builder

/-- `TransferBuilder.build`: recipient and amount must be set; the `Transaction` constructor
checks the rest. -/
def build (builder : TransferBuilder) (sender senderPublicKey signature : String) (nonce : Int) :
    Except PyException Transaction := do
  let some recipient := builder.recipientField | throw (.valueError "recipient not set")
  let some amount := builder.amountField | throw (.valueError "amount not set")
  Transaction.postInit
    { nonce, sender, senderPublicKey, recipient, amount, fee := builder.feeField,
      gasLimit := builder.gasLimitField, memo := builder.memoField, signature }

/-- A setter call on a `TransferBuilder`, with its argument. -/
inductive Call where
  | «to» (recipient : String)
  | amount (amount : Int)
  | memo (memo : String)
  | fee (fee : Int)
  | gasLimit (gasLimit : Int)
  deriving DecidableEq, Repr

/-- The source setter a call names. -/
def applyCall (builder : TransferBuilder) : Call → Except PyException TransferBuilder
  | .to recipient => builder.to recipient
  | .amount amount => builder.amount amount
  | .memo memo => builder.memo memo
  | .fee fee => builder.fee fee
  | .gasLimit gasLimit => builder.gasLimit gasLimit

/-- Each field after a sequence of calls: the last argument its setter accepted (a `0x`
recipient, a positive amount, fee or gas limit, any memo), or the value it started with. -/
def lastAccepted (builder : TransferBuilder) (calls : List Call) : TransferBuilder where
  config := builder.config
  recipientField := lastStored (fun
    | .to recipient => if startswith recipient "0x" then some (some recipient) else none
    | _ => none) calls builder.recipientField
  amountField := lastStored (fun
    | .amount amount => if 0 < amount then some (some amount) else none
    | _ => none) calls builder.amountField
  memoField := lastStored (fun | .memo memo => some (some memo) | _ => none) calls
    builder.memoField
  feeField := lastStored (fun | .fee fee => if 0 < fee then some fee else none | _ => none)
    calls builder.feeField
  gasLimitField := lastStored (fun
    | .gasLimit gasLimit => if 0 < gasLimit then some gasLimit else none
    | _ => none) calls builder.gasLimitField

end TransferBuilder

/-- A `TransferBuilder` after any setter calls holds each setter's last accepted argument. -/
theorem TransferBuilder.runCaught_applyCall (builder : TransferBuilder)
    (calls : List TransferBuilder.Call) :
    runCaught TransferBuilder.applyCall builder calls =
      TransferBuilder.lastAccepted builder calls := by
  ext1
  · exact (field_runCaught _ TransferBuilder.config (fun _ => none) (fun _ call => by
      cases call <;> simp only [TransferBuilder.applyCall, TransferBuilder.to,
        TransferBuilder.amount, TransferBuilder.memo, TransferBuilder.fee,
        TransferBuilder.gasLimit, caught_setField] <;> split <;> rfl) builder calls).trans
      (lastStored_none calls _)
  all_goals
    refine field_runCaught TransferBuilder.applyCall _ _ (fun builder call => ?_) builder calls
    cases call <;>
      simp only [TransferBuilder.applyCall, TransferBuilder.to, TransferBuilder.amount,
        TransferBuilder.memo, TransferBuilder.fee, TransferBuilder.gasLimit, caught_setField,
        ensureHex_isOk, ensurePositiveInt_isOk, isOk_pure_unit, decide_eq_true_eq] <;>
      split_ifs <;> rfl

/-- `build` raises `ValueError` exactly when the recipient or the amount was never stored, or the
transaction it assembles is refused by `__post_init__`. -/
theorem TransferBuilder.build_raises_iff (builder : TransferBuilder)
    (sender senderPublicKey signature : String) (nonce : Int) :
    RaisesValueError (builder.build sender senderPublicKey signature nonce) ↔
      builder.recipientField = none ∨ builder.amountField = none ∨
        ∃ recipient amount, builder.recipientField = some recipient ∧
          builder.amountField = some amount ∧
          Transaction.Refused
            { nonce, sender, senderPublicKey, recipient, amount, fee := builder.feeField,
              gasLimit := builder.gasLimitField, memo := builder.memoField, signature } := by
  rcases builder with ⟨config, _ | recipient, _ | amount, memo, fee, gasLimit⟩
  all_goals simp only [TransferBuilder.build, ← postInit_raises_iff_refused]
  all_goals simp [RaisesValueError, throw, throwThe, MonadExceptOf.throw]

/-- Constructing an `aether_sdk` transaction, directly or through a `TransferBuilder`, raises
`ValueError` on the fields `__post_init__` refuses, and returns the transaction, `writes`
defaulting to the recipient, when its fields are well formed. Through a builder it raises
`ValueError` when the recipient or the amount was never stored, and is otherwise the constructor
on the transaction it assembles. -/
theorem transaction_refuses_and_accepts :
    (∀ tx : Transaction, tx.Refused → RaisesValueError tx.postInit) ∧
    (∀ tx : Transaction, tx.WellFormed → tx.postInit =
      .ok (if tx.writes.isEmpty then { tx with writes := tx.writes ++ [tx.recipient] } else tx)) ∧
    (∀ (builder : TransferBuilder) (sender senderPublicKey signature : String) (nonce : Int),
      builder.recipientField = none ∨ builder.amountField = none →
      RaisesValueError (builder.build sender senderPublicKey signature nonce)) ∧
    (∀ (builder : TransferBuilder) (sender senderPublicKey signature recipient : String)
      (nonce amount : Int), builder.recipientField = some recipient →
      builder.amountField = some amount →
      builder.build sender senderPublicKey signature nonce =
        Transaction.postInit
          { nonce, sender, senderPublicKey, recipient, amount, fee := builder.feeField,
            gasLimit := builder.gasLimitField, memo := builder.memoField, signature }) := by
  refine ⟨fun tx => (postInit_raises_iff_refused tx).mpr,
    fun tx wellFormed => (postInit_eq_ok_iff tx).mpr (Transaction.not_refused_of_wellFormed wellFormed),
    fun builder sender senderPublicKey signature nonce missing =>
      (TransferBuilder.build_raises_iff builder _ _ _ _).mpr (missing.elim .inl (.inr ∘ .inl)),
    fun builder sender senderPublicKey signature recipient nonce amount stored storedAmount => ?_⟩
  simp only [TransferBuilder.build, stored, storedAmount]

set_option maxRecDepth 4000 in
/-- The constructor's checks are not the data model's, by design: the transfer of the SDK's own
test, with its signature of 32 bytes where the data model has 64, is accepted, and the same
transfer with a 64-byte signature and a zero amount, of the documented shape, is refused. -/
theorem refusal_differs_from_data_model :
    let tested : Transaction :=
      { nonce := 42, sender := "0x1111111111111111111111111111111111111111",
        senderPublicKey := "0xa1a1a1a1a1a1a1a1a1a1a1a1a1a1a1a1a1a1a1a1a1a1a1a1a1a1a1a1a1a1a1a1",
        recipient := "0x8b0b54d2248a3a5617b6bd8a2fd4cc8ebc0f2e90", amount := 1000000,
        fee := 2500000, gasLimit := 750000, memo := some "phase7-sdk",
        signature := "0xb2b2b2b2b2b2b2b2b2b2b2b2b2b2b2b2" ++ "b2b2b2b2b2b2b2b2b2b2b2b2b2b2b2b2" }
    let documented : Transaction :=
      { tested with
        amount := 0
        signature := "0xb2b2b2b2b2b2b2b2b2b2b2b2b2b2b2b2" ++ "b2b2b2b2b2b2b2b2b2b2b2b2b2b2b2b2" ++
          "b2b2b2b2b2b2b2b2b2b2b2b2b2b2b2b2" ++ "b2b2b2b2b2b2b2b2b2b2b2b2b2b2b2b2" }
    followsDataModel tested = false ∧ tested.postInit.isOk = true ∧
      followsDataModel documented = true ∧
      documented.postInit = .error (.valueError "amount must be positive") :=
  ⟨rfl, rfl, rfl, rfl⟩

/-! ## What the setters keep -/

/-- What a `TransferBuilder`'s setters keep: a stored recipient starts with `0x`, and a stored
amount, the fee and the gas limit are positive. -/
structure TransferBuilder.Invariant (builder : TransferBuilder) : Prop where
  recipient : ∀ recipient, builder.recipientField = some recipient → startswith recipient "0x"
  amount : ∀ amount, builder.amountField = some amount → 0 < amount
  fee : 0 < builder.feeField
  gasLimit : 0 < builder.gasLimitField

/-- A builder from a configuration with a positive default fee and gas limit. -/
theorem TransferBuilder.new_invariant {config : ClientConfig} (positiveFee : 0 < config.defaultFee)
    (positiveGasLimit : 0 < config.defaultGasLimit) : (TransferBuilder.new config).Invariant :=
  ⟨nofun, nofun, positiveFee, positiveGasLimit⟩

/-- Setter calls, their exceptions caught, keep the invariant. -/
theorem TransferBuilder.invariant_runCaught {builder : TransferBuilder} (holds : builder.Invariant)
    (calls : List TransferBuilder.Call) :
    (runCaught TransferBuilder.applyCall builder calls).Invariant := by
  rw [TransferBuilder.runCaught_applyCall]
  constructor
  · refine lastStored_induction_some (fun recipient => startswith recipient "0x") holds.recipient ?_
    rintro (_ | _ | _ | _ | _) _ stores <;>
      simp only [Option.ite_none_right_eq_some, Option.some.injEq, reduceCtorEq] at stores
    exact stores.2 ▸ stores.1
  · refine lastStored_induction_some (fun amount => 0 < amount) holds.amount ?_
    rintro (_ | _ | _ | _ | _) _ stores <;>
      simp only [Option.ite_none_right_eq_some, Option.some.injEq, reduceCtorEq] at stores
    exact stores.2 ▸ stores.1
  all_goals
    refine lastStored_induction (fun stored => 0 < stored) (by first | exact holds.fee |
      exact holds.gasLimit) ?_
    rintro (_ | _ | _ | _ | _) _ stores <;>
      simp only [Option.ite_none_right_eq_some, Option.some.injEq, reduceCtorEq] at stores
    exact stores.2 ▸ stores.1

/-- On a builder that keeps the invariant, `build` raises `ValueError` exactly when the recipient
or the amount is missing or a signing argument is refused. -/
theorem TransferBuilder.build_raises_iff_of_invariant {builder : TransferBuilder}
    (holds : builder.Invariant) (sender senderPublicKey signature : String) (nonce : Int) :
    RaisesValueError (builder.build sender senderPublicKey signature nonce) ↔
      builder.recipientField = none ∨ builder.amountField = none ∨ ¬startswith sender "0x" ∨
        ¬startswith senderPublicKey "0x" ∨ ¬startswith signature "0x" ∨ nonce < 0 ∨
        signature.length < 66 := by
  rw [TransferBuilder.build_raises_iff]
  rcases stored : builder.recipientField with _ | recipient
  · simp only [true_or]
  rcases storedAmount : builder.amountField with _ | amount
  · simp only [true_or, or_true]
  have checkedRecipient := holds.recipient recipient stored
  have positiveAmount := not_le.mpr (holds.amount amount storedAmount)
  simp only [Transaction.Refused, Option.some.injEq, reduceCtorEq, false_or, exists_and_left,
    exists_eq_left', checkedRecipient, positiveAmount, not_le.mpr holds.fee,
    not_le.mpr holds.gasLimit, not_true_eq_false]

/-- A transfer built after any setter calls on a builder from a configuration with a positive
default fee and gas limit raises `ValueError` exactly when no recipient or no amount was
accepted, or a signing argument is refused: the setters leave the constructor nothing else to
refuse. -/
theorem transfer_build_after_setters_raises_iff (config : ClientConfig)
    (positiveFee : 0 < config.defaultFee) (positiveGasLimit : 0 < config.defaultGasLimit)
    (calls : List TransferBuilder.Call) (sender senderPublicKey signature : String)
    (nonce : Int) :
    RaisesValueError ((runCaught TransferBuilder.applyCall (TransferBuilder.new config) calls).build
        sender senderPublicKey signature nonce) ↔
      (runCaught TransferBuilder.applyCall (TransferBuilder.new config) calls).recipientField =
          none ∨
        (runCaught TransferBuilder.applyCall (TransferBuilder.new config) calls).amountField =
          none ∨
        ¬startswith sender "0x" ∨ ¬startswith senderPublicKey "0x" ∨ ¬startswith signature "0x" ∨
        nonce < 0 ∨ signature.length < 66 :=
  TransferBuilder.build_raises_iff_of_invariant
    (TransferBuilder.invariant_runCaught (TransferBuilder.new_invariant positiveFee positiveGasLimit)
      calls) sender senderPublicKey signature nonce

/-- With the default configuration, the setter calls and signing arguments of the SDK's test
`test_transfer_builder_constructs_transaction`. -/
theorem transfer_build_after_setters_raises_iff_default :
    let calls : List TransferBuilder.Call :=
      [.to "0x8b0b54d2248a3a5617b6bd8a2fd4cc8ebc0f2e90", .amount 1000000, .memo "phase7-sdk",
        .fee 2500000, .gasLimit 750000]
    let builder := runCaught TransferBuilder.applyCall (TransferBuilder.new {}) calls
    let sender := "0x1111111111111111111111111111111111111111"
    let senderPublicKey := "0xa1a1a1a1a1a1a1a1a1a1a1a1a1a1a1a1a1a1a1a1a1a1a1a1a1a1a1a1a1a1a1a1"
    let signature := "0xb2b2b2b2b2b2b2b2b2b2b2b2b2b2b2b2b2b2b2b2b2b2b2b2b2b2b2b2b2b2b2b2"
    0 < ({} : ClientConfig).defaultFee ∧ 0 < ({} : ClientConfig).defaultGasLimit ∧
      (RaisesValueError (builder.build sender senderPublicKey signature 42) ↔
        builder.recipientField = none ∨ builder.amountField = none ∨
          ¬startswith sender "0x" ∨ ¬startswith senderPublicKey "0x" ∨
          ¬startswith signature "0x" ∨ (42 : Int) < 0 ∨ signature.length < 66) :=
  ⟨by decide, by decide, transfer_build_after_setters_raises_iff {} (by decide) (by decide) _ _ _ _
    42⟩

/-! ## `JobBuilder` -/

/-- `JobRequest`. The metadata dict is kept as the JSON entries it is sent as. -/
structure JobRequest where
  jobId : String
  modelHash : String
  inputHash : String
  maxFee : Int
  expiresAt : Int
  metadata : Option (List (String × JsonValue)) := none
  deriving DecidableEq, Repr

/-- `JobSubmission`: the request `to_submission` and `prepare_job_submission` describe. -/
structure JobSubmission where
  url : String
  method : String
  headers : List (String × String)
  body : JobRequest
  deriving DecidableEq, Repr

/-- The fields of a `JobBuilder`: `_endpoint`, `_job_id`, `_model_hash`, `_input_hash`,
`_max_fee`, `_expires_at` and `_metadata`. -/
@[ext] structure JobBuilder where
  endpoint : String
  jobIdField : Option String := none
  modelHashField : Option String := none
  inputHashField : Option String := none
  maxFeeField : Int := 1000000
  expiresAtField : Option Int := none
  metadataField : Option (List (String × JsonValue)) := none
  deriving DecidableEq, Repr

namespace JobBuilder

/-- `JobBuilder(endpoint)`: trailing slashes are dropped from the endpoint. -/
def new (endpoint : String) : JobBuilder :=
  { endpoint := rstrip endpoint ['/'] }

/-- `JobBuilder.id`: a job id of whitespace only is refused. -/
def id (builder : JobBuilder) (jobId : String) : Except PyException JobBuilder :=
  setField (if (strip jobId).data.isEmpty then throw (.valueError "job_id must not be empty")
      else pure ())
    (fun builder => { builder with jobIdField := some jobId }) builder

/-- `JobBuilder.model`. -/
def model (builder : JobBuilder) (modelHash : String) : Except PyException JobBuilder :=
  setField (ensureHex modelHash "model_hash")
    (fun builder => { builder with modelHashField := some modelHash }) builder

/-- `JobBuilder.input`. -/
def input (builder : JobBuilder) (inputHash : String) : Except PyException JobBuilder :=
  setField (ensureHex inputHash "input_hash")
    (fun builder => { builder with inputHashField := some inputHash }) builder

/-- `JobBuilder.max_fee`. -/
def maxFee (builder : JobBuilder) (fee : Int) : Except PyException JobBuilder :=
  setField (ensurePositiveInt fee "max_fee") (fun builder => { builder with maxFeeField := fee })
    builder

/-- `JobBuilder.expires_at`, with `now` the reading of `int(time.time())` it compares against. -/
def expiresAt (builder : JobBuilder) (expiresAt now : Int) : Except PyException JobBuilder :=
  setField
    (do
      ensurePositiveInt expiresAt "expires_at"
      if expiresAt ≤ now then throw (.valueError "expiry must be in the future"))
    (fun builder => { builder with expiresAtField := some expiresAt }) builder

/-- `JobBuilder.with_metadata`: no check. -/
def withMetadata (builder : JobBuilder) (metadata : List (String × JsonValue)) :
    Except PyException JobBuilder :=
  setField (pure ()) (fun builder => { builder with metadataField := some metadata }) builder

/-- `JobBuilder.build`: the id, model hash, input hash and expiry must be set. -/
def build (builder : JobBuilder) : Except PyException JobRequest := do
  let some jobId := builder.jobIdField | throw (.valueError "job_id not set")
  let some modelHash := builder.modelHashField | throw (.valueError "model_hash not set")
  let some inputHash := builder.inputHashField | throw (.valueError "input_hash not set")
  let some expiresAt := builder.expiresAtField | throw (.valueError "expires_at not set")
  pure { jobId, modelHash, inputHash, maxFee := builder.maxFeeField, expiresAt,
         metadata := builder.metadataField }

/-- `JobBuilder.to_submission`. -/
def toSubmission (builder : JobBuilder) : Except PyException JobSubmission := do
  let job ← builder.build
  pure { url := ⟨builder.endpoint.data ++ "/v1/jobs".data⟩, method := "POST",
         headers := [("content-type", "application/json")], body := job }

/-- A setter call on a `JobBuilder`, with its argument; `expiresAt` carries the clock reading. -/
inductive Call where
  | id (jobId : String)
  | model (modelHash : String)
  | input (inputHash : String)
  | maxFee (fee : Int)
  | expiresAt (expiresAt now : Int)
  | withMetadata (metadata : List (String × JsonValue))
  deriving DecidableEq, Repr

/-- The source setter a call names. -/
def applyCall (builder : JobBuilder) : Call → Except PyException JobBuilder
  | .id jobId => builder.id jobId
  | .model modelHash => builder.model modelHash
  | .input inputHash => builder.input inputHash
  | .maxFee fee => builder.maxFee fee
  | .expiresAt expiresAt now => builder.expiresAt expiresAt now
  | .withMetadata metadata => builder.withMetadata metadata

/-- Each field after a sequence of calls: the last argument its setter accepted (a job id with a
non-whitespace character, `0x` hashes, a positive fee, a positive expiry later than the clock,
any metadata), or the value it started with. -/
def lastAccepted (builder : JobBuilder) (calls : List Call) : JobBuilder where
  endpoint := builder.endpoint
  jobIdField := lastStored (fun
    | .id jobId => if (strip jobId).data.isEmpty then none else some (some jobId)
    | _ => none) calls builder.jobIdField
  modelHashField := lastStored (fun
    | .model modelHash => if startswith modelHash "0x" then some (some modelHash) else none
    | _ => none) calls builder.modelHashField
  inputHashField := lastStored (fun
    | .input inputHash => if startswith inputHash "0x" then some (some inputHash) else none
    | _ => none) calls builder.inputHashField
  maxFeeField := lastStored (fun | .maxFee fee => if 0 < fee then some fee else none | _ => none)
    calls builder.maxFeeField
  expiresAtField := lastStored (fun
    | .expiresAt expiresAt now =>
        if 0 < expiresAt ∧ now < expiresAt then some (some expiresAt) else none
    | _ => none) calls builder.expiresAtField
  metadataField := lastStored (fun | .withMetadata metadata => some (some metadata) | _ => none)
    calls builder.metadataField

end JobBuilder

/-- `id` stores exactly a job id with a non-whitespace character. -/
theorem JobBuilder.caught_id (builder : JobBuilder) (jobId : String) :
    caught (builder.id jobId) builder =
      if (strip jobId).data.isEmpty then builder else { builder with jobIdField := some jobId } := by
  unfold JobBuilder.id
  split <;> rfl

/-- `expires_at` stores exactly a positive expiry later than the clock. -/
theorem JobBuilder.caught_expiresAt (builder : JobBuilder) (expiresAt now : Int) :
    caught (builder.expiresAt expiresAt now) builder =
      if 0 < expiresAt ∧ now < expiresAt then { builder with expiresAtField := some expiresAt }
      else builder := by
  unfold JobBuilder.expiresAt ensurePositiveInt
  split_ifs <;> first | rfl | omega

/-- A `JobBuilder` after any setter calls holds each setter's last accepted argument. -/
theorem JobBuilder.runCaught_applyCall (builder : JobBuilder) (calls : List JobBuilder.Call) :
    runCaught JobBuilder.applyCall builder calls = JobBuilder.lastAccepted builder calls := by
  ext1
  · exact (field_runCaught _ JobBuilder.endpoint (fun _ => none) (fun _ call => by
      cases call <;> simp only [JobBuilder.applyCall, JobBuilder.caught_id, JobBuilder.model,
        JobBuilder.input, JobBuilder.maxFee, JobBuilder.caught_expiresAt, JobBuilder.withMetadata,
        caught_setField] <;> split <;> rfl) builder calls).trans (lastStored_none calls _)
  all_goals
    refine field_runCaught JobBuilder.applyCall _ _ (fun builder call => ?_) builder calls
    cases call <;>
      simp only [JobBuilder.applyCall, JobBuilder.caught_id, JobBuilder.model, JobBuilder.input,
        JobBuilder.maxFee, JobBuilder.caught_expiresAt, JobBuilder.withMetadata, caught_setField,
        ensureHex_isOk, ensurePositiveInt_isOk, isOk_pure_unit, decide_eq_true_eq] <;>
      split_ifs <;> rfl

/-- No setter touches the endpoint. -/
theorem JobBuilder.endpoint_runCaught (builder : JobBuilder) (calls : List JobBuilder.Call) :
    (runCaught JobBuilder.applyCall builder calls).endpoint = builder.endpoint := by
  rw [JobBuilder.runCaught_applyCall]
  rfl

/-- `to_submission` returns when `build` does: a POST of the built job to the builder's endpoint
followed by `/v1/jobs`. -/
theorem JobBuilder.toSubmission_eq_ok {builder : JobBuilder} {request : JobRequest}
    (built : builder.build = .ok request) :
    builder.toSubmission = .ok
      { url := ⟨builder.endpoint.data ++ "/v1/jobs".data⟩, method := "POST",
        headers := [("content-type", "application/json")], body := request } := by
  rw [JobBuilder.toSubmission, built]
  rfl

/-- What a `JobBuilder`'s setters keep: a stored job id has a non-whitespace character, stored
hashes start with `0x`, and the maximum fee and a stored expiry are positive. -/
structure JobBuilder.Invariant (builder : JobBuilder) : Prop where
  jobId : ∀ jobId, builder.jobIdField = some jobId → (strip jobId).data.isEmpty = false
  modelHash : ∀ modelHash, builder.modelHashField = some modelHash → startswith modelHash "0x"
  inputHash : ∀ inputHash, builder.inputHashField = some inputHash → startswith inputHash "0x"
  maxFee : 0 < builder.maxFeeField
  expiresAt : ∀ expiresAt, builder.expiresAtField = some expiresAt → 0 < expiresAt

/-- A new builder keeps the invariant: nothing is stored and the default maximum fee is
positive. -/
theorem JobBuilder.new_invariant (endpoint : String) : (JobBuilder.new endpoint).Invariant :=
  ⟨nofun, nofun, nofun, show (0 : Int) < 1000000 by decide, nofun⟩

/-- Setter calls, their exceptions caught, keep the invariant. -/
theorem JobBuilder.invariant_runCaught {builder : JobBuilder} (holds : builder.Invariant)
    (calls : List JobBuilder.Call) : (runCaught JobBuilder.applyCall builder calls).Invariant := by
  rw [JobBuilder.runCaught_applyCall]
  constructor
  · refine lastStored_induction_some (fun jobId => (strip jobId).data.isEmpty = false)
      holds.jobId ?_
    rintro (_ | _ | _ | _ | _ | _) _ stores <;>
      simp only [Option.ite_none_left_eq_some, Option.some.injEq, reduceCtorEq] at stores
    exact stores.2 ▸ Bool.of_not_eq_true stores.1
  · refine lastStored_induction_some (fun modelHash => startswith modelHash "0x") holds.modelHash ?_
    rintro (_ | _ | _ | _ | _ | _) _ stores <;>
      simp only [Option.ite_none_right_eq_some, Option.some.injEq, reduceCtorEq] at stores
    exact stores.2 ▸ stores.1
  · refine lastStored_induction_some (fun inputHash => startswith inputHash "0x") holds.inputHash ?_
    rintro (_ | _ | _ | _ | _ | _) _ stores <;>
      simp only [Option.ite_none_right_eq_some, Option.some.injEq, reduceCtorEq] at stores
    exact stores.2 ▸ stores.1
  · refine lastStored_induction (fun stored => 0 < stored) holds.maxFee ?_
    rintro (_ | _ | _ | _ | _ | _) _ stores <;>
      simp only [Option.ite_none_right_eq_some, Option.some.injEq, reduceCtorEq] at stores
    exact stores.2 ▸ stores.1
  · refine lastStored_induction_some (fun expiresAt => 0 < expiresAt) holds.expiresAt ?_
    rintro (_ | _ | _ | _ | _ | _) _ stores <;>
      simp only [Option.ite_none_right_eq_some, Option.some.injEq, reduceCtorEq] at stores
    exact stores.2 ▸ stores.1.1

/-- What the setters' checks say of a job request: a job id with a non-whitespace character,
`0x` hashes, and a positive maximum fee and expiry. -/
def JobRequest.Checked (request : JobRequest) : Prop :=
  (strip request.jobId).data.isEmpty = false ∧ startswith request.modelHash "0x" ∧
    startswith request.inputHash "0x" ∧ 0 < request.maxFee ∧ 0 < request.expiresAt

/-- On a builder that keeps the invariant, `build` raises `ValueError` exactly when the job id,
a hash or the expiry is missing, returns a request once all four are stored, and a request it
returns passed the setters' checks. -/
theorem JobBuilder.build_of_invariant {builder : JobBuilder} (holds : builder.Invariant) :
    (RaisesValueError builder.build ↔
      builder.jobIdField = none ∨ builder.modelHashField = none ∨
        builder.inputHashField = none ∨ builder.expiresAtField = none) ∧
    (builder.jobIdField ≠ none → builder.modelHashField ≠ none → builder.inputHashField ≠ none →
      builder.expiresAtField ≠ none → ∃ request, builder.build = .ok request) ∧
    ∀ request, builder.build = .ok request → request.Checked := by
  rcases builder with ⟨endpoint, _ | jobId, _ | modelHash, _ | inputHash, maxFee, _ | expiresAt,
    metadata⟩
  all_goals
    simp only [JobBuilder.build, RaisesValueError, throw, throwThe, MonadExceptOf.throw,
      error_bind, ok_bind, pure_eq_ok, reduceCtorEq, Except.error.injEq, PyException.valueError.injEq,
      exists_eq', true_or, or_true, or_self, false_iff, not_exists, false_implies, implies_true,
      true_and, exists_const, iff_self, Except.ok.injEq, forall_eq', ne_eq, not_true_eq_false,
      not_false_eq_true, true_implies]
  exact ⟨holds.jobId jobId rfl, holds.modelHash modelHash rfl, holds.inputHash inputHash rfl,
    holds.maxFee, holds.expiresAt expiresAt rfl⟩

/-- A job built after any setter calls on a new builder raises `ValueError` exactly when no job
id, model hash, input hash or expiry was accepted, and otherwise returns a request, which passed
every setter's checks, whatever the order of the calls and the values they refused. -/
theorem job_build_after_setters (endpoint : String) (calls : List JobBuilder.Call) :
    let builder := runCaught JobBuilder.applyCall (JobBuilder.new endpoint) calls
    (RaisesValueError builder.build ↔
      builder.jobIdField = none ∨ builder.modelHashField = none ∨
        builder.inputHashField = none ∨ builder.expiresAtField = none) ∧
    (builder.jobIdField ≠ none → builder.modelHashField ≠ none → builder.inputHashField ≠ none →
      builder.expiresAtField ≠ none → ∃ request, builder.build = .ok request) ∧
    ∀ request, builder.build = .ok request → request.Checked :=
  JobBuilder.build_of_invariant
    (JobBuilder.invariant_runCaught (JobBuilder.new_invariant endpoint) calls)

/-- The fluent builders accumulate: after any setter calls in any order, each exception caught,
each field holds the last argument its setter accepted, or its initial value. -/
theorem setter_sequences_keep_last_accepted :
    (∀ (builder : Rpc.TransactionBuilder) calls,
      runCaught Rpc.TransactionBuilder.applyCall builder calls =
        Rpc.TransactionBuilder.lastAccepted builder calls) ∧
    (∀ (builder : TransferBuilder) calls,
      runCaught TransferBuilder.applyCall builder calls =
        TransferBuilder.lastAccepted builder calls) ∧
    (∀ (builder : JobBuilder) calls,
      runCaught JobBuilder.applyCall builder calls = JobBuilder.lastAccepted builder calls) :=
  ⟨Rpc.TransactionBuilder.runCaught_applyCall, TransferBuilder.runCaught_applyCall,
    JobBuilder.runCaught_applyCall⟩

end Aether.Sdk
