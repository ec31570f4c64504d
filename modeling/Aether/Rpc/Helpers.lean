import Aether.Rpc.Transaction
import Aether.Python.Json

/-!
# The contract-call helpers

`StakingHelper`, `GovernanceHelper` and `AIJobHelper` sign contract calls: each method checks its
arguments, reads the sender's nonce with `client.get_nonce`, encodes the call data, and signs
`TransactionBuilder.call(address, contract, data, nonce, value)`. `HelperCall` is that shape
around the one nonce read; each method is a `HelperCall`, and the structure carries the fact
that the builder holds the nonce that was read.

The call data is not a function of the call: `_encode_call` keeps the first four UTF-8 bytes of
`method + json.dumps(params)`, which for any method of four bytes or more are the method's own
(`encodeCall_ignores_params`), and a job submission and a result submission are laid out
alike (`jobSubmission_eq_resultSubmission`).
-/

namespace Aether.Rpc

open Aether

/-- `STAKING_CONTRACT`. -/
def stakingContract : String := "0x1000000000000000000000000000000000000001"

/-- `GOVERNANCE_CONTRACT`. -/
def governanceContract : String := "0x1000000000000000000000000000000000000002"

/-- `JOB_ESCROW_CONTRACT`. -/
def jobEscrowContract : String := "0x1000000000000000000000000000000000000003"

/-! ## Call data -/

/-- `_encode_call(method, params)`, the same body in the three helpers: the first four bytes of
the UTF-8 encoding of `method + json.dumps(params)`. -/
def encodeCall (method : String) (params : List JsonScalar) : Bytes :=
  (encode ⟨method.data ++ dumpsList params⟩).take 4

/-- `AIJobHelper._encode_job_submission(model_hash, input_data)`: `b"submitJob"[:4]`, the bytes
of the model hash after its first two characters, then the input. -/
def encodeJobSubmission (modelHash : String) (inputData : Bytes) : Except PyException Bytes := do
  let hashBytes ← fromhex ⟨modelHash.data.drop 2⟩
  pure ((encode "submitJob").take 4 ++ hashBytes ++ inputData)

/-- `AIJobHelper._encode_result_submission(job_id, result, vcr)`: `b"submitResult"[:4]`, the
bytes of the job id after its first two characters, then the result; the receipt is not read. -/
def encodeResultSubmission (jobId : String) (result : Bytes) : Except PyException Bytes := do
  let jobIdBytes ← fromhex ⟨jobId.data.drop 2⟩
  pure ((encode "submitResult").take 4 ++ jobIdBytes ++ result)

/-- The call data of a method of four UTF-8 bytes or more is its first four bytes, whatever the
parameters. -/
theorem encodeCall_ignores_params (method : String) (long : 4 ≤ (encode method).length)
    (params : List JsonScalar) : encodeCall method params = (encode method).take 4 := by
  unfold encodeCall encode
  rw [List.flatMap_append]
  exact List.take_append_of_le_length long

/-- A vote's call data is `b"vote"`, whatever it votes. -/
theorem encodeCall_ignores_params_vote :
    4 ≤ (encode "vote").length ∧ encodeCall "vote" [.int 1, .bool true] = (encode "vote").take 4 :=
  ⟨by decide, encodeCall_ignores_params "vote" (by decide) _⟩

/-- A job submission and a result submission of the same hex string and bytes carry the same
data. -/
theorem jobSubmission_eq_resultSubmission (hash : String) (bytes : Bytes) :
    encodeJobSubmission hash bytes = encodeResultSubmission hash bytes :=
  rfl

/-! ## The helper methods -/

/-- What a contract-call helper method does around its nonce read: the checks it makes first,
which give the signer's address, and the builder it signs once `get_nonce` has returned. Every
method's builder holds the nonce that was read. -/
structure HelperCall where
  checks : Except PyException String
  builder : String → Int → Except PyException TransactionBuilder
  builderHoldsNonce : ∀ address nonce builder', builder address nonce = .ok builder' →
    builder'.nonceField = some nonce

/-- `if not self.keypair: raise ValueError(...)`; a keypair is given by its address, the only part
of it read before signing. -/
def requireKeypair (keypair : Option String) : Except PyException String :=
  match keypair with
  | some address => pure address
  | none => throw (.valueError "Keypair required for signing transactions")

/-- `if condition: raise ValueError(message)`. -/
def raiseIf (condition : Prop) [Decidable condition] (message : String) :
    Except PyException Unit :=
  if condition then throw (.valueError message) else pure ()

/-- A method whose call data cannot fail: the call to `contract` with this data and value. -/
def signedCall (checks : Except PyException String) (contract : String) (data : Bytes)
    (value : Int) : HelperCall where
  checks := checks
  builder address nonce := pure (TransactionBuilder.call address contract data nonce value)
  builderHoldsNonce _ _ _ built := by cases built; rfl

/-- A method whose call data is decoded from hex after the nonce read, and may raise. -/
def signedDecodedCall (checks : Except PyException String) (contract : String)
    (data : Except PyException Bytes) (value : Int) : HelperCall where
  checks := checks
  builder address nonce := (TransactionBuilder.call address contract · nonce value) <$> data
  builderHoldsNonce address nonce _ built := by
    cases data with
    | error _ => cases built
    | ok bytes => cases built; rfl

/-- `StakingHelper._encode_call`. -/
def StakingHelper.encodeCall (method : String) (params : List JsonScalar) : Bytes :=
  Rpc.encodeCall method params

/-- `GovernanceHelper._encode_call`. -/
def GovernanceHelper.encodeCall (method : String) (params : List JsonScalar) : Bytes :=
  Rpc.encodeCall method params

/-- `AIJobHelper._encode_call`. -/
def AIJobHelper.encodeCall (method : String) (params : List JsonScalar) : Bytes :=
  Rpc.encodeCall method params

/-- `StakingHelper.register_validator(stake, commission)`. -/
def StakingHelper.registerValidator (keypair : Option String) (stake commission : Int) :
    HelperCall :=
  signedCall
    (do
      let address ← requireKeypair keypair
      raiseIf (commission < 0 ∨ commission > 10000)
        "Commission must be between 0 and 10000 basis points"
      pure address)
    stakingContract (StakingHelper.encodeCall "registerValidator" [.int commission]) stake

/-- `StakingHelper.delegate(validator, amount)`. -/
def StakingHelper.delegate (keypair : Option String) (validator : String) (amount : Int) :
    HelperCall :=
  signedCall (requireKeypair keypair) stakingContract
    (StakingHelper.encodeCall "delegate" [.str validator]) amount

/-- `StakingHelper.undelegate(validator, amount)`: the amount is a parameter, the value `0`. -/
def StakingHelper.undelegate (keypair : Option String) (validator : String) (amount : Int) :
    HelperCall :=
  signedCall (requireKeypair keypair) stakingContract
    (StakingHelper.encodeCall "undelegate" [.str validator, .int amount]) 0

/-- `StakingHelper.claim_rewards()`. -/
def StakingHelper.claimRewards (keypair : Option String) : HelperCall :=
  signedCall (requireKeypair keypair) stakingContract (StakingHelper.encodeCall "claimRewards" []) 0

/-- `GovernanceHelper.create_proposal(title, description, duration)`; lengths count code points. -/
def GovernanceHelper.createProposal (keypair : Option String) (title description : String)
    (duration : Int) : HelperCall :=
  signedCall
    (do
      let address ← requireKeypair keypair
      raiseIf (¬(1 ≤ title.length ∧ title.length ≤ 256))
        "Title must be between 1 and 256 characters"
      raiseIf (¬(1 ≤ description.length ∧ description.length ≤ 10000))
        "Description must be between 1 and 10000 characters"
      pure address)
    governanceContract
    (GovernanceHelper.encodeCall "createProposal" [.str title, .str description, .int duration]) 0

/-- `GovernanceHelper.vote(proposal_id, support)`. -/
def GovernanceHelper.vote (keypair : Option String) (proposalId : Int) (support : Bool) :
    HelperCall :=
  signedCall (requireKeypair keypair) governanceContract
    (GovernanceHelper.encodeCall "vote" [.int proposalId, .bool support]) 0

/-- `GovernanceHelper.execute_proposal(proposal_id)`, with the status `get_proposal` read, `none`
when the proposal was not found. -/
def GovernanceHelper.executeProposal (keypair : Option String) (proposalId : Int)
    (proposalStatus : Option String) : HelperCall :=
  signedCall
    (do
      let address ← requireKeypair keypair
      let some status := proposalStatus | throw (.valueError "Proposal not found")
      raiseIf (status ≠ "passed") "Proposal must be in passed state"
      pure address)
    governanceContract (GovernanceHelper.encodeCall "executeProposal" [.int proposalId]) 0

/-- `AIJobHelper.submit_job(model_hash, input_data, aic_amount)`. -/
def AIJobHelper.submitJob (keypair : Option String) (modelHash : String) (inputData : Bytes)
    (aicAmount : Int) : HelperCall :=
  signedDecodedCall
    (do
      let address ← requireKeypair keypair
      raiseIf (aicAmount ≤ 0) "AIC amount must be positive"
      pure address)
    jobEscrowContract (encodeJobSubmission modelHash inputData) aicAmount

/-- `AIJobHelper.accept_job(job_id)`. -/
def AIJobHelper.acceptJob (keypair : Option String) (jobId : String) : HelperCall :=
  signedCall (requireKeypair keypair) jobEscrowContract
    (AIJobHelper.encodeCall "acceptJob" [.str jobId]) 0

/-- `AIJobHelper.submit_result(job_id, result, vcr)`; the receipt is not read. -/
def AIJobHelper.submitResult (keypair : Option String) (jobId : String) (result : Bytes) :
    HelperCall :=
  signedDecodedCall (requireKeypair keypair) jobEscrowContract (encodeResultSubmission jobId result) 0

/-- `AIJobHelper.challenge_result(job_id, challenge_stake)`. -/
def AIJobHelper.challengeResult (keypair : Option String) (jobId : String) (challengeStake : Int) :
    HelperCall :=
  signedCall
    (do
      let address ← requireKeypair keypair
      raiseIf (challengeStake ≤ 0) "Challenge stake must be positive"
      pure address)
    jobEscrowContract (AIJobHelper.encodeCall "challengeResult" [.str jobId]) challengeStake

/-- `AIJobHelper.claim_payment(job_id)`. -/
def AIJobHelper.claimPayment (keypair : Option String) (jobId : String) : HelperCall :=
  signedCall (requireKeypair keypair) jobEscrowContract
    (AIJobHelper.encodeCall "claimPayment" [.str jobId]) 0

/-- A vote for and a vote against the same proposal build the same transaction to sign, as do
delegations of the same amount to two validators; a job submission and a result submission of the
same hex and bytes carry the same data. -/
theorem helper_calls_sign_same_builder :
    (GovernanceHelper.vote (some "0xabc") 1 true).builder "0xabc" 0 =
      (GovernanceHelper.vote (some "0xabc") 1 false).builder "0xabc" 0 ∧
    (StakingHelper.delegate (some "0xabc") "0x01" 5).builder "0xabc" 0 =
      (StakingHelper.delegate (some "0xabc") "0x02" 5).builder "0xabc" 0 ∧
    encodeJobSubmission "0x01" [2] = encodeResultSubmission "0x01" [2] :=
  ⟨rfl, rfl, jobSubmission_eq_resultSubmission "0x01" [2]⟩

end Aether.Rpc
