import Aether.Sdk.Builders

/-!
# The `aether_sdk` client

`AetherClient` holds an endpoint, normalised once by `__post_init__`, and a `ClientConfig`. It
hands out builders (`transfer`, `job`), acknowledges a transaction by its hash (`submit`), and
describes the HTTP request of a job (`prepare_job_submission`).

A job reaches that request along two paths: `JobBuilder.to_submission`, which builds the job and
posts it to the endpoint the builder was made with, and `prepare_job_submission` on the built job,
which posts it to the client's. The client strips trailing slashes from its endpoint and
`JobBuilder.__init__` strips them again; `job_submission_paths_agree` says the two paths give the
same submission, at the endpoint with all its trailing slashes removed, because stripping them a
second time strips nothing (`rstrip_rstrip`).
-/

namespace Aether.Sdk

open Aether

/-- `_normalize_endpoint(endpoint)`: an empty endpoint is refused, trailing slashes dropped. -/
def normalizeEndpoint (endpoint : String) : Except PyException String :=
  if endpoint = "" then throw (.valueError "endpoint must be provided")
  else pure (rstrip endpoint ['/'])

/-- `SubmitResponse`. -/
structure SubmitResponse where
  txHash : String
  accepted : Bool
  deriving DecidableEq, Repr

/-- An `AetherClient` after `__post_init__`: its normalised endpoint and its configuration. -/
structure AetherClient where
  endpoint : String
  config : ClientConfig
  deriving DecidableEq, Repr

namespace AetherClient

/-- `AetherClient(endpoint, config)`: the dataclass fields, then `__post_init__`. -/
def new (endpoint : String) (config : ClientConfig) : Except PyException AetherClient := do
  let endpoint ← normalizeEndpoint endpoint
  pure { endpoint, config }

/-- `AetherClient.transfer()`. -/
def transfer (client : AetherClient) : TransferBuilder :=
  TransferBuilder.new client.config

/-- `AetherClient.job()`. -/
def job (client : AetherClient) : JobBuilder :=
  JobBuilder.new client.endpoint

/-- `AetherClient.submit(transaction)`, for a given SHA-256; it reads nothing of the client. -/
def submit (sha256 : Bytes → Bytes) (transaction : Transaction) : SubmitResponse :=
  { txHash := transaction.hash sha256, accepted := true }

/-- `AetherClient.prepare_job_submission(job)`. -/
def prepareJobSubmission (client : AetherClient) (job : JobRequest) : JobSubmission :=
  { url := ⟨client.endpoint.data ++ "/v1/jobs".data⟩, method := "POST",
    headers := [("content-type", "application/json")], body := job }

/-- The client accepts exactly the non-empty endpoints, and holds the endpoint it was given with
its trailing slashes stripped. -/
theorem new_eq_ok {endpoint : String} {config : ClientConfig} {client : AetherClient} :
    new endpoint config = .ok client ↔
      endpoint ≠ "" ∧ client = { endpoint := rstrip endpoint ['/'], config } := by
  unfold new normalizeEndpoint
  split
  · exact ⟨nofun, fun accepted => absurd ‹_› accepted.1⟩
  · exact ⟨fun accepted => ⟨‹_›, (Except.ok.inj accepted).symm⟩, fun accepted => accepted.2 ▸ rfl⟩

/-- A client holds the endpoint it was given, its trailing slashes stripped. -/
theorem new_endpoint {endpoint : String} {config : ClientConfig} {client : AetherClient}
    (accepted : new endpoint config = .ok client) : client.endpoint = rstrip endpoint ['/'] := by
  rw [(new_eq_ok.mp accepted).2]

/-- `job()` hands the builder the client's endpoint unchanged: `JobBuilder.__init__` strips
trailing slashes from an endpoint that has none left. -/
theorem job_endpoint {endpoint : String} {config : ClientConfig} {client : AetherClient}
    (accepted : new endpoint config = .ok client) : client.job.endpoint = client.endpoint := by
  show rstrip client.endpoint ['/'] = client.endpoint
  rw [new_endpoint accepted, rstrip_rstrip]

end AetherClient

/-- For any endpoint the client accepts and any builder `client.job()` leads to through setter
calls, exceptions caught, on which `build` returns: `to_submission` gives what
`prepare_job_submission` gives for the built job, and its URL is the endpoint with all its
trailing slashes removed, followed by `/v1/jobs`, however many trailing slashes it had. -/
theorem job_submission_paths_agree (endpoint : String) (config : ClientConfig)
    (client : AetherClient) (accepted : AetherClient.new endpoint config = .ok client)
    (calls : List JobBuilder.Call) (request : JobRequest)
    (built : (runCaught JobBuilder.applyCall client.job calls).build = .ok request) :
    (runCaught JobBuilder.applyCall client.job calls).toSubmission =
        .ok (client.prepareJobSubmission request) ∧
      ∀ base slashes, endpoint.data = base ++ List.replicate slashes '/' →
        base.getLast? ≠ some '/' →
        (client.prepareJobSubmission request).url = ⟨base ++ "/v1/jobs".data⟩ := by
  refine ⟨?_, fun base slashes split noSlash => ?_⟩
  · rw [JobBuilder.toSubmission_eq_ok built, JobBuilder.endpoint_runCaught,
      AetherClient.job_endpoint accepted]
    rfl
  · have stripped : rstrip endpoint ['/'] = ⟨base⟩ := by
      rw [show endpoint = ⟨base ++ List.replicate slashes '/'⟩ from String.ext split]
      exact rstrip_append (fun c member => by simp [List.eq_of_mem_replicate member])
        fun c last slash => noSlash (by simpa [List.mem_singleton.mp slash] using last)
    simp only [AetherClient.prepareJobSubmission, AetherClient.new_endpoint accepted, stripped]

/-- An accepted endpoint, normalised and given to the client again, gives the same client, unless
it was slashes only: such an endpoint is accepted and normalised to the empty string, which the
client refuses. -/
theorem normalized_endpoint_accepted_again (endpoint : String) (config : ClientConfig)
    (client : AetherClient) (accepted : AetherClient.new endpoint config = .ok client) :
    AetherClient.new client.endpoint config =
      if ∀ c ∈ endpoint.data, c = '/' then .error (.valueError "endpoint must be provided")
      else .ok client := by
  obtain ⟨-, rfl⟩ := AetherClient.new_eq_ok.mp accepted
  by_cases slashes : ∀ c ∈ endpoint.data, c = '/'
  · have emptied : rstrip endpoint ['/'] = "" := (rstrip_eq_empty_iff _ _).mpr (by simpa using slashes)
    rw [if_pos slashes, emptied]
    rfl
  · rw [if_neg slashes, AetherClient.new_eq_ok, rstrip_rstrip]
    exact ⟨fun emptied => slashes (by simpa using (rstrip_eq_empty_iff _ _).mp emptied), rfl⟩

/-- An endpoint of slashes only: accepted, and normalised to one the client refuses. -/
theorem normalized_endpoint_accepted_again_slashes :
    let client : AetherClient := { endpoint := "", config := {} }
    AetherClient.new "///" {} = .ok client ∧
      AetherClient.new client.endpoint {} =
        if ∀ c ∈ "///".data, c = '/' then .error (.valueError "endpoint must be provided")
        else .ok client :=
  ⟨rfl, normalized_endpoint_accepted_again "///" {} _ rfl⟩

/-- The hello-job flow of the SDK's tests, on an endpoint with two trailing slashes. -/
theorem job_submission_paths_agree_hello :
    let client : AetherClient := { endpoint := "https://rpc.aether.local", config := {} }
    let calls : List JobBuilder.Call := [.id "hello-aic-job", .model "0x12", .input "0xab",
      .maxFee 500000000, .expiresAt 4600 1000]
    let request : JobRequest :=
      { jobId := "hello-aic-job", modelHash := "0x12", inputHash := "0xab", maxFee := 500000000,
        expiresAt := 4600 }
    AetherClient.new "https://rpc.aether.local//" {} = .ok client ∧
      (runCaught JobBuilder.applyCall client.job calls).build = .ok request ∧
      (runCaught JobBuilder.applyCall client.job calls).toSubmission =
          .ok (client.prepareJobSubmission request) ∧
        ∀ base slashes, "https://rpc.aether.local//".data = base ++ List.replicate slashes '/' →
          base.getLast? ≠ some '/' →
          (client.prepareJobSubmission request).url = ⟨base ++ "/v1/jobs".data⟩ := by
  intro client calls request
  exact ⟨rfl, rfl,
    job_submission_paths_agree "https://rpc.aether.local//" {} client rfl calls request rfl⟩

end Aether.Sdk
