/-
The vLLM backend: what `submit_batch` does with a batch, for any behaviour of the HTTP client.

A call of the client returns a response or raises, and reading a response's body may raise too: the client's answers are
the argument of the call, one for each request it makes, so the requests' own contents do not matter and are left out.

One assignment that asks for a stream makes the backend acknowledge the whole batch and execute none of it.
- `executeAll_executed`: a batch that runs through the loop to its end has executed every assignment;
- `accepted_executes_iff`: an accepted batch has executed its non-streaming assignments exactly when it is not mixed;
- `mixed_batch_deferred`: a mixed batch, accepted with nothing executed.
-/
import InferencePlatform.Adapter.Registry

namespace InferencePlatform.Adapter

open InferencePlatform.Core (Dict)

/-! ## Configuration and results -/

structure VLLMBackendConfig where
  backendId : String := "vllm"
  defaultModel : String := ""
  supportedModels : List String := []
  maxBatchSize : ℕ := 8
  /-- as it is printed -/
  requestTimeoutSeconds : String := "120.0"
  deriving DecidableEq, Repr

inductive RequestExecutionStatus
  | submitted | acknowledged | completed | cancelled | failed | unknown
  deriving DecidableEq, Repr

structure RequestCompletionResult where
  requestId : UUID
  backendId : String
  generatedText : String
  promptTokens : ℤ
  completionTokens : ℤ
  totalTokens : ℤ
  finishReason : Option String
  completedAt : Time
  executionDurationMs : ℚ
  status : RequestExecutionStatus
  deriving DecidableEq, Repr

structure BatchSubmitResult where
  batchId : UUID
  backendId : String
  accepted : Bool
  reason : String
  submittedAt : Time
  completions : List RequestCompletionResult := []
  deriving DecidableEq, Repr

inductive BackendError
  | unavailable (message : String)
  | timeout (message : String)
  | internalFailure (message : String)
  /-- any other exception -/
  | raised (message : String)
  deriving DecidableEq, Repr

/-! ## The HTTP client -/

/-- a timeout is one of the request errors -/
inductive ClientError
  | timeout (message : String)
  | request (message : String)
  | raised (message : String)
  deriving DecidableEq, Repr

/-- a response's status and what reading its body comes to -/
structure Response (α : Type) where
  statusCode : ℕ
  body : Except String α

/-- the fields of a chat completion that the backend reads; what is missing is `none` -/
structure ChatBody where
  content : Option String
  finishReason : Option String
  promptTokens : Option ℤ
  completionTokens : Option ℤ
  totalTokens : Option ℤ
  deriving DecidableEq, Repr

/-- the answer to a POST, with the clock when it has been read and the time it took -/
structure ChatReply where
  response : Except ClientError (Response ChatBody)
  completedAt : Time
  durationMs : ℚ

/-- the client's answers in one call of the backend: the chat completions are numbered -/
structure HttpClient where
  health : Except ClientError (Response Unit)
  models : Except ClientError (Response (List String))
  chat : ℕ → ChatReply

/-! ## The backend -/

structure VLLMBackend where
  requestStatus : Dict UUID RequestExecutionStatus
  completions : Dict UUID RequestCompletionResult
  lastHealth : Option HealthCheckResult
  loadedModels : List String

def VLLMBackend.init : VLLMBackend := ⟨Dict.empty, Dict.empty, none, []⟩

abbrev VLLMM := EStateM BackendError VLLMBackend

variable (cfg : VLLMBackendConfig) (client : HttpClient)

/-- a truthy value, or the default -/
def orElse {α : Type} (falsy : α → Bool) (value : Option α) (default : α) : α :=
  match value with
  | some a => if falsy a then default else a
  | none => default

def remember (health : HealthCheckResult) : VLLMM HealthCheckResult := do
  modify fun b => { b with lastHealth := some health }
  return health

/-- the models the server says it has loaded; an answer that cannot be used counts as none -/
def readModels : Except BackendError (List String) :=
  match client.models with
  | .error (.raised message) => .error (.raised message)
  | .error _ => .ok []
  | .ok response =>
    if response.statusCode = 200 then
      match response.body with
      | .ok models => .ok (models.filter fun model => model ≠ "")
      | .error message => .error (.raised message)
    else .ok []

def checkModels (loadedModels : List String) : VLLMM HealthCheckResult := do
  modify fun b => { b with loadedModels }
  let configured :=
    if cfg.supportedModels ≠ [] then cfg.supportedModels else if cfg.defaultModel ≠ "" then [cfg.defaultModel] else []
  if configured ≠ [] ∧ loadedModels ≠ [] then
    if configured.any (· ∈ loadedModels) then remember ⟨true, .healthy, some "model loaded"⟩
    else remember ⟨false, .degraded, some "vllm reachable but configured model not loaded"⟩
  else remember ⟨true, .healthy, some "vllm reachable"⟩

def healthCheck : VLLMM HealthCheckResult := do
  match client.health with
  | .error (.raised message) => throw (.raised message)
  | .error (.timeout message) | .error (.request message) => remember ⟨false, .unavailable, some message⟩
  | .ok response =>
    if 500 ≤ response.statusCode then
      remember ⟨false, .unavailable, some s!"health endpoint returned {response.statusCode}"⟩
    else
      match readModels client with
      | .error err => throw err
      | .ok loadedModels => checkModels cfg loadedModels

/-- `_execute_request`, the client's request number `i` -/
def executeRequest (i : ℕ) (requestId : UUID) : Except BackendError RequestCompletionResult :=
  let reply := client.chat i
  match reply.response with
  | .error (.timeout _) => .error (.timeout s!"vllm request timed out after {cfg.requestTimeoutSeconds}s")
  | .error (.request message) => .error (.unavailable s!"vllm request failed: {message}")
  | .error (.raised message) => .error (.raised message)
  | .ok response =>
    if 500 ≤ response.statusCode then .error (.internalFailure s!"vllm server error: {response.statusCode}")
    else if 400 ≤ response.statusCode then
      .ok { requestId, backendId := cfg.backendId, generatedText := "", promptTokens := 0, completionTokens := 0
            totalTokens := 0, finishReason := some "error", completedAt := reply.completedAt
            executionDurationMs := reply.durationMs, status := .failed }
    else
      match response.body with
      | .error message => .error (.raised message)
      | .ok body =>
        let promptTokens := body.promptTokens.getD 0
        let completionTokens := body.completionTokens.getD 0
        .ok { requestId, backendId := cfg.backendId, generatedText := body.content.getD "",
              promptTokens, completionTokens
              totalTokens := orElse (· = 0) body.totalTokens (promptTokens + completionTokens)
              finishReason := body.finishReason, completedAt := reply.completedAt
              executionDurationMs := reply.durationMs, status := .completed }

def submitResult (batch : DispatchBatch) (now : Time) (accepted : Bool) (reason : String)
    (completions : List RequestCompletionResult := []) : BatchSubmitResult :=
  { batchId := batch.batchId, backendId := cfg.backendId, accepted, reason, submittedAt := now, completions }

/-- the loop over the assignments: a failed one ends it -/
def executeAll (batch : DispatchBatch) (now : Time) :
    ℕ → List BatchAssignment → List RequestCompletionResult → VLLMM BatchSubmitResult
  | _, [], completions => return submitResult cfg batch now true "vllm_completed" completions
  | i, a :: rest, completions =>
    match executeRequest cfg client i a.requestId with
    | .error err => throw err
    | .ok completion =>
      if completion.status = .completed then do
        modify fun b =>
          { b with
            requestStatus := b.requestStatus.set a.requestId .completed
            completions := b.completions.set a.requestId completion }
        executeAll batch now (i + 1) rest (completions ++ [completion])
      else do
        modify fun b => { b with requestStatus := b.requestStatus.set a.requestId .failed }
        return submitResult cfg batch now false "inference_execution_failed" (completions ++ [completion])

/-- every request of the batch is ACKNOWLEDGED -/
def VLLMBackend.acknowledge (b : VLLMBackend) (assignments : List BatchAssignment) : VLLMBackend :=
  { b with requestStatus := assignments.foldl (fun status a => status.set a.requestId .acknowledged) b.requestStatus }

def submitBatch (batch : DispatchBatch) (now : Time) : VLLMM BatchSubmitResult := do
  if batch.model ∉ cfg.supportedModels ∧ cfg.supportedModels ≠ [] then
    return submitResult cfg batch now false "unsupported_model"
  else if cfg.maxBatchSize < batch.assignments.length then
    return submitResult cfg batch now false "batch_too_large"
  else
    let health ← healthCheck cfg client
    if health.state = .unavailable then
      throw (.unavailable (orElse (· = "") health.message "vllm unavailable"))
    else if health.state = .degraded ∧ batch.model ∉ (← get).loadedModels then
      return submitResult cfg batch now false "model_not_loaded"
    else if batch.assignments.any fun a => a.inferenceRequest.stream then
      modify fun b => b.acknowledge batch.assignments
      return submitResult cfg batch now true "vllm_stream_deferred"
    else executeAll cfg client batch now 0 batch.assignments []

def VLLMBackend.getRequestStatus (b : VLLMBackend) (requestId : UUID) : RequestExecutionStatus :=
  (b.requestStatus.get? requestId).getD .unknown

def VLLMBackend.getRequestCompletion (b : VLLMBackend) (requestId : UUID) : Option RequestCompletionResult :=
  b.completions.get? requestId

/-! ## Execution -/

variable {cfg client} {b b' : VLLMBackend} {batch : DispatchBatch} {now : Time} {result : BatchSubmitResult} {r : UUID}

/-- the request is COMPLETED, and its completion is there to be handed over -/
def Executed (b : VLLMBackend) (r : UUID) : Prop :=
  b.getRequestStatus r = .completed ∧ ∃ completion, b.getRequestCompletion r = some completion

/-- some assignments ask for a stream and some do not -/
def Mixed (batch : DispatchBatch) : Prop :=
  (∃ a ∈ batch.assignments, a.inferenceRequest.stream = true) ∧
    ∃ a ∈ batch.assignments, a.inferenceRequest.stream = false

instance : Decidable (Mixed batch) := inferInstanceAs (Decidable (_ ∧ _))

/-- the backend after a successful execution -/
def VLLMBackend.complete (b : VLLMBackend) (r : UUID) (completion : RequestCompletionResult) : VLLMBackend :=
  { b with requestStatus := b.requestStatus.set r .completed, completions := b.completions.set r completion }

theorem executed_complete (b : VLLMBackend) (r : UUID) (completion : RequestCompletionResult) :
    Executed (b.complete r completion) r := by
  refine ⟨?_, completion, Dict.get?_set_self _ _ _⟩
  simp [VLLMBackend.getRequestStatus, VLLMBackend.complete]

theorem Executed.complete (h : Executed b r) (r' : UUID) (completion : RequestCompletionResult) :
    Executed (b.complete r' completion) r := by
  by_cases heq : r = r'
  · rw [heq]
    exact executed_complete b r' completion
  · obtain ⟨hstatus, stored, hstored⟩ := h
    refine ⟨?_, stored, (Dict.get?_set_ne _ _ heq).trans hstored⟩
    unfold VLLMBackend.getRequestStatus VLLMBackend.complete
    rw [Dict.get?_set_ne _ _ heq]
    exact hstatus

variable (cfg client batch now) in
/-- the loop, one assignment at a time -/
theorem executeAll_cons (i : ℕ) (a : BatchAssignment) (rest : List BatchAssignment)
    (completions : List RequestCompletionResult) (b : VLLMBackend) :
    (∃ err, EStateM.run (executeAll cfg client batch now i (a :: rest) completions) b = .error err b) ∨
    (∃ result b', result.accepted = false ∧
      EStateM.run (executeAll cfg client batch now i (a :: rest) completions) b = .ok result b') ∨
    ∃ completion, EStateM.run (executeAll cfg client batch now i (a :: rest) completions) b =
      EStateM.run (executeAll cfg client batch now (i + 1) rest (completions ++ [completion]))
        (b.complete a.requestId completion) := by
  rw [executeAll]
  cases executeRequest cfg client i a.requestId with
  | error err => exact Or.inl ⟨err, rfl⟩
  | ok completion =>
    by_cases hstatus : completion.status = .completed
    · refine Or.inr (Or.inr ⟨completion, ?_⟩)
      simp only [if_pos hstatus, EStateM.run_bind, EStateM.run_modify]
      rfl
    · refine Or.inr
        (Or.inl ⟨submitResult cfg batch now false "inference_execution_failed" (completions ++ [completion]),
        { b with requestStatus := b.requestStatus.set a.requestId .failed }, rfl, ?_⟩)
      simp only [if_neg hstatus, EStateM.run_bind, EStateM.run_modify, EStateM.run_pure]

theorem executeAll_executed {i : ℕ} {assignments : List BatchAssignment} {completions : List RequestCompletionResult}
    (hrun : EStateM.run (executeAll cfg client batch now i assignments completions) b = .ok result b')
    (haccepted : result.accepted = true) :
    (∀ r, Executed b r → Executed b' r) ∧ ∀ a ∈ assignments, Executed b' a.requestId := by
  induction assignments generalizing b i completions with
  | nil =>
    cases hrun
    exact ⟨fun r h => h, fun a ha => by simp at ha⟩
  | cons a rest ih =>
    rcases executeAll_cons cfg client batch now i a rest completions b with
      ⟨err, hraise⟩ | ⟨result', b'', hrejected, hreturn⟩ | ⟨completion, hnext⟩
    · rw [hraise] at hrun
      cases hrun
    · rw [hreturn] at hrun
      cases hrun
      simp [hrejected] at haccepted
    · rw [hnext] at hrun
      obtain ⟨hkept, hrest⟩ := ih hrun
      refine ⟨fun r h => hkept r (h.complete a.requestId completion), fun a' ha' => ?_⟩
      rcases List.mem_cons.1 ha' with rfl | ha'
      · exact hkept _ (executed_complete b _ completion)
      · exact hrest a' ha'

theorem status_acknowledge {assignments : List BatchAssignment} {a : BatchAssignment} (ha : a ∈ assignments)
    (b : VLLMBackend) : (b.acknowledge assignments).getRequestStatus a.requestId = .acknowledged := by
  have key : ∀ status : Dict UUID RequestExecutionStatus,
      (a ∈ assignments ∨ status.get? a.requestId = some .acknowledged) →
      (assignments.foldl (fun status a => status.set a.requestId .acknowledged) status).get? a.requestId =
        some .acknowledged := by
    clear ha
    induction assignments with
    | nil => intro status h; exact h.resolve_left (by simp)
    | cons first rest ih =>
      intro status h
      refine ih _ ?_
      rw [Dict.get?_set]
      by_cases heq : a.requestId = first.requestId
      · exact Or.inr (if_pos heq)
      · rw [if_neg heq]
        refine h.imp (fun hmem => (List.mem_cons.1 hmem).resolve_left ?_) id
        intro hfirst
        exact heq (hfirst ▸ rfl)
  unfold VLLMBackend.getRequestStatus VLLMBackend.acknowledge
  rw [key b.requestStatus (Or.inl ha)]
  rfl

/-- an accepted batch was either acknowledged for its streams, or run through the loop -/
theorem submitBatch_accepted (hrun : EStateM.run (submitBatch cfg client batch now) b = .ok result b')
    (haccepted : result.accepted = true) :
    ((∃ a ∈ batch.assignments, a.inferenceRequest.stream = true) ∧
      ∃ b₁ : VLLMBackend, b' = b₁.acknowledge batch.assignments) ∨
    (∀ a ∈ batch.assignments, a.inferenceRequest.stream = false) ∧
      ∃ b₁, EStateM.run (executeAll cfg client batch now 0 batch.assignments []) b₁ = .ok result b' := by
  unfold submitBatch at hrun
  split at hrun
  · cases hrun
    cases haccepted
  split at hrun
  · cases hrun
    cases haccepted
  rw [EStateM.run_bind] at hrun
  cases hhealth : EStateM.run (healthCheck cfg client) b with
  | error err b₁ =>
    rw [hhealth] at hrun
    cases hrun
  | ok health b₁ =>
    simp only [hhealth] at hrun
    split at hrun
    · cases hrun
    simp only [EStateM.run_bind, EStateM.run_get] at hrun
    split at hrun
    · cases hrun
      cases haccepted
    by_cases hstream : (batch.assignments.any fun a => a.inferenceRequest.stream) = true
    · rw [if_pos hstream] at hrun
      cases hrun
      exact Or.inl ⟨by simpa using hstream, b₁, rfl⟩
    · rw [if_neg hstream] at hrun
      exact Or.inr ⟨by simpa using hstream, b₁, hrun⟩

/-- **When an accepted batch has been executed.** The backend has executed every assignment of an accepted batch that
asks for no stream exactly when the batch is not mixed. -/
theorem accepted_executes_iff (hrun : EStateM.run (submitBatch cfg client batch now) b = .ok result b')
    (haccepted : result.accepted = true) :
    (∀ a ∈ batch.assignments, a.inferenceRequest.stream = false → Executed b' a.requestId) ↔ ¬Mixed batch := by
  rcases submitBatch_accepted hrun haccepted with ⟨hstream, b₁, rfl⟩ | ⟨hplain, b₁, hloop⟩
  · constructor
    · intro hall hmixed
      obtain ⟨-, a, ha, hno⟩ := hmixed
      have hstatus := status_acknowledge ha b₁
      rw [(hall a ha hno).1] at hstatus
      cases hstatus
    · intro hmixed a ha hno
      exact absurd ⟨hstream, a, ha, hno⟩ hmixed
  · constructor
    · intro _ hmixed
      obtain ⟨⟨a, ha, hyes⟩, -⟩ := hmixed
      rw [hplain a ha] at hyes
      cases hyes
    · intro _ a ha _
      exact (executeAll_executed hloop haccepted).2 a ha

/-! ## Runs -/

/-- a server that is up, with no list of models, and answers every chat completion -/
def sampleClient : HttpClient where
  health := .ok ⟨200, .ok ()⟩
  models := .ok ⟨404, .ok []⟩
  chat _ := ⟨.ok ⟨200, .ok ⟨some "hello", some "stop", some 3, some 1, some 4⟩⟩, 5, 1⟩

def sampleAssignment (requestId slotIndex : ℕ) (stream : Bool) : BatchAssignment :=
  ⟨requestId, slotIndex, ⟨requestId, "m", [], stream, 16, none⟩⟩

def sampleBatch (streams : Bool) : DispatchBatch :=
  ⟨7, "m", "vllm", [sampleAssignment 1 0 false, sampleAssignment 2 1 streams], 0⟩

def sampleCompletion (requestId : UUID) : RequestCompletionResult :=
  ⟨requestId, "vllm", "hello", 3, 1, 4, some "stop", 5, 1, .completed⟩

def checkedBackend : VLLMBackend := { VLLMBackend.init with lastHealth := some ⟨true, .healthy, some "vllm reachable"⟩ }

/-- both requests of a batch without streams are executed -/
theorem accepted_executes_plain : ∃ result b',
    EStateM.run (submitBatch {} sampleClient (sampleBatch false) 0) .init = .ok result b' ∧ result.accepted = true ∧
      ((∀ a ∈ (sampleBatch false).assignments, a.inferenceRequest.stream = false → Executed b' a.requestId) ↔
        ¬Mixed (sampleBatch false)) := by
  have hrun : EStateM.run (submitBatch {} sampleClient (sampleBatch false) 0) .init =
      .ok (submitResult {} (sampleBatch false) 0 true "vllm_completed" [sampleCompletion 1, sampleCompletion 2])
        ((checkedBackend.complete 1 (sampleCompletion 1)).complete 2 (sampleCompletion 2)) := rfl
  exact ⟨_, _, hrun, rfl, accepted_executes_iff hrun rfl⟩

/-- the second request asks for a stream: the batch is accepted, and the first request is not executed and has no
completion -/
theorem mixed_batch_deferred :
    ∃ result b', EStateM.run (submitBatch {} sampleClient (sampleBatch true) 0) .init = .ok result b' ∧
      result.accepted = true ∧ result.reason = "vllm_stream_deferred" ∧
      (¬∀ a ∈ (sampleBatch true).assignments, a.inferenceRequest.stream = false → Executed b' a.requestId) ∧
      b'.getRequestCompletion 1 = none := by
  refine ⟨_, _, rfl, rfl, rfl, fun hall => ?_, rfl⟩
  obtain ⟨hstatus, -⟩ := hall (sampleAssignment 1 0 false) List.mem_cons_self rfl
  cases hstatus

end InferencePlatform.Adapter
