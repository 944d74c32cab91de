/-
A batch of which some requests are executed and a later one fails.

The vLLM backend executes the assignments of a batch one after the other and stores each completion as it arrives. An
answer that ends the batch does not take the earlier ones back: they stay COMPLETED, and the batch is refused.

- `healthCheck_run`: a health check touches neither statuses nor completions, and what it finds does not depend on the
  backend;
- `executeAll_stops`, `executeAll_refused`, `executeAll_accepts`: the loop over the assignments, by the server's
  answers;
- `all_or_nothing_iff`: a refused batch leaves nothing executed behind, whatever the backend was, exactly when the
  server does not answer the first request well and a later one badly.
-/
import InferencePlatform.Adapter.Vllm

namespace InferencePlatform.Adapter

open InferencePlatform.Core (Dict)

variable {cfg : VLLMBackendConfig} {client : HttpClient} {batch : DispatchBatch} {now : Time} {b : VLLMBackend}

/-! ## The property -/

/-- the backend after a call, whether it returns or raises -/
def leftBy (x : VLLMM BatchSubmitResult) (b : VLLMBackend) : VLLMBackend :=
  match EStateM.run x b with
  | .ok _ b' => b'
  | .error _ b' => b'

/-- the call returns a result that is not accepted, or raises -/
def Refused (x : VLLMM BatchSubmitResult) (b : VLLMBackend) : Prop :=
  ∀ result b', EStateM.run x b = .ok result b' → result.accepted = false

/-- no request of the batch is COMPLETED or has a completion that was not, or had none, before -/
structure NothingDone (batch : DispatchBatch) (b b' : VLLMBackend) : Prop where
  status : ∀ a ∈ batch.assignments,
    b'.getRequestStatus a.requestId = .completed → b.getRequestStatus a.requestId = .completed
  completion : ∀ a ∈ batch.assignments, ∀ c,
    b'.getRequestCompletion a.requestId = some c → b.getRequestCompletion a.requestId = some c

def AllOrNothing (cfg : VLLMBackendConfig) (client : HttpClient) (batch : DispatchBatch) (now : Time)
    (b : VLLMBackend) :
    Prop :=
  Refused (submitBatch cfg client batch now) b → NothingDone batch b (leftBy (submitBatch cfg client batch now) b)

theorem refused_congr {x y : VLLMM BatchSubmitResult} {b₁ : VLLMBackend} (h : EStateM.run x b = EStateM.run y b₁) :
    (Refused x b ↔ Refused y b₁) ∧ leftBy x b = leftBy y b₁ := by
  unfold Refused leftBy
  rw [h]
  exact ⟨Iff.rfl, rfl⟩

/-! ## The condition -/

/-- an answer that counts as an execution -/
def Succeeds (reply : ChatReply) : Prop :=
  ∃ response, reply.response = .ok response ∧ response.statusCode < 400 ∧ ∃ body, response.body = .ok body

/-- the batch gets as far as the execution of its assignments -/
structure Proceeds (cfg : VLLMBackendConfig) (client : HttpClient) (batch : DispatchBatch) : Prop where
  supported : batch.model ∈ cfg.supportedModels ∨ cfg.supportedModels = []
  size : batch.assignments.length ≤ cfg.maxBatchSize
  healthy : ∃ health b', EStateM.run (healthCheck cfg client) .init = .ok health b' ∧ health.state ≠ .unavailable ∧
    (health.state = .degraded → batch.model ∈ b'.loadedModels)
  plain : ∀ a ∈ batch.assignments, a.inferenceRequest.stream = false

/-- the server answers the first request well and some other one badly -/
structure PartialFailure (cfg : VLLMBackendConfig) (client : HttpClient) (batch : DispatchBatch) : Prop where
  proceeds : Proceeds cfg client batch
  first : Succeeds (client.chat 0)
  later : ∃ i < batch.assignments.length, ¬Succeeds (client.chat i)

/-! ## The health check -/

theorem checkModels_run (cfg : VLLMBackendConfig) (loaded : List String) : ∃ health, ∀ b,
    EStateM.run (checkModels cfg loaded) b = .ok health
      { b with lastHealth := some health, loadedModels := loaded } := by
  set configured :=
    if cfg.supportedModels ≠ [] then cfg.supportedModels else if cfg.defaultModel ≠ "" then [cfg.defaultModel] else []
    with hconfigured
  by_cases hknown : configured ≠ [] ∧ loaded ≠ []
  · by_cases hloaded : configured.any (· ∈ loaded) = true
    · refine ⟨⟨true, .healthy, some "model loaded"⟩, fun b => ?_⟩
      simp only [checkModels, ← hconfigured, if_pos hknown, if_pos hloaded]
      rfl
    · refine ⟨⟨false, .degraded, some "vllm reachable but configured model not loaded"⟩, fun b => ?_⟩
      simp only [checkModels, ← hconfigured, if_pos hknown, if_neg hloaded]
      rfl
  · refine ⟨⟨true, .healthy, some "vllm reachable"⟩, fun b => ?_⟩
    simp only [checkModels, ← hconfigured, if_neg hknown]
    rfl

/-- what the health check finds, and the models if it got to ask for them -/
theorem healthCheck_run (cfg : VLLMBackendConfig) (client : HttpClient) :
    (∃ err, ∀ b, EStateM.run (healthCheck cfg client) b = .error err b) ∨
    ∃ health loaded, (loaded = none → health.state = .unavailable) ∧ ∀ b, EStateM.run (healthCheck cfg client) b =
      .ok health { b with lastHealth := some health, loadedModels := loaded.getD b.loadedModels } := by
  cases hhealth : client.health with
  | error err =>
    cases err with
    | raised message => exact Or.inl ⟨.raised message, fun b => by simp only [healthCheck, hhealth]; rfl⟩
    | timeout message =>
      exact Or.inr ⟨⟨false, .unavailable, some message⟩, none, fun _ => rfl,
        fun b => by simp only [healthCheck, hhealth]; rfl⟩
    | request message =>
      exact Or.inr ⟨⟨false, .unavailable, some message⟩, none, fun _ => rfl,
        fun b => by simp only [healthCheck, hhealth]; rfl⟩
  | ok response =>
    by_cases hcode : 500 ≤ response.statusCode
    · refine Or.inr ⟨⟨false, .unavailable, some s!"health endpoint returned {response.statusCode}"⟩,
        none, fun _ => rfl, ?_⟩
      intro b
      simp only [healthCheck, hhealth, if_pos hcode]
      rfl
    · cases hmodels : readModels client with
      | error err => exact Or.inl ⟨err, fun b => by simp only [healthCheck, hhealth, if_neg hcode, hmodels]; rfl⟩
      | ok loaded =>
        obtain ⟨health, hcheck⟩ := checkModels_run cfg loaded
        refine Or.inr ⟨health, some loaded, (fun h => nomatch h), fun b => ?_⟩
        simp only [healthCheck, hhealth, if_neg hcode, hmodels]
        exact hcheck b

/-- nothing that a health check writes is about a request -/
structure SameRecords (b b' : VLLMBackend) : Prop where
  status : b'.requestStatus = b.requestStatus
  completions : b'.completions = b.completions

theorem SameRecords.nothingDone {b' : VLLMBackend} (h : SameRecords b b') (batch : DispatchBatch) :
    NothingDone batch b b' := by
  constructor
  · intro a _ hstatus
    rwa [VLLMBackend.getRequestStatus, h.status] at hstatus
  · intro a _ c hcompletion
    rwa [VLLMBackend.getRequestCompletion, h.completions] at hcompletion

/-- a batch that proceeds is run through the loop, from a backend with the same records -/
theorem submitBatch_proceeds (h : Proceeds cfg client batch) (now : Time) (b : VLLMBackend) : ∃ b₁, SameRecords b b₁ ∧
    EStateM.run (submitBatch cfg client batch now) b =
      EStateM.run (executeAll cfg client batch now 0 batch.assignments []) b₁ := by
  obtain ⟨hsupported, hsize, ⟨health, b', hhealth, hup, hloaded⟩, hplain⟩ := h
  rcases healthCheck_run cfg client with ⟨err, hrun⟩ | ⟨health', loaded, hasked, hrun⟩
  · rw [hrun] at hhealth
    cases hhealth
  · rw [hrun] at hhealth
    cases hhealth
    refine ⟨{ b with lastHealth := some health, loadedModels := loaded.getD b.loadedModels }, ⟨rfl, rfl⟩, ?_⟩
    have hmodel : ¬(batch.model ∉ cfg.supportedModels ∧ cfg.supportedModels ≠ []) := by tauto
    have hready : ¬(health.state = .degraded ∧ batch.model ∉ loaded.getD b.loadedModels) := by
      rintro ⟨hdegraded, hmissing⟩
      cases loaded with
      | none => exact hup (hasked rfl)
      | some models => exact hmissing (hloaded hdegraded)
    have hstream : ¬(batch.assignments.any fun a => a.inferenceRequest.stream) = true := by
      simpa using hplain
    simp only [submitBatch, if_neg hmodel, if_neg (not_lt.2 hsize), EStateM.run_bind, hrun, if_neg hup, EStateM.run_get,
      if_neg hready, if_neg hstream]

/-- a batch that does not proceed is refused and leaves the records as they are, or it is accepted for its streams -/
theorem submitBatch_stops (h : ¬Proceeds cfg client batch) (now : Time) (b : VLLMBackend) :
    ¬Refused (submitBatch cfg client batch now) b ∨ SameRecords b (leftBy (submitBatch cfg client batch now) b) := by
  unfold leftBy
  by_cases hmodel : batch.model ∉ cfg.supportedModels ∧ cfg.supportedModels ≠ []
  · simp only [submitBatch, if_pos hmodel, EStateM.run_pure]
    exact Or.inr ⟨rfl, rfl⟩
  by_cases hsize : cfg.maxBatchSize < batch.assignments.length
  · simp only [submitBatch, if_neg hmodel, if_pos hsize, EStateM.run_pure]
    exact Or.inr ⟨rfl, rfl⟩
  rcases healthCheck_run cfg client with ⟨err, hrun⟩ | ⟨health, loaded, hasked, hrun⟩
  · simp only [submitBatch, if_neg hmodel, if_neg hsize, EStateM.run_bind, hrun]
    exact Or.inr ⟨rfl, rfl⟩
  by_cases hup : health.state = .unavailable
  · simp only [submitBatch, if_neg hmodel, if_neg hsize, EStateM.run_bind, hrun, if_pos hup]
    exact Or.inr ⟨rfl, rfl⟩
  by_cases hready : health.state = .degraded ∧ batch.model ∉ loaded.getD b.loadedModels
  · simp only [submitBatch, if_neg hmodel, if_neg hsize, EStateM.run_bind, hrun, if_neg hup, EStateM.run_get,
      if_pos hready, EStateM.run_pure]
    exact Or.inr ⟨rfl, rfl⟩
  by_cases hstream : (batch.assignments.any fun a => a.inferenceRequest.stream) = true
  · left
    intro hrefused
    have haccepted : ∃ b', EStateM.run (submitBatch cfg client batch now) b =
        .ok (submitResult cfg batch now true "vllm_stream_deferred") b' := by
      simp only [submitBatch, if_neg hmodel, if_neg hsize, EStateM.run_bind, hrun, if_neg hup, EStateM.run_get,
        if_neg hready, if_pos hstream]
      exact ⟨_, rfl⟩
    obtain ⟨b', haccepted⟩ := haccepted
    cases hrefused _ b' haccepted
  · refine absurd ⟨by tauto, not_lt.1 hsize,
      ⟨health, _, hrun .init, hup, fun hdegraded => ?_⟩, by simpa using hstream⟩ h
    cases loaded with
    | none => exact absurd (hasked rfl) hup
    | some models =>
      by_contra hmissing
      exact hready ⟨hdegraded, hmissing⟩

/-! ## The loop -/

theorem executeRequest_succeeds (cfg : VLLMBackendConfig) {i : ℕ} (h : Succeeds (client.chat i)) (r : UUID) :
    ∃ completion, executeRequest cfg client i r = .ok completion ∧ completion.status = .completed := by
  obtain ⟨response, hresponse, hcode, body, hbody⟩ := h
  have hserver : ¬500 ≤ response.statusCode := by omega
  have hclient : ¬400 ≤ response.statusCode := by omega
  simp only [executeRequest, hresponse, if_neg hserver, if_neg hclient, hbody]
  exact ⟨_, rfl, rfl⟩

theorem executeRequest_fails (cfg : VLLMBackendConfig) {i : ℕ} (h : ¬Succeeds (client.chat i)) (r : UUID) :
    (∃ err, executeRequest cfg client i r = .error err) ∨
      ∃ completion, executeRequest cfg client i r = .ok completion ∧ completion.status = .failed := by
  unfold executeRequest
  dsimp only
  cases hresponse : (client.chat i).response with
  | error err =>
    cases err with
    | timeout message => exact Or.inl ⟨_, rfl⟩
    | request message => exact Or.inl ⟨_, rfl⟩
    | raised message => exact Or.inl ⟨_, rfl⟩
  | ok response =>
    dsimp only
    by_cases hserver : 500 ≤ response.statusCode
    · rw [if_pos hserver]
      exact Or.inl ⟨_, rfl⟩
    · rw [if_neg hserver]
      by_cases hclient : 400 ≤ response.statusCode
      · rw [if_pos hclient]
        exact Or.inr ⟨_, rfl, rfl⟩
      · rw [if_neg hclient]
        cases hbody : response.body with
        | error message => exact Or.inl ⟨_, rfl⟩
        | ok body => exact absurd ⟨response, hresponse, not_le.1 hclient, body, hbody⟩ h

theorem executeAll_next (cfg : VLLMBackendConfig) (batch : DispatchBatch) (now : Time) {i : ℕ}
    (h : Succeeds (client.chat i)) (a : BatchAssignment) (rest : List BatchAssignment)
    (completions : List RequestCompletionResult) (b : VLLMBackend) : ∃ completion,
    EStateM.run (executeAll cfg client batch now i (a :: rest) completions) b =
      EStateM.run (executeAll cfg client batch now (i + 1) rest (completions ++ [completion]))
        (b.complete a.requestId completion) := by
  obtain ⟨completion, hexecuted, hstatus⟩ := executeRequest_succeeds cfg h a.requestId
  refine ⟨completion, ?_⟩
  simp only [executeAll, hexecuted, if_pos hstatus, EStateM.run_bind, EStateM.run_modify]
  rfl

/-- an answer that is no execution ends the call: at most it marks its request FAILED -/
theorem executeAll_stops (cfg : VLLMBackendConfig) (batch : DispatchBatch) (now : Time) {i : ℕ}
    (h : ¬Succeeds (client.chat i)) (a : BatchAssignment) (rest : List BatchAssignment)
    (completions : List RequestCompletionResult) (b : VLLMBackend) :
    Refused (executeAll cfg client batch now i (a :: rest) completions) b ∧
      ((leftBy (executeAll cfg client batch now i (a :: rest) completions) b).requestStatus = b.requestStatus ∨
        (leftBy (executeAll cfg client batch now i (a :: rest) completions) b).requestStatus =
          b.requestStatus.set a.requestId .failed) ∧
      (leftBy (executeAll cfg client batch now i (a :: rest) completions) b).completions = b.completions := by
  unfold Refused leftBy
  rcases executeRequest_fails cfg h a.requestId with ⟨err, hraised⟩ | ⟨completion, hfailed, hstatus⟩
  · have hrun : EStateM.run (executeAll cfg client batch now i (a :: rest) completions) b = .error err b := by
      simp only [executeAll, hraised]
      rfl
    rw [hrun]
    refine ⟨fun result b' h => ?_, Or.inl rfl, rfl⟩
    cases h
  · have hno : ¬completion.status = .completed := by rw [hstatus]; decide
    have hrun : EStateM.run (executeAll cfg client batch now i (a :: rest) completions) b =
        .ok (submitResult cfg batch now false "inference_execution_failed" (completions ++ [completion]))
          { b with requestStatus := b.requestStatus.set a.requestId .failed } := by
      simp only [executeAll, hfailed, if_neg hno, EStateM.run_bind, EStateM.run_modify, EStateM.run_pure]
    rw [hrun]
    refine ⟨fun result b' h => ?_, Or.inr rfl, rfl⟩
    cases h
    rfl

/-- what has a completion keeps one -/
theorem executeAll_refused (cfg : VLLMBackendConfig) (batch : DispatchBatch) (now : Time) {i : ℕ}
    {assignments : List BatchAssignment} (h : ∃ j < assignments.length, ¬Succeeds (client.chat (i + j)))
    (completions : List RequestCompletionResult) (b : VLLMBackend) :
    Refused (executeAll cfg client batch now i assignments completions) b ∧ ∀ r, (b.completions.get? r).isSome →
      ((leftBy (executeAll cfg client batch now i assignments completions) b).completions.get? r).isSome := by
  induction assignments generalizing i completions b with
  | nil =>
    obtain ⟨j, hj, -⟩ := h
    exact absurd hj (Nat.not_lt_zero j)
  | cons a rest ih =>
    by_cases hfirst : Succeeds (client.chat i)
    · have hrest : ∃ j < rest.length, ¬Succeeds (client.chat (i + 1 + j)) := by
        obtain ⟨j, hj, hfails⟩ := h
        cases j with
        | zero => exact absurd hfirst hfails
        | succ j => exact ⟨j, Nat.lt_of_succ_lt_succ hj, by rwa [show i + 1 + j = i + (j + 1) by omega]⟩
      obtain ⟨completion, hnext⟩ := executeAll_next cfg batch now hfirst a rest completions b
      obtain ⟨hrefused, hkept⟩ := ih hrest (completions ++ [completion]) (b.complete a.requestId completion)
      obtain ⟨hiff, hleft⟩ := refused_congr hnext
      rw [hiff, hleft]
      refine ⟨hrefused, fun r hr => hkept r ?_⟩
      rw [VLLMBackend.complete, Dict.get?_set]
      split_ifs
      · rfl
      · exact hr
    · obtain ⟨hrefused, -, hcompletions⟩ := executeAll_stops cfg batch now hfirst a rest completions b
      refine ⟨hrefused, fun r hr => ?_⟩
      rwa [hcompletions]

theorem executeAll_accepts {i : ℕ} {assignments : List BatchAssignment}
    (h : ∀ j < assignments.length, Succeeds (client.chat (i + j))) (completions : List RequestCompletionResult)
    (b : VLLMBackend) : ¬Refused (executeAll cfg client batch now i assignments completions) b := by
  induction assignments generalizing i completions b with
  | nil =>
    intro hrefused
    cases hrefused _ b rfl
  | cons a rest ih =>
    have hfirst : Succeeds (client.chat i) := h 0 (Nat.succ_pos _)
    obtain ⟨completion, hnext⟩ := executeAll_next cfg batch now hfirst a rest completions b
    have hrest : ∀ j < rest.length, Succeeds (client.chat (i + 1 + j)) := by
      intro j hj
      rw [show i + 1 + j = i + (j + 1) by omega]
      exact h (j + 1) (Nat.succ_lt_succ hj)
    rw [(refused_congr hnext).1]
    exact ih hrest (completions ++ [completion]) (b.complete a.requestId completion)

/-! ## When a refused batch leaves nothing behind -/

/-- the first answer is a bad one: a request is marked FAILED at most -/
theorem nothingDone_of_first (cfg : VLLMBackendConfig) (batch : DispatchBatch) (now : Time)
    (hfirst : ¬Succeeds (client.chat 0)) (assignments : List BatchAssignment) (b : VLLMBackend) :
    NothingDone batch b (leftBy (executeAll cfg client batch now 0 assignments []) b) := by
  cases assignments with
  | nil => exact SameRecords.nothingDone ⟨rfl, rfl⟩ batch
  | cons a rest =>
    obtain ⟨-, hstatus, hcompletions⟩ := executeAll_stops cfg batch now hfirst a rest [] b
    rcases hstatus with hstatus | hstatus
    · exact SameRecords.nothingDone ⟨hstatus, hcompletions⟩ batch
    · constructor
      · intro a' _ hcompleted
        rw [VLLMBackend.getRequestStatus, hstatus, Dict.get?_set] at hcompleted
        split_ifs at hcompleted
        · cases hcompleted
        · exact hcompleted
      · intro a' _ c hc
        rwa [VLLMBackend.getRequestCompletion, hcompletions] at hc

/-- whatever the backend has done before, a refused batch leaves nothing executed behind exactly when its answers are
not a partial failure -/
theorem all_or_nothing_iff (cfg : VLLMBackendConfig) (client : HttpClient) (batch : DispatchBatch) (now : Time) :
    (∀ b, AllOrNothing cfg client batch now b) ↔ ¬PartialFailure cfg client batch := by
  constructor
  · rintro hall ⟨hproceeds, hfirst, i, hi, hfails⟩
    obtain ⟨b₁, hsame, hrun⟩ := submitBatch_proceeds hproceeds now .init
    obtain ⟨hrefused, hleft⟩ := refused_congr hrun
    obtain ⟨a, rest, hassignments⟩ := List.exists_cons_of_length_pos (Nat.zero_lt_of_lt hi)
    have hi' : i ≠ 0 := fun h => hfails (h ▸ hfirst)
    have hlater : ∃ j < rest.length, ¬Succeeds (client.chat (0 + 1 + j)) := by
      rw [hassignments, List.length_cons] at hi
      exact ⟨i - 1, by omega, by rwa [show 0 + 1 + (i - 1) = i by omega]⟩
    -- the first request is executed, and its completion stays
    obtain ⟨completion, hnext⟩ := executeAll_next cfg batch now hfirst a rest [] b₁
    obtain ⟨hrest, hkept⟩ := executeAll_refused cfg batch now hlater ([] ++ [completion])
      (b₁.complete a.requestId completion)
    obtain ⟨hrefused', hleft'⟩ := refused_congr hnext
    rw [← hassignments] at hrefused' hleft'
    have hdone := hall .init (hrefused.2 (hrefused'.2 hrest))
    have hsome := hkept a.requestId (by rw [VLLMBackend.complete, Dict.get?_set_self]; rfl)
    rw [← hleft', ← hleft] at hsome
    obtain ⟨c, hc⟩ := Option.isSome_iff_exists.1 hsome
    have hbefore := hdone.completion a (by rw [hassignments]; exact List.mem_cons_self) c hc
    simp [VLLMBackend.getRequestCompletion, VLLMBackend.init] at hbefore
  · intro hno b hrefused
    by_cases hproceeds : Proceeds cfg client batch
    · obtain ⟨b₁, hsame, hrun⟩ := submitBatch_proceeds hproceeds now b
      obtain ⟨hiff, hleft⟩ := refused_congr hrun
      rw [hleft]
      have hfirst : ¬Succeeds (client.chat 0) := by
        intro hfirst
        refine executeAll_accepts (fun j hj => ?_) [] b₁ (hiff.1 hrefused)
        rw [Nat.zero_add]
        by_contra hfails
        exact hno ⟨hproceeds, hfirst, j, hj, hfails⟩
      have hdone := nothingDone_of_first cfg batch now hfirst batch.assignments b₁
      constructor
      · intro a ha hstatus
        have hstatus₁ := hdone.status a ha hstatus
        rwa [VLLMBackend.getRequestStatus, hsame.status] at hstatus₁
      · intro a ha c hc
        have hc₁ := hdone.completion a ha c hc
        rwa [VLLMBackend.getRequestCompletion, hsame.completions] at hc₁
    · rcases submitBatch_stops hproceeds now b with hgo | hsame
      · exact absurd hrefused hgo
      · exact hsame.nothingDone batch

/-- a server that executes the first request and breaks down at the second -/
def failingClient : HttpClient :=
  { sampleClient with chat := fun i => if i = 0 then sampleClient.chat 0 else ⟨.ok ⟨500, .error "not JSON"⟩, 6, 1⟩ }

/-- the call raises, and the first request is COMPLETED and has its completion; the batch is submitted again, and the
server executes that request once more -/
theorem partial_failure_recorded :
    (∃ b', EStateM.run (submitBatch {} failingClient (sampleBatch false) 0) .init =
        .error (.internalFailure "vllm server error: 500") b' ∧ b'.getRequestStatus 1 = .completed ∧
      b'.getRequestCompletion 1 = some (sampleCompletion 1) ∧
      ∃ b'', EStateM.run (submitBatch {} sampleClient (sampleBatch false) 9) b' =
        .ok (submitResult {} (sampleBatch false) 9 true "vllm_completed"
          [sampleCompletion 1, sampleCompletion 2]) b'') ∧
      ¬AllOrNothing {} failingClient (sampleBatch false) 0 .init := by
  have hrun : EStateM.run (submitBatch {} failingClient (sampleBatch false) 0) .init =
      .error (.internalFailure "vllm server error: 500") (checkedBackend.complete 1 (sampleCompletion 1)) := rfl
  refine ⟨⟨_, hrun, rfl, rfl, _, rfl⟩, fun hall => ?_⟩
  have hrefused : Refused (submitBatch {} failingClient (sampleBatch false) 0) .init := by
    intro result b' h
    rw [hrun] at h
    cases h
  have hdone := hall hrefused
  rw [leftBy, hrun] at hdone
  have hbefore := hdone.completion (sampleAssignment 1 0 false) List.mem_cons_self (sampleCompletion 1) rfl
  cases hbefore

end InferencePlatform.Adapter
