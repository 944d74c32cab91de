/-
Batch submissions through the adapter, any number of them at a time.

A call of `submit_batch` runs up to its one `await`, the backend's own `submit_batch`, and goes on when the answer
comes. `submitBatch` is the first half and `resume` the second; between them the call is `underway`, and other calls and
the adapter's own operations take their steps. `ended` records the calls that have come back, with what came back.

A cancelled task leaves the call at its `await`: the exception is no `Exception`, so neither handler sees it. A counter
refuses a negative amount, and what it raises leaves the call between its metrics and its events.

- `submissions_accounted`: every submission that a backend's counters show is underway, cancelled, or counted once as
  accepted, rejected or failed;
- `answers_follow`: at every point of the event log, a request has been answered for a batch at most as often as it was
  submitted with it;
- `fenced_receives_nothing`: an UNHEALTHY or STOPPED backend is handed no batch again before it has been removed.

The registry's operations are those of `Adapter.Registry`. The tracing spans and the application without a metrics
recorder are left out.
-/
import InferencePlatform.Adapter.Health
import InferencePlatform.Adapter.Vllm

namespace InferencePlatform.Adapter

open InferencePlatform.Core (Dict Keeps Meets run run_inv)
open Std.Do

set_option mvcgen.warning false

/-! ## Metrics -/

/-- the instruments of one backend -/
structure BackendMetrics where
  submissionsTotal : ℕ := 0
  acceptanceTotal : ℕ := 0
  rejectionsTotal : ℕ := 0
  failuresTotal : ℕ := 0
  requestDurationSeconds : List ℕ := []
  promptTokensTotal : ℕ := 0
  completionTokensTotal : ℕ := 0
  deriving DecidableEq, Repr

/-- the instruments by their label -/
abbrev BackendInstruments := Dict String BackendMetrics

def BackendInstruments.labels (m : BackendInstruments) (backendId : String) : BackendMetrics :=
  (m.get? backendId).getD {}

def BackendInstruments.record (m : BackendInstruments) (backendId : String) (f : BackendMetrics → BackendMetrics) :
    BackendInstruments :=
  m.set backendId (f (m.labels backendId))

theorem labels_record (m : BackendInstruments) (backendId b : String) (f : BackendMetrics → BackendMetrics) :
    (m.record backendId f).labels b = if b = backendId then f (m.labels backendId) else m.labels b := by
  unfold BackendInstruments.record BackendInstruments.labels
  rw [Dict.get?_set]
  split_ifs <;> rfl

/-! ## Events -/

inductive BatchEventType
  | backendSelected | batchSubmitted | batchAccepted | batchRejected
  deriving DecidableEq, Repr

structure BatchEvent where
  eventType : BatchEventType
  backendId : String
  batchId : UUID
  /-- an event of the batch has none -/
  requestId : Option UUID := none
  reason : String
  assignmentCount : Option ℕ := none
  deriving DecidableEq, Repr

/-! ## The application -/

inductive SubmitError
  | misconfigured (message : String) (backendId : String)
  | unavailable (message : String) (backendId : String)
  | rejected (message : String)
  | internalFailure (message : String) (backendId : String) (batchId : UUID)
  | valueError (message : String)
  | cancelled
  deriving DecidableEq, Repr

/-- what the backend's `submit_batch` comes to -/
inductive BackendAnswer
  | returned (result : BatchSubmitResult)
  /-- `BackendRejected` -/
  | rejected (message : String)
  /-- any other `Exception` -/
  | raised (message : String)
  /-- the task is cancelled while it waits -/
  | cancelled
  deriving DecidableEq, Repr

/-- a call that waits for its backend -/
structure Underway where
  backendId : String
  batch : DispatchBatch
  started : Time
  deriving DecidableEq, Repr

structure SubmissionSystem where
  app : InferenceAdapterApplication
  instruments : BackendInstruments
  events : List BatchEvent
  underway : List Underway
  ended : List (Underway × BackendAnswer)

def SubmissionSystem.init : SubmissionSystem := ⟨.init, Dict.empty, [], [], []⟩

abbrev SubmitM := EStateM SubmitError SubmissionSystem

def SubmitM.final {α : Type} (x : SubmitM α) (s : SubmissionSystem) : SubmissionSystem :=
  match EStateM.run x s with
  | .ok _ s' | .error _ s' => s'

def emitBatch (event : BatchEvent) : SubmitM Unit := modify fun s => { s with events := s.events ++ [event] }

def record (backendId : String) (f : BackendMetrics → BackendMetrics) : SubmitM Unit :=
  modify fun s => { s with instruments := s.instruments.record backendId f }

/-- the loop over the assignments that emits an event for each -/
def emitRequestBackendEvents (eventType : BatchEventType) (call : Underway) (reason : String) :
    List BatchAssignment → SubmitM Unit
  | [] => return ()
  | a :: rest => do
    emitBatch { eventType, backendId := call.backendId, batchId := call.batch.batchId,
                requestId := some a.requestId, reason }
    emitRequestBackendEvents eventType call reason rest

/-- up to the `await` -/
def InferenceAdapterApplication.submitBatch (defaultBackendId : String) (batch : DispatchBatch)
    (backendId : Option String) (now : Time) :
    SubmitM Unit := do
  let targetId := orElse (· = "") backendId defaultBackendId
  match (← get).app.registry.get? targetId with
  | none => throw (.misconfigured s!"backend not registered: {targetId}" targetId)
  | some entry =>
    if entry.state ∈ [BackendState.unhealthy, .stopped] then
      throw (.unavailable s!"backend unavailable: {entry.state.value}" targetId)
    else
      let call : Underway := ⟨targetId, batch, now⟩
      emitBatch { eventType := .backendSelected, backendId := targetId, batchId := batch.batchId,
                  reason := "explicit_backend_id" }
      emitBatch { eventType := .batchSubmitted, backendId := targetId, batchId := batch.batchId,
                  reason := "submit_batch"
                  assignmentCount := some batch.assignments.length }
      emitRequestBackendEvents .batchSubmitted call "submit_batch" batch.assignments
      record targetId fun m => { m with submissionsTotal := m.submissionsTotal + 1 }
      modify fun s => { s with underway := s.underway ++ [call] }

/-- the message of the client library -/
def negativeIncrement : SubmitError := .valueError "Counters can only be incremented by non-negative amounts."

def inc (backendId : String) (amount : ℤ) (f : ℕ → BackendMetrics → BackendMetrics) : SubmitM Unit :=
  if amount < 0 then throw negativeIncrement else record backendId (f amount.toNat)

def recordBackendTokens (backendId : String) (promptTokens completionTokens : ℤ) : SubmitM Unit := do
  if promptTokens ≠ 0 then
    inc backendId promptTokens fun n m => { m with promptTokensTotal := m.promptTokensTotal + n }
  if completionTokens ≠ 0 then
    inc backendId completionTokens fun n m => { m with completionTokensTotal := m.completionTokensTotal + n }

def recordCompletions (backendId : String) : List RequestCompletionResult → SubmitM Unit
  | [] => return ()
  | c :: rest => do
    recordBackendTokens backendId c.promptTokens c.completionTokens
    recordCompletions backendId rest

/-- from the backend's answer on -/
def resume (call : Underway) (answer : BackendAnswer) (now : Time) : SubmitM BatchSubmitResult := do
  let duration := now - call.started
  let event (eventType : BatchEventType) (reason : String) : BatchEvent :=
    { eventType, backendId := call.backendId, batchId := call.batch.batchId, reason }
  match answer with
  | .rejected message =>
    record call.backendId fun m =>
      { m with rejectionsTotal := m.rejectionsTotal + 1,
               requestDurationSeconds := m.requestDurationSeconds ++ [duration] }
    throw (.rejected message)
  | .raised message =>
    record call.backendId fun m =>
      { m with failuresTotal := m.failuresTotal + 1,
               requestDurationSeconds := m.requestDurationSeconds ++ [duration] }
    throw (.internalFailure message call.backendId call.batch.batchId)
  | .cancelled => throw .cancelled
  | .returned result =>
    if result.accepted then
      record call.backendId fun m =>
        { m with acceptanceTotal := m.acceptanceTotal + 1,
                 requestDurationSeconds := m.requestDurationSeconds ++ [duration] }
      recordCompletions call.backendId result.completions
      emitBatch (event .batchAccepted result.reason)
      emitRequestBackendEvents .batchAccepted call result.reason call.batch.assignments
    else
      record call.backendId fun m =>
        { m with rejectionsTotal := m.rejectionsTotal + 1,
                 requestDurationSeconds := m.requestDurationSeconds ++ [duration] }
      emitBatch (event .batchRejected result.reason)
      emitRequestBackendEvents .batchRejected call result.reason call.batch.assignments
    return result

inductive SubmissionOp
  | admin (op : Op)
  | submit (batch : DispatchBatch) (backendId : Option String) (now : Time)
  /-- the answer for the `i`-th of the waiting calls -/
  | answer (i : ℕ) (answer : BackendAnswer) (now : Time)

/-- the state after the operation, whether it returns or raises -/
def SubmissionSystem.step (defaultBackendId : String) (s : SubmissionSystem) : SubmissionOp → SubmissionSystem
  | .admin op => { s with app := s.app.step op }
  | .submit batch backendId now => (InferenceAdapterApplication.submitBatch defaultBackendId batch
      backendId now).final s
  | .answer i answer now =>
    match s.underway[i]? with
    | none => s
    | some call =>
      (resume call answer now).final
        { s with underway := s.underway.eraseIdx i, ended := s.ended ++ [(call, answer)] }

/-! ## What the two halves do -/

variable {s : SubmissionSystem} {call : Underway} {answer : BackendAnswer}

/-- the event of the batch and those of its requests -/
def Underway.announced (call : Underway) (eventType : BatchEventType) (reason : String) (count : Option ℕ) :
    List BatchEvent :=
  { eventType, backendId := call.backendId, batchId := call.batch.batchId, reason, assignmentCount := count } ::
    call.batch.assignments.map fun a =>
      { eventType, backendId := call.backendId, batchId := call.batch.batchId, requestId := some a.requestId, reason }

@[simp] theorem run_throw' {α : Type} (err : SubmitError) (s : SubmissionSystem) :
    EStateM.run (throw err : SubmitM α) s = .error err s := rfl

@[simp] theorem emitBatch_run (event : BatchEvent) (s : SubmissionSystem) :
    EStateM.run (emitBatch event) s = .ok () { s with events := s.events ++ [event] } := rfl

@[simp] theorem record_run (backendId : String) (f : BackendMetrics → BackendMetrics) (s : SubmissionSystem) :
    EStateM.run (record backendId f) s = .ok () { s with instruments := s.instruments.record backendId f } := rfl

theorem emitRequestBackendEvents_run (eventType : BatchEventType) (call : Underway) (reason : String)
    (assignments : List BatchAssignment) (s : SubmissionSystem) :
    EStateM.run (emitRequestBackendEvents eventType call reason assignments) s = .ok () { s with
      events := s.events ++ assignments.map fun a =>
        { eventType, backendId := call.backendId, batchId := call.batch.batchId,
          requestId := some a.requestId, reason } } := by
  induction assignments generalizing s with
  | nil => simp [emitRequestBackendEvents]
  | cons a rest ih => simp [emitRequestBackendEvents, EStateM.run_bind, ih]

/-- a submission raises and changes nothing, or it leaves a call underway to a backend that is neither UNHEALTHY nor
STOPPED -/
theorem submitBatch_final (defaultBackendId : String) (batch : DispatchBatch) (backendId : Option String) (now : Time)
    (s : SubmissionSystem) :
    let x := InferenceAdapterApplication.submitBatch defaultBackendId batch backendId now
    (∃ err, EStateM.run x s = .error err s) ∨
      ∃ call : Underway, (∃ entry, s.app.registry.get? call.backendId = some entry ∧
          entry.state ≠ .unhealthy ∧ entry.state ≠ .stopped) ∧
        call = ⟨orElse (· = "") backendId defaultBackendId, batch, now⟩ ∧
        EStateM.run x s = .ok () { s with
          events := s.events ++ { eventType := .backendSelected, backendId := call.backendId, batchId := batch.batchId
                                  reason := "explicit_backend_id" } ::
            call.announced .batchSubmitted "submit_batch" (some batch.assignments.length)
          instruments := s.instruments.record call.backendId fun m =>
            { m with submissionsTotal := m.submissionsTotal + 1 }
          underway := s.underway ++ [call] } := by
  intro x
  cases hentry : s.app.registry.get? (orElse (· = "") backendId defaultBackendId) with
  | none =>
    refine .inl ⟨(fun targetId => .misconfigured s!"backend not registered: {targetId}" targetId)
      (orElse (· = "") backendId defaultBackendId), ?_⟩
    simp only [x, InferenceAdapterApplication.submitBatch, EStateM.run_bind, EStateM.run_get, hentry, run_throw']
  | some entry =>
    by_cases hdown : entry.state ∈ [BackendState.unhealthy, .stopped]
    · refine .inl ⟨.unavailable s!"backend unavailable: {entry.state.value}"
        (orElse (· = "") backendId defaultBackendId), ?_⟩
      simp only [x, InferenceAdapterApplication.submitBatch, EStateM.run_bind, EStateM.run_get, hentry,
        if_pos hdown, run_throw']
    · refine .inr ⟨_, ⟨entry, hentry, ?_⟩, rfl, ?_⟩
      · simpa using hdown
      · simp only [x, InferenceAdapterApplication.submitBatch, EStateM.run_bind, EStateM.run_get, hentry, if_neg hdown,
          emitBatch_run, emitRequestBackendEvents_run, record_run]
        simp [EStateM.run_modify, Underway.announced]

/-- without the token counters -/
def BackendMetrics.calls (m : BackendMetrics) : BackendMetrics :=
  { m with promptTokensTotal := 0, completionTokensTotal := 0 }

/-- what an answer adds to the counters of the calls -/
def BackendAnswer.book (answer : BackendAnswer) (duration : ℕ) (m : BackendMetrics) : BackendMetrics :=
  match answer with
  | .returned result =>
    if result.accepted then
      { m with acceptanceTotal := m.acceptanceTotal + 1,
               requestDurationSeconds := m.requestDurationSeconds ++ [duration] }
    else
      { m with rejectionsTotal := m.rejectionsTotal + 1,
               requestDurationSeconds := m.requestDurationSeconds ++ [duration] }
  | .rejected _ =>
    { m with rejectionsTotal := m.rejectionsTotal + 1,
             requestDurationSeconds := m.requestDurationSeconds ++ [duration] }
  | .raised _ =>
    { m with failuresTotal := m.failuresTotal + 1,
             requestDurationSeconds := m.requestDurationSeconds ++ [duration] }
  | .cancelled => m

/-- all that differs is what the token counters show -/
def BesideTokens (s s' : SubmissionSystem) : Prop :=
  ∃ m, s' = { s with instruments := m } ∧ ∀ b, (m.labels b).calls = (s.instruments.labels b).calls

theorem BesideTokens.record {s₀ : SubmissionSystem} (h : BesideTokens s₀ s) (backendId : String)
    {f : BackendMetrics → BackendMetrics} (hf : ∀ m, (f m).calls = m.calls) :
    BesideTokens s₀ { s with instruments := s.instruments.record backendId f } := by
  obtain ⟨m, rfl, hm⟩ := h
  refine ⟨_, rfl, fun b => ?_⟩
  rw [labels_record]
  split_ifs with hb
  · rw [hf, hb, hm]
  · exact hm b

theorem inc_keeps (s₀ : SubmissionSystem) (backendId : String) (amount : ℤ) {f : ℕ → BackendMetrics → BackendMetrics}
    (hf : ∀ n m, (f n m).calls = m.calls) : Keeps (BesideTokens s₀) (inc backendId amount f) := by
  unfold inc
  split_ifs
  · exact Core.triple_iff.2 fun s hs => by simpa [negativeIncrement] using hs
  · exact Core.triple_iff.2 fun s hs => by simpa using hs.record backendId (hf amount.toNat)

theorem recordBackendTokens_keeps (s₀ : SubmissionSystem) (backendId : String) (promptTokens completionTokens : ℤ) :
    Keeps (BesideTokens s₀) (recordBackendTokens backendId promptTokens completionTokens) := by
  have hprompt := inc_keeps s₀ backendId promptTokens
    (f := fun n m => { m with promptTokensTotal := m.promptTokensTotal + n }) fun _ _ => rfl
  have hcompletion := inc_keeps s₀ backendId completionTokens
    (f := fun n m => { m with completionTokensTotal := m.completionTokensTotal + n }) fun _ _ => rfl
  unfold recordBackendTokens
  dsimp only
  split_ifs
  · exact hprompt.bind fun _ => hcompletion
  · exact hprompt.bind fun _ => Keeps.pure _
  · exact hcompletion
  · exact Keeps.pure _

/-- the loop over the completions, whether or not a negative count ends it -/
theorem recordCompletions_keeps (s₀ : SubmissionSystem) (backendId : String)
    (completions : List RequestCompletionResult) :
    Keeps (BesideTokens s₀) (recordCompletions backendId completions) := by
  induction completions with
  | nil => exact Keeps.pure _
  | cons c rest ih =>
    unfold recordCompletions
    exact (recordBackendTokens_keeps s₀ backendId c.promptTokens c.completionTokens).bind fun _ => ih

theorem labels_record_calls (m : BackendInstruments) (backendId b : String) (f : BackendMetrics → BackendMetrics) :
    ((m.record backendId f).labels b).calls = if b = backendId then (f (m.labels b)).calls else (m.labels b).calls := by
  rw [labels_record]
  split_ifs with hb
  · rw [hb]
  · rfl

/-- an answer books its outcome, and announces it unless a handler or a negative count has raised before -/
theorem resume_final (call : Underway) (answer : BackendAnswer) (now : Time) (s : SubmissionSystem) :
    ∃ m es, (resume call answer now).final s = { s with instruments := m, events := s.events ++ es } ∧
      (∀ b, (m.labels b).calls = if b = call.backendId
        then (answer.book (now - call.started) (s.instruments.labels b)).calls else (s.instruments.labels b).calls) ∧
      (es = [] ∨ ∃ eventType ∈ [BatchEventType.batchAccepted, .batchRejected], ∃ reason,
        es = call.announced eventType reason none) := by
  cases answer with
  | rejected message | raised message =>
    refine ⟨_, [], ?_, fun b => labels_record_calls _ _ b _, .inl rfl⟩
    simp only [SubmitM.final, resume, EStateM.run_bind, record_run, run_throw', List.append_nil]
    rfl
  | cancelled =>
    exact ⟨s.instruments, [], by simp only [SubmitM.final, resume, run_throw', List.append_nil],
      fun b => by simp [BackendAnswer.book], .inl rfl⟩
  | returned result =>
    by_cases haccepted : result.accepted = true
    · set s₁ : SubmissionSystem := { s with instruments := s.instruments.record call.backendId fun m =>
        { m with acceptanceTotal := m.acceptanceTotal + 1
                 requestDurationSeconds := m.requestDurationSeconds ++ [now - call.started] } } with hs₁
      have hcalls : ∀ b, (s₁.instruments.labels b).calls = if b = call.backendId
          then ((BackendAnswer.returned result).book (now - call.started) (s.instruments.labels b)).calls
          else (s.instruments.labels b).calls := by
        intro b
        rw [hs₁, labels_record_calls]
        simp [BackendAnswer.book, haccepted]
      have hkeeps := recordCompletions_keeps s₁ call.backendId result.completions
      have hrefl : BesideTokens s₁ s₁ := ⟨_, rfl, fun _ => rfl⟩
      cases hloop : EStateM.run (recordCompletions call.backendId result.completions) s₁ with
      | error err s₂ =>
        obtain ⟨m, rfl, hm⟩ := hkeeps.error hrefl hloop
        refine ⟨m, [], ?_, fun b => (hm b).trans (hcalls b), .inl rfl⟩
        simp only [SubmitM.final, resume, haccepted, if_true, EStateM.run_bind, record_run, ← hs₁,
          hloop, List.append_nil]
        rfl
      | ok u s₂ =>
        obtain ⟨m, rfl, hm⟩ := hkeeps.ok hrefl hloop
        refine ⟨m, call.announced .batchAccepted result.reason none, ?_, fun b => (hm b).trans (hcalls b),
          .inr ⟨.batchAccepted, by simp, result.reason, rfl⟩⟩
        simp only [SubmitM.final, resume, haccepted, if_true, EStateM.run_bind, record_run, ← hs₁, hloop, emitBatch_run,
          emitRequestBackendEvents_run]
        simp [Underway.announced, hs₁]
    · refine ⟨s.instruments.record call.backendId fun m =>
        { m with rejectionsTotal := m.rejectionsTotal + 1
                 requestDurationSeconds := m.requestDurationSeconds ++ [now - call.started] },
        call.announced .batchRejected result.reason none, ?_, fun b => ?_,
          .inr ⟨.batchRejected, by simp, result.reason, rfl⟩⟩
      · simp [SubmitM.final, resume, if_neg haccepted, emitRequestBackendEvents_run, Underway.announced]
      · rw [labels_record_calls]
        simp [BackendAnswer.book, haccepted]

/-! ## The counters -/

inductive Outcome
  | accepted | rejected | failed | cancelled
  deriving DecidableEq, Repr

def BackendAnswer.outcome : BackendAnswer → Outcome
  | .returned result => if result.accepted then .accepted else .rejected
  | .rejected _ => .rejected
  | .raised _ => .failed
  | .cancelled => .cancelled

namespace SubmissionSystem

/-- the calls to the backend that have come back with the outcome -/
def endedWith (s : SubmissionSystem) (backendId : String) (outcome : Outcome) : ℕ :=
  s.ended.countP fun e => e.1.backendId = backendId ∧ e.2.outcome = outcome

def underwayTo (s : SubmissionSystem) (backendId : String) : ℕ :=
  s.underway.countP fun call => call.backendId = backendId

end SubmissionSystem

/-- what a backend's counters show, with `count` the calls that have come back and `waiting` those that have not -/
structure Accounted (m : BackendMetrics) (count : Outcome → ℕ) (waiting : ℕ) : Prop where
  accepted : m.acceptanceTotal = count .accepted
  rejected : m.rejectionsTotal = count .rejected
  failed : m.failuresTotal = count .failed
  submitted : m.submissionsTotal = count .accepted + count .rejected + count .failed + count .cancelled + waiting
  timed : m.requestDurationSeconds.length = count .accepted + count .rejected + count .failed

namespace Accounted

variable {m m' : BackendMetrics} {count count' : Outcome → ℕ} {waiting : ℕ}

theorem of_calls (h : Accounted m count waiting) (hm : m'.calls = m.calls) : Accounted m' count waiting := by
  obtain ⟨_, _, _, _, _, _, _⟩ := m
  obtain ⟨_, _, _, _, _, _, _⟩ := m'
  simp only [BackendMetrics.calls, BackendMetrics.mk.injEq] at hm
  obtain ⟨rfl, rfl, rfl, rfl, rfl, -⟩ := hm
  exact ⟨h.accepted, h.rejected, h.failed, h.submitted, h.timed⟩

theorem submit (h : Accounted m count waiting) :
    Accounted { m with submissionsTotal := m.submissionsTotal + 1 } count (waiting + 1) :=
  ⟨h.accepted, h.rejected, h.failed, by simp only [h.submitted]; omega, h.timed⟩

theorem answered (h : Accounted m count (waiting + 1)) (answer : BackendAnswer) (duration : ℕ)
    (hcount : ∀ o, count' o = count o + if answer.outcome = o then 1 else 0) :
    Accounted (answer.book duration m) count' waiting := by
  obtain ⟨haccepted, hrejected, hfailed, hsubmitted, htimed⟩ := h
  cases answer with
  | returned result =>
    cases hok : result.accepted <;> constructor <;>
      simp [BackendAnswer.book, BackendAnswer.outcome, *] <;> omega
  | rejected message | raised message | cancelled =>
    constructor <;> simp [BackendAnswer.book, BackendAnswer.outcome, *] <;> omega

end Accounted

theorem endedWith_append (s : SubmissionSystem) (b : String) (o : Outcome) (call : Underway) (answer : BackendAnswer) :
    (s.ended ++ [(call, answer)]).countP (fun e => e.1.backendId = b ∧ e.2.outcome = o) =
      s.endedWith b o + if call.backendId = b ∧ answer.outcome = o then 1 else 0 := by
  rw [List.countP_append, List.countP_singleton]
  simp [SubmissionSystem.endedWith]

theorem underwayTo_append (s : SubmissionSystem) (b : String) (call : Underway) :
    (s.underway ++ [call]).countP (fun c => c.backendId = b) = s.underwayTo b +
      if call.backendId = b then 1 else 0 := by
  rw [List.countP_append, List.countP_singleton]
  simp [SubmissionSystem.underwayTo]

theorem underwayTo_eraseIdx {i : ℕ} (hi : s.underway[i]? = some call) (b : String) :
    s.underwayTo b = (s.underway.eraseIdx i).countP (fun c => c.backendId = b) +
      if call.backendId = b then 1 else 0 := by
  obtain ⟨hlt, rfl⟩ := List.getElem?_eq_some_iff.1 hi
  rw [SubmissionSystem.underwayTo, ← (List.getElem_cons_eraseIdx_perm hlt).countP_eq, List.countP_cons]
  simp

/-- the counters of a backend account for its calls -/
def SubmissionSystem.Accounted (s : SubmissionSystem) (b : String) : Prop :=
  Adapter.Accounted (s.instruments.labels b) (s.endedWith b) (s.underwayTo b)

theorem submit_accounted {b : String} (h : s.Accounted b) (call : Underway) (events : List BatchEvent) :
    SubmissionSystem.Accounted { s with
      events
      instruments := s.instruments.record call.backendId fun m => { m with submissionsTotal := m.submissionsTotal + 1 }
      underway := s.underway ++ [call] } b := by
  unfold SubmissionSystem.Accounted
  rw [labels_record]
  simp only [SubmissionSystem.underwayTo, underwayTo_append]
  by_cases hb : call.backendId = b
  · subst hb
    rw [if_pos rfl, if_pos rfl]
    exact h.submit
  · rw [if_neg (Ne.symm hb), if_neg hb]
    exact h

theorem answer_accounted {b : String} {i : ℕ} (h : s.Accounted b) (hi : s.underway[i]? = some call)
    (answer : BackendAnswer) (duration : ℕ) (m : BackendInstruments) (events : List BatchEvent)
    (hm : (m.labels b).calls = if b = call.backendId
      then (answer.book duration (s.instruments.labels b)).calls else (s.instruments.labels b).calls) :
    SubmissionSystem.Accounted { s with
      instruments := m
      events
      underway := s.underway.eraseIdx i
      ended := s.ended ++ [(call, answer)] } b := by
  have hwaiting := underwayTo_eraseIdx hi b
  unfold SubmissionSystem.Accounted at h ⊢
  by_cases hb : call.backendId = b
  · subst hb
    rw [if_pos rfl] at hm hwaiting
    rw [hwaiting] at h
    refine (h.answered answer duration fun o => ?_).of_calls hm
    simp only [SubmissionSystem.endedWith, endedWith_append, true_and]
  · rw [if_neg (Ne.symm hb)] at hm
    rw [if_neg hb, Nat.add_zero] at hwaiting
    rw [hwaiting] at h
    have hended : SubmissionSystem.endedWith { s with
        instruments := m, events, underway := s.underway.eraseIdx i, ended := s.ended ++ [(call, answer)] } b =
          s.endedWith b := by
      funext o
      simp only [SubmissionSystem.endedWith, endedWith_append, hb, false_and, if_false, Nat.add_zero]
    rw [hended]
    exact h.of_calls hm

theorem step_accounted {b : String} (defaultBackendId : String) (h : s.Accounted b) (op : SubmissionOp) :
    (s.step defaultBackendId op).Accounted b := by
  cases op with
  | admin op => exact h
  | submit batch backendId now =>
    rcases submitBatch_final defaultBackendId batch backendId now s with ⟨err, hrun⟩ | ⟨call, -, -, hrun⟩
    · simpa only [SubmissionSystem.step, SubmitM.final, hrun] using h
    · simpa only [SubmissionSystem.step, SubmitM.final, hrun] using submit_accounted h call _
  | answer i answer now =>
    simp only [SubmissionSystem.step]
    cases hi : s.underway[i]? with
    | none => exact h
    | some call =>
      obtain ⟨m, es, hfinal, hm, -⟩ := resume_final call answer now
        { s with underway := s.underway.eraseIdx i, ended := s.ended ++ [(call, answer)] }
      simp only [hfinal]
      exact answer_accounted h hi answer _ m _ (hm b)

/-- **The counters of a backend.** Whatever the interleaving, every answer of a backend is counted as what it was, with
its duration, and the submissions not counted so are those underway and those cancelled. -/
theorem submissions_accounted (defaultBackendId : String) (ops : List SubmissionOp) (b : String) :
    (run (SubmissionSystem.step defaultBackendId) .init ops).Accounted b :=
  run_inv (I := fun s => SubmissionSystem.Accounted s b) (fun _ op h => step_accounted defaultBackendId h op) ops
    ⟨rfl, rfl, rfl, rfl, rfl⟩

/-! ## The events -/

/-- what an event is about: a backend, a batch and maybe a request of it -/
abbrev Subject := String × UUID × Option UUID

def BatchEvent.subject (e : BatchEvent) : Subject := (e.backendId, e.batchId, e.requestId)

def occurrences (eventType : BatchEventType) (subject : Subject) (log : List BatchEvent) : ℕ :=
  log.countP fun e => e.eventType = eventType ∧ e.subject = subject

/-- the subjects a call is announced under -/
def Underway.subjects (call : Underway) : List Subject :=
  (call.backendId, call.batch.batchId, none) ::
    call.batch.assignments.map fun a => (call.backendId, call.batch.batchId, some a.requestId)

variable {subject : Subject}

theorem occurrences_append (eventType : BatchEventType) (subject : Subject) (log log' : List BatchEvent) :
    occurrences eventType subject (log ++ log') = occurrences eventType subject log +
      occurrences eventType subject log' :=
  List.countP_append

theorem occurrences_announced (eventType eventType' : BatchEventType) (subject : Subject) (call : Underway)
    (reason : String) (count : Option ℕ) :
    occurrences eventType subject (call.announced eventType' reason count) =
      if eventType' = eventType then call.subjects.count subject else 0 := by
  have hsubjects : (call.announced eventType' reason count).map BatchEvent.subject = call.subjects := by
    simp [Underway.announced, Underway.subjects, BatchEvent.subject]
  have htype : ∀ e ∈ call.announced eventType' reason count, e.eventType = eventType' := by
    simp [Underway.announced]
  rw [← hsubjects, List.count, List.countP_map]
  split_ifs with heq
  · refine List.countP_congr fun e he => ?_
    simp [htype e he, heq]
  · refine List.countP_eq_zero.2 fun e he => ?_
    simp [htype e he, heq]

/-- how often the subject has been answered -/
def answers (subject : Subject) (log : List BatchEvent) : ℕ :=
  occurrences .batchAccepted subject log + occurrences .batchRejected subject log

theorem answers_append (subject : Subject) (log log' : List BatchEvent) :
    answers subject (log ++ log') = answers subject log + answers subject log' := by
  unfold answers
  rw [occurrences_append, occurrences_append]
  omega

theorem answers_mono (subject : Subject) {log log' : List BatchEvent} (h : log <+: log') :
    answers subject log ≤ answers subject log' := by
  obtain ⟨rest, rfl⟩ := h
  rw [answers_append]
  exact Nat.le_add_right _ _

theorem prefix_append_cases {α : Type} {p a b : List α} (h : p <+: a ++ b) : p <+: a ∨ ∃ q, q <+: b ∧ p = a ++ q := by
  rcases List.prefix_or_prefix_of_prefix h (List.prefix_append a b) with hp | ⟨q, rfl⟩
  · exact .inl hp
  · exact .inr ⟨q, (List.prefix_append_right_inj a).1 h, rfl⟩

/-- the event log of a backend's calls -/
structure Announced (s : SubmissionSystem) (subject : Subject) : Prop where
  submitted : occurrences .batchSubmitted subject s.events =
    (s.underway.map fun call => call.subjects.count subject).sum + (s.ended.map fun e => e.1.subjects.count subject).sum
  answered : answers subject s.events ≤ (s.ended.map fun e => e.1.subjects.count subject).sum
  ordered : ∀ log, log <+: s.events → answers subject log ≤ occurrences .batchSubmitted subject log

theorem submit_announced (h : Announced s subject) (call : Underway) (reason : String) (count : Option ℕ)
    (instruments : BackendInstruments) :
    Announced { s with
      events := s.events ++ { eventType := .backendSelected, backendId := call.backendId,
                              batchId := call.batch.batchId, reason } ::
        call.announced .batchSubmitted "submit_batch" count
      instruments
      underway := s.underway ++ [call] } subject := by
  set es : List BatchEvent :=
    { eventType := .backendSelected, backendId := call.backendId, batchId := call.batch.batchId, reason } ::
      call.announced .batchSubmitted "submit_batch" count with hes
  have hsubmitted : occurrences .batchSubmitted subject es = call.subjects.count subject := by
    have := occurrences_announced .batchSubmitted .batchSubmitted subject call "submit_batch" count
    simpa [hes, occurrences] using this
  have hnone : answers subject es = 0 := by
    have haccepted := occurrences_announced .batchAccepted .batchSubmitted subject call "submit_batch" count
    have hrejected := occurrences_announced .batchRejected .batchSubmitted subject call "submit_batch" count
    simp only [occurrences, reduceCtorEq, if_false] at haccepted hrejected
    simp only [answers, occurrences, hes, List.countP_cons, haccepted, hrejected]
    simp
  refine ⟨?_, ?_, fun log hlog => ?_⟩
  · simp only [occurrences_append, hsubmitted, h.submitted, List.map_append, List.map_singleton, List.sum_append,
      List.sum_singleton]
    omega
  · simp only [answers_append, hnone, Nat.add_zero]
    exact h.answered
  · rcases prefix_append_cases hlog with hold | ⟨q, hq, rfl⟩
    · exact h.ordered log hold
    · have hmono := answers_mono subject hq
      have hwhole := h.ordered s.events List.prefix_rfl
      rw [answers_append, occurrences_append]
      omega

theorem answer_announced {i : ℕ} (h : Announced s subject) (hi : s.underway[i]? = some call) (answer : BackendAnswer)
    (instruments : BackendInstruments) {es : List BatchEvent}
    (hes : es = [] ∨ ∃ eventType ∈ [BatchEventType.batchAccepted, .batchRejected], ∃ reason,
      es = call.announced eventType reason none) :
    Announced { s with
      events := s.events ++ es
      instruments
      underway := s.underway.eraseIdx i
      ended := s.ended ++ [(call, answer)] } subject := by
  have hsubmitted : occurrences .batchSubmitted subject es = 0 := by
    rcases hes with rfl | ⟨eventType, hmem, reason, rfl⟩
    · rfl
    · rw [occurrences_announced, if_neg]
      rintro rfl
      simp at hmem
  have hanswers : answers subject es ≤ call.subjects.count subject := by
    rcases hes with rfl | ⟨eventType, hmem, reason, rfl⟩
    · exact Nat.zero_le _
    · simp only [answers, occurrences_announced]
      rcases List.mem_pair.1 hmem with rfl | rfl <;> simp
  have hunderway : (s.underway.map fun call => call.subjects.count subject).sum =
      call.subjects.count subject + ((s.underway.eraseIdx i).map fun call => call.subjects.count subject).sum := by
    obtain ⟨hlt, rfl⟩ := List.getElem?_eq_some_iff.1 hi
    rw [← ((List.getElem_cons_eraseIdx_perm hlt).map _).sum_eq, List.map_cons, List.sum_cons]
  have htotal := h.submitted
  have hanswered := h.answered
  refine ⟨?_, ?_, fun log hlog => ?_⟩
  · simp only [occurrences_append, hsubmitted, List.map_append, List.map_singleton, List.sum_append, List.sum_singleton]
    omega
  · simp only [answers_append, List.map_append, List.map_singleton, List.sum_append, List.sum_singleton]
    omega
  · rcases prefix_append_cases hlog with hold | ⟨q, hq, rfl⟩
    · exact h.ordered log hold
    · have hmono := answers_mono subject hq
      rw [answers_append, occurrences_append]
      omega

theorem step_announced (defaultBackendId : String) (h : Announced s subject) (op : SubmissionOp) :
    Announced (s.step defaultBackendId op) subject := by
  cases op with
  | admin op => exact ⟨h.submitted, h.answered, h.ordered⟩
  | submit batch backendId now =>
    rcases submitBatch_final defaultBackendId batch backendId now s with ⟨err, hrun⟩ | ⟨call, -, rfl, hrun⟩
    · simpa only [SubmissionSystem.step, SubmitM.final, hrun] using h
    · simpa only [SubmissionSystem.step, SubmitM.final, hrun] using submit_announced h ⟨_, batch, now⟩ _ _ _
  | answer i answer now =>
    simp only [SubmissionSystem.step]
    cases hi : s.underway[i]? with
    | none => exact h
    | some call =>
      obtain ⟨m, es, hfinal, -, hes⟩ := resume_final call answer now
        { s with underway := s.underway.eraseIdx i, ended := s.ended ++ [(call, answer)] }
      simp only [hfinal]
      exact answer_announced h hi answer m hes

/-- **Answers follow submissions.** At every point of the event log, a batch, and each request of it, has been accepted
or rejected by a backend at most as often as it was submitted to it. -/
theorem answers_follow (defaultBackendId : String) (ops : List SubmissionOp) (subject : Subject) (n : ℕ) :
    let log := (run (SubmissionSystem.step defaultBackendId) .init ops).events.take n
    answers subject log ≤ occurrences .batchSubmitted subject log := by
  intro log
  have hinit : Announced .init subject := by
    refine ⟨rfl, Nat.le_refl _, fun log hlog => ?_⟩
    rw [List.prefix_nil.1 hlog]
    exact Nat.zero_le _
  exact (run_inv (I := fun s => Announced s subject)
    (fun _ op h => step_announced defaultBackendId h op) ops hinit).ordered
    log (List.take_prefix n _)

/-! ## Backends that are handed nothing -/

/-- the backend is registered, and UNHEALTHY or STOPPED -/
def Fenced (b : String) (app : InferenceAdapterApplication) : Prop :=
  ∃ entry, app.registry.get? b = some entry ∧ entry.state ∈ [BackendState.unhealthy, .stopped]

variable {b : String} {app : InferenceAdapterApplication}

@[local spec] theorem emit_fenced (event : BackendEvent) : Keeps (Fenced b) (emit event) := by
  mvcgen [emit]

/-- the table leads out of the two states only to STARTING -/
theorem fenced_of_canTransition {state state' : BackendState} (h : state ∈ [BackendState.unhealthy, .stopped])
    (hcan : canTransition state state' = true) (hne : state' ≠ .starting) :
      state' ∈ [BackendState.unhealthy, .stopped] := by
  cases state <;> cases state' <;> simp_all [canTransition, allowedTransitions, backendTerminalStates]

@[local spec] theorem setState_fenced (backendId : String) (state : BackendState) (hne : state ≠ .starting) :
    Keeps (Fenced b) (setState backendId state) := by
  refine Core.triple_iff.2 fun app h => ?_
  cases hentry : app.registry.get? backendId with
  | none => simpa [setState, EStateM.run_bind, hentry] using h
  | some entry =>
    rw [setState_run hentry]
    split_ifs with hcan
    · exact h
    · obtain ⟨entry', hget, hstate⟩ := h
      by_cases hb : b = backendId
      · subst hb
        obtain rfl : entry = entry' := by simpa [hentry] using hget
        exact ⟨_, Dict.get?_set_self _ _ _, fenced_of_canTransition hstate (by simpa using hcan) hne⟩
      · exact ⟨entry', (Dict.get?_set_ne _ _ hb).trans hget, hstate⟩

theorem target_ne_starting (health : HealthCheckResult) : health.target ≠ .starting := by
  unfold HealthCheckResult.target
  split_ifs <;> decide

@[local spec] theorem refresh_fenced (backendId : String) (health : HealthCheckResult) :
    Keeps (Fenced b) (refreshBackendHealth backendId health) := by
  mvcgen [refreshBackendHealth]
  exact target_ne_starting health

@[local spec] theorem refreshAll_fenced (probes : String → HealthCheckResult) (ids : List String) :
    Keeps (Fenced b) (refreshAll probes ids) := by
  induction ids with
  | nil => exact Keeps.pure ()
  | cons first rest ih =>
    unfold refreshAll
    exact (refresh_fenced first (probes first)).bind fun _ => ih

@[local spec] theorem stopAll_fenced (ids : List String) : Keeps (Fenced b) (stopAll ids) := by
  induction ids with
  | nil => exact Keeps.pure ()
  | cons first rest ih =>
    unfold stopAll
    refine (setState_fenced first .stopped (by decide)).bind fun _ => ?_
    exact (emit_fenced _).bind fun _ => ih

theorem Keeps.final_fenced {α : Type} {x : AdapterM α} (hx : Keeps (Fenced b) x) (h : Fenced b app) :
    Fenced b (x.final app) := by
  unfold AdapterM.final
  cases hrun : EStateM.run x app with
  | ok a app' => exact hx.ok h hrun
  | error err app' => exact hx.error h hrun

/-- no operation takes a backend out of the two states but its removal -/
theorem app_step_fenced (h : Fenced b app) {op : Op} (hop : op ≠ .remove b) : Fenced b (app.step op) := by
  cases op with
  | register r =>
    refine Keeps.final_fenced (Core.triple_iff.2 fun app h => ?_) h
    by_cases hb : app.registry.contains r.backendId = true
    · simpa [registerBackend, EStateM.run_bind, hb] using h
    · obtain ⟨entry, hget, hstate⟩ := h
      have hne : b ≠ r.backendId := by
        rintro rfl
        exact hb ((Dict.contains_iff _ _).2 ⟨entry, hget⟩)
      simp only [registerBackend, EStateM.run_bind, EStateM.run_get, if_neg hb]
      exact ⟨entry, (Dict.get?_set_ne _ _ hne).trans hget, hstate⟩
  | remove backendId =>
    have hne : b ≠ backendId := fun heq => hop (heq ▸ rfl)
    refine Keeps.final_fenced (Core.triple_iff.2 fun app h => ?_) h
    cases hentry : app.registry.get? backendId with
    | none => simpa [removeBackend, EStateM.run_bind, hentry] using h
    | some entry =>
      obtain ⟨entry', hget, hstate⟩ := h
      simp only [removeBackend, EStateM.run_bind, EStateM.run_get, hentry]
      exact ⟨entry', by simpa [Dict.get?_pop, hne] using hget, hstate⟩
  | startup probes =>
    have hkeeps : Keeps (Fenced b) (startup probes) := by
      mvcgen [startup]
    exact Keeps.final_fenced hkeeps h
  | shutdown =>
    have hkeeps : Keeps (Fenced b) shutdown := by
      mvcgen [shutdown]
    exact Keeps.final_fenced hkeeps h
  | refresh backendId health => exact Keeps.final_fenced (refresh_fenced backendId health) h

/-- the calls that the backend is handed -/
structure HandedNoMore (b : String) (s s' : SubmissionSystem) : Prop where
  counted : (s'.instruments.labels b).submissionsTotal = (s.instruments.labels b).submissionsTotal
  underway : s'.underwayTo b ≤ s.underwayTo b
  announced : ∀ batchId requestId, occurrences .batchSubmitted (b, batchId, requestId) s'.events =
    occurrences .batchSubmitted (b, batchId, requestId) s.events

theorem HandedNoMore.refl (b : String) (s : SubmissionSystem) : HandedNoMore b s s :=
  ⟨rfl, Nat.le_refl _, fun _ _ => rfl⟩

theorem HandedNoMore.trans {s' s'' : SubmissionSystem} (h : HandedNoMore b s s') (h' : HandedNoMore b s' s'') :
    HandedNoMore b s s'' :=
  ⟨h'.counted.trans h.counted, h'.underway.trans h.underway, fun i r => (h'.announced i r).trans (h.announced i r)⟩

theorem count_subjects_of_ne (hne : call.backendId ≠ b) (batchId : UUID) (requestId : Option UUID) :
    call.subjects.count (b, batchId, requestId) = 0 := by
  refine List.count_eq_zero.2 fun hmem => ?_
  simp only [Underway.subjects, List.mem_cons, List.mem_map, Prod.mk.injEq] at hmem
  rcases hmem with ⟨hb, -⟩ | ⟨a, -, hb, -⟩
  · exact hne hb.symm
  · exact hne hb

@[simp] theorem book_submissionsTotal (answer : BackendAnswer) (duration : ℕ) (m : BackendMetrics) :
    (answer.book duration m).submissionsTotal = m.submissionsTotal := by
  cases answer with
  | returned result =>
    simp only [BackendAnswer.book]
    split_ifs <;> rfl
  | rejected message | raised message | cancelled => rfl

theorem submissionsTotal_of_calls {m m' : BackendMetrics} (h : m'.calls = m.calls) :
    m'.submissionsTotal = m.submissionsTotal := by
  change m'.calls.submissionsTotal = m.calls.submissionsTotal
  rw [h]

theorem step_fenced (defaultBackendId : String) (h : Fenced b s.app) {op : SubmissionOp}
    (hop : op ≠ .admin (.remove b)) :
    Fenced b (s.step defaultBackendId op).app ∧ HandedNoMore b s (s.step defaultBackendId op) := by
  cases op with
  | admin op => exact ⟨app_step_fenced h fun heq => hop (heq ▸ rfl), rfl, Nat.le_refl _, fun _ _ => rfl⟩
  | submit batch backendId now =>
    rcases submitBatch_final defaultBackendId batch backendId now s with
      ⟨err, hrun⟩ | ⟨call, ⟨entry, hentry, hhealthy, hrunning⟩, hcall, hrun⟩
    · simpa only [SubmissionSystem.step, SubmitM.final, hrun] using ⟨h, HandedNoMore.refl b s⟩
    · have hne : call.backendId ≠ b := by
        rintro rfl
        obtain ⟨entry', hget, hstate⟩ := h
        obtain rfl : entry = entry' := by simpa [hentry] using hget
        simp [hhealthy, hrunning] at hstate
      simp only [SubmissionSystem.step, SubmitM.final, hrun]
      refine ⟨h, ?_, ?_, fun batchId requestId => ?_⟩
      · simp only [labels_record, if_neg (Ne.symm hne)]
      · simp only [SubmissionSystem.underwayTo, underwayTo_append, if_neg hne, Nat.add_zero, Nat.le_refl]
      · have hnone := occurrences_announced .batchSubmitted .batchSubmitted (b, batchId, requestId) call "submit_batch"
          (some batch.assignments.length)
        rw [if_pos rfl, count_subjects_of_ne hne] at hnone
        simp only [occurrences_append]
        simpa [occurrences] using hnone
  | answer i answer now =>
    simp only [SubmissionSystem.step]
    cases hi : s.underway[i]? with
    | none => exact ⟨h, HandedNoMore.refl b s⟩
    | some call =>
      obtain ⟨m, es, hfinal, hm, hes⟩ := resume_final call answer now
        { s with underway := s.underway.eraseIdx i, ended := s.ended ++ [(call, answer)] }
      simp only [hfinal]
      refine ⟨h, ?_, ?_, fun batchId requestId => ?_⟩
      · have hb := hm b
        split_ifs at hb
        · exact (submissionsTotal_of_calls hb).trans (book_submissionsTotal _ _ _)
        · exact submissionsTotal_of_calls hb
      · rw [underwayTo_eraseIdx hi b]
        exact Nat.le_add_right _ _
      · rw [occurrences_append, Nat.add_eq_left]
        rcases hes with rfl | ⟨eventType, hmem, reason, rfl⟩
        · rfl
        · rw [occurrences_announced, if_neg]
          rintro rfl
          simp at hmem

/-- **Nothing for a backend that is down.** From the state in which a backend is UNHEALTHY or STOPPED, no run that does
not remove it hands it another batch, whatever the other calls and the probes do: its submissions are not counted, not
underway and not announced, and a call that asks for it raises. -/
theorem fenced_receives_nothing (defaultBackendId : String) (h : Fenced b s.app) {ops : List SubmissionOp}
    (hops : SubmissionOp.admin (.remove b) ∉ ops) :
    let s' := run (SubmissionSystem.step defaultBackendId) s ops
    HandedNoMore b s s' ∧ ∀ batch backendId now, orElse (· = "") backendId defaultBackendId = b →
      ∃ message, EStateM.run (InferenceAdapterApplication.submitBatch defaultBackendId batch backendId now) s' =
        .error (.unavailable message b) s' := by
  intro s'
  have hmeets : Meets (SubmissionSystem.step defaultBackendId) (fun _ op => op ≠ .admin (.remove b)) s ops :=
    Meets.of_mem (A := fun op => op ≠ SubmissionOp.admin (.remove b)) (fun op hop heq => hops (heq ▸ hop)) s
  have hrun : Fenced b s'.app ∧ HandedNoMore b s s' := by
    refine hmeets.run_inv (I := fun t => Fenced b t.app ∧ HandedNoMore b s t) (fun t op ht hop => ?_)
      ⟨h, HandedNoMore.refl b s⟩
    have hstep := step_fenced defaultBackendId ht.1 hop
    exact ⟨hstep.1, ht.2.trans hstep.2⟩
  refine ⟨hrun.2, fun batch backendId now htarget => ?_⟩
  obtain ⟨entry, hentry, hstate⟩ := hrun.1
  refine ⟨s!"backend unavailable: {entry.state.value}", ?_⟩
  rw [← htarget] at hentry ⊢
  simp only [InferenceAdapterApplication.submitBatch, EStateM.run_bind, EStateM.run_get, hentry,
    if_pos hstate, run_throw']

/-- the mock is down while a call to it is underway; the next probe finds it up again -/
def downUnderway : SubmissionSystem :=
  run (SubmissionSystem.step "mock") .init
    [.admin (.register { backendId := "mock" }), .submit (sampleBatch false) none 0, .admin (.refresh "mock" down)]

theorem fenced_receives_nothing_mock :
    let s' := run (SubmissionSystem.step "mock") downUnderway
      [.answer 0 (.rejected "busy") 2, .admin (.refresh "mock" up), .submit (sampleBatch false) (some "") 3]
    (s'.instruments.labels "mock").submissionsTotal = 1 ∧ (s'.instruments.labels "mock").rejectionsTotal = 1 ∧
      HandedNoMore "mock" downUnderway s' := by
  refine ⟨by decide +kernel, by decide +kernel, ?_⟩
  exact (fenced_receives_nothing "mock" ⟨_, by rfl, by decide⟩ (by simp)).1

end InferencePlatform.Adapter
