/-
Request lifecycle: registration, transitions, admission, failure and completion.

`process_through_queued` waits for the admission checks. `processUntilAdmission` runs up to that `await`,
`processFromAdmission` from there to the end; `processThroughQueued` is the two in a row. Both parts stand in the same
`try`, whose handler is `guarded`. An admission check is a parameter: what it answers or raises.

An operation reads the clock once between two `await`s. `Op` collects the operations on one control plane, with the
queue operations the scheduler's reader and the inspection use.
-/
import InferencePlatform.ControlPlane.Queue

namespace InferencePlatform.ControlPlane

/-! ## Admission -/

inductive AdmissionOutcome
  | accept | reject | defer
  deriving DecidableEq, Repr

structure AdmissionResult where
  outcome : AdmissionOutcome
  reason : Option String := none
  deriving DecidableEq, Repr

/-- `AdmissionFramework.evaluate`: the first check that does not accept decides, and an exception ends the evaluation.
An error is the text of that exception. -/
def evaluate : List (Except String AdmissionResult) → Except String AdmissionResult
  | [] => .ok { outcome := .accept }
  | .error message :: _ => .error message
  | .ok result :: checks => if result.outcome ≠ .accept then .ok result else evaluate checks

/-! ## Transitions -/

/-- `_emit_state_event` -/
def emitStateEvent (eventType : LifecycleEventType) (entry : RegisteredRequest) (now : Time)
    (completion : Option InferenceCompletionRecord := none) : ControlPlaneM Unit :=
  emitLifecycle
    { eventType, requestId := entry.requestId, correlationId := entry.requestContext.traceId
      lifecycleState := entry.state, timestamp := now, model := entry.inferenceRequest.model, toState := entry.state
      batchId := entry.batchId, backendId := entry.backendId, completion }

/-- the event of a transition and whether it carries the failure reason; nothing is emitted for the other states -/
def transitionEvent : RequestState → Option (LifecycleEventType × Bool)
  | .validated => some (.requestValidated, false)
  | .admitted => some (.requestAdmitted, false)
  | .scheduled => some (.requestScheduled, false)
  | .batched => some (.requestBatched, false)
  | .submitted => some (.requestSubmitted, false)
  | .rejected => some (.requestRejected, true)
  | .failed | .timedOut => some (.requestFailed, true)
  | .completed => some (.requestCompleted, false)
  | .received | .queued | .prefilling | .decoding | .streaming | .cancelled => none

/-- `_emit_for_transition` -/
def emitForTransition (entry : RegisteredRequest) (fromState toState : RequestState) (now : Time) :
    ControlPlaneM Unit :=
  match transitionEvent toState with
  | none => pure ()
  | some (eventType, withReason) =>
    emitLifecycle
      { eventType, requestId := entry.requestId, correlationId := entry.requestContext.traceId
        lifecycleState := toState, timestamp := now, model := entry.inferenceRequest.model
        fromState := some fromState, toState, failureReason := if withReason then entry.failureReason else none
        batchId := entry.batchId, backendId := entry.backendId }

/-- the ids that are given are stored; the others stay -/
def RegisteredRequest.assign (batchId : Option UUID) (backendId : Option String) (entry : RegisteredRequest) :
    RegisteredRequest :=
  { entry with batchId := batchId.or entry.batchId, backendId := backendId.or entry.backendId }

def transition (requestId : UUID) (toState : RequestState) (now : Time) (batchId : Option UUID := none)
    (backendId : Option String := none) : ControlPlaneM Ref := do
  let ref ← getRef requestId
  modifyEntry ref (RegisteredRequest.assign batchId backendId)
  let fromState := (← derefEntry ref).state
  if isAllowedTransition fromState toState then
    let updated ← updateState .transition requestId toState now
    emitForTransition (← derefEntry updated) fromState toState now
    return updated
  else throw (.invalidTransition requestId fromState toState)

/-- a failure of category `internal`; a state with no edge to FAILED is overwritten -/
def markFailed (requestId : UUID) (reason : FailureReason) (message : String) (now : Time)
    (batchId : Option UUID := none) (backendId : Option String := none) : ControlPlaneM Ref := do
  let ref ← getRef requestId
  modifyEntry ref (RegisteredRequest.assign batchId backendId)
  let previousState := (← derefEntry ref).state
  let failure := internalFailure message reason
  if isAllowedTransition previousState (targetState failure.category) then
    let updated ← transition requestId (targetState failure.category) now
    modifyEntry updated (RegisteredRequest.applyFailure .markFailed failure)
    return updated
  else
    modifyEntry ref (RegisteredRequest.applyFailure .markFailed failure)
    let _ ← updateState .markFailed requestId (targetState failure.category) now
    emitStateEvent .requestFailed (← derefEntry ref) now
    return ref

def completeRequest (requestId : UUID) (completion : Option InferenceCompletionRecord) (now : Time) :
    ControlPlaneM Ref := do
  let ref ← getRef requestId
  let state := (← derefEntry ref).state
  if state ≠ .submitted ∧ state ≠ .streaming then
    throw (.invalidTransition requestId state .completed)
  else
    modifyEntry ref fun entry => { entry with completion := completion.or entry.completion }
    let updated ← transition requestId .completed now
    emitStateEvent .requestCompleted (← derefEntry updated) now completion
    return updated

/-! ## Registration and admission -/

/-- an id that is in the registry already is overwritten -/
def register (cfg : Settings) (submit : SubmitRequest) (initialState : RequestState) (now : Time) :
    ControlPlaneM Ref := do
  if initialState ≠ .received ∧ initialState ≠ .validated then
    throw (.invalidTransition submit.inferenceRequest.requestId .received initialState)
  else
    let entry : RegisteredRequest := { submit, state := initialState, createdAt := now, updatedAt := now }
    let ref := (← get).entries.length
    if cfg.registryMaxEntries ≤ (← get).registry.items.length then
      throw (.runtimeError "request registry at capacity")
    else
      modify fun cp =>
        { cp with entries := cp.entries ++ [entry], registry := cp.registry.set entry.requestId ref }
      emitStateEvent (if initialState = .received then .requestReceived else .requestValidated) entry now
      return ref

/-- `run_admission` up to the `await` -/
def startAdmission (requestId : UUID) : ControlPlaneM Ref := do
  let ref ← getRef requestId
  let state := (← derefEntry ref).state
  if state ≠ .validated then throw (.invalidTransition requestId state .admitted) else return ref

/-- `run_admission` from the `await` on; `ref` is the entry it holds -/
def finishAdmission (requestId : UUID) (ref : Ref) (result : Except String AdmissionResult) (now : Time) :
    ControlPlaneM Ref := do
  match result with
  | .error message => throw (.checkRaised message)
  | .ok result =>
    if result.outcome = .accept then transition requestId .admitted now
    else
      modifyEntry ref (RegisteredRequest.applyFailure .runAdmission
        (admissionFailure (if result.reason.getD "" = "" then "admission rejected" else result.reason.getD "")))
      modifyEntry ref (RegisteredRequest.enter .runAdmission .rejected)
      let _ ← updateState .runAdmission requestId .rejected now
      emitStateEvent .requestRejected (← derefEntry ref) now
      return ref

def runAdmission (requestId : UUID) (checks : List (Except String AdmissionResult)) (now : Time) :
    ControlPlaneM Ref := do
  let ref ← startAdmission requestId
  finishAdmission requestId ref (evaluate checks) now

/-! ## From RECEIVED to QUEUED -/

/-- the `except` clauses of `process_through_queued` -/
def guarded {α : Type} (requestId : UUID) (now : Time) (returned : Ref → α) (x : ControlPlaneM α) : ControlPlaneM α :=
  fun cp =>
    match x cp with
    | .ok a cp' => .ok a cp'
    | .error (.invalidTransition r s t) cp' => .error (.invalidTransition r s t) cp'
    | .error (.internalFailure message) cp' => .error (.internalFailure message) cp'
    | .error err cp' =>
      (do
        let failed ← markFailed requestId .internalError s!"control plane error: {err.message}" now
        return returned failed) cp'

/-- what `process_through_queued` has reached: the `await` on the admission checks, holding the entry, or its end -/
inductive Intake
  | admitting (ref : Ref)
  | returned (ref : Ref)
  deriving DecidableEq, Repr

def processUntilAdmission (cfg : Settings) (submit : SubmitRequest) (now : Time) : ControlPlaneM Intake :=
  guarded submit.inferenceRequest.requestId now .returned do
    let requestId := submit.inferenceRequest.requestId
    let _ ← processTimeouts cfg.queue now
    let _ ← register cfg submit .received now
    let _ ← transition requestId .validated now
    return .admitting (← startAdmission requestId)

def processFromAdmission (cfg : Settings) (requestId : UUID) (ref : Ref) (result : Except String AdmissionResult)
    (now : Time) : ControlPlaneM Ref :=
  guarded requestId now id do
    let entry ← finishAdmission requestId ref result now
    let state := (← derefEntry entry).state
    if state = .rejected then return entry
    else if state ≠ .admitted then
      throw (.internalFailure s!"unexpected state after admission: {state.value}")
    else enqueueFromAdmitted cfg.queue requestId now

/-- `now'` is the time when the admission checks have answered -/
def processThroughQueued (cfg : Settings) (submit : SubmitRequest) (checks : List (Except String AdmissionResult))
    (now now' : Time) : ControlPlaneM Ref := do
  match ← processUntilAdmission cfg submit now with
  | .returned ref => return ref
  | .admitting ref => processFromAdmission cfg submit.inferenceRequest.requestId ref (evaluate checks) now'

/-- the stream engine's cancellation: a request that is being executed becomes CANCELLED -/
def cancel (requestId : UUID) (now : Time) : ControlPlaneM Ref := do
  let ref ← getRef requestId
  let state := (← derefEntry ref).state
  if state = .streaming ∨ state = .submitted then transition requestId .cancelled now else return ref

/-! ## The operations of a control plane -/

inductive Op
  | register (submit : SubmitRequest) (initialState : RequestState) (now : Time)
  | transition (requestId : UUID) (toState : RequestState) (now : Time) (batchId : Option UUID)
    (backendId : Option String)
  | runAdmission (requestId : UUID) (checks : List (Except String AdmissionResult)) (now : Time)
  | enqueueFromAdmitted (requestId : UUID) (now : Time)
  | processThroughQueued (submit : SubmitRequest) (checks : List (Except String AdmissionResult)) (now now' : Time)
  | processTimeouts (now : Time)
  | markFailed (requestId : UUID) (reason : FailureReason) (message : String) (now : Time) (batchId : Option UUID)
    (backendId : Option String)
  | completeRequest (requestId : UUID) (completion : Option InferenceCompletionRecord) (now : Time)
  | cancel (requestId : UUID) (now : Time)
  | dequeueNext (now : Time)
  | peek (now : Time)
  | listItems (now : Time)
  | remove (requestId : UUID) (now : Time)
  | clear
  | getQueueSnapshot (queueName : String) (now : Time)
  | getQueueStatistics (now : Time)
  | listQueuedRequests (now : Time)
  | listQueueItems (limit : ℕ) (now : Time)

/-- the state an operation leaves, whether it returns or raises -/
def ControlPlaneM.final {α : Type} (x : ControlPlaneM α) (cp : ControlPlaneApplication) : ControlPlaneApplication :=
  match EStateM.run x cp with
  | .ok _ cp' => cp'
  | .error _ cp' => cp'

def ControlPlaneApplication.step (cfg : Settings) (cp : ControlPlaneApplication) : Op → ControlPlaneApplication
  | .register submit initialState now => (register cfg submit initialState now).final cp
  | .transition requestId toState now batchId backendId =>
    (ControlPlane.transition requestId toState now batchId backendId).final cp
  | .runAdmission requestId checks now => (runAdmission requestId checks now).final cp
  | .enqueueFromAdmitted requestId now => (enqueueFromAdmitted cfg.queue requestId now).final cp
  | .processThroughQueued submit checks now now' => (processThroughQueued cfg submit checks now now').final cp
  | .processTimeouts now => (processTimeouts cfg.queue now).final cp
  | .markFailed requestId reason message now batchId backendId =>
    (markFailed requestId reason message now batchId backendId).final cp
  | .completeRequest requestId completion now => (completeRequest requestId completion now).final cp
  | .cancel requestId now => (cancel requestId now).final cp
  | .dequeueNext now => (dequeueNext cfg.queue now).final cp
  | .peek now => (peek cfg.queue now).final cp
  | .listItems now => (listItems cfg.queue now).final cp
  | .remove requestId now => (remove requestId now).final cp
  | .clear => clear.final cp
  | .getQueueSnapshot queueName now => (getQueueSnapshot cfg.queue queueName now).final cp
  | .getQueueStatistics now => (getQueueStatistics cfg.queue now).final cp
  | .listQueuedRequests now => (listQueuedRequests cfg.queue now).final cp
  | .listQueueItems limit now => (listQueueItems cfg.queue limit now).final cp

end InferencePlatform.ControlPlane
