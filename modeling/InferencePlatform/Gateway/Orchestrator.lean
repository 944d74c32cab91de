/-
The orchestrated platform: request paths over the embedded control plane, scheduler and inference adapter.

A call runs from one `await` to the next; its `Phase` is what it holds while it waits, and an `Event` is what resumes
it. Between two awaits nothing else runs, so a `PlatformOp` is one atomic step: a call is made, a call is resumed, the
background loop runs a cycle (it dispatches nothing), or queue timeouts are processed. Calls interleave in any order.

The streaming path is `stream_sse` around `execute_streaming_path`: its handler for exceptions marks the request failed,
but only after two events have been sent to the client, so it is a step of its own. A stream may also be left for good
at any of these points, when the client's connection goes away.

Left out: sessions, chunks, metrics and spans, which do not reach the registry, the queue or the engine.
-/
import InferencePlatform.Scheduling.Cycle

namespace InferencePlatform.Gateway

open InferencePlatform.Core (Dict run)
open ControlPlane (ControlPlaneApplication ControlPlaneM ControlPlaneError Ref AdmissionResult)
open Batching (ContinuousBatchEngine EngineM EngineError BatchPlacementDecision BatchRejectionDecision)
open Dispatch (BatchDispatchService BatchDispatchResult DispatchConfig Route SubmitTask Attempt AdapterOutcome)
open Scheduling (SchedulingResult SchedulerPolicy CycleState runCycle)

/-! ## State -/

structure Settings where
  controlPlane : ControlPlane.Settings
  scheduler : Scheduling.Settings
  dispatch : DispatchConfig
  dispatchEnabled : Bool

structure PlatformStack where
  controlPlane : ControlPlaneApplication
  policy : SchedulerPolicy
  engine : ContinuousBatchEngine
  dispatch : BatchDispatchService

def PlatformStack.init (policy : SchedulerPolicy) : PlatformStack :=
  ⟨ControlPlaneApplication.init, policy, ContinuousBatchEngine.init, BatchDispatchService.init⟩

inductive PlatformError
  | controlPlane (err : ControlPlaneError)
  | engine (err : EngineError)
  | runtimeError (message : String)
  /-- an exception of the backend, or of what stores a finished stream -/
  | raised (message : String)
  deriving DecidableEq, Repr

/-- `str(exc)` -/
def PlatformError.message : PlatformError → String
  | .controlPlane err => err.message
  | .engine (.invalidBatchTransition fromState toState) =>
    s!"invalid batch transition: {fromState.value} -> {toState.value}"
  | .engine (.keyError key) => s!"{key}"
  | .engine (.requestAlreadyInBatch requestId) => s!"request already in batch: {requestId}"
  | .engine (.injectedFailure _ message) => message
  | .runtimeError message | .raised message => message

abbrev PlatformM := EStateM PlatformError PlatformStack

def onControlPlane {α : Type} (x : ControlPlaneM α) : PlatformM α := fun s =>
  match x s.controlPlane with
  | .ok a controlPlane => .ok a { s with controlPlane }
  | .error err controlPlane => .error (.controlPlane err) { s with controlPlane }

def onEngine {α : Type} (x : EngineM α) : PlatformM α := fun s =>
  match x s.engine with
  | .ok a engine => .ok a { s with engine }
  | .error err engine => .error (.engine err) { s with engine }

/-! ## Calls -/

inductive Path
  /-- the gateway accepts a streaming request: up to the queue, no execution -/
  | acceptRequest (submit : SubmitRequest)
  | executeFullPath (submit : SubmitRequest)
  /-- `stream_sse` over `execute_streaming_path` -/
  | streamSse (submit : SubmitRequest)
  /-- `run_scheduling_cycle` for no request in particular -/
  | runSchedulingCycle
  deriving DecidableEq

def Path.requestId? : Path → Option UUID
  | .acceptRequest submit | .executeFullPath submit | .streamSse submit => some submit.inferenceRequest.requestId
  | .runSchedulingCycle => none

inductive Phase
  /-- waits for the admission checks, holding the entry -/
  | admitting (ref : Ref)
  /-- waits for its scheduling cycle, which has not run yet -/
  | scheduling
  /-- its cycle has run -/
  | scheduled (result : SchedulingResult)
  /-- waits for the adapter inside `submit_pending_batches` -/
  | submitting (result : SchedulingResult) (task : SubmitTask)
  /-- waits for `get_request_completion` -/
  | executing (backendId : String)
  /-- waits for the next chunk of the stream -/
  | streaming (backendId : String)
  /-- waits for `cancel_request` -/
  | cancelling
  /-- the stream is at its end; its result is to be stored -/
  | persisting
  /-- an exception has reached `stream_sse`; the failure is to be stored -/
  | streamFailed (err : PlatformError)
  | returned
  | raised (err : PlatformError)
  deriving DecidableEq

structure Call where
  path : Path
  phase : Phase
  deriving DecidableEq

/-- the phase after an exception -/
def Path.failed : Path → PlatformError → Phase
  | .streamSse _, err => .streamFailed err
  | .acceptRequest _, err | .executeFullPath _, err | .runSchedulingCycle, err => .raised err

/-! ## Intake -/

/-- what the path does with the entry `process_through_queued` has returned, or with one it has found QUEUED -/
def afterIntake (path : Path) (ref : Ref) : PlatformM Phase := do
  let state := (← onControlPlane (ControlPlane.derefEntry ref)).state
  match path with
  | .acceptRequest _ | .runSchedulingCycle => return .returned
  | .executeFullPath _ => if state = .queued then return .scheduling else return .returned
  | .streamSse _ =>
    if isTerminalRequestState state then throw (.runtimeError s!"request terminated before streaming: {state.value}")
    else if state ≠ .queued then throw (.runtimeError s!"unexpected pre-stream state: {state.value}")
    else return .scheduling

def startIntake (cfg : Settings) (path : Path) (submit : SubmitRequest) (now : Time) : PlatformM Phase := do
  match ← onControlPlane (ControlPlane.processUntilAdmission cfg.controlPlane submit now) with
  | .admitting ref => return .admitting ref
  | .returned ref => afterIntake path ref

/-- the states a streaming call takes a registered request through the intake again from -/
def retakes (state : RequestState) : Bool := state ∈ [RequestState.received, .validated, .admitted]

def startStreaming (cfg : Settings) (submit : SubmitRequest) (now : Time) : PlatformM Phase := do
  match (← get).controlPlane.registry.get? submit.inferenceRequest.requestId with
  | none => startIntake cfg (.streamSse submit) submit now
  | some ref =>
    let state := (← onControlPlane (ControlPlane.derefEntry ref)).state
    if retakes state then startIntake cfg (.streamSse submit) submit now else afterIntake (.streamSse submit) ref

def start (cfg : Settings) (path : Path) (now : Time) : PlatformM Phase :=
  match path with
  | .acceptRequest submit | .executeFullPath submit => startIntake cfg path submit now
  | .streamSse submit => startStreaming cfg submit now
  | .runSchedulingCycle => return .scheduling

def finishIntake (cfg : Settings) (path : Path) (requestId : UUID) (ref : Ref) (result : Except String AdmissionResult)
    (now : Time) : PlatformM Phase := do
  let ref ← onControlPlane (ControlPlane.processFromAdmission cfg.controlPlane requestId ref result now)
  afterIntake path ref

/-! ## After dispatch -/

def findPlacement (decisions : List BatchPlacementDecision) (requestId : UUID) : Option BatchPlacementDecision :=
  decisions.find? fun d => d.requestId = requestId

def findBatchRejection (decisions : List BatchRejectionDecision) (requestId : UUID) : Option BatchRejectionDecision :=
  decisions.find? fun d => d.requestId = requestId

def findDispatch (results : List BatchDispatchResult) (batchId : UUID) : Option BatchDispatchResult :=
  results.find? fun d => d.batchId = batchId

/-- what a cycle's result says about a request, in the order in which both paths look -/
inductive Verdict
  | rejected (reason : String)
  | notSelected
  | notDispatched (placement : BatchPlacementDecision) (reason : String)
  | dispatched (placement : BatchPlacementDecision) (dispatch : BatchDispatchResult)
  deriving DecidableEq

def verdict (result : SchedulingResult) (requestId : UUID) : Verdict :=
  match findBatchRejection result.rejectionDecisions requestId with
  | some rejection => .rejected rejection.decisionReason
  | none =>
    match findPlacement result.placementDecisions requestId with
    | none => .notSelected
    | some placement =>
      match findDispatch result.dispatchResults placement.batchId with
      | none => .notDispatched placement "batch_not_dispatched"
      | some dispatch =>
        if dispatch.accepted then .dispatched placement dispatch else .notDispatched placement dispatch.reason

def markFailed (requestId : UUID) (reason : FailureReason) (message : String) (now : Time)
    (batchId : Option UUID := none) : PlatformM Unit := do
  let _ ← onControlPlane (ControlPlane.markFailed requestId reason message now batchId)

def transition (requestId : UUID) (toState : RequestState) (now : Time) (batchId : Option UUID := none)
    (backendId : Option String := none) : PlatformM Unit := do
  let _ ← onControlPlane (ControlPlane.transition requestId toState now batchId backendId)

/-- QUEUED to BATCHED, once the request is known to be placed -/
def markBatched (requestId : UUID) (placement : BatchPlacementDecision) (now : Time) : PlatformM Unit := do
  transition requestId .scheduled now placement.batchId
  transition requestId .batched now

/-- `_finalize_request` up to its `await` -/
def finalizeRequest (requestId : UUID) (result : SchedulingResult) (now : Time) : PlatformM Phase := do
  match verdict result requestId with
  | .rejected reason =>
    markFailed requestId .adapterError reason now
    return .returned
  | .notSelected =>
    if requestId ∈ result.skippedRequestIds then
      let _ ← onControlPlane (ControlPlane.getRef requestId)
      return .returned
    else
      markFailed requestId .internalError "scheduler_did_not_select_request" now
      return .returned
  | .notDispatched placement reason =>
    markBatched requestId placement now
    markFailed requestId .adapterError reason now placement.batchId
    return .returned
  | .dispatched placement dispatch =>
    markBatched requestId placement now
    transition requestId .submitted now none dispatch.backendId
    return .executing dispatch.backendId

/-- what the adapter's registry and the routing engine answer in a step -/
structure AdapterView where
  route : Route
  /-- a backend is registered under the id -/
  hasBackend : String → Bool

/-- `execute_streaming_path` from the cycle's result to the first chunk -/
def openStream (requestId : UUID) (result : SchedulingResult) (view : AdapterView) (now : Time) : PlatformM Phase := do
  match verdict result requestId with
  | .rejected reason =>
    markFailed requestId .adapterError reason now
    throw (.runtimeError reason)
  | .notSelected =>
    markFailed requestId .internalError "scheduler_did_not_select_request" now
    throw (.runtimeError "scheduler_did_not_select_request")
  | .notDispatched placement reason =>
    markBatched requestId placement now
    markFailed requestId .adapterError reason now placement.batchId
    throw (.runtimeError reason)
  | .dispatched placement dispatch =>
    markBatched requestId placement now
    transition requestId .submitted now none dispatch.backendId
    transition requestId .streaming now
    if view.hasBackend dispatch.backendId then return .streaming dispatch.backendId
    else throw (.runtimeError s!"backend not found: {dispatch.backendId}")

def afterDispatch (path : Path) (result : SchedulingResult) (view : AdapterView) (now : Time) : PlatformM Phase :=
  match path with
  | .executeFullPath submit => finalizeRequest submit.inferenceRequest.requestId result now
  | .streamSse submit => openStream submit.inferenceRequest.requestId result view now
  | .acceptRequest _ | .runSchedulingCycle => return .returned

/-! ## Scheduling and dispatch -/

def schedulingCycle (cfg : Settings) (inj : FailureInjectionConfig) (now : Time) : PlatformM SchedulingResult :=
  modifyGet fun s =>
    let (c, result) := runCycle cfg.scheduler cfg.controlPlane.queue inj now ⟨s.controlPlane, s.policy, s.engine⟩
    (result, { s with controlPlane := c.controlPlane, policy := c.policy, engine := c.engine })

/-- the call waits for the adapter, or `submit_pending_batches` has returned -/
def afterSubmit (path : Path) (result : SchedulingResult) (view : AdapterView) (now : Time) (task : SubmitTask) :
    PlatformM Phase :=
  match task.attempt with
  | some _ => return .submitting result task
  | none => afterDispatch path { result with dispatchResults := task.results } view now

def startDispatch (cfg : Settings) (path : Path) (result : SchedulingResult) (view : AdapterView) (now : Time) :
    PlatformM Phase := do
  if cfg.dispatchEnabled then
    let task ← modifyGet fun s =>
      let (dispatch, task) := Dispatch.submitPending cfg.dispatch view.route s.engine s.dispatch
      (task, { s with dispatch })
    afterSubmit path result view now task
  else afterDispatch path result view now

def resumeDispatch (cfg : Settings) (path : Path) (result : SchedulingResult) (task : SubmitTask) (a : Attempt)
    (view : AdapterView) (outcome : AdapterOutcome) (now : Time) : PlatformM Phase := do
  let task ← modifyGet fun s =>
    let (dispatch, task) := task.resumeWith cfg.dispatch view.route s.engine s.dispatch a outcome
    (task, { s with dispatch })
  afterSubmit path result view now task

/-! ## Execution -/

/-- the batch slot is released, then the request is COMPLETED -/
def completeRequest (requestId : UUID) (completion : Option InferenceCompletionRecord) (now : Time) :
    PlatformM Unit := do
  let _ ← onEngine (Batching.completeRequest requestId now)
  let _ ← onControlPlane (ControlPlane.completeRequest requestId completion now)

/-- what storing a stream's result or failure, or a call of the adapter, comes to -/
def orRaise {α : Type} : Except String α → PlatformM α
  | .ok a => return a
  | .error message => throw (.raised message)

/-- `_handle_cancel` from its `await` on -/
def handleCancel (requestId : UUID) (outcome persisted : Except String Unit) (now : Time) : PlatformM Phase := do
  orRaise outcome
  let _ ← onControlPlane (ControlPlane.cancel requestId now)
  orRaise persisted
  return .returned

/-- `_persist_stream_failure` -/
def persistStreamFailure (requestId : UUID) (err : PlatformError) (now : Time) : PlatformM Phase := do
  let state := (← onControlPlane (do ControlPlane.derefEntry (← ControlPlane.getRef requestId))).state
  if state = .failed ∨ state = .cancelled then return .returned
  else
    markFailed requestId .adapterError err.message now
    return .returned

/-! ## Steps -/

/-- what a suspended call is resumed with -/
inductive Event
  | admission (result : Except String AdmissionResult)
  | cycle (inj : FailureInjectionConfig)
  | dispatch (view : AdapterView)
  | adapter (view : AdapterView) (outcome : AdapterOutcome)
  | completion (outcome : Except String (Option InferenceCompletionRecord))
  | streamEnd
  | streamError (message : String)
  /-- the client has asked for it, or has gone away -/
  | cancelStream
  | cancelled (outcome persisted : Except String Unit)
  | persistResult (outcome : Except String Unit)
  | persistFailure

/-- `none`: the call does not wait for this -/
def advance (cfg : Settings) (call : Call) (now : Time) : Event → Option (PlatformM Phase)
  | .admission result =>
    match call.phase, call.path.requestId? with
    | .admitting ref, some requestId => finishIntake cfg call.path requestId ref result now
    | _, _ => none
  | .cycle inj =>
    match call.phase with
    | .scheduling => some do return .scheduled (← schedulingCycle cfg inj now)
    | _ => none
  | .dispatch view =>
    match call.phase with
    | .scheduled result => startDispatch cfg call.path result view now
    | _ => none
  | .adapter view outcome =>
    match call.phase with
    | .submitting result task => task.attempt.map fun a => resumeDispatch cfg call.path result task a view outcome now
    | _ => none
  | .completion outcome =>
    match call.phase, call.path.requestId? with
    | .executing _, some requestId => some do
      completeRequest requestId (← orRaise outcome) now
      return .returned
    | _, _ => none
  | .streamEnd =>
    match call.phase, call.path.requestId? with
    | .streaming _, some requestId => some do
      completeRequest requestId none now
      return .persisting
    | _, _ => none
  | .streamError message =>
    match call.phase with
    | .streaming _ => some (throw (.raised message))
    | _ => none
  | .cancelStream =>
    match call.phase with
    | .streaming _ => some (pure .cancelling)
    | _ => none
  | .cancelled outcome persisted =>
    match call.phase, call.path.requestId? with
    | .cancelling, some requestId => handleCancel requestId outcome persisted now
    | _, _ => none
  | .persistResult outcome =>
    match call.phase with
    | .persisting => some do
      orRaise outcome
      return .returned
    | _ => none
  | .persistFailure =>
    match call.phase, call.path.requestId? with
    | .streamFailed err, some requestId => persistStreamFailure requestId err now
    | _, _ => none

structure Platform where
  stack : PlatformStack
  /-- every call made so far -/
  calls : List Call

def Platform.init (policy : SchedulerPolicy) : Platform := ⟨PlatformStack.init policy, []⟩

inductive PlatformOp
  | call (path : Path) (now : Time)
  | resume (i : ℕ) (event : Event) (now : Time)
  /-- the background loop -/
  | tick (inj : FailureInjectionConfig) (now : Time)
  | processTimeouts (now : Time)

/-- the stack and the phase a piece of a call leaves, whether or not it raises -/
def perform (path : Path) (x : PlatformM Phase) (s : PlatformStack) : PlatformStack × Phase :=
  match EStateM.run x s with
  | .ok phase s' => (s', phase)
  | .error err s' => (s', path.failed err)

/-- the stack a piece without a call leaves -/
def PlatformM.final {α : Type} (x : PlatformM α) (s : PlatformStack) : PlatformStack :=
  match EStateM.run x s with
  | .ok _ s' => s'
  | .error _ s' => s'

/-- the call number `i` and what the event makes it do -/
def Platform.resumption (cfg : Settings) (p : Platform) (i : ℕ) (event : Event) (now : Time) :
    Option (Call × PlatformM Phase) := do
  let call ← p.calls[i]?
  let x ← advance cfg call now event
  return (call, x)

def Platform.step (cfg : Settings) (p : Platform) : PlatformOp → Platform
  | .call path now =>
    let (stack, phase) := perform path (start cfg path now) p.stack
    { stack, calls := p.calls ++ [⟨path, phase⟩] }
  | .resume i event now =>
    match p.resumption cfg i event now with
    | none => p
    | some (call, x) =>
      let (stack, phase) := perform call.path x p.stack
      { stack, calls := p.calls.set i { call with phase } }
  | .tick inj now => { p with stack := (schedulingCycle cfg inj now).final p.stack }
  | .processTimeouts now =>
    { p with stack := (onControlPlane (ControlPlane.processTimeouts cfg.controlPlane.queue now)).final p.stack }

end InferencePlatform.Gateway
