/-
The control plane's data: registered requests, the waiting queue's items, events and errors, and the transition table.

A `RegisteredRequest` is an object that the registry and a queue item may both hold, so entries live in a list and are
named by their index, a `Ref`. Nothing is ever taken out of the list: an entry the registry has overwritten is still
reachable from a queue item.

`changes` is not in the source. It records every assignment to `state`, with the operation that made it.

Left out: metrics, spans, and the fields of a classified failure that nothing reads (owner, propagation, retry).
-/
import InferencePlatform.Schemas
import InferencePlatform.Core.Dict

namespace InferencePlatform.ControlPlane

open InferencePlatform.Core (Dict)

/-! ## Allowed transitions -/

def allowedRequestTransitions : RequestState → List RequestState
  | .received => [.validated, .cancelled, .failed]
  | .validated => [.admitted, .rejected, .cancelled]
  | .admitted => [.queued, .scheduled, .rejected, .cancelled, .failed]
  | .queued => [.scheduled, .rejected, .timedOut, .cancelled, .failed]
  | .scheduled => [.batched, .prefilling, .failed, .timedOut, .cancelled]
  | .batched => [.submitted, .rejected, .failed, .cancelled]
  | .submitted => [.streaming, .decoding, .completed, .failed, .cancelled]
  | .prefilling => [.decoding, .failed, .timedOut, .cancelled]
  | .decoding => [.streaming, .completed, .failed, .timedOut, .cancelled]
  | .streaming => [.completed, .cancelled, .failed]
  | .completed | .failed | .timedOut | .rejected | .cancelled => []

def isAllowedTransition (fromState toState : RequestState) : Bool :=
  if isTerminalRequestState fromState then false else toState ∈ allowedRequestTransitions fromState

theorem isAllowedTransition_of_terminal {s : RequestState} (h : isTerminalRequestState s = true) (t : RequestState) :
    isAllowedTransition s t = false := by
  simp [isAllowedTransition, h]

/-- the check for terminal states repeats what the table says -/
theorem isAllowedTransition_eq (s t : RequestState) :
    isAllowedTransition s t = decide (t ∈ allowedRequestTransitions s) := by
  cases s <;> rfl

/-! ## Registered requests -/

/-- an entry's place in memory -/
abbrev Ref := ℕ

/-- the operation that assigns a state -/
inductive StateWriter
  | transition | runAdmission | enqueue | markFailed | processTimeouts
  deriving DecidableEq, Repr

structure StateChange where
  fromState : RequestState
  toState : RequestState
  writer : StateWriter
  deriving DecidableEq, Repr

structure RegisteredRequest where
  submit : SubmitRequest
  state : RequestState
  createdAt : Time
  updatedAt : Time
  failureReason : Option FailureReason := none
  failureMessage : Option String := none
  queueEnteredAt : Option Time := none
  queuePosition : Option ℕ := none
  batchId : Option UUID := none
  backendId : Option String := none
  completion : Option InferenceCompletionRecord := none
  changes : List StateChange := []
  deriving DecidableEq, Repr

namespace RegisteredRequest

def requestId (e : RegisteredRequest) : UUID := e.submit.inferenceRequest.requestId

def inferenceRequest (e : RegisteredRequest) : InferenceRequest := e.submit.inferenceRequest

def requestContext (e : RegisteredRequest) : RequestContext := e.submit.requestContext

/-- the assignment `entry.state = state` -/
def enter (writer : StateWriter) (state : RequestState) (e : RegisteredRequest) : RegisteredRequest :=
  { e with state, changes := e.changes ++ [⟨e.state, state, writer⟩] }

@[simp] theorem enter_state (w : StateWriter) (s : RequestState) (e : RegisteredRequest) :
    (e.enter w s).state = s := rfl

@[simp] theorem enter_submit (w : StateWriter) (s : RequestState) (e : RegisteredRequest) :
    (e.enter w s).submit = e.submit := rfl

end RegisteredRequest

structure QueuedRequest where
  requestId : UUID
  entry : Ref
  queueEnteredAt : Time
  queuePosition : ℕ
  queueName : String
  priorityClass : PriorityClass
  deriving DecidableEq, Repr

structure QueueCapacityConfig where
  maxQueueSize : ℕ
  queueTimeoutMs : ℕ
  deriving DecidableEq, Repr

def QueueCapacityConfig.validate (c : QueueCapacityConfig) : Except String Unit :=
  if c.maxQueueSize < 1 then .error "max_queue_size must be >= 1"
  else if c.queueTimeoutMs < 1 then .error "queue_timeout_ms must be >= 1"
  else .ok ()

structure Settings where
  registryMaxEntries : ℕ
  queue : QueueCapacityConfig
  deriving DecidableEq, Repr

/-! ## Failures -/

inductive FailureCategory
  | validation | admission | scheduler | backend | internal
  deriving DecidableEq, Repr

structure ClassifiedFailure where
  category : FailureCategory
  reason : FailureReason
  message : String
  deriving DecidableEq, Repr

def admissionFailure (message : String) (reason : FailureReason := .queueFull) : ClassifiedFailure :=
  ⟨.admission, reason, message⟩

def internalFailure (message : String) (reason : FailureReason := .internalError) : ClassifiedFailure :=
  ⟨.internal, reason, message⟩

/-- `FailureFramework.target_state` -/
def targetState : FailureCategory → RequestState
  | .admission | .validation => .rejected
  | .scheduler | .backend | .internal => .failed

/-- `FailureFramework.apply_to_request` -/
def RegisteredRequest.applyFailure (writer : StateWriter) (failure : ClassifiedFailure) (e : RegisteredRequest) :
    RegisteredRequest :=
  { e.enter writer (targetState failure.category) with
    failureReason := some failure.reason, failureMessage := some failure.message }

inductive ControlPlaneError
  | invalidTransition (requestId : UUID) (fromState toState : RequestState)
  | requestNotFound (requestId : UUID)
  | internalFailure (message : String)
  | valueError (message : String)
  | runtimeError (message : String)
  /-- an exception of an admission check -/
  | checkRaised (message : String)
  deriving DecidableEq, Repr

/-- `str(exc)` -/
def ControlPlaneError.message : ControlPlaneError → String
  | .invalidTransition requestId fromState toState =>
    s!"invalid transition for {requestId}: {fromState.value} -> {toState.value}"
  | .requestNotFound requestId => s!"request not found: {requestId}"
  | .internalFailure message | .valueError message | .runtimeError message | .checkRaised message => message

/-! ## Events -/

inductive LifecycleEventType
  | requestReceived | requestValidated | requestAdmitted | requestQueued | requestScheduled | requestBatched
  | requestSubmitted | requestRejected | requestFailed | requestCompleted
  deriving DecidableEq, Repr

structure LifecycleEvent where
  eventType : LifecycleEventType
  requestId : UUID
  correlationId : String
  lifecycleState : RequestState
  timestamp : Time
  model : String
  fromState : Option RequestState := none
  toState : RequestState
  failureReason : Option FailureReason := none
  batchId : Option UUID := none
  backendId : Option String := none
  completion : Option InferenceCompletionRecord := none
  queuePosition : Option ℕ := none
  deriving DecidableEq, Repr

inductive QueueEventType
  | requestEnqueued | requestDequeued | queueFull | queueTimeout | queueRemoved
  deriving DecidableEq, Repr

structure QueueEvent where
  eventType : QueueEventType
  requestId : UUID
  correlationId : String
  timestamp : Time
  model : String
  queuePosition : Option ℕ
  reason : Option String := none
  queueDepth : Option ℕ := none
  queueWaitDuration : Option ℤ := none
  requestAge : Option ℤ := none
  queueName : Option String := none
  deriving DecidableEq, Repr

inductive Event
  | lifecycle (event : LifecycleEvent)
  | queue (event : QueueEvent)
  deriving DecidableEq, Repr

namespace Event

def lifecycle? : Event → Option LifecycleEvent
  | lifecycle event => some event
  | queue _ => none

def queue? : Event → Option QueueEvent
  | lifecycle _ => none
  | queue event => some event

end Event

/-! ## State -/

structure ControlPlaneApplication where
  entries : List RegisteredRequest
  registry : Dict UUID Ref
  /-- the waiting queue, head first -/
  items : List QueuedRequest
  /-- what has been emitted, in order -/
  events : List Event

def ControlPlaneApplication.init : ControlPlaneApplication := ⟨[], Dict.empty, [], []⟩

abbrev ControlPlaneM := EStateM ControlPlaneError ControlPlaneApplication

namespace ControlPlaneApplication

/-- the entry registered under an id -/
def entry? (cp : ControlPlaneApplication) (requestId : UUID) : Option RegisteredRequest := do
  cp.entries[← cp.registry.get? requestId]?

def state? (cp : ControlPlaneApplication) (requestId : UUID) : Option RequestState :=
  (cp.entry? requestId).map RegisteredRequest.state

def lifecycleEvents (cp : ControlPlaneApplication) : List LifecycleEvent := cp.events.filterMap Event.lifecycle?

def queueEvents (cp : ControlPlaneApplication) : List QueueEvent := cp.events.filterMap Event.queue?

def contains (cp : ControlPlaneApplication) (requestId : UUID) : Bool :=
  cp.items.any fun item => item.requestId = requestId

end ControlPlaneApplication

end InferencePlatform.ControlPlane
