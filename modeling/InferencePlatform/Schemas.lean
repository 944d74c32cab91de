/-
The types the services share: request states, requests and their trace context, queue items, batch assignments and
the configuration of the failure injector.

Conventions of the whole model:
- a `UUID` is a number, and `uuid4()` draws the next number of a counter, so it never repeats;
- a `Time` is a number of microseconds, the resolution of `datetime`; every operation that reads the clock takes the
  reading as its argument `now`.
-/
import Mathlib.Tactic

namespace InferencePlatform

abbrev UUID := ℕ

/-- microseconds since some origin -/
abbrev Time := ℕ

def microseconds (ms : ℕ) : Time := 1000 * ms

/-! ## Request states -/

inductive RequestState
  | received | validated | admitted | queued | scheduled | batched | submitted | prefilling | decoding | streaming
  | completed | failed | timedOut | rejected | cancelled
  deriving DecidableEq, Repr

def RequestState.value : RequestState → String
  | .received => "received"
  | .validated => "validated"
  | .admitted => "admitted"
  | .queued => "queued"
  | .scheduled => "scheduled"
  | .batched => "batched"
  | .submitted => "submitted"
  | .prefilling => "prefilling"
  | .decoding => "decoding"
  | .streaming => "streaming"
  | .completed => "completed"
  | .failed => "failed"
  | .timedOut => "timed_out"
  | .rejected => "rejected"
  | .cancelled => "cancelled"

def requestTerminalStates : List RequestState := [.completed, .failed, .timedOut, .rejected, .cancelled]

def isTerminalRequestState (state : RequestState) : Bool := state ∈ requestTerminalStates

inductive FailureReason
  | validationError | unknownModel | queueFull | noCapacity | queueTimeout | prefillTimeout | decodeTimeout
  | e2eTimeout | workerError | adapterError | internalError | clientCancel | authenticationError | unsupportedField
  deriving DecidableEq, Repr

def FailureReason.value : FailureReason → String
  | .validationError => "validation_error"
  | .unknownModel => "unknown_model"
  | .queueFull => "queue_full"
  | .noCapacity => "no_capacity"
  | .queueTimeout => "queue_timeout"
  | .prefillTimeout => "prefill_timeout"
  | .decodeTimeout => "decode_timeout"
  | .e2eTimeout => "e2e_timeout"
  | .workerError => "worker_error"
  | .adapterError => "adapter_error"
  | .internalError => "internal_error"
  | .clientCancel => "client_cancel"
  | .authenticationError => "authentication_error"
  | .unsupportedField => "unsupported_field"

inductive PriorityClass
  | default | elevated | background
  deriving DecidableEq, Repr

def PriorityClass.value : PriorityClass → String
  | .default => "default"
  | .elevated => "elevated"
  | .background => "background"

/-! ## Requests -/

structure Message where
  content : String
  deriving DecidableEq, Repr

structure InferenceRequest where
  requestId : UUID
  model : String
  messages : List Message
  stream : Bool
  maxTokens : ℕ
  priorityClass : Option PriorityClass
  deriving DecidableEq, Repr

structure RequestContext where
  traceId : String
  arrivalTime : Time
  deriving DecidableEq, Repr

/-- what the gateway hands to the control plane -/
structure SubmitRequest where
  inferenceRequest : InferenceRequest
  requestContext : RequestContext
  deriving DecidableEq, Repr

structure QueueItem where
  requestId : UUID
  inferenceRequest : InferenceRequest
  requestContext : RequestContext
  enqueuedAt : Time
  priorityClass : PriorityClass
  queueName : String
  deriving DecidableEq, Repr

/-! ## Dispatch units -/

structure BatchAssignment where
  requestId : UUID
  slotIndex : ℕ
  inferenceRequest : InferenceRequest
  deriving DecidableEq, Repr

/-- the dispatch unit sent to the adapter, always built in state `forming` -/
structure DispatchBatch where
  batchId : UUID
  model : String
  workerId : String
  assignments : List BatchAssignment
  createdAt : Time
  deriving DecidableEq, Repr

structure InferenceCompletionRecord where
  requestId : UUID
  backendId : String
  generatedText : String
  promptTokens : ℕ
  completionTokens : ℕ
  totalTokens : ℕ
  finishReason : Option String
  completedAt : Time
  executionDurationMs : Option {ms : ℚ // 0 ≤ ms} := none
  deriving DecidableEq, Repr

/-- the control plane keeps it beside the completion and never reads it -/
structure StreamingMetricsRecord where
  streamId : UUID
  requestId : UUID
  ttftMs : Option {ms : ℚ // 0 ≤ ms} := none
  itlMsP50 : Option {ms : ℚ // 0 ≤ ms} := none
  itlMsP99 : Option {ms : ℚ // 0 ≤ ms} := none
  tokenCount : ℕ := 0
  generatedText : String := ""
  completedAt : Option Time := none
  streamState : String
  deriving DecidableEq, Repr

/-! ## Failure injection -/

inductive FailurePoint
  | disabled
  | queueFull | queueTimeout | queueCorruption | queueInvalidRemoval
  | schedulerCrash | schedulerTimeout | schedulerInvalidDecision | schedulerInvalidBatchAssignment
  | batchCreationFailure | batchAdmissionFailure | batchCancellation | batchCorruption
  | backendUnavailable | backendTimeout | backendRejection | backendInternalError
  deriving DecidableEq, Repr

/-- one failure point at most is active at a time -/
structure FailureInjectionConfig where
  enabled : Bool := false
  point : FailurePoint := .disabled
  targetRequestId : Option UUID := none
  message : String := "injected failure"
  deriving DecidableEq, Repr

def FailureInjectionConfig.isActive (c : FailureInjectionConfig) (point : FailurePoint) (requestId : Option UUID) :
    Bool :=
  if !c.enabled || c.point ≠ point then false
  else
    match c.targetRequestId, requestId with
    | some target, some rid => target = rid
    | _, _ => true

/-- an absent injector, or one that has none configured, injects nothing -/
theorem FailureInjectionConfig.isActive_default (point : FailurePoint) (requestId : Option UUID) :
    ({} : FailureInjectionConfig).isActive point requestId = false := rfl

end InferencePlatform
