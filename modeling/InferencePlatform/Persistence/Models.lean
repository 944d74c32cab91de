/-
What the repository keeps besides execution records: a request's metadata, its lifecycle transitions, the decisions of
the scheduler and of the batch engine, its failures, the summary of its trace, and the results of replays. Each is
derived from a record, a timeline or a result. The stage durations of a timeline come with it as a dict.
-/
import InferencePlatform.Persistence.Serialization

namespace InferencePlatform.Persistence

open Observability Replay

/-! ## Models -/

/-- the categories that a failure query filters by -/
inductive FailureCategory
  | admission | queue | scheduler | batch | backend | lifecycle | replay | unknown
  deriving DecidableEq, Repr

def FailureCategory.value : FailureCategory → String
  | .admission => "admission"
  | .queue => "queue"
  | .scheduler => "scheduler"
  | .batch => "batch"
  | .backend => "backend"
  | .lifecycle => "lifecycle"
  | .replay => "replay"
  | .unknown => "unknown"

structure RequestMetadata where
  requestId : UUID
  correlationId : String
  model : Option String
  terminalState : String
  capturedAt : Time
  payload : RequestPayloadSnapshot
  terminalOutcome : TerminalOutcome

structure LifecycleTransition where
  requestId : UUID
  sequenceNum : ℕ
  eventType : String
  fromState : Option String
  toState : Option String
  timestamp : Time

structure SchedulerDecision where
  requestId : UUID
  sequenceNum : ℕ
  eventType : String
  decisionReason : Option String
  /-- whatever the event's `extra` has -/
  schedulerCycleId : PyValue
  batchId : Option String
  timestamp : Time
  details : PyDict

structure BatchDecision where
  requestId : UUID
  sequenceNum : ℕ
  eventType : String
  batchId : Option String
  decisionReason : Option String
  timestamp : Time
  details : PyDict

structure PersistedFailureRecord where
  failureId : UUID
  requestId : UUID
  failureType : String
  failureOwner : RuntimeComponent
  failureComponent : String
  failureCategory : FailureCategory
  failureReason : String
  failureState : String
  failureTimestamp : Time
  correlationId : String
  batchId : Option String
  backendId : Option String

structure SpanMetadata where
  spanName : String
  component : String
  startedAt : Option Time
  endedAt : Option Time
  attributes : PyDict

structure TraceSummary where
  requestId : UUID
  correlationId : String
  eventCount : ℕ
  failureCount : ℕ
  stageDurationsMs : PyDict
  spanMetadata : List SpanMetadata
  capturedAt : Time

inductive ReplayOutcome
  | completed | failed | rejected | timedOut | error
  deriving DecidableEq, Repr

def ReplayOutcome.value : ReplayOutcome → String
  | .completed => "completed"
  | .failed => "failed"
  | .rejected => "rejected"
  | .timedOut => "timed_out"
  | .error => "error"

/-- the fields of a replay's result that are kept -/
structure ReplayResult where
  replayId : UUID
  sourceRequestId : Option UUID
  replayRequestId : UUID
  outcome : ReplayOutcome
  terminalState : String
  failureReason : Option String
  failureMessage : Option String
  replayEvents : List String

structure ReplayExecution extends ReplayResult where
  startedAt : Time
  completedAt : Time

structure ReplayComparisonRecord where
  comparisonId : UUID
  originalRequestId : UUID
  replayRequestId : UUID
  generatedAt : Time
  terminalStateMatch : Bool
  «matches» : Bool
  differences : List PyDict

/-! ## Conversions -/

variable (texts : Texts)

def failureCategoryFromRecord (record : FailureRecord) : FailureCategory :=
  match record.failureOwner with
  | .controlPlane =>
    if record.failureType ∈ ["queue_full", "queue_timeout"] then .queue
    else if record.failureType ∈ ["admission_policy_failed", "request_rejected"] then .admission
    else .lifecycle
  | .scheduler => .scheduler
  | .adapter | .backend => .backend
  | .replay => .replay
  | .gateway => .unknown

def requestMetadataFromRecord (record : RequestExecutionRecord) : RequestMetadata where
  requestId := record.requestId
  correlationId := record.correlationId
  model :=
    match PyDict.get record.payload.inferenceRequest "model" with
    | .none => none
    | model => some (texts.valueText model)
  terminalState := record.terminalOutcome.state
  capturedAt := record.capturedAt
  payload := record.payload
  terminalOutcome := record.terminalOutcome

def lifecycleTransitionFromSnapshot (requestId : UUID) (sequenceNum : ℕ) (snapshot : LifecycleTransitionSnapshot) :
    LifecycleTransition :=
  { requestId, sequenceNum, eventType := snapshot.eventType, fromState := snapshot.fromState,
    toState := snapshot.toState
    timestamp := snapshot.timestamp }

def schedulerDecisionFromEvent (requestId : UUID) (sequenceNum : ℕ) (event : TraceEvent) : SchedulerDecision :=
  { requestId, sequenceNum, eventType := event.eventType, decisionReason := event.decisionReason
    schedulerCycleId := PyDict.get event.extra "scheduler_cycle_id", batchId := event.batchId,
    timestamp := event.timestamp
    details := event.extra }

def batchDecisionFromEvent (requestId : UUID) (sequenceNum : ℕ) (event : TraceEvent) : BatchDecision :=
  { requestId, sequenceNum, eventType := event.eventType, batchId := event.batchId,
    decisionReason := event.decisionReason
    timestamp := event.timestamp, details := event.extra }

/-- `failureId` is the new `uuid4()` -/
def persistedFailureFromRuntime (record : FailureRecord) (failureId : UUID) : PersistedFailureRecord :=
  { failureId, requestId := record.requestId, failureType := record.failureType, failureOwner := record.failureOwner
    failureComponent := record.failureComponent, failureCategory := failureCategoryFromRecord record
    failureReason := record.failureReason, failureState := record.failureState
    failureTimestamp := record.failureTimestamp, correlationId := record.correlationId, batchId := record.batchId
    backendId := record.backendId }

def spanFromEvent (event : TraceEvent) : SpanMetadata where
  spanName := s!"{event.component.value}:{event.eventType}"
  component := event.component.value
  startedAt := some event.timestamp
  endedAt := some event.timestamp
  attributes :=
    [("batch_id", .ofOptStr event.batchId), ("backend_id", .ofOptStr event.backendId),
      ("lifecycle_state", .ofOptStr event.lifecycleState)]

def traceSummaryFromTimeline (timeline : TraceTimeline) (stageDurationsMs : PyDict) (failureCount : ℕ) : TraceSummary :=
  { requestId := timeline.requestId, correlationId := timeline.correlationId, eventCount := timeline.events.length
    failureCount, stageDurationsMs, spanMetadata := timeline.events.map spanFromEvent,
    capturedAt := timeline.capturedAt }

def replayExecutionFromResult (result : ReplayResult) (startedAt completedAt : Time) : ReplayExecution :=
  { result with startedAt, completedAt }

def kindValue : ExecutionDifferenceKind → String
  | .lifecycle => "lifecycle"
  | .scheduler => "scheduler"
  | .batch => "batch"
  | .backend => "backend"
  | .terminal => "terminal"
  | .eventSequence => "event_sequence"

def differenceToDict (difference : ExecutionDifference) : PyDict :=
  [("kind", .str (kindValue difference.kind)), ("field", .str difference.field),
    ("original", .ofOptStr difference.original),
    ("replay", .ofOptStr difference.replay), ("detail", .ofOptStr difference.detail)]

def replayComparisonFromExecution (comparison : ExecutionComparison) (comparisonId : UUID) : ReplayComparisonRecord :=
  { comparisonId, originalRequestId := comparison.originalRequestId, replayRequestId := comparison.replayRequestId
    generatedAt := comparison.generatedAt, terminalStateMatch := comparison.terminalStateMatch
    «matches» := comparison.matches, differences := comparison.differences.map differenceToDict }

def spanMetadataToDict (span : SpanMetadata) : PyDict :=
  [("span_name", .str span.spanName), ("component", .str span.component),
    ("started_at", .ofOptStr (span.startedAt.map texts.isoformat)),
    ("ended_at", .ofOptStr (span.endedAt.map texts.isoformat)), ("attributes", .dict span.attributes)]

end InferencePlatform.Persistence
