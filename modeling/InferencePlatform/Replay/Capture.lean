/-
Execution records: capture from a trace, reconstruction with or without a stored record, and the comparison of two.

A record is captured from the timeline of a request, its failures and its registered entry. The control plane's submits
have the fields that are read there, so the snapshot of a submit with all its fields,
`RequestPayloadSnapshot.from_submit`, is a parameter; nothing else here reads a payload.

The timeline and the trace of a request exist together, so the fallbacks for a trace without a timeline are never taken.
-/
import InferencePlatform.Observability.Emitters
import InferencePlatform.Replay.Payload

namespace InferencePlatform.Replay

open InferencePlatform.Core (Dict)
open InferencePlatform.Persistence (PyValue PyDict Texts)
open InferencePlatform.Observability

/-! ## Event types -/

/-- `_LIFECYCLE_EVENT_TYPES` -/
def lifecycleEventTypes : List String :=
  ["request_received", "request_validated", "request_admitted", "request_queued",
    "request_scheduled", "request_batched",
    "request_submitted", "request_completed", "request_failed", "request_rejected"]

def queueEventTypes : List String :=
  ["request_enqueued", "request_dequeued", "queue_full", "queue_timeout", "queue_removed"]

def schedulerEventTypes : List String :=
  ["request_selected", "request_skipped", "scheduler_cycle_started", "scheduler_cycle_completed", "scheduler_failure"]

def batchEventTypes : List String :=
  ["batch_created", "batch_admission", "batch_full", "request_added_to_batch", "request_removed_from_batch",
    "batch_completed", "batch_failed"]

def backendEventTypes : List String :=
  ["batch_submitted", "batch_accepted", "batch_rejected", "backend_selected", "backend_registered"]

/-! ## Records -/

structure TerminalOutcome where
  state : String
  failureReason : Option String := none
  failureMessage : Option String := none
  batchId : Option String := none
  backendId : Option String := none
  deriving DecidableEq, Repr

structure LifecycleTransitionSnapshot where
  eventType : String
  fromState : Option String
  toState : Option String
  timestamp : Time
  deriving DecidableEq, Repr

structure RequestExecutionRecord where
  requestId : UUID
  correlationId : String
  capturedAt : Time
  payload : RequestPayloadSnapshot
  lifecycleTransitions : List LifecycleTransitionSnapshot
  queueEvents : List TraceEvent
  schedulerEvents : List TraceEvent
  batchEvents : List TraceEvent
  backendEvents : List TraceEvent
  failures : List FailureRecord
  terminalOutcome : TerminalOutcome
  eventTimeline : List TraceEvent
  replayId : Option UUID := none
  sourceRequestId : Option UUID := none
  completion : Option InferenceCompletionRecord := none
  streamMetrics : Option StreamingMetricsRecord := none

structure ReconstructedExecution where
  requestId : UUID
  correlationId : String
  payload : RequestPayloadSnapshot
  lifecycleHistory : List LifecycleTransitionSnapshot
  schedulerDecisions : List TraceEvent
  batchHistory : List TraceEvent
  backendInteractions : List TraceEvent
  queueEvents : List TraceEvent
  failures : List FailureRecord
  terminalOutcome : Option TerminalOutcome
  eventTimeline : List TraceEvent
  capturedAt : Option Time := none

/-! ## Capture -/

/-- a value that is no text names no state -/
def textOf : PyValue → Option String
  | .str s => some s
  | _ => none

def snapshotOf (event : TraceEvent) : LifecycleTransitionSnapshot where
  eventType := event.eventType
  fromState := textOf (PyDict.get event.extra "from_state")
  toState := orText (textOf (PyDict.get event.extra "to_state")) event.lifecycleState
  timestamp := event.timestamp

def extractLifecycleTransitions (events : List TraceEvent) : List LifecycleTransitionSnapshot :=
  (events.filter fun e => e.eventType ∈ lifecycleEventTypes).map snapshotOf

def filterEventsByType (events : List TraceEvent) (allowed : List String) : List TraceEvent :=
  events.filter fun e => e.eventType ∈ allowed

structure ExecutionTerminal where
  submit : InferencePlatform.SubmitRequest
  state : String
  failureReason : Option String := none
  failureMessage : Option String := none
  batchId : Option UUID := none
  backendId : Option String := none

/-- the events of the timeline, in its order -/
def timelineEvents (inspector : RequestTraceStore) (requestId : UUID) : List TraceEvent :=
  RequestTraceStore.sortedEvents (inspector.eventsOf requestId)

variable (texts : Texts) (fromSubmit : InferencePlatform.SubmitRequest → RequestPayloadSnapshot)

def captureExecutionRecord (terminal : ExecutionTerminal) (inspector : RequestTraceStore)
    (completion : Option InferenceCompletionRecord) (streamMetrics : Option StreamingMetricsRecord) (now : Time)
    (sourceRequestId replayId : Option UUID := none) : RequestExecutionRecord :=
  let requestId := terminal.submit.inferenceRequest.requestId
  let events := ((inspector.timeline requestId now).map TraceTimeline.events).getD []
  { requestId
    correlationId := terminal.submit.requestContext.traceId
    capturedAt := now
    payload := fromSubmit terminal.submit
    lifecycleTransitions := extractLifecycleTransitions events
    queueEvents := filterEventsByType events queueEventTypes
    schedulerEvents := filterEventsByType events schedulerEventTypes
    batchEvents := filterEventsByType events batchEventTypes
    backendEvents := filterEventsByType events backendEventTypes
    failures := inspector.failuresOf requestId
    terminalOutcome :=
      { state := terminal.state, failureReason := terminal.failureReason, failureMessage := terminal.failureMessage
        batchId := terminal.batchId.map texts.uuidText, backendId := terminal.backendId }
    eventTimeline := events
    replayId
    sourceRequestId := some (sourceRequestId.getD requestId)
    completion
    streamMetrics }

def terminalOf (entry : ControlPlane.RegisteredRequest) : ExecutionTerminal where
  submit := entry.submit
  state := entry.state.value
  failureReason := entry.failureReason.map FailureReason.value
  failureMessage := entry.failureMessage
  batchId := entry.batchId
  backendId := entry.backendId

/-- the metrics are those that the stream engine has put into the entry -/
def captureFromEntry (entry : ControlPlane.RegisteredRequest) (inspector : RequestTraceStore)
    (streamMetrics : Option StreamingMetricsRecord) (now : Time) : RequestExecutionRecord :=
  captureExecutionRecord texts fromSubmit (terminalOf entry) inspector entry.completion streamMetrics now

/-! ## Reconstruction -/

abbrev ExecutionRecordStore := Dict UUID RequestExecutionRecord

def ExecutionRecordStore.put (store : ExecutionRecordStore) (record : RequestExecutionRecord) : ExecutionRecordStore :=
  store.set record.requestId record

/-- the states that a trace is taken to end in -/
def inferredTerminalStates : List String := ["completed", "failed", "rejected", "timed_out"]

def isTerminalEvent (event : TraceEvent) : Bool := event.lifecycleState.any fun state => state ∈ inferredTerminalStates

def inferTerminalOutcome (events : List TraceEvent) (failures : List FailureRecord) : Option TerminalOutcome :=
  (events.reverse.find? isTerminalEvent).map fun event =>
    { state := event.lifecycleState.getD "", failureReason := failures.getLast?.map FailureRecord.failureType
      failureMessage := failures.getLast?.map FailureRecord.failureReason, batchId := event.batchId
      backendId := event.backendId }

def emptyPayload (requestId : UUID) (correlationId : String) : RequestPayloadSnapshot where
  inferenceRequest := [("request_id", .str (texts.uuidText requestId))]
  requestContext := [("request_id", .str (texts.uuidText requestId)), ("trace_id", .str correlationId)]

def RequestExecutionRecord.reconstructed (record : RequestExecutionRecord) : ReconstructedExecution where
  requestId := record.requestId
  correlationId := record.correlationId
  payload := record.payload
  lifecycleHistory := record.lifecycleTransitions
  schedulerDecisions := record.schedulerEvents
  batchHistory := record.batchEvents
  backendInteractions := record.backendEvents
  queueEvents := record.queueEvents
  failures := record.failures
  terminalOutcome := some record.terminalOutcome
  eventTimeline := record.eventTimeline
  capturedAt := some record.capturedAt

/-- the part of `reconstruct_request` that reads live traces -/
def reconstructLive (requestId : UUID) (inspector : RequestTraceStore) : Option ReconstructedExecution :=
  (inspector.get? requestId).map fun trace =>
    let events := timelineEvents inspector requestId
    let failures := inspector.failuresOf requestId
    { requestId
      correlationId := trace.context.correlationId
      payload := emptyPayload texts requestId trace.context.correlationId
      lifecycleHistory := extractLifecycleTransitions events
      schedulerDecisions := filterEventsByType events schedulerEventTypes
      batchHistory := filterEventsByType events batchEventTypes
      backendInteractions := filterEventsByType events backendEventTypes
      queueEvents := filterEventsByType events queueEventTypes
      failures
      terminalOutcome := inferTerminalOutcome events failures
      eventTimeline := events }

def reconstructRequest (requestId : UUID) (executionStore : Option ExecutionRecordStore)
    (inspector : Option RequestTraceStore) : Option ReconstructedExecution :=
  match executionStore.bind fun store => store.get? requestId with
  | some record => some record.reconstructed
  | none => inspector.bind (reconstructLive texts requestId)

theorem timeline_events (inspector : RequestTraceStore) (requestId : UUID) (now : Time) :
    ((inspector.timeline requestId now).map TraceTimeline.events).getD [] = timelineEvents inspector requestId := by
  unfold RequestTraceStore.timeline timelineEvents RequestTraceStore.eventsOf
  cases inspector.get? requestId with
  | none => simp [RequestTraceStore.sortedEvents]
  | some trace => rfl

/-! ## Comparison -/

inductive ExecutionDifferenceKind
  | lifecycle | scheduler | batch | backend | terminal | eventSequence
  deriving DecidableEq, Repr

structure ExecutionDifference where
  kind : ExecutionDifferenceKind
  field : String
  original : Option String
  replay : Option String
  detail : Option String := none
  deriving DecidableEq, Repr

structure ExecutionComparison where
  originalRequestId : UUID
  replayRequestId : UUID
  generatedAt : Time
  terminalStateMatch : Bool
  differences : List ExecutionDifference
  originalTerminalState : String
  replayTerminalState : String

def ExecutionComparison.matches (comparison : ExecutionComparison) : Bool := comparison.differences.isEmpty

def compareTerminal (original replay : RequestExecutionRecord) : List ExecutionDifference :=
  let orig := original.terminalOutcome
  let repl := replay.terminalOutcome
  (if orig.state ≠ repl.state then [⟨.terminal, "state", some orig.state, some repl.state, none⟩] else []) ++
    (if orig.failureReason ≠ repl.failureReason then
      [⟨.terminal, "failure_reason", orig.failureReason, repl.failureReason, none⟩] else []) ++
    if orig.backendId ≠ repl.backendId then [⟨.terminal, "backend_id", orig.backendId, repl.backendId, none⟩] else []

def transitionPath (record : RequestExecutionRecord) : List String :=
  record.lifecycleTransitions.map fun t => (orText t.toState (some t.eventType)).getD ""

def joined (separator : String) (parts : List String) : Option String :=
  if parts = [] then none else some (separator.intercalate parts)

def compareLifecycle (original replay : RequestExecutionRecord) : List ExecutionDifference :=
  let origPath := transitionPath original
  let replPath := transitionPath replay
  if origPath ≠ replPath then
    [⟨.lifecycle, "transition_path", joined " -> " origPath, joined " -> " replPath, none⟩]
  else []

def compareEventSets (kind : ExecutionDifferenceKind) (field : String) (original replay : List TraceEvent) :
    List ExecutionDifference :=
  let origTypes := original.map TraceEvent.eventType
  let replTypes := replay.map TraceEvent.eventType
  if origTypes ≠ replTypes then [⟨kind, field, joined "," origTypes, joined "," replTypes, none⟩] else []

def executionComponents : List RuntimeComponent := [.controlPlane, .scheduler, .adapter, .backend]

/-- platform events only: without gateway ingress and replay metadata -/
def executionEventSignature (events : List TraceEvent) : List String :=
  (events.filter fun e => e.component ∈ executionComponents).map fun e => s!"{e.component.value}:{e.eventType}"

def compareEventSequence (original replay : List TraceEvent) : List ExecutionDifference :=
  let origSig := executionEventSignature original
  let replSig := executionEventSignature replay
  if origSig ≠ replSig then
    [⟨.eventSequence, "execution_timeline", joined "," origSig, joined "," replSig,
      some s!"original={origSig.length} replay={replSig.length}"⟩]
  else []

def compareExecutions (original replay : RequestExecutionRecord) (now : Time) : ExecutionComparison where
  originalRequestId := original.requestId
  replayRequestId := replay.requestId
  generatedAt := now
  terminalStateMatch := original.terminalOutcome.state = replay.terminalOutcome.state
  differences :=
    compareTerminal original replay ++ compareLifecycle original replay ++
      compareEventSets .scheduler "scheduler_events" original.schedulerEvents replay.schedulerEvents ++
      compareEventSets .batch "batch_events" original.batchEvents replay.batchEvents ++
      compareEventSets .backend "backend_events" original.backendEvents replay.backendEvents ++
      compareEventSequence original.eventTimeline replay.eventTimeline
  originalTerminalState := original.terminalOutcome.state
  replayTerminalState := replay.terminalOutcome.state

end InferencePlatform.Replay
