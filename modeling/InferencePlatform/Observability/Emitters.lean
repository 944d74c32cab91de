/-
What each service emits, and what the recorder makes of it.

The control plane's events and the emissions of the other services are recorded in one store. `Recorded` says what was
appended: some events and some failures, all in the trace of one request.
- `record_recorded`: an event of the control plane, with a failure where one is recorded beside it;
- `emit_recorded`: an emission of the gateway, the scheduler, the batch engine, the adapter, routing, streaming, the
  capacity collector, the persistence layer or the replay engine.

An emitter logs first; with no request id it records nothing, so an `Emission` has one.
-/
import InferencePlatform.Observability.Traces
import InferencePlatform.ControlPlane.Models

namespace InferencePlatform

open InferencePlatform.Core (Dict)
open InferencePlatform.Persistence (PyValue PyDict Texts)

/-! ## The control plane's events -/

namespace ControlPlane

def LifecycleEventType.value : LifecycleEventType → String
  | .requestReceived => "request_received"
  | .requestValidated => "request_validated"
  | .requestAdmitted => "request_admitted"
  | .requestQueued => "request_queued"
  | .requestScheduled => "request_scheduled"
  | .requestBatched => "request_batched"
  | .requestSubmitted => "request_submitted"
  | .requestRejected => "request_rejected"
  | .requestFailed => "request_failed"
  | .requestCompleted => "request_completed"

def QueueEventType.value : QueueEventType → String
  | .requestEnqueued => "request_enqueued"
  | .requestDequeued => "request_dequeued"
  | .queueFull => "queue_full"
  | .queueTimeout => "queue_timeout"
  | .queueRemoved => "queue_removed"

def optField {α : Type} (key : String) (dump : α → PyValue) : Option α → PyDict
  | none => []
  | some a => [(key, dump a)]

/-- microseconds as a float of milliseconds -/
def milliseconds (duration : ℤ) : PyValue := .float (duration / 1000)

variable (texts : Texts)

/-- the ids of `_trace_extra`, the figures of a completion, and the position of a queued request -/
def LifecycleEvent.extra (event : LifecycleEvent) : PyDict :=
  optField "batch_id" (fun u => .str (texts.uuidText u)) event.batchId ++ optField "backend_id" .str event.backendId ++
    (match event.completion with
    | none => []
    | some completion =>
      [("prompt_tokens", .int completion.promptTokens), ("completion_tokens", .int completion.completionTokens),
        ("total_tokens", .int completion.totalTokens), ("finish_reason", .ofOptStr completion.finishReason),
        ("execution_duration_ms", completion.executionDurationMs.elim .none fun ms => .float ms.1)]) ++
    optField "queue_position" (fun n => .int n) event.queuePosition

def LifecycleEvent.traceRecord (event : LifecycleEvent) : Observability.LifecycleEventRecord where
  requestId := event.requestId
  correlationId := event.correlationId
  timestamp := event.timestamp
  component := .controlPlane
  eventType := event.eventType.value
  lifecycleState := some event.lifecycleState.value
  fromState := event.fromState.map RequestState.value
  toState := some event.toState.value
  batchId := event.batchId.map texts.uuidText
  backendId := event.backendId
  extra := event.extra texts

/-- an event that says why a request failed or was rejected is recorded as a failure as well -/
def LifecycleEvent.failureRecord (event : LifecycleEvent) : Option Observability.FailureEventRecord :=
  if event.eventType = .requestFailed ∨ event.eventType = .requestRejected then
    event.failureReason.map fun reason =>
      { requestId := event.requestId, correlationId := event.correlationId, timestamp := event.timestamp
        component := .controlPlane, eventType := event.eventType.value, failureType := event.eventType.value
        failureReason := reason.value, failureState := event.toState.value
        batchId := event.batchId.map texts.uuidText, backendId := event.backendId }
  else none

def QueueEvent.extra (event : QueueEvent) : PyDict :=
  optField "reason" .str event.reason ++ optField "queue_depth" (fun n => .int n) event.queueDepth ++
    optField "queue_wait_duration_ms" milliseconds event.queueWaitDuration ++
    optField "request_age_ms" milliseconds event.requestAge ++ optField "queue_name" .str event.queueName

def QueueEvent.traceRecord (event : QueueEvent) : Observability.QueueEventRecord where
  requestId := event.requestId
  correlationId := event.correlationId
  timestamp := event.timestamp
  component := .controlPlane
  eventType := event.eventType.value
  queuePosition := event.queuePosition
  extra := event.extra

def QueueEvent.failureRecord (event : QueueEvent) : Option Observability.FailureEventRecord :=
  if event.eventType = .queueFull ∨ event.eventType = .queueTimeout then
    some { requestId := event.requestId, correlationId := event.correlationId, timestamp := event.timestamp
           component := .controlPlane, eventType := event.eventType.value, failureType := event.eventType.value
           failureReason := event.reason.getD event.eventType.value
           failureState := if event.eventType = .queueFull then "rejected" else "timed_out" }
  else none

namespace Event

def requestId : Event → UUID
  | lifecycle event => event.requestId
  | queue event => event.requestId

def failureRecord : Event → Option Observability.FailureEventRecord
  | lifecycle event => event.failureRecord texts
  | queue event => event.failureRecord

def traceEvent : Event → Observability.TraceEvent
  | lifecycle event => (event.traceRecord texts).traceEvent
  | queue event => event.traceRecord.traceEvent

/-- the trace events of an event: its own, and that of its failure -/
def traceEvents (event : Event) : List Observability.TraceEvent :=
  event.traceEvent texts :: (event.failureRecord texts).toList.map Observability.FailureEventRecord.traceEvent

def failures (event : Event) : List Observability.FailureRecord :=
  (event.failureRecord texts).toList.map Observability.FailureEventRecord.failure

end Event

end ControlPlane

namespace Observability

/-! ## The emitters of the other services -/

inductive SchedulerEventType
  | schedulerCycleStarted | schedulerCycleCompleted | requestSelected | requestSkipped | schedulerFailure
  deriving DecidableEq, Repr

def SchedulerEventType.value : SchedulerEventType → String
  | .schedulerCycleStarted => "scheduler_cycle_started"
  | .schedulerCycleCompleted => "scheduler_cycle_completed"
  | .requestSelected => "request_selected"
  | .requestSkipped => "request_skipped"
  | .schedulerFailure => "scheduler_failure"

inductive BatchEventType
  | batchCreated | batchAdmission | batchFull | requestAddedToBatch | requestRemovedFromBatch | batchCompleted
  | batchFailed
  deriving DecidableEq, Repr

def BatchEventType.value : BatchEventType → String
  | .batchCreated => "batch_created"
  | .batchAdmission => "batch_admission"
  | .batchFull => "batch_full"
  | .requestAddedToBatch => "request_added_to_batch"
  | .requestRemovedFromBatch => "request_removed_from_batch"
  | .batchCompleted => "batch_completed"
  | .batchFailed => "batch_failed"

inductive BackendEventType
  | backendRegistered | backendRemoved | backendSelected | batchSubmitted | batchAccepted | batchRejected
  | backendHealthChanged
  deriving DecidableEq, Repr

def BackendEventType.value : BackendEventType → String
  | .backendRegistered => "backend_registered"
  | .backendRemoved => "backend_removed"
  | .backendSelected => "backend_selected"
  | .batchSubmitted => "batch_submitted"
  | .batchAccepted => "batch_accepted"
  | .batchRejected => "batch_rejected"
  | .backendHealthChanged => "backend_health_changed"

inductive RoutingEventType
  | routingStarted | routingCompleted | modelSelected | backendSelected | fallbackInvoked | routingFailed
  deriving DecidableEq, Repr

def RoutingEventType.value : RoutingEventType → String
  | .routingStarted => "routing_started"
  | .routingCompleted => "routing_completed"
  | .modelSelected => "model_selected"
  | .backendSelected => "backend_selected"
  | .fallbackInvoked => "fallback_invoked"
  | .routingFailed => "routing_failed"

inductive StreamEventType
  | streamCreated | firstTokenEmitted | tokenEmitted | streamCompleted | streamFailed | streamCancelled
  deriving DecidableEq, Repr

def StreamEventType.value : StreamEventType → String
  | .streamCreated => "stream_created"
  | .firstTokenEmitted => "first_token_emitted"
  | .tokenEmitted => "token_emitted"
  | .streamCompleted => "stream_completed"
  | .streamFailed => "stream_failed"
  | .streamCancelled => "stream_cancelled"

inductive CapacityEventType
  | gpuCapacityWarning | kvCachePressureDetected | memoryThresholdCrossed | capacityExhausted
  deriving DecidableEq, Repr

def CapacityEventType.value : CapacityEventType → String
  | .gpuCapacityWarning => "gpu_capacity_warning"
  | .kvCachePressureDetected => "kv_cache_pressure_detected"
  | .memoryThresholdCrossed => "memory_threshold_crossed"
  | .capacityExhausted => "capacity_exhausted"

inductive PersistenceEventType
  | persistenceWrite | persistenceRead | persistenceFailure | persistenceRecovery
  deriving DecidableEq, Repr

def PersistenceEventType.value : PersistenceEventType → String
  | .persistenceWrite => "persistence_write"
  | .persistenceRead => "persistence_read"
  | .persistenceFailure => "persistence_failure"
  | .persistenceRecovery => "persistence_recovery"

inductive ReplayEventType
  | requestReplayed | replayStarted | replayCompleted | replayFailed | comparisonGenerated
  deriving DecidableEq, Repr

def ReplayEventType.value : ReplayEventType → String
  | .requestReplayed => "request_replayed"
  | .replayStarted => "replay_started"
  | .replayCompleted => "replay_completed"
  | .replayFailed => "replay_failed"
  | .comparisonGenerated => "comparison_generated"

/-- the types of the events that go through `record_scheduler`, `record_batch` or `record_backend` -/
inductive RecordedEventType
  | scheduler (eventType : SchedulerEventType)
  | batch (eventType : BatchEventType)
  | backend (eventType : BackendEventType)
  deriving DecidableEq, Repr

def RecordedEventType.value : RecordedEventType → String
  | .scheduler eventType => eventType.value
  | .batch eventType => eventType.value
  | .backend eventType => eventType.value

def RecordedEventType.component : RecordedEventType → RuntimeComponent
  | .scheduler _ | .batch _ => .scheduler
  | .backend _ => .adapter

/-- the types of the events that are appended to the store as they are -/
inductive AppendedEventType
  | routing (eventType : RoutingEventType)
  | stream (eventType : StreamEventType)
  | capacity (eventType : CapacityEventType)
  | persistence (eventType : PersistenceEventType)
  | replay (eventType : ReplayEventType)
  deriving DecidableEq, Repr

def AppendedEventType.value : AppendedEventType → String
  | .routing eventType => eventType.value
  | .stream eventType => eventType.value
  | .capacity eventType => eventType.value
  | .persistence eventType => eventType.value
  | .replay eventType => eventType.value

def AppendedEventType.component : AppendedEventType → RuntimeComponent
  | .routing _ => .scheduler
  | .stream _ => .gateway
  | .capacity _ => .adapter
  | .persistence _ => .controlPlane
  | .replay _ => .replay

inductive Emission
  | gatewayReceive (requestId : UUID) (correlationId : String) (extra : PyDict) (now : Time)
  | recorded (eventType : RecordedEventType) (requestId : UUID) (correlationId schedulerCycleId batchId backendId
      decisionReason : Option String) (extra : PyDict) (now : Time)
  | appended (eventType : AppendedEventType) (requestId : UUID) (correlationId : String) (extra : PyDict) (now : Time)

namespace Emission

def requestId : Emission → UUID
  | gatewayReceive requestId .. | recorded _ requestId .. | appended _ requestId .. => requestId

def now : Emission → Time
  | gatewayReceive _ _ _ now | recorded _ _ _ _ _ _ _ _ now | appended _ _ _ _ now => now

def eventType : Emission → String
  | gatewayReceive .. => "gateway_request_received"
  | recorded eventType .. => eventType.value
  | appended eventType .. => eventType.value

/-- the adapter takes the correlation id of the trace if it is given none -/
def correlation (store : RequestTraceStore) (eventType : RecordedEventType) (requestId : UUID)
    (correlationId : Option String) : Option String :=
  match eventType with
  | .scheduler _ | .batch _ => correlationId
  | .backend _ =>
    if correlationId.getD "" = "" then some (((store.get? requestId).map fun t => t.context.correlationId).getD "")
    else correlationId

/-- only a rejected batch is recorded as a failure -/
def failureRecord (store : RequestTraceStore) : Emission → Option FailureEventRecord
  | recorded (.backend .batchRejected) requestId correlationId _ batchId backendId reason _ now =>
    some { requestId, correlationId := (correlation store (.backend .batchRejected) requestId correlationId).getD ""
           timestamp := now, component := .adapter, eventType := BackendEventType.batchRejected.value
           failureType := "backend_rejected", failureReason := (orText reason (some "batch_rejected")).getD ""
           failureState := "failed", batchId, backendId }
  | _ => none

def traceEvent (store : RequestTraceStore) : Emission → TraceEvent
  | gatewayReceive requestId correlationId extra now => RequestTraceStore.gatewayEvent requestId correlationId extra now
  | recorded eventType requestId correlationId schedulerCycleId batchId backendId decisionReason extra now =>
    ({ requestId := some requestId, correlationId := correlation store eventType requestId correlationId,
       timestamp := now
       component := eventType.component, eventType := eventType.value, schedulerCycleId, batchId, backendId
       decisionReason, extra } : ComponentEventRecord).traceEvent requestId
  | appended eventType requestId correlationId extra now =>
    { requestId, correlationId, timestamp := now, component := eventType.component,
      eventType := eventType.value, extra }

def traceEvents (store : RequestTraceStore) (e : Emission) : List TraceEvent :=
  e.traceEvent store :: (e.failureRecord store).toList.map FailureEventRecord.traceEvent

def failures (store : RequestTraceStore) (e : Emission) : List FailureRecord :=
  (e.failureRecord store).toList.map FailureEventRecord.failure

end Emission

namespace RequestTraceStore

/-- what follows an event that has been recorded -/
def recordFailure? (store : RequestTraceStore) : Option FailureEventRecord → RequestTraceStore
  | none => store
  | some record => store.recordFailure record

/-- `LifecycleEventEmitter.emit` and `emit_queue` -/
def record (texts : Texts) (store : RequestTraceStore) (event : ControlPlane.Event) : RequestTraceStore :=
  (match event with
  | .lifecycle e => store.recordLifecycle (e.traceRecord texts)
  | .queue e => store.recordQueue e.traceRecord).recordFailure? (event.failureRecord texts)

/-- the `emit` of the other emitters -/
def emit (store : RequestTraceStore) (e : Emission) : RequestTraceStore :=
  (match e with
  | .gatewayReceive requestId correlationId extra now => store.recordGatewayReceive requestId correlationId extra now
  | .recorded eventType requestId correlationId schedulerCycleId batchId backendId decisionReason extra now =>
    store.recordComponent
      { requestId := some requestId, correlationId := Emission.correlation store eventType requestId correlationId
        timestamp := now, component := eventType.component, eventType := eventType.value, schedulerCycleId, batchId
        backendId, decisionReason, extra }
  | .appended .. => store.appendEvent (e.traceEvent store)).recordFailure? (e.failureRecord store)

/-! ## What is appended -/

/-- the events and the failures are appended to the trace of `r`, and nothing else shows in any trace -/
structure Recorded (store store' : RequestTraceStore) (r : UUID) (events : List TraceEvent)
    (failures : List FailureRecord) : Prop where
  events : ∀ r', store'.eventsOf r' = store.eventsOf r' ++ if r = r' then events else []
  failures : ∀ r', store'.failuresOf r' = store.failuresOf r' ++ if r = r' then failures else []

theorem Recorded.trans {store store' store'' : RequestTraceStore} {r : UUID} {events events' : List TraceEvent}
    {failures failures' : List FailureRecord} (h : Recorded store store' r events failures)
    (h' : Recorded store' store'' r events' failures') :
    Recorded store store'' r (events ++ events') (failures ++ failures') := by
  refine ⟨fun r' => ?_, fun r' => ?_⟩
  · rw [h'.events, h.events]
    split_ifs
    · exact List.append_assoc ..
    · exact List.append_nil _
  · rw [h'.failures, h.failures]
    split_ifs
    · exact List.append_assoc ..
    · exact List.append_nil _

theorem appendEvent_recorded (store : RequestTraceStore) (event : TraceEvent) :
    Recorded store (store.appendEvent event) event.requestId [event] [] :=
  ⟨fun r' => eventsOf_appendEvent store r' event, fun r' => by simp⟩

theorem ensure_recorded (store : RequestTraceStore) (requestId : UUID) (correlationId : String) (r : UUID) :
    Recorded store (store.ensure requestId correlationId) r [] [] :=
  ⟨fun r' => by simp, fun r' => by simp⟩

theorem recordFailure_recorded (store : RequestTraceStore) (record : FailureEventRecord) :
    Recorded store (store.recordFailure record) record.requestId [record.traceEvent] [record.failure] := by
  refine ⟨fun r' => ?_, fun r' => ?_⟩
  · rw [recordFailure, eventsOf_appendEvent, eventsOf_appendFailure]
    rfl
  · rw [recordFailure, failuresOf_appendEvent, failuresOf_appendFailure]
    rfl

/-- a failure of the same request, if there is one -/
theorem Recorded.andFailure {store store' : RequestTraceStore} {r : UUID} {event : TraceEvent}
    (h : Recorded store store' r [event] []) (record : Option FailureEventRecord)
    (hid : ∀ f ∈ record, f.requestId = r) :
    Recorded store (store'.recordFailure? record) r (event :: record.toList.map FailureEventRecord.traceEvent)
      (record.toList.map FailureEventRecord.failure) := by
  cases record with
  | none => exact h
  | some f =>
    have hf := recordFailure_recorded store' f
    rw [hid f rfl] at hf
    exact h.trans hf

theorem record_recorded (texts : Texts) (store : RequestTraceStore) (event : ControlPlane.Event) :
    Recorded store (store.record texts event) event.requestId (event.traceEvents texts) (event.failures texts) := by
  have hid : ∀ f ∈ event.failureRecord texts, f.requestId = event.requestId := by
    intro f hf
    cases event with
    | lifecycle e =>
      simp only [ControlPlane.Event.failureRecord, ControlPlane.LifecycleEvent.failureRecord] at hf
      split at hf
      · obtain ⟨reason, -, rfl⟩ := Option.map_eq_some_iff.1 hf
        rfl
      · cases hf
    | queue e =>
      simp only [ControlPlane.Event.failureRecord, ControlPlane.QueueEvent.failureRecord] at hf
      split at hf
      · cases hf
        rfl
      · cases hf
  cases event with
  | lifecycle e =>
    have h := (ensure_recorded store e.requestId e.correlationId e.requestId).trans
      (appendEvent_recorded _ (e.traceRecord texts).traceEvent)
    exact h.andFailure _ hid
  | queue e =>
    have h := (ensure_recorded store e.requestId e.correlationId e.requestId).trans
      (appendEvent_recorded _ e.traceRecord.traceEvent)
    exact h.andFailure _ hid

theorem recordComponent_recorded (store : RequestTraceStore) (record : ComponentEventRecord) {r : UUID}
    (h : record.requestId = some r) : Recorded store (store.recordComponent record) r [record.traceEvent r] [] := by
  rw [recordComponent, h]
  dsimp only
  split_ifs
  · exact (ensure_recorded store r _ r).trans (appendEvent_recorded _ (record.traceEvent r))
  · exact appendEvent_recorded _ (record.traceEvent r)

theorem emit_recorded (store : RequestTraceStore) (e : Emission) :
    Recorded store (store.emit e) e.requestId (e.traceEvents store) (e.failures store) := by
  have hid : ∀ f ∈ e.failureRecord store, f.requestId = e.requestId := by
    intro f hf
    unfold Emission.failureRecord at hf
    split at hf
    · cases hf
      rfl
    · cases hf
  cases e with
  | gatewayReceive requestId correlationId extra now =>
    have h := (ensure_recorded store requestId correlationId requestId).trans
      (appendEvent_recorded _ (gatewayEvent requestId correlationId extra now))
    exact h.andFailure _ hid
  | recorded eventType requestId correlationId schedulerCycleId batchId backendId decisionReason extra now =>
    exact (recordComponent_recorded store _ rfl).andFailure _ hid
  | appended eventType requestId correlationId extra now => exact (appendEvent_recorded store _).andFailure _ hid

end RequestTraceStore

end Observability

end InferencePlatform
