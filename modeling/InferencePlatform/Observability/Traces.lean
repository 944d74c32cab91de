/-
The trace store, the recorder that writes to it, and the inspector that reads it.

A trace is what has been recorded about one request: its events and its failures, in the order they were appended. What
is recorded about one request never shows in the trace of another: `eventsOf` and `failuresOf` say what a request's
trace holds, and each writer of the store has one lemma for either.

Left out: the stage timestamps and the durations made from them, the metrics, and `update_context`, which nothing calls.
-/
import InferencePlatform.Persistence.Values

namespace InferencePlatform.Observability

open InferencePlatform.Core (Dict)
open InferencePlatform.Persistence (PyValue PyDict)

/-! ## Texts and dicts -/

/-- `a or b` of two optional texts: an empty text counts as missing -/
def orText (a b : Option String) : Option String := if a.getD "" = "" then b else a

/-- `{**data, **more}` -/
def merge (data more : PyDict) : PyDict := more.foldl (fun d p => Dict.setItems p.1 p.2 d) data

/-- `{key: text} if text else {}` -/
def textField (key : String) (text : Option String) : PyDict :=
  if text.getD "" = "" then [] else [(key, .str (text.getD ""))]

@[simp] theorem merge_nil (data : PyDict) : merge data [] = data := rfl

theorem orText_some {s : String} (h : s ≠ "") (b : Option String) : orText (some s) b = some s := by
  simp [orText, h]

@[simp] theorem orText_none (b : Option String) : orText none b = b := rfl

/-! ## Records -/

inductive RuntimeComponent
  | gateway | controlPlane | scheduler | adapter | backend | replay
  deriving DecidableEq, Repr

def RuntimeComponent.value : RuntimeComponent → String
  | .gateway => "gateway"
  | .controlPlane => "control_plane"
  | .scheduler => "scheduler"
  | .adapter => "adapter"
  | .backend => "backend"
  | .replay => "replay"

structure TraceContext where
  requestId : UUID
  correlationId : String
  batchId : Option String := none
  backendId : Option String := none
  deriving DecidableEq, Repr

structure TraceEvent where
  requestId : UUID
  correlationId : String
  timestamp : Time
  component : RuntimeComponent
  eventType : String
  batchId : Option String := none
  backendId : Option String := none
  lifecycleState : Option String := none
  decisionReason : Option String := none
  extra : PyDict := []

structure FailureRecord where
  failureType : String
  failureOwner : RuntimeComponent
  failureComponent : String
  failureTimestamp : Time
  failureReason : String
  failureState : String
  requestId : UUID
  correlationId : String
  batchId : Option String := none
  backendId : Option String := none
  deriving DecidableEq, Repr

structure RequestTrace where
  context : TraceContext
  events : List TraceEvent := []
  failures : List FailureRecord := []

structure TraceTimeline where
  requestId : UUID
  correlationId : String
  events : List TraceEvent
  capturedAt : Time

/-! ## The store -/

abbrev RequestTraceStore := Dict UUID RequestTrace

/-- the ids that an event or a failure carries -/
def TraceContext.located (context : TraceContext) (batchId backendId : Option String) : TraceContext :=
  { context with batchId := batchId.or context.batchId, backendId := backendId.or context.backendId }

namespace RequestTraceStore

/-- a new trace, or the old one with the correlation id if it is another and not empty -/
def ensured (store : RequestTraceStore) (requestId : UUID) (correlationId : String) : RequestTrace :=
  match store.get? requestId with
  | none => { context := { requestId, correlationId } }
  | some trace =>
    if trace.context.correlationId ≠ correlationId ∧ correlationId ≠ "" then
      { trace with context := { trace.context with correlationId } }
    else trace

def ensure (store : RequestTraceStore) (requestId : UUID) (correlationId : String) : RequestTraceStore :=
  store.set requestId (store.ensured requestId correlationId)

def appendEvent (store : RequestTraceStore) (event : TraceEvent) : RequestTraceStore :=
  let trace := (store.get? event.requestId).getD { context := { requestId := event.requestId
                                                                correlationId := event.correlationId } }
  store.set event.requestId
    { trace with events := trace.events ++ [event], context := trace.context.located event.batchId event.backendId }

def appendFailure (store : RequestTraceStore) (failure : FailureRecord) : RequestTraceStore :=
  let trace := store.ensured failure.requestId failure.correlationId
  store.set failure.requestId
    { trace with failures := trace.failures ++ [failure]
                 context := trace.context.located failure.batchId failure.backendId }

/-- the events of a request's trace -/
def eventsOf (store : RequestTraceStore) (requestId : UUID) : List TraceEvent :=
  ((store.get? requestId).map RequestTrace.events).getD []

/-- `get_request_failures` -/
def failuresOf (store : RequestTraceStore) (requestId : UUID) : List FailureRecord :=
  ((store.get? requestId).map RequestTrace.failures).getD []

variable (store : RequestTraceStore) (r : UUID)

@[simp] theorem eventsOf_empty : eventsOf Dict.empty r = [] := rfl

@[simp] theorem failuresOf_empty : failuresOf Dict.empty r = [] := rfl

theorem ensured_events (requestId : UUID) (correlationId : String) :
    (store.ensured requestId correlationId).events = store.eventsOf requestId := by
  unfold ensured eventsOf
  cases store.get? requestId with
  | none => rfl
  | some trace =>
    dsimp only
    split_ifs <;> rfl

theorem ensured_failures (requestId : UUID) (correlationId : String) :
    (store.ensured requestId correlationId).failures = store.failuresOf requestId := by
  unfold ensured failuresOf
  cases store.get? requestId with
  | none => rfl
  | some trace =>
    dsimp only
    split_ifs <;> rfl

theorem eventsOf_set (requestId : UUID) (trace : RequestTrace) :
    eventsOf (store.set requestId trace) r = if r = requestId then trace.events else store.eventsOf r := by
  unfold eventsOf
  rw [Dict.get?_set]
  split_ifs <;> rfl

theorem failuresOf_set (requestId : UUID) (trace : RequestTrace) :
    failuresOf (store.set requestId trace) r = if r = requestId then trace.failures else store.failuresOf r := by
  unfold failuresOf
  rw [Dict.get?_set]
  split_ifs <;> rfl

@[simp] theorem eventsOf_ensure (requestId : UUID) (correlationId : String) :
    eventsOf (store.ensure requestId correlationId) r = store.eventsOf r := by
  rw [ensure, eventsOf_set, ensured_events]
  split_ifs with h
  · rw [h]
  · rfl

@[simp] theorem failuresOf_ensure (requestId : UUID) (correlationId : String) :
    failuresOf (store.ensure requestId correlationId) r = store.failuresOf r := by
  rw [ensure, failuresOf_set, ensured_failures]
  split_ifs with h
  · rw [h]
  · rfl

theorem eventsOf_appendEvent (event : TraceEvent) :
    eventsOf (store.appendEvent event) r = store.eventsOf r ++ if event.requestId = r then [event] else [] := by
  rw [appendEvent, eventsOf_set]
  by_cases h : event.requestId = r
  · rw [if_pos h.symm, if_pos h, ← h, eventsOf]
    cases store.get? event.requestId <;> rfl
  · rw [if_neg (Ne.symm h), if_neg h, List.append_nil]

@[simp] theorem failuresOf_appendEvent (event : TraceEvent) :
    failuresOf (store.appendEvent event) r = store.failuresOf r := by
  rw [appendEvent, failuresOf_set]
  by_cases h : r = event.requestId
  · rw [if_pos h, h, failuresOf]
    cases store.get? event.requestId <;> rfl
  · rw [if_neg h]

@[simp] theorem eventsOf_appendFailure (failure : FailureRecord) :
    eventsOf (store.appendFailure failure) r = store.eventsOf r := by
  rw [appendFailure, eventsOf_set, ensured_events]
  split_ifs with h
  · rw [h]
  · rfl

theorem failuresOf_appendFailure (failure : FailureRecord) :
    failuresOf (store.appendFailure failure) r =
      store.failuresOf r ++ if failure.requestId = r then [failure] else [] := by
  rw [appendFailure, failuresOf_set, ensured_failures]
  by_cases h : failure.requestId = r
  · rw [if_pos h.symm, if_pos h, h]
  · rw [if_neg (Ne.symm h), if_neg h, List.append_nil]

/-! ## The inspector -/

/-- the key of `sorted(trace.events, key=lambda e: e.timestamp)`, which is stable -/
def sortedEvents (events : List TraceEvent) : List TraceEvent :=
  events.mergeSort fun e e' => decide (e.timestamp ≤ e'.timestamp)

/-- `get_request_timeline` -/
def timeline (requestId : UUID) (now : Time) : Option TraceTimeline :=
  (store.get? requestId).map fun trace =>
    { requestId := trace.context.requestId, correlationId := trace.context.correlationId
      events := sortedEvents trace.events, capturedAt := now }

end RequestTraceStore

/-! ## What the recorder is given -/

structure LifecycleEventRecord where
  requestId : UUID
  correlationId : String
  timestamp : Time
  component : RuntimeComponent
  eventType : String
  lifecycleState : Option String := none
  fromState : Option String := none
  toState : Option String := none
  batchId : Option String := none
  backendId : Option String := none
  extra : PyDict := []

structure QueueEventRecord where
  requestId : UUID
  correlationId : String
  timestamp : Time
  component : RuntimeComponent
  eventType : String
  queuePosition : Option ℕ := none
  batchId : Option String := none
  backendId : Option String := none
  extra : PyDict := []

/-- `SchedulerEventRecord`, `BatchEventRecord` and `BackendEventRecord`; the last two have no cycle id -/
structure ComponentEventRecord where
  requestId : Option UUID
  correlationId : Option String
  timestamp : Time
  component : RuntimeComponent
  eventType : String
  schedulerCycleId : Option String := none
  batchId : Option String := none
  backendId : Option String := none
  decisionReason : Option String := none
  extra : PyDict := []

structure FailureEventRecord where
  requestId : UUID
  correlationId : String
  timestamp : Time
  component : RuntimeComponent
  eventType : String
  failureType : String
  failureReason : String
  failureState : String
  batchId : Option String := none
  backendId : Option String := none

/-! ## The trace events and failures that records become -/

def LifecycleEventRecord.traceEvent (record : LifecycleEventRecord) : TraceEvent where
  requestId := record.requestId
  correlationId := record.correlationId
  timestamp := record.timestamp
  component := record.component
  eventType := record.eventType
  lifecycleState := orText record.toState record.lifecycleState
  batchId := record.batchId
  backendId := record.backendId
  extra := merge record.extra (textField "from_state" record.fromState)

def QueueEventRecord.traceEvent (record : QueueEventRecord) : TraceEvent where
  requestId := record.requestId
  correlationId := record.correlationId
  timestamp := record.timestamp
  component := record.component
  eventType := record.eventType
  batchId := record.batchId
  backendId := record.backendId
  extra := merge record.extra
    (if record.queuePosition.getD 0 = 0 then [] else [("queue_position", .int (record.queuePosition.getD 0))])

def ComponentEventRecord.traceEvent (record : ComponentEventRecord) (requestId : UUID) : TraceEvent where
  requestId
  correlationId := record.correlationId.getD ""
  timestamp := record.timestamp
  component := record.component
  eventType := record.eventType
  batchId := record.batchId
  backendId := record.backendId
  extra := merge (merge record.extra (textField "decision_reason" record.decisionReason))
    (textField "scheduler_cycle_id" record.schedulerCycleId)

def FailureEventRecord.failure (record : FailureEventRecord) : FailureRecord where
  failureType := record.failureType
  failureOwner := record.component
  failureComponent := record.component.value
  failureTimestamp := record.timestamp
  failureReason := record.failureReason
  failureState := record.failureState
  requestId := record.requestId
  correlationId := record.correlationId
  batchId := record.batchId
  backendId := record.backendId

def FailureEventRecord.traceEvent (record : FailureEventRecord) : TraceEvent where
  requestId := record.requestId
  correlationId := record.correlationId
  timestamp := record.timestamp
  component := record.component
  eventType := record.eventType
  lifecycleState := some record.failureState
  batchId := record.batchId
  backendId := record.backendId
  extra := [("failure_type", .str record.failureType), ("failure_reason", .str record.failureReason)]

/-! ## The recorder -/

namespace RequestTraceStore

def recordLifecycle (store : RequestTraceStore) (record : LifecycleEventRecord) : RequestTraceStore :=
  (store.ensure record.requestId record.correlationId).appendEvent record.traceEvent

def recordQueue (store : RequestTraceStore) (record : QueueEventRecord) : RequestTraceStore :=
  (store.ensure record.requestId record.correlationId).appendEvent record.traceEvent

/-- `record_scheduler`, `record_batch` and `record_backend` -/
def recordComponent (store : RequestTraceStore) (record : ComponentEventRecord) : RequestTraceStore :=
  match record.requestId with
  | none => store
  | some requestId =>
    (if record.correlationId.getD "" ≠ "" then store.ensure requestId
      (record.correlationId.getD "") else store).appendEvent
      (record.traceEvent requestId)

def recordFailure (store : RequestTraceStore) (record : FailureEventRecord) : RequestTraceStore :=
  (store.appendFailure record.failure).appendEvent record.traceEvent

def gatewayEvent (requestId : UUID) (correlationId : String) (extra : PyDict) (now : Time) : TraceEvent :=
  { requestId, correlationId, timestamp := now, component := .gateway, eventType := "gateway_request_received"
    lifecycleState := some "received", extra }

def recordGatewayReceive (store : RequestTraceStore) (requestId : UUID) (correlationId : String) (extra : PyDict)
    (now : Time) : RequestTraceStore :=
  (store.ensure requestId correlationId).appendEvent (gatewayEvent requestId correlationId extra now)

end RequestTraceStore

end InferencePlatform.Observability
