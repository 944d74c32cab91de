/-
Execution records as dicts, and back from their JSON.

An encoder writes ids, times and components as texts, except for a completion and for stream metrics, which are dumped
by their models. The JSON makes texts of what these hold as well, and their strict models do not take a text for an id
or a time.
- `executionRecord_decode`: what the decoder makes of an encoded record;
- `decode_encode`: it gives back the record, with its free-form dicts normalised, if it has neither of the two;
- `decode_dressed`: it raises if the record has one.
-/
import InferencePlatform.Replay.Capture

namespace InferencePlatform

open Persistence (PyValue PyDict Texts)
open Replay (dumpOpt field optField forbidExtra check readUuid readDatetime readStr)

/-! ## The results of a request -/

/-- `int` with `ge=0` -/
def readCount : PyValue → Except String ℕ
  | .int n => if 0 ≤ n then .ok n.toNat else .error "Input should be greater than or equal to 0"
  | _ => .error "Input should be a valid integer"

/-- `float` with `ge=0.0` -/
def readDuration : PyValue → Except String {ms : ℚ // 0 ≤ ms}
  | .float q => check "Input should be greater than or equal to 0" q
  | .int n => check "Input should be greater than or equal to 0" n
  | _ => .error "Input should be a valid number"

/-- a field with a default that is not `None` -/
def defaultField {α : Type} (data : PyDict) (key : String) (default : α) (read : PyValue → Except String α) :
    Except String α :=
  match data.get? key with
  | none => .ok default
  | some v => read v

def InferenceCompletionRecord.modelDump (completion : InferenceCompletionRecord) : PyDict :=
  [("request_id", .uuid completion.requestId), ("backend_id", .str completion.backendId),
    ("generated_text", .str completion.generatedText), ("prompt_tokens", .int completion.promptTokens),
    ("completion_tokens", .int completion.completionTokens), ("total_tokens", .int completion.totalTokens),
    ("finish_reason", dumpOpt .str completion.finishReason), ("completed_at", .datetime completion.completedAt),
    ("execution_duration_ms", dumpOpt (fun ms => .float ms.1) completion.executionDurationMs)]

def InferenceCompletionRecord.modelValidate (data : PyDict) : Except String InferenceCompletionRecord := do
  forbidExtra ["request_id", "backend_id", "generated_text", "prompt_tokens", "completion_tokens", "total_tokens",
    "finish_reason", "completed_at", "execution_duration_ms"] data
  return { requestId := ← field data "request_id" readUuid, backendId := ← field data "backend_id" readStr
           generatedText := ← field data "generated_text" readStr,
           promptTokens := ← field data "prompt_tokens" readCount
           completionTokens := ← field data "completion_tokens" readCount
           totalTokens := ← field data "total_tokens" readCount
           finishReason := ← optField data "finish_reason" readStr
           completedAt := ← field data "completed_at" readDatetime
           executionDurationMs := ← optField data "execution_duration_ms" readDuration }

def StreamingMetricsRecord.modelDump (streamMetrics : StreamingMetricsRecord) : PyDict :=
  [("stream_id", .uuid streamMetrics.streamId), ("request_id", .uuid streamMetrics.requestId),
    ("ttft_ms", dumpOpt (fun ms => .float ms.1) streamMetrics.ttftMs),
    ("itl_ms_p50", dumpOpt (fun ms => .float ms.1) streamMetrics.itlMsP50),
    ("itl_ms_p99", dumpOpt (fun ms => .float ms.1) streamMetrics.itlMsP99),
    ("token_count", .int streamMetrics.tokenCount),
    ("generated_text", .str streamMetrics.generatedText), ("completed_at", dumpOpt .datetime streamMetrics.completedAt),
    ("stream_state", .str streamMetrics.streamState)]

def StreamingMetricsRecord.modelValidate (data : PyDict) : Except String StreamingMetricsRecord := do
  forbidExtra ["stream_id", "request_id", "ttft_ms", "itl_ms_p50", "itl_ms_p99", "token_count", "generated_text",
    "completed_at", "stream_state"] data
  return { streamId := ← field data "stream_id" readUuid, requestId := ← field data "request_id" readUuid
           ttftMs := ← optField data "ttft_ms" readDuration, itlMsP50 := ← optField data "itl_ms_p50" readDuration
           itlMsP99 := ← optField data "itl_ms_p99" readDuration
           tokenCount := ← defaultField data "token_count" 0 readCount
           generatedText := ← defaultField data "generated_text" "" readStr
           completedAt := ← optField data "completed_at" readDatetime
           streamState := ← field data "stream_state" readStr }

namespace Persistence

open Observability Replay

variable (texts : Texts)

/-! ## Encoding -/

def traceEventToDict (event : TraceEvent) : PyDict :=
  [("request_id", .str (texts.uuidText event.requestId)), ("correlation_id", .str event.correlationId),
    ("timestamp", .str (texts.isoformat event.timestamp)), ("component", .str event.component.value),
    ("event_type", .str event.eventType), ("batch_id", .ofOptStr event.batchId),
    ("backend_id", .ofOptStr event.backendId), ("lifecycle_state", .ofOptStr event.lifecycleState),
    ("decision_reason", .ofOptStr event.decisionReason), ("extra", .dict event.extra)]

def failureRecordToDict (record : FailureRecord) : PyDict :=
  [("failure_type", .str record.failureType), ("failure_owner", .str record.failureOwner.value),
    ("failure_component", .str record.failureComponent),
    ("failure_timestamp", .str (texts.isoformat record.failureTimestamp)),
    ("failure_reason", .str record.failureReason), ("failure_state", .str record.failureState),
    ("request_id", .str (texts.uuidText record.requestId)), ("correlation_id", .str record.correlationId),
    ("batch_id", .ofOptStr record.batchId), ("backend_id", .ofOptStr record.backendId)]

def lifecycleSnapshotToDict (snapshot : LifecycleTransitionSnapshot) : PyDict :=
  [("event_type", .str snapshot.eventType), ("from_state", .ofOptStr snapshot.fromState),
    ("to_state", .ofOptStr snapshot.toState), ("timestamp", .str (texts.isoformat snapshot.timestamp))]

def terminalOutcomeToDict (outcome : TerminalOutcome) : PyDict :=
  [("state", .str outcome.state), ("failure_reason", .ofOptStr outcome.failureReason),
    ("failure_message", .ofOptStr outcome.failureMessage), ("batch_id", .ofOptStr outcome.batchId),
    ("backend_id", .ofOptStr outcome.backendId)]

/-- a list of dicts -/
def dictList {α : Type} (toDict : α → PyDict) (items : List α) : PyValue := .list (items.map fun a => .dict (toDict a))

def executionRecordToDict (record : RequestExecutionRecord) : PyDict :=
  [("request_id", .str (texts.uuidText record.requestId)), ("correlation_id", .str record.correlationId),
    ("captured_at", .str (texts.isoformat record.capturedAt)),
    ("payload", .dict (payloadSnapshotToDict record.payload)),
    ("lifecycle_transitions", dictList (lifecycleSnapshotToDict texts) record.lifecycleTransitions),
    ("queue_events", dictList (traceEventToDict texts) record.queueEvents),
    ("scheduler_events", dictList (traceEventToDict texts) record.schedulerEvents),
    ("batch_events", dictList (traceEventToDict texts) record.batchEvents),
    ("backend_events", dictList (traceEventToDict texts) record.backendEvents),
    ("failures", dictList (failureRecordToDict texts) record.failures),
    ("terminal_outcome", .dict (terminalOutcomeToDict record.terminalOutcome)),
    ("event_timeline", dictList (traceEventToDict texts) record.eventTimeline),
    ("replay_id", .ofOptStr (record.replayId.map texts.uuidText)),
    ("source_request_id", .ofOptStr (record.sourceRequestId.map texts.uuidText)),
    ("completion", dumpOpt (fun completion => .dict completion.modelDump) record.completion),
    ("stream_metrics", dumpOpt (fun streamMetrics => .dict streamMetrics.modelDump) record.streamMetrics)]

/-! ## Decoding -/

/-- `RuntimeComponent(value)` -/
def componentOf (value : String) : Except String RuntimeComponent :=
  match [RuntimeComponent.gateway, .controlPlane, .scheduler, .adapter, .backend, .replay].find?
      fun c => c.value = value with
  | some component => .ok component
  | none => .error s!"'{value}' is not a valid RuntimeComponent"

/-- `value or {}` -/
def orEmpty (v : PyValue) : Except String PyDict := if v.truthy then v.asDict else .ok []

def traceEventFromDict (data : PyDict) : Except String TraceEvent := do
  return { requestId := ← (← data.item "request_id").asUuid texts
           correlationId := ← (← data.item "correlation_id").asStr
           timestamp := ← (← data.item "timestamp").asTime texts
           component := ← componentOf (← (← data.item "component").asStr)
           eventType := ← (← data.item "event_type").asStr, batchId := ← (data.get "batch_id").asOptStr
           backendId := ← (data.get "backend_id").asOptStr
           lifecycleState := ← (data.get "lifecycle_state").asOptStr
           decisionReason := ← (data.get "decision_reason").asOptStr, extra := ← orEmpty (data.get "extra") }

def failureRecordFromDict (data : PyDict) : Except String FailureRecord := do
  return { failureType := ← (← data.item "failure_type").asStr
           failureOwner := ← componentOf (← (← data.item "failure_owner").asStr)
           failureComponent := ← (← data.item "failure_component").asStr
           failureTimestamp := ← (← data.item "failure_timestamp").asTime texts
           failureReason := ← (← data.item "failure_reason").asStr
           failureState := ← (← data.item "failure_state").asStr
           requestId := ← (← data.item "request_id").asUuid texts
           correlationId := ← (← data.item "correlation_id").asStr, batchId := ← (data.get "batch_id").asOptStr
           backendId := ← (data.get "backend_id").asOptStr }

def lifecycleSnapshotFromDict (data : PyDict) : Except String LifecycleTransitionSnapshot := do
  return { eventType := ← (← data.item "event_type").asStr, fromState := ← (data.get "from_state").asOptStr
           toState := ← (data.get "to_state").asOptStr, timestamp := ← (← data.item "timestamp").asTime texts }

def terminalOutcomeFromDict (data : PyDict) : Except String TerminalOutcome := do
  return { state := ← (← data.item "state").asStr, failureReason := ← (data.get "failure_reason").asOptStr
           failureMessage := ← (data.get "failure_message").asOptStr, batchId := ← (data.get "batch_id").asOptStr
           backendId := ← (data.get "backend_id").asOptStr }

/-- `UUID(value) if value else None` -/
def optUuid (v : PyValue) : Except String (Option UUID) := if v.truthy then (v.asUuid texts).map some else .ok none

/-- nothing of a falsy value, and otherwise what the model makes of it -/
def validated {α : Type} (modelValidate : PyDict → Except String α) (v : PyValue) : Except String (Option α) :=
  if v.truthy then do return some (← modelValidate (← v.asDict)) else .ok none

/-- each dict of a list -/
def decodeList {α : Type} (fromDict : PyDict → Except String α) (v : PyValue) : Except String (List α) := do
  (← v.asList).mapM fun item => do fromDict (← item.asDict)

def executionRecordFromDict (data : PyDict) : Except String RequestExecutionRecord := do
  return { requestId := ← (← data.item "request_id").asUuid texts
           correlationId := ← (← data.item "correlation_id").asStr
           capturedAt := ← (← data.item "captured_at").asTime texts
           payload := ← payloadSnapshotFromDict (← (← data.item "payload").asDict)
           lifecycleTransitions :=
             ← decodeList (lifecycleSnapshotFromDict texts) (← data.item "lifecycle_transitions")
           queueEvents := ← decodeList (traceEventFromDict texts) (← data.item "queue_events")
           schedulerEvents := ← decodeList (traceEventFromDict texts) (← data.item "scheduler_events")
           batchEvents := ← decodeList (traceEventFromDict texts) (← data.item "batch_events")
           backendEvents := ← decodeList (traceEventFromDict texts) (← data.item "backend_events")
           failures := ← decodeList (failureRecordFromDict texts) (← data.item "failures")
           terminalOutcome := ← terminalOutcomeFromDict (← (← data.item "terminal_outcome").asDict)
           eventTimeline := ← decodeList (traceEventFromDict texts) (← data.item "event_timeline")
           replayId := ← optUuid texts (data.get "replay_id")
           sourceRequestId := ← optUuid texts (data.get "source_request_id")
           completion := ← validated InferenceCompletionRecord.modelValidate (data.get "completion")
           streamMetrics := ← validated StreamingMetricsRecord.modelValidate (data.get "stream_metrics") }

/-! ## Round trips -/

/-- an event as its JSON keeps it -/
def normaliseEvent (event : TraceEvent) : TraceEvent := { event with extra := PyDict.normalise texts event.extra }

/-- a record as its JSON keeps it: with its free-form dicts normalised -/
def normaliseRecord (record : RequestExecutionRecord) : RequestExecutionRecord :=
  { record with
    payload :=
      ⟨PyDict.normalise texts record.payload.inferenceRequest, PyDict.normalise texts record.payload.requestContext⟩
    queueEvents := record.queueEvents.map (normaliseEvent texts)
    schedulerEvents := record.schedulerEvents.map (normaliseEvent texts)
    batchEvents := record.batchEvents.map (normaliseEvent texts)
    backendEvents := record.backendEvents.map (normaliseEvent texts)
    eventTimeline := record.eventTimeline.map (normaliseEvent texts) }

variable {texts}

theorem ok_bind {α β : Type} (a : α) (f : α → Except String β) : (Except.ok a >>= f) = f a := rfl

theorem error_bind {α β : Type} (message : String) (f : α → Except String β) :
    (Except.error message >>= f) = Except.error message := rfl

@[simp] theorem componentOf_value (component : RuntimeComponent) : componentOf component.value = .ok component := by
  cases component <;> rfl

theorem orEmpty_dict (data : PyDict) : orEmpty (.dict data) = .ok data := by
  cases data with
  | nil => rfl
  | cons p rest => rfl

theorem traceEvent_decode (event : TraceEvent) :
    traceEventFromDict texts (PyDict.normalise texts (traceEventToDict texts event)) =
      .ok (normaliseEvent texts event) := by
  simp [traceEventFromDict, traceEventToDict, PyDict.item, PyDict.get, PyValue.asStr, orEmpty_dict, ok_bind]
  rfl

theorem failureRecord_decode (record : FailureRecord) :
    failureRecordFromDict texts (PyDict.normalise texts (failureRecordToDict texts record)) = .ok record := by
  simp [failureRecordFromDict, failureRecordToDict, PyDict.item, PyDict.get, PyValue.asStr, ok_bind]

theorem lifecycleSnapshot_decode (snapshot : LifecycleTransitionSnapshot) :
    lifecycleSnapshotFromDict texts (PyDict.normalise texts (lifecycleSnapshotToDict texts snapshot)) =
      .ok snapshot := by
  simp [lifecycleSnapshotFromDict, lifecycleSnapshotToDict, PyDict.item, PyDict.get, PyValue.asStr, ok_bind]

theorem terminalOutcome_decode (outcome : TerminalOutcome) :
    terminalOutcomeFromDict (PyDict.normalise texts (terminalOutcomeToDict outcome)) = .ok outcome := by
  simp [terminalOutcomeFromDict, terminalOutcomeToDict, PyDict.item, PyDict.get, PyValue.asStr, ok_bind]

theorem payloadSnapshot_decode (payload : RequestPayloadSnapshot) :
    payloadSnapshotFromDict (PyDict.normalise texts (payloadSnapshotToDict payload)) =
      .ok ⟨PyDict.normalise texts payload.inferenceRequest, PyDict.normalise texts payload.requestContext⟩ := by
  simp [payloadSnapshotFromDict, payloadSnapshotToDict, PyDict.item, PyValue.asDict, ok_bind]

theorem decodeList_normalise {α : Type} {toDict : α → PyDict} {fromDict : PyDict → Except String α} {norm : α → α}
    (h : ∀ a, fromDict (PyDict.normalise texts (toDict a)) = .ok (norm a)) (items : List α) :
    decodeList fromDict ((dictList toDict items).normalise texts) = .ok (items.map norm) := by
  have hmap : ((items.map fun a => PyValue.dict (PyDict.normalise texts (toDict a))).mapM fun item => do
      fromDict (← item.asDict)) = .ok (items.map norm) := by
    induction items with
    | nil => rfl
    | cons a rest ih =>
      rw [List.map_cons, List.mapM_cons, ih, PyValue.asDict, ok_bind, h]
      rfl
  rw [dictList, PyValue.normalise_list, List.map_map, decodeList]
  have hcomp : PyValue.normalise texts ∘ (fun a => PyValue.dict (toDict a)) =
      fun a => PyValue.dict (PyDict.normalise texts (toDict a)) := funext fun a => normalise_dict (toDict a)
  rw [hcomp]
  exact hmap

/-- everything but the completion and the stream metrics comes back -/
theorem executionRecord_decode (record : RequestExecutionRecord) :
    executionRecordFromDict texts (PyDict.normalise texts (executionRecordToDict texts record)) = do
      let completion ← validated InferenceCompletionRecord.modelValidate
        ((dumpOpt (fun completion => .dict completion.modelDump) record.completion).normalise texts)
      let streamMetrics ← validated StreamingMetricsRecord.modelValidate
        ((dumpOpt (fun streamMetrics => .dict streamMetrics.modelDump) record.streamMetrics).normalise texts)
      return { normaliseRecord texts record with completion, streamMetrics } := by
  have hevents : ∀ items, decodeList (traceEventFromDict texts)
      ((dictList (traceEventToDict texts) items).normalise texts) = .ok (items.map (normaliseEvent texts)) :=
    decodeList_normalise traceEvent_decode
  have hsnapshots : ∀ items, decodeList (lifecycleSnapshotFromDict texts)
      ((dictList (lifecycleSnapshotToDict texts) items).normalise texts) = .ok items := by
    intro items
    rw [decodeList_normalise lifecycleSnapshot_decode, List.map_id']
  have hfailures : ∀ items, decodeList (failureRecordFromDict texts)
      ((dictList (failureRecordToDict texts) items).normalise texts) = .ok items := by
    intro items
    rw [decodeList_normalise failureRecord_decode, List.map_id']
  have hid : ∀ id : Option UUID, optUuid texts (.ofOptStr (id.map texts.uuidText)) = .ok id := by
    intro id
    cases id with
    | none => rfl
    | some u => simp [optUuid, PyValue.ofOptStr, PyValue.truthy, Except.map]
  simp [executionRecordFromDict, executionRecordToDict, PyDict.item, PyDict.get, PyValue.asStr, PyValue.asDict,
    ok_bind, hid, hevents, hsnapshots, hfailures, payloadSnapshot_decode, terminalOutcome_decode]
  rfl

theorem field_normalise_uuid {data : PyDict} {key : String} {u : UUID} (h : PyDict.get? data key = some (.uuid u)) :
    field (PyDict.normalise texts data) key readUuid = .error "Input should be an instance of UUID" := by
  rw [field, PyDict.get?_normalise, h, Option.map_some, PyValue.normalise]
  rfl

/-- a strict model refuses the text of an id -/
theorem completion_refused (completion : InferenceCompletionRecord) : ∃ message,
    InferenceCompletionRecord.modelValidate (PyDict.normalise texts completion.modelDump) = .error message := by
  unfold InferenceCompletionRecord.modelValidate
  generalize forbidExtra _ _ = allowed
  cases allowed with
  | error message => exact ⟨message, rfl⟩
  | ok u =>
    rw [ok_bind, field_normalise_uuid (u := completion.requestId) rfl]
    exact ⟨_, rfl⟩

theorem streamMetrics_refused (streamMetrics : StreamingMetricsRecord) : ∃ message,
    StreamingMetricsRecord.modelValidate (PyDict.normalise texts streamMetrics.modelDump) = .error message := by
  unfold StreamingMetricsRecord.modelValidate
  generalize forbidExtra _ _ = allowed
  cases allowed with
  | error message => exact ⟨message, rfl⟩
  | ok u =>
    rw [ok_bind, field_normalise_uuid (u := streamMetrics.streamId) rfl]
    exact ⟨_, rfl⟩

/-- what is dumped without its model is refused where it is there -/
theorem validated_dump (texts : Texts) {α : Type} {modelDump : α → PyDict} {modelValidate : PyDict → Except String α}
    (hrefused : ∀ a, ∃ message, modelValidate (PyDict.normalise texts (modelDump a)) = .error message)
    (hsome : ∀ a, PyDict.normalise texts (modelDump a) ≠ []) (a : Option α) :
    match a with
    | none => validated modelValidate ((dumpOpt (fun a => .dict (modelDump a)) a).normalise texts) = .ok none
    | some _ => ∃ message, validated modelValidate ((dumpOpt (fun a => .dict (modelDump a)) a).normalise texts) =
        .error message := by
  cases a with
  | none =>
    rw [dumpOpt, PyValue.normalise]
    rfl
  | some a =>
    obtain ⟨message, hmessage⟩ := hrefused a
    have htruthy : (PyValue.dict (PyDict.normalise texts (modelDump a))).truthy = true := by
      simpa [PyValue.truthy] using hsome a
    refine ⟨message, ?_⟩
    rw [dumpOpt, normalise_dict, validated, if_pos htruthy, PyValue.asDict, ok_bind, hmessage]
    rfl

theorem normalise_ne_nil {data : PyDict} {key : String} {v : PyValue} (h : PyDict.get? data key = some v) :
    PyDict.normalise texts data ≠ [] := by
  intro hnil
  have hget := @PyDict.get?_normalise texts data key
  rw [hnil, h] at hget
  cases hget

/-- the record that is stored comes back, if it has neither a completion nor stream metrics -/
theorem decode_encode (record : RequestExecutionRecord) (hcompletion : record.completion = none)
    (hstream : record.streamMetrics = none) :
    executionRecordFromDict texts (PyDict.normalise texts (executionRecordToDict texts record)) =
      .ok (normaliseRecord texts record) := by
  obtain ⟨⟩ := record
  obtain rfl : _ = none := hcompletion
  obtain rfl : _ = none := hstream
  rw [executionRecord_decode, dumpOpt, dumpOpt, PyValue.normalise]
  rfl

/-- one that has either cannot be read -/
theorem decode_dressed (record : RequestExecutionRecord) (h : record.completion ≠ none ∨ record.streamMetrics ≠ none) :
    ∃ message, executionRecordFromDict texts (PyDict.normalise texts (executionRecordToDict texts record)) =
      .error message := by
  rw [executionRecord_decode]
  have hkey : ∀ completion : InferenceCompletionRecord, PyDict.get? completion.modelDump "request_id" =
      some (.uuid completion.requestId) := fun _ => rfl
  have hkey' : ∀ streamMetrics : StreamingMetricsRecord, PyDict.get? streamMetrics.modelDump "stream_id" =
      some (.uuid streamMetrics.streamId) := fun _ => rfl
  have hcompletion := validated_dump texts completion_refused (fun completion => normalise_ne_nil (hkey completion))
    record.completion
  have hstream := validated_dump texts streamMetrics_refused
      (fun streamMetrics => normalise_ne_nil (hkey' streamMetrics))
    record.streamMetrics
  cases hc : record.completion with
  | some completion =>
    rw [hc] at hcompletion
    obtain ⟨message, hmessage⟩ := hcompletion
    exact ⟨message, by rw [hmessage, error_bind]⟩
  | none =>
    rw [hc] at hcompletion
    cases hs : record.streamMetrics with
    | none => exact absurd (h.elim (absurd hc) (absurd hs)) id
    | some streamMetrics =>
      rw [hs] at hstream
      obtain ⟨message, hmessage⟩ := hstream
      exact ⟨message, by rw [hcompletion, ok_bind, hmessage, error_bind]⟩

end Persistence

end InferencePlatform
