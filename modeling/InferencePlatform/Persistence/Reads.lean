/-
The reads of the sqlite repository: which rows each selects, in which order, and what it makes of them.

A row comes back as a dict of its columns. The columns are texts and numbers, so ids, times, components, categories and
outcomes are parsed. `scheduler_cycle_id` is a TEXT column: what is bound to it comes back as a text. An id or a time is
read by the function that inverts its text.

- `*_read`: each decoder, on the row that was written for a value, gives back the value with its free-form dicts
  normalised.
-/
import InferencePlatform.Core.SqlEncoding
import InferencePlatform.Persistence.Durability

namespace InferencePlatform.Persistence

open InferencePlatform.Core (sortOn)
open InferencePlatform.Core.Sql
open Observability Replay

/-! ## Columns -/

/-- the texts, and those that a TEXT column makes of what is not bound as a text -/
structure ColumnTexts extends Texts where
  /-- of a `float` -/
  realText : ℚ → String
  /-- of a `datetime`, by the default adapter -/
  adapted : Time → String
  isoformat_ne : ∀ t, isoformat t ≠ ""

attribute [simp] ColumnTexts.isoformat_ne

variable (texts : ColumnTexts)

/-- what is read of a TEXT column that a value was bound to -/
def columnText : PyValue → PyValue
  | .bool b => .str (if b then "1" else "0")
  | .int i => .str (toString i)
  | .float q => .str (texts.realText q)
  | .enum _ value => .str value
  | .datetime t => .str (texts.adapted t)
  | v => v

namespace PyValue

def asNat : PyValue → Except String ℕ
  | .int (.ofNat n) => .ok n
  | _ => .error "not a count"

/-- `datetime.fromisoformat(value) if value else None` -/
def asOptTime (v : PyValue) : Except String (Option Time) :=
  if v.truthy then (v.asTime texts.toTexts).map some else .ok Option.none

/-- `value or ()` -/
def orEmptyList (v : PyValue) : Except String (List PyValue) := if v.truthy then v.asList else .ok []

end PyValue

/-- `FailureCategory(value)` -/
def failureCategoryOf (value : String) : Except String FailureCategory :=
  match [FailureCategory.admission, .queue, .scheduler, .batch, .backend, .lifecycle, .replay, .unknown].find?
      fun category => category.value = value with
  | some category => .ok category
  | none => .error s!"'{value}' is not a valid FailureCategory"

/-- `ReplayOutcome(value)` -/
def replayOutcomeOf (value : String) : Except String ReplayOutcome :=
  match [ReplayOutcome.completed, .failed, .rejected, .timedOut, .error].find? fun outcome => outcome.value = value with
  | some outcome => .ok outcome
  | none => .error s!"'{value}' is not a valid ReplayOutcome"

/-! ## Decoding -/

def lifecycleTransitionFromDict (data : PyDict) : Except String LifecycleTransition := do
  return { requestId := ← (← data.item "request_id").asUuid texts.toTexts
           sequenceNum := ← (← data.item "sequence_num").asNat, eventType := ← (← data.item "event_type").asStr
           fromState := ← (data.get "from_state").asOptStr, toState := ← (data.get "to_state").asOptStr
           timestamp := ← (← data.item "timestamp").asTime texts.toTexts }

def schedulerDecisionFromDict (data : PyDict) : Except String SchedulerDecision := do
  return { requestId := ← (← data.item "request_id").asUuid texts.toTexts
           sequenceNum := ← (← data.item "sequence_num").asNat, eventType := ← (← data.item "event_type").asStr
           decisionReason := ← (data.get "decision_reason").asOptStr
           schedulerCycleId := data.get "scheduler_cycle_id", batchId := ← (data.get "batch_id").asOptStr
           timestamp := ← (← data.item "timestamp").asTime texts.toTexts, details := ← orEmpty (data.get "details") }

def batchDecisionFromDict (data : PyDict) : Except String BatchDecision := do
  return { requestId := ← (← data.item "request_id").asUuid texts.toTexts
           sequenceNum := ← (← data.item "sequence_num").asNat, eventType := ← (← data.item "event_type").asStr
           batchId := ← (data.get "batch_id").asOptStr, decisionReason := ← (data.get "decision_reason").asOptStr
           timestamp := ← (← data.item "timestamp").asTime texts.toTexts, details := ← orEmpty (data.get "details") }

def persistedFailureFromDict (data : PyDict) : Except String PersistedFailureRecord := do
  return { failureId := ← (← data.item "failure_id").asUuid texts.toTexts
           requestId := ← (← data.item "request_id").asUuid texts.toTexts
           failureType := ← (← data.item "failure_type").asStr
           failureOwner := ← componentOf (← (← data.item "failure_owner").asStr)
           failureComponent := ← (← data.item "failure_component").asStr
           failureCategory := ← failureCategoryOf (← (← data.item "failure_category").asStr)
           failureReason := ← (← data.item "failure_reason").asStr
           failureState := ← (← data.item "failure_state").asStr
           failureTimestamp := ← (← data.item "failure_timestamp").asTime texts.toTexts
           correlationId := ← (← data.item "correlation_id").asStr, batchId := ← (data.get "batch_id").asOptStr
           backendId := ← (data.get "backend_id").asOptStr }

/-- an item of the span metadata -/
def spanMetadataFromDict (item : PyDict) : Except String SpanMetadata := do
  return { spanName := ← (← item.item "span_name").asStr, component := ← (← item.item "component").asStr
           startedAt := ← (item.get "started_at").asOptTime texts, endedAt := ← (item.get "ended_at").asOptTime texts
           attributes := ← orEmpty (item.get "attributes") }

def traceSummaryFromDict (data : PyDict) : Except String TraceSummary := do
  let spanMetadata ← decodeList (spanMetadataFromDict texts) (← data.item "span_metadata")
  return { requestId := ← (← data.item "request_id").asUuid texts.toTexts
           correlationId := ← (← data.item "correlation_id").asStr, eventCount := ← (← data.item "event_count").asNat
           failureCount := ← (← data.item "failure_count").asNat
           stageDurationsMs := ← (← data.item "stage_durations_ms").asDict, spanMetadata
           capturedAt := ← (← data.item "captured_at").asTime texts.toTexts }

def replayExecutionFromDict (data : PyDict) : Except String ReplayExecution := do
  return { replayId := ← (← data.item "replay_id").asUuid texts.toTexts
           sourceRequestId := ← optUuid texts.toTexts (data.get "source_request_id")
           replayRequestId := ← (← data.item "replay_request_id").asUuid texts.toTexts
           outcome := ← replayOutcomeOf (← (← data.item "outcome").asStr)
           terminalState := ← (← data.item "terminal_state").asStr
           failureReason := ← (data.get "failure_reason").asOptStr
           failureMessage := ← (data.get "failure_message").asOptStr
           startedAt := ← (← data.item "started_at").asTime texts.toTexts
           completedAt := ← (← data.item "completed_at").asTime texts.toTexts
           replayEvents := ← (← (data.get "replay_events").orEmptyList).mapM PyValue.asStr }

def replayComparisonFromDict (data : PyDict) : Except String ReplayComparisonRecord := do
  return { comparisonId := ← (← data.item "comparison_id").asUuid texts.toTexts
           originalRequestId := ← (← data.item "original_request_id").asUuid texts.toTexts
           replayRequestId := ← (← data.item "replay_request_id").asUuid texts.toTexts
           generatedAt := ← (← data.item "generated_at").asTime texts.toTexts
           terminalStateMatch := (← data.item "terminal_state_match").truthy
           «matches» := (← data.item "matches").truthy
           differences := ← (← (data.get "differences").orEmptyList).mapM PyValue.asDict }

/-! ## Rows as dicts -/

def TransitionRow.toDict (row : TransitionRow) : PyDict :=
  [("request_id", .str row.requestId), ("sequence_num", .int row.sequenceNum), ("event_type", .str row.eventType),
    ("from_state", .ofOptStr row.fromState), ("to_state", .ofOptStr row.toState), ("timestamp", .str row.timestamp)]

def SchedulerDecisionRow.toDict (row : SchedulerDecisionRow) : PyDict :=
  [("request_id", .str row.requestId), ("sequence_num", .int row.sequenceNum), ("event_type", .str row.eventType),
    ("decision_reason", .ofOptStr row.decisionReason), ("scheduler_cycle_id", columnText texts row.schedulerCycleId),
    ("batch_id", .ofOptStr row.batchId), ("timestamp", .str row.timestamp), ("details", .dict row.detailsJson)]

def BatchDecisionRow.toDict (row : BatchDecisionRow) : PyDict :=
  [("request_id", .str row.requestId), ("sequence_num", .int row.sequenceNum), ("event_type", .str row.eventType),
    ("batch_id", .ofOptStr row.batchId), ("decision_reason", .ofOptStr row.decisionReason),
    ("timestamp", .str row.timestamp), ("details", .dict row.detailsJson)]

def FailureRow.toDict (row : FailureRow) : PyDict :=
  [("failure_id", .str row.failureId), ("request_id", .str row.requestId), ("failure_type", .str row.failureType),
    ("failure_owner", .str row.failureOwner), ("failure_component", .str row.failureComponent),
    ("failure_category", .str row.failureCategory), ("failure_reason", .str row.failureReason),
    ("failure_state", .str row.failureState), ("failure_timestamp", .str row.failureTimestamp),
    ("correlation_id", .str row.correlationId), ("batch_id", .ofOptStr row.batchId),
    ("backend_id", .ofOptStr row.backendId)]

def TraceSummaryRow.toDict (row : TraceSummaryRow) : PyDict :=
  [("request_id", .str row.requestId), ("correlation_id", .str row.correlationId), ("event_count", .int row.eventCount),
    ("failure_count", .int row.failureCount), ("stage_durations_ms", .dict row.stageDurationsJson),
    ("span_metadata", dictList id row.spanMetadataJson), ("captured_at", .str row.capturedAt)]

def ReplayRow.toDict (row : ReplayRow) : PyDict :=
  [("replay_id", .str row.replayId), ("source_request_id", .ofOptStr row.sourceRequestId),
    ("replay_request_id", .str row.replayRequestId), ("outcome", .str row.outcome),
    ("terminal_state", .str row.terminalState), ("failure_reason", .ofOptStr row.failureReason),
    ("failure_message", .ofOptStr row.failureMessage), ("started_at", .str row.startedAt),
    ("completed_at", .str row.completedAt), ("replay_events", .list (row.replayEventsJson.map .str))]

/-- the two INTEGER columns hold `int(..)` of a bool, of which `bool(..)` is taken again -/
def ComparisonRow.toDict (row : ComparisonRow) : PyDict :=
  [("comparison_id", .str row.comparisonId), ("original_request_id", .str row.originalRequestId),
    ("replay_request_id", .str row.replayRequestId), ("generated_at", .str row.generatedAt),
    ("terminal_state_match", .bool row.terminalStateMatch), ("matches", .bool row.matches),
    ("differences", dictList id row.differencesJson)]

/-! ## Selecting -/

def summaryTable (db : Database schema) : Table TraceSummaryRow.requestId := db TableName.traceSummaries

def replayTable (db : Database schema) : Table ReplayRow.replayId := db TableName.replayExecutions

def comparisonTable (db : Database schema) : Table ComparisonRow.comparisonId := db TableName.replayComparisons

variable (db : Database schema)

def getRequest (requestId : UUID) : Except String (Option RequestMetadata) :=
  match (requestTable db).row? (texts.uuidText requestId) with
  | none => .ok none
  | some row => do
    return some { requestId := ← (PyValue.str row.requestId).asUuid texts.toTexts, correlationId := row.correlationId
                  model := row.model, terminalState := row.terminalState
                  capturedAt := ← (PyValue.str row.capturedAt).asTime texts.toTexts
                  payload := ← payloadSnapshotFromDict row.payloadJson
                  terminalOutcome := ← terminalOutcomeFromDict row.terminalOutcomeJson }

/-- each request of the ids that are selected -/
def listRequests : Except String (List RequestMetadata) := do
  let found ← (sortOn RequestRow.capturedAt (requestTable db).rows).mapM fun row => do
    getRequest texts db (← (PyValue.str row.requestId).asUuid texts.toTexts)
  return found.reduceOption

def getTransitions (requestId : UUID) : Except String (List LifecycleTransition) :=
  (sortOn TransitionRow.sequenceNum
    ((transitionTable db).rows.filter fun row => row.requestId = texts.uuidText requestId)).mapM fun row =>
      lifecycleTransitionFromDict texts row.toDict

/-- `scheduler_decisions.get_decisions` -/
def getSchedulerDecisions (requestId : UUID) : Except String (List SchedulerDecision) :=
  (sortOn SchedulerDecisionRow.sequenceNum
    ((schedulerTable db).rows.filter fun row => row.requestId = texts.uuidText requestId)).mapM fun row =>
      schedulerDecisionFromDict texts (row.toDict texts)

/-- `batch_decisions.get_decisions` -/
def getBatchDecisions (requestId : UUID) : Except String (List BatchDecision) :=
  (sortOn BatchDecisionRow.sequenceNum
    ((batchTable db).rows.filter fun row => row.requestId = texts.uuidText requestId)).mapM fun row =>
      batchDecisionFromDict texts row.toDict

/-- LIMIT, without effect if it is negative -/
def limited {α : Type} (limit : ℤ) (rows : List α) : List α := if limit < 0 then rows else rows.take limit.toNat

/-- the latest first; the limit is bound as well -/
def queryFailures (limit : ℤ) : Except String (List PersistedFailureRecord) :=
  if (PyValue.int limit).bindable then
    (limited limit (sortOn (fun row => OrderDual.toDual row.failureTimestamp) (failureTable db).rows)).mapM fun row =>
      persistedFailureFromDict texts row.toDict
  else .error "Python int too large to convert to SQLite INTEGER"

def queryFailuresByRequest (requestId : UUID) : Except String (List PersistedFailureRecord) :=
  (sortOn FailureRow.failureTimestamp
    ((failureTable db).rows.filter fun row => row.requestId = texts.uuidText requestId)).mapM fun row =>
      persistedFailureFromDict texts row.toDict

def queryFailuresByComponent (component : RuntimeComponent) : Except String (List PersistedFailureRecord) :=
  (sortOn (fun row => OrderDual.toDual row.failureTimestamp)
    ((failureTable db).rows.filter fun row => row.failureOwner = component.value)).mapM fun row =>
      persistedFailureFromDict texts row.toDict

def getReplay (replayId : UUID) : Except String (Option ReplayExecution) :=
  match (replayTable db).row? (texts.uuidText replayId) with
  | none => .ok none
  | some row => (replayExecutionFromDict texts row.toDict).map some

/-- the rows of the one query or the other -/
def replaysOf : Option UUID → List ReplayRow
  | none => (replayTable db).rows
  | some source => (replayTable db).rows.filter fun row => row.sourceRequestId = some (texts.uuidText source)

def listReplays (sourceRequestId : Option UUID) : Except String (List ReplayExecution) := do
  let found ← (sortOn ReplayRow.completedAt (replaysOf texts db sourceRequestId)).mapM fun row => do
    getReplay texts db (← (PyValue.str row.replayId).asUuid texts.toTexts)
  return found.reduceOption

def getComparison (comparisonId : UUID) : Except String (Option ReplayComparisonRecord) :=
  match (comparisonTable db).row? (texts.uuidText comparisonId) with
  | none => .ok none
  | some row => (replayComparisonFromDict texts row.toDict).map some

def getSummary (requestId : UUID) : Except String (Option TraceSummary) :=
  match (summaryTable db).row? (texts.uuidText requestId) with
  | none => .ok none
  | some row => (traceSummaryFromDict texts row.toDict).map some

/-! ## What comes back of a value -/

def normaliseMetadata (metadata : RequestMetadata) : RequestMetadata :=
  { metadata with
    payload := ⟨PyDict.normalise texts.toTexts metadata.payload.inferenceRequest,
      PyDict.normalise texts.toTexts metadata.payload.requestContext⟩ }

def normaliseSchedulerDecision (decision : SchedulerDecision) : SchedulerDecision :=
  { decision with
    schedulerCycleId := columnText texts decision.schedulerCycleId
    details := PyDict.normalise texts.toTexts decision.details }

def normaliseBatchDecision (decision : BatchDecision) : BatchDecision :=
  { decision with details := PyDict.normalise texts.toTexts decision.details }

def normaliseSpan (span : SpanMetadata) : SpanMetadata :=
  { span with attributes := PyDict.normalise texts.toTexts span.attributes }

def normaliseSummary (summary : TraceSummary) : TraceSummary :=
  { summary with
    stageDurationsMs := PyDict.normalise texts.toTexts summary.stageDurationsMs
    spanMetadata := summary.spanMetadata.map (normaliseSpan texts) }

def normaliseComparison (comparison : ReplayComparisonRecord) : ReplayComparisonRecord :=
  { comparison with differences := comparison.differences.map (PyDict.normalise texts.toTexts) }

variable {texts}

@[simp] theorem asNat_natCast (n : ℕ) : (PyValue.int n).asNat = .ok n := rfl

@[simp] theorem failureCategoryOf_value (category : FailureCategory) :
    failureCategoryOf category.value = .ok category := by
  cases category <;> rfl

@[simp] theorem replayOutcomeOf_value (outcome : ReplayOutcome) : replayOutcomeOf outcome.value = .ok outcome := by
  cases outcome <;> rfl

@[simp] theorem asOptTime_isoformat (t : Option Time) :
    (PyValue.ofOptStr (t.map texts.isoformat)).asOptTime texts = .ok t := by
  cases t with
  | none => rfl
  | some t => simp [PyValue.asOptTime, PyValue.ofOptStr, PyValue.truthy, Except.map]

@[simp] theorem optUuid_uuidText (u : Option UUID) :
    optUuid texts.toTexts (.ofOptStr (u.map texts.uuidText)) = .ok u := by
  cases u with
  | none => rfl
  | some u => simp [optUuid, PyValue.ofOptStr, PyValue.truthy, Except.map]

/-- a list that may be empty -/
theorem orEmptyList_list (items : List PyValue) : (PyValue.list items).orEmptyList = .ok items := by
  cases items with
  | nil => rfl
  | cons v rest => rfl

theorem transition_read (transition : LifecycleTransition) :
    lifecycleTransitionFromDict texts (transitionRow texts.toTexts transition).toDict = .ok transition := by
  simp [lifecycleTransitionFromDict, TransitionRow.toDict, transitionRow, PyDict.item, PyDict.get,
    PyValue.asStr, ok_bind]

theorem schedulerDecision_read (decision : SchedulerDecision) :
    schedulerDecisionFromDict texts ((schedulerDecisionRow texts.toTexts decision).toDict texts) =
      .ok (normaliseSchedulerDecision texts decision) := by
  simp [schedulerDecisionFromDict, SchedulerDecisionRow.toDict, schedulerDecisionRow, PyDict.item,
    PyDict.get, PyValue.asStr, orEmpty_dict, ok_bind]
  rfl

theorem batchDecision_read (decision : BatchDecision) :
    batchDecisionFromDict texts (batchDecisionRow texts.toTexts decision).toDict =
      .ok (normaliseBatchDecision texts decision) := by
  simp [batchDecisionFromDict, BatchDecisionRow.toDict, batchDecisionRow, PyDict.item, PyDict.get,
    PyValue.asStr, orEmpty_dict, ok_bind]
  rfl

theorem failure_read (failure : PersistedFailureRecord) :
    persistedFailureFromDict texts (failureRow texts.toTexts failure).toDict = .ok failure := by
  simp [persistedFailureFromDict, FailureRow.toDict, failureRow, PyDict.item, PyDict.get, PyValue.asStr, ok_bind]

theorem span_read (span : SpanMetadata) :
    spanMetadataFromDict texts (PyDict.normalise texts.toTexts (spanMetadataToDict texts.toTexts span)) =
      .ok (normaliseSpan texts span) := by
  simp [spanMetadataFromDict, spanMetadataToDict, PyDict.item, PyDict.get, PyValue.asStr, orEmpty_dict, ok_bind]
  rfl

theorem decodeList_dicts {α : Type} {fromDict : PyDict → Except String α} (dicts : List PyDict) :
    decodeList fromDict (dictList id dicts) = dicts.mapM fromDict := by
  rw [decodeList, dictList, PyValue.asList, ok_bind, List.mapM_map]
  rfl

theorem summary_read (summary : TraceSummary) :
    traceSummaryFromDict texts (traceSummaryRow texts.toTexts summary).toDict =
      .ok (normaliseSummary texts summary) := by
  have hspans := mapM_ok (f := spanMetadataFromDict texts ∘ fun span =>
    PyDict.normalise texts.toTexts (spanMetadataToDict texts.toTexts span)) (fun span _ => span_read span)
    (l := summary.spanMetadata)
  simp [traceSummaryFromDict, TraceSummaryRow.toDict, traceSummaryRow, PyDict.item, PyValue.asStr, PyValue.asDict,
    decodeList_dicts, hspans, ok_bind]
  rfl

theorem replay_read (replay : ReplayExecution) :
    replayExecutionFromDict texts (replayRow texts.toTexts replay).toDict = .ok replay := by
  have hevents := mapM_ok (f := PyValue.asStr ∘ PyValue.str) (l := replay.replayEvents) fun _ _ => rfl
  simp [replayExecutionFromDict, ReplayRow.toDict, replayRow, PyDict.item, PyDict.get, PyValue.asStr,
    orEmptyList_list, hevents, ok_bind]

theorem comparison_read (comparison : ReplayComparisonRecord) :
    replayComparisonFromDict texts (comparisonRow texts.toTexts comparison).toDict =
      .ok (normaliseComparison texts comparison) := by
  have hdifferences := mapM_ok (f := PyValue.asDict ∘ PyValue.dict ∘ PyDict.normalise texts.toTexts)
    (l := comparison.differences) fun _ _ => rfl
  simp [replayComparisonFromDict, ComparisonRow.toDict, comparisonRow, PyDict.item, PyDict.get,
    dictList, orEmptyList_list, hdifferences, PyValue.truthy, ok_bind]
  rfl

end InferencePlatform.Persistence
