/-
The sqlite repository: its tables, and its operations as the statements they execute.

A row holds what is bound: texts for ids and times, and for a JSON column the dict that the column loads as. The column
of a decision's scheduler cycle takes whatever the event has under that key, so the statement raises for a value that
sqlite does not bind. After most writes an event is emitted, which is code outside the database.

`persistExecutionRecord` writes a record into seven tables, commits, and rolls back if anything raises. The other
operations leave the transaction open; `persistReplayResult` commits and does not roll back.
-/
import InferencePlatform.Core.KeySort
import InferencePlatform.Core.Sql
import InferencePlatform.Persistence.Models

namespace InferencePlatform.Persistence

open InferencePlatform.Core.Sql
open Observability Replay

/-! ## Rows -/

structure RequestRow where
  requestId : String
  correlationId : String
  model : Option String
  terminalState : String
  failureReason : Option String
  failureMessage : Option String
  batchId : Option String
  backendId : Option String
  capturedAt : String
  payloadJson : PyDict
  terminalOutcomeJson : PyDict

structure TransitionRow where
  requestId : String
  sequenceNum : ℕ
  eventType : String
  fromState : Option String
  toState : Option String
  timestamp : String

structure SchedulerDecisionRow where
  requestId : String
  sequenceNum : ℕ
  eventType : String
  decisionReason : Option String
  schedulerCycleId : PyValue
  batchId : Option String
  timestamp : String
  detailsJson : PyDict

structure BatchDecisionRow where
  requestId : String
  sequenceNum : ℕ
  eventType : String
  batchId : Option String
  decisionReason : Option String
  timestamp : String
  detailsJson : PyDict

structure ExecutionRecordRow where
  requestId : String
  recordJson : PyDict
  capturedAt : String
  sourceRequestId : Option String
  replayId : Option String

structure FailureRow where
  failureId : String
  requestId : String
  failureType : String
  failureOwner : String
  failureComponent : String
  failureCategory : String
  failureReason : String
  failureState : String
  failureTimestamp : String
  correlationId : String
  batchId : Option String
  backendId : Option String

structure TraceSummaryRow where
  requestId : String
  correlationId : String
  eventCount : ℕ
  failureCount : ℕ
  stageDurationsJson : PyDict
  spanMetadataJson : List PyDict
  capturedAt : String

structure ReplayRow where
  replayId : String
  sourceRequestId : Option String
  replayRequestId : String
  outcome : String
  terminalState : String
  failureReason : Option String
  failureMessage : Option String
  startedAt : String
  completedAt : String
  replayEventsJson : List String

structure ComparisonRow where
  comparisonId : String
  originalRequestId : String
  replayRequestId : String
  generatedAt : String
  terminalStateMatch : Bool
  «matches» : Bool
  differencesJson : List PyDict

/-! ## Tables -/

inductive TableName
  | requests | lifecycleTransitions | schedulerDecisions | batchDecisions | executionRecords | failures | traceSummaries
  | replayExecutions | replayComparisons
  deriving DecidableEq, Repr

namespace TableName

def Row : TableName → Type
  | requests => RequestRow
  | lifecycleTransitions => TransitionRow
  | schedulerDecisions => SchedulerDecisionRow
  | batchDecisions => BatchDecisionRow
  | executionRecords => ExecutionRecordRow
  | failures => FailureRow
  | traceSummaries => TraceSummaryRow
  | replayExecutions => ReplayRow
  | replayComparisons => ComparisonRow

def Key : TableName → Type
  | lifecycleTransitions | schedulerDecisions | batchDecisions => String × ℕ
  | _ => String

/-- the primary key -/
def key : (t : TableName) → t.Row → t.Key
  | requests => RequestRow.requestId
  | lifecycleTransitions => fun row : TransitionRow => (row.requestId, row.sequenceNum)
  | schedulerDecisions => fun row : SchedulerDecisionRow => (row.requestId, row.sequenceNum)
  | batchDecisions => fun row : BatchDecisionRow => (row.requestId, row.sequenceNum)
  | executionRecords => ExecutionRecordRow.requestId
  | failures => FailureRow.failureId
  | traceSummaries => TraceSummaryRow.requestId
  | replayExecutions => ReplayRow.replayId
  | replayComparisons => ComparisonRow.comparisonId

def decKey : (t : TableName) → DecidableEq t.Key
  | lifecycleTransitions | schedulerDecisions | batchDecisions => inferInstanceAs (DecidableEq (String × ℕ))
  | requests | executionRecords | failures | traceSummaries | replayExecutions | replayComparisons =>
    inferInstanceAs (DecidableEq String)

end TableName

/-- sqlite binds `None`, texts, numbers, the integers among them if they have 64 bits, and times by its default
adapter -/
def PyValue.bindable : PyValue → Bool
  | .none | .bool _ | .float _ | .str _ | .enum _ _ | .datetime _ => true
  | .int i => -2 ^ 63 ≤ i ∧ i < 2 ^ 63
  | .list _ | .tuple _ | .dict _ | .uuid _ => false

def bindableRow : (t : TableName) → t.Row → Bool
  | .schedulerDecisions => fun row : SchedulerDecisionRow => row.schedulerCycleId.bindable
  | _ => fun _ => true

def schema : Schema where
  Name := TableName
  Key := TableName.Key
  Row := TableName.Row
  key := TableName.key
  bindable := bindableRow
  decName := inferInstance
  decKey := TableName.decKey

def requestTable (db : Database schema) : Table RequestRow.requestId := db TableName.requests

def transitionTable (db : Database schema) : Table fun row : TransitionRow => (row.requestId, row.sequenceNum) :=
  db TableName.lifecycleTransitions

def schedulerTable (db : Database schema) : Table fun row : SchedulerDecisionRow => (row.requestId, row.sequenceNum) :=
  db TableName.schedulerDecisions

def batchTable (db : Database schema) : Table fun row : BatchDecisionRow => (row.requestId, row.sequenceNum) :=
  db TableName.batchDecisions

def recordTable (db : Database schema) : Table ExecutionRecordRow.requestId := db TableName.executionRecords

def failureTable (db : Database schema) : Table FailureRow.failureId := db TableName.failures

/-! ## What is bound -/

variable (texts : Texts)

def requestRow (metadata : RequestMetadata) : RequestRow where
  requestId := texts.uuidText metadata.requestId
  correlationId := metadata.correlationId
  model := metadata.model
  terminalState := metadata.terminalState
  failureReason := metadata.terminalOutcome.failureReason
  failureMessage := metadata.terminalOutcome.failureMessage
  batchId := metadata.terminalOutcome.batchId
  backendId := metadata.terminalOutcome.backendId
  capturedAt := texts.isoformat metadata.capturedAt
  payloadJson := PyDict.normalise texts (payloadSnapshotToDict metadata.payload)
  terminalOutcomeJson := PyDict.normalise texts (terminalOutcomeToDict metadata.terminalOutcome)

def transitionRow (transition : LifecycleTransition) : TransitionRow where
  requestId := texts.uuidText transition.requestId
  sequenceNum := transition.sequenceNum
  eventType := transition.eventType
  fromState := transition.fromState
  toState := transition.toState
  timestamp := texts.isoformat transition.timestamp

def schedulerDecisionRow (decision : SchedulerDecision) : SchedulerDecisionRow where
  requestId := texts.uuidText decision.requestId
  sequenceNum := decision.sequenceNum
  eventType := decision.eventType
  decisionReason := decision.decisionReason
  schedulerCycleId := decision.schedulerCycleId
  batchId := decision.batchId
  timestamp := texts.isoformat decision.timestamp
  detailsJson := PyDict.normalise texts decision.details

def batchDecisionRow (decision : BatchDecision) : BatchDecisionRow where
  requestId := texts.uuidText decision.requestId
  sequenceNum := decision.sequenceNum
  eventType := decision.eventType
  batchId := decision.batchId
  decisionReason := decision.decisionReason
  timestamp := texts.isoformat decision.timestamp
  detailsJson := PyDict.normalise texts decision.details

def executionRecordRow (record : RequestExecutionRecord) : ExecutionRecordRow where
  requestId := texts.uuidText record.requestId
  recordJson := PyDict.normalise texts (executionRecordToDict texts record)
  capturedAt := texts.isoformat record.capturedAt
  sourceRequestId := record.sourceRequestId.map texts.uuidText
  replayId := record.replayId.map texts.uuidText

def failureRow (failure : PersistedFailureRecord) : FailureRow where
  failureId := texts.uuidText failure.failureId
  requestId := texts.uuidText failure.requestId
  failureType := failure.failureType
  failureOwner := failure.failureOwner.value
  failureComponent := failure.failureComponent
  failureCategory := failure.failureCategory.value
  failureReason := failure.failureReason
  failureState := failure.failureState
  failureTimestamp := texts.isoformat failure.failureTimestamp
  correlationId := failure.correlationId
  batchId := failure.batchId
  backendId := failure.backendId

def traceSummaryRow (summary : TraceSummary) : TraceSummaryRow where
  requestId := texts.uuidText summary.requestId
  correlationId := summary.correlationId
  eventCount := summary.eventCount
  failureCount := summary.failureCount
  stageDurationsJson := PyDict.normalise texts summary.stageDurationsMs
  spanMetadataJson := summary.spanMetadata.map fun span => PyDict.normalise texts (spanMetadataToDict texts span)
  capturedAt := texts.isoformat summary.capturedAt

def replayRow (replay : ReplayExecution) : ReplayRow where
  replayId := texts.uuidText replay.replayId
  sourceRequestId := replay.sourceRequestId.map texts.uuidText
  replayRequestId := texts.uuidText replay.replayRequestId
  outcome := replay.outcome.value
  terminalState := replay.terminalState
  failureReason := replay.failureReason
  failureMessage := replay.failureMessage
  startedAt := texts.isoformat replay.startedAt
  completedAt := texts.isoformat replay.completedAt
  replayEventsJson := replay.replayEvents

def comparisonRow (comparison : ReplayComparisonRecord) : ComparisonRow where
  comparisonId := texts.uuidText comparison.comparisonId
  originalRequestId := texts.uuidText comparison.originalRequestId
  replayRequestId := texts.uuidText comparison.replayRequestId
  generatedAt := texts.isoformat comparison.generatedAt
  terminalStateMatch := comparison.terminalStateMatch
  «matches» := comparison.«matches»
  differencesJson := comparison.differences.map fun difference => PyDict.normalise texts difference

/-! ## Writes -/

def executeReplace (t : TableName) (row : t.Row) : Command schema := .execute (.replace (S := schema) t row)

def executeInsert (t : TableName) (row : t.Row) : Command schema := .execute (.insert (S := schema) t row)

/-- DELETE of the rows with a column equal to a text -/
def executeDelete (t : TableName) (column : t.Row → String) (text : String) : Command schema :=
  .execute (.delete (S := schema) t fun row => column row = text)

def saveRequest (metadata : RequestMetadata) : List (Command schema) :=
  [executeReplace .requests (requestRow texts metadata), .effect]

def saveTransitions (requestId : UUID) (transitions : List LifecycleTransition) : List (Command schema) :=
  executeDelete .lifecycleTransitions TransitionRow.requestId (texts.uuidText requestId) ::
    transitions.map (fun transition =>
      executeInsert .lifecycleTransitions (transitionRow texts transition)) ++ [.effect]

def saveSchedulerDecisions : List SchedulerDecision → List (Command schema)
  | [] => []
  | first :: rest =>
    executeDelete .schedulerDecisions SchedulerDecisionRow.requestId (texts.uuidText first.requestId) ::
      (first :: rest).map (fun decision =>
        executeInsert .schedulerDecisions (schedulerDecisionRow texts decision)) ++ [.effect]

def saveBatchDecisions : List BatchDecision → List (Command schema)
  | [] => []
  | first :: rest =>
    executeDelete .batchDecisions BatchDecisionRow.requestId (texts.uuidText first.requestId) ::
      (first :: rest).map (fun decision => executeInsert .batchDecisions (batchDecisionRow texts decision)) ++ [.effect]

def saveFailures (failures : List PersistedFailureRecord) : List (Command schema) :=
  failures.flatMap fun failure => [executeReplace .failures (failureRow texts failure), .effect]

/-- `execution_records.save` -/
def saveRecord (record : RequestExecutionRecord) : List (Command schema) :=
  [executeReplace .executionRecords (executionRecordRow texts record), .effect]

def saveSummary (summary : TraceSummary) : List (Command schema) :=
  [executeReplace .traceSummaries (traceSummaryRow texts summary), .effect]

def saveReplay (replay : ReplayExecution) : List (Command schema) :=
  [executeReplace .replayExecutions (replayRow texts replay), .effect]

def saveComparison (comparison : ReplayComparisonRecord) : List (Command schema) :=
  [executeReplace .replayComparisons (comparisonRow texts comparison), .effect]

/-- `execution_records.delete` -/
def deleteRecord (requestId : UUID) : List (Command schema) :=
  [executeDelete .executionRecords ExecutionRecordRow.requestId (texts.uuidText requestId)]

def deleteRequest (requestId : UUID) : List (Command schema) :=
  [executeDelete .lifecycleTransitions TransitionRow.requestId (texts.uuidText requestId),
    executeDelete .schedulerDecisions SchedulerDecisionRow.requestId (texts.uuidText requestId),
    executeDelete .batchDecisions BatchDecisionRow.requestId (texts.uuidText requestId),
    executeDelete .failures FailureRow.requestId (texts.uuidText requestId),
    executeDelete .traceSummaries TraceSummaryRow.requestId (texts.uuidText requestId),
    executeDelete .executionRecords ExecutionRecordRow.requestId (texts.uuidText requestId),
    executeDelete .requests RequestRow.requestId (texts.uuidText requestId)]

/-! Each of them is about one table -/

variable {texts}

theorem untouched_of_confined {t t' : TableName} {commands : List (Command schema)}
    (h : Confined (S := schema) t commands) (ht : t ≠ t') : Untouched (S := schema) t' commands := h.untouched ht

theorem saveRequest_confined (metadata : RequestMetadata) :
    Confined (S := schema) TableName.requests (saveRequest texts metadata) := by
  intro s hs
  simp only [saveRequest, executeReplace, List.mem_cons, Command.execute.injEq, List.not_mem_nil,
    or_false, reduceCtorEq] at hs
  obtain rfl := hs
  rfl

theorem saveTransitions_confined (requestId : UUID) (transitions : List LifecycleTransition) :
    Confined (S := schema) TableName.lifecycleTransitions (saveTransitions texts requestId transitions) := by
  intro s hs
  simp only [saveTransitions, executeDelete, executeInsert, List.cons_append, List.mem_cons,
    List.mem_append, List.mem_map, Command.execute.injEq, List.not_mem_nil, or_false, reduceCtorEq] at hs
  rcases hs with rfl | ⟨transition, -, rfl⟩
  · rfl
  · rfl

theorem saveSchedulerDecisions_confined (decisions : List SchedulerDecision) :
    Confined (S := schema) TableName.schedulerDecisions (saveSchedulerDecisions texts decisions) := by
  intro s hs
  cases decisions with
  | nil => cases hs
  | cons first rest =>
    simp only [saveSchedulerDecisions, executeDelete, executeInsert, List.cons_append, List.mem_cons, List.mem_append,
      List.mem_map, Command.execute.injEq, List.not_mem_nil, or_false, reduceCtorEq] at hs
    rcases hs with rfl | ⟨decision, -, rfl⟩
    · rfl
    · rfl

theorem saveBatchDecisions_confined (decisions : List BatchDecision) :
    Confined (S := schema) TableName.batchDecisions (saveBatchDecisions texts decisions) := by
  intro s hs
  cases decisions with
  | nil => cases hs
  | cons first rest =>
    simp only [saveBatchDecisions, executeDelete, executeInsert, List.cons_append, List.mem_cons, List.mem_append,
      List.mem_map, Command.execute.injEq, List.not_mem_nil, or_false, reduceCtorEq] at hs
    rcases hs with rfl | ⟨decision, -, rfl⟩
    · rfl
    · rfl

theorem saveFailures_confined (failures : List PersistedFailureRecord) :
    Confined (S := schema) TableName.failures (saveFailures texts failures) := by
  intro s hs
  simp only [saveFailures, executeReplace, List.mem_flatMap, List.mem_cons, Command.execute.injEq,
    List.not_mem_nil, or_false, reduceCtorEq] at hs
  obtain ⟨failure, -, rfl⟩ := hs
  rfl

theorem saveRecord_confined (record : RequestExecutionRecord) :
    Confined (S := schema) TableName.executionRecords (saveRecord texts record) := by
  intro s hs
  simp only [saveRecord, executeReplace, List.mem_cons, Command.execute.injEq, List.not_mem_nil,
    or_false, reduceCtorEq] at hs
  obtain rfl := hs
  rfl

theorem saveSummary_confined (summary : TraceSummary) :
    Confined (S := schema) TableName.traceSummaries (saveSummary texts summary) := by
  intro s hs
  simp only [saveSummary, executeReplace, List.mem_cons, Command.execute.injEq, List.not_mem_nil,
    or_false, reduceCtorEq] at hs
  obtain rfl := hs
  rfl

theorem saveReplay_confined (replay : ReplayExecution) :
    Confined (S := schema) TableName.replayExecutions (saveReplay texts replay) := by
  intro s hs
  simp only [saveReplay, executeReplace, List.mem_cons, Command.execute.injEq, List.not_mem_nil,
    or_false, reduceCtorEq] at hs
  obtain rfl := hs
  rfl

theorem saveComparison_confined (comparison : ReplayComparisonRecord) :
    Confined (S := schema) TableName.replayComparisons (saveComparison texts comparison) := by
  intro s hs
  simp only [saveComparison, executeReplace, List.mem_cons, Command.execute.injEq, List.not_mem_nil,
    or_false, reduceCtorEq]
    at hs
  obtain rfl := hs
  rfl

theorem effect_untouched (t : TableName) : Untouched (S := schema) t [.effect] := by
  intro s hs
  simp at hs

theorem does_replace {t : schema.Name} {row : schema.Row t} {db db' : Database schema}
    (h : Does (S := schema) [executeReplace t row, .effect] db db') : db' t = (db t).replace row := by
  obtain ⟨mid, hmid, hrest⟩ := Does.replace (S := schema) h
  exact (hrest.untouched (effect_untouched t)).trans hmid

/-- the rows with a text in a column are deleted, and others inserted -/
theorem does_rewrite {α : Type} {t : TableName} {column : t.Row → String} {text : String}
    {items : List α} {row : α → t.Row} {db db' : Database schema}
    (h : Does (S := schema)
      (executeDelete t column text :: items.map (fun item => executeInsert t (row item)) ++ [.effect]) db db') :
    (db' t).rows = ((db t).rows.filter fun row => column row ≠ text) ++ items.map row := by
  obtain ⟨mid, hmid, hrest⟩ := Does.delete (S := schema) h
  have hinserts : (items.map row).map (fun row => Command.execute (.insert (S := schema) t row)) =
      items.map fun item => executeInsert t (row item) := List.map_map ..
  rw [← hinserts] at hrest
  rw [Does.inserts (S := schema) (effect_untouched t) hrest, hmid, Table.deleteWhere]
  congr 1
  exact List.filter_congr fun row _ => by simp

/-- the rows replace those of their keys, one after the other -/
theorem does_replaces {α : Type} {t : schema.Name} {items : List α} {row : α → schema.Row t} {db db' : Database schema}
    (h : Does (S := schema) (items.flatMap fun item => [executeReplace t (row item), .effect]) db db') :
    db' t = (items.map row).foldl Table.replace (db t) := by
  induction items generalizing db with
  | nil =>
    cases h
    rfl
  | cons item items ih =>
    obtain ⟨mid, hfirst, hrest⟩ := Does.of_append (S := schema) (a := [executeReplace t (row item), .effect]) h
    rw [ih hrest, does_replace hfirst, List.map_cons, List.foldl_cons]

variable (texts)

/-! ## Composite writes -/

/-- a record with the timeline of its trace, if there is one, and the first of the new failure ids -/
structure PersistCall where
  record : RequestExecutionRecord
  timeline : Option (TraceTimeline × PyDict) := none
  firstFailureId : UUID

namespace PersistCall

variable (call : PersistCall)

def transitions : List LifecycleTransition :=
  call.record.lifecycleTransitions.mapIdx (lifecycleTransitionFromSnapshot call.record.requestId)

def schedulerDecisions : List SchedulerDecision :=
  call.record.schedulerEvents.mapIdx (schedulerDecisionFromEvent call.record.requestId)

def batchDecisions : List BatchDecision :=
  call.record.batchEvents.mapIdx (batchDecisionFromEvent call.record.requestId)

def failures : List PersistedFailureRecord :=
  call.record.failures.mapIdx fun index failure => persistedFailureFromRuntime failure (call.firstFailureId + index)

def summary : Option TraceSummary :=
  call.timeline.map fun timeline => traceSummaryFromTimeline timeline.1 timeline.2 call.record.failures.length

end PersistCall

def persistExecutionRecord (call : PersistCall) : Operation schema where
  body :=
    saveRequest texts (requestMetadataFromRecord texts call.record) ++
      saveTransitions texts call.record.requestId call.transitions ++
      saveSchedulerDecisions texts call.schedulerDecisions ++
      saveBatchDecisions texts call.batchDecisions ++ saveFailures texts call.failures ++
      saveRecord texts call.record ++
      (call.summary.map (saveSummary texts)).getD []
  commits := true
  rollsBack := true

def persistReplayResult (result : ReplayResult) (startedAt completedAt : Time)
    (comparison : Option (ExecutionComparison × UUID)) : Operation schema where
  body :=
    saveReplay texts (replayExecutionFromResult result startedAt completedAt) ++
      (comparison.map fun c => saveComparison texts (replayComparisonFromExecution c.1 c.2)).getD []
  commits := true

/-! ## Reads -/

/-- `execution_records.get` -/
def getRecord (db : Database schema) (requestId : UUID) : Except String (Option RequestExecutionRecord) :=
  match (recordTable db).row? (texts.uuidText requestId) with
  | none => .ok none
  | some row => (executionRecordFromDict texts row.recordJson).map some

/-- `execution_records.list_request_ids`, oldest first by the text of the time -/
def listRequestIds (db : Database schema) : Except String (List UUID) :=
  (Core.sortOn ExecutionRecordRow.capturedAt (recordTable db).rows).mapM fun row =>
    (PyValue.str row.requestId).asUuid texts

end InferencePlatform.Persistence
