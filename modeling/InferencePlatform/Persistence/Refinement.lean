/-
What the repository keeps, without its tables: values under their ids.

`valueSchema` keeps the values themselves, and `RepositoryOp.values` says of each operation what it writes, with no
text, dict or column in it. A history is performed on both, with the same faults, rollbacks and restarts.

- `repository_refines`: after any history every read of the sqlite repository returns what is kept, with the free-form
  dicts normalised; it raises only for a record that has a completion or stream metrics. So does a read after the
  database is opened again, of what is committed.
-/
import InferencePlatform.Persistence.Reads
import InferencePlatform.Persistence.Recovery

namespace InferencePlatform.Persistence

open InferencePlatform.Core (run sortOn)
open InferencePlatform.Core.Sql
open Observability Replay

/-! ## Values -/

namespace TableName

def Value : TableName → Type
  | requests => RequestMetadata
  | lifecycleTransitions => LifecycleTransition
  | schedulerDecisions => SchedulerDecision
  | batchDecisions => BatchDecision
  | executionRecords => RequestExecutionRecord
  | failures => PersistedFailureRecord
  | traceSummaries => TraceSummary
  | replayExecutions => ReplayExecution
  | replayComparisons => ReplayComparisonRecord

def ValueKey : TableName → Type
  | lifecycleTransitions | schedulerDecisions | batchDecisions => UUID × ℕ
  | _ => UUID

def valueKey : (t : TableName) → t.Value → t.ValueKey
  | requests => RequestMetadata.requestId
  | lifecycleTransitions => fun v : LifecycleTransition => (v.requestId, v.sequenceNum)
  | schedulerDecisions => fun v : SchedulerDecision => (v.requestId, v.sequenceNum)
  | batchDecisions => fun v : BatchDecision => (v.requestId, v.sequenceNum)
  | executionRecords => RequestExecutionRecord.requestId
  | failures => PersistedFailureRecord.failureId
  | traceSummaries => TraceSummary.requestId
  | replayExecutions => fun v : ReplayExecution => v.replayId
  | replayComparisons => ReplayComparisonRecord.comparisonId

def decValueKey : (t : TableName) → DecidableEq t.ValueKey
  | lifecycleTransitions | schedulerDecisions | batchDecisions => inferInstanceAs (DecidableEq (ℕ × ℕ))
  | requests | executionRecords | failures | traceSummaries | replayExecutions | replayComparisons =>
    inferInstanceAs (DecidableEq ℕ)

/-- a decision is kept only if its scheduler cycle is something that can be bound -/
def keepable : (t : TableName) → t.Value → Bool
  | schedulerDecisions => fun v : SchedulerDecision => v.schedulerCycleId.bindable
  | _ => fun _ => true

end TableName

def valueSchema : Schema where
  Name := TableName
  Key := TableName.ValueKey
  Row := TableName.Value
  key := TableName.valueKey
  bindable := TableName.keepable
  decName := inferInstance
  decKey := TableName.decValueKey

/-! ### What is kept of one kind -/

section

variable (kept : Database valueSchema)

def keptRequests : Table RequestMetadata.requestId := kept TableName.requests

def keptTransitions : List LifecycleTransition := (kept TableName.lifecycleTransitions).rows

def keptSchedulerDecisions : List SchedulerDecision := (kept TableName.schedulerDecisions).rows

def keptBatchDecisions : List BatchDecision := (kept TableName.batchDecisions).rows

def keptRecords : Table RequestExecutionRecord.requestId := kept TableName.executionRecords

def keptFailures : List PersistedFailureRecord := (kept TableName.failures).rows

def keptSummaries : Table TraceSummary.requestId := kept TableName.traceSummaries

def keptReplays : Table fun replay : ReplayExecution => replay.replayId := kept TableName.replayExecutions

def keptComparisons : Table ReplayComparisonRecord.comparisonId := kept TableName.replayComparisons

end

/-! ## Operations on values -/

/-- in place of the value of its key -/
def keep (t : TableName) (v : t.Value) : List (Command valueSchema) :=
  [.execute (.replace (S := valueSchema) t v), .effect]

def forget (t : TableName) (requestOf : t.Value → UUID) (requestId : UUID) : Command valueSchema :=
  .execute (.delete (S := valueSchema) t fun v => requestOf v = requestId)

/-- in place of what is kept of the request -/
def keepAll (t : TableName) (requestOf : t.Value → UUID) (requestId : UUID) (values : List t.Value) :
    List (Command valueSchema) :=
  forget t requestOf requestId :: values.map (fun v => .execute (.insert (S := valueSchema) t v)) ++ [.effect]

def keepTransitions (requestId : UUID) (transitions : List LifecycleTransition) : List (Command valueSchema) :=
  keepAll .lifecycleTransitions LifecycleTransition.requestId requestId transitions

/-- nothing, if there are none -/
def keepSchedulerDecisions : List SchedulerDecision → List (Command valueSchema)
  | [] => []
  | first :: rest => keepAll .schedulerDecisions SchedulerDecision.requestId first.requestId (first :: rest)

def keepBatchDecisions : List BatchDecision → List (Command valueSchema)
  | [] => []
  | first :: rest => keepAll .batchDecisions BatchDecision.requestId first.requestId (first :: rest)

def keepFailures (failures : List PersistedFailureRecord) : List (Command valueSchema) :=
  failures.flatMap fun failure => keep .failures failure

def forgetRequest (requestId : UUID) : List (Command valueSchema) :=
  [forget .lifecycleTransitions LifecycleTransition.requestId requestId,
    forget .schedulerDecisions SchedulerDecision.requestId requestId,
    forget .batchDecisions BatchDecision.requestId requestId,
    forget .failures PersistedFailureRecord.requestId requestId,
    forget .traceSummaries TraceSummary.requestId requestId,
    forget .executionRecords RequestExecutionRecord.requestId requestId,
    forget .requests RequestMetadata.requestId requestId]

variable (texts : ColumnTexts)

/-- the model of a request's metadata is a text of what the payload has under `model`, so the texts are there -/
def keepRecord (call : PersistCall) : Operation valueSchema where
  body :=
    keep .requests (requestMetadataFromRecord texts.toTexts call.record) ++
      keepTransitions call.record.requestId call.transitions ++ keepSchedulerDecisions call.schedulerDecisions ++
      keepBatchDecisions call.batchDecisions ++ keepFailures call.failures ++ keep .executionRecords call.record ++
      (call.summary.map (keep .traceSummaries)).getD []
  commits := true
  rollsBack := true

def keepReplayResult (result : ReplayResult) (startedAt completedAt : Time)
    (comparison : Option (ExecutionComparison × UUID)) : Operation valueSchema where
  body :=
    keep .replayExecutions (replayExecutionFromResult result startedAt completedAt) ++
      (comparison.map fun c => keep .replayComparisons (replayComparisonFromExecution c.1 c.2)).getD []
  commits := true

def RepositoryOp.values : RepositoryOp → Operation valueSchema
  | saveRequest metadata => { body := keep .requests metadata }
  | saveTransitions requestId transitions => { body := keepTransitions requestId transitions }
  | saveSchedulerDecisions decisions => { body := keepSchedulerDecisions decisions }
  | saveBatchDecisions decisions => { body := keepBatchDecisions decisions }
  | saveFailures failures => { body := keepFailures failures }
  | saveRecord record => { body := keep .executionRecords record }
  | saveSummary summary => { body := keep .traceSummaries summary }
  | saveReplay replay => { body := keep .replayExecutions replay }
  | saveComparison comparison => { body := keep .replayComparisons comparison }
  | deleteRecord requestId => { body := [forget .executionRecords RequestExecutionRecord.requestId requestId] }
  | deleteRequest requestId => { body := forgetRequest requestId }
  | persistExecutionRecord call => keepRecord texts call
  | persistReplayResult result startedAt completedAt comparison => keepReplayResult result startedAt
      completedAt comparison
  | commit => { body := [], commits := true }

inductive RepositoryEvent
  | perform (op : RepositoryOp) (fault : Option ℕ)
  | reopen

namespace RepositoryEvent

/-- on the tables -/
def rows : RepositoryEvent → Event schema
  | perform op fault => .perform (op.operation texts.toTexts) fault
  | reopen => .reopen

def values : RepositoryEvent → Event valueSchema
  | perform op fault => .perform (op.values texts) fault
  | reopen => .reopen

end RepositoryEvent

/-- the connection after a history, from an empty database -/
def repositoryAfter (history : List RepositoryEvent) : Connection schema :=
  run Connection.next (.opened .empty) (history.map (RepositoryEvent.rows texts))

/-- what is kept after it -/
def keptAfter (history : List RepositoryEvent) : Connection valueSchema :=
  run Connection.next (.opened .empty) (history.map (RepositoryEvent.values texts))

/-! ## The encoding -/

def rowOf : (t : TableName) → t.Value → t.Row
  | .requests => requestRow texts.toTexts
  | .lifecycleTransitions => transitionRow texts.toTexts
  | .schedulerDecisions => schedulerDecisionRow texts.toTexts
  | .batchDecisions => batchDecisionRow texts.toTexts
  | .executionRecords => executionRecordRow texts.toTexts
  | .failures => failureRow texts.toTexts
  | .traceSummaries => traceSummaryRow texts.toTexts
  | .replayExecutions => replayRow texts.toTexts
  | .replayComparisons => comparisonRow texts.toTexts

variable {texts}

theorem uuidText_iff {u u' : UUID} : texts.uuidText u = texts.uuidText u' ↔ u = u' := uuidText_injective.eq_iff

theorem numbered_iff {u u' : UUID} {n n' : ℕ} :
    (texts.uuidText u, n) = (texts.uuidText u', n') ↔ (u, n) = (u', n') := by
  rw [Prod.mk.injEq, Prod.mk.injEq, uuidText_iff]

variable (texts)

/-- distinct ids have distinct texts -/
def rowEncoding : Encoding valueSchema schema where
  name t := t
  encode := rowOf texts
  name_injective _ _ h := h
  key_iff t v v' := by
    cases t with
    | lifecycleTransitions | schedulerDecisions | batchDecisions => exact numbered_iff
    | requests | executionRecords | failures | traceSummaries | replayExecutions | replayComparisons =>
      exact uuidText_iff
  bindable t v := by cases t <;> rfl

variable {texts}

/-! ### Operations correspond -/

abbrev Corresponds (texts : ColumnTexts) : List (Command valueSchema) → List (Command schema) → Prop :=
  (rowEncoding texts).CommandsEncode

theorem Corresponds.append {a b : List (Command valueSchema)} {a' b' : List (Command schema)}
    (h : Corresponds texts a a')
    (h' : Corresponds texts b b') : Corresponds texts (a ++ b) (a' ++ b') := List.rel_append h h'

theorem keep_corresponds (t : TableName) (v : t.Value) :
    Corresponds texts (keep t v) [executeReplace t (rowOf texts t v), .effect] :=
  .cons (.execute (.replace (E := rowEncoding texts) t v)) (.cons .effect .nil)

theorem forget_corresponds {t : TableName} {requestOf : t.Value → UUID} {column : t.Row → String}
    (h : ∀ v, column (rowOf texts t v) = texts.uuidText (requestOf v)) (requestId : UUID) :
    (rowEncoding texts).CommandEncodes (forget t requestOf requestId)
      (executeDelete t column (texts.uuidText requestId)) := by
  refine .execute (.delete (E := rowEncoding texts) (t := t) fun v => ?_)
  rw [decide_eq_decide, show column ((rowEncoding texts).encode t v) = _ from h v]
  exact uuidText_iff

theorem inserts_correspond (t : TableName) (values : List t.Value) :
    Corresponds texts (values.map fun v => .execute (.insert (S := valueSchema) t v))
      (values.map fun v => executeInsert t (rowOf texts t v)) := by
  induction values with
  | nil => exact .nil
  | cons v rest ih => exact .cons (.execute (.insert (E := rowEncoding texts) t v)) ih

theorem keepAll_corresponds {t : TableName} {requestOf : t.Value → UUID} {column : t.Row → String}
    (h : ∀ v, column (rowOf texts t v) = texts.uuidText (requestOf v)) (requestId : UUID) (values : List t.Value) :
    Corresponds texts (keepAll t requestOf requestId values)
      (executeDelete t column (texts.uuidText requestId) ::
        values.map (fun v => executeInsert t (rowOf texts t v)) ++ [.effect]) :=
  .append (.cons (forget_corresponds h requestId) (inserts_correspond t values)) (.cons .effect .nil)

theorem keepTransitions_corresponds (requestId : UUID) (transitions : List LifecycleTransition) :
    Corresponds texts (keepTransitions requestId transitions) (saveTransitions texts.toTexts requestId transitions) :=
  keepAll_corresponds (t := .lifecycleTransitions) (fun _ => rfl) requestId transitions

theorem keepSchedulerDecisions_corresponds (decisions : List SchedulerDecision) :
    Corresponds texts (keepSchedulerDecisions decisions) (saveSchedulerDecisions texts.toTexts decisions) := by
  cases decisions with
  | nil => exact .nil
  | cons first rest =>
    exact keepAll_corresponds (t := .schedulerDecisions) (fun _ => rfl) first.requestId (first :: rest)

theorem keepBatchDecisions_corresponds (decisions : List BatchDecision) :
    Corresponds texts (keepBatchDecisions decisions) (saveBatchDecisions texts.toTexts decisions) := by
  cases decisions with
  | nil => exact .nil
  | cons first rest => exact keepAll_corresponds (t := .batchDecisions) (fun _ => rfl) first.requestId (first :: rest)

theorem keepFailures_corresponds (failures : List PersistedFailureRecord) :
    Corresponds texts (keepFailures failures) (saveFailures texts.toTexts failures) := by
  induction failures with
  | nil => exact .nil
  | cons failure rest ih => exact .append (keep_corresponds .failures failure) ih

theorem forgetRequest_corresponds (requestId : UUID) :
    Corresponds texts (forgetRequest requestId) (deleteRequest texts.toTexts requestId) := by
  refine .cons ?_ (.cons ?_ (.cons ?_ (.cons ?_ (.cons ?_ (.cons ?_ (.cons ?_ .nil))))))
  · exact forget_corresponds (t := .lifecycleTransitions) (fun _ => rfl) requestId
  · exact forget_corresponds (t := .schedulerDecisions) (fun _ => rfl) requestId
  · exact forget_corresponds (t := .batchDecisions) (fun _ => rfl) requestId
  · exact forget_corresponds (t := .failures) (fun _ => rfl) requestId
  · exact forget_corresponds (t := .traceSummaries) (fun _ => rfl) requestId
  · exact forget_corresponds (t := .executionRecords) (fun _ => rfl) requestId
  · exact forget_corresponds (t := .requests) (fun _ => rfl) requestId

theorem keepRecord_corresponds (call : PersistCall) :
    Corresponds texts (keepRecord texts call).body (persistExecutionRecord texts.toTexts call).body := by
  refine .append (.append (.append (.append (.append (.append ?_ ?_) ?_) ?_) ?_) ?_) ?_
  · exact keep_corresponds .requests _
  · exact keepTransitions_corresponds _ _
  · exact keepSchedulerDecisions_corresponds _
  · exact keepBatchDecisions_corresponds _
  · exact keepFailures_corresponds _
  · exact keep_corresponds .executionRecords _
  · cases call.summary with
    | none => exact .nil
    | some summary => exact keep_corresponds .traceSummaries summary

theorem keepReplayResult_corresponds (result : ReplayResult) (startedAt completedAt : Time)
    (comparison : Option (ExecutionComparison × UUID)) :
    Corresponds texts (keepReplayResult result startedAt completedAt comparison).body
      (persistReplayResult texts.toTexts result startedAt completedAt comparison).body := by
  refine .append (keep_corresponds .replayExecutions _) ?_
  cases comparison with
  | none => exact .nil
  | some c => exact keep_corresponds .replayComparisons _

theorem values_corresponds (op : RepositoryOp) :
    (rowEncoding texts).OperationEncodes (op.values texts) (op.operation texts.toTexts) := by
  cases op with
  | saveRequest metadata => exact ⟨keep_corresponds .requests metadata, rfl, rfl⟩
  | saveTransitions requestId transitions => exact ⟨keepTransitions_corresponds requestId transitions, rfl, rfl⟩
  | saveSchedulerDecisions decisions => exact ⟨keepSchedulerDecisions_corresponds decisions, rfl, rfl⟩
  | saveBatchDecisions decisions => exact ⟨keepBatchDecisions_corresponds decisions, rfl, rfl⟩
  | saveFailures failures => exact ⟨keepFailures_corresponds failures, rfl, rfl⟩
  | saveRecord record => exact ⟨keep_corresponds .executionRecords record, rfl, rfl⟩
  | saveSummary summary => exact ⟨keep_corresponds .traceSummaries summary, rfl, rfl⟩
  | saveReplay replay => exact ⟨keep_corresponds .replayExecutions replay, rfl, rfl⟩
  | saveComparison comparison => exact ⟨keep_corresponds .replayComparisons comparison, rfl, rfl⟩
  | deleteRecord requestId =>
    exact ⟨.cons (forget_corresponds (t := .executionRecords) (fun _ => rfl) requestId) .nil, rfl, rfl⟩
  | deleteRequest requestId => exact ⟨forgetRequest_corresponds requestId, rfl, rfl⟩
  | persistExecutionRecord call => exact ⟨keepRecord_corresponds call, rfl, rfl⟩
  | persistReplayResult result startedAt completedAt comparison =>
    exact ⟨keepReplayResult_corresponds result startedAt completedAt comparison, rfl, rfl⟩
  | commit => exact ⟨.nil, rfl, rfl⟩

theorem history_corresponds (history : List RepositoryEvent) :
    List.Forall₂ (rowEncoding texts).EventEncodes (history.map (RepositoryEvent.values texts))
      (history.map (RepositoryEvent.rows texts)) := by
  induction history with
  | nil => exact .nil
  | cons event rest ih =>
    refine .cons ?_ ih
    cases event with
    | perform op fault => exact .perform (values_corresponds op) fault
    | reopen => exact .reopen

/-- the tables hold the rows of what is kept -/
theorem repositoryAfter_encodes (texts : ColumnTexts) (history : List RepositoryEvent) :
    (rowEncoding texts).ConnectionEncodes (keptAfter texts history) (repositoryAfter texts history) :=
  Encoding.run_encodes (.opened Encoding.encodes_empty) (history_corresponds history)

/-! ## What is read -/

/-- the reads return what is kept -/
structure ReadsAs (texts : ColumnTexts) (db : Database schema) (kept : Database valueSchema) : Prop where
  getRequest : ∀ requestId, getRequest texts db requestId =
    .ok (((keptRequests kept).row? requestId).map (normaliseMetadata texts))
  listRequests : listRequests texts db =
    .ok ((sortOn (fun v => texts.isoformat v.capturedAt) (keptRequests kept).rows).map (normaliseMetadata texts))
  getTransitions : ∀ requestId, getTransitions texts db requestId =
    .ok (sortOn LifecycleTransition.sequenceNum ((keptTransitions kept).filter fun v => v.requestId = requestId))
  getSchedulerDecisions : ∀ requestId, getSchedulerDecisions texts db requestId =
    .ok ((sortOn SchedulerDecision.sequenceNum
      ((keptSchedulerDecisions kept).filter fun v => v.requestId = requestId)).map (normaliseSchedulerDecision texts))
  getBatchDecisions : ∀ requestId, getBatchDecisions texts db requestId =
    .ok ((sortOn BatchDecision.sequenceNum
      ((keptBatchDecisions kept).filter fun v => v.requestId = requestId)).map (normaliseBatchDecision texts))
  getRecord : ∀ requestId,
    match (keptRecords kept).row? requestId with
    | none => getRecord texts.toTexts db requestId = .ok none
    | some record =>
      (Plain record → getRecord texts.toTexts db requestId = .ok (some (normaliseRecord texts.toTexts record))) ∧
        (¬Plain record → ∃ message, getRecord texts.toTexts db requestId = .error message)
  listRequestIds : listRequestIds texts.toTexts db =
    .ok ((sortOn (fun v => texts.isoformat v.capturedAt) (keptRecords kept).rows).map RequestExecutionRecord.requestId)
  queryFailures : ∀ limit : ℤ, -2 ^ 63 ≤ limit ∧ limit < 2 ^ 63 → queryFailures texts db limit =
    .ok (limited limit (sortOn (fun v => OrderDual.toDual (texts.isoformat v.failureTimestamp)) (keptFailures kept)))
  queryFailuresByRequest : ∀ requestId, queryFailuresByRequest texts db requestId =
    .ok (sortOn (fun v => texts.isoformat v.failureTimestamp)
      ((keptFailures kept).filter fun v => v.requestId = requestId))
  queryFailuresByComponent : ∀ component, queryFailuresByComponent texts db component =
    .ok (sortOn (fun v => OrderDual.toDual (texts.isoformat v.failureTimestamp))
      ((keptFailures kept).filter fun v => v.failureOwner = component))
  getReplay : ∀ replayId, getReplay texts db replayId = .ok ((keptReplays kept).row? replayId)
  listReplays : ∀ source : Option UUID, listReplays texts db source =
    .ok (sortOn (fun v => texts.isoformat v.completedAt)
      ((keptReplays kept).rows.filter fun v => source = none ∨ v.sourceRequestId = source))
  getComparison : ∀ comparisonId, getComparison texts db comparisonId =
    .ok (((keptComparisons kept).row? comparisonId).map (normaliseComparison texts))
  getSummary : ∀ requestId, getSummary texts db requestId =
    .ok (((keptSummaries kept).row? requestId).map (normaliseSummary texts))

section

variable {db : Database schema} {kept : Database valueSchema}

abbrev Encoded (texts : ColumnTexts) (kept : Database valueSchema) (db : Database schema) : Prop :=
  (rowEncoding texts).Encodes kept db

/-- the rows of a condition are decoded to the values that meet it -/
theorem Encoded.decode {κ β : Type} [LinearOrder κ] (h : Encoded texts kept db) {t : TableName} {p : t.Value → Bool}
    {q : t.Row → Bool} {f : t.Row → Except String β} {g : t.Value → β} (hpq : ∀ v, q (rowOf texts t v) = p v)
    (order : t.Row → κ) (hf : ∀ v, f (rowOf texts t v) = .ok (g v)) :
    (sortOn order ((db t).rows.filter q)).mapM f =
      .ok ((sortOn (fun v => order (rowOf texts t v)) ((kept t).rows.filter p)).map g) :=
  Encoding.Encodes.decode h (t := t) hpq order hf

theorem request_iff {u u' : UUID} : decide (texts.uuidText u = texts.uuidText u') = decide (u = u') :=
  decide_eq_decide.2 uuidText_iff

theorem getTransitions_kept (h : Encoded texts kept db) (requestId : UUID) : getTransitions texts db requestId =
    .ok (sortOn LifecycleTransition.sequenceNum ((keptTransitions kept).filter fun v => v.requestId = requestId)) := by
  have hdecode := h.decode (t := .lifecycleTransitions) (p := fun v : LifecycleTransition => v.requestId = requestId)
    (q := fun row : TransitionRow => row.requestId = texts.uuidText requestId)
    (f := fun row : TransitionRow => lifecycleTransitionFromDict texts row.toDict) (fun _ => request_iff)
    TransitionRow.sequenceNum transition_read
  exact hdecode.trans (congrArg Except.ok (List.map_id' _))

theorem getSchedulerDecisions_kept (h : Encoded texts kept db) (requestId : UUID) :
    getSchedulerDecisions texts db requestId =
    .ok ((sortOn SchedulerDecision.sequenceNum
      ((keptSchedulerDecisions kept).filter fun v => v.requestId = requestId)).map
        (normaliseSchedulerDecision texts)) :=
  h.decode (t := .schedulerDecisions) (p := fun v : SchedulerDecision => v.requestId = requestId)
    (q := fun row : SchedulerDecisionRow => row.requestId = texts.uuidText requestId)
    (f := fun row : SchedulerDecisionRow => schedulerDecisionFromDict texts (row.toDict texts)) (fun _ => request_iff)
    SchedulerDecisionRow.sequenceNum schedulerDecision_read

theorem getBatchDecisions_kept (h : Encoded texts kept db) (requestId : UUID) : getBatchDecisions texts db requestId =
    .ok ((sortOn BatchDecision.sequenceNum
      ((keptBatchDecisions kept).filter fun v => v.requestId = requestId)).map (normaliseBatchDecision texts)) :=
  h.decode (t := .batchDecisions) (p := fun v : BatchDecision => v.requestId = requestId)
    (q := fun row : BatchDecisionRow => row.requestId = texts.uuidText requestId)
    (f := fun row : BatchDecisionRow => batchDecisionFromDict texts row.toDict) (fun _ => request_iff)
    BatchDecisionRow.sequenceNum batchDecision_read

/-- the failures of a condition, in the order of their times or against it -/
theorem failures_kept {κ : Type} [LinearOrder κ] (h : Encoded texts kept db) {p : PersistedFailureRecord → Bool}
    {q : FailureRow → Bool} (hpq : ∀ v, q (failureRow texts.toTexts v) = p v) (order : FailureRow → κ) :
    (sortOn order ((failureTable db).rows.filter q)).mapM (fun row => persistedFailureFromDict texts row.toDict) =
      .ok (sortOn (fun v => order (failureRow texts.toTexts v)) ((keptFailures kept).filter p)) := by
  have hdecode := h.decode (t := .failures) (p := p) (q := q)
    (f := fun row : FailureRow => persistedFailureFromDict texts row.toDict) hpq order failure_read
  exact hdecode.trans (congrArg Except.ok (List.map_id' _))

theorem componentValue_iff {component component' : RuntimeComponent} :
    component.value = component'.value ↔ component = component' := by
  cases component <;> cases component' <;> decide

theorem limited_map {α β : Type} (limit : ℤ) (f : α → β) (rows : List α) :
    limited limit (rows.map f) = (limited limit rows).map f := by
  unfold limited
  split_ifs
  · rfl
  · exact (List.map_take ..).symm

theorem queryFailures_kept (h : Encoded texts kept db) {limit : ℤ} (hlimit : -2 ^ 63 ≤ limit ∧ limit < 2 ^ 63) :
    queryFailures texts db limit =
      .ok (limited limit
        (sortOn (fun v => OrderDual.toDual (texts.isoformat v.failureTimestamp)) (keptFailures kept))) := by
  have hbindable : (PyValue.int limit).bindable = true := decide_eq_true hlimit
  have hrows : (failureTable db).rows = (keptFailures kept).map (failureRow texts.toTexts) := h TableName.failures
  unfold queryFailures
  rw [if_pos hbindable, hrows, Core.sortOn_map, limited_map, List.mapM_map]
  exact (mapM_ok fun v _ => failure_read v).trans (congrArg Except.ok (List.map_id' _))

theorem getRequest_kept (h : Encoded texts kept db) (requestId : UUID) : getRequest texts db requestId =
    .ok (((keptRequests kept).row? requestId).map (normaliseMetadata texts)) := by
  have hrow : (requestTable db).row? (texts.uuidText requestId) =
      ((keptRequests kept).row? requestId).map (requestRow texts.toTexts) :=
    Encoding.Encodes.row? h (t := TableName.requests) fun _ => uuidText_iff
  unfold getRequest
  rw [hrow]
  cases (keptRequests kept).row? requestId with
  | none => rfl
  | some metadata =>
    simp [requestRow, payloadSnapshot_decode, terminalOutcome_decode, ok_bind]
    rfl

/-- each id that is selected has a request -/
theorem listRequests_kept (h : Encoded texts kept db) : listRequests texts db =
    .ok ((sortOn (fun v => texts.isoformat v.capturedAt) (keptRequests kept).rows).map (normaliseMetadata texts)) := by
  have hrows : (requestTable db).rows = (keptRequests kept).rows.map (requestRow texts.toTexts) := h TableName.requests
  unfold listRequests
  rw [hrows, Core.sortOn_map, List.mapM_map]
  refine mapM_found fun metadata hmem => ?_
  have hkept : (keptRequests kept).row? metadata.requestId = some metadata :=
    Table.row?_eq_some.2 ⟨(Core.sortOn_perm _ _).mem_iff.1 hmem, rfl⟩
  have hid : (PyValue.str (requestRow texts.toTexts metadata).requestId).asUuid texts.toTexts =
      .ok metadata.requestId :=
    PyValue.asUuid_uuidText metadata.requestId
  rw [Function.comp_apply, hid, ok_bind, getRequest_kept h, hkept, Option.map_some]

theorem getReplay_kept (h : Encoded texts kept db) (replayId : UUID) :
    getReplay texts db replayId = .ok ((keptReplays kept).row? replayId) := by
  have hrow : (replayTable db).row? (texts.uuidText replayId) =
      ((keptReplays kept).row? replayId).map (replayRow texts.toTexts) :=
    Encoding.Encodes.row? h (t := TableName.replayExecutions) fun _ => uuidText_iff
  unfold getReplay
  rw [hrow]
  cases (keptReplays kept).row? replayId with
  | none => rfl
  | some replay =>
    rw [Option.map_some]
    dsimp only
    rw [replay_read]
    rfl

theorem source_iff {source source' : Option UUID} :
    source.map texts.uuidText = source'.map texts.uuidText ↔ source = source' :=
  (Option.map_injective uuidText_injective).eq_iff

theorem replaysOf_kept (h : Encoded texts kept db) (source : Option UUID) : replaysOf texts db source =
    ((keptReplays kept).rows.filter fun v => source = none ∨ v.sourceRequestId = source).map
      (replayRow texts.toTexts) := by
  have hrows : (replayTable db).rows = (keptReplays kept).rows.map (replayRow texts.toTexts) :=
    h TableName.replayExecutions
  cases source with
  | none => simp [replaysOf, hrows]
  | some source =>
    rw [replaysOf, hrows, List.filter_map]
    refine congrArg (List.map (replayRow texts.toTexts)) (List.filter_congr fun v _ => ?_)
    have hiff := @source_iff texts v.sourceRequestId (some source)
    rw [Option.map_some] at hiff
    simp [replayRow, hiff]

theorem listReplays_kept (h : Encoded texts kept db) (source : Option UUID) : listReplays texts db source =
    .ok (sortOn (fun v => texts.isoformat v.completedAt)
      ((keptReplays kept).rows.filter fun v => source = none ∨ v.sourceRequestId = source)) := by
  unfold listReplays
  rw [replaysOf_kept h, Core.sortOn_map, List.mapM_map]
  refine (mapM_found fun replay hmem => ?_).trans (congrArg Except.ok (List.map_id' _))
  have hkept : (keptReplays kept).row? replay.replayId = some replay :=
    Table.row?_eq_some.2 ⟨(List.mem_filter.1 ((Core.sortOn_perm _ _).mem_iff.1 hmem)).1, rfl⟩
  have hid : (PyValue.str (replayRow texts.toTexts replay).replayId).asUuid texts.toTexts = .ok replay.replayId :=
    PyValue.asUuid_uuidText replay.replayId
  rw [Function.comp_apply, hid, ok_bind, getReplay_kept h, hkept]

theorem getComparison_kept (h : Encoded texts kept db) (comparisonId : UUID) : getComparison texts db comparisonId =
    .ok (((keptComparisons kept).row? comparisonId).map (normaliseComparison texts)) := by
  have hrow : (comparisonTable db).row? (texts.uuidText comparisonId) =
      ((keptComparisons kept).row? comparisonId).map (comparisonRow texts.toTexts) :=
    Encoding.Encodes.row? h (t := TableName.replayComparisons) fun _ => uuidText_iff
  unfold getComparison
  rw [hrow]
  cases (keptComparisons kept).row? comparisonId with
  | none => rfl
  | some comparison =>
    rw [Option.map_some]
    dsimp only
    rw [comparison_read]
    rfl

theorem getSummary_kept (h : Encoded texts kept db) (requestId : UUID) : getSummary texts db requestId =
    .ok (((keptSummaries kept).row? requestId).map (normaliseSummary texts)) := by
  have hrow : (summaryTable db).row? (texts.uuidText requestId) =
      ((keptSummaries kept).row? requestId).map (traceSummaryRow texts.toTexts) :=
    Encoding.Encodes.row? h (t := TableName.traceSummaries) fun _ => uuidText_iff
  unfold getSummary
  rw [hrow]
  cases (keptSummaries kept).row? requestId with
  | none => rfl
  | some summary =>
    rw [Option.map_some]
    dsimp only
    rw [summary_read]
    rfl

theorem recordRow_kept (h : Encoded texts kept db) (requestId : UUID) :
    (recordTable db).row? (texts.uuidText requestId) =
    ((keptRecords kept).row? requestId).map (executionRecordRow texts.toTexts) :=
  Encoding.Encodes.row? h (t := TableName.executionRecords) fun _ => uuidText_iff

theorem stored_of_kept (h : Encoded texts kept db) {requestId : UUID} {record : RequestExecutionRecord}
    (hkept : (keptRecords kept).row? requestId = some record) :
    Stored texts.toTexts db record ∧ record.requestId = requestId := by
  obtain rfl := (Table.row?_eq_some.1 hkept).2
  refine ⟨?_, rfl⟩
  rw [Stored, recordRow_kept h, hkept, Option.map_some]

theorem listRequestIds_kept (h : Encoded texts kept db) : listRequestIds texts.toTexts db =
    .ok ((sortOn (fun v => texts.isoformat v.capturedAt) (keptRecords kept).rows).map
      RequestExecutionRecord.requestId) := by
  have hrows : (recordTable db).rows = (keptRecords kept).rows.map (executionRecordRow texts.toTexts) :=
    h TableName.executionRecords
  unfold listRequestIds
  rw [hrows, Core.sortOn_map, List.mapM_map]
  exact mapM_ok fun record _ => PyValue.asUuid_uuidText record.requestId

theorem readsAs (h : Encoded texts kept db) : ReadsAs texts db kept where
  getRequest := getRequest_kept h
  listRequests := listRequests_kept h
  getTransitions := getTransitions_kept h
  getSchedulerDecisions := getSchedulerDecisions_kept h
  getBatchDecisions := getBatchDecisions_kept h
  getRecord requestId := by
    cases hkept : (keptRecords kept).row? requestId with
    | none =>
      dsimp only
      rw [getRecord, recordRow_kept h, hkept, Option.map_none]
    | some record =>
      obtain ⟨hstored, rfl⟩ := stored_of_kept h hkept
      exact ⟨getRecord_plain hstored, getRecord_dressed hstored⟩
  listRequestIds := listRequestIds_kept h
  queryFailures _ hlimit := queryFailures_kept h hlimit
  queryFailuresByRequest requestId := failures_kept h (p := fun v => v.requestId = requestId)
    (q := fun row => row.requestId = texts.uuidText requestId) (fun _ => request_iff) FailureRow.failureTimestamp
  queryFailuresByComponent component := failures_kept h (p := fun v => v.failureOwner = component)
    (q := fun row => row.failureOwner = component.value) (fun _ => decide_eq_decide.2 componentValue_iff)
    fun row => OrderDual.toDual row.failureTimestamp
  getReplay := getReplay_kept h
  listReplays := listReplays_kept h
  getComparison := getComparison_kept h
  getSummary := getSummary_kept h

end

/-- after any history, the reads return what is kept, and after a restart what is kept of what was committed -/
theorem repository_refines (texts : ColumnTexts) (history : List RepositoryEvent) :
    ReadsAs texts (repositoryAfter texts history).working (keptAfter texts history).working ∧
      ReadsAs texts (repositoryAfter texts history).reopened.working (keptAfter texts history).reopened.working := by
  have h := repositoryAfter_encodes texts history
  exact ⟨readsAs h.working, readsAs h.committed⟩

end InferencePlatform.Persistence
