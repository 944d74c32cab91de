/-
What the repository answers about one request while it works on others.

An operation concerns a request if it saves something of it or deletes it. The failures have ids of their own, so an
operation also disturbs a request if it saves a failure under the id of one that is kept of the request.

- `request_undisturbed`: from a commit on, the reads of a request stay the same through any history of operations that
  do not disturb it, with faults, rollbacks, saves that are lost and restarts.
-/
import InferencePlatform.Persistence.Refinement

namespace InferencePlatform.Persistence

open InferencePlatform.Core (run)
open InferencePlatform.Core.Sql
open Observability Replay

/-! ## Operations and requests -/

namespace RepositoryOp

/-- it saves something of the request, or deletes it -/
def Concerns (requestId : UUID) : RepositoryOp → Prop
  | saveRequest metadata => metadata.requestId = requestId
  | saveTransitions id transitions => id = requestId ∨ ∃ v ∈ transitions, v.requestId = requestId
  | saveSchedulerDecisions decisions => ∃ v ∈ decisions, v.requestId = requestId
  | saveBatchDecisions decisions => ∃ v ∈ decisions, v.requestId = requestId
  | saveFailures failures => ∃ v ∈ failures, v.requestId = requestId
  | saveRecord record => record.requestId = requestId
  | saveSummary summary => summary.requestId = requestId
  | deleteRecord id => id = requestId
  | deleteRequest id => id = requestId
  | persistExecutionRecord call =>
    call.record.requestId = requestId ∨ (∃ v ∈ call.record.failures, v.requestId = requestId) ∨
      ∃ timeline ∈ call.timeline, timeline.1.requestId = requestId
  | saveReplay _ | saveComparison _ | persistReplayResult .. | commit => False

/-- the failures it saves -/
def savedFailures : RepositoryOp → List PersistedFailureRecord
  | saveFailures failures => failures
  | persistExecutionRecord call => call.failures
  | _ => []

/-- it concerns the request, or replaces a failure that is kept of it -/
def Disturbs (kept : Database valueSchema) (requestId : UUID) (op : RepositoryOp) : Prop :=
  op.Concerns requestId ∨ ∃ v ∈ op.savedFailures, ∃ w ∈ keptFailures kept, w.requestId = requestId ∧
    v.failureId = w.failureId

end RepositoryOp

/-- a replay is of no request -/
def TableName.requestOf : (t : TableName) → t.Value → Option UUID
  | requests => fun v : RequestMetadata => some v.requestId
  | lifecycleTransitions => fun v : LifecycleTransition => some v.requestId
  | schedulerDecisions => fun v : SchedulerDecision => some v.requestId
  | batchDecisions => fun v : BatchDecision => some v.requestId
  | executionRecords => fun v : RequestExecutionRecord => some v.requestId
  | failures => fun v : PersistedFailureRecord => some v.requestId
  | traceSummaries => fun v : TraceSummary => some v.requestId
  | replayExecutions => fun _ => none
  | replayComparisons => fun _ => none

def isOf (requestId : UUID) (t : TableName) (v : t.Value) : Bool := t.requestOf v = some requestId

/-- what is kept of a request in one table -/
def keptOf (kept : Database valueSchema) (requestId : UUID) (t : TableName) : List t.Value :=
  (kept t).rows.filter (isOf requestId t)

variable {kept : Database valueSchema} {requestId : UUID}

/-! ## Commands that leave a request alone -/

def CommandSpares (kept : Database valueSchema) (requestId : UUID) (command : Command valueSchema) : Prop :=
  ∀ s, command = .execute s → ∀ t : TableName, Spares (S := valueSchema) (isOf requestId t) (keptOf kept requestId t) s

def CommandsSpare (kept : Database valueSchema) (requestId : UUID) (commands : List (Command valueSchema)) : Prop :=
  ∀ command ∈ commands, CommandSpares kept requestId command

theorem CommandsSpare.append {a b : List (Command valueSchema)} (ha : CommandsSpare kept requestId a)
    (hb : CommandsSpare kept requestId b) : CommandsSpare kept requestId (a ++ b) := List.forall_mem_append.2 ⟨ha, hb⟩

theorem commandsSpare_nil : CommandsSpare kept requestId [] := List.forall_mem_nil _

theorem effect_spares : CommandSpares kept requestId .effect := by
  intro s hs
  cases hs

theorem isOf_false {t : TableName} {v : t.Value} (hv : t.requestOf v ≠ some requestId) : isOf requestId t v = false :=
  decide_eq_false hv

theorem requestOf_of_mem {t : TableName} {v : t.Value} (hv : v ∈ keptOf kept requestId t) :
    t.requestOf v = some requestId :=
  of_decide_eq_true (List.mem_filter.1 hv).2

theorem insert_spares {t : TableName} {v : t.Value} (hv : t.requestOf v ≠ some requestId) :
    CommandSpares kept requestId (.execute (.insert (S := valueSchema) t v)) := by
  rintro s hs t'
  obtain rfl := Command.execute.inj hs
  by_cases ht : t = t'
  · subst ht
    exact .insert (S := valueSchema) (isOf_false hv)
  · exact .other ht

theorem forget_spares {t : TableName} {requestOf : t.Value → UUID} (hof : ∀ v, t.requestOf v = some (requestOf v))
    {other : UUID} (hother : other ≠ requestId) : CommandSpares kept requestId (forget t requestOf other) := by
  rintro s hs t'
  obtain rfl := Command.execute.inj hs
  by_cases ht : t = t'
  · subst ht
    refine .delete (S := valueSchema) fun x hx => decide_eq_false fun hxother => hother ?_
    exact hxother.symm.trans (Option.some.inj ((hof x).symm.trans (requestOf_of_mem hx)))
  · exact .other ht

/-- a value of another request, under a key that the request does not have -/
theorem keep_spares {t : TableName} {v : t.Value} (hv : t.requestOf v ≠ some requestId)
    (hkeys : ∀ x ∈ keptOf kept requestId t, t.valueKey x ≠ t.valueKey v) : CommandsSpare kept requestId (keep t v) := by
  refine List.forall_mem_cons.2 ⟨?_, List.forall_mem_singleton.2 effect_spares⟩
  rintro s hs t'
  obtain rfl := Command.execute.inj hs
  by_cases ht : t = t'
  · subst ht
    exact .replace (S := valueSchema) (isOf_false hv) hkeys
  · exact .other ht

theorem keepAll_spares {t : TableName} {requestOf : t.Value → UUID} (hof : ∀ v, t.requestOf v = some (requestOf v))
    {other : UUID} (hother : other ≠ requestId) {values : List t.Value}
    (hvalues : ∀ v ∈ values, requestOf v ≠ requestId) :
    CommandsSpare kept requestId (keepAll t requestOf other values) := by
  refine .append (List.forall_mem_cons.2 ⟨forget_spares hof hother, ?_⟩) (List.forall_mem_singleton.2 effect_spares)
  refine List.forall_mem_map.2 fun v hv => insert_spares fun hrequest => hvalues v hv ?_
  exact Option.some.inj ((hof v).symm.trans hrequest)

/-- in a table with one value for each request -/
theorem keepOne_spares {t : TableName} {requestOf : t.Value → UUID} (hof : ∀ v, t.requestOf v = some (requestOf v))
    (hkey : ∀ x y, t.valueKey x = t.valueKey y → requestOf x = requestOf y) {v : t.Value}
    (hv : requestOf v ≠ requestId) :
    CommandsSpare kept requestId (keep t v) := by
  refine keep_spares (fun hrequest => hv ?_) fun x hx hsame => hv ?_
  · exact Option.some.inj ((hof v).symm.trans hrequest)
  · exact (hkey x v hsame).symm.trans (Option.some.inj ((hof x).symm.trans (requestOf_of_mem hx)))

/-- a replay, or a comparison -/
theorem keepReplay_spares {t : TableName} (ht : ∀ v, t.requestOf v = none) (v : t.Value) :
    CommandsSpare kept requestId (keep t v) := by
  refine keep_spares (fun hrequest => ?_) fun x hx => ?_
  · cases (ht v).symm.trans hrequest
  · cases (ht x).symm.trans (requestOf_of_mem hx)

theorem keepSchedulerDecisions_spares {decisions : List SchedulerDecision}
    (h : ∀ v ∈ decisions, v.requestId ≠ requestId) :
    CommandsSpare kept requestId (keepSchedulerDecisions decisions) := by
  cases decisions with
  | nil => exact commandsSpare_nil
  | cons first rest =>
    exact keepAll_spares (t := .schedulerDecisions) (fun _ => rfl) (h first List.mem_cons_self) h

theorem keepBatchDecisions_spares {decisions : List BatchDecision} (h : ∀ v ∈ decisions, v.requestId ≠ requestId) :
    CommandsSpare kept requestId (keepBatchDecisions decisions) := by
  cases decisions with
  | nil => exact commandsSpare_nil
  | cons first rest => exact keepAll_spares (t := .batchDecisions) (fun _ => rfl) (h first List.mem_cons_self) h

theorem keepFailures_spares {failures : List PersistedFailureRecord} (h : ∀ v ∈ failures, v.requestId ≠ requestId)
    (hids : ∀ v ∈ failures, ∀ w ∈ keptFailures kept, w.requestId = requestId → v.failureId ≠ w.failureId) :
    CommandsSpare kept requestId (keepFailures failures) := by
  refine List.forall_mem_flatMap.2 fun v hv => ?_
  refine keep_spares (t := .failures) (fun hrequest => h v hv (Option.some.inj hrequest)) fun w hw hsame => ?_
  exact hids v hv w (List.mem_filter.1 hw).1 (Option.some.inj (requestOf_of_mem hw)) hsame.symm

theorem forgetRequest_spares {other : UUID} (hother : other ≠ requestId) :
    CommandsSpare kept requestId (forgetRequest other) := by
  unfold forgetRequest
  simp only [CommandsSpare, List.forall_mem_cons]
  refine ⟨?_, ?_, ?_, ?_, ?_, ?_, ?_, List.forall_mem_nil _⟩
  · exact forget_spares (t := .lifecycleTransitions) (fun _ => rfl) hother
  · exact forget_spares (t := .schedulerDecisions) (fun _ => rfl) hother
  · exact forget_spares (t := .batchDecisions) (fun _ => rfl) hother
  · exact forget_spares (t := .failures) (fun _ => rfl) hother
  · exact forget_spares (t := .traceSummaries) (fun _ => rfl) hother
  · exact forget_spares (t := .executionRecords) (fun _ => rfl) hother
  · exact forget_spares (t := .requests) (fun _ => rfl) hother

theorem summary_spares {summary : TraceSummary} (h : summary.requestId ≠ requestId) :
    CommandsSpare kept requestId (keep .traceSummaries summary) :=
  keepOne_spares (t := .traceSummaries) (fun _ => rfl) (fun _ _ h => h) h

variable (texts : ColumnTexts)

/-- what a persist writes is of the request of its record, but for the failures and the summary -/
theorem keepRecord_spares {call : PersistCall}
    (h : ¬(RepositoryOp.persistExecutionRecord call).Disturbs kept requestId) :
    CommandsSpare kept requestId (keepRecord texts call).body := by
  obtain ⟨hconcerns, hreplaces⟩ := not_or.1 h
  obtain ⟨hrecord, hrest⟩ := not_or.1 hconcerns
  obtain ⟨hfailures, htimeline⟩ := not_or.1 hrest
  refine .append (.append (.append (.append (.append (.append ?_ ?_) ?_) ?_) ?_) ?_) ?_
  · exact keepOne_spares (t := .requests) (fun _ => rfl) (fun _ _ h => h) hrecord
  · refine keepAll_spares (t := .lifecycleTransitions) (fun _ => rfl) hrecord fun v hv => ?_
    obtain ⟨index, hindex, rfl⟩ := List.mem_mapIdx.1 hv
    exact hrecord
  · refine keepSchedulerDecisions_spares fun v hv => ?_
    obtain ⟨index, hindex, rfl⟩ := List.mem_mapIdx.1 hv
    exact hrecord
  · refine keepBatchDecisions_spares fun v hv => ?_
    obtain ⟨index, hindex, rfl⟩ := List.mem_mapIdx.1 hv
    exact hrecord
  · refine keepFailures_spares (fun v hv hv' => ?_) fun v hv w hw hw' hsame => hreplaces ⟨v, hv, w, hw, hw', hsame⟩
    obtain ⟨index, hindex, rfl⟩ := List.mem_mapIdx.1 hv
    exact hfailures ⟨_, List.getElem_mem hindex, hv'⟩
  · exact keepOne_spares (t := .executionRecords) (fun _ => rfl) (fun _ _ h => h) hrecord
  · rw [PersistCall.summary]
    cases htime : call.timeline with
    | none => exact commandsSpare_nil
    | some timeline => exact summary_spares fun hsummary => htimeline ⟨timeline, htime, hsummary⟩

theorem values_spare {op : RepositoryOp} (h : ¬op.Disturbs kept requestId) :
    CommandsSpare kept requestId (op.values texts).body := by
  obtain ⟨hconcerns, hreplaces⟩ := not_or.1 h
  cases op with
  | saveRequest metadata => exact keepOne_spares (t := .requests) (fun _ => rfl) (fun _ _ h => h) hconcerns
  | saveTransitions id transitions =>
    obtain ⟨hid, htransitions⟩ := not_or.1 hconcerns
    exact keepAll_spares (t := .lifecycleTransitions) (fun _ => rfl) hid fun v hv hv' => htransitions ⟨v, hv, hv'⟩
  | saveSchedulerDecisions decisions => exact keepSchedulerDecisions_spares fun v hv hv' => hconcerns ⟨v, hv, hv'⟩
  | saveBatchDecisions decisions => exact keepBatchDecisions_spares fun v hv hv' => hconcerns ⟨v, hv, hv'⟩
  | saveFailures failures =>
    exact keepFailures_spares (fun v hv hv' => hconcerns ⟨v, hv, hv'⟩) fun v hv w hw hw' hsame =>
      hreplaces ⟨v, hv, w, hw, hw', hsame⟩
  | saveRecord record => exact keepOne_spares (t := .executionRecords) (fun _ => rfl) (fun _ _ h => h) hconcerns
  | saveSummary summary => exact summary_spares hconcerns
  | saveReplay replay => exact keepReplay_spares (t := .replayExecutions) (fun _ => rfl) replay
  | saveComparison comparison => exact keepReplay_spares (t := .replayComparisons) (fun _ => rfl) comparison
  | deleteRecord id =>
    exact List.forall_mem_singleton.2 (forget_spares (t := .executionRecords) (fun _ => rfl) hconcerns)
  | deleteRequest id => exact forgetRequest_spares hconcerns
  | persistExecutionRecord call => exact keepRecord_spares texts h
  | persistReplayResult result startedAt completedAt comparison =>
    refine .append (keepReplay_spares (t := .replayExecutions) (fun _ => rfl) _) ?_
    cases comparison with
    | none => exact commandsSpare_nil
    | some c => exact keepReplay_spares (t := .replayComparisons) (fun _ => rfl) _
  | commit => exact commandsSpare_nil

/-! ## Histories that leave a request alone -/

/-- the faults may be anywhere -/
def RepositoryEvent.Disturbs (kept : Database valueSchema) (requestId : UUID) : RepositoryEvent → Prop
  | perform op _ => op.Disturbs kept requestId
  | reopen => False

theorem event_spares {event : RepositoryEvent} (h : ¬event.Disturbs kept requestId) (t : TableName) :
    (event.values texts).Spares (S := valueSchema) (isOf requestId t) (keptOf kept requestId t) := by
  cases event with
  | perform op fault => exact fun s hs => values_spare texts h (.execute s) hs s rfl t
  | reopen => trivial

/-- what is kept of the request stays, if all of it is committed -/
theorem run_keptOf {c : Connection valueSchema} {later : List RepositoryEvent}
    (h : ∀ event ∈ later, ¬event.Disturbs c.committed requestId) (t : TableName) :
    keptOf (run Connection.next (.opened c.committed) (later.map (RepositoryEvent.values texts))).working requestId t =
      keptOf c.committed requestId t := by
  have hspares : ∀ event ∈ later.map (RepositoryEvent.values texts),
      event.Spares (S := valueSchema) (isOf requestId t) (keptOf c.committed requestId t) :=
    List.forall_mem_map.2 fun event hevent => event_spares texts (h event hevent) t
  exact (run_keeps (c := Connection.opened c.committed) ⟨rfl, rfl⟩ hspares).2

/-- the repository answers the same about the request -/
structure SameReads (requestId : UUID) (db db' : Database schema) : Prop where
  getRequest : getRequest texts db' requestId = getRequest texts db requestId
  getTransitions : getTransitions texts db' requestId = getTransitions texts db requestId
  getSchedulerDecisions : getSchedulerDecisions texts db' requestId = getSchedulerDecisions texts db requestId
  getBatchDecisions : getBatchDecisions texts db' requestId = getBatchDecisions texts db requestId
  getRecord : getRecord texts.toTexts db' requestId = getRecord texts.toTexts db requestId
  queryFailuresByRequest : queryFailuresByRequest texts db' requestId = queryFailuresByRequest texts db requestId
  getSummary : getSummary texts db' requestId = getSummary texts db requestId

variable {texts}

theorem row?_same {ρ κ : Type} {key : ρ → κ} [DecidableEq κ] {T T' : Table key} {p : ρ → Bool} {k : κ}
    (h : T'.rows.filter p = T.rows.filter p) (hp : ∀ row, key row = k → p row = true) : T'.row? k = T.row? k := by
  have hfound : ∀ U : Table key, U.row? k = (U.rows.filter p).find? fun row => key row = k := by
    intro U
    rw [Table.row?, List.find?_filter]
    refine List.find?_congr fun row _ => ?_
    by_cases hk : key row = k
    · simp [hk, hp row hk]
    · simp [hk]
  rw [hfound, hfound, h]

theorem filter_same {kept kept' : Database valueSchema} {t : TableName} (requestOf : t.Value → UUID)
    (hof : ∀ v, t.requestOf v = some (requestOf v)) (hsame : keptOf kept' requestId t = keptOf kept requestId t) :
    ((kept' t).rows.filter fun v => requestOf v = requestId) =
      (kept t).rows.filter fun v => requestOf v = requestId := by
  have hof' : isOf requestId t = fun v => decide (requestOf v = requestId) := by
    funext v
    exact decide_eq_decide.2 (by rw [hof, Option.some.injEq])
  rw [keptOf, keptOf, hof'] at hsame
  exact hsame

theorem sameReads {kept kept' : Database valueSchema} {db db' : Database schema} (h : Encoded texts kept db)
    (h' : Encoded texts kept' db') (hsame : ∀ t, keptOf kept' requestId t = keptOf kept requestId t) :
    SameReads texts requestId db db' where
  getRequest := by
    have hrow : (keptRequests kept').row? requestId = (keptRequests kept).row? requestId :=
      row?_same (hsame .requests) fun v hv => decide_eq_true (congrArg some hv)
    rw [getRequest_kept h', getRequest_kept h, hrow]
  getTransitions := by
    have hrows : ((keptTransitions kept').filter fun v => v.requestId = requestId) =
        (keptTransitions kept).filter fun v => v.requestId = requestId :=
      filter_same (t := .lifecycleTransitions) LifecycleTransition.requestId (fun _ => rfl) (hsame _)
    rw [getTransitions_kept h', getTransitions_kept h, hrows]
  getSchedulerDecisions := by
    have hrows : ((keptSchedulerDecisions kept').filter fun v => v.requestId = requestId) =
        (keptSchedulerDecisions kept).filter fun v => v.requestId = requestId :=
      filter_same (t := .schedulerDecisions) SchedulerDecision.requestId (fun _ => rfl) (hsame _)
    rw [getSchedulerDecisions_kept h', getSchedulerDecisions_kept h, hrows]
  getBatchDecisions := by
    have hrows : ((keptBatchDecisions kept').filter fun v => v.requestId = requestId) =
        (keptBatchDecisions kept).filter fun v => v.requestId = requestId :=
      filter_same (t := .batchDecisions) BatchDecision.requestId (fun _ => rfl) (hsame _)
    rw [getBatchDecisions_kept h', getBatchDecisions_kept h, hrows]
  getRecord := by
    have hrow : (keptRecords kept').row? requestId = (keptRecords kept).row? requestId :=
      row?_same (hsame .executionRecords) fun v hv => decide_eq_true (congrArg some hv)
    rw [getRecord, getRecord, recordRow_kept h', recordRow_kept h, hrow]
  queryFailuresByRequest := by
    have hrows : ((keptFailures kept').filter fun v => v.requestId = requestId) =
        (keptFailures kept).filter fun v => v.requestId = requestId :=
      filter_same (t := .failures) PersistedFailureRecord.requestId (fun _ => rfl) (hsame _)
    rw [(readsAs h').queryFailuresByRequest, (readsAs h).queryFailuresByRequest, hrows]
  getSummary := by
    have hrow : (keptSummaries kept').row? requestId = (keptSummaries kept).row? requestId :=
      row?_same (hsame .traceSummaries) fun v hv => decide_eq_true (congrArg some hv)
    rw [getSummary_kept h', getSummary_kept h, hrow]

variable (texts)

theorem keptAfter_append (history later : List RepositoryEvent) : keptAfter texts (history ++ later) =
    run Connection.next (keptAfter texts history) (later.map (RepositoryEvent.values texts)) := by
  rw [keptAfter, keptAfter, List.map_append, Core.run_append]

/-- an operation that commits in the tables commits what is kept -/
theorem keptAfter_commits {history : List RepositoryEvent} {op : RepositoryOp} {fault : Option ℕ}
    (hcommits : (repositoryAfter texts history).Commits (op.operation texts.toTexts, fault)) :
    keptAfter texts (history ++ [.perform op fault]) =
      .opened (keptAfter texts (history ++ [.perform op fault])).committed := by
  have hkept : (keptAfter texts history).Commits (op.values texts, fault) := by
    have hop : (rowEncoding texts).OperationEncodes (op.values texts) (op.operation texts.toTexts) :=
      values_corresponds op
    have hflag := (Encoding.perform_encodes (repositoryAfter_encodes texts history) hop fault).2
    exact ⟨hop.commits.symm.trans hcommits.1, hflag.symm.trans hcommits.2⟩
  have hstep : keptAfter texts (history ++ [.perform op fault]) =
      (keptAfter texts history).step (op.values texts, fault) := by
    rw [keptAfter_append]
    rfl
  rw [hstep, Connection.step_of_commits hkept]
  rfl

/-- from a commit on, only what disturbs a request changes the answers about it -/
theorem request_undisturbed (texts : ColumnTexts) (history : List RepositoryEvent) {later : List RepositoryEvent}
    {op : RepositoryOp} {fault : Option ℕ} {requestId : UUID}
    (hcommits : (repositoryAfter texts history).Commits (op.operation texts.toTexts, fault))
    (hlater : ∀ event ∈ later, ¬event.Disturbs (keptAfter texts (history ++ [.perform op fault])).committed requestId) :
    SameReads texts requestId (repositoryAfter texts (history ++ [.perform op fault])).working
      (repositoryAfter texts (history ++ [.perform op fault] ++ later)).working := by
  have hkept := keptAfter_commits texts hcommits
  refine sameReads (repositoryAfter_encodes texts _).working (repositoryAfter_encodes texts _).working fun t => ?_
  rw [keptAfter_append texts _ later, hkept, run_keptOf texts hlater t]
  rfl

/-! ## One request and another -/

def sampleColumnTexts : ColumnTexts := { sampleTexts with
  realText _ := ""
  adapted _ := ""
  isoformat_ne := numeral_ne (by decide) }

def persistSample (requestId : UUID) : RepositoryOp :=
  .persistExecutionRecord { record := { sampleRecord 0 with requestId }, firstFailureId := 0 }

/-- another request is deleted, saved, and lost when its persist raises -/
def otherRequest : List RepositoryEvent :=
  [.perform (.deleteRequest 2) none, .perform (.saveRecord { sampleRecord 0 with requestId := 2 }) none,
    .perform (persistSample 2) (some 3), .reopen]

theorem request_undisturbed_other :
    let persisted : List RepositoryEvent := [.perform (persistSample 1) none]
    SameReads sampleColumnTexts 1 (repositoryAfter sampleColumnTexts persisted).working
        (repositoryAfter sampleColumnTexts (persisted ++ otherRequest)).working ∧
      getRecord sampleTexts (repositoryAfter sampleColumnTexts persisted).working 1 = .ok (some (sampleRecord 0)) := by
  intro persisted
  have hlater : ∀ event ∈ otherRequest, ¬event.Disturbs (keptAfter sampleColumnTexts persisted).committed 1 := by
    simp [otherRequest, persistSample, RepositoryEvent.Disturbs, RepositoryOp.Disturbs, RepositoryOp.Concerns,
      RepositoryOp.savedFailures, PersistCall.failures, sampleRecord]
  exact ⟨request_undisturbed sampleColumnTexts [] ⟨rfl, rfl⟩ hlater, rfl⟩

end InferencePlatform.Persistence
