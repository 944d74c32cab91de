/-
Persisting as a projection: what a history of persisted records has left in six tables for one request.

The transitions of a request are deleted before the new ones are inserted, but its decisions only if there are new ones,
and its failures are inserted under new ids.

- `persisted_of_returns`: what a persist that returns does to each of the tables;
- `projection_iff`: the rows of a request are those of the last record persisted for it exactly when `Replaces` holds of
  the history: no decisions and no failures before it that it does not replace, and no failure in a record of another
  request;
- `persisted_twice`: what the same record again leaves behind.
-/
import InferencePlatform.Persistence.DurableStore

namespace InferencePlatform.Persistence

open InferencePlatform.Core (Meets run run_append run_cons run_nil meets_append)
open InferencePlatform.Core.Sql
open Observability Replay

/-! ## The rows of a request -/

section

variable {ρ : Type} (texts : Texts)

/-- the rows with the id of a request in a column -/
def ofRequest (column : ρ → String) (requestId : UUID) (rows : List ρ) : List ρ :=
  rows.filter fun row => column row = texts.uuidText requestId

/-- the rows of a request are deleted, and others inserted -/
def rewritten (column : ρ → String) (requestId : UUID) (rows new : List ρ) : List ρ :=
  (rows.filter fun row => column row ≠ texts.uuidText requestId) ++ new

variable {texts} {column : ρ → String}

theorem ofRequest_rewritten_self {requestId : UUID} {rows new : List ρ}
    (hnew : ∀ row ∈ new, column row = texts.uuidText requestId) :
    ofRequest texts column requestId (rewritten texts column requestId rows new) = new := by
  have hold : ofRequest texts column requestId (rows.filter fun row => column row ≠ texts.uuidText requestId) = [] := by
    rw [ofRequest, List.filter_filter, List.filter_eq_nil_iff]
    intro row _
    simp
  have hkept : ofRequest texts column requestId new = new := List.filter_eq_self.2 fun row hrow => by
    simpa using hnew row hrow
  calc ofRequest texts column requestId (rewritten texts column requestId rows new)
      = ofRequest texts column requestId (rows.filter fun row => column row ≠ texts.uuidText requestId) ++
          ofRequest texts column requestId new := List.filter_append ..
    _ = new := by rw [hold, hkept, List.nil_append]

theorem ofRequest_rewritten_ne {requestId requestId' : UUID} (hid : requestId' ≠ requestId) {rows new : List ρ}
    (hnew : ∀ row ∈ new, column row = texts.uuidText requestId) :
    ofRequest texts column requestId' (rewritten texts column requestId rows new) =
      ofRequest texts column requestId' rows := by
  have htext : texts.uuidText requestId ≠ texts.uuidText requestId' := fun h => hid (uuidText_injective h).symm
  have hdropped : ofRequest texts column requestId' new = [] := by
    rw [ofRequest, List.filter_eq_nil_iff]
    intro row hrow
    simpa [hnew row hrow] using htext
  have hold : ofRequest texts column requestId' (rows.filter fun row => column row ≠ texts.uuidText requestId) =
      ofRequest texts column requestId' rows := by
    rw [ofRequest, List.filter_filter]
    refine List.filter_congr fun row _ => ?_
    by_cases hrow : column row = texts.uuidText requestId'
    · simp [hrow, htext.symm]
    · simp [hrow]
  calc ofRequest texts column requestId' (rewritten texts column requestId rows new)
      = ofRequest texts column requestId' (rows.filter fun row => column row ≠ texts.uuidText requestId) ++
          ofRequest texts column requestId' new := List.filter_append ..
    _ = ofRequest texts column requestId' rows := by rw [hold, hdropped, List.append_nil]

end

/-- a failure's row without the generated id -/
def FailureRow.content (row : FailureRow) : FailureRow := { row with failureId := "" }

variable (texts : Texts)

/-- for the request of a record, each table has the rows that are derived from the record -/
structure Projected (db : Database schema) (last : PersistCall) : Prop where
  requests : (ofRequest texts RequestRow.requestId last.record.requestId (requestTable db).rows).Perm
    [requestRow texts (requestMetadataFromRecord texts last.record)]
  lifecycleTransitions : (ofRequest texts TransitionRow.requestId last.record.requestId (transitionTable db).rows).Perm
    (last.transitions.map (transitionRow texts))
  schedulerDecisions : (ofRequest texts SchedulerDecisionRow.requestId last.record.requestId
    (schedulerTable db).rows).Perm
    (last.schedulerDecisions.map (schedulerDecisionRow texts))
  batchDecisions : (ofRequest texts BatchDecisionRow.requestId last.record.requestId (batchTable db).rows).Perm
    (last.batchDecisions.map (batchDecisionRow texts))
  failures : ((ofRequest texts FailureRow.requestId last.record.requestId (failureTable db).rows).map
    FailureRow.content).Perm
    ((last.failures.map (failureRow texts)).map FailureRow.content)
  executionRecords : (ofRequest texts ExecutionRecordRow.requestId last.record.requestId (recordTable db).rows).Perm
    [executionRecordRow texts last.record]

/-! ## Histories -/

/-- a record is persisted; the fault says where something outside the database raises -/
def persistStep (c : Connection schema) (o : PersistCall × Option ℕ) : Connection schema :=
  c.step (persistExecutionRecord texts o.1, o.2)

/-- it returns -/
def Persists (c : Connection schema) (o : PersistCall × Option ℕ) : Prop :=
  c.Returns (persistExecutionRecord texts o.1, o.2)

/-- no failure id is generated twice -/
def FreshFailures (history : List (PersistCall × Option ℕ)) : Prop :=
  (history.flatMap fun o => o.1.failures.map PersistedFailureRecord.failureId).Nodup

/-- the last record of a request replaces all that the history has of it -/
structure Replaces (pre : List (PersistCall × Option ℕ)) (last : PersistCall) (post : List (PersistCall × Option ℕ)) :
    Prop where
  schedulerEvents : last.record.schedulerEvents = [] →
    ∀ o ∈ pre, o.1.record.requestId = last.record.requestId → o.1.record.schedulerEvents = []
  batchEvents : last.record.batchEvents = [] →
    ∀ o ∈ pre, o.1.record.requestId = last.record.requestId → o.1.record.batchEvents = []
  ownFailures : ∀ failure ∈ last.record.failures, failure.requestId = last.record.requestId
  noOtherFailures : ∀ o ∈ pre ++ post, ∀ failure ∈ o.1.record.failures, failure.requestId ≠ last.record.requestId

variable {texts}

/-! ## One persist -/

/-- what a persist that returns makes of the tables -/
structure Persisted (texts : Texts) (call : PersistCall) (db db' : Database schema) : Prop where
  requests : (requestTable db').rows = rewritten texts RequestRow.requestId call.record.requestId
    (requestTable db).rows [requestRow texts (requestMetadataFromRecord texts call.record)]
  lifecycleTransitions : (transitionTable db').rows = rewritten texts TransitionRow.requestId call.record.requestId
    (transitionTable db).rows (call.transitions.map (transitionRow texts))
  schedulerDecisions : (schedulerTable db').rows =
    if call.schedulerDecisions = [] then (schedulerTable db).rows
    else rewritten texts SchedulerDecisionRow.requestId call.record.requestId (schedulerTable db).rows
      (call.schedulerDecisions.map (schedulerDecisionRow texts))
  batchDecisions : (batchTable db').rows =
    if call.batchDecisions = [] then (batchTable db).rows
    else rewritten texts BatchDecisionRow.requestId call.record.requestId (batchTable db).rows
      (call.batchDecisions.map (batchDecisionRow texts))
  failures : failureTable db' = (call.failures.map (failureRow texts)).foldl Table.replace (failureTable db)
  executionRecords : (recordTable db').rows = rewritten texts ExecutionRecordRow.requestId call.record.requestId
    (recordTable db).rows [executionRecordRow texts call.record]

theorem mem_transitions {call : PersistCall} {transition : LifecycleTransition} (h : transition ∈ call.transitions) :
    transition.requestId = call.record.requestId := by
  obtain ⟨i, hi, rfl⟩ := List.mem_mapIdx.1 h
  rfl

theorem mem_schedulerDecisions {call : PersistCall} {decision : SchedulerDecision}
    (h : decision ∈ call.schedulerDecisions) :
    decision.requestId = call.record.requestId := by
  obtain ⟨i, hi, rfl⟩ := List.mem_mapIdx.1 h
  rfl

theorem mem_batchDecisions {call : PersistCall} {decision : BatchDecision} (h : decision ∈ call.batchDecisions) :
    decision.requestId = call.record.requestId := by
  obtain ⟨i, hi, rfl⟩ := List.mem_mapIdx.1 h
  rfl

variable {call : PersistCall} {db db' : Database schema}

theorem saveSchedulerDecisions_does (h : Does (saveSchedulerDecisions texts call.schedulerDecisions) db db') :
    (schedulerTable db').rows =
      if call.schedulerDecisions = [] then (schedulerTable db).rows
      else rewritten texts SchedulerDecisionRow.requestId call.record.requestId (schedulerTable db).rows
        (call.schedulerDecisions.map (schedulerDecisionRow texts)) := by
  cases hdecisions : call.schedulerDecisions with
  | nil =>
    rw [hdecisions] at h
    cases h
    rfl
  | cons first rest =>
    have hid : first.requestId = call.record.requestId := mem_schedulerDecisions (hdecisions ▸ List.mem_cons_self)
    rw [if_neg (List.cons_ne_nil first rest), ← hid]
    rw [hdecisions] at h
    exact does_rewrite (t := .schedulerDecisions) h

theorem saveBatchDecisions_does (h : Does (saveBatchDecisions texts call.batchDecisions) db db') :
    (batchTable db').rows =
      if call.batchDecisions = [] then (batchTable db).rows
      else rewritten texts BatchDecisionRow.requestId call.record.requestId (batchTable db).rows
        (call.batchDecisions.map (batchDecisionRow texts)) := by
  cases hdecisions : call.batchDecisions with
  | nil =>
    rw [hdecisions] at h
    cases h
    rfl
  | cons first rest =>
    have hid : first.requestId = call.record.requestId := mem_batchDecisions (hdecisions ▸ List.mem_cons_self)
    rw [if_neg (List.cons_ne_nil first rest), ← hid]
    rw [hdecisions] at h
    exact does_rewrite (t := .batchDecisions) h

/-- each part of the body is about one table, and leaves the others as the parts before it have left them -/
theorem persisted_of_does (h : Does (persistExecutionRecord texts call).body db db') : Persisted texts call db db' := by
  obtain ⟨db₆, h, hsummary⟩ := h.of_append
  obtain ⟨db₅, h, hrecord⟩ := h.of_append
  obtain ⟨db₄, h, hfailures⟩ := h.of_append
  obtain ⟨db₃, h, hbatch⟩ := h.of_append
  obtain ⟨db₂, h, hscheduler⟩ := h.of_append
  obtain ⟨db₁, hrequest, htransitions⟩ := h.of_append
  have hrequest' : ∀ t : TableName, TableName.requests ≠ t → db₁ t = db t := fun t ht =>
    hrequest.untouched ((saveRequest_confined _).untouched ht)
  have htransitions' : ∀ t : TableName, TableName.lifecycleTransitions ≠ t → db₂ t = db₁ t := fun t ht =>
    htransitions.untouched ((saveTransitions_confined _ _).untouched ht)
  have hscheduler' : ∀ t : TableName, TableName.schedulerDecisions ≠ t → db₃ t = db₂ t := fun t ht =>
    hscheduler.untouched ((saveSchedulerDecisions_confined _).untouched ht)
  have hbatch' : ∀ t : TableName, TableName.batchDecisions ≠ t → db₄ t = db₃ t := fun t ht =>
    hbatch.untouched ((saveBatchDecisions_confined _).untouched ht)
  have hfailures' : ∀ t : TableName, TableName.failures ≠ t → db₅ t = db₄ t := fun t ht =>
    hfailures.untouched ((saveFailures_confined _).untouched ht)
  have hrecord' : ∀ t : TableName, TableName.executionRecords ≠ t → db₆ t = db₅ t := fun t ht =>
    hrecord.untouched ((saveRecord_confined _).untouched ht)
  have hsummary' : ∀ t : TableName, TableName.traceSummaries ≠ t → db' t = db₆ t := by
    intro t ht
    refine hsummary.untouched ?_
    cases call.summary with
    | none => exact fun s hs => by cases hs
    | some summary => exact (saveSummary_confined summary).untouched ht
  have hrequests : db' TableName.requests = db₁ TableName.requests := by
    rw [hsummary' _ (by decide), hrecord' _ (by decide), hfailures' _ (by decide), hbatch' _ (by decide),
      hscheduler' _ (by decide), htransitions' _ (by decide)]
  have hlifecycle : db' TableName.lifecycleTransitions = db₂ TableName.lifecycleTransitions := by
    rw [hsummary' _ (by decide), hrecord' _ (by decide), hfailures' _ (by decide), hbatch' _ (by decide),
      hscheduler' _ (by decide)]
  have hdecisions : db' TableName.schedulerDecisions = db₃ TableName.schedulerDecisions := by
    rw [hsummary' _ (by decide), hrecord' _ (by decide), hfailures' _ (by decide), hbatch' _ (by decide)]
  have hdecisions₂ : db₂ TableName.schedulerDecisions = db TableName.schedulerDecisions := by
    rw [htransitions' _ (by decide), hrequest' _ (by decide)]
  have hbatches : db' TableName.batchDecisions = db₄ TableName.batchDecisions := by
    rw [hsummary' _ (by decide), hrecord' _ (by decide), hfailures' _ (by decide)]
  have hbatches₃ : db₃ TableName.batchDecisions = db TableName.batchDecisions := by
    rw [hscheduler' _ (by decide), htransitions' _ (by decide), hrequest' _ (by decide)]
  have hfailed : db' TableName.failures = db₅ TableName.failures := by
    rw [hsummary' _ (by decide), hrecord' _ (by decide)]
  have hfailed₄ : db₄ TableName.failures = db TableName.failures := by
    rw [hbatch' _ (by decide), hscheduler' _ (by decide), htransitions' _ (by decide), hrequest' _ (by decide)]
  have hrecords : db' TableName.executionRecords = db₆ TableName.executionRecords := hsummary' _ (by decide)
  have hrecords₅ : db₅ TableName.executionRecords = db TableName.executionRecords := by
    rw [hfailures' _ (by decide), hbatch' _ (by decide), hscheduler' _ (by decide), htransitions' _ (by decide),
      hrequest' _ (by decide)]
  constructor
  · have hreplaced : requestTable db' = (requestTable db).replace
        (requestRow texts (requestMetadataFromRecord texts call.record)) :=
      hrequests.trans (does_replace hrequest)
    rw [hreplaced, Table.rows_replace]
    rfl
  · unfold transitionTable
    rw [hlifecycle, ← hrequest' TableName.lifecycleTransitions (by decide)]
    exact does_rewrite (t := .lifecycleTransitions) htransitions
  · unfold schedulerTable
    rw [hdecisions, ← hdecisions₂]
    exact saveSchedulerDecisions_does hscheduler
  · unfold batchTable
    rw [hbatches, ← hbatches₃]
    exact saveBatchDecisions_does hbatch
  · unfold failureTable
    rw [hfailed, ← hfailed₄]
    exact does_replaces (t := TableName.failures) hfailures
  · have hreplaced : recordTable db' = (recordTable db₅).replace (executionRecordRow texts call.record) :=
      hrecords.trans (does_replace hrecord)
    have hrecords₅ : recordTable db₅ = recordTable db := hrecords₅
    rw [hreplaced, hrecords₅, Table.rows_replace]
    rfl

theorem persisted_of_returns {c : Connection schema} {o : PersistCall × Option ℕ} (h : Persists texts c o) :
    Persisted texts o.1 c.working (persistStep texts c o).working := by
  unfold Persists Connection.Returns at h
  unfold persistStep Connection.step
  dsimp only at h ⊢
  rcases perform_atomic c (rfl : (persistExecutionRecord texts o.1).commits = true) rfl o.2 with hraises
    | ⟨db, hdoes, hreturns⟩
  · rw [hraises] at h
    cases h
  · rw [hreturns]
    exact persisted_of_does hdoes

/-! ## What is left of a request -/

/-- a table in which a persist of some of the records rewrites the rows of its request -/
structure Rewrites {ρ : Type} (texts : Texts) (column : ρ → String) (table : Database schema → List ρ)
    (rows : PersistCall → List ρ) (W : PersistCall → Prop) : Prop where
  writes : ∀ {call db db'}, Persisted texts call db db' → W call →
    table db' = rewritten texts column call.record.requestId (table db) (rows call)
  skips : ∀ {call db db'}, Persisted texts call db db' → ¬W call → table db' = table db
  own : ∀ call, ∀ row ∈ rows call, column row = texts.uuidText call.record.requestId

namespace Rewrites

variable {ρ : Type} {column : ρ → String} {table : Database schema → List ρ} {rows : PersistCall → List ρ}
  {W : PersistCall → Prop} {c : Connection schema} {pre post : List (PersistCall × Option ℕ)} {last : PersistCall}
  {fault : Option ℕ}

theorem written (h : Rewrites texts column table rows W) {o : PersistCall × Option ℕ}
    (ho : Persists texts c o) (hw : W o.1) :
    ofRequest texts column o.1.record.requestId (table (persistStep texts c o).working) = rows o.1 := by
  rw [h.writes (persisted_of_returns ho) hw, ofRequest_rewritten_self (h.own o.1)]

theorem kept (h : Rewrites texts column table rows W) {o : PersistCall × Option ℕ} {requestId : UUID}
    (ho : Persists texts c o) (hw : ¬(o.1.record.requestId = requestId ∧ W o.1)) :
    ofRequest texts column requestId (table (persistStep texts c o).working) =
      ofRequest texts column requestId (table c.working) := by
  by_cases hwrites : W o.1
  · have hid : requestId ≠ o.1.record.requestId := fun hid => hw ⟨hid.symm, hwrites⟩
    rw [h.writes (persisted_of_returns ho) hwrites, ofRequest_rewritten_ne hid (h.own o.1)]
  · rw [h.skips (persisted_of_returns ho) hwrites]

/-- what the last record of a request leaves in the table, if it is written there, and else what there was before -/
theorem run_last (h : Rewrites texts column table rows W)
    (hreturns : Meets (persistStep texts) (Persists texts) c (pre ++ (last, fault) :: post))
    (hlast : ∀ o ∈ post, o.1.record.requestId ≠ last.record.requestId) :
    ofRequest texts column last.record.requestId
        (table (run (persistStep texts) c (pre ++ (last, fault) :: post)).working) =
      ofRequest texts column last.record.requestId
        (table (persistStep texts (run (persistStep texts) c pre) (last, fault)).working) := by
  refine Meets.run_last (f := fun c => ofRequest texts column last.record.requestId (table c.working))
    (W := fun o => o.1.record.requestId = last.record.requestId ∧ W o.1) ?_ hreturns ?_
  · intro c o ho hw
    exact h.kept ho hw
  · intro o ho hw
    exact hlast o ho hw.1

/-- no rows of a request exactly when none was written -/
theorem run_nil_iff (h : Rewrites texts column table rows W) (hrows : ∀ call, W call → rows call ≠ [])
    {requestId : UUID}
    {history : List (PersistCall × Option ℕ)} (hreturns : Meets (persistStep texts) (Persists texts) c history) :
    ofRequest texts column requestId (table (run (persistStep texts) c history).working) = [] ↔
      ofRequest texts column requestId (table c.working) = [] ∧
        ∀ o ∈ history, ¬(o.1.record.requestId = requestId ∧ W o.1) := by
  refine Meets.run_iff_forall (I := fun c => ofRequest texts column requestId (table c.working) = []) ?_ hreturns
  intro c o ho
  by_cases hw : o.1.record.requestId = requestId ∧ W o.1
  · obtain ⟨rfl, hwrites⟩ := hw
    rw [h.written ho hwrites]
    simp [hrows o.1 hwrites, hwrites]
  · rw [h.kept ho hw]
    simp [hw]

/-- the rows are those of the last record, which does not write them if it has none, and then no record before it may
have had some -/
theorem run_perm_iff (h : Rewrites texts column table rows W) (hrows : ∀ call, W call ↔ rows call ≠ [])
    (hempty : table c.working = [])
    (hreturns : Meets (persistStep texts) (Persists texts) c (pre ++ (last, fault) :: post))
    (hlast : ∀ o ∈ post, o.1.record.requestId ≠ last.record.requestId) :
    (ofRequest texts column last.record.requestId
        (table (run (persistStep texts) c (pre ++ (last, fault) :: post)).working)).Perm (rows last) ↔
      (rows last = [] → ∀ o ∈ pre, o.1.record.requestId = last.record.requestId → rows o.1 = []) := by
  have hpre := (meets_append.1 hreturns).1
  rw [h.run_last hreturns hlast]
  by_cases hw : W last
  · have hsome : rows last ≠ [] := (hrows last).1 hw
    have hwritten := h.written (o := (last, fault)) hreturns.at hw
    rw [hwritten]
    exact ⟨fun _ hnone => absurd hnone hsome, fun _ => List.Perm.refl _⟩
  · have hnone : rows last = [] := by
      by_contra hsome
      exact hw ((hrows last).2 hsome)
    have hbefore : ofRequest texts column last.record.requestId (table c.working) = [] := by
      rw [hempty]
      rfl
    rw [h.kept hreturns.at (fun hwrites => hw hwrites.2), hnone, List.perm_nil,
      h.run_nil_iff (fun call => (hrows call).1) hpre]
    constructor
    · rintro ⟨-, hall⟩ - o ho hid
      by_contra hsome
      exact hall o ho ⟨hid, (hrows o.1).2 hsome⟩
    · intro hall
      refine ⟨hbefore, ?_⟩
      rintro o ho ⟨hid, hwrites⟩
      exact (hrows o.1).1 hwrites (hall rfl o ho hid)

/-- a table that every record writes has the rows of the last one -/
theorem run_always (h : Rewrites texts column table rows fun _ => True)
    (hreturns : Meets (persistStep texts) (Persists texts) c (pre ++ (last, fault) :: post))
    (hlast : ∀ o ∈ post, o.1.record.requestId ≠ last.record.requestId) :
    ofRequest texts column last.record.requestId
      (table (run (persistStep texts) c (pre ++ (last, fault) :: post)).working) = rows last := by
  rw [h.run_last hreturns hlast]
  exact h.written (o := (last, fault)) hreturns.at trivial

end Rewrites

theorem requests_rewritten : Rewrites texts RequestRow.requestId (fun db => (requestTable db).rows)
    (fun call => [requestRow texts (requestMetadataFromRecord texts call.record)]) fun _ => True where
  writes h _ := h.requests
  skips _ hw := absurd trivial hw
  own call row hrow := by
    rw [List.mem_singleton.1 hrow]
    rfl

theorem lifecycle_rewritten : Rewrites texts TransitionRow.requestId (fun db => (transitionTable db).rows)
    (fun call => call.transitions.map (transitionRow texts)) fun _ => True where
  writes h _ := h.lifecycleTransitions
  skips _ hw := absurd trivial hw
  own call row hrow := by
    obtain ⟨transition, hmem, rfl⟩ := List.mem_map.1 hrow
    exact congrArg texts.uuidText (mem_transitions hmem)

theorem schedulerDecisions_rewritten : Rewrites texts SchedulerDecisionRow.requestId
    (fun db => (schedulerTable db).rows)
    (fun call => call.schedulerDecisions.map (schedulerDecisionRow texts))
      (fun call => call.schedulerDecisions ≠ []) where
  writes h hw := h.schedulerDecisions.trans (if_neg hw)
  skips h hw := h.schedulerDecisions.trans (if_pos (not_not.1 hw))
  own call row hrow := by
    obtain ⟨decision, hmem, rfl⟩ := List.mem_map.1 hrow
    exact congrArg texts.uuidText (mem_schedulerDecisions hmem)

theorem batchDecisions_rewritten : Rewrites texts BatchDecisionRow.requestId (fun db => (batchTable db).rows)
    (fun call => call.batchDecisions.map (batchDecisionRow texts)) (fun call => call.batchDecisions ≠ []) where
  writes h hw := h.batchDecisions.trans (if_neg hw)
  skips h hw := h.batchDecisions.trans (if_pos (not_not.1 hw))
  own call row hrow := by
    obtain ⟨decision, hmem, rfl⟩ := List.mem_map.1 hrow
    exact congrArg texts.uuidText (mem_batchDecisions hmem)

theorem executionRecords_rewritten : Rewrites texts ExecutionRecordRow.requestId (fun db => (recordTable db).rows)
    (fun call => [executionRecordRow texts call.record]) fun _ => True where
  writes h _ := h.executionRecords
  skips _ hw := absurd trivial hw
  own call row hrow := by
    rw [List.mem_singleton.1 hrow]
    rfl

/-! ## Failures -/

/-- of three parts, the elements with a property are the middle part exactly when all in it have the property and none
of the others -/
theorem filter_perm_middle_iff {α β : Type} {a b m : List α} {p : α → Bool} {f : α → β} {q : β → Bool}
    (hq : ∀ x, q (f x) = p x) :
    (((a ++ m ++ b).filter p).map f).Perm (m.map f) ↔ (∀ x ∈ m, p x = true) ∧ ∀ x ∈ a ++ b, p x = false := by
  constructor
  · intro hperm
    have hm : ∀ x ∈ m, p x = true := by
      intro x hx
      obtain ⟨y, hy, hfy⟩ := List.mem_map.1 (hperm.mem_iff.2 (List.mem_map_of_mem hx))
      rw [← hq, ← hfy, hq]
      exact (List.mem_filter.1 hy).2
    have hlength := hperm.length_eq
    rw [List.length_map, List.length_map, List.filter_append, List.filter_append, List.filter_eq_self.2 hm,
      List.length_append, List.length_append] at hlength
    have hempty : ((a ++ b).filter p).length = 0 := by
      rw [List.filter_append, List.length_append]
      omega
    refine ⟨hm, fun x hx => ?_⟩
    simpa using List.filter_eq_nil_iff.1 (List.length_eq_zero_iff.1 hempty) x hx
  · rintro ⟨hm, hrest⟩
    have ha : a.filter p = [] := List.filter_eq_nil_iff.2 fun x hx => by simp [hrest x (List.mem_append_left b hx)]
    have hb : b.filter p = [] := List.filter_eq_nil_iff.2 fun x hx => by simp [hrest x (List.mem_append_right a hx)]
    rw [List.filter_append, List.filter_append, ha, hb, List.filter_eq_self.2 hm, List.nil_append, List.append_nil]

/-- the rows of all the failures of a history -/
def failureRows (texts : Texts) (history : List (PersistCall × Option ℕ)) : List FailureRow :=
  history.flatMap fun o => o.1.failures.map (failureRow texts)

theorem failureRows_append (a b : List (PersistCall × Option ℕ)) :
    failureRows texts (a ++ b) = failureRows texts a ++ failureRows texts b := List.flatMap_append

theorem failureRows_nodup {history : List (PersistCall × Option ℕ)} (h : FreshFailures history) :
    ((failureRows texts history).map FailureRow.failureId).Nodup := by
  have hids : (failureRows texts history).map FailureRow.failureId =
      (history.flatMap fun o => o.1.failures.map PersistedFailureRecord.failureId).map texts.uuidText := by
    rw [failureRows, List.map_flatMap, List.map_flatMap]
    congr 1
    funext o
    rw [List.map_map, List.map_map]
    rfl
  rw [hids]
  exact h.map uuidText_injective

/-- under new ids, the failures of all records are kept -/
theorem run_failures {history : List (PersistCall × Option ℕ)}
    (hreturns : Meets (persistStep texts) (Persists texts) (.opened .empty) history) (hfresh : FreshFailures history) :
    (failureTable (run (persistStep texts) (.opened .empty) history).working).rows = failureRows texts history := by
  induction history using List.reverseRecOn with
  | nil => rfl
  | append_singleton history o ih =>
    have hrun := ih (meets_append.1 hreturns).1 (List.Nodup.sublist ?_ hfresh)
    · have hnodup : ((failureRows texts (history ++ [o])).map FailureRow.failureId).Nodup := failureRows_nodup hfresh
      have hlast : failureRows texts [o] = o.1.failures.map (failureRow texts) := List.append_nil _
      rw [failureRows_append, hlast, ← hrun] at hnodup
      rw [run_append, run_cons, run_nil, (persisted_of_returns hreturns.at).failures, failureRows_append, hlast, ← hrun]
      exact Table.rows_foldl_replace hnodup
    · rw [List.flatMap_append]
      exact List.sublist_append_left _ _

theorem forall_failureRow {call : PersistCall} {P : String → Prop} :
    (∀ row ∈ call.failures.map (failureRow texts), P row.requestId) ↔
      ∀ failure ∈ call.record.failures, P (texts.uuidText failure.requestId) := by
  constructor
  · intro h failure hfailure
    obtain ⟨i, hi, rfl⟩ := List.mem_iff_getElem.1 hfailure
    refine h (failureRow texts (persistedFailureFromRuntime call.record.failures[i] (call.firstFailureId + i))) ?_
    exact List.mem_map_of_mem (List.mem_mapIdx.2 ⟨i, hi, rfl⟩)
  · intro h row hrow
    obtain ⟨persisted, hmem, rfl⟩ := List.mem_map.1 hrow
    obtain ⟨i, hi, rfl⟩ := List.mem_mapIdx.1 hmem
    exact h _ (List.getElem_mem hi)

theorem failures_perm_iff {pre post : List (PersistCall × Option ℕ)} {last : PersistCall} {fault : Option ℕ}
    (hreturns : Meets (persistStep texts) (Persists texts) (.opened .empty) (pre ++ (last, fault) :: post))
    (hfresh : FreshFailures (pre ++ (last, fault) :: post)) :
    ((ofRequest texts FailureRow.requestId last.record.requestId
        (failureTable (run (persistStep texts) (.opened .empty) (pre ++ (last, fault) :: post)).working).rows).map
      FailureRow.content).Perm ((last.failures.map (failureRow texts)).map FailureRow.content) ↔
      (∀ failure ∈ last.record.failures, failure.requestId = last.record.requestId) ∧
        ∀ o ∈ pre ++ post, ∀ failure ∈ o.1.record.failures, failure.requestId ≠ last.record.requestId := by
  have hparts : failureRows texts (pre ++ (last, fault) :: post) =
      failureRows texts pre ++ last.failures.map (failureRow texts) ++ failureRows texts post := by
    rw [failureRows_append, List.append_assoc]
    rfl
  have hid : ∀ requestId, texts.uuidText requestId = texts.uuidText last.record.requestId ↔
      requestId = last.record.requestId := fun requestId => uuidText_injective.eq_iff
  rw [run_failures hreturns hfresh, hparts, ofRequest,
    filter_perm_middle_iff (p := fun row => row.requestId = texts.uuidText last.record.requestId)
      (f := FailureRow.content)
      (q := fun row => row.requestId = texts.uuidText last.record.requestId) fun _ => rfl]
  refine and_congr ?_ ?_
  · simp only [decide_eq_true_eq]
    rw [forall_failureRow (P := fun text => text = texts.uuidText last.record.requestId)]
    simp only [hid]
  · rw [← failureRows_append]
    simp only [decide_eq_false_iff_not]
    have hrows : ∀ o : PersistCall × Option ℕ, (∀ row ∈ o.1.failures.map (failureRow texts),
        ¬row.requestId = texts.uuidText last.record.requestId) ↔
          ∀ failure ∈ o.1.record.failures, failure.requestId ≠ last.record.requestId := by
      intro o
      rw [forall_failureRow (P := fun text => ¬text = texts.uuidText last.record.requestId)]
      simp only [hid, ne_eq]
    constructor
    · intro h o ho
      exact (hrows o).1 fun row hrow => h row (List.mem_flatMap.2 ⟨o, ho, hrow⟩)
    · intro h row hrow
      obtain ⟨o, ho, hmem⟩ := List.mem_flatMap.1 hrow
      exact (hrows o).2 (h o ho) row hmem

/-! ## The last record -/

/-- after any history of persists that return, for the last record of a request -/
theorem projection_iff (texts : Texts) {pre post : List (PersistCall × Option ℕ)}
    {last : PersistCall} {fault : Option ℕ}
    (hreturns : Meets (persistStep texts) (Persists texts) (.opened .empty) (pre ++ (last, fault) :: post))
    (hfresh : FreshFailures (pre ++ (last, fault) :: post))
    (hlast : ∀ o ∈ post, o.1.record.requestId ≠ last.record.requestId) :
    Projected texts (run (persistStep texts) (.opened .empty) (pre ++ (last, fault) :: post)).working last ↔
      Replaces pre last post := by
  have hscheduler := schedulerDecisions_rewritten.run_perm_iff (fun call => by simp) rfl hreturns hlast
  have hbatch := batchDecisions_rewritten.run_perm_iff (fun call => by simp) rfl hreturns hlast
  have hfailures := failures_perm_iff hreturns hfresh
  simp only [List.map_eq_nil_iff, PersistCall.schedulerDecisions, PersistCall.batchDecisions, List.mapIdx_eq_nil_iff]
    at hscheduler hbatch
  constructor
  · intro h
    obtain ⟨hown, hothers⟩ := hfailures.1 h.failures
    exact
      { schedulerEvents := hscheduler.1 h.schedulerDecisions
        batchEvents := hbatch.1 h.batchDecisions
        ownFailures := hown
        noOtherFailures := hothers }
  · intro h
    exact
      { requests := .of_eq (requests_rewritten.run_always hreturns hlast)
        lifecycleTransitions := .of_eq (lifecycle_rewritten.run_always hreturns hlast)
        schedulerDecisions := hscheduler.2 h.schedulerEvents
        batchDecisions := hbatch.2 h.batchEvents
        failures := hfailures.2 ⟨h.ownFailures, h.noOtherFailures⟩
        executionRecords := .of_eq (executionRecords_rewritten.run_always hreturns hlast) }

/-! ## Rows that are not replaced -/

def sampleFailure : FailureRecord :=
  { failureType := "dispatch_failed", failureOwner := .scheduler, failureComponent := "dispatch", failureTimestamp := 0
    failureReason := "backend_unavailable", failureState := "FAILED", requestId := 1, correlationId := "corr" }

def sampleDecision : TraceEvent :=
  { requestId := 1, correlationId := "corr", timestamp := 0, component := .scheduler, eventType := "request_selected" }

def failedCall (firstFailureId : UUID) : PersistCall :=
  { record := { sampleRecord 0 with failures := [sampleFailure] }, firstFailureId }

def decidedCall (requestId : UUID) : PersistCall :=
  { record := { sampleRecord 0 with requestId, schedulerEvents := [sampleDecision] }, firstFailureId := 0 }

/-- a failed request after another one that was scheduled -/
theorem projection_iff_other :
    Projected sampleTexts
      (run (persistStep sampleTexts) (.opened .empty) [(decidedCall 2, none), (failedCall 5, none)]).working
        (failedCall 5) := by
  have hreturns : Meets (persistStep sampleTexts) (Persists sampleTexts) (.opened .empty)
      [(decidedCall 2, none), (failedCall 5, none)] := ⟨rfl, rfl, trivial⟩
  have hfresh : FreshFailures [(decidedCall 2, none), (failedCall 5, none)] := by
    unfold FreshFailures
    decide
  have hlast : ∀ o ∈ ([] : List (PersistCall × Option ℕ)), o.1.record.requestId ≠ (failedCall 5).record.requestId :=
    fun _ h => by cases h
  refine (@projection_iff sampleTexts [(decidedCall 2, none)] [] (failedCall 5) none hreturns hfresh hlast).2 ?_
  constructor
  · intro _ o ho hid
    rw [List.mem_singleton.1 ho] at hid
    exact absurd hid (by decide)
  · intro _ o ho hid
    rw [List.mem_singleton.1 ho] at hid
    exact absurd hid (by decide)
  · intro failure hfailure
    rw [List.mem_singleton.1 hfailure]
    rfl
  · intro o ho failure hfailure
    rw [List.append_nil, List.mem_singleton] at ho
    rw [ho] at hfailure
    cases hfailure

/-- the same record twice has its failure twice -/
theorem persisted_twice :
    let history := [(failedCall 5, none), (failedCall 6, none)]
    Meets (persistStep sampleTexts) (Persists sampleTexts) (.opened .empty) history ∧
      ¬Projected sampleTexts (run (persistStep sampleTexts) (.opened .empty) history).working (failedCall 6) := by
  intro history
  refine ⟨⟨rfl, rfl, trivial⟩, fun h => ?_⟩
  exact absurd h.failures.length_eq (by decide)

/-- a record with a decision, and then one without any, which the decision outlives -/
example :
    let history := [(decidedCall 1, none), (sampleCall 1, none)]
    Meets (persistStep sampleTexts) (Persists sampleTexts) (.opened .empty) history ∧
      ¬Projected sampleTexts (run (persistStep sampleTexts) (.opened .empty) history).working (sampleCall 1) := by
  intro history
  refine ⟨⟨rfl, rfl, trivial⟩, fun h => ?_⟩
  exact absurd h.schedulerDecisions.length_eq (by decide)

end InferencePlatform.Persistence
