/-
What is read back: a record from its JSON, and the records of a database after a restart.

- `recover_all`: recovery reads every row, in the order of their times, if no record has a completion or stream metrics;
- `recover_stops`: it raises if a record has one;
- `codec_and_recovery_iff`: so the codec restores a record, and recovery all that are stored, exactly when none has
  either;
- `completed_record_lost`: a record with a completion.
-/
import InferencePlatform.Persistence.DurableStore

namespace InferencePlatform.Persistence

open InferencePlatform.Core (Dict run)
open InferencePlatform.Core.Sql
open Replay
open DurableExecutionRecordStore

variable {texts : Texts} {s : DurableExecutionRecordStore}

/-- neither a completion nor stream metrics -/
def Plain (record : RequestExecutionRecord) : Prop := record.completion = none ∧ record.streamMetrics = none

/-- the record is what its row was written for -/
def Stored (texts : Texts) (db : Database schema) (record : RequestExecutionRecord) : Prop :=
  (recordTable db).row? (texts.uuidText record.requestId) = some (executionRecordRow texts record)

theorem decode_iff (texts : Texts) (record : RequestExecutionRecord) :
    executionRecordFromDict texts (PyDict.normalise texts (executionRecordToDict texts record)) =
      .ok (normaliseRecord texts record) ↔ Plain record := by
  constructor
  · intro hdecode
    by_contra hplain
    rw [Plain, not_and_or] at hplain
    obtain ⟨message, hrefused⟩ := @decode_dressed texts record hplain
    rw [hrefused] at hdecode
    cases hdecode
  · rintro ⟨hcompletion, hstream⟩
    exact decode_encode record hcompletion hstream

/-! ## Reading rows -/

theorem getRecord_stored {db : Database schema} {record : RequestExecutionRecord} (h : Stored texts db record) :
    getRecord texts db record.requestId =
      (executionRecordFromDict texts (PyDict.normalise texts (executionRecordToDict texts record))).map some := by
  unfold getRecord
  rw [h]
  simp only [executionRecordRow]

theorem getRecord_plain {db : Database schema} {record : RequestExecutionRecord} (h : Stored texts db record)
    (hplain : Plain record) : getRecord texts db record.requestId = .ok (some (normaliseRecord texts record)) := by
  rw [getRecord_stored h, (decode_iff texts record).2 hplain]
  rfl

theorem getRecord_dressed {db : Database schema} {record : RequestExecutionRecord} (h : Stored texts db record)
    (hdressed : ¬Plain record) : ∃ message, getRecord texts db record.requestId = .error message := by
  rw [Plain, not_and_or] at hdressed
  obtain ⟨message, hrefused⟩ := @decode_dressed texts record hdressed
  refine ⟨message, ?_⟩
  rw [getRecord_stored h, hrefused]
  rfl

/-- the rows list the ids of the records they were written for -/
theorem listRequestIds_written {db : Database schema} (h : Written texts db) :
    ∃ ids, listRequestIds texts db = .ok ids ∧
      ∀ requestId ∈ ids, ∃ record, Stored texts db record ∧ record.requestId = requestId := by
  have hrows : ∀ rows : List ExecutionRecordRow,
      (∀ row ∈ rows, ∃ record, row = executionRecordRow texts record ∧ Stored texts db record) →
      ∃ ids, (rows.mapM fun row => (PyValue.str row.requestId).asUuid texts) = .ok ids ∧
        ∀ requestId ∈ ids, ∃ record, Stored texts db record ∧ record.requestId = requestId := by
    intro rows hrows
    induction rows with
    | nil => exact ⟨[], rfl, fun _ hid => by cases hid⟩
    | cons row rest ih =>
      obtain ⟨record, rfl, hstored⟩ := hrows row List.mem_cons_self
      obtain ⟨ids, hids, hall⟩ := ih fun row hrow => hrows row (List.mem_cons_of_mem _ hrow)
      refine ⟨record.requestId :: ids, ?_, ?_⟩
      · have hid : (PyValue.str (executionRecordRow texts record).requestId).asUuid texts = .ok record.requestId :=
          PyValue.asUuid_uuidText record.requestId
        rw [List.mapM_cons, hid, hids]
        rfl
      · intro requestId hmem
        rcases List.mem_cons.1 hmem with rfl | hrest
        · exact ⟨record, hstored, rfl⟩
        · exact hall requestId hrest
  refine hrows _ fun row hrow => ?_
  have hmem := (Core.sortOn_perm _ _).mem_iff.1 hrow
  obtain ⟨record, rfl⟩ := h row hmem
  exact ⟨record, rfl, Table.row?_eq_some.2 ⟨hmem, rfl⟩⟩

/-! ## Recovery -/

/-- by induction on the ids: each is cached, and what is cached of an id later is the same record -/
theorem recoverRecords_all (count : ℕ) (ids : List UUID)
    (h : ∀ requestId ∈ ids, ∃ record, getRecord texts s.connection.working requestId = .ok (some record) ∧
      record.requestId = requestId) :
    (s.recoverRecords texts count ids).1 = .ok (count + ids.length) ∧
      ∀ requestId record, getRecord texts s.connection.working requestId = .ok (some record) →
        (requestId ∈ ids ∨ s.cache.get? requestId = some record) →
          (s.recoverRecords texts count ids).2.cache.get? requestId = some record := by
  induction ids generalizing s count with
  | nil =>
    refine ⟨rfl, ?_⟩
    rintro requestId record - (hmem | hcached)
    · cases hmem
    · exact hcached
  | cons first rest ih =>
    obtain ⟨loaded, hloaded, rfl⟩ := h first List.mem_cons_self
    let s' : DurableExecutionRecordStore := { s with cache := s.cache.set loaded.requestId loaded }
    have hfirst : s.recoverRecords texts count (loaded.requestId :: rest) =
        s'.recoverRecords texts (count + 1) rest := by
      rw [recoverRecords, hloaded]
    obtain ⟨hcount, hkept⟩ := @ih s' (count + 1) fun requestId hid => h requestId (List.mem_cons_of_mem _ hid)
    rw [hfirst]
    refine ⟨?_, ?_⟩
    · rw [hcount, List.length_cons]
      congr 1
      omega
    · intro requestId record hrecord hbefore
      refine hkept requestId record hrecord ?_
      change requestId ∈ rest ∨ (s.cache.set loaded.requestId loaded).get? requestId = some record
      rw [Dict.get?_set]
      split_ifs with hid
      · rw [hid, hloaded] at hrecord
        exact Or.inr (Except.ok.inj hrecord)
      · rcases hbefore with hmem | hcached
        · exact Or.inl ((List.mem_cons.1 hmem).resolve_left hid)
        · exact Or.inr hcached

theorem recoverRecords_stops (count : ℕ) {ids : List UUID} {requestId : UUID} (hmem : requestId ∈ ids)
    (h : ∃ message, getRecord texts s.connection.working requestId = .error message) :
    ∃ message, (s.recoverRecords texts count ids).1 = .error message := by
  induction ids generalizing s count with
  | nil => cases hmem
  | cons first rest ih =>
    unfold recoverRecords
    cases hfirst : getRecord texts s.connection.working first with
    | error message => exact ⟨message, rfl⟩
    | ok found =>
      have hrest : requestId ∈ rest := by
        rcases List.mem_cons.1 hmem with rfl | hrest
        · obtain ⟨message, herror⟩ := h
          rw [hfirst] at herror
          cases herror
        · exact hrest
      cases found with
      | none => exact ih count hrest h
      | some record => exact @ih { s with cache := s.cache.set record.requestId record } (count + 1) hrest h

theorem recover_all (h : Written texts s.connection.working)
    (hplain : ∀ record, Stored texts s.connection.working record → Plain record) :
    (∃ count, (s.recover texts).1 = .ok count) ∧ ∀ record, Stored texts s.connection.working record →
      (s.recover texts).2.cache.get? record.requestId = some (normaliseRecord texts record) := by
  obtain ⟨ids, hids, hwritten⟩ := listRequestIds_written h
  have hall : ∀ requestId ∈ ids, ∃ record, getRecord texts s.connection.working requestId = .ok (some record) ∧
      record.requestId = requestId := by
    intro requestId hmem
    obtain ⟨record, hstored, rfl⟩ := hwritten requestId hmem
    exact ⟨normaliseRecord texts record, getRecord_plain hstored (hplain record hstored), rfl⟩
  obtain ⟨hcount, hcached⟩ := recoverRecords_all 0 ids hall
  unfold recover
  rw [hids]
  refine ⟨⟨_, hcount⟩, ?_⟩
  intro record hstored
  exact hcached record.requestId _ (getRecord_plain hstored (hplain record hstored))
    (Or.inl (mem_listRequestIds hids hstored))

theorem recover_stops (h : Written texts s.connection.working) {record : RequestExecutionRecord}
    (hstored : Stored texts s.connection.working record) (hdressed : ¬Plain record) :
    ∃ message, (s.recover texts).1 = .error message := by
  obtain ⟨ids, hids, -⟩ := listRequestIds_written h
  unfold recover
  rw [hids]
  exact recoverRecords_stops 0 (mem_listRequestIds hids hstored) (getRecord_dressed hstored hdressed)

/-- recovery in a new process, after any run -/
theorem codec_and_recovery_iff (texts : Texts) :
    (∀ record, executionRecordFromDict texts (PyDict.normalise texts (executionRecordToDict texts record)) =
      .ok (normaliseRecord texts record) ↔ Plain record) ∧
      ∀ ops, let s := (run (storeStep texts) init ops).restart
        ((∃ count, (s.recover texts).1 = .ok count) ∧ ∀ record, Stored texts s.connection.committed record →
          ((s.recover texts).2.get texts record.requestId).1 = .ok (some (normaliseRecord texts record))) ↔
          ∀ record, Stored texts s.connection.committed record → Plain record := by
  refine ⟨decode_iff texts, fun ops => ?_⟩
  intro s
  have hwritten : Written texts s.connection.working := (run_sound texts ops).written
  constructor
  · rintro ⟨⟨count, hcount⟩, -⟩ record hstored
    by_contra hdressed
    obtain ⟨message, hstops⟩ := recover_stops hwritten hstored hdressed
    rw [hcount] at hstops
    cases hstops
  · intro hplain
    obtain ⟨hcount, hcached⟩ := recover_all hwritten hplain
    refine ⟨hcount, fun record hstored => ?_⟩
    unfold DurableExecutionRecordStore.get
    rw [hcached record hstored]

/-! ## A completed request -/

def completedRecord : RequestExecutionRecord :=
  { sampleRecord 0 with
    completion := some { requestId := 1, backendId := "local", generatedText := "hi", promptTokens := 1,
                         completionTokens := 1
                         totalTokens := 2, finishReason := some "stop", completedAt := 0 } }

/-- it cannot be read back, and the recovery after it has been stored raises -/
theorem completed_record_lost :
    let s := (init.put sampleTexts { record := completedRecord, firstFailureId := 0 } none).1
    (∃ message, executionRecordFromDict sampleTexts
        (PyDict.normalise sampleTexts (executionRecordToDict sampleTexts completedRecord)) = .error message) ∧
      Stored sampleTexts s.restart.connection.committed completedRecord ∧
      ∃ message, (s.restart.recover sampleTexts).1 = .error message := by
  intro s
  have hdressed : ¬Plain completedRecord := fun h => Option.some_ne_none _ h.1
  have hstored : Stored sampleTexts s.restart.connection.committed completedRecord := rfl
  have hwritten : Written sampleTexts s.restart.connection.working := by
    intro row hrow
    exact ⟨completedRecord, List.mem_singleton.1 hrow⟩
  exact ⟨@decode_dressed sampleTexts completedRecord (Or.inl (Option.some_ne_none _)), hstored,
    recover_stops hwritten hstored hdressed⟩

end InferencePlatform.Persistence
