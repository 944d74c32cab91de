/-
The durable execution record store: a cache in memory over the repository.

`put` writes the cache and then the tables, so a put that raises leaves the record in the cache, while the tables are
rolled back. `restart` closes the database and opens a new store over it; the fault of a put says where the repository
raises.

- `put_raised_iff`: a put that raises leaves every answer as it was exactly when the store already returned this record;
- `put_atomic_iff`: in a run whose raising puts are all of this kind, the tables hold every record that the store
  returns;
- `put_diverges`: a put that raises, and the answers before it, after it, and after a restart.
-/
import InferencePlatform.Persistence.Repository

namespace InferencePlatform.Persistence

open InferencePlatform.Core (Dict Meets run)
open InferencePlatform.Core.Sql
open Observability Replay

/-! ## The store -/

structure DurableExecutionRecordStore where
  /-- the `ExecutionRecordStore` it extends -/
  cache : Dict UUID RequestExecutionRecord
  connection : Connection schema

namespace DurableExecutionRecordStore

variable (texts : Texts)

def init : DurableExecutionRecordStore := ⟨.empty, .opened .empty⟩

/-- the flag says whether it returns -/
def put (s : DurableExecutionRecordStore) (call : PersistCall) (fault : Option ℕ) :
    DurableExecutionRecordStore × Bool :=
  let cached := s.cache.set call.record.requestId call.record
  let (connection, returns) := s.connection.perform (persistExecutionRecord texts call) fault
  (⟨cached, connection⟩, returns)

/-- what `get` returns, and the store with a loaded record in its cache -/
def get (s : DurableExecutionRecordStore) (requestId : UUID) :
    Except String (Option RequestExecutionRecord) × DurableExecutionRecordStore :=
  match s.cache.get? requestId with
  | some record => (.ok (some record), s)
  | none =>
    match getRecord texts s.connection.working requestId with
    | .error message => (.error message, s)
    | .ok none => (.ok none, s)
    | .ok (some loaded) => (.ok (some loaded), { s with cache := s.cache.set loaded.requestId loaded })

/-- ids by their texts, in the order of their first occurrence -/
def merged (ids : List UUID) : Dict String UUID :=
  ids.foldl (fun merged item => merged.set (texts.uuidText item) item) .empty

def listRequestIds (s : DurableExecutionRecordStore) : Except String (List UUID) := do
  let persisted ← Persistence.listRequestIds texts s.connection.working
  return (merged texts (persisted ++ s.cache.keys)).values

/-- the loop of `recover` -/
def recoverRecords (s : DurableExecutionRecordStore) : ℕ → List UUID → Except String ℕ × DurableExecutionRecordStore
  | count, [] => (.ok count, s)
  | count, requestId :: rest =>
    match getRecord texts s.connection.working requestId with
    | .error message => (.error message, s)
    | .ok none => recoverRecords s count rest
    | .ok (some record) => recoverRecords { s with cache := s.cache.set record.requestId record } (count + 1) rest

def recover (s : DurableExecutionRecordStore) : Except String ℕ × DurableExecutionRecordStore :=
  match Persistence.listRequestIds texts s.connection.working with
  | .error message => (.error message, s)
  | .ok ids => s.recoverRecords texts 0 ids

/-- a new store over the database as it is on disk -/
def restart (s : DurableExecutionRecordStore) : DurableExecutionRecordStore := ⟨.empty, s.connection.reopened⟩

end DurableExecutionRecordStore

open DurableExecutionRecordStore

inductive StoreOp
  | put (call : PersistCall) (fault : Option ℕ)
  | get (requestId : UUID)
  | listRequestIds
  | recover
  | restart

variable (texts : Texts)

def storeStep (s : DurableExecutionRecordStore) : StoreOp → DurableExecutionRecordStore
  | .put call fault => (s.put texts call fault).1
  | .get requestId => (s.get texts requestId).2
  | .listRequestIds => s
  | .recover => (s.recover texts).2
  | .restart => s.restart

/-! ## What holds of a store -/

/-- both stores answer alike -/
structure SameAnswers (s s' : DurableExecutionRecordStore) : Prop where
  get : ∀ requestId, (s'.get texts requestId).1 = (s.get texts requestId).1
  listRequestIds : s'.listRequestIds texts = s.listRequestIds texts

/-- the tables hold a record: its row is the one that is written for it, or reads back as it -/
def Held (db : Database schema) (record : RequestExecutionRecord) : Prop :=
  ∃ row, (recordTable db).row? (texts.uuidText record.requestId) = some row ∧
    (row = executionRecordRow texts record ∨ executionRecordFromDict texts row.recordJson = .ok record)

/-- the store already returns this record -/
def Returned (s : DurableExecutionRecordStore) (record : RequestExecutionRecord) : Prop :=
  (s.get texts record.requestId).1 = .ok (some record)

/-- a put that raises is of a record that the store already returns -/
def KeepsOnRaise (s : DurableExecutionRecordStore) : StoreOp → Prop
  | .put call fault => (s.put texts call fault).2 = false → Returned texts s call.record
  | _ => True

variable {texts} {s : DurableExecutionRecordStore} {call : PersistCall} {fault : Option ℕ}

/-! ## What the operations do -/

/-- the persist writes one row of the records' table, or nothing -/
theorem persist_cases (c : Connection schema) (call : PersistCall) (fault : Option ℕ) :
    c.perform (persistExecutionRecord texts call) fault = (c.reopened, false) ∨
      ∃ db : Database schema, c.perform (persistExecutionRecord texts call) fault = (.opened db, true) ∧
        recordTable db = (recordTable c.working).replace (executionRecordRow texts call.record) := by
  rcases perform_atomic c (rfl : (persistExecutionRecord texts call).commits = true) rfl fault with h | ⟨db, hdoes, h⟩
  · exact Or.inl h
  · refine Or.inr ⟨db, h, ?_⟩
    have hpre : Untouched (S := schema) TableName.executionRecords
        (saveRequest texts (requestMetadataFromRecord texts call.record) ++
          saveTransitions texts call.record.requestId call.transitions ++
          saveSchedulerDecisions texts call.schedulerDecisions ++ saveBatchDecisions texts call.batchDecisions ++
          saveFailures texts call.failures) := by
      refine .append (.append (.append (.append ?_ ?_) ?_) ?_) ?_
      · exact untouched_of_confined (saveRequest_confined _) (by decide)
      · exact untouched_of_confined (saveTransitions_confined _ _) (by decide)
      · exact untouched_of_confined (saveSchedulerDecisions_confined _) (by decide)
      · exact untouched_of_confined (saveBatchDecisions_confined _) (by decide)
      · exact untouched_of_confined (saveFailures_confined _) (by decide)
    have hpost : Untouched (S := schema) TableName.executionRecords
        ((call.summary.map (saveSummary texts)).getD []) := by
      cases call.summary with
      | none => exact fun s hs => by cases hs
      | some summary => exact untouched_of_confined (saveSummary_confined summary) (by decide)
    obtain ⟨mid, mid', hmid, hpart, hdb⟩ := hdoes.of_part hpre hpost
    unfold recordTable
    rw [hdb, does_replace hpart, hmid]
    rfl

theorem put_cases (texts : Texts) (s : DurableExecutionRecordStore) (call : PersistCall) (fault : Option ℕ) :
    s.put texts call fault = (⟨s.cache.set call.record.requestId call.record, s.connection.reopened⟩, false) ∨
      ∃ db : Database schema,
        s.put texts call fault = (⟨s.cache.set call.record.requestId call.record, .opened db⟩, true) ∧
          recordTable db = (recordTable s.connection.working).replace (executionRecordRow texts call.record) := by
  unfold put
  rcases persist_cases s.connection call fault with h | ⟨db, h, hdb⟩
  · rw [h]
    exact Or.inl rfl
  · rw [h]
    exact Or.inr ⟨db, rfl, hdb⟩

theorem recoverRecords_connection (s : DurableExecutionRecordStore) (count : ℕ) (ids : List UUID) :
    (s.recoverRecords texts count ids).2.connection = s.connection := by
  induction ids generalizing s count with
  | nil => rfl
  | cons requestId rest ih =>
    unfold recoverRecords
    split
    · rfl
    · exact ih s count
    · exact ih _ (count + 1)

theorem get_connection (texts : Texts) (s : DurableExecutionRecordStore) (requestId : UUID) :
    (s.get texts requestId).2.connection = s.connection := by
  unfold DurableExecutionRecordStore.get
  split
  · rfl
  · split <;> rfl

theorem recover_connection (texts : Texts) (s : DurableExecutionRecordStore) :
    (s.recover texts).2.connection = s.connection := by
  unfold recover
  split
  · rfl
  · exact recoverRecords_connection s 0 _

/-! ## Tables between operations -/

/-- every row of the table was written for a record -/
def Written (texts : Texts) (db : Database schema) : Prop :=
  ∀ row ∈ (recordTable db).rows, ∃ record, row = executionRecordRow texts record

/-- no transaction is open, and the rows are written for records -/
structure Sound (texts : Texts) (s : DurableExecutionRecordStore) : Prop where
  settled : s.connection.working = s.connection.committed
  written : Written texts s.connection.committed

theorem Written.replace {db db' : Database schema} (h : Written texts db) (record : RequestExecutionRecord)
    (hdb : recordTable db' = (recordTable db).replace (executionRecordRow texts record)) : Written texts db' := by
  intro row hrow
  rw [hdb, Table.replace, Table.insert, List.mem_append, List.mem_singleton, Table.deleteWhere, List.mem_filter] at hrow
  rcases hrow with ⟨hold, -⟩ | rfl
  · exact h row hold
  · exact ⟨record, rfl⟩

theorem sound_step (h : Sound texts s) (o : StoreOp) : Sound texts (storeStep texts s o) := by
  cases o with
  | put call fault =>
    unfold storeStep
    dsimp only
    rcases put_cases texts s call fault with hput | ⟨db, hput, hdb⟩
    · rw [hput]
      exact ⟨rfl, h.written⟩
    · rw [hput]
      rw [h.settled] at hdb
      exact ⟨rfl, h.written.replace call.record hdb⟩
  | get requestId =>
    have hsame := get_connection texts s requestId
    exact ⟨by rw [storeStep, hsame]; exact h.settled, by rw [storeStep, hsame]; exact h.written⟩
  | listRequestIds => exact h
  | recover =>
    have hsame := recover_connection texts s
    exact ⟨by rw [storeStep, hsame]; exact h.settled, by rw [storeStep, hsame]; exact h.written⟩
  | restart => exact ⟨rfl, h.written⟩

theorem sound_init : Sound texts init := ⟨rfl, fun _ hrow => by cases hrow⟩

theorem run_sound (texts : Texts) (ops : List StoreOp) : Sound texts (run (storeStep texts) init ops) :=
  Core.run_inv (I := Sound texts) (fun _ o h => sound_step h o) ops sound_init

/-! ## Answers after a put that raises -/

theorem uuidText_injective : Function.Injective texts.uuidText := by
  intro u u' h
  have hparse := congrArg texts.parseUuid h
  rw [texts.parseUuid_uuidText, texts.parseUuid_uuidText] at hparse
  exact Option.some.inj hparse

/-- an id of the list is under its text -/
theorem merged_get? {ids : List UUID} {item : UUID} (h : item ∈ ids) :
    (merged texts ids).get? (texts.uuidText item) = some item := by
  induction ids using List.reverseRecOn with
  | nil => cases h
  | append_singleton init last ih =>
    rw [merged, List.foldl_append, List.foldl_cons, List.foldl_nil, Dict.get?_set]
    split_ifs with htext
    · rw [uuidText_injective htext]
    · rcases List.mem_append.1 h with hinit | hlast
      · exact ih hinit
      · exact absurd (congrArg texts.uuidText (List.mem_singleton.1 hlast)) htext

/-- an id that is there already does not change what is merged -/
theorem merged_append_singleton {ids : List UUID} {item : UUID} (h : item ∈ ids) :
    merged texts (ids ++ [item]) = merged texts ids := by
  rw [merged, List.foldl_append, List.foldl_cons, List.foldl_nil]
  exact Dict.set_get? (merged_get? h)

theorem mem_of_mapM {α β : Type} {f : α → Except String β} {items : List α} {results : List β}
    (h : items.mapM f = .ok results) {a : α} (ha : a ∈ items) {b : β} (hb : f a = .ok b) : b ∈ results := by
  induction items generalizing results with
  | nil => cases ha
  | cons x rest ih =>
    rw [List.mapM_cons] at h
    cases hx : f x with
    | error message =>
      rw [hx] at h
      cases h
    | ok y =>
      cases hrest : rest.mapM f with
      | error message =>
        rw [hx, hrest] at h
        cases h
      | ok ys =>
        rw [hx, hrest] at h
        obtain rfl : y :: ys = results := Except.ok.inj h
        rcases List.mem_cons.1 ha with rfl | hmem
        · rw [hx] at hb
          exact Except.ok.inj hb ▸ List.mem_cons_self
        · exact List.mem_cons_of_mem _ (ih hrest hmem)

/-- a record that can be loaded is listed -/
theorem mem_listRequestIds {db : Database schema} {ids : List UUID} (hids : listRequestIds texts db = .ok ids)
    {requestId : UUID} {row : ExecutionRecordRow} (hrow : (recordTable db).row? (texts.uuidText requestId) = some row) :
    requestId ∈ ids := by
  obtain ⟨hmem, hkey⟩ := Table.row?_eq_some.1 hrow
  refine mem_of_mapM hids ((Core.sortOn_perm _ _).mem_iff.2 hmem) ?_
  rw [hkey, PyValue.asUuid_uuidText]

/-- caching a record that the store returns anyway does not show -/
theorem sameAnswers_cached {record : RequestExecutionRecord} (h : Returned texts s record) :
    SameAnswers texts s { s with cache := s.cache.set record.requestId record } := by
  unfold Returned DurableExecutionRecordStore.get at h
  cases hcached : s.cache.get? record.requestId with
  | some cached =>
    rw [hcached] at h
    obtain rfl : cached = record := Option.some.inj (Except.ok.inj h)
    rw [Dict.set_get? hcached]
    exact ⟨fun _ => rfl, rfl⟩
  | none =>
    rw [hcached] at h
    dsimp only at h
    cases hloaded : getRecord texts s.connection.working record.requestId with
    | error message => simp only [hloaded] at h; cases h
    | ok found =>
      obtain rfl : found = some record := by
        cases found with
        | none => simp only [hloaded] at h; cases h
        | some loaded =>
          simp only [hloaded] at h
          exact Except.ok.inj h
      refine ⟨fun requestId => ?_, ?_⟩
      · unfold DurableExecutionRecordStore.get
        rw [Dict.get?_set]
        split_ifs with hid
        · rw [hid, hcached]
          dsimp only
          rw [hloaded]
        · cases s.cache.get? requestId with
          | some cached => rfl
          | none =>
            dsimp only
            cases getRecord texts s.connection.working requestId with
            | error message => rfl
            | ok found => cases found <;> rfl
      · unfold DurableExecutionRecordStore.listRequestIds
        cases hids : Persistence.listRequestIds texts s.connection.working with
        | error message => rfl
        | ok ids =>
          have hmem : record.requestId ∈ ids := by
            unfold getRecord at hloaded
            cases hrow : (recordTable s.connection.working).row? (texts.uuidText record.requestId) with
            | none => rw [hrow] at hloaded; cases hloaded
            | some row => exact mem_listRequestIds hids hrow
          rw [ok_bind, ok_bind, Dict.keys_set_of_none hcached, ← List.append_assoc,
            merged_append_singleton (List.mem_append_left _ hmem)]

theorem put_raised_iff (h : Sound texts s) (hraised : (s.put texts call fault).2 = false) :
    SameAnswers texts s (s.put texts call fault).1 ↔ Returned texts s call.record := by
  rcases put_cases texts s call fault with hput | ⟨db, hput, -⟩
  · have hconnection : s.connection.reopened = s.connection := by
      obtain ⟨cache, committed, working⟩ := s
      obtain rfl : working = committed := h.settled
      rfl
    rw [hput, hconnection]
    constructor
    · intro hsame
      unfold Returned
      rw [← hsame.get]
      unfold DurableExecutionRecordStore.get
      rw [Dict.get?_set_self]
    · intro hreturned
      exact sameAnswers_cached hreturned
  · rw [hput] at hraised
    cases hraised

/-! ## Runs whose raising puts are of records that are there -/

/-- what is cached is held, under its own id -/
def Backed (texts : Texts) (s : DurableExecutionRecordStore) : Prop :=
  ∀ requestId record, s.cache.get? requestId = some record →
    record.requestId = requestId ∧ Held texts s.connection.committed record

theorem loaded_held {db : Database schema} (h : Written texts db) {requestId : UUID} {record : RequestExecutionRecord}
    (hloaded : getRecord texts db requestId = .ok (some record)) :
      record.requestId = requestId ∧ Held texts db record := by
  unfold getRecord at hloaded
  cases hrow : (recordTable db).row? (texts.uuidText requestId) with
  | none => rw [hrow] at hloaded; cases hloaded
  | some row =>
    rw [hrow] at hloaded
    dsimp only at hloaded
    obtain ⟨hmem, hkey⟩ := Table.row?_eq_some.1 hrow
    obtain ⟨written, rfl⟩ := h row hmem
    have hid : written.requestId = requestId := uuidText_injective hkey
    have hjson : (executionRecordRow texts written).recordJson =
        PyDict.normalise texts (executionRecordToDict texts written) := by simp only [executionRecordRow]
    rw [hjson] at hloaded
    have hdecode : executionRecordFromDict texts (PyDict.normalise texts (executionRecordToDict texts written)) =
        .ok record := by
      cases hread : executionRecordFromDict texts (PyDict.normalise texts (executionRecordToDict texts written)) with
      | error message => rw [hread] at hloaded; cases hloaded
      | ok found =>
        rw [hread] at hloaded
        exact congrArg Except.ok (Option.some.inj (Except.ok.inj hloaded))
    have hnormal : record = normaliseRecord texts written := by
      by_cases hplain : written.completion = none ∧ written.streamMetrics = none
      · rw [decode_encode written hplain.1 hplain.2] at hdecode
        exact (Except.ok.inj hdecode).symm
      · rw [not_and_or] at hplain
        obtain ⟨message, hrefused⟩ := @decode_dressed texts written hplain
        rw [hrefused] at hdecode
        cases hdecode
    have hown : record.requestId = requestId := by
      rw [hnormal]
      exact hid
    exact ⟨hown, _, by rw [hown]; exact hrow, Or.inr (by rw [hjson]; exact hdecode)⟩

theorem returned_held (h : Sound texts s) (hb : Backed texts s) {requestId : UUID} {record : RequestExecutionRecord}
    (hget : (s.get texts requestId).1 = .ok (some record)) :
    record.requestId = requestId ∧ Held texts s.connection.committed record := by
  unfold DurableExecutionRecordStore.get at hget
  cases hcached : s.cache.get? requestId with
  | some cached =>
    rw [hcached] at hget
    obtain rfl : cached = record := Option.some.inj (Except.ok.inj hget)
    exact hb requestId cached hcached
  | none =>
    rw [hcached, h.settled] at hget
    dsimp only at hget
    cases hloaded : getRecord texts s.connection.committed requestId with
    | error message => simp only [hloaded] at hget; cases hget
    | ok found =>
      cases found with
      | none => simp only [hloaded] at hget; cases hget
      | some loaded =>
        simp only [hloaded] at hget
        obtain rfl : loaded = record := Option.some.inj (Except.ok.inj hget)
        exact loaded_held h.written hloaded

/-- a held record may be cached -/
theorem Backed.cached (hb : Backed texts s) {record : RequestExecutionRecord}
    (hheld : Held texts s.connection.committed record) :
    Backed texts { s with cache := s.cache.set record.requestId record } := by
  intro requestId found hfound
  dsimp only at hfound
  rw [Dict.get?_set] at hfound
  split_ifs at hfound with hid
  · obtain rfl := Option.some.inj hfound
    exact ⟨hid.symm, hheld⟩
  · exact hb requestId found hfound

theorem recoverRecords_backed (h : Sound texts s) (hb : Backed texts s) (count : ℕ) (ids : List UUID) :
    Backed texts (s.recoverRecords texts count ids).2 := by
  induction ids generalizing s count with
  | nil => exact hb
  | cons requestId rest ih =>
    unfold recoverRecords
    cases hloaded : getRecord texts s.connection.working requestId with
    | error message => exact hb
    | ok found =>
      cases found with
      | none => exact ih h hb count
      | some record =>
        rw [h.settled] at hloaded
        let s' : DurableExecutionRecordStore := { s with cache := s.cache.set record.requestId record }
        have hsound : Sound texts s' := ⟨h.settled, h.written⟩
        exact ih hsound (hb.cached (loaded_held h.written hloaded).2) (count + 1)

/-- a put that returns replaces one row -/
theorem Backed.put (hb : Backed texts s) {db : Database schema} {record : RequestExecutionRecord}
    (hdb : recordTable db = (recordTable s.connection.committed).replace (executionRecordRow texts record)) :
    Backed texts ⟨s.cache.set record.requestId record, .opened db⟩ := by
  have hrow : ∀ requestId, (recordTable db).row? (texts.uuidText requestId) =
      if requestId = record.requestId then some (executionRecordRow texts record)
      else (recordTable s.connection.committed).row? (texts.uuidText requestId) := by
    intro requestId
    rw [hdb, Table.row?_replace]
    by_cases hid : requestId = record.requestId
    · rw [if_pos hid, if_pos (by rw [hid]; rfl)]
    · have htext : texts.uuidText requestId ≠ (executionRecordRow texts record).requestId :=
        fun h => hid (uuidText_injective h)
      rw [if_neg hid, if_neg htext]
  intro requestId found hfound
  dsimp only at hfound
  rw [Dict.get?_set] at hfound
  split_ifs at hfound with hid
  · obtain rfl := Option.some.inj hfound
    exact ⟨hid.symm, _, (hrow record.requestId).trans (if_pos rfl), Or.inl rfl⟩
  · obtain ⟨hown, row, hold, hheld⟩ := hb requestId found hfound
    refine ⟨hown, row, ?_, hheld⟩
    rw [← hold]
    exact (hrow found.requestId).trans (if_neg (hown ▸ hid))

theorem backed_step (h : Sound texts s) (hb : Backed texts s) {o : StoreOp} (ho : KeepsOnRaise texts s o) :
    Backed texts (storeStep texts s o) := by
  cases o with
  | put call fault =>
    unfold storeStep
    dsimp only
    rcases put_cases texts s call fault with hput | ⟨db, hput, hdb⟩
    · have hreturned : Returned texts s call.record := ho (by rw [hput])
      rw [hput]
      exact hb.cached (returned_held h hb hreturned).2
    · rw [hput]
      rw [h.settled] at hdb
      exact hb.put hdb
  | get requestId =>
    unfold storeStep
    dsimp only
    unfold DurableExecutionRecordStore.get
    cases s.cache.get? requestId with
    | some cached => exact hb
    | none =>
      dsimp only
      cases hloaded : getRecord texts s.connection.working requestId with
      | error message => exact hb
      | ok found =>
        cases found with
        | none => exact hb
        | some record =>
          rw [h.settled] at hloaded
          exact hb.cached (loaded_held h.written hloaded).2
  | listRequestIds => exact hb
  | recover =>
    unfold storeStep
    dsimp only
    unfold recover
    cases Persistence.listRequestIds texts s.connection.working with
    | error message => exact hb
    | ok ids => exact recoverRecords_backed h hb 0 ids
  | restart => exact fun _ _ hcached => by cases hcached

/-- after any run, a put that raises leaves the answers as they were exactly when its record was returned already; and
if all raising puts of the run are so, what the store returns is in the tables -/
theorem put_atomic_iff (texts : Texts) (ops : List StoreOp) :
    let s := run (storeStep texts) init ops
    (∀ call fault, (s.put texts call fault).2 = false →
      (SameAnswers texts s (s.put texts call fault).1 ↔ Returned texts s call.record)) ∧
      (Meets (storeStep texts) (KeepsOnRaise texts) init ops → ∀ requestId record,
        (s.get texts requestId).1 = .ok (some record) → Held texts s.connection.committed record) := by
  intro s
  refine ⟨fun call fault hraised => put_raised_iff (run_sound texts ops) hraised, fun hops requestId record hget => ?_⟩
  have hinv : Sound texts s ∧ Backed texts s := by
    refine hops.run_inv (I := fun s => Sound texts s ∧ Backed texts s) ?_
      ⟨sound_init, fun _ _ hcached => by cases hcached⟩
    intro s o ⟨hsound, hbacked⟩ ho
    exact ⟨sound_step hsound o, backed_step hsound hbacked ho⟩
  exact (returned_held hinv.1 hinv.2 hget).2

/-! ## Two puts of one id -/

def sampleRecord (capturedAt : Time) : RequestExecutionRecord :=
  { requestId := 1, correlationId := "corr", capturedAt, payload := ⟨[], []⟩,
    lifecycleTransitions := [], queueEvents := []
    schedulerEvents := [], batchEvents := [], backendEvents := [], failures := []
    terminalOutcome := { state := "completed" }, eventTimeline := [] }

def sampleCall (capturedAt : Time) : PersistCall := { record := sampleRecord capturedAt, firstFailureId := 0 }

/-- the same record again, which raises -/
theorem put_atomic_iff_again :
    Held sampleTexts (run (storeStep sampleTexts) init
      [.put (sampleCall 0) none, .put (sampleCall 0) (some 0)]).connection.committed
      (sampleRecord 0) :=
  have hops : Meets (storeStep sampleTexts) (KeepsOnRaise sampleTexts) init
      [.put (sampleCall 0) none, .put (sampleCall 0) (some 0)] :=
    ⟨fun h => absurd h (by decide), fun _ => rfl, trivial⟩
  (put_atomic_iff sampleTexts [.put (sampleCall 0) none, .put (sampleCall 0) (some 0)]).2 hops 1 (sampleRecord 0) rfl

/-- another record, which raises: the store returns it, the tables keep the old one, and so does the store after a
restart -/
theorem put_diverges :
    let s := (init.put sampleTexts (sampleCall 0) none).1
    let (s', returns) := s.put sampleTexts (sampleCall 1) (some 0)
    returns = false ∧ (s.get sampleTexts 1).1 = .ok (some (sampleRecord 0)) ∧
      (s'.get sampleTexts 1).1 = .ok (some (sampleRecord 1)) ∧
      (s'.restart.get sampleTexts 1).1 = .ok (some (normaliseRecord sampleTexts (sampleRecord 0))) ∧
      ¬SameAnswers sampleTexts s s' ∧ ¬Held sampleTexts s'.connection.committed (sampleRecord 1) := by
  intro s
  have hdecode := @decode_encode sampleTexts (sampleRecord 0) rfl rfl
  have hrow : (recordTable s.connection.committed).row? (sampleTexts.uuidText 1) =
      some (executionRecordRow sampleTexts (sampleRecord 0)) := rfl
  have hne : ∀ record : RequestExecutionRecord, record.capturedAt = 0 → record ≠ sampleRecord 1 := by
    rintro record hzero rfl
    cases hzero
  refine ⟨rfl, rfl, rfl, ?_, fun hsame => ?_, ?_⟩
  · have hload : getRecord sampleTexts s.connection.committed 1 =
        .ok (some (normaliseRecord sampleTexts (sampleRecord 0))) := by
      unfold getRecord
      rw [hrow]
      simp only [executionRecordRow, hdecode]
      rfl
    change (DurableExecutionRecordStore.get sampleTexts ⟨.empty, .opened s.connection.committed⟩ 1).1 = _
    unfold DurableExecutionRecordStore.get
    rw [Dict.get?_empty]
    simp only [Connection.opened, hload]
  · have hget : (Except.ok (some (sampleRecord 1)) : Except String (Option RequestExecutionRecord)) =
        .ok (some (sampleRecord 0)) := hsame.get 1
    exact hne (sampleRecord 0) rfl (Option.some.inj (Except.ok.inj hget)).symm
  · rintro ⟨row, hfound, hsame | hread⟩
    · obtain rfl := Option.some.inj (hrow.symm.trans hfound)
      have htext : sampleTexts.isoformat 0 = sampleTexts.isoformat 1 := congrArg ExecutionRecordRow.capturedAt hsame
      have hparse := congrArg sampleTexts.fromisoformat htext
      rw [Texts.fromisoformat_isoformat, Texts.fromisoformat_isoformat] at hparse
      cases hparse
    · obtain rfl := Option.some.inj (hrow.symm.trans hfound)
      have hsame := hdecode.symm.trans hread
      exact hne _ rfl (Except.ok.inj hsame)

end InferencePlatform.Persistence
