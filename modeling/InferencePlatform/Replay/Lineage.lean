/-
Where the requests of replays come from: replays of replays, records that are read back, and restarts.

A replay captures its own execution, so its record can be replayed in turn, out of the cache or out of the tables. A
replay has its own ids only, and nothing else of a request changes on the way; `Descends` keeps this of every record in
the cache and in the tables, committed or not, and of every execution that is under way. An original is a submit that
was captured from an entry, or built of a payload or a record that the caller of a replay hands over.

- `replays_descend`: what a replay hands to its execution, and what any record of the store will hand over, is an
  original request under the replay's ids.
-/
import InferencePlatform.Replay.Engine

namespace InferencePlatform.Replay

open InferencePlatform.Core (Dict Meets run)
open InferencePlatform.Core.Sql
open InferencePlatform.Persistence
  (PyValue PyDict Texts DurableExecutionRecordStore PersistCall RepositoryOp recordTable
  executionRecordRow normaliseRecord)
open InferencePlatform.Observability
open ReplayEngine

/-! ## Originals -/

/-- the submits that an operation brings in -/
def ReplayOp.Brings (texts : Texts) (submit : SubmitRequest) : ReplayOp → Prop
  | .captureFromEntry entry _ => submit = entry.submit
  | .replayRequest (.record record) replayId _ =>
    submitFromPayload texts (clonePayloadForReplay texts record.payload replayId) = .ok submit
  | .replayRequest (.payload payload) replayId _ =>
    submitFromPayload texts (clonePayloadForReplay texts payload replayId) = .ok submit
  | _ => False

def Original (texts : Texts) (ops : List ReplayOp) (submit : SubmitRequest) : Prop := ∃ op ∈ ops, op.Brings texts submit

/-- an execution returns the entry of the submit that it was handed -/
def Faithful (s : ReplayEngine) : ReplayOp → Prop
  | .returned place entry _ => ∀ r, s.underway[place]? = some r → entry.submit = r.submit
  | _ => True

variable {texts : Texts} {O : SubmitRequest → Prop} {record : RequestExecutionRecord} {submit : SubmitRequest}

/-- the record is of an original, or of a replay of one under the record's own id -/
def IsOf (texts : Texts) (O : SubmitRequest → Prop) (record : RequestExecutionRecord) (submit : SubmitRequest) : Prop :=
  O submit ∧ record.replayId = none ∧ record.requestId = submit.inferenceRequest.requestId ∧
      record.sourceRequestId = some record.requestId ∨
    ∃ original, O original ∧ record.replayId = some record.requestId ∧
      submit = original.replayedAs texts record.requestId

/-- a row is written for a record with the payload of its submit -/
def Traced (texts : Texts) (O : SubmitRequest → Prop) (db : Database Persistence.schema) : Prop :=
  ∀ row ∈ (recordTable db).rows, ∃ record submit,
    row = executionRecordRow texts record ∧ record.payload = .fromSubmit submit ∧ IsOf texts O record submit

/-- a record shows its submit, as it was captured or as it is read back -/
def ShowsOf (texts : Texts) (O : SubmitRequest → Prop) (record : RequestExecutionRecord) : Prop :=
  ∃ submit stored, IsOf texts O record submit ∧
    Shows texts stored record.payload.inferenceRequest submit.inferenceRequest.modelDump ∧
    Shows texts stored record.payload.requestContext submit.requestContext.modelDump

structure StoreDescends (texts : Texts) (O : SubmitRequest → Prop) (store : DurableExecutionRecordStore) : Prop where
  cached : ∀ requestId record, store.cache.get? requestId = some record →
    record.requestId = requestId ∧ ShowsOf texts O record
  committed : Traced texts O store.connection.committed
  working : Traced texts O store.connection.working

structure Descends (texts : Texts) (O : SubmitRequest → Prop) (s : ReplayEngine) : Prop where
  store : StoreDescends texts O s.executionStore
  underway : ∀ r ∈ s.underway, ∃ original, O original ∧ r.submit = original.replayedAs texts r.request.replayId

/-! ## Payloads -/

/-- whatever its record is replayed as, it is an original under that id -/
theorem ShowsOf.replays (h : ShowsOf texts O record) :
    ∃ original, O original ∧ ∀ replayId,
      submitFromPayload texts (clonePayloadForReplay texts record.payload replayId) =
        .ok (original.replayedAs texts replayId) := by
  obtain ⟨submit, stored, hof, hrequest, hcontext⟩ := h
  have hrebuilt := submit_rebuilt hrequest hcontext
  rcases hof with ⟨horiginal, -⟩ | ⟨original, horiginal, -, rfl⟩
  · exact ⟨submit, horiginal, hrebuilt⟩
  · exact ⟨original, horiginal, hrebuilt⟩

theorem bind_eq_ok {α β ε : Type} {x : Except ε α} {f : α → Except ε β} {b : β} :
    (x >>= f) = .ok b ↔ ∃ a, x = .ok a ∧ f a = .ok b := by
  cases x <;> simp [bind, Except.bind]

theorem coerceItem_get? {key other : String} {coerce : PyValue → Except String PyValue} {data data' : PyDict}
    (h : coerceItem key coerce data = .ok data') (hne : other ≠ key) :
      PyDict.get? data' other = PyDict.get? data other := by
  unfold coerceItem at h
  split at h
  · rw [← Except.ok.inj h]
  · obtain ⟨v, -, hset⟩ := bind_eq_ok.1 h
    rw [← Except.ok.inj hset, get?_setItem, if_neg hne]

theorem coerceItem_uuid {data data' : PyDict} {u : UUID} (hget : PyDict.get? data "request_id" = some (.uuid u))
    (h : coerceItem "request_id" (coerceUuid texts) data = .ok data') :
    PyDict.get? data' "request_id" = some (.uuid u) ∧
      ∀ other ≠ "request_id", PyDict.get? data' other = PyDict.get? data other := by
  rw [coerceItem_some hget (coerceUuid_uuid texts u)] at h
  rw [← Except.ok.inj h]
  refine ⟨by rw [get?_setItem, if_pos rfl], fun other hne => ?_⟩
  rw [get?_setItem, if_neg hne]

theorem field_uuid {data : PyDict} {u u' : UUID} (hget : PyDict.get? data "request_id" = some (.uuid u))
    (h : field data "request_id" readUuid = .ok u') : u' = u := by
  rw [field_ok hget (rfl : readUuid (.uuid u) = .ok u)] at h
  exact (Except.ok.inj h).symm

theorem field_nonEmpty {data : PyDict} {key s : String} {t : NonEmptyString}
    (hget : PyDict.get? data key = some (.str s)) (h : field data key readNonEmpty = .ok t) : t.1 = s := by
  unfold field at h
  rw [hget] at h
  simp only [readNonEmpty, readStr, check, bind, Except.bind] at h
  split_ifs at h
  exact congrArg Subtype.val (Except.ok.inj h).symm

/-- the id of a validated request is what is found under its key -/
theorem requestId_of_validate {data : PyDict} {request : InferenceRequest} {u : UUID}
    (hget : PyDict.get? data "request_id" = some (.uuid u)) (h : InferenceRequest.modelValidate data = .ok request) :
    request.requestId = u := by
  obtain ⟨-, -, h⟩ := bind_eq_ok.1 h
  obtain ⟨requestId, hid, h⟩ := bind_eq_ok.1 h
  simp only [bind_eq_ok] at h
  obtain ⟨_, -, _, -, _, -, _, -, _, -, _, -, _, -, _, -, _, -, h⟩ := h
  rw [← Except.ok.inj h]
  exact field_uuid hget hid

theorem ids_of_validate {data : PyDict} {context : RequestContext} {u : UUID} {traceId spanId : String}
    (hid : PyDict.get? data "request_id" = some (.uuid u)) (htrace : PyDict.get? data "trace_id" = some (.str traceId))
    (hspan : PyDict.get? data "span_id" = some (.str spanId)) (h : RequestContext.modelValidate data = .ok context) :
    context.requestId = u ∧ context.traceId.1 = traceId ∧ context.spanId.1 = spanId := by
  obtain ⟨-, -, h⟩ := bind_eq_ok.1 h
  obtain ⟨requestId, hfirst, h⟩ := bind_eq_ok.1 h
  obtain ⟨trace, hsecond, h⟩ := bind_eq_ok.1 h
  obtain ⟨span, hthird, h⟩ := bind_eq_ok.1 h
  simp only [bind_eq_ok] at h
  obtain ⟨_, -, _, -, _, -, _, -, h⟩ := h
  rw [← Except.ok.inj h]
  exact ⟨field_uuid hid hfirst, field_nonEmpty htrace hsecond, field_nonEmpty hspan hthird⟩

/-- what is built of a payload that was cloned for a replay has the replay's ids -/
theorem built_replayedAs {payload : RequestPayloadSnapshot} {replayId : UUID}
    (h : submitFromPayload texts (clonePayloadForReplay texts payload replayId) = .ok submit) :
    submit = submit.replayedAs texts replayId := by
  obtain ⟨normalized, hnormalized, h⟩ := bind_eq_ok.1 h
  obtain ⟨request, hrequest, h⟩ := bind_eq_ok.1 h
  obtain ⟨context, hcontext, h⟩ := bind_eq_ok.1 h
  obtain rfl := Except.ok.inj h
  obtain ⟨data, hdata, hnormalized⟩ := bind_eq_ok.1 hnormalized
  obtain ⟨data', hdata', hnormalized⟩ := bind_eq_ok.1 hnormalized
  obtain rfl := Except.ok.inj hnormalized
  have hid : request.requestId = replayId := by
    obtain ⟨data₁, h₁, hdata⟩ := bind_eq_ok.1 hdata
    obtain ⟨data₂, h₂, h₃⟩ := bind_eq_ok.1 hdata
    have hcloned : PyDict.get? (clonePayloadForReplay texts payload replayId).inferenceRequest "request_id" =
        some (.uuid replayId) := by simp [clonePayloadForReplay]
    refine requestId_of_validate ?_ hrequest
    rw [coerceItem_get? h₃ (by decide), coerceItem_get? h₂ (by decide)]
    exact (coerceItem_uuid hcloned h₁).1
  have hids : context.requestId = replayId ∧ context.traceId.1 = replayTraceId texts replayId ∧
      context.spanId.1 = replaySpanId texts replayId := by
    obtain ⟨data₁, h₁, h₂⟩ := bind_eq_ok.1 hdata'
    have hcloned : PyDict.get? (clonePayloadForReplay texts payload replayId).requestContext "request_id" =
        some (.uuid replayId) := by simp [clonePayloadForReplay]
    obtain ⟨hfirst, hothers⟩ := coerceItem_uuid hcloned h₁
    refine ids_of_validate ?_ ?_ ?_ hcontext
    · rw [coerceItem_get? h₂ (by decide)]
      exact hfirst
    · rw [coerceItem_get? h₂ (by decide), hothers _ (by decide)]
      simp [clonePayloadForReplay]
    · rw [coerceItem_get? h₂ (by decide), hothers _ (by decide)]
      simp [clonePayloadForReplay]
  obtain ⟨requestId, traceId, spanId, arrivalTime, model, stream, gatewayInstanceId⟩ := context
  obtain ⟨hcontextId, htrace, hspan⟩ := hids
  have htrace' : traceId = ⟨replayTraceId texts replayId, replayTraceId_ne replayId⟩ := Subtype.ext htrace
  have hspan' : spanId = ⟨replaySpanId texts replayId, replaySpanId_ne replayId⟩ := Subtype.ext hspan
  unfold SubmitRequest.replayedAs RequestContext.replayedAs
  rw [SubmitRequest.mk.injEq, RequestContext.mk.injEq]
  refine ⟨?_, hcontextId, htrace', hspan', rfl, rfl, rfl, rfl⟩
  rw [← hid]

/-! ## What the store keeps -/

theorem IsOf.normalise (h : IsOf texts O record submit) : IsOf texts O (normaliseRecord texts record) submit := h

/-- a captured record shows its submit -/
theorem showsOf_fromSubmit (hpayload : record.payload = .fromSubmit submit) (h : IsOf texts O record submit) :
    ShowsOf texts O record := by
  refine ⟨submit, false, h, ?_, ?_⟩
  · rw [hpayload]
    exact shows_dump texts _
  · rw [hpayload]
    exact shows_dump texts _

/-- and so does the record that is read back -/
theorem showsOf_normalise (hpayload : record.payload = .fromSubmit submit) (h : IsOf texts O record submit) :
    ShowsOf texts O (normaliseRecord texts record) := by
  refine ⟨submit, true, h.normalise, ?_, ?_⟩
  · rw [normaliseRecord, hpayload]
    exact shows_normalise texts _
  · rw [normaliseRecord, hpayload]
    exact shows_normalise texts _

variable {store : DurableExecutionRecordStore} {db : Database Persistence.schema}

theorem Traced.loaded (h : Traced texts O db) {requestId : UUID}
    (hloaded : Persistence.getRecord texts db requestId = .ok (some record)) :
    record.requestId = requestId ∧ ShowsOf texts O record := by
  unfold Persistence.getRecord at hloaded
  split at hloaded
  · cases hloaded
  · next row hrow =>
    obtain ⟨hmem, hkey⟩ := Table.row?_eq_some.1 hrow
    obtain ⟨written, submit, rfl, hpayload, hof⟩ := h row hmem
    have hid : written.requestId = requestId := Persistence.uuidText_injective hkey
    have hread : Persistence.executionRecordFromDict texts
        (PyDict.normalise texts (Persistence.executionRecordToDict texts written)) = .ok record := by
      cases hdecode : Persistence.executionRecordFromDict texts
          (PyDict.normalise texts (Persistence.executionRecordToDict texts written)) with
      | error message =>
        simp only [executionRecordRow, hdecode] at hloaded
        cases hloaded
      | ok found =>
        simp only [executionRecordRow, hdecode] at hloaded
        exact congrArg Except.ok (Option.some.inj (Except.ok.inj hloaded))
    by_cases hplain : written.completion = none ∧ written.streamMetrics = none
    · rw [Persistence.decode_encode written hplain.1 hplain.2] at hread
      rw [← Except.ok.inj hread]
      exact ⟨hid, showsOf_normalise hpayload hof⟩
    · obtain ⟨message, hrefused⟩ := @Persistence.decode_dressed texts written (not_and_or.1 hplain)
      cases hrefused.symm.trans hread

theorem Traced.replace {db' : Database Persistence.schema} (h : Traced texts O db)
    (hdb : recordTable db' = (recordTable db).replace (executionRecordRow texts record))
    (hpayload : record.payload = .fromSubmit submit) (hof : IsOf texts O record submit) : Traced texts O db' := by
  intro row hrow
  rw [hdb, Table.rows_replace, List.mem_append, List.mem_singleton, List.mem_filter] at hrow
  rcases hrow with ⟨hold, -⟩ | rfl
  · exact h row hold
  · exact ⟨record, submit, rfl, hpayload, hof⟩

/-- a record of the store's may be cached -/
theorem StoreDescends.cache (h : StoreDescends texts O store) (hrecord : ShowsOf texts O record)
    {c : Connection Persistence.schema} (hcommitted : Traced texts O c.committed)
    (hworking : Traced texts O c.working) :
    StoreDescends texts O ⟨store.cache.set record.requestId record, c⟩ := by
  refine ⟨fun requestId found hfound => ?_, hcommitted, hworking⟩
  dsimp only at hfound
  rw [Dict.get?_set] at hfound
  split_ifs at hfound with hid
  · obtain rfl := Option.some.inj hfound
    exact ⟨hid.symm, hrecord⟩
  · exact h.cached requestId found hfound

theorem StoreDescends.storeRecord (h : StoreDescends texts O store) (durable : Bool) (record : RequestExecutionRecord)
    (round : CaptureRound) (hpayload : record.payload = .fromSubmit submit) (hof : IsOf texts O record submit) :
    StoreDescends texts O (storeRecord durable texts store record round).1 := by
  have hshows := showsOf_fromSubmit hpayload hof
  unfold Replay.storeRecord
  split_ifs
  · have hcases := Persistence.put_cases texts store
      ⟨record, (round.inspector.timeline record.requestId round.now).map (·, round.stageDurationsMs),
        round.firstFailureId⟩
      round.fault
    rcases hcases with hput | ⟨db, hput, hdb⟩
    · rw [hput]
      exact h.cache hshows h.committed h.committed
    · rw [hput]
      have hwritten := h.working.replace hdb hpayload hof
      exact h.cache hshows hwritten hwritten
  · exact h.cache hshows h.committed h.working

/-- writes to other tables -/
theorem StoreDescends.perform (h : StoreDescends texts O store) (op : Operation Persistence.schema) (fault : Option ℕ)
    (hop : Untouched (S := Persistence.schema) Persistence.TableName.executionRecords op.body) :
    StoreDescends texts O { store with connection := (store.connection.perform op fault).1 } := by
  obtain ⟨hworking, hcommitted⟩ := perform_untouched hop store.connection fault
  refine ⟨h.cached, ?_, ?_⟩
  · unfold Traced recordTable
    rcases hcommitted with heq | heq
    · rw [heq]
      exact h.committed
    · rw [heq]
      exact h.working
  · unfold Traced recordTable
    rcases hworking with heq | heq
    · rw [heq]
      exact h.working
    · rw [heq]
      exact h.committed

/-- what the store returns, and the store with it in its cache -/
theorem StoreDescends.get (h : StoreDescends texts O store) (requestId : UUID) :
    StoreDescends texts O (store.get texts requestId).2 ∧
      ∀ record, (store.get texts requestId).1 = .ok (some record) →
        record.requestId = requestId ∧ ShowsOf texts O record := by
  unfold DurableExecutionRecordStore.get
  cases hcached : store.cache.get? requestId with
  | some cached =>
    refine ⟨h, fun record hrecord => ?_⟩
    obtain rfl := Option.some.inj (Except.ok.inj hrecord)
    exact h.cached requestId cached hcached
  | none =>
    dsimp only
    cases hloaded : Persistence.getRecord texts store.connection.working requestId with
    | error message => exact ⟨h, fun record hrecord => by cases hrecord⟩
    | ok found =>
      cases found with
      | none => exact ⟨h, fun record hrecord => by cases hrecord⟩
      | some loaded =>
        have hshows := h.working.loaded hloaded
        refine ⟨h.cache hshows.2 h.committed h.working, fun record hrecord => ?_⟩
        obtain rfl := Option.some.inj (Except.ok.inj hrecord)
        exact hshows

theorem StoreDescends.recoverRecords (h : StoreDescends texts O store) (count : ℕ) (ids : List UUID) :
    StoreDescends texts O (store.recoverRecords texts count ids).2 := by
  induction ids generalizing store count with
  | nil => exact h
  | cons requestId rest ih =>
    unfold DurableExecutionRecordStore.recoverRecords
    cases hloaded : Persistence.getRecord texts store.connection.working requestId with
    | error message => exact h
    | ok found =>
      cases found with
      | none => exact ih h count
      | some loaded => exact ih (h.cache (h.working.loaded hloaded).2 h.committed h.working) (count + 1)

theorem StoreDescends.recover (h : StoreDescends texts O store) : StoreDescends texts O (store.recover texts).2 := by
  unfold DurableExecutionRecordStore.recover
  split
  · exact h
  · exact h.recoverRecords 0 _

theorem StoreDescends.restart (h : StoreDescends texts O store) : StoreDescends texts O store.restart :=
  ⟨fun _ _ hcached => (by cases hcached), h.committed, h.committed⟩

theorem StoreDescends.persistResult (h : StoreDescends texts O store) (durable : Bool) (result : ReplayResult)
    (startedAt completedAt : Time) (fault : Option ℕ) :
    StoreDescends texts O (persistResult durable texts store result startedAt completedAt fault).1 := by
  unfold Replay.persistResult
  split_ifs
  · have hreplay : Untouched (S := Persistence.schema) Persistence.TableName.executionRecords
        (Persistence.saveReplay texts
        (Persistence.replayExecutionFromResult result.toReplayResult startedAt completedAt)) :=
      Persistence.untouched_of_confined (Persistence.saveReplay_confined _) (by decide)
    exact h.perform _ fault (hreplay.append fun _ hs => by cases hs)
  · exact h

theorem StoreDescends.persistComparison (h : StoreDescends texts O store) (durable : Bool)
    (comparison : ExecutionComparison) (comparisonId : UUID) (faults : Option ℕ × Option ℕ) :
    StoreDescends texts O (persistComparison durable texts store comparison comparisonId faults).1 := by
  unfold Replay.persistComparison
  split_ifs
  · have hsaved := h.perform
      ((RepositoryOp.saveComparison
        (Persistence.replayComparisonFromExecution comparison comparisonId)).operation texts)
      faults.1 (Persistence.untouched_of_confined (Persistence.saveComparison_confined _) (by decide))
    dsimp only
    split_ifs
    · exact hsaved.perform (RepositoryOp.commit.operation texts) faults.2 (fun _ hs => by cases hs)
    · exact hsaved
  · exact h

/-! ## Steps -/

variable {durable : Bool} {s : ReplayEngine} {request : ReplayRequest}

theorem descends_replay (h : Descends texts O s) (startedAt : Time)
    (hbuilt : ∀ submit,
      submitFromPayload texts (clonePayloadForReplay texts request.payload request.replayId) = .ok submit →
        ∃ original, O original ∧ submit = original.replayedAs texts request.replayId) :
    Descends texts O (s.replay texts request startedAt) := by
  unfold ReplayEngine.replay
  dsimp only
  split
  · exact ⟨h.store, h.underway⟩
  · next submit hsubmit =>
    refine ⟨h.store, fun r hr => ?_⟩
    rcases List.mem_append.1 hr with hold | hnew
    · exact h.underway r hold
    · rw [List.mem_singleton.1 hnew]
      exact hbuilt submit hsubmit

theorem descends_getExecutionRecord (h : Descends texts O s) (requestId : UUID) :
    Descends texts O (s.getExecutionRecord texts requestId).2 ∧
      ∀ record, (s.getExecutionRecord texts requestId).1 = .ok (some record) → ShowsOf texts O record :=
  ⟨⟨(h.store.get requestId).1, h.underway⟩, fun record hrecord => ((h.store.get requestId).2 record hrecord).2⟩

theorem descends_replayRequest (h : Descends texts O s) (source : ReplaySource) (replayId : UUID) (now : Time)
    (hbrings : ∀ submit, (ReplayOp.replayRequest source replayId now).Brings texts submit → O submit) :
    Descends texts O (s.replayRequest texts source replayId now) := by
  have hgiven : ∀ payload,
      (∀ submit, submitFromPayload texts (clonePayloadForReplay texts payload replayId) = .ok submit → O submit) →
        ∀ submit, submitFromPayload texts (clonePayloadForReplay texts payload replayId) = .ok submit →
          ∃ original, O original ∧ submit = original.replayedAs texts replayId :=
    fun payload hpayload submit hsubmit => ⟨submit, hpayload submit hsubmit, built_replayedAs hsubmit⟩
  cases source with
  | requestId requestId =>
    obtain ⟨hloaded, hshows⟩ := descends_getExecutionRecord h requestId
    unfold replayRequest
    dsimp only
    split
    · next record s' hfound =>
      rw [hfound] at hloaded hshows
      obtain ⟨original, horiginal, hreplays⟩ := (hshows record rfl).replays
      refine descends_replay hloaded now fun submit hsubmit => ⟨original, horiginal, ?_⟩
      exact Except.ok.inj (hsubmit.symm.trans (hreplays replayId))
    · next hfound =>
      rw [hfound] at hloaded
      exact hloaded
  | record record => exact descends_replay h now (hgiven record.payload hbrings)
  | payload payload => exact descends_replay h now (hgiven payload hbrings)

/-- the capture after a replay is of the submit that was handed over -/
theorem descends_resume (h : Descends texts O s) (r : Underway) (entry : Entry) (round : ResumeRound)
    (hr : ∃ original, O original ∧ r.submit = original.replayedAs texts r.request.replayId)
    (hentry : entry.submit = r.submit) :
    Descends texts O (s.resume durable texts r entry round) := by
  obtain ⟨original, horiginal, hsubmit⟩ := hr
  have hid : entry.submit.inferenceRequest.requestId = r.request.replayId := by rw [hentry, hsubmit]; rfl
  have hof : IsOf texts O (captureEntry texts entry round.capture none none r.request.sourceRequestId
      (some r.request.replayId))
      entry.submit := by
    refine .inr ⟨original, horiginal, congrArg some hid.symm, ?_⟩
    rw [hentry, hsubmit]
    exact congrArg (original.replayedAs texts) hid.symm
  have hstored := h.store.storeRecord durable _ round.capture rfl hof
  have hpersisted := fun result => hstored.persistResult durable result r.startedAt round.completedAt round.fault
  have hunderway : (s.conclude texts r.request entry (replayOutcomeFromState entry.state.value)).underway =
      s.underway :=
    (conclude_fields s r.request entry _).2.1
  rcases resume_cases durable texts s r entry round with hraised | hraised | ⟨-, hreturned⟩
  · rw [hraised]
    exact ⟨hstored, h.underway⟩
  · rw [hraised]
    refine ⟨hpersisted _, fun r' hr' => h.underway r' ?_⟩
    rw [← hunderway]
    exact hr'
  · rw [hreturned]
    refine ⟨hpersisted _, fun r' hr' => h.underway r' ?_⟩
    rw [← hunderway]
    exact hr'

theorem descends_compareExecution (h : Descends texts O s) (originalRequestId replayRequestId : UUID) (now : Time)
    (comparisonId : UUID) (faults : Option ℕ × Option ℕ) :
    Descends texts O (s.compareExecution durable texts originalRequestId replayRequestId now comparisonId faults) := by
  have hcompare : ∀ s : ReplayEngine, Descends texts O s → ∀ original replay,
      Descends texts O (s.compare durable texts original replay now comparisonId faults) := by
    intro s h original replay
    have hpersisted := fun comparison => h.store.persistComparison durable comparison comparisonId faults
    unfold ReplayEngine.compare
    dsimp only
    split_ifs
    · exact ⟨hpersisted _, h.underway⟩
    · exact ⟨hpersisted _, h.underway⟩
  have hfirst := (descends_getExecutionRecord h originalRequestId).1
  unfold compareExecution
  split
  · next hfound =>
    rw [hfound] at hfirst
    exact hfirst
  · next hfound =>
    rw [hfound] at hfirst
    have hsecond := (descends_getExecutionRecord hfirst replayRequestId).1
    split
    · next hfound' =>
      rw [hfound'] at hsecond
      exact hcompare _ hsecond _ _
    · next hfound' =>
      rw [hfound'] at hsecond
      exact hsecond

theorem Descends.without (h : Descends texts O s) (place : ℕ) : Descends texts O (without s place) :=
  ⟨h.store, fun r hr => h.underway r (List.mem_of_mem_eraseIdx hr)⟩

theorem descends_step {op : ReplayOp} (h : Descends texts O s) (hfaithful : Faithful s op)
    (hbrings : ∀ submit, op.Brings texts submit → O submit) : Descends texts O (s.step durable texts op) := by
  cases op with
  | captureFromEntry entry round =>
    refine ⟨h.store.storeRecord durable _ round rfl (.inl ⟨hbrings entry.submit rfl, rfl, rfl, rfl⟩), h.underway⟩
  | replayRequest source replayId now => exact descends_replayRequest h source replayId now hbrings
  | returned place entry round =>
    unfold ReplayEngine.step
    dsimp only
    split
    · exact h
    · next r hplace =>
      exact descends_resume (h.without place) r entry round (h.underway r (List.mem_of_getElem? hplace))
        (hfaithful r hplace)
  | raised place error =>
    unfold ReplayEngine.step
    dsimp only
    split
    · exact h
    · exact ⟨(h.without place).store, (h.without place).underway⟩
  | cancelled place => exact h.without place
  | getExecutionRecord requestId => exact (descends_getExecutionRecord h requestId).1
  | compareExecution originalRequestId replayRequestId now comparisonId faults =>
    exact descends_compareExecution h originalRequestId replayRequestId now comparisonId faults
  | recover => exact ⟨h.store.recover, h.underway⟩
  | restart => exact ⟨h.store.restart, fun r hr => by cases hr⟩

/-- **Replays do not drift.** Through replays of replays, restarts, puts that raise and records that are read back: what
a replay hands to its execution is an original request under the replay's id, and so is what a replay of any record that
the store returns will hand over, whatever id it gets. -/
theorem replays_descend (durable : Bool) (texts : Texts) {ops : List ReplayOp}
    (hfaithful : Meets (ReplayEngine.step durable texts) Faithful .init ops) :
    let s := run (ReplayEngine.step durable texts) .init ops
    (∀ r ∈ s.underway, ∃ submit, Original texts ops submit ∧ r.submit = submit.replayedAs texts r.request.replayId) ∧
      ∀ requestId record, (s.executionStore.get texts requestId).1 = .ok (some record) →
        record.requestId = requestId ∧ ∃ submit, Original texts ops submit ∧
          ∀ replayId, submitFromPayload texts (clonePayloadForReplay texts record.payload replayId) =
            .ok (submit.replayedAs texts replayId) := by
  intro s
  have hinit : Descends texts (Original texts ops) .init :=
    ⟨⟨fun _ _ hcached => (by cases hcached), fun _ hrow => (by cases hrow), fun _ hrow => (by cases hrow)⟩,
      fun _ hr => absurd hr List.not_mem_nil⟩
  have hbrings : Meets (ReplayEngine.step durable texts)
      (fun _ op => ∀ submit, op.Brings texts submit → Original texts ops submit) .init ops :=
    Meets.of_mem (A := fun op => ∀ submit, op.Brings texts submit → Original texts ops submit)
      (fun op hop submit hsubmit => ⟨op, hop, hsubmit⟩) _
  have hdescends : Descends texts (Original texts ops) s :=
    (hfaithful.and hbrings).run_inv (I := Descends texts (Original texts ops))
      (fun _ _ h ho => descends_step h ho.1 ho.2) hinit
  refine ⟨hdescends.underway, fun requestId record hrecord => ?_⟩
  obtain ⟨hid, hshows⟩ := (hdescends.store.get requestId).2 record hrecord
  exact ⟨hid, hshows.replays⟩

/-- the replay is replayed in turn, after a restart -/
def replayedTwice : List ReplayOp := servedReplay ++ [.restart, .replayRequest (.requestId 2) 3 5]

theorem replays_descend_twice :
    let s := run (ReplayEngine.step true Persistence.sampleTexts) .init replayedTwice
    s.underway.length = 1 ∧ ∀ r ∈ s.underway, ∃ submit, Original Persistence.sampleTexts replayedTwice submit ∧
      r.submit = submit.replayedAs Persistence.sampleTexts r.request.replayId := by
  have hhanded : ((run (ReplayEngine.step true Persistence.sampleTexts) .init (servedReplay.take 2)).underway[0]?).map
      Underway.submit = some (sampleSubmit.replayedAs Persistence.sampleTexts 2) := by decide +kernel
  refine ⟨by decide +kernel, ?_⟩
  refine (@replays_descend true Persistence.sampleTexts replayedTwice
    ⟨trivial, trivial, ?_, trivial, trivial, trivial⟩).1
  intro r hr
  exact Option.some.inj (hhanded.symm.trans (congrArg (Option.map Underway.submit) hr))

end InferencePlatform.Replay
