/-
Capturing one execution several times, with a repository whose events go to the store that captures are made from.

What is written for a record is reported: the request, its transitions, its decisions, its failures, the record and the
summary of its timeline, or a failure of the repository after some of these. Every such report is an event of the
request with the component of the control plane, so the next capture has it in its timeline, and the comparison looks at
all events of that component.
- `captures_differ`: no two captures of one execution match, whichever is compared with which.
- `completed_recaptured`: a completed request, captured twice.
-/
import InferencePlatform.Observability.Platform
import InferencePlatform.Replay.Capture

namespace InferencePlatform.Replay

open InferencePlatform.Core (Dict Meets run)
open InferencePlatform.Persistence (PyValue PyDict Texts)
open InferencePlatform.Observability

/-! ## What the repository emits -/

/-- what a capture meets: the results in the entry, the clock, the new ids, and whether the repository raises after some
writes -/
structure Round where
  completion : Option InferenceCompletionRecord := none
  streamMetrics : Option StreamingMetricsRecord := none
  sourceRequestId : Option UUID := none
  replayId : Option UUID := none
  now : Time
  clock : ℕ → Time
  failureId : ℕ → UUID
  raised : Option (ℕ × String) := none

variable (texts : Texts) (fromSubmit : InferencePlatform.SubmitRequest → RequestPayloadSnapshot)

/-- `PersistenceEventEmitter.emit` -/
def persistenceEvent (eventType : PersistenceEventType) (entityType : String) (entityId requestId : UUID)
    (extra : PyDict) (now : Time) : Emission :=
  .appended (.persistence eventType) requestId (texts.uuidText requestId)
    (merge [("entity_type", .str entityType), ("entity_id", .str (texts.uuidText entityId))] extra) now

/-- what is written for a record, in order: the kind of entity, its id, and the request that it belongs to -/
def persistWrites (record : RequestExecutionRecord) (timeline : Option TraceTimeline) (failureId : ℕ → UUID) :
    List (String × UUID × UUID) :=
  [("request", record.requestId, record.requestId), ("lifecycle", record.requestId, record.requestId)] ++
    (if record.schedulerEvents = [] then [] else [("scheduler_decision", record.requestId, record.requestId)]) ++
    (if record.batchEvents = [] then [] else [("batch_decision", record.requestId, record.requestId)]) ++
    (record.failures.zipIdx.map fun f => ("failure", failureId f.2, f.1.requestId)) ++
    [("execution_record", record.requestId, record.requestId)] ++
    timeline.toList.map fun timeline => ("trace_summary", timeline.requestId, timeline.requestId)

/-- `persist_execution_record`: a report after each write, and one of the failure if it raises -/
def persistExecutionRecord (record : RequestExecutionRecord) (timeline : Option TraceTimeline) (round : Round) :
    List Emission :=
  let writes := (persistWrites record timeline round.failureId).zipIdx.map fun w =>
    persistenceEvent texts .persistenceWrite w.1.1 w.1.2.1 w.1.2.2 [] (round.clock w.2)
  match round.raised with
  | none => writes
  | some (done, error) =>
    writes.take done ++
      [persistenceEvent texts .persistenceFailure "execution_record" record.requestId record.requestId
        [("error", .str error)] (round.clock done)]

/-- `capture_execution`: the record, and the store after it has been persisted -/
def captureExecution (terminal : ExecutionTerminal) (inspector : RequestTraceStore) (round : Round) :
    RequestExecutionRecord × RequestTraceStore :=
  let record := captureExecutionRecord texts fromSubmit terminal inspector round.completion
      round.streamMetrics round.now
    round.sourceRequestId round.replayId
  let timeline := inspector.timeline record.requestId round.now
  (record, (persistExecutionRecord texts record timeline round).foldl RequestTraceStore.emit inspector)

/-- the records of repeated captures of one execution -/
def captures (terminal : ExecutionTerminal) : RequestTraceStore → List Round → List RequestExecutionRecord
  | _, [] => []
  | inspector, round :: rounds =>
    let (record, inspector') := captureExecution texts fromSubmit terminal inspector round
    record :: captures terminal inspector' rounds

/-- any two of them match -/
def CapturesMatch (records : List RequestExecutionRecord) : Prop :=
  records.Pairwise fun a b => ∀ now, (compareExecutions a b now).matches = true

/-! ## What the comparison looks at -/

/-- how many events of a trace the comparison looks at -/
def weight (store : RequestTraceStore) (r : UUID) : ℕ := (executionEventSignature (store.eventsOf r)).length

variable {store : RequestTraceStore} {r : UUID}

/-- sorting does not change how many they are -/
theorem signature_timeline (store : RequestTraceStore) (r : UUID) :
    (executionEventSignature (timelineEvents store r)).length = weight store r := by
  have hperm := (List.mergeSort_perm (store.eventsOf r) fun e e' => decide (e.timestamp ≤ e'.timestamp)).filter
    fun e => decide (e.component ∈ executionComponents)
  rw [weight, executionEventSignature, executionEventSignature, List.length_map, List.length_map]
  exact hperm.length_eq

theorem weight_emit_le (store : RequestTraceStore) (e : Emission) (r : UUID) :
    weight store r ≤ weight (store.emit e) r := by
  rw [weight, weight, (RequestTraceStore.emit_recorded store e).events r, executionEventSignature,
    executionEventSignature, List.filter_append, List.map_append, List.length_append]
  exact Nat.le_add_right _ _

theorem weight_foldl_le (store : RequestTraceStore) (es : List Emission) (r : UUID) :
    weight store r ≤ weight (es.foldl RequestTraceStore.emit store) r := by
  induction es generalizing store with
  | nil => exact le_rfl
  | cons e es ih => exact (weight_emit_le store e r).trans (ih _)

/-- an event of the repository counts -/
theorem weight_persistence (store : RequestTraceStore) (eventType : PersistenceEventType) (correlationId : String)
    (extra : PyDict) (now : Time) :
    weight (store.emit (.appended (.persistence eventType) r correlationId extra now)) r = weight store r + 1 := by
  have hevents :=
    (RequestTraceStore.emit_recorded store (.appended (.persistence eventType) r correlationId extra now)).events r
  rw [if_pos (show Emission.requestId _ = r from rfl)] at hevents
  rw [weight, hevents, executionEventSignature, List.filter_append, List.map_append, List.length_append]
  rfl

/-- whether or not the repository raises, its first event is one of the request -/
theorem persist_first (record : RequestExecutionRecord) (timeline : Option TraceTimeline) (round : Round) :
    ∃ eventType extra now rest, persistExecutionRecord texts record timeline round =
      .appended (.persistence eventType) record.requestId (texts.uuidText record.requestId) extra now :: rest := by
  unfold persistExecutionRecord
  cases round.raised with
  | none => exact ⟨_, _, _, _, rfl⟩
  | some failure =>
    obtain ⟨done, error⟩ := failure
    cases done with
    | zero => exact ⟨_, _, _, _, rfl⟩
    | succ done => exact ⟨_, _, _, _, rfl⟩

/-- a capture adds to what the next one is compared by -/
theorem capture_adds (terminal : ExecutionTerminal) (store : RequestTraceStore) (round : Round) :
    weight store terminal.submit.inferenceRequest.requestId <
      weight (captureExecution texts fromSubmit terminal store round).2 terminal.submit.inferenceRequest.requestId := by
  rw [captureExecution]
  dsimp only
  generalize hrecord : captureExecutionRecord texts fromSubmit terminal store round.completion round.streamMetrics
    round.now round.sourceRequestId round.replayId = record
  have hid : record.requestId = terminal.submit.inferenceRequest.requestId := by rw [← hrecord]; rfl
  obtain ⟨eventType, extra, now, rest, hemitted⟩ :=
    persist_first texts record (store.timeline record.requestId round.now) round
  rw [hemitted, hid, List.foldl_cons]
  refine Nat.lt_of_lt_of_le ?_ (weight_foldl_le _ rest _)
  rw [weight_persistence]
  exact Nat.lt_succ_self _

/-! ## Captures -/

theorem signature_capture (terminal : ExecutionTerminal) (store : RequestTraceStore) (round : Round) :
    (executionEventSignature (captureExecution texts fromSubmit terminal store round).1.eventTimeline).length =
      weight store terminal.submit.inferenceRequest.requestId := by
  rw [← signature_timeline, ← timeline_events store _ round.now]
  rfl

/-- every later capture weighs at least what the store weighs -/
theorem captures_le (terminal : ExecutionTerminal) (store : RequestTraceStore) (rounds : List Round) :
    ∀ record ∈ captures texts fromSubmit terminal store rounds,
      weight store terminal.submit.inferenceRequest.requestId ≤
        (executionEventSignature record.eventTimeline).length := by
  induction rounds generalizing store with
  | nil => exact fun record hmem => absurd hmem List.not_mem_nil
  | cons round rounds ih =>
    intro record hmem
    rcases List.mem_cons.1 hmem with rfl | hmem
    · exact (signature_capture texts fromSubmit terminal store round).ge
    · exact (capture_adds texts fromSubmit terminal store round).le.trans (ih _ record hmem)

theorem captures_lt (terminal : ExecutionTerminal) (store : RequestTraceStore) (rounds : List Round) :
    (captures texts fromSubmit terminal store rounds).Pairwise fun a b =>
      (executionEventSignature a.eventTimeline).length < (executionEventSignature b.eventTimeline).length := by
  induction rounds generalizing store with
  | nil => exact List.Pairwise.nil
  | cons round rounds ih =>
    refine List.Pairwise.cons (fun record hmem => ?_) (ih _)
    have hlater := captures_le texts fromSubmit terminal _ rounds record hmem
    exact (signature_capture texts fromSubmit terminal store round).trans_lt
      ((capture_adds texts fromSubmit terminal store round).trans_le hlater)

/-- records that are compared by another number of events do not match -/
theorem not_matches {a b : RequestExecutionRecord} (now : Time)
    (h : (executionEventSignature a.eventTimeline).length ≠ (executionEventSignature b.eventTimeline).length) :
    (compareExecutions a b now).matches = false := by
  have hne : executionEventSignature a.eventTimeline ≠ executionEventSignature b.eventTimeline :=
    fun heq => h (by rw [heq])
  have hdiff : compareEventSequence a.eventTimeline b.eventTimeline ≠ [] := by
    rw [compareEventSequence, if_pos hne]
    exact List.cons_ne_nil _ _
  rw [ExecutionComparison.matches, compareExecutions, List.isEmpty_eq_false_iff]
  exact fun hnil => hdiff (List.append_eq_nil_iff.1 hnil).2

/-- no two captures of one execution match -/
theorem captures_differ (terminal : ExecutionTerminal) (store : RequestTraceStore) (rounds : List Round) :
    (captures texts fromSubmit terminal store rounds).length = rounds.length ∧
      (captures texts fromSubmit terminal store rounds).Pairwise fun a b =>
        ∀ now, (compareExecutions a b now).matches = false ∧ (compareExecutions b a now).matches = false := by
  refine ⟨?_, (captures_lt texts fromSubmit terminal store rounds).imp fun h now => ?_⟩
  · induction rounds generalizing store with
    | nil => rfl
    | cons round rounds ih => exact congrArg (· + 1) (ih _)
  · exact ⟨not_matches now h.ne, not_matches now h.ne'⟩

/-- a completed request, captured twice from its entry -/
theorem completed_recaptured :
    let moves := servedMoves ++ [.controlPlane (.completeRequest 1 none 6)]
    let p := run (Platform.step Persistence.sampleTexts tracedSettings) Platform.init moves
    let round : Round := { now := 7, clock := fun i => 7 + i, failureId := fun i => i }
    ∃ e, p.controlPlane.entry? 1 = some e ∧ isTerminalRequestState e.state = true ∧
      ∀ fromSubmit, ¬CapturesMatch (captures Persistence.sampleTexts fromSubmit (terminalOf e) p.store
        [round, round]) := by
  intro moves p round
  have hstate : (p.controlPlane.entry? 1).map (fun e => e.state) = some .completed := by decide +kernel
  obtain ⟨e, he, hcompleted⟩ := Option.map_eq_some_iff.1 hstate
  refine ⟨e, he, by rw [hcompleted]; rfl, fun fromSubmit h => ?_⟩
  have hmatch := (List.pairwise_cons.1 h).1 _ (List.mem_singleton_self _) 0
  have hlt :=
    (List.pairwise_cons.1 (captures_lt Persistence.sampleTexts fromSubmit (terminalOf e) p.store [round, round])).1 _
    (List.mem_singleton_self _)
  rw [not_matches 0 hlt.ne] at hmatch
  cases hmatch

end InferencePlatform.Replay
