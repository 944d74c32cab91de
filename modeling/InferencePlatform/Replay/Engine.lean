/-
The replay engine and its debugging interface, over the execution record store.

A replay suspends at its `execute` callback, so that captures, other replays, comparisons and a restart come in between.
What the callback returns is an entry of the registry with its whole submit, or whatever it raises; a cancelled task
runs no handler. The traces that a capture reads, the clock, the new ids and where the repository raises are inputs of
each operation.

- `replay_protocol`: with new ids, what is emitted of a replay is what its result reports, and there is one result at
  most.

`durable` says whether the platform was created over a database; without one the store is the cache alone. Left out: the
log lines of the events, and their copies in the trace store, which the captures find in the traces they are given.
-/
import InferencePlatform.Persistence.Durability
import InferencePlatform.Replay.RoundTrip

namespace InferencePlatform.Replay

open InferencePlatform.Core (Dict Meets run run_inv)
open InferencePlatform.Core.Sql
open InferencePlatform.Persistence
  (PyValue PyDict Texts DurableExecutionRecordStore PersistCall ReplayOutcome RepositoryOp)
open InferencePlatform.Observability

/-! ## Entries and results -/

/-- the fields that the control plane reads -/
def SubmitRequest.read (submit : SubmitRequest) : InferencePlatform.SubmitRequest where
  inferenceRequest :=
    { requestId := submit.inferenceRequest.requestId, model := submit.inferenceRequest.model
      messages := submit.inferenceRequest.messages.1.map fun m => ⟨m.content⟩, stream := submit.inferenceRequest.stream
      maxTokens := submit.inferenceRequest.maxTokens.1.toNat, priorityClass := submit.inferenceRequest.priorityClass }
  requestContext := { traceId := submit.requestContext.traceId, arrivalTime := submit.requestContext.arrivalTime }

/-- the fields of a `RegisteredRequest` that are captured -/
structure Entry where
  submit : SubmitRequest
  state : RequestState
  failureReason : Option FailureReason := none
  failureMessage : Option String := none
  batchId : Option UUID := none
  backendId : Option String := none
  completion : Option InferenceCompletionRecord := none
  streamMetrics : Option StreamingMetricsRecord := none

def Entry.requestId (entry : Entry) : UUID := entry.submit.inferenceRequest.requestId

def Entry.terminal (entry : Entry) : ExecutionTerminal where
  submit := entry.submit.read
  state := entry.state.value
  failureReason := entry.failureReason.map FailureReason.value
  failureMessage := entry.failureMessage
  batchId := entry.batchId
  backendId := entry.backendId

structure ReplayRequest where
  replayId : UUID
  payload : RequestPayloadSnapshot
  sourceRequestId : Option UUID := none

structure ReplayResult extends Persistence.ReplayResult where
  executionRecord : Option RequestExecutionRecord
  error : Option String := none

def replayOutcomeFromState (state : String) : ReplayOutcome :=
  if state = "completed" then .completed
  else if state = "rejected" then .rejected
  else if state = "timed_out" then .timedOut
  else if state = "failed" then .failed
  else .error

/-- the result that the handler of `replay` returns -/
def ReplayResult.ofError (request : ReplayRequest) (events : List ReplayEventType) (error : String) : ReplayResult where
  replayId := request.replayId
  sourceRequestId := request.sourceRequestId
  replayRequestId := request.replayId
  outcome := .error
  terminalState := "error"
  failureReason := some "replay_error"
  failureMessage := some error
  replayEvents := events.map ReplayEventType.value
  executionRecord := none
  error := some error

/-- the result of an execution that has been captured -/
def ReplayResult.ofEntry (request : ReplayRequest) (events : List ReplayEventType) (entry : Entry)
    (record : RequestExecutionRecord) : ReplayResult where
  replayId := request.replayId
  sourceRequestId := request.sourceRequestId
  replayRequestId := entry.requestId
  outcome := replayOutcomeFromState entry.state.value
  terminalState := entry.state.value
  failureReason := entry.failureReason.map FailureReason.value
  failureMessage := entry.failureMessage
  replayEvents := events.map ReplayEventType.value
  executionRecord := some record

structure ReplayEvent where
  eventType : ReplayEventType
  requestId : UUID
  replayId : Option UUID
  sourceRequestId : Option UUID
  extra : PyDict := []

/-! ## The engine -/

/-- a replay whose execution has not returned -/
structure Underway where
  request : ReplayRequest
  submit : SubmitRequest
  startedAt : Time

structure ReplayEngine where
  executionStore : DurableExecutionRecordStore
  events : List ReplayEvent
  underway : List Underway
  results : List ReplayResult

namespace ReplayEngine

def init : ReplayEngine := ⟨.init, [], [], []⟩

def emit (s : ReplayEngine) (event : ReplayEvent) : ReplayEngine := { s with events := s.events ++ [event] }

def withStore (s : ReplayEngine) (executionStore : DurableExecutionRecordStore) : ReplayEngine :=
  { s with executionStore }

def returns (s : ReplayEngine) (result : ReplayResult) : ReplayEngine := { s with results := s.results ++ [result] }

end ReplayEngine

/-- what a capture meets -/
structure CaptureRound where
  inspector : RequestTraceStore := .empty
  now : Time
  stageDurationsMs : PyDict := []
  /-- the first of the new failure ids -/
  firstFailureId : UUID := 0
  fault : Option ℕ := none

/-- what a replay meets after its execution -/
structure ResumeRound where
  capture : CaptureRound
  completedAt : Time
  fault : Option ℕ := none
  /-- the text of what the repository raises, if it does -/
  error : String := ""

variable (durable : Bool) (texts : Texts)

def captureEntry (entry : Entry) (round : CaptureRound) (completion : Option InferenceCompletionRecord)
    (streamMetrics : Option StreamingMetricsRecord) (sourceRequestId replayId : Option UUID := none) :
      RequestExecutionRecord :=
  captureExecutionRecord texts (fun _ => .fromSubmit entry.submit) entry.terminal round.inspector
    completion streamMetrics
    round.now sourceRequestId replayId

/-- `_store_record`; the flag says whether it returns -/
def storeRecord (store : DurableExecutionRecordStore) (record : RequestExecutionRecord) (round : CaptureRound) :
    DurableExecutionRecordStore × Bool :=
  if durable then
    let timeline := round.inspector.timeline record.requestId round.now
    store.put texts ⟨record, timeline.map (·, round.stageDurationsMs), round.firstFailureId⟩ round.fault
  else ({ store with cache := store.cache.set record.requestId record }, true)

/-- `_persist_replay_result` -/
def persistResult (store : DurableExecutionRecordStore) (result : ReplayResult) (startedAt completedAt : Time)
    (fault : Option ℕ) : DurableExecutionRecordStore × Bool :=
  if durable then
    let (connection, returns) :=
      store.connection.perform (Persistence.persistReplayResult texts result.toReplayResult startedAt
        completedAt none) fault
    ({ store with connection }, returns)
  else (store, true)

/-- `replays.save_comparison` and `commit`, each with its fault -/
def persistComparison (store : DurableExecutionRecordStore) (comparison : ExecutionComparison) (comparisonId : UUID)
    (faults : Option ℕ × Option ℕ) : DurableExecutionRecordStore × Bool :=
  if durable then
    let record := Persistence.replayComparisonFromExecution comparison comparisonId
    let (connection, saved) := store.connection.perform ((RepositoryOp.saveComparison record).operation texts) faults.1
    if saved then
      let (connection, committed) := connection.perform (RepositoryOp.commit.operation texts) faults.2
      ({ store with connection }, committed)
    else ({ store with connection }, false)
  else (store, true)

namespace ReplayEngine

/-- the handler of `replay` -/
def raised (s : ReplayEngine) (request : ReplayRequest) (events : List ReplayEventType) (error : String) :
    ReplayEngine :=
  let s := s.emit ⟨.replayFailed, request.replayId, some request.replayId, request.sourceRequestId,
      [("error", .str error)]⟩
  s.returns (.ofError request (events ++ [.replayFailed]) error)

/-- `replay`, up to its execution -/
def replay (s : ReplayEngine) (request : ReplayRequest) (startedAt : Time) : ReplayEngine :=
  let s := s.emit ⟨.replayStarted, request.replayId, some request.replayId, request.sourceRequestId, []⟩
  match submitFromPayload texts (clonePayloadForReplay texts request.payload request.replayId) with
  | .error message => s.raised request [.replayStarted] message
  | .ok submit => { s with underway := s.underway ++ [⟨request, submit, startedAt⟩] }

/-- what `replay` appends to its own list after the execution -/
def concluding (request : ReplayRequest) (outcome : ReplayOutcome) : List ReplayEventType :=
  (if outcome = .completed then .replayCompleted else .replayFailed) ::
    (request.sourceRequestId.map fun _ => ReplayEventType.requestReplayed).toList

/-- what `replay` emits after the execution -/
def conclude (s : ReplayEngine) (request : ReplayRequest) (entry : Entry) (outcome : ReplayOutcome) : ReplayEngine :=
  let s := s.emit
    ⟨if outcome = .completed then .replayCompleted else .replayFailed, entry.requestId, some request.replayId,
      request.sourceRequestId, [("terminal_state", .str entry.state.value)]⟩
  match request.sourceRequestId with
  | none => s
  | some source =>
    s.emit ⟨.requestReplayed, source, some request.replayId, some source,
      [("replay_request_id", .str (texts.uuidText entry.requestId))]⟩

/-- the rest of `replay`, with the entry that its execution returns -/
def resume (s : ReplayEngine) (r : Underway) (entry : Entry) (round : ResumeRound) : ReplayEngine :=
  let record := captureEntry texts entry round.capture none none r.request.sourceRequestId (some r.request.replayId)
  let (executionStore, stored) := storeRecord durable texts s.executionStore record round.capture
  let s := s.withStore executionStore
  if stored then
    let outcome := replayOutcomeFromState entry.state.value
    let events := .replayStarted :: concluding r.request outcome
    let s := s.conclude texts r.request entry outcome
    let result := ReplayResult.ofEntry r.request events entry record
    let (executionStore, persisted) :=
      persistResult durable texts s.executionStore result r.startedAt round.completedAt round.fault
    let s := s.withStore executionStore
    if persisted then s.returns result else s.raised r.request events round.error
  else s.raised r.request [.replayStarted] round.error

def compare (s : ReplayEngine) (original replay : RequestExecutionRecord) (now : Time) (comparisonId : UUID)
    (faults : Option ℕ × Option ℕ) : ReplayEngine :=
  let comparison := compareExecutions original replay now
  let (executionStore, returns) := persistComparison durable texts s.executionStore comparison comparisonId faults
  let s := s.withStore executionStore
  if returns then
    s.emit ⟨.comparisonGenerated, original.requestId, replay.replayId, some original.requestId,
      [("replay_request_id", .str (texts.uuidText replay.requestId)),
        ("difference_count", .int comparison.differences.length), ("matches", .bool comparison.matches)]⟩
  else s

end ReplayEngine

/-! ## The debugging interface -/

/-- what is to be replayed -/
inductive ReplaySource
  | requestId (requestId : UUID)
  | record (record : RequestExecutionRecord)
  | payload (payload : RequestPayloadSnapshot)

def replayRequestFromRecord (record : RequestExecutionRecord) (replayId : UUID) : ReplayRequest :=
  ⟨replayId, record.payload, some record.requestId⟩

namespace ReplayEngine

/-- `get_execution_record` -/
def getExecutionRecord (s : ReplayEngine) (requestId : UUID) :
    Except String (Option RequestExecutionRecord) × ReplayEngine :=
  let (found, executionStore) := s.executionStore.get texts requestId
  (found, s.withStore executionStore)

/-- `replay_request`, up to the execution; it raises where the store does, or has no record -/
def replayRequest (s : ReplayEngine) (source : ReplaySource) (replayId : UUID) (now : Time) : ReplayEngine :=
  match source with
  | .requestId requestId =>
    match s.getExecutionRecord texts requestId with
    | (.ok (some record), s) => s.replay texts (replayRequestFromRecord record replayId) now
    | (_, s) => s
  | .record record => s.replay texts (replayRequestFromRecord record replayId) now
  | .payload payload => s.replay texts ⟨replayId, payload, none⟩ now

def compareExecution (s : ReplayEngine) (originalRequestId replayRequestId : UUID) (now : Time) (comparisonId : UUID)
    (faults : Option ℕ × Option ℕ) : ReplayEngine :=
  match s.getExecutionRecord texts originalRequestId with
  | (.error _, s) => s
  | (.ok original, s) =>
    match original, s.getExecutionRecord texts replayRequestId with
    | some original, (.ok (some replay), s) => s.compare durable texts original replay now comparisonId faults
    | _, (_, s) => s

end ReplayEngine

/-! ## Interleavings -/

inductive ReplayOp
  | captureFromEntry (entry : Entry) (round : CaptureRound)
  | replayRequest (source : ReplaySource) (replayId : UUID) (now : Time)
  /-- the execution of the replay at this place returns -/
  | returned (place : ℕ) (entry : Entry) (round : ResumeRound)
  | raised (place : ℕ) (error : String)
  | cancelled (place : ℕ)
  | getExecutionRecord (requestId : UUID)
  | compareExecution (originalRequestId replayRequestId : UUID) (now : Time) (comparisonId : UUID)
      (faults : Option ℕ × Option ℕ)
  | recover
  /-- the process ends, and a new one opens the database -/
  | restart

def ReplayEngine.step (s : ReplayEngine) : ReplayOp → ReplayEngine
  | .captureFromEntry entry round =>
    let record := captureEntry texts entry round entry.completion entry.streamMetrics
    s.withStore (storeRecord durable texts s.executionStore record round).1
  | .replayRequest source replayId now => s.replayRequest texts source replayId now
  | .returned place entry round =>
    match s.underway[place]? with
    | none => s
    | some r => { s with underway := s.underway.eraseIdx place }.resume durable texts r entry round
  | .raised place error =>
    match s.underway[place]? with
    | none => s
    | some r => { s with underway := s.underway.eraseIdx place }.raised r.request [.replayStarted] error
  | .cancelled place => { s with underway := s.underway.eraseIdx place }
  | .getExecutionRecord requestId => (s.getExecutionRecord texts requestId).2
  | .compareExecution originalRequestId replayRequestId now comparisonId faults =>
    s.compareExecution durable texts originalRequestId replayRequestId now comparisonId faults
  | .recover => s.withStore (s.executionStore.recover texts).2
  | .restart => { s.withStore s.executionStore.restart with underway := [] }

/-! ## The protocol of a replay -/

namespace ReplayEngine

/-- what is emitted of a replay, but for comparisons with its record -/
def eventsOf (s : ReplayEngine) (u : UUID) : List ReplayEventType :=
  (s.events.filter fun e => e.replayId = some u ∧ e.eventType ≠ .comparisonGenerated).map ReplayEvent.eventType

def resultsOf (s : ReplayEngine) (u : UUID) : List ReplayResult := s.results.filter fun result => result.replayId = u

/-- how many executions of a replay have not returned -/
def waiting (s : ReplayEngine) (u : UUID) : ℕ := s.underway.countP fun r => r.request.replayId = u

/-- a replay gets an id of which nothing has been emitted -/
def NewId (s : ReplayEngine) : ReplayOp → Prop
  | .replayRequest _ replayId _ => s.eventsOf replayId = []
  | _ => True

end ReplayEngine

open ReplayEngine

/-- what a result says, beside the events of its replay -/
structure Reports (events : List ReplayEventType) (result : ReplayResult) : Prop where
  told : result.replayEvents = events.map ReplayEventType.value
  started : events.head? = some .replayStarted
  failed : .replayFailed ∈ events ↔ result.outcome ≠ .completed
  completed : result.outcome = .completed → .replayCompleted ∈ events
  sourced : result.error = none → (.requestReplayed ∈ events ↔ result.sourceRequestId ≠ none)
  captured : result.error = none ↔ result.executionRecord ≠ none
  /-- its record is the one that was captured under its ids -/
  record : ∀ record, result.executionRecord = some record → record.replayId = some result.replayId ∧
    record.requestId = result.replayRequestId ∧
    record.sourceRequestId = some (result.sourceRequestId.getD result.replayRequestId) ∧
    record.terminalOutcome.state = result.terminalState

variable {durable texts} {s s' : ReplayEngine} {u : UUID} {request : ReplayRequest}

theorem eventsOf_emit (s : ReplayEngine) (event : ReplayEvent) (u : UUID) :
    (s.emit event).eventsOf u =
      s.eventsOf u ++
        if event.replayId = some u ∧ event.eventType ≠ .comparisonGenerated then [event.eventType] else [] := by
  unfold eventsOf emit
  rw [List.filter_append, List.map_append, List.filter_singleton]
  by_cases h : event.replayId = some u ∧ event.eventType ≠ .comparisonGenerated
  · rw [decide_eq_true h, if_pos h]
    rfl
  · rw [decide_eq_false h, if_neg h]
    rfl

theorem resultsOf_returns (s : ReplayEngine) (result : ReplayResult) (u : UUID) :
    (s.returns result).resultsOf u = s.resultsOf u ++ if result.replayId = u then [result] else [] := by
  unfold resultsOf returns
  rw [List.filter_append, List.filter_singleton]
  by_cases h : result.replayId = u
  · rw [decide_eq_true h, if_pos h]
    rfl
  · rw [decide_eq_false h, if_neg h]
    rfl

/-! ### The ends of a replay -/

theorem eventsOf_raised (s : ReplayEngine) (request : ReplayRequest) (events : List ReplayEventType) (error : String)
    (u : UUID) :
    (s.raised request events error).eventsOf u = s.eventsOf u ++
      if request.replayId = u then [.replayFailed] else [] := by
  refine (eventsOf_emit s _ u).trans ?_
  simp

theorem resultsOf_raised (s : ReplayEngine) (request : ReplayRequest) (events : List ReplayEventType) (error : String)
    (u : UUID) :
    (s.raised request events error).resultsOf u =
      s.resultsOf u ++ if request.replayId = u then [.ofError request (events ++ [.replayFailed]) error] else [] :=
  resultsOf_returns _ _ u

/-- the handler reports what has been emitted, with its own event -/
theorem reports_ofError {events : List ReplayEventType} (request : ReplayRequest) (error : String)
    (h : events.head? = some .replayStarted) :
    Reports (events ++ [.replayFailed]) (.ofError request (events ++ [.replayFailed]) error) where
  told := rfl
  started := by rw [List.head?_append, h]; rfl
  failed := by simp [ReplayResult.ofError]
  completed := fun h => by cases h
  sourced := fun h => by cases h
  captured := by simp [ReplayResult.ofError]
  record := fun _ h => by cases h

theorem eventsOf_conclude (s : ReplayEngine) (request : ReplayRequest) (entry : Entry)
    (outcome : ReplayOutcome) (u : UUID) :
    (s.conclude texts request entry outcome).eventsOf u =
      s.eventsOf u ++ if request.replayId = u then concluding request outcome else [] := by
  have hne : (if outcome = .completed then ReplayEventType.replayCompleted else .replayFailed) ≠
      .comparisonGenerated := by
    split_ifs <;> simp
  unfold conclude concluding
  cases request.sourceRequestId with
  | none =>
    dsimp only
    rw [eventsOf_emit]
    simp [hne]
  | some source =>
    dsimp only
    rw [eventsOf_emit, eventsOf_emit]
    by_cases h : request.replayId = u <;> simp [hne, h]

theorem conclude_fields (s : ReplayEngine) (request : ReplayRequest) (entry : Entry) (outcome : ReplayOutcome) :
    (s.conclude texts request entry outcome).results = s.results ∧
      (s.conclude texts request entry outcome).underway = s.underway ∧
      (s.conclude texts request entry outcome).executionStore = s.executionStore := by
  unfold conclude
  cases request.sourceRequestId with
  | none => exact ⟨rfl, rfl, rfl⟩
  | some source => exact ⟨rfl, rfl, rfl⟩

/-- a result of an execution reports what has been emitted -/
theorem reports_ofEntry (texts : Texts) (request : ReplayRequest) (entry : Entry) (round : CaptureRound) :
    Reports (.replayStarted :: concluding request (replayOutcomeFromState entry.state.value))
      (.ofEntry request (.replayStarted :: concluding request (replayOutcomeFromState entry.state.value)) entry
        (captureEntry texts entry round none none request.sourceRequestId (some request.replayId))) where
  told := rfl
  started := rfl
  failed := by
    unfold concluding
    cases request.sourceRequestId <;> simp [ReplayResult.ofEntry]
  completed := fun h => by
    replace h : replayOutcomeFromState entry.state.value = .completed := h
    simp [concluding, h]
  sourced := fun _ => by
    unfold concluding
    cases hsource : request.sourceRequestId with
    | none =>
      simp only [ReplayResult.ofEntry, hsource, Option.map_none, Option.toList_none, ne_eq, not_true, iff_false]
      split_ifs <;> simp
    | some source => simp [ReplayResult.ofEntry, hsource]
  captured := by simp [ReplayResult.ofEntry]
  record := by
    rintro record h
    obtain rfl := Option.some.inj h
    exact ⟨rfl, rfl, rfl, rfl⟩

/-! ### The phases of a replay -/

inductive Phase (s : ReplayEngine) (u : UUID) : Prop
  | unused (hevents : s.eventsOf u = []) (hresults : s.resultsOf u = []) (hwaiting : s.waiting u = 0)
  | started (hevents : s.eventsOf u = [.replayStarted]) (hresults : s.resultsOf u = []) (hwaiting : s.waiting u ≤ 1)
  | finished (result : ReplayResult) (hresults : s.resultsOf u = [result]) (hreports : Reports (s.eventsOf u) result)
      (hwaiting : s.waiting u = 0)

/-- nothing new of a replay; an execution of it may be gone -/
structure Quiet (s s' : ReplayEngine) (u : UUID) : Prop where
  events : s'.eventsOf u = s.eventsOf u
  results : s'.resultsOf u = s.resultsOf u
  waiting : s'.waiting u ≤ s.waiting u

theorem Phase.quiet (h : Phase s u) (hquiet : Quiet s s' u) : Phase s' u := by
  obtain ⟨hevents', hresults', hwaiting'⟩ := hquiet
  cases h with
  | unused hevents hresults hwaiting => exact .unused (hevents'.trans hevents) (hresults'.trans hresults) (by omega)
  | started hevents hresults hwaiting => exact .started (hevents'.trans hevents) (hresults'.trans hresults) (by omega)
  | finished result hresults hreports hwaiting =>
    refine .finished result (hresults'.trans hresults) ?_ (by omega)
    rw [hevents']
    exact hreports

theorem quiet_raised (s : ReplayEngine) (events : List ReplayEventType) (error : String) (h : request.replayId ≠ u) :
    Quiet s (s.raised request events error) u := by
  refine ⟨?_, ?_, Nat.le_refl _⟩
  · rw [eventsOf_raised, if_neg h, List.append_nil]
  · rw [resultsOf_raised, if_neg h, List.append_nil]

theorem phase_raised {events : List ReplayEventType} (error : String) (hevents : s.eventsOf request.replayId = events)
    (hstarted : events.head? = some .replayStarted) (hresults : s.resultsOf request.replayId = [])
    (hwaiting : s.waiting request.replayId = 0) : Phase (s.raised request events error) request.replayId := by
  refine .finished (.ofError request (events ++ [.replayFailed]) error) ?_ ?_ hwaiting
  · rw [resultsOf_raised, hresults, if_pos rfl, List.nil_append]
  · rw [eventsOf_raised, hevents, if_pos rfl]
    exact reports_ofError request error hstarted

theorem quiet_withStore (s : ReplayEngine) (store : DurableExecutionRecordStore) (u : UUID) :
    Quiet s (s.withStore store) u :=
  ⟨rfl, rfl, Nat.le_refl _⟩

theorem Quiet.trans {s'' : ReplayEngine} (h : Quiet s s' u) (h' : Quiet s' s'' u) : Quiet s s'' u :=
  ⟨h'.events.trans h.events, h'.results.trans h.results, h'.waiting.trans h.waiting⟩

theorem conclude_withStore (s : ReplayEngine) (request : ReplayRequest) (entry : Entry) (outcome : ReplayOutcome)
    (store : DurableExecutionRecordStore) :
    (s.withStore store).conclude texts request entry outcome =
      (s.conclude texts request entry outcome).withStore store := by
  unfold conclude
  cases request.sourceRequestId <;> rfl

/-- what follows on an execution, by whether the record is stored and the result is written -/
theorem resume_cases (durable : Bool) (texts : Texts) (s : ReplayEngine) (r : Underway) (entry : Entry)
    (round : ResumeRound) :
    let outcome := replayOutcomeFromState entry.state.value
    let events := .replayStarted :: concluding r.request outcome
    let record := captureEntry texts entry round.capture none none r.request.sourceRequestId (some r.request.replayId)
    let result := ReplayResult.ofEntry r.request events entry record
    let stored := storeRecord durable texts s.executionStore record round.capture
    let persisted := persistResult durable texts stored.1 result r.startedAt round.completedAt round.fault
    let concluded := (s.conclude texts r.request entry outcome).withStore persisted.1
    s.resume durable texts r entry round = (s.withStore stored.1).raised r.request [.replayStarted] round.error ∨
      s.resume durable texts r entry round = concluded.raised r.request events round.error ∨
      persisted.2 = true ∧ s.resume durable texts r entry round = concluded.returns result := by
  intro outcome events record result stored persisted concluded
  unfold resume
  dsimp only
  change (if stored.2 = true then _ else _) = _ ∨ _
  by_cases hstored : stored.2 = true
  · rw [if_pos hstored, conclude_withStore]
    have hconcluded : ((s.conclude texts r.request entry outcome).withStore stored.1).executionStore = stored.1 := rfl
    rw [hconcluded]
    change (if persisted.2 = true then _ else _) = _ ∨ (if persisted.2 = true then _ else _) = _ ∨ _ ∧
      (if persisted.2 = true then _ else _) = _
    by_cases hpersisted : persisted.2 = true
    · rw [if_pos hpersisted]
      exact .inr (.inr ⟨hpersisted, rfl⟩)
    · rw [if_neg hpersisted]
      exact .inr (.inl rfl)
  · rw [if_neg hstored]
    exact .inl rfl

theorem waiting_conclude (texts : Texts) (s : ReplayEngine) (request : ReplayRequest) (entry : Entry)
    (outcome : ReplayOutcome) (u : UUID) : (s.conclude texts request entry outcome).waiting u = s.waiting u := by
  rw [waiting, (conclude_fields s request entry outcome).2.1, waiting]

theorem resultsOf_conclude (texts : Texts) (s : ReplayEngine) (request : ReplayRequest) (entry : Entry)
    (outcome : ReplayOutcome) (u : UUID) : (s.conclude texts request entry outcome).resultsOf u = s.resultsOf u := by
  rw [resultsOf, (conclude_fields s request entry outcome).1, resultsOf]

theorem quiet_conclude (texts : Texts) (s : ReplayEngine) (entry : Entry) (outcome : ReplayOutcome)
    (h : request.replayId ≠ u) : Quiet s (s.conclude texts request entry outcome) u := by
  refine ⟨?_, resultsOf_conclude texts s request entry outcome u, (waiting_conclude texts s request entry outcome u).le⟩
  rw [eventsOf_conclude, if_neg h, List.append_nil]

theorem quiet_returns (s : ReplayEngine) {result : ReplayResult} (h : result.replayId ≠ u) :
    Quiet s (s.returns result) u := by
  refine ⟨rfl, ?_, Nat.le_refl _⟩
  rw [resultsOf_returns, if_neg h, List.append_nil]

theorem quiet_resume (s : ReplayEngine) (r : Underway) (entry : Entry) (round : ResumeRound)
    (h : r.request.replayId ≠ u) :
    Quiet s (s.resume durable texts r entry round) u := by
  have hconclude := fun store => (quiet_conclude texts s entry (replayOutcomeFromState entry.state.value) h).trans
    (quiet_withStore _ store u)
  rcases resume_cases durable texts s r entry round with hraised | hraised | ⟨-, hreturned⟩
  · rw [hraised]
    exact (quiet_withStore s _ u).trans (quiet_raised _ _ _ h)
  · rw [hraised]
    exact (hconclude _).trans (quiet_raised _ _ _ h)
  · rw [hreturned]
    exact (hconclude _).trans (quiet_returns _ h)

theorem phase_resume (s : ReplayEngine) (r : Underway) (entry : Entry) (round : ResumeRound)
    (hevents : s.eventsOf r.request.replayId = [.replayStarted]) (hresults : s.resultsOf r.request.replayId = [])
    (hwaiting : s.waiting r.request.replayId = 0) :
    Phase (s.resume durable texts r entry round) r.request.replayId := by
  have hconcluded : (s.conclude texts r.request entry (replayOutcomeFromState entry.state.value)).eventsOf
      r.request.replayId =
      .replayStarted :: concluding r.request (replayOutcomeFromState entry.state.value) := by
    rw [eventsOf_conclude, hevents, if_pos rfl]
    rfl
  have hnone := (resultsOf_conclude texts s r.request entry (replayOutcomeFromState entry.state.value) _).trans hresults
  have hgone := (waiting_conclude texts s r.request entry (replayOutcomeFromState entry.state.value) _).trans hwaiting
  rcases resume_cases durable texts s r entry round with hraised | hraised | ⟨-, hreturned⟩
  · rw [hraised]
    exact phase_raised _ hevents rfl hresults hwaiting
  · rw [hraised]
    exact phase_raised _ hconcluded rfl hnone hgone
  · have hreports := reports_ofEntry texts r.request entry round.capture
    rw [hreturned]
    refine .finished _ ?_ ((congrArg (fun events => Reports events _) hconcluded).mpr hreports) hgone
    rw [resultsOf_returns]
    refine (congrArg (· ++ _) hnone).trans ?_
    rw [List.nil_append]
    exact if_pos rfl

/-! ### Steps -/

theorem quiet_emit_comparison (s : ReplayEngine) {event : ReplayEvent}
    (h : event.eventType = .comparisonGenerated) (u : UUID) :
    Quiet s (s.emit event) u := by
  refine ⟨?_, rfl, Nat.le_refl _⟩
  rw [eventsOf_emit, if_neg (fun hevent => hevent.2 h), List.append_nil]

theorem quiet_compareExecution (s : ReplayEngine) (originalRequestId replayRequestId : UUID) (now : Time)
    (comparisonId : UUID) (faults : Option ℕ × Option ℕ) (u : UUID) :
    Quiet s (s.compareExecution durable texts originalRequestId replayRequestId now comparisonId faults) u := by
  have hcompare : ∀ (s : ReplayEngine) original replay,
      Quiet s (s.compare durable texts original replay now comparisonId faults) u := by
    intro s original replay
    unfold ReplayEngine.compare
    dsimp only
    split_ifs
    · exact (quiet_withStore s _ u).trans (quiet_emit_comparison _ rfl u)
    · exact quiet_withStore s _ u
  have hget : ∀ (s : ReplayEngine) requestId, Quiet s (s.getExecutionRecord texts requestId).2 u :=
    fun s requestId => quiet_withStore s _ u
  unfold compareExecution
  split
  · next hfound =>
    have h := hget s originalRequestId
    rw [hfound] at h
    exact h
  · next s₁ hfound =>
    have hfirst : Quiet s s₁ u := by
      have h := hget s originalRequestId
      rw [hfound] at h
      exact h
    have hsecond := hfirst.trans (hget s₁ replayRequestId)
    split
    · next hfound' =>
      rw [hfound'] at hsecond
      exact hsecond.trans (hcompare _ _ _)
    · next hfound' =>
      rw [hfound'] at hsecond
      exact hsecond

/-- a replay under a new id starts, and may fail at once -/
theorem phase_replay (startedAt : Time) (h : Phase s u) (hnew : s.eventsOf request.replayId = []) :
    Phase (s.replay texts request startedAt) u := by
  let started := s.emit ⟨.replayStarted, request.replayId, some request.replayId, request.sourceRequestId, []⟩
  have hevents : ∀ u, started.eventsOf u = s.eventsOf u ++ if request.replayId = u then [.replayStarted] else [] := by
    intro u
    refine (eventsOf_emit s _ u).trans ?_
    simp
  by_cases hid : request.replayId = u
  · subst hid
    have hunused : s.resultsOf request.replayId = [] ∧ s.waiting request.replayId = 0 := by
      cases h with
      | unused _ hresults hwaiting => exact ⟨hresults, hwaiting⟩
      | started hstarted => cases hstarted.symm.trans hnew
      | finished result _ hreports => cases (hnew ▸ hreports.started : ([] : List ReplayEventType).head? = _)
    have hstarted : started.eventsOf request.replayId = [.replayStarted] := by
      rw [hevents, hnew, if_pos rfl]
      rfl
    unfold ReplayEngine.replay
    dsimp only
    split
    · exact phase_raised _ hstarted rfl hunused.1 hunused.2
    · refine .started hstarted hunused.1 ?_
      rw [waiting, List.countP_append]
      have hold : started.underway.countP (fun r => r.request.replayId = request.replayId) = 0 := hunused.2
      rw [hold]
      simp
  · have hquiet : Quiet s started u := by
      refine ⟨?_, rfl, Nat.le_refl _⟩
      rw [hevents, if_neg hid, List.append_nil]
    refine h.quiet (hquiet.trans ?_)
    unfold ReplayEngine.replay
    dsimp only
    split
    · exact quiet_raised _ _ _ hid
    · refine ⟨rfl, rfl, ?_⟩
      rw [waiting, List.countP_append]
      simp [hid, waiting, started]

/-- the engine without the execution that returns -/
def without (s : ReplayEngine) (place : ℕ) : ReplayEngine := { s with underway := s.underway.eraseIdx place }

theorem waiting_without {place : ℕ} {r : Underway} (hplace : s.underway[place]? = some r) (u : UUID) :
    s.waiting u = (without s place).waiting u + if r.request.replayId = u then 1 else 0 := by
  obtain ⟨hlt, rfl⟩ := List.getElem?_eq_some_iff.1 hplace
  rw [waiting, ← (List.getElem_cons_eraseIdx_perm hlt).countP_eq, List.countP_cons]
  simp only [decide_eq_true_eq]
  rfl

/-- a replay whose execution has not returned has only been started -/
theorem Phase.of_place (h : Phase s u) {place : ℕ} {r : Underway} (hplace : s.underway[place]? = some r)
    (hid : r.request.replayId = u) :
    s.eventsOf u = [.replayStarted] ∧ s.resultsOf u = [] ∧ (without s place).waiting u = 0 := by
  have hwaits := waiting_without hplace u
  rw [if_pos hid] at hwaits
  cases h with
  | unused _ _ hwaiting => omega
  | started hevents hresults hwaiting => exact ⟨hevents, hresults, by omega⟩
  | finished _ _ _ hwaiting => omega

theorem quiet_without (s : ReplayEngine) (place : ℕ) (u : UUID) : Quiet s (without s place) u :=
  ⟨rfl, rfl, (List.eraseIdx_sublist s.underway place).countP_le⟩

theorem phase_step {op : ReplayOp} (h : Phase s u) (hnew : s.NewId op) : Phase (s.step durable texts op) u := by
  cases op with
  | captureFromEntry entry round => exact h.quiet (quiet_withStore s _ u)
  | replayRequest source replayId now =>
    replace hnew : s.eventsOf replayId = [] := hnew
    cases source with
    | requestId requestId =>
      have hloaded : Phase (s.getExecutionRecord texts requestId).2 u := h.quiet (quiet_withStore s _ u)
      have hnew' : (s.getExecutionRecord texts requestId).2.eventsOf replayId = [] := hnew
      unfold ReplayEngine.step replayRequest
      dsimp only
      split
      · next hfound =>
        rw [hfound] at hloaded hnew'
        exact phase_replay now hloaded hnew'
      · next hfound =>
        rw [hfound] at hloaded
        exact hloaded
    | record record => exact phase_replay now h hnew
    | payload payload => exact phase_replay now h hnew
  | returned place entry round =>
    unfold ReplayEngine.step
    dsimp only
    split
    · exact h
    · next r hplace =>
      by_cases hid : r.request.replayId = u
      · obtain ⟨hevents, hresults, hwaiting⟩ := h.of_place hplace hid
        subst hid
        exact phase_resume (without s place) r entry round hevents hresults hwaiting
      · exact h.quiet ((quiet_without s place u).trans (quiet_resume (without s place) r entry round hid))
  | raised place error =>
    unfold ReplayEngine.step
    dsimp only
    split
    · exact h
    · next r hplace =>
      by_cases hid : r.request.replayId = u
      · obtain ⟨hevents, hresults, hwaiting⟩ := h.of_place hplace hid
        subst hid
        exact phase_raised (s := without s place) error hevents rfl hresults hwaiting
      · exact h.quiet ((quiet_without s place u).trans (quiet_raised (without s place) _ error hid))
  | cancelled place => exact h.quiet (quiet_without s place u)
  | getExecutionRecord requestId => exact h.quiet (quiet_withStore s _ u)
  | compareExecution originalRequestId replayRequestId now comparisonId faults =>
    exact h.quiet (quiet_compareExecution s originalRequestId replayRequestId now comparisonId faults u)
  | recover => exact h.quiet (quiet_withStore s _ u)
  | restart => exact h.quiet ⟨rfl, rfl, Nat.zero_le _⟩

theorem run_phase {ops : List ReplayOp} (hnew : Meets (ReplayEngine.step durable texts) NewId .init ops) (u : UUID) :
    Phase (run (ReplayEngine.step durable texts) .init ops) u :=
  hnew.run_inv (I := fun s => Phase s u) (fun _ _ h ho => phase_step h ho) (.unused rfl rfl rfl)

/-- **The protocol.** Where every replay gets a new id, the engine returns one result for a replay at most, and it tells
exactly what was emitted of the replay, in its order: an outcome other than COMPLETED exactly if a failure was among it,
and a record, captured under the replay's ids, exactly if there is no error. Before it returns, or if it never does, a
replay is started or not, and nothing else. -/
theorem replay_protocol (durable : Bool) (texts : Texts) {ops : List ReplayOp}
    (hnew : Meets (ReplayEngine.step durable texts) NewId .init ops) (u : UUID) :
    let s := run (ReplayEngine.step durable texts) .init ops
    (∀ result ∈ s.resultsOf u, s.resultsOf u = [result] ∧ Reports (s.eventsOf u) result) ∧
      (s.resultsOf u = [] → s.eventsOf u = [] ∨ s.eventsOf u = [.replayStarted]) ∧
      ∀ r ∈ s.underway, r.request.replayId = u → s.eventsOf u = [.replayStarted] ∧ s.resultsOf u = [] := by
  intro s
  have hwaits : ∀ r ∈ s.underway, r.request.replayId = u → 0 < s.waiting u := by
    intro r hr hid
    exact List.countP_pos_iff.2 ⟨r, hr, decide_eq_true hid⟩
  cases run_phase hnew u with
  | unused hevents hresults hwaiting =>
    refine ⟨fun result h => ?_, fun _ => .inl hevents, fun r hr hid => ?_⟩
    · rw [hresults] at h
      cases h
    · exact absurd hwaiting (hwaits r hr hid).ne'
  | started hevents hresults hwaiting =>
    refine ⟨fun result h => ?_, fun _ => .inr hevents, fun _ _ _ => ⟨hevents, hresults⟩⟩
    rw [hresults] at h
    cases h
  | finished result hresults hreports hwaiting =>
    refine ⟨fun result' h => ?_, fun hnone => ?_, fun r hr hid => ?_⟩
    · rw [hresults] at h
      obtain rfl := List.mem_singleton.1 h
      exact ⟨hresults, hreports⟩
    · cases hnone.symm.trans hresults
    · exact absurd hwaiting (hwaits r hr hid).ne'

/-! ### A replay that is served -/

def sampleSubmit : SubmitRequest where
  inferenceRequest :=
    { requestId := 1, model := ⟨"m", by decide⟩, messages := ⟨[⟨.user, "hi"⟩], by decide⟩, stream := false
      maxTokens := ⟨16, by decide⟩ }
  requestContext :=
    { requestId := 1, traceId := ⟨"trace", by decide⟩, spanId := ⟨"span", by decide⟩, arrivalTime := 0, model := "m"
      stream := false, gatewayInstanceId := "gateway" }

def servedAs (submit : SubmitRequest) : Entry := { submit, state := .completed }

/-- request 1 is captured, and replayed as 2 -/
def servedReplay : List ReplayOp :=
  [.captureFromEntry (servedAs sampleSubmit) { now := 1 }, .replayRequest (.requestId 1) 2 2,
    .returned 0 (servedAs (sampleSubmit.replayedAs Persistence.sampleTexts 2))
      { capture := { now := 3 }, completedAt := 4 }]

theorem replay_protocol_served :
    let s := run (ReplayEngine.step true Persistence.sampleTexts) .init servedReplay
    s.eventsOf 2 = [.replayStarted, .replayCompleted, .requestReplayed] ∧
      ∀ result ∈ s.resultsOf 2, s.resultsOf 2 = [result] ∧ Reports (s.eventsOf 2) result := by
  refine ⟨by decide +kernel, ?_⟩
  exact (@replay_protocol true Persistence.sampleTexts servedReplay ⟨trivial, rfl, trivial, trivial⟩ 2).1

end InferencePlatform.Replay
