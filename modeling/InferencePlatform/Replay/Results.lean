/-
What the replay engine writes about its replays, over runs with faults and restarts.

The row of a result is written and committed before the result is returned, on the connection that the captures and the
comparisons use as well. An engine whose commit raises returns an error and leaves the row in an open transaction, which
the next commit takes along. So `Lists` says of the committed table, and of what the connection sees, that every result
without an error has its row there, and that every row is of a replay that was concluded as the row says.

- `results_durable`: the committed table is so after every run in which every replay gets a new id.
-/
import InferencePlatform.Replay.Engine

namespace InferencePlatform.Replay

open InferencePlatform.Core (Meets run)
open InferencePlatform.Core.Sql
open InferencePlatform.Persistence (Texts DurableExecutionRecordStore PersistCall ReplayOutcome RepositoryOp)
open InferencePlatform.Observability
open ReplayEngine

variable {texts : Texts} {s s' : ReplayEngine} {u : UUID} {request : ReplayRequest}

/-! ## The table -/

def replayTable (db : Database Persistence.schema) : Table Persistence.ReplayRow.replayId :=
  db Persistence.TableName.replayExecutions

/-- the row that is written for a result -/
def RowOf (texts : Texts) (result : ReplayResult) (row : Persistence.ReplayRow) : Prop :=
  ∃ startedAt completedAt,
    row = Persistence.replayRow texts
      (Persistence.replayExecutionFromResult result.toReplayResult startedAt completedAt)

/-- a row is one of a replay that has been concluded so -/
def Ended (texts : Texts) (s : ReplayEngine) (row : Persistence.ReplayRow) : Prop :=
  ∃ u, row.replayId = texts.uuidText u ∧
    (row.outcome = "completed" ∧ .replayCompleted ∈ s.eventsOf u ∨
      row.outcome ≠ "completed" ∧ .replayFailed ∈ s.eventsOf u)

/-- a table that has the row of every result without an error, and of concluded replays only -/
structure Lists (texts : Texts) (s : ReplayEngine) (T : Table Persistence.ReplayRow.replayId) : Prop where
  kept : ∀ result ∈ s.results, result.error = none →
    ∃ row, RowOf texts result row ∧ T.row? (texts.uuidText result.replayId) = some row
  ended : ∀ row ∈ T.rows, Ended texts s row

/-- the events only grow, and the new results have errors -/
structure Continues (s s' : ReplayEngine) : Prop where
  events : ∀ u, s.eventsOf u ⊆ s'.eventsOf u
  results : ∀ result ∈ s'.results, result.error = none → result ∈ s.results

variable {T : Table Persistence.ReplayRow.replayId}

theorem Lists.mono (h : Lists texts s T) (hcontinues : Continues s s') : Lists texts s' T where
  kept := fun result hresult herror => h.kept result (hcontinues.results result hresult herror) herror
  ended := by
    intro row hrow
    obtain ⟨u, hid, houtcome⟩ := h.ended row hrow
    exact ⟨u, hid, houtcome.imp (And.imp_right (@hcontinues.events u _)) (And.imp_right (@hcontinues.events u _))⟩

theorem Continues.refl (s : ReplayEngine) : Continues s s := ⟨fun _ _ h => h, fun _ h _ => h⟩

theorem Continues.trans {s'' : ReplayEngine} (h : Continues s s') (h' : Continues s' s'') : Continues s s'' :=
  ⟨fun u _ hmem => h'.events u (h.events u hmem),
    fun result hmem herror => h.results result (h'.results result hmem herror) herror⟩

theorem continues_emit (s : ReplayEngine) (event : ReplayEvent) : Continues s (s.emit event) := by
  refine ⟨fun u => ?_, fun _ h _ => h⟩
  rw [eventsOf_emit]
  exact List.subset_append_left _ _

theorem continues_withStore (s : ReplayEngine) (store : DurableExecutionRecordStore) :
    Continues s (s.withStore store) :=
  ⟨fun _ _ h => h, fun _ h _ => h⟩

theorem continues_raised (s : ReplayEngine) (request : ReplayRequest) (events : List ReplayEventType) (error : String) :
    Continues s (s.raised request events error) := by
  refine ⟨fun u => ?_, fun result hresult herror => ?_⟩
  · rw [eventsOf_raised]
    exact List.subset_append_left _ _
  · rcases List.mem_append.1 hresult with hold | hnew
    · exact hold
    · rw [List.mem_singleton.1 hnew] at herror
      cases herror

theorem continues_conclude (s : ReplayEngine) (request : ReplayRequest) (entry : Entry) (outcome : ReplayOutcome) :
    Continues s (s.conclude texts request entry outcome) := by
  refine ⟨fun u => ?_, fun result hresult _ => ?_⟩
  · rw [eventsOf_conclude]
    exact List.subset_append_left _ _
  · rw [(conclude_fields s request entry outcome).1] at hresult
    exact hresult

/-- what is committed and what is seen -/
def Recorded (texts : Texts) (s : ReplayEngine) (c : Connection Persistence.schema) : Prop :=
  Lists texts s (replayTable c.committed) ∧ Lists texts s (replayTable c.working)

variable {c : Connection Persistence.schema}

theorem Recorded.mono (h : Recorded texts s c) (hcontinues : Continues s s') : Recorded texts s' c :=
  ⟨h.1.mono hcontinues, h.2.mono hcontinues⟩

theorem Recorded.perform (h : Recorded texts s c) (op : Operation Persistence.schema) (fault : Option ℕ)
    (hop : Untouched (S := Persistence.schema) Persistence.TableName.replayExecutions op.body) :
    Recorded texts s (c.perform op fault).1 := by
  obtain ⟨hworking, hcommitted⟩ := perform_untouched hop c fault
  constructor
  · rcases hcommitted with heq | heq
    · rw [replayTable, heq]
      exact h.1
    · rw [replayTable, heq]
      exact h.2
  · rcases hworking with heq | heq
    · rw [replayTable, heq]
      exact h.2
    · rw [replayTable, heq]
      exact h.1

theorem persist_untouched (texts : Texts) (call : PersistCall) :
    Untouched (S := Persistence.schema) Persistence.TableName.replayExecutions
      (Persistence.persistExecutionRecord texts call).body := by
  refine .append (.append (.append (.append (.append (.append ?_ ?_) ?_) ?_) ?_) ?_) ?_
  · exact Persistence.untouched_of_confined (Persistence.saveRequest_confined _) (by decide)
  · exact Persistence.untouched_of_confined (Persistence.saveTransitions_confined _ _) (by decide)
  · exact Persistence.untouched_of_confined (Persistence.saveSchedulerDecisions_confined _) (by decide)
  · exact Persistence.untouched_of_confined (Persistence.saveBatchDecisions_confined _) (by decide)
  · exact Persistence.untouched_of_confined (Persistence.saveFailures_confined _) (by decide)
  · exact Persistence.untouched_of_confined (Persistence.saveRecord_confined _) (by decide)
  · cases call.summary with
    | none => exact fun _ hs => by cases hs
    | some summary => exact Persistence.untouched_of_confined (Persistence.saveSummary_confined summary) (by decide)

theorem Recorded.storeRecord {store : DurableExecutionRecordStore} (h : Recorded texts s store.connection)
    (record : RequestExecutionRecord) (round : CaptureRound) :
    Recorded texts s (storeRecord true texts store record round).1.connection :=
  h.perform _ round.fault (persist_untouched texts _)

/-- the row of a concluded replay goes into a table that has no result of it -/
theorem Lists.replace (h : Lists texts s T) {result : ReplayResult} {row : Persistence.ReplayRow}
    (hrow : RowOf texts result row) (hended : Ended texts s row) (hnone : s.resultsOf result.replayId = []) :
    Lists texts s (T.replace row) ∧ (T.replace row).row? (texts.uuidText result.replayId) = some row := by
  have hkey : row.replayId = texts.uuidText result.replayId := by
    obtain ⟨startedAt, completedAt, rfl⟩ := hrow
    rfl
  refine ⟨⟨fun result' hresult' herror => ?_, fun row' hrow' => ?_⟩, ?_⟩
  · obtain ⟨row', hof, hfound⟩ := h.kept result' hresult' herror
    refine ⟨row', hof, ?_⟩
    have hne : result'.replayId ≠ result.replayId := by
      intro heq
      have hmem : result' ∈ s.resultsOf result.replayId := List.mem_filter.2 ⟨hresult', decide_eq_true heq⟩
      rw [hnone] at hmem
      cases hmem
    rw [Table.row?_replace, if_neg, hfound]
    rw [hkey]
    exact fun htext => hne (Persistence.uuidText_injective htext)
  · rw [Table.rows_replace, List.mem_append, List.mem_singleton, List.mem_filter] at hrow'
    rcases hrow' with ⟨hold, -⟩ | rfl
    · exact h.ended row' hold
    · exact hended
  · rw [Table.row?_replace, if_pos hkey.symm]

theorem Recorded.persistResult {store : DurableExecutionRecordStore} (h : Recorded texts s store.connection)
    (result : ReplayResult) (startedAt completedAt : Time) (fault : Option ℕ) (hnone : s.resultsOf result.replayId = [])
    (hended : ∀ row, RowOf texts result row → Ended texts s row) :
    let persisted := persistResult true texts store result startedAt completedAt fault
    Recorded texts s persisted.1.connection ∧
      (persisted.2 = true → Recorded texts (s.returns result) persisted.1.connection) := by
  intro persisted
  set row := Persistence.replayRow texts
    (Persistence.replayExecutionFromResult result.toReplayResult startedAt completedAt)
    with hrow
  have hof : RowOf texts result row := ⟨startedAt, completedAt, hrow⟩
  have hreplaced := h.2.replace hof (hended row hof) hnone
  set op := Persistence.persistReplayResult texts result.toReplayResult startedAt completedAt none with hop
  have hperformed : persisted.1.connection = (store.connection.perform op fault).1 := rfl
  have hreturns : persisted.2 = (store.connection.perform op fault).2 := rfl
  have hbody : op.body = [Persistence.executeReplace .replayExecutions row, .effect] := rfl
  rw [hperformed, hreturns]
  refine ⟨?_, fun hreturned => ?_⟩
  · obtain ⟨hworking, hcommitted⟩ := perform_replace (S := Persistence.schema) hbody rfl store.connection fault
    constructor
    · rcases hcommitted with heq | heq
      · rw [replayTable, heq]
        exact h.1
      · rw [replayTable, heq]
        exact hreplaced.1
    · rcases hworking with heq | heq
      · rw [replayTable, heq]
        exact h.2
      · rw [replayTable, heq]
        exact hreplaced.1
  · obtain ⟨db, hdoes, hopened⟩ := perform_returns (rfl : op.commits = true) hreturned
    have htable : replayTable db = (replayTable store.connection.working).replace row := Persistence.does_replace hdoes
    have hlists : Lists texts (s.returns result) (replayTable db) := by
      rw [htable]
      refine ⟨fun result' hresult' herror => ?_, hreplaced.1.ended⟩
      rcases List.mem_append.1 hresult' with hold | hnew
      · exact hreplaced.1.kept result' hold herror
      · rw [List.mem_singleton.1 hnew]
        exact ⟨row, hof, hreplaced.2⟩
    rw [hopened]
    exact ⟨hlists, hlists⟩

/-! ### Steps -/

theorem ended_ofEntry {entry : Entry} {events : List ReplayEventType} {record : RequestExecutionRecord}
    {row : Persistence.ReplayRow} (hrow : RowOf texts (.ofEntry request events entry record) row) :
    Ended texts (s.conclude texts request entry (replayOutcomeFromState entry.state.value)) row := by
  obtain ⟨startedAt, completedAt, rfl⟩ := hrow
  refine ⟨request.replayId, rfl, ?_⟩
  rw [eventsOf_conclude, if_pos rfl]
  by_cases houtcome : replayOutcomeFromState entry.state.value = .completed
  · refine .inl ⟨congrArg ReplayOutcome.value houtcome, List.mem_append_right _ ?_⟩
    rw [concluding, if_pos houtcome]
    exact List.mem_cons_self
  · refine .inr ⟨?_, List.mem_append_right _ ?_⟩
    · have hvalue : ∀ outcome : ReplayOutcome, outcome ≠ .completed → outcome.value ≠ "completed" := by
        intro outcome h
        cases outcome <;> simp_all [ReplayOutcome.value]
      exact hvalue _ houtcome
    · rw [concluding, if_neg houtcome]
      exact List.mem_cons_self

theorem recorded_resume (h : Recorded texts s s.executionStore.connection) (r : Underway) (entry : Entry)
    (round : ResumeRound) (hnone : s.resultsOf r.request.replayId = []) :
    Recorded texts (s.resume true texts r entry round)
      (s.resume true texts r entry round).executionStore.connection := by
  have hconclude : Continues s (s.conclude texts r.request entry (replayOutcomeFromState entry.state.value)) :=
    continues_conclude s r.request entry _
  have hstored := fun record => h.storeRecord record round.capture
  have hnone' := (resultsOf_conclude texts s r.request entry (replayOutcomeFromState entry.state.value) _).trans hnone
  have hpersisted := fun record events => ((hstored record).mono hconclude).persistResult
    (.ofEntry r.request events entry record) r.startedAt round.completedAt round.fault hnone'
    (fun _ hrow => ended_ofEntry hrow)
  rcases resume_cases true texts s r entry round with hraised | hraised | ⟨hreturns, hreturned⟩
  · rw [hraised]
    exact (hstored _).mono ((continues_withStore s _).trans (continues_raised _ _ _ _))
  · rw [hraised]
    exact (hpersisted _ _).1.mono ((continues_withStore _ _).trans (continues_raised _ _ _ _))
  · rw [hreturned]
    exact ((hpersisted _ _).2 hreturns).mono ⟨fun _ _ hmem => hmem, fun _ hmem _ => hmem⟩

theorem recorded_replay (h : Recorded texts s s.executionStore.connection) (request : ReplayRequest)
    (startedAt : Time) :
    Recorded texts (s.replay texts request startedAt) (s.replay texts request startedAt).executionStore.connection := by
  unfold ReplayEngine.replay
  dsimp only
  split
  · exact h.mono ((continues_emit s _).trans (continues_raised _ _ _ _))
  · exact h.mono ((continues_emit s _).trans ⟨fun _ _ hmem => hmem, fun _ hmem _ => hmem⟩)

theorem recorded_getExecutionRecord (h : Recorded texts s s.executionStore.connection) (requestId : UUID) :
    Recorded texts (s.getExecutionRecord texts requestId).2
      (s.getExecutionRecord texts requestId).2.executionStore.connection := by
  have hconnection := Persistence.get_connection texts s.executionStore requestId
  have hget : (s.getExecutionRecord texts requestId).2.executionStore.connection = s.executionStore.connection :=
    hconnection
  rw [hget]
  exact h.mono (continues_withStore s _)

theorem recorded_compare (h : Recorded texts s s.executionStore.connection) (original replay : RequestExecutionRecord)
    (now : Time) (comparisonId : UUID) (faults : Option ℕ × Option ℕ) :
    Recorded texts (s.compare true texts original replay now comparisonId faults)
      (s.compare true texts original replay now comparisonId faults).executionStore.connection := by
  have hpersisted : ∀ comparison, Recorded texts s
      (persistComparison true texts s.executionStore comparison comparisonId faults).1.connection := by
    intro comparison
    have hsaved := h.perform
      ((RepositoryOp.saveComparison
        (Persistence.replayComparisonFromExecution comparison comparisonId)).operation texts)
      faults.1
      (Persistence.untouched_of_confined (Persistence.saveComparison_confined _) (by decide))
    have hcommitted := hsaved.perform (RepositoryOp.commit.operation texts) faults.2 (fun _ hs => by cases hs)
    unfold persistComparison
    rw [if_pos rfl]
    dsimp only
    split_ifs
    · exact hcommitted
    · exact hsaved
  unfold ReplayEngine.compare
  dsimp only
  split_ifs
  · exact (hpersisted _).mono ((continues_withStore s _).trans (continues_emit _ _))
  · exact (hpersisted _).mono (continues_withStore s _)

theorem recorded_compareExecution (h : Recorded texts s s.executionStore.connection)
    (originalRequestId replayRequestId : UUID) (now : Time) (comparisonId : UUID) (faults : Option ℕ × Option ℕ) :
    Recorded texts (s.compareExecution true texts originalRequestId replayRequestId now comparisonId faults)
      (s.compareExecution true texts originalRequestId replayRequestId now comparisonId
        faults).executionStore.connection := by
  have hfirst := recorded_getExecutionRecord h originalRequestId
  unfold compareExecution
  split
  · next hfound =>
    rw [hfound] at hfirst
    exact hfirst
  · next hfound =>
    rw [hfound] at hfirst
    have hsecond := recorded_getExecutionRecord hfirst replayRequestId
    split
    · next hfound' =>
      rw [hfound'] at hsecond
      exact recorded_compare hsecond _ _ now comparisonId faults
    · next hfound' =>
      rw [hfound'] at hsecond
      exact hsecond

theorem recorded_step (h : Recorded texts s s.executionStore.connection) (hphase : ∀ u, Phase s u) (op : ReplayOp) :
    Recorded texts (s.step true texts op) (s.step true texts op).executionStore.connection := by
  cases op with
  | captureFromEntry entry round => exact (h.storeRecord _ round).mono (continues_withStore s _)
  | replayRequest source replayId now =>
    cases source with
    | requestId requestId =>
      have hloaded := recorded_getExecutionRecord h requestId
      unfold ReplayEngine.step replayRequest
      dsimp only
      split
      · next hfound =>
        rw [hfound] at hloaded
        exact recorded_replay hloaded _ now
      · next hfound =>
        rw [hfound] at hloaded
        exact hloaded
    | record record => exact recorded_replay h _ now
    | payload payload => exact recorded_replay h _ now
  | returned place entry round =>
    unfold ReplayEngine.step
    dsimp only
    split
    · exact h
    · next r hplace =>
      have hnone := ((hphase r.request.replayId).of_place hplace rfl).2.1
      have hwithout : Recorded texts (without s place) (without s place).executionStore.connection :=
        h.mono ⟨fun _ _ hmem => hmem, fun _ hmem _ => hmem⟩
      exact recorded_resume hwithout r entry round hnone
  | raised place error =>
    unfold ReplayEngine.step
    dsimp only
    split
    · exact h
    · have hwithout : Continues s (without s place) := ⟨fun _ _ hmem => hmem, fun _ hmem _ => hmem⟩
      exact h.mono (hwithout.trans (continues_raised (without s place) _ _ error))
  | cancelled place => exact h.mono ⟨fun _ _ hmem => hmem, fun _ hmem _ => hmem⟩
  | getExecutionRecord requestId => exact recorded_getExecutionRecord h requestId
  | compareExecution originalRequestId replayRequestId now comparisonId faults =>
    exact recorded_compareExecution h originalRequestId replayRequestId now comparisonId faults
  | recover =>
    have hconnection := Persistence.recover_connection texts s.executionStore
    have hrecover : (s.step true texts .recover).executionStore.connection = s.executionStore.connection := hconnection
    rw [hrecover]
    exact h.mono (continues_withStore s _)
  | restart =>
    have hreopened : Recorded texts s s.executionStore.connection.reopened := ⟨h.1, h.1⟩
    exact hreopened.mono ⟨fun _ _ hmem => hmem, fun _ hmem _ => hmem⟩

/-- **What is written is what was returned.** Over a database, the row of every result without an error is committed,
whatever follows, a restart included; and every committed row is of a replay that was concluded as it says, also where
the engine could not write it and returned an error. -/
theorem results_durable (texts : Texts) {ops : List ReplayOp}
    (hnew : Meets (ReplayEngine.step true texts) NewId .init ops) :
    let s := run (ReplayEngine.step true texts) .init ops
    Lists texts s (replayTable s.executionStore.connection.committed) := by
  intro s
  have hempty : Lists texts .init .empty := ⟨fun _ h => absurd h List.not_mem_nil, fun _ h => absurd h List.not_mem_nil⟩
  have hinit : Recorded texts .init ReplayEngine.init.executionStore.connection := ⟨hempty, hempty⟩
  have hrun : (∀ u, Phase s u) ∧ Recorded texts s s.executionStore.connection := by
    refine hnew.run_inv (I := fun s => (∀ u, Phase s u) ∧ Recorded texts s s.executionStore.connection) ?_
      ⟨fun _ => .unused rfl rfl rfl, hinit⟩
    exact fun _ op h ho => ⟨fun u => phase_step (h.1 u) ho, recorded_step h.2 h.1 op⟩
  exact hrun.2.1

/-- the result of replay 2 cannot be committed; the next capture commits its row -/
def lateCommit : List ReplayOp :=
  [.captureFromEntry (servedAs sampleSubmit) { now := 1 }, .replayRequest (.requestId 1) 2 2,
    .returned 0 (servedAs (sampleSubmit.replayedAs Persistence.sampleTexts 2))
      { capture := { now := 3 }, completedAt := 4, fault := some 2, error := "disk I/O error" },
    .captureFromEntry (servedAs sampleSubmit) { now := 5 }]

theorem results_durable_late :
    let s := run (ReplayEngine.step true Persistence.sampleTexts) .init lateCommit
    let T := replayTable s.executionStore.connection.committed
    (s.resultsOf 2).map (fun result => result.outcome) = [.error] ∧
      T.rows.map (fun row => row.outcome) = ["completed"] ∧
      Lists Persistence.sampleTexts s T := by
  refine ⟨by decide +kernel, by decide +kernel, ?_⟩
  exact results_durable Persistence.sampleTexts ⟨trivial, rfl, trivial, trivial, trivial⟩

end InferencePlatform.Replay
