/-
Durability: which operations of the repository are there when the database is opened again.

All operations share one connection. `persistExecutionRecord`, `persistReplayResult` and `commit` end the transaction;
the saves and deletes leave it open, for a commit that may come later, and for the rollback of a persist that raises.

- `durability`: which operations commit and which roll back; an operation is there after the database is opened again if
  a commit comes with it or after it before a rollback, and is lost otherwise, with all up to the first rollback; a
  persist that raises goes back to what is committed;
- `saves_lost`: a save without a commit, one before a persist that raises, and one that a save that raises in the middle
  has deleted.
-/
import InferencePlatform.Persistence.DurableStore

namespace InferencePlatform.Persistence

open InferencePlatform.Core (Meets run)
open InferencePlatform.Core.Sql
open Replay

inductive RepositoryOp
  | saveRequest (metadata : RequestMetadata)
  | saveTransitions (requestId : UUID) (transitions : List LifecycleTransition)
  | saveSchedulerDecisions (decisions : List SchedulerDecision)
  | saveBatchDecisions (decisions : List BatchDecision)
  | saveFailures (failures : List PersistedFailureRecord)
  | saveRecord (record : RequestExecutionRecord)
  | saveSummary (summary : TraceSummary)
  | saveReplay (replay : ReplayExecution)
  | saveComparison (comparison : ReplayComparisonRecord)
  | deleteRecord (requestId : UUID)
  | deleteRequest (requestId : UUID)
  | persistExecutionRecord (call : PersistCall)
  | persistReplayResult (result : ReplayResult) (startedAt completedAt : Time)
    (comparison : Option (ExecutionComparison × UUID))
  | commit

variable (texts : Texts)

def RepositoryOp.operation : RepositoryOp → Operation schema
  | saveRequest metadata => { body := Persistence.saveRequest texts metadata }
  | saveTransitions requestId transitions => { body := Persistence.saveTransitions texts requestId transitions }
  | saveSchedulerDecisions decisions => { body := Persistence.saveSchedulerDecisions texts decisions }
  | saveBatchDecisions decisions => { body := Persistence.saveBatchDecisions texts decisions }
  | saveFailures failures => { body := Persistence.saveFailures texts failures }
  | saveRecord record => { body := Persistence.saveRecord texts record }
  | saveSummary summary => { body := Persistence.saveSummary texts summary }
  | saveReplay replay => { body := Persistence.saveReplay texts replay }
  | saveComparison comparison => { body := Persistence.saveComparison texts comparison }
  | deleteRecord requestId => { body := Persistence.deleteRecord texts requestId }
  | deleteRequest requestId => { body := Persistence.deleteRequest texts requestId }
  | persistExecutionRecord call => Persistence.persistExecutionRecord texts call
  | persistReplayResult result startedAt completedAt comparison =>
    Persistence.persistReplayResult texts result startedAt completedAt comparison
  | commit => { body := [], commits := true }

/-- each operation with its fault, for the connection -/
def performed (history : List (RepositoryOp × Option ℕ)) : List (Operation schema × Option ℕ) :=
  history.map fun o => (o.1.operation texts, o.2)

variable {texts}

/-- only a persist rolls back -/
theorem rollsBack_iff (op : RepositoryOp) :
    (op.operation texts).rollsBack = true ↔ ∃ call, op = .persistExecutionRecord call := by
  constructor
  · intro h
    cases op with
    | persistExecutionRecord call => exact ⟨call, rfl⟩
    | _ => exact absurd h Bool.false_ne_true
  · rintro ⟨call, rfl⟩
    rfl

/-- only the two persists and `commit` commit -/
theorem commits_iff (op : RepositoryOp) :
    (op.operation texts).commits = true ↔ op = .commit ∨ (∃ call, op = .persistExecutionRecord call) ∨
      ∃ result startedAt completedAt comparison, op = .persistReplayResult result startedAt completedAt comparison := by
  constructor
  · intro h
    cases op with
    | commit => exact Or.inl rfl
    | persistExecutionRecord call => exact Or.inr (Or.inl ⟨call, rfl⟩)
    | persistReplayResult result startedAt completedAt comparison => exact Or.inr (Or.inr ⟨_, _, _, _, rfl⟩)
    | _ => exact absurd h Bool.false_ne_true
  · rintro (rfl | ⟨call, rfl⟩ | ⟨result, startedAt, completedAt, comparison, rfl⟩)
    · rfl
    · rfl
    · rfl

theorem performed_suffix {post : List (RepositoryOp × Option ℕ)} {rest : List (Operation schema × Option ℕ)}
    (h : rest <:+ performed texts post) : ∃ rest', rest' <:+ post ∧ rest = performed texts rest' := by
  obtain ⟨first, hparts⟩ := h
  obtain ⟨first', rest', rfl, -, rfl⟩ := List.map_eq_append_iff.1 hparts.symm
  exact ⟨rest', List.suffix_append first' rest', rfl⟩

/-- an operation in any state of the database, and what follows before the connection is closed -/
theorem durability (texts : Texts) (c : Connection schema) (o : RepositoryOp × Option ℕ)
    (post : List (RepositoryOp × Option ℕ)) :
    let op := (o.1.operation texts, o.2)
    let after := c.step op
    let last := run Connection.step after (performed texts post)
    (c.Commits op ↔ (o.1 = .commit ∨ (∃ call, o.1 = .persistExecutionRecord call) ∨
      ∃ result startedAt completedAt comparison, o.1 = .persistReplayResult result startedAt completedAt comparison) ∧
      c.Returns op) ∧
      (c.RollsBack op ↔ (∃ call, o.1 = .persistExecutionRecord call) ∧ ¬c.Returns op) ∧
      (CommittedBy c (op :: performed texts post) → ∀ a, Spared a after (performed texts post) →
      last.reopened.working.row? a = after.working.row? a) ∧
      (¬CommittedBy c (op :: performed texts post) → ∃ rest, rest <:+ post ∧
        performed texts rest = afterRollback c (op :: performed texts post) ∧
        last.reopened = (run Connection.step c.reopened (performed texts rest)).reopened) ∧
      ((∃ call, o.1 = .persistExecutionRecord call) → ¬c.Returns op → after = c.reopened) := by
  intro op after last
  refine ⟨and_congr_left fun _ => commits_iff o.1, and_congr_left fun _ => rollsBack_iff o.1, ?_, ?_, ?_⟩
  · intro hby a hspared
    rcases hby with hcommits | ⟨-, hby⟩
    · have hcommitted : after.committed = after.working := by
        rw [show after = _ from Connection.step_of_commits hcommits]
        rfl
      exact run_kept (congrFun (congrArg Database.row? hcommitted) a) rfl hspared
    · exact run_survives rfl hby hspared
  · intro hlost
    obtain ⟨rest, hsuffix, hrest⟩ := performed_suffix (afterRollback_suffix c (op :: performed texts post))
    exact ⟨rest, hsuffix, hrest.symm, congrArg Connection.opened ((run_lost hlost).trans (by rw [hrest]))⟩
  · intro hpersist hraises
    exact Connection.step_of_rollsBack ⟨(rollsBack_iff o.1).2 hpersist, hraises⟩

/-! ## Saves that are lost, and one that is not -/

def sampleTransition : LifecycleTransition :=
  { requestId := 1, sequenceNum := 0, eventType := "request_completed", fromState := some "ACTIVE"
    toState := some "COMPLETED", timestamp := 0 }

def sampleSave : Operation schema × Option ℕ := ((RepositoryOp.saveRecord (sampleRecord 0)).operation sampleTexts, none)

def samplePersist : Operation schema × Option ℕ :=
  ((RepositoryOp.persistExecutionRecord (sampleCall 1)).operation sampleTexts, some 0)

def sampleCommit : Operation schema × Option ℕ := (RepositoryOp.commit.operation sampleTexts, none)

/-- the fault is after the DELETE for the transitions of the request -/
def sampleTransitions (fault : Option ℕ) : Operation schema × Option ℕ :=
  ((RepositoryOp.saveTransitions 1 [sampleTransition]).operation sampleTexts, fault)

/-- a save before a commit, and a persist that raises after it -/
theorem durability_saved :
    let saved := (Connection.opened (S := schema) .empty).step sampleSave
    let a : Address schema := ⟨TableName.executionRecords, sampleTexts.uuidText 1⟩
    (run Connection.step saved [sampleCommit, samplePersist]).reopened.working.row? a = saved.working.row? a ∧
      saved.working.row? a = some (executionRecordRow sampleTexts (sampleRecord 0)) := by
  intro saved a
  have hraises : (saved.step sampleCommit).RollsBack samplePersist := ⟨rfl, Bool.false_ne_true⟩
  have hspared : Spared a saved [sampleCommit, samplePersist] := by
    refine ⟨Or.inr ?_, Or.inl hraises, trivial⟩
    rintro ⟨s, hs, -⟩
    cases hs
  have hby : CommittedBy (.opened .empty) [sampleSave, sampleCommit, samplePersist] :=
    Or.inr ⟨fun h => Bool.false_ne_true h.1, Or.inl ⟨rfl, rfl⟩⟩
  refine ⟨?_, rfl⟩
  exact (durability sampleTexts (.opened .empty) (.saveRecord (sampleRecord 0), none)
    [(.commit, none), (.persistExecutionRecord (sampleCall 1), some 0)]).2.2.1 hby a hspared

/-- a save that is lost when the connection is closed; the same save, visible until a persist raises; and transitions
that were committed, and that a save that raised has deleted -/
theorem saves_lost :
    let c := Connection.opened (S := schema) .empty
    let saved := c.step sampleSave
    let transitions := run Connection.step c [sampleTransitions none, sampleCommit]
    let raised := run Connection.step transitions [sampleTransitions (some 1), sampleCommit]
    c.Returns sampleSave ∧ (recordTable saved.working).rows.length = 1 ∧
      (recordTable saved.reopened.working).rows = [] ∧
      ¬saved.Returns samplePersist ∧ (recordTable (saved.step samplePersist).working).rows = [] ∧
      ¬transitions.Returns (sampleTransitions (some 1)) ∧
      (transitionTable transitions.reopened.working).rows.length = 1 ∧
      (transitionTable raised.reopened.working).rows = [] := by
  refine ⟨rfl, rfl, rfl, ?_, rfl, ?_, rfl, rfl⟩
  · exact Bool.false_ne_true
  · exact Bool.false_ne_true

end InferencePlatform.Persistence
