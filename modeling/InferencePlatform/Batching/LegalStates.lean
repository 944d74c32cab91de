/-
One open batch a model, and legal batch states.

An operation takes a batch through several states (FILLING, READY, ACTIVE within one admission), and the model's pointer
is set and cleared in different helpers. Between operations a batch is FILLING with room, ACTIVE with members, COMPLETED
or FAILED, and the pointer names the model's one open batch (`legal_batches`). Since no operation leaves these states,
every transition an operation attempts is one of the table.
-/
import InferencePlatform.Batching.Invariant

namespace InferencePlatform.Batching

open InferencePlatform.Core (Dict run)

variable {cfg : EngineConfig} {e : ContinuousBatchEngine}

/-- the exception of a computation on the engine -/
def EngineM.error? {α : Type} (x : EngineM α) (e : ContinuousBatchEngine) : Option EngineError :=
  match x.run e with
  | .ok _ _ => none
  | .error err _ => some err

theorem EngineM.error?_ok {α : Type} {x : EngineM α} {a : α} {e' : ContinuousBatchEngine}
    (h : EStateM.run x e = .ok a e') : x.error? e = none := by
  simp only [EngineM.error?, h]

theorem EngineM.error?_error {α : Type} {x : EngineM α} {err : EngineError} {e' : ContinuousBatchEngine}
    (h : EStateM.run x e = .error err e') : x.error? e = some err := by
  simp only [EngineM.error?, h]

/-- the exception an operation of the interface raises, if it raises one -/
def EngineOp.error? (cfg : BatchAdmissionConfig) (e : ContinuousBatchEngine) : EngineOp → Option EngineError
  | .placeSelected inj now item => (Batching.placeSelected cfg inj now item).error? e
  | .completeRequest now requestId => (Batching.completeRequest requestId now).error? e
  | .failRequest now requestId reason => (Batching.failRequest requestId reason now).error? e
  | .cancelRequest now requestId => (Batching.cancelRequest requestId now).error? e

structure LegalBatches (cfg : BatchAdmissionConfig) (e : ContinuousBatchEngine) : Prop where
  /-- a model has at most one batch that is not terminal -/
  unique : ∀ id id' b b', e.batches.get? id = some b → e.batches.get? id' = some b' →
    b.context.model = b'.context.model → b.state ∉ batchTerminalStates → b'.state ∉ batchTerminalStates → id = id'
  /-- the pointer is there exactly when that batch is, and names it -/
  pointer : ∀ model id, e.activeBatchByModel.get? model = some id ↔
    ∃ b, e.batches.get? id = some b ∧ b.context.model = model ∧ b.state ∉ batchTerminalStates
  states : ∀ id b, e.batches.get? id = some b → b.state ∈ [BatchState.filling, .active, .completed, .failed]
  active : ∀ id b, e.batches.get? id = some b → b.state = .active → b.activeMembers ≠ []
  filling : ∀ id b, e.batches.get? id = some b → b.state = .filling → b.activeMembers.length < cfg.maxBatchSize

theorem Inv.pointer_iff (h : Inv cfg e) (model : String) (id : UUID) :
    e.activeBatchByModel.get? model = some id ↔
      ∃ b, e.batches.get? id = some b ∧ b.context.model = model ∧ b.state ∉ batchTerminalStates := by
  rw [h.pointer]
  constructor
  · rintro ⟨b, hb, hmodel, hopen⟩
    obtain ⟨s, -, hbi⟩ := h.batch hb
    exact ⟨b, hb, hmodel, hbi.isOpen_iff_not_terminal.1 hopen⟩
  · rintro ⟨b, hb, hmodel, hterminal⟩
    obtain ⟨s, -, hbi⟩ := h.batch hb
    exact ⟨b, hb, hmodel, hbi.isOpen_iff_not_terminal.2 hterminal⟩

theorem Inv.legalBatches (h : Inv cfg e) : LegalBatches cfg e where
  unique id id' b b' hb hb' hmodel hst hst' := by
    have hid := (h.pointer_iff b.context.model id).2 ⟨b, hb, rfl, hst⟩
    have hid' := (h.pointer_iff b.context.model id').2 ⟨b', hb', hmodel.symm, hst'⟩
    rw [hid] at hid'
    exact Option.some.inj hid'
  pointer := h.pointer_iff
  states id b hb := by
    obtain ⟨s, -, hbi⟩ := h.batch hb
    exact hbi.state
  active id b hb hst := by
    obtain ⟨s, -, hbi⟩ := h.batch hb
    have hlive := hbi.live hst
    rw [← b.length_activeMembers] at hlive
    exact List.length_pos_iff.1 hlive
  filling id b hb hst := by
    obtain ⟨s, -, hbi⟩ := h.batch hb
    rw [b.length_activeMembers]
    exact hbi.room hst

/-- a retirement raises nothing -/
theorem Inv.retireRequest_error? (h : Inv cfg e) (rid : UUID) (status : MemberStatus) (reason : String) (now : Time) :
    (retireRequest rid status reason now).error? e = none := by
  rcases retireRequest_cases h rid status reason now with ⟨-, res, hrun⟩ | ⟨id, b, s, m, res, events, -, hrun⟩
  · exact EngineM.error?_ok hrun
  · exact EngineM.error?_ok hrun

/-- what an operation raises has been injected -/
theorem Inv.error?_injected (h : Inv cfg e) {o : EngineOp} {err : EngineError} (herr : o.error? cfg e = some err) :
    ∃ point message, err = .injectedFailure point message := by
  cases o with
  | placeSelected inj now item =>
    rcases placeSelected_cases h inj now item with ⟨d, events, hrun, -⟩ | ⟨err', events, hrun, -, hinjected, -⟩ |
      ⟨batch, e₀, id, b, s, reason, events, -, -, -, hrun⟩
    · rw [EngineOp.error?, EngineM.error?_ok hrun] at herr
      cases herr
    · rw [EngineOp.error?, EngineM.error?_error hrun] at herr
      cases herr
      exact ⟨_, _, hinjected⟩
    · rw [EngineOp.error?, EngineM.error?_ok hrun] at herr
      cases herr
  | completeRequest now rid =>
    rw [EngineOp.error?, Batching.completeRequest, h.retireRequest_error?] at herr
    cases herr
  | failRequest now rid reason =>
    rw [EngineOp.error?, Batching.failRequest, h.retireRequest_error?] at herr
    cases herr
  | cancelRequest now rid =>
    rw [EngineOp.error?, Batching.cancelRequest, h.retireRequest_error?] at herr
    cases herr

/-- **Open-batch uniqueness and legal batch states.** For every valid configuration, after every run of placements and
retirements, with any queue items, clock readings and failure injection; and whatever operation comes next, it raises no
illegal batch transition. -/
theorem legal_batches (cfg : EngineConfig) (ops : List EngineOp) :
    let e := run (ContinuousBatchEngine.step cfg) ContinuousBatchEngine.init ops
    LegalBatches cfg e ∧ ∀ o fromState toState,
      EngineOp.error? cfg e o ≠ some (.invalidBatchTransition fromState toState) := by
  intro e
  have h : Inv cfg e := run_inv cfg ops
  refine ⟨h.legalBatches, fun o fromState toState herr => ?_⟩
  obtain ⟨point, message, hinjected⟩ := h.error?_injected herr
  cases hinjected

end InferencePlatform.Batching
