/-
A second retirement of one member.

`set_status` overwrites the status it finds. The batch is guarded: what closes a batch looks at its state first, and a
batch that a member's failure has closed is terminal for good. The member is not, so a report that comes late replaces
the first one, and a late failure closes a healthy batch.

`first_retirement_iff`: in any state, a further retirement of a retired member changes nothing but the log exactly when
it asks for the status the member has.
-/
import InferencePlatform.Batching.Invariant

namespace InferencePlatform.Batching

open InferencePlatform.Core (Dict run)

variable {cfg : EngineConfig} {e : ContinuousBatchEngine}

/-! ## The property -/

/-- the request an operation retires, and the status it asks for -/
def EngineOp.retirement : EngineOp → Option (UUID × MemberStatus)
  | .placeSelected .. => none
  | .completeRequest _ rid => some (rid, .completed)
  | .failRequest _ rid _ => some (rid, .failed)
  | .cancelRequest _ rid => some (rid, .cancelled)

/-- `ActiveRequestSet.get`, in the set of a batch -/
def ContinuousBatchEngine.member (e : ContinuousBatchEngine) (id rid : UUID) : Option BatchMember :=
  (e.sets.get? id).bind fun s => s.byId.get? rid

/-- no member, no batch state and no pointer has changed -/
structure Unmoved (e e' : ContinuousBatchEngine) : Prop where
  member : ∀ id rid, e'.member id rid = e.member id rid
  state : ∀ id, (e'.batches.get? id).map Batch.state = (e.batches.get? id).map Batch.state
  pointer : ∀ model, e'.activeBatchByModel.get? model = e.activeBatchByModel.get? model

/-! ## A failed member's batch is terminal -/

def FailedTerminal (e : ContinuousBatchEngine) : Prop :=
  ∀ id b, e.batches.get? id = some b → ∀ rid m, e.member id rid = some m → m.status = .failed →
    b.state ∈ batchTerminalStates

theorem FailedTerminal.target (hf : FailedTerminal e) {model : String} {now : Time} {batch : Option Batch}
    {e₀ : ContinuousBatchEngine} {id : UUID} {b : Batch} (ht : Target cfg e model now batch e₀ id b) :
      FailedTerminal e₀ := by
  cases ht with
  | existing => exact hf
  | fresh hfree =>
    intro id' b' hb' rid m hm hstatus
    simp only [ContinuousBatchEngine.member, ContinuousBatchEngine.opened, Dict.get?_set] at hb' hm
    split_ifs at hb' hm with hid
    · simp [ActiveRequestSet.empty] at hm
    · exact hf id' b' hb' rid m hm hstatus

/-- a request joins an open batch, which has no failed member -/
theorem FailedTerminal.joined (h : Inv cfg e) (hf : FailedTerminal e) {now : Time} {item : QueueItem}
    {id : UUID} {b : Batch} {s : ActiveRequestSet} (hj : Joins cfg now item e id b s) (events : List BatchEvent) :
    FailedTerminal (e.joined cfg id b s item now events) := by
  have hopen := (h.setOf hj.batch hj.set).isOpen_iff_not_terminal.1 hj.isOpen
  intro id' b' hb' rid m hm hstatus
  simp only [ContinuousBatchEngine.member, ContinuousBatchEngine.joined, Dict.get?_set] at hb' hm
  split_ifs at hb' hm with hid
  · simp only [Option.bind_some, ActiveRequestSet.insert, Dict.get?_set] at hm
    split_ifs at hm with hrid
    · cases hm
      cases hstatus
    · refine absurd (hf id b hj.batch rid m ?_ hstatus) hopen
      rw [ContinuousBatchEngine.member, hj.set]
      exact hm
  · exact hf id' b' hb' rid m hm hstatus

/-- a failure leaves the batch terminal, and no retirement opens one -/
theorem FailedTerminal.retired (hf : FailedTerminal e) {rid id : UUID} {b : Batch}
    {s : ActiveRequestSet} {m : BatchMember}
    (hh : Holds e rid id b s m) (status : MemberStatus) (reason : String) (now : Time) (events : List BatchEvent) :
    FailedTerminal (e.retired id b (s.withStatus m rid status) status reason now events) := by
  intro id' b' hb' rid' m' hm hstatus
  simp only [ContinuousBatchEngine.member, ContinuousBatchEngine.retired, Dict.get?_set] at hb' hm
  split_ifs at hb' hm with hid
  · cases hb'
    rw [Batch.afterRetirement_state]
    by_cases hcloses : (b.withMembers (s.withStatus m rid status)).closes (s.withStatus m rid status) status
    · rw [if_pos hcloses]
      split_ifs
      · decide
      · decide
    · rw [if_neg hcloses]
      simp only [Option.bind_some, ActiveRequestSet.withStatus, Dict.get?_set] at hm
      split_ifs at hm with hrid
      · cases hm
        obtain rfl : status = .failed := hstatus
        rw [Batch.closes, if_pos rfl, not_not] at hcloses
        exact hcloses
      · refine hf id b hh.batch rid' m' ?_ hstatus
        rw [ContinuousBatchEngine.member, hh.set]
        exact hm
  · exact hf id' b' hb' rid' m' hm hstatus

theorem failedTerminal_step (h : Inv cfg e) (hf : FailedTerminal e) (o : EngineOp) : FailedTerminal (e.step cfg o) := by
  have hretire : ∀ rid status reason now, FailedTerminal ((retireRequest rid status reason now).final e) := by
    intro rid status reason now
    rcases retireRequest_cases h rid status reason now with ⟨-, r, hrun⟩ | ⟨id, b, s, m, r, events, hh, hrun⟩
    · rw [EngineM.final_ok hrun]
      exact hf
    · rw [EngineM.final_ok hrun]
      exact hf.retired hh status reason now events
  cases o with
  | placeSelected inj now item =>
    rcases placeSelected_cases h inj now item with ⟨d, events, hrun, -⟩ | ⟨err, events, hrun, -⟩ |
      ⟨batch, e₀, id, b, s, reason, events, -, ht, hj, hrun⟩
    · rw [ContinuousBatchEngine.step, EngineM.final_ok hrun]
      exact hf
    · rw [ContinuousBatchEngine.step, EngineM.final_error hrun]
      exact hf
    · rw [ContinuousBatchEngine.step, EngineM.final_ok hrun]
      exact (hf.target ht).joined (ht.inv h) hj events
  | completeRequest now rid => exact hretire rid .completed _ now
  | failRequest now rid reason => exact hretire rid .failed reason now
  | cancelRequest now rid => exact hretire rid .cancelled _ now

theorem failedTerminal_run (cfg : EngineConfig) (ops : List EngineOp) :
    FailedTerminal (run (ContinuousBatchEngine.step cfg) ContinuousBatchEngine.init ops) := by
  have hinit : FailedTerminal ContinuousBatchEngine.init := fun id b hb => by simp [ContinuousBatchEngine.init] at hb
  exact (Core.run_inv (I := fun e => Inv cfg e ∧ FailedTerminal e)
    (fun _ o h => ⟨step_inv h.1 o, failedTerminal_step h.1 h.2 o⟩) ops ⟨inv_init cfg, hinit⟩).2

/-! ## A further retirement -/

/-- every operation that retires is `_retire_request_locked` with a status that is not ACTIVE -/
theorem step_retirement (cfg : EngineConfig) (e : ContinuousBatchEngine) {o : EngineOp} {rid : UUID}
    {status : MemberStatus} (ho : o.retirement = some (rid, status)) :
    ∃ reason now, e.step cfg o = (retireRequest rid status reason now).final e := by
  cases o with
  | placeSelected inj now item => cases ho
  | completeRequest now rid =>
    cases ho
    exact ⟨_, now, rfl⟩
  | failRequest now rid reason =>
    cases ho
    exact ⟨reason, now, rfl⟩
  | cancelRequest now rid =>
    cases ho
    exact ⟨_, now, rfl⟩

/-- the same status once more: the batch is not closed by it either -/
theorem retired_same (h : Inv cfg e) (hf : FailedTerminal e) {rid id : UUID} {b : Batch} {s : ActiveRequestSet}
    {m : BatchMember} (hh : Holds e rid id b s m) (reason : String) (now : Time) (events : List BatchEvent) :
    e.retired id b (s.withStatus m rid m.status) m.status reason now events = e.logged events := by
  have hbi := h.setOf hh.batch hh.set
  have hset : s.withStatus m rid m.status = s := by
    rw [ActiveRequestSet.withStatus, Dict.set_get? hh.member]
  have hmembers : b.withMembers s = b := by rw [Batch.withMembers, ← hbi.members]
  have hcloses : ¬b.closes s m.status := by
    rw [Batch.closes]
    by_cases hfailed : m.status = .failed
    · rw [if_pos hfailed, not_not]
      exact hf id b hh.batch rid m (by rw [ContinuousBatchEngine.member, hh.set]; exact hh.member) hfailed
    · rw [if_neg hfailed]
      rintro ⟨hzero, hactive⟩
      have hlive := hbi.live hactive
      rw [hbi.activeCount, hzero] at hlive
      exact hlive.false
  rw [ContinuousBatchEngine.retired, hset, hmembers, Batch.afterRetirement, if_neg hcloses, if_neg hcloses,
    Dict.set_get? hh.batch, Dict.set_get? hh.set]
  rfl

/-- in any state of a run, a further retirement of a retired member leaves everything as it is exactly when it asks for
the status the member has -/
theorem first_retirement_iff (cfg : EngineConfig) (ops : List EngineOp) (o : EngineOp) (id rid : UUID) (m : BatchMember)
    (status : MemberStatus) (ho : o.retirement = some (rid, status))
    (hm : (run (ContinuousBatchEngine.step cfg) ContinuousBatchEngine.init ops).member id rid = some m)
    (hretired : m.status ≠ .active) :
    let e := run (ContinuousBatchEngine.step cfg) ContinuousBatchEngine.init ops
    Unmoved e (e.step cfg o) ↔ m.status = status := by
  intro e
  have h : Inv cfg e := run_inv cfg ops
  have hf : FailedTerminal e := failedTerminal_run cfg ops
  obtain ⟨reason, now, hstep⟩ := step_retirement cfg e ho
  obtain ⟨s', hs', hm'⟩ := Option.bind_eq_some_iff.1 hm
  have hbatched := (h.request rid id).2 ⟨s', m, hs', hm'⟩
  rcases retireRequest_cases h rid status reason now with ⟨hnone, -⟩ | ⟨id', b, s, m', r, events, hh, hrun⟩
  · rw [hbatched] at hnone
    cases hnone
  obtain rfl : id' = id := Option.some.inj (hh.request.symm.trans hbatched)
  obtain rfl : s = s' := Option.some.inj (hh.set.symm.trans hs')
  obtain rfl : m' = m := Option.some.inj (hh.member.symm.trans ‹_›)
  rw [hstep, EngineM.final_ok hrun]
  constructor
  · intro hunmoved
    have hoverwritten := hunmoved.member id' rid
    rw [hm, ContinuousBatchEngine.member] at hoverwritten
    simp only [ContinuousBatchEngine.retired, Dict.get?_set_self, Option.bind_some, ActiveRequestSet.withStatus,
      Option.some.injEq] at hoverwritten
    exact (congrArg BatchMember.status hoverwritten).symm
  · rintro rfl
    rw [retired_same h hf hh]
    exact ⟨fun _ _ => rfl, fun _ => rfl, fun _ => rfl⟩

/-- two requests fill a batch and the first completes -/
def completeOneOfTwo : List EngineOp :=
  [.placeSelected {} 0 (plainItem 1 "m"), .placeSelected {} 1 (plainItem 2 "m"), .completeRequest 2 1]

/-- its completion is reported once more, and nothing changes -/
theorem second_completion :
    let e := run (ContinuousBatchEngine.step smallConfig) ContinuousBatchEngine.init completeOneOfTwo
    Unmoved e (e.step smallConfig (.completeRequest 3 1)) := by
  exact (first_retirement_iff smallConfig completeOneOfTwo (.completeRequest 3 1) 0 1
    { requestId := 1, slotIndex := 0, model := "m", correlationId := "t", addedAt := 0, status := .completed }
      .completed
    rfl (by decide) (by decide)).2 rfl

/-- a failure that is reported after the completion: the member is failed, and its batch with the request still in it -/
theorem late_failure :
    let e := run (ContinuousBatchEngine.step smallConfig) ContinuousBatchEngine.init completeOneOfTwo
    let e' := e.step smallConfig (.failRequest 3 1 "timeout")
    (e.member 0 1).map BatchMember.status = some .completed ∧ (e.batches.get? 0).map Batch.state = some .active ∧
      (e'.member 0 1).map BatchMember.status = some .failed ∧ (e'.batches.get? 0).map Batch.state = some .failed ∧
      e.activeBatchByModel.get? "m" = some 0 ∧ e'.activeBatchByModel.get? "m" = none ∧ ¬Unmoved e e' := by
  intro e e'
  have hbefore : (e.batches.get? 0).map Batch.state = some .active := by decide
  have hafter : (e'.batches.get? 0).map Batch.state = some .failed := by decide
  refine ⟨by decide, hbefore, by decide, hafter, by decide, by decide, fun h => ?_⟩
  have hstate := h.state 0
  rw [hbefore, hafter] at hstate
  cases hstate

end InferencePlatform.Batching
