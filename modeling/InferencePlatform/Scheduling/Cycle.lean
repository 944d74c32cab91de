/-
One scheduling cycle: read the queue, let the policy choose, place the chosen requests in batches.

A cycle runs in a worker thread under a lock of its own, and no call takes a step while it runs, so it is one step at a
time `now`. It holds no state; it works on the control plane (reading the queue drops overdue items), the policy and the
batch engine. An exception ends it: the result reports the failure and no placement, and the placements made so far
stay.

Left out: the cycle's id, its times, its events and the scheduler's process mode, which nothing here reads. A failure
keeps the exception itself.
-/
import InferencePlatform.ControlPlane.Refinement
import InferencePlatform.Dispatch.Submitter
import InferencePlatform.Scheduling.Policies

namespace InferencePlatform.Scheduling

open InferencePlatform.Core (Dict run run_cons run_append)
open InferencePlatform.ControlPlane (ControlPlaneApplication ControlPlaneError listQueueItems)
open InferencePlatform.Batching (ContinuousBatchEngine EngineConfig EngineM EngineOp EngineError BatchPlacementDecision
  BatchRejectionDecision)
open InferencePlatform.Dispatch (BatchDispatchResult)

structure Settings where
  queueScanLimit : ℕ
  maxCandidateRequests : ℕ
  batch : EngineConfig

/-! ## Results -/

inductive CycleError
  | injectedFailure (point : FailurePoint) (message : String)
  | controlPlane (err : ControlPlaneError)
  | engine (err : EngineError)
  deriving DecidableEq, Repr

structure SchedulingResult where
  decisions : List SchedulingDecision := []
  selectedRequestIds : List UUID := []
  skippedRequestIds : List UUID := []
  placementDecisions : List BatchPlacementDecision := []
  rejectionDecisions : List BatchRejectionDecision := []
  dispatchResults : List BatchDispatchResult := []
  failure : Option CycleError := none
  deriving DecidableEq, Repr

/-! ## The cycle -/

/-- what a cycle works on -/
structure CycleState where
  controlPlane : ControlPlaneApplication
  policy : SchedulerPolicy
  engine : ContinuousBatchEngine

/-- place the selected requests, in their order; a request whose item is gone is rejected -/
def placeAll (cfg : EngineConfig) (inj : FailureInjectionConfig) (now : Time) (itemById : Dict UUID QueueItem) :
    List UUID → EngineM (List BatchPlacementDecision × List BatchRejectionDecision)
  | [] => pure ([], [])
  | requestId :: rest => do
    match itemById.get? requestId with
    | none =>
      let (placements, rejections) ← placeAll cfg inj now itemById rest
      return (placements, { requestId, decisionReason := "queue_item_not_found", correlationId := "" } :: rejections)
    | some item =>
      match ← Batching.placeSelected cfg inj now item with
      | .placed d =>
        let (placements, rejections) ← placeAll cfg inj now itemById rest
        return (d :: placements, rejections)
      | .rejected d =>
        let (placements, rejections) ← placeAll cfg inj now itemById rest
        return (placements, d :: rejections)

/-- `{item.request_id: item for item in items}` -/
def itemById (items : List QueueItem) : Dict UUID QueueItem :=
  items.foldl (fun d item => d.set item.requestId item) Dict.empty

/-- the cycle once the queue has been read -/
def scheduleItems (cfg : Settings) (inj : FailureInjectionConfig) (now : Time) (items : List QueueItem)
    (s : CycleState) :
    CycleState × SchedulingResult :=
  let (evaluation, policy) := s.policy.evaluate (itemsToCandidates now items) cfg.maxCandidateRequests
  match EStateM.run (placeAll cfg.batch inj now (itemById items) evaluation.selected) s.engine with
  | .error err engine => ({ s with policy, engine }, { failure := some (.engine err) })
  | .ok (placements, rejections) engine =>
    ({ s with policy, engine },
      { decisions := evaluation.decisions
        selectedRequestIds := evaluation.selected
        skippedRequestIds := evaluation.skipped
        placementDecisions := placements
        rejectionDecisions := rejections })

def runCycle (cfg : Settings) (queue : ControlPlane.QueueCapacityConfig) (inj : FailureInjectionConfig) (now : Time)
    (s : CycleState) : CycleState × SchedulingResult :=
  if inj.isActive .schedulerCrash none then
    (s, { failure := some (.injectedFailure .schedulerCrash inj.message) })
  else if inj.isActive .schedulerTimeout none then
    (s, { failure := some (.injectedFailure .schedulerTimeout inj.message) })
  else
    match EStateM.run (listQueueItems queue cfg.queueScanLimit now) s.controlPlane with
    | .error err controlPlane => ({ s with controlPlane }, { failure := some (.controlPlane err) })
    | .ok items controlPlane => scheduleItems cfg inj now items { s with controlPlane }

/-! ## What a cycle does to the queue and to the engine -/

theorem get?_itemById {items : List QueueItem} {r : UUID} {item : QueueItem} (h : (itemById items).get? r = some item) :
    item ∈ items ∧ item.requestId = r := by
  have key : ∀ (d : Dict UUID QueueItem), (items.foldl (fun d item => d.set item.requestId item) d).get? r = some item →
      (item ∈ items ∧ item.requestId = r) ∨ d.get? r = some item := by
    clear h
    induction items with
    | nil => exact fun d hd => Or.inr hd
    | cons x items ih =>
      intro d hd
      rw [List.foldl_cons] at hd
      rcases ih _ hd with ⟨hmem, hid⟩ | hset
      · exact Or.inl ⟨List.mem_cons_of_mem _ hmem, hid⟩
      · rw [Dict.get?_set] at hset
        split_ifs at hset with hr
        · cases hset
          exact Or.inl ⟨List.mem_cons_self, hr.symm⟩
        · exact Or.inr hset
  rcases key Dict.empty h with hmem | hnone
  · exact hmem
  · simp at hnone

/-- the placements of a cycle, one after the other, whether or not the cycle comes to its end -/
theorem placeAll_final (inj : FailureInjectionConfig) (now : Time) (cfg : EngineConfig) (d : Dict UUID QueueItem)
    (ids : List UUID) (e : ContinuousBatchEngine) :
    ∃ ops : List EngineOp, (placeAll cfg inj now d ids).final e = run (ContinuousBatchEngine.step cfg) e ops ∧
      ∀ o ∈ ops, ∃ r item, d.get? r = some item ∧ o = .placeSelected inj now item := by
  induction ids generalizing e with
  | nil => exact ⟨[], rfl, by simp⟩
  | cons r ids ih =>
    cases hr : d.get? r with
    | none =>
      obtain ⟨ops, hops, hmem⟩ := ih e
      refine ⟨ops, hops ▸ ?_, hmem⟩
      simp only [placeAll, hr, EngineM.final, EStateM.run_bind]
      cases EStateM.run (placeAll cfg inj now d ids) e <;> rfl
    | some item =>
      have hfirst : ∃ r item', d.get? r = some item' ∧
          EngineOp.placeSelected inj now item = .placeSelected inj now item' :=
        ⟨r, item, hr, rfl⟩
      cases hrun : EStateM.run (Batching.placeSelected cfg inj now item) e with
      | error err e₁ =>
        refine ⟨[.placeSelected inj now item], ?_, by simpa using hfirst⟩
        simp only [placeAll, hr, EngineM.final, EStateM.run_bind, hrun, run_cons, Core.run_nil,
          ContinuousBatchEngine.step]
      | ok outcome e₁ =>
        obtain ⟨ops, hops, hmem⟩ := ih e₁
        have hstep : e.step cfg (.placeSelected inj now item) = e₁ := by
          simp only [ContinuousBatchEngine.step, EngineM.final, hrun]
        refine ⟨.placeSelected inj now item :: ops, ?_, ?_⟩
        · rw [run_cons, hstep, ← hops]
          cases outcome with
          | placed p =>
            simp only [placeAll, hr, EngineM.final, EStateM.run_bind, hrun]
            cases EStateM.run (placeAll cfg inj now d ids) e₁ <;> rfl
          | rejected p =>
            simp only [placeAll, hr, EngineM.final, EStateM.run_bind, hrun]
            cases EStateM.run (placeAll cfg inj now d ids) e₁ <;> rfl
        · intro o ho
          rcases List.mem_cons.1 ho with rfl | ho
          · exact hfirst
          · exact hmem o ho

/-- the reader's items are those that wait, as far as the scan goes -/
theorem listQueueItems_spec (queue : ControlPlane.QueueCapacityConfig) {cp : ControlPlaneApplication}
    (h : ControlPlane.Inv cp) (limit : ℕ) (now : Time) :
    ∃ items cp', EStateM.run (listQueueItems queue limit now) cp = .ok items cp' ∧
      ControlPlane.Leaves cp cp' (cp.overview.expire queue now) ∧
      items.map QueueItem.requestId = ((cp.overview.expire queue now).waiting.map Prod.fst).take limit := by
  obtain ⟨cp', hrun, hl⟩ := ControlPlane.listItems_spec queue h now
  refine ⟨(cp'.items.filterMap (ControlPlane.toQueueItem cp'.entries)).take limit, cp', ?_, hl, ?_⟩
  · simp only [listQueueItems, ControlPlane.getQueueSnapshot, EStateM.run_bind, hrun, EStateM.run_get, EStateM.run_pure,
      ne_eq, not_true_eq_false, if_false]
  · -- every item holds an entry, so none is left out
    have hids : ∀ items ⊆ cp'.items, (items.filterMap (ControlPlane.toQueueItem cp'.entries)).map QueueItem.requestId =
        items.map ControlPlane.QueuedRequest.requestId := by
      intro items hsub
      induction items with
      | nil => rfl
      | cons item items ih =>
        obtain ⟨e, he, -⟩ := hl.inv.registered (hl.inv.queued item (hsub List.mem_cons_self))
        have hitem : ∃ x, ControlPlane.toQueueItem cp'.entries item = some x ∧ x.requestId = item.requestId :=
          ⟨_, by simp only [ControlPlane.toQueueItem, he]; rfl, rfl⟩
        obtain ⟨x, hx, hxid⟩ := hitem
        rw [List.filterMap_cons_some hx, List.map_cons, List.map_cons, hxid,
          ih fun y hy => hsub (List.mem_cons_of_mem _ hy)]
    rw [List.map_take, hids cp'.items (List.Subset.refl _), ← hl.overview]
    simp only [ControlPlaneApplication.overview, List.map_map]
    rfl

/-- what a cycle does: it may drop overdue items, and it places requests that wait -/
structure Cycles (cfg : Settings) (queue : ControlPlane.QueueCapacityConfig) (inj : FailureInjectionConfig) (now : Time)
    (s s' : CycleState) : Prop where
  controlPlane : s'.controlPlane = s.controlPlane ∨
    ControlPlane.Leaves s.controlPlane s'.controlPlane (s.controlPlane.overview.expire queue now)
  engine : ∃ ops : List EngineOp, s'.engine = run (ContinuousBatchEngine.step cfg.batch) s.engine ops ∧
    ∀ o ∈ ops, ∃ item, o = .placeSelected inj now item ∧
      (s.controlPlane.overview.expire queue now).waits item.requestId

theorem runCycle_cycles (cfg : Settings) (queue : ControlPlane.QueueCapacityConfig) (inj : FailureInjectionConfig)
    (now : Time) {s : CycleState} (h : ControlPlane.Inv s.controlPlane) :
    Cycles cfg queue inj now s (runCycle cfg queue inj now s).1 := by
  unfold runCycle
  split_ifs
  · exact ⟨Or.inl rfl, [], rfl, by simp⟩
  · exact ⟨Or.inl rfl, [], rfl, by simp⟩
  · obtain ⟨items, cp', hrun, hl, hids⟩ := listQueueItems_spec queue h cfg.queueScanLimit now
    rw [hrun]
    simp only [scheduleItems]
    set selected := (s.policy.evaluate (itemsToCandidates now items) cfg.maxCandidateRequests).1.selected
    obtain ⟨ops, hops, hmem⟩ := placeAll_final inj now cfg.batch (itemById items) selected s.engine
    have hfrom : ∀ o ∈ ops, ∃ item, o = .placeSelected inj now item ∧
        (s.controlPlane.overview.expire queue now).waits item.requestId := by
      intro o ho
      obtain ⟨r, item, hr, ho⟩ := hmem o ho
      refine ⟨item, ho, ?_⟩
      have hwaiting : item.requestId ∈ ((s.controlPlane.overview.expire queue now).waiting.map Prod.fst).take
          cfg.queueScanLimit := by
        rw [← hids]
        exact List.mem_map_of_mem (get?_itemById hr).1
      obtain ⟨p, hp, hpr⟩ := List.mem_map.1 (List.mem_of_mem_take hwaiting)
      exact ⟨p, hp, hpr⟩
    simp only [EngineM.final] at hops
    cases hplace : EStateM.run (placeAll cfg.batch inj now (itemById items) selected) s.engine with
    | error err e' =>
      rw [hplace] at hops
      exact ⟨Or.inr hl, ops, hops, hfrom⟩
    | ok a e' =>
      rw [hplace] at hops
      exact ⟨Or.inr hl, ops, hops, hfrom⟩

end InferencePlatform.Scheduling
