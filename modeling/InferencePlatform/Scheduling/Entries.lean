/-
Which requests a cycle puts into batches.

`entries` follows the placements of a cycle one by one and asks the engine's own checks: a selected request goes into a
batch when it is admitted in its turn, and the cycle stops at the first one for which a batch cannot be created.
`runCycle_isActive`: the requests that are ACTIVE after a cycle are those that were before, and its entries.
-/
import InferencePlatform.Scheduling.Truth

namespace InferencePlatform.Scheduling

open InferencePlatform.Core (Dict)
open InferencePlatform.Batching (ContinuousBatchEngine EngineConfig EngineM Admitted)

variable {cfg : EngineConfig} {inj : FailureInjectionConfig} {now : Time} {d : Dict UUID QueueItem}
  {e : ContinuousBatchEngine}

/-- no batch is found for the item, and creating one fails -/
def CreationFails (cfg : Batching.BatchAdmissionConfig) (inj : FailureInjectionConfig) (now : Time) (item : QueueItem)
    (e : ContinuousBatchEngine) : Prop :=
  inj.isActive .batchCreationFailure (some item.requestId) = true ∧
    e.findAdmittableBatch cfg item.inferenceRequest.model now = none

instance (cfg : Batching.BatchAdmissionConfig) (inj : FailureInjectionConfig) (now : Time) (item : QueueItem)
    (e : ContinuousBatchEngine) : Decidable (CreationFails cfg inj now item e) := inferInstanceAs (Decidable (_ ∧ _))

/-- the requests that are put into batches -/
def entries (cfg : EngineConfig) (inj : FailureInjectionConfig) (now : Time) (itemById : Dict UUID QueueItem) :
    List UUID → ContinuousBatchEngine → List UUID
  | [], _ => []
  | requestId :: rest, e =>
    match itemById.get? requestId with
    | none => entries cfg inj now itemById rest e
    | some item =>
      if Admitted cfg inj now item e then
        if CreationFails cfg inj now item e then []
        else requestId :: entries cfg inj now itemById rest (e.step cfg (.placeSelected inj now item))
      else entries cfg inj now itemById rest (e.step cfg (.placeSelected inj now item))

/-- those of a whole cycle -/
def cycleEntries (cfg : Settings) (queue : ControlPlane.QueueCapacityConfig) (inj : FailureInjectionConfig) (now : Time)
    (s : CycleState) : List UUID :=
  if inj.isActive .schedulerCrash none ∨ inj.isActive .schedulerTimeout none then []
  else entries cfg.batch inj now (itemById (scannedItems cfg queue now s.controlPlane))
    (selectedIds cfg queue now s) s.engine

/-- by induction on the selected requests, each at the head of the rest -/
theorem placeAll_isActive (h : Batching.Inv cfg e) (hd : ∀ {r item}, d.get? r = some item → item.requestId = r)
    (inj : FailureInjectionConfig) (now : Time) (ids : List UUID) (r : UUID) :
    ((placeAll cfg inj now d ids).final e).isActive r ↔ e.isActive r ∨ r ∈ entries cfg inj now d ids e := by
  induction ids generalizing e with
  | nil =>
    have hfinal : (placeAll cfg inj now d []).final e = e := rfl
    rw [hfinal]
    simp [entries]
  | cons r₁ ids ih =>
    cases hget : d.get? r₁ with
    | none =>
      have hfinal : (placeAll cfg inj now d (r₁ :: ids)).final e = (placeAll cfg inj now d ids).final e := by
        simp only [EngineM.final, placeAll_missing hget]
        cases EStateM.run (placeAll cfg inj now d ids) e <;> rfl
      rw [hfinal, ih h]
      simp only [entries, hget]
    | some item =>
      have hid := hd hget
      have hinv := Batching.step_inv h (.placeSelected inj now item)
      rcases Batching.placeSelected_cases h inj now item with ⟨x, events, hrun, hno, -⟩ |
        ⟨err, events, hrun, hcreation, -, hadmits⟩ |
        ⟨batch, e₀, id, b, s, reason, events, ⟨hadmits, hcreation⟩, ht, hj, hrun⟩
      · -- refused
        have hfinal : (placeAll cfg inj now d (r₁ :: ids)).final e =
            (placeAll cfg inj now d ids).final (e.logged events) := by
          simp only [EngineM.final, placeAll_refused hget hrun]
          cases EStateM.run (placeAll cfg inj now d ids) (e.logged events) <;> rfl
        have hstep := step_placeSelected hrun
        have hnot : ¬Admitted cfg inj now item e := hno _
        rw [hstep] at hinv
        rw [hfinal, ih hinv]
        simp only [entries, hget, if_neg hnot, hstep]
        rfl
      · -- batch creation fails, and the cycle ends
        have hfinal : (placeAll cfg inj now d (r₁ :: ids)).final e = e.logged events := by
          simp only [EngineM.final, placeAll_raised hget hrun]
        have hfails : CreationFails cfg inj now item e := ⟨hcreation, hadmits.found⟩
        rw [hfinal]
        simp only [entries, hget, if_pos hadmits.admitted, if_pos hfails, List.not_mem_nil, or_false]
        rfl
      · -- placed, whatever is reported
        have hstep := step_placeSelected hrun
        rw [hstep] at hinv
        have hfinal : (placeAll cfg inj now d (r₁ :: ids)).final e =
            (placeAll cfg inj now d ids).final (e₀.joined cfg id b s item now events) := by
          cases hout : Batching.addOutcome inj b item id reason with
          | placed x =>
            rw [hout] at hrun
            simp only [EngineM.final, placeAll_entered hget hrun]
            cases EStateM.run (placeAll cfg inj now d ids) (e₀.joined cfg id b s item now events) <;> rfl
          | rejected x =>
            rw [hout] at hrun
            simp only [EngineM.final, placeAll_refused hget hrun]
            cases EStateM.run (placeAll cfg inj now d ids) (e₀.joined cfg id b s item now events) <;> rfl
        have hgoes : ¬CreationFails cfg inj now item e := by
          rintro ⟨htrue, hnone⟩
          rw [hadmits.found] at hnone
          rw [hcreation hnone] at htrue
          cases htrue
        rw [hfinal, ih hinv, Batching.isActive_joined (ht.inv h) hj events r, ht.isActive h r]
        simp only [entries, hget, if_pos hadmits.admitted, if_neg hgoes, hstep, List.mem_cons, hid]
        tauto

/-- whoever is put into a batch was in none -/
theorem entries_unbatched (h : Batching.Inv cfg e) (hd : ∀ {r item}, d.get? r = some item → item.requestId = r)
    {ids : List UUID} {r : UUID} (hr : r ∈ entries cfg inj now d ids e) : e.requestToBatch.get? r = none := by
  induction ids generalizing e with
  | nil => cases hr
  | cons r₁ ids ih =>
    cases hget : d.get? r₁ with
    | none =>
      simp only [entries, hget] at hr
      exact ih h hr
    | some item =>
      have hid := hd hget
      have hback : r ∈ entries cfg inj now d ids (e.step cfg (.placeSelected inj now item)) →
          e.requestToBatch.get? r = none := by
        intro hrest
        have hplaced : Batching.Placed (fun _ => True) e (e.step cfg (.placeSelected inj now item)) :=
          Batching.placed_placeSelected h inj now trivial
        exact hplaced.unbatched (ih (Batching.step_inv h _) hrest)
      simp only [entries, hget] at hr
      split_ifs at hr with hadmitted hfails
      · cases hr
      · rcases List.mem_cons.1 hr with rfl | hrest
        · rw [← hid]
          exact hadmitted.unbatched
        · exact hback hrest
      · exact hback hr

theorem cycleEntries_unbatched {cfg : Settings} {queue : ControlPlane.QueueCapacityConfig} {s : CycleState}
    (h : Batching.Inv cfg.batch s.engine) {r : UUID} (hr : r ∈ cycleEntries cfg queue inj now s) :
    s.engine.requestToBatch.get? r = none := by
  unfold cycleEntries at hr
  split_ifs at hr
  · cases hr
  · exact entries_unbatched h (fun hget => (get?_itemById hget).2) hr

theorem runCycle_isActive (cfg : Settings) (queue : ControlPlane.QueueCapacityConfig) (inj : FailureInjectionConfig)
    (now : Time) {s : CycleState} (h : Batching.Inv cfg.batch s.engine) (r : UUID) :
    (runCycle cfg queue inj now s).1.engine.isActive r ↔
      s.engine.isActive r ∨ r ∈ cycleEntries cfg queue inj now s := by
  unfold runCycle cycleEntries
  by_cases hcrash : inj.isActive .schedulerCrash none = true
  · simp [hcrash]
  by_cases htimeout : inj.isActive .schedulerTimeout none = true
  · simp [hcrash, htimeout]
  have hgoes : ¬(inj.isActive .schedulerCrash none = true ∨ inj.isActive .schedulerTimeout none = true) :=
    not_or.2 ⟨hcrash, htimeout⟩
  obtain ⟨items, cp', hrun, -⟩ := listQueueItems_ok queue cfg.queueScanLimit now s.controlPlane
  have hitems : scannedItems cfg queue now s.controlPlane = items := by
    simp only [scannedItems, hrun]
  have hplaced := placeAll_isActive h (d := itemById items) (fun hget => (get?_itemById hget).2) inj now
    (selectedIds cfg queue now s) r
  rw [if_neg hcrash, if_neg htimeout, if_neg hgoes, hrun, hitems, ← hplaced]
  have hselected : (s.policy.evaluate (itemsToCandidates now items) cfg.maxCandidateRequests).1.selected =
      selectedIds cfg queue now s := by rw [selectedIds, hitems]
  simp only [scheduleItems, hselected, EngineM.final]
  cases EStateM.run (placeAll cfg.batch inj now (itemById items) (selectedIds cfg queue now s)) s.engine with
  | ok report e' => rfl
  | error err e' => rfl

/-- whoever a cycle reports as placed is ACTIVE -/
theorem runCycle_placements (cfg : Settings) (queue : ControlPlane.QueueCapacityConfig) (inj : FailureInjectionConfig)
    (now : Time) {s : CycleState} (h : Batching.Inv cfg.batch s.engine)
    (hqueue : (s.controlPlane.items.map ControlPlane.QueuedRequest.requestId).Nodup) :
    ∀ d ∈ (runCycle cfg queue inj now s).2.placementDecisions,
      (runCycle cfg queue inj now s).1.engine.isActive d.requestId := by
  unfold runCycle
  by_cases hcrash : inj.isActive .schedulerCrash none = true
  · simp [hcrash]
  by_cases htimeout : inj.isActive .schedulerTimeout none = true
  · simp [hcrash, htimeout]
  obtain ⟨items, cp', hrun, hsub⟩ := listQueueItems_ok queue cfg.queueScanLimit now s.controlPlane
  rw [if_neg hcrash, if_neg htimeout, hrun]
  simp only [scheduleItems]
  have hn := nodup_selected s.policy (hqueue.sublist hsub) now cfg.maxCandidateRequests
  set selected := (s.policy.evaluate (itemsToCandidates now items) cfg.maxCandidateRequests).1.selected
  have hacc := accounts h (d := itemById items) (fun hget => (get?_itemById hget).2) hn inj now false
  cases hplace : EStateM.run (placeAll cfg.batch inj now (itemById items) selected) s.engine with
  | error err e' => simp
  | ok report e' =>
    intro d hd
    exact ((hacc.ok hplace).placed _ (List.mem_map_of_mem hd)).2

end InferencePlatform.Scheduling
