/-
What a cycle reports, and what it has done.

A cycle places its selected requests one by one, and each placement changes the engine. Two faults come between the
engine and the report: an exception ends the cycle with a result that names no placement, although the earlier ones
stay; and the injected invalid assignment reports a refusal of a request that has just been placed.

`cycle_reports_truth_iff`: the report is true exactly when neither happens, that is, when no admitted request of the
cycle is hit by the invalid assignment and batch creation does not fail after a request has been placed.
-/
import InferencePlatform.Batching.Placement
import InferencePlatform.ControlPlane.Safety
import InferencePlatform.Scheduling.Cycle

namespace InferencePlatform.Scheduling

open InferencePlatform.Core (Dict run)
open InferencePlatform.ControlPlane (ControlPlaneApplication listQueueItems)
open InferencePlatform.Batching (ContinuousBatchEngine EngineConfig EngineOp BatchPlacementDecision
  BatchRejectionDecision Admitted Placed)

variable {cfg : EngineConfig} {inj : FailureInjectionConfig} {now : Time} {d : Dict UUID QueueItem} {ids : List UUID}
  {e e' : ContinuousBatchEngine} {placed : Bool} {placements : List BatchPlacementDecision}
  {rejections : List BatchRejectionDecision}

/-! ## The law and the condition -/

structure ReportsTruth (e e' : ContinuousBatchEngine) (result : SchedulingResult) : Prop where
  /-- the newly ACTIVE requests are those reported as placed -/
  placed : ∀ r, e'.isActive r ∧ ¬e.isActive r ↔ r ∈ result.placementDecisions.map BatchPlacementDecision.requestId
  /-- a selected request is reported once: placed or refused -/
  reported : ∀ r ∈ result.selectedRequestIds,
    Xor (r ∈ result.placementDecisions.map BatchPlacementDecision.requestId)
      (r ∈ result.rejectionDecisions.map BatchRejectionDecision.requestId)
  rejected : ∀ r ∈ result.rejectionDecisions.map BatchRejectionDecision.requestId, e'.membership r = e.membership r
  failed : result.failure ≠ none → ∀ r, e'.membership r = e.membership r

/-- no request that the engine admits is hit by the invalid assignment, and a failing batch creation comes first;
`placed`: a request has been placed already -/
def placesCleanly (cfg : EngineConfig) (inj : FailureInjectionConfig) (now : Time) (itemById : Dict UUID QueueItem) :
    Bool → List UUID → ContinuousBatchEngine → Bool
  | _, [], _ => true
  | placed, requestId :: rest, e =>
    match itemById.get? requestId with
    | none => placesCleanly cfg inj now itemById placed rest e
    | some item =>
      if Admitted cfg inj now item e then
        if inj.isActive .batchCreationFailure (some item.requestId) ∧
            e.findAdmittableBatch cfg item.inferenceRequest.model now = none then !placed
        else !inj.isActive .schedulerInvalidBatchAssignment (some item.requestId) &&
          placesCleanly cfg inj now itemById true rest (e.step cfg (.placeSelected inj now item))
      else placesCleanly cfg inj now itemById placed rest (e.step cfg (.placeSelected inj now item))

/-! ## The placements of a cycle -/

theorem placeAll_placed (h : Batching.Inv cfg e) :
    Batching.Inv cfg ((placeAll cfg inj now d ids).final e) ∧
      Placed (fun _ => True) e ((placeAll cfg inj now d ids).final e) := by
  obtain ⟨ops, hops, hmem⟩ := placeAll_final inj now cfg d ids e
  rw [hops]
  have hplace : ∀ o ∈ ops, ∃ item, o = .placeSelected inj now item ∧ True := by
    intro o ho
    obtain ⟨r, item, -, hitem⟩ := hmem o ho
    exact ⟨item, hitem, trivial⟩
  exact Batching.placed_run h hplace

/-- the report of a cycle that has come to its end -/
structure Reported (e e' : ContinuousBatchEngine) (ids : List UUID) (placements : List BatchPlacementDecision)
    (rejections : List BatchRejectionDecision) : Prop where
  named : ∀ r, r ∈ placements.map BatchPlacementDecision.requestId ∨
    r ∈ rejections.map BatchRejectionDecision.requestId ↔ r ∈ ids
  once : ∀ r ∈ placements.map BatchPlacementDecision.requestId, r ∉ rejections.map BatchRejectionDecision.requestId
  placed : ∀ r ∈ placements.map BatchPlacementDecision.requestId, e.membership r = none ∧ e'.isActive r
  others : ∀ r, r ∉ ids → e'.membership r = e.membership r

theorem Reported.refused {e₁ : ContinuousBatchEngine} {r : UUID} (h : Reported e₁ e' ids placements rejections)
    (hr : r ∉ ids) (hsame : ∀ r', r' ≠ r → e₁.membership r' = e.membership r') {d : BatchRejectionDecision}
    (hd : d.requestId = r) : Reported e e' (r :: ids) placements (d :: rejections) := by
  have hne : ∀ r', r' ∈ placements.map BatchPlacementDecision.requestId → r' ≠ r := by
    intro r' hr' hreq
    exact hr (hreq ▸ (h.named r').1 (Or.inl hr'))
  refine ⟨fun r' => ?_, fun r' hr' => ?_, fun r' hr' => ?_, fun r' hr' => ?_⟩
  · rw [List.map_cons, List.mem_cons, List.mem_cons, hd, ← h.named r']
    tauto
  · rw [List.map_cons, List.mem_cons, hd, not_or]
    exact ⟨hne r' hr', h.once r' hr'⟩
  · rw [← hsame r' (hne r' hr')]
    exact h.placed r' hr'
  · rw [List.mem_cons, not_or] at hr'
    rw [← hsame r' hr'.1]
    exact h.others r' hr'.2

theorem Reported.placedFirst {e₁ : ContinuousBatchEngine} {r : UUID} (h : Reported e₁ e' ids placements rejections)
    (hr : r ∉ ids) (hnone : e.membership r = none) (hactive : e'.isActive r)
    (hsame : ∀ r', r' ≠ r → e₁.membership r' = e.membership r') {d : BatchPlacementDecision} (hd : d.requestId = r) :
    Reported e e' (r :: ids) (d :: placements) rejections := by
  have hne : ∀ r', r' ∈ ids → r' ≠ r := fun r' hr' hreq => hr (hreq ▸ hr')
  refine ⟨fun r' => ?_, fun r' hr' => ?_, fun r' hr' => ?_, fun r' hr' => ?_⟩
  · rw [List.map_cons, List.mem_cons, List.mem_cons, hd, ← h.named r']
    tauto
  · rw [List.map_cons, List.mem_cons, hd] at hr'
    rcases hr' with rfl | hr'
    · exact fun hmem => hr ((h.named _).1 (Or.inr hmem))
    · exact h.once r' hr'
  · rw [List.map_cons, List.mem_cons, hd] at hr'
    rcases hr' with rfl | hr'
    · exact ⟨hnone, hactive⟩
    · rw [← hsame r' (hne r' ((h.named r').1 (Or.inl hr')))]
      exact h.placed r' hr'
  · rw [List.mem_cons, not_or] at hr'
    rw [← hsame r' hr'.1]
    exact h.others r' hr'.2

/-- the request has been placed, but no report says so -/
def Misreported (e e' : ContinuousBatchEngine) (r : UUID) : Prop := e.membership r = none ∧ e'.isActive r

theorem misreported_changed (h : Batching.Inv cfg e') {r : UUID} (hmis : Misreported e e' r) :
    e'.membership r ≠ e.membership r := by
  obtain ⟨id, m, hm, -⟩ := h.isActive_iff_membership.1 hmis.2
  rw [hm, hmis.1]
  exact Option.some_ne_none _

/-- placements and refusals, in their orders -/
abbrev Report := List BatchPlacementDecision × List BatchRejectionDecision

/-- a decision is put in front of the report of the rest -/
def mapReport (f : Report → Report) :
    EStateM.Result Batching.EngineError ContinuousBatchEngine Report →
      EStateM.Result Batching.EngineError ContinuousBatchEngine Report
  | .ok report e => .ok (f report) e
  | .error err e => .error err e

theorem mapReport_ok {f : Report → Report} {x : EStateM.Result Batching.EngineError ContinuousBatchEngine Report}
    {report : Report} (h : mapReport f x = .ok report e) : ∃ rest, report = f rest ∧ x = .ok rest e := by
  cases x with
  | ok rest e' =>
    cases h
    exact ⟨rest, rfl, rfl⟩
  | error err e' => cases h

theorem mapReport_error {f : Report → Report} {x : EStateM.Result Batching.EngineError ContinuousBatchEngine Report}
    {err : Batching.EngineError} (h : mapReport f x = .error err e) : x = .error err e := by
  cases x with
  | ok rest e' => cases h
  | error err' e' => exact h

section Equations

variable {r : UUID} {item : QueueItem} {e₁ : ContinuousBatchEngine}

theorem placeAll_missing (hr : d.get? r = none) :
    EStateM.run (placeAll cfg inj now d (r :: ids)) e =
      mapReport (fun p =>
        (p.1, { requestId := r, decisionReason := "queue_item_not_found", correlationId := "" } :: p.2))
        (EStateM.run (placeAll cfg inj now d ids) e) := by
  simp only [placeAll, hr, EStateM.run_bind]
  cases EStateM.run (placeAll cfg inj now d ids) e <;> rfl

theorem placeAll_refused (hr : d.get? r = some item) {x : BatchRejectionDecision}
    (hrun : EStateM.run (Batching.placeSelected cfg inj now item) e = .ok (.rejected x) e₁) :
    EStateM.run (placeAll cfg inj now d (r :: ids)) e =
      mapReport (fun p => (p.1, x :: p.2)) (EStateM.run (placeAll cfg inj now d ids) e₁) := by
  simp only [placeAll, hr, EStateM.run_bind, hrun]
  cases EStateM.run (placeAll cfg inj now d ids) e₁ <;> rfl

theorem placeAll_entered (hr : d.get? r = some item) {x : BatchPlacementDecision}
    (hrun : EStateM.run (Batching.placeSelected cfg inj now item) e = .ok (.placed x) e₁) :
    EStateM.run (placeAll cfg inj now d (r :: ids)) e =
      mapReport (fun p => (x :: p.1, p.2)) (EStateM.run (placeAll cfg inj now d ids) e₁) := by
  simp only [placeAll, hr, EStateM.run_bind, hrun]
  cases EStateM.run (placeAll cfg inj now d ids) e₁ <;> rfl

theorem placeAll_raised (hr : d.get? r = some item) {err : Batching.EngineError}
    (hrun : EStateM.run (Batching.placeSelected cfg inj now item) e = .error err e₁) :
    EStateM.run (placeAll cfg inj now d (r :: ids)) e = .error err e₁ := by
  simp only [placeAll, hr, EStateM.run_bind, hrun]

theorem step_placeSelected {outcome : Batching.PlacementOutcome}
    (hrun : EStateM.run (Batching.placeSelected cfg inj now item) e = .ok outcome e₁) :
    e.step cfg (.placeSelected inj now item) = e₁ := Batching.EngineM.final_ok hrun

end Equations

/-- what the placements of a cycle have done, beside what the cycle can tell of them -/
structure Accounts (cfg : EngineConfig) (inj : FailureInjectionConfig) (now : Time) (d : Dict UUID QueueItem)
    (placed : Bool) (ids : List UUID) (e : ContinuousBatchEngine) : Prop where
  ok : ∀ {report e'}, EStateM.run (placeAll cfg inj now d ids) e = .ok report e' →
    Reported e e' ids report.1 report.2
  okClean : ∀ {report e'}, EStateM.run (placeAll cfg inj now d ids) e = .ok report e' →
    placesCleanly cfg inj now d placed ids e = true →
      ∀ r ∈ report.2.map BatchRejectionDecision.requestId, e'.membership r = e.membership r
  okUnclean : ∀ {report e'}, EStateM.run (placeAll cfg inj now d ids) e = .ok report e' →
    placesCleanly cfg inj now d placed ids e = false →
      ∃ r ∈ report.2.map BatchRejectionDecision.requestId, Misreported e e' r
  errorClean : ∀ {err e'}, EStateM.run (placeAll cfg inj now d ids) e = .error err e' →
    placesCleanly cfg inj now d placed ids e = true → placed = false ∧ ∀ r, e'.membership r = e.membership r
  errorUnclean : ∀ {err e'}, EStateM.run (placeAll cfg inj now d ids) e = .error err e' →
    placesCleanly cfg inj now d placed ids e = false → placed = true ∨ ∃ r, Misreported e e' r

section Head

variable {e₁ : ContinuousBatchEngine} {r : UUID}

/-- a refusal at the head, or a selected request without an item -/
theorem Accounts.refused (h : Accounts cfg inj now d placed ids e₁) (hr : r ∉ ids)
    (hsame : ∀ r, e₁.membership r = e.membership r) {x : BatchRejectionDecision} (hx : x.requestId = r)
    (hrun : EStateM.run (placeAll cfg inj now d (r :: ids)) e =
      mapReport (fun p => (p.1, x :: p.2)) (EStateM.run (placeAll cfg inj now d ids) e₁))
    (hclean : placesCleanly cfg inj now d placed (r :: ids) e = placesCleanly cfg inj now d placed ids e₁) :
    Accounts cfg inj now d placed (r :: ids) e := by
  refine ⟨fun h' => ?_, fun h' hc r' hr' => ?_, fun h' hc => ?_, fun h' hc => ?_, fun h' hc => ?_⟩
  · obtain ⟨rest, rfl, hrest⟩ := mapReport_ok (hrun.symm.trans h')
    exact (h.ok hrest).refused hr (fun r' _ => hsame r') hx
  · obtain ⟨rest, rfl, hrest⟩ := mapReport_ok (hrun.symm.trans h')
    rw [List.map_cons, List.mem_cons, hx] at hr'
    rw [← hsame r']
    rcases hr' with rfl | hr'
    · exact (h.ok hrest).others _ hr
    · exact h.okClean hrest (hclean ▸ hc) r' hr'
  · obtain ⟨rest, rfl, hrest⟩ := mapReport_ok (hrun.symm.trans h')
    obtain ⟨r', hr', hmis⟩ := h.okUnclean hrest (hclean ▸ hc)
    exact ⟨r', List.mem_cons_of_mem _ hr', (hsame r').symm.trans hmis.1, hmis.2⟩
  · obtain ⟨hplaced, hsame'⟩ := h.errorClean (mapReport_error (hrun.symm.trans h')) (hclean ▸ hc)
    exact ⟨hplaced, fun r' => (hsame' r').trans (hsame r')⟩
  · rcases h.errorUnclean (mapReport_error (hrun.symm.trans h')) (hclean ▸ hc) with hplaced | ⟨r', hmis⟩
    · exact Or.inl hplaced
    · exact Or.inr ⟨r', (hsame r').symm.trans hmis.1, hmis.2⟩

/-- the request at the head enters a batch -/
structure Enters (cfg : EngineConfig) (r : UUID) (e e₁ : ContinuousBatchEngine) : Prop where
  inv : Batching.Inv cfg e₁
  new : e.membership r = none
  active : e₁.isActive r
  others : ∀ r', r' ≠ r → e₁.membership r' = e.membership r'

/-- it is ACTIVE when the cycle ends, however it ends -/
theorem Enters.misreported (h : Enters cfg r e e₁) (hfinal : (placeAll cfg inj now d ids).final e₁ = e') :
    Misreported e e' r := by
  refine ⟨h.new, ?_⟩
  rw [← hfinal]
  exact (placeAll_placed h.inv).2.keptActive h.active

/-- a request misreported by the rest of the cycle is another one -/
theorem Enters.misreported_rest (h : Enters cfg r e e₁) {r' : UUID} (hmis : Misreported e₁ e' r') :
    Misreported e e' r' := by
  refine ⟨?_, hmis.2⟩
  rw [← h.others r']
  · exact hmis.1
  · rintro rfl
    obtain ⟨id, m, hm, -⟩ := h.inv.isActive_iff_membership.1 h.active
    rw [hmis.1] at hm
    cases hm

/-- a placement at the head, reported as such -/
theorem Accounts.entered (h : Accounts cfg inj now d true ids e₁) (hr : r ∉ ids) (henters : Enters cfg r e e₁)
    {x : BatchPlacementDecision} (hx : x.requestId = r)
    (hrun : EStateM.run (placeAll cfg inj now d (r :: ids)) e =
      mapReport (fun p => (x :: p.1, p.2)) (EStateM.run (placeAll cfg inj now d ids) e₁))
    (hclean : placesCleanly cfg inj now d placed (r :: ids) e = placesCleanly cfg inj now d true ids e₁) :
    Accounts cfg inj now d placed (r :: ids) e := by
  refine ⟨fun h' => ?_, fun h' hc r' hr' => ?_, fun h' hc => ?_, fun h' hc => ?_, fun h' hc => ?_⟩
  · obtain ⟨rest, rfl, hrest⟩ := mapReport_ok (hrun.symm.trans h')
    have hactive := (henters.misreported (Batching.EngineM.final_ok hrest)).2
    exact (h.ok hrest).placedFirst hr henters.new hactive henters.others hx
  · obtain ⟨rest, rfl, hrest⟩ := mapReport_ok (hrun.symm.trans h')
    have hne : r' ≠ r := by
      rintro rfl
      exact hr (((h.ok hrest).named _).1 (Or.inr hr'))
    rw [← henters.others r' hne]
    exact h.okClean hrest (hclean ▸ hc) r' hr'
  · obtain ⟨rest, rfl, hrest⟩ := mapReport_ok (hrun.symm.trans h')
    obtain ⟨r', hr', hmis⟩ := h.okUnclean hrest (hclean ▸ hc)
    exact ⟨r', hr', henters.misreported_rest hmis⟩
  · have hrest := mapReport_error (hrun.symm.trans h')
    obtain ⟨hplaced, -⟩ := h.errorClean hrest (hclean ▸ hc)
    cases hplaced
  · have hrest := mapReport_error (hrun.symm.trans h')
    exact Or.inr ⟨r, henters.misreported (Batching.EngineM.final_error hrest)⟩

/-- a placement at the head that is reported as a refusal -/
theorem Accounts.misreported (h : Accounts cfg inj now d true ids e₁) (hr : r ∉ ids) (henters : Enters cfg r e e₁)
    {x : BatchRejectionDecision} (hx : x.requestId = r)
    (hrun : EStateM.run (placeAll cfg inj now d (r :: ids)) e =
      mapReport (fun p => (p.1, x :: p.2)) (EStateM.run (placeAll cfg inj now d ids) e₁))
    (hclean : placesCleanly cfg inj now d placed (r :: ids) e = false) :
    Accounts cfg inj now d placed (r :: ids) e := by
  refine ⟨fun h' => ?_, fun _ hc => ?_, fun h' _ => ?_, fun _ hc => ?_, fun h' _ => ?_⟩
  · obtain ⟨rest, rfl, hrest⟩ := mapReport_ok (hrun.symm.trans h')
    exact (h.ok hrest).refused hr henters.others hx
  · rw [hclean] at hc
    cases hc
  · obtain ⟨rest, rfl, hrest⟩ := mapReport_ok (hrun.symm.trans h')
    refine ⟨r, ?_, henters.misreported (Batching.EngineM.final_ok hrest)⟩
    rw [List.map_cons, hx]
    exact List.mem_cons_self
  · rw [hclean] at hc
    cases hc
  · have hrest := mapReport_error (hrun.symm.trans h')
    exact Or.inr ⟨r, henters.misreported (Batching.EngineM.final_error hrest)⟩

/-- batch creation fails at the head: the cycle ends there -/
theorem Accounts.raised (hsame : ∀ r, e₁.membership r = e.membership r) {err : Batching.EngineError}
    (hrun : EStateM.run (placeAll cfg inj now d (r :: ids)) e = .error err e₁)
    (hclean : placesCleanly cfg inj now d placed (r :: ids) e = !placed) :
    Accounts cfg inj now d placed (r :: ids) e := by
  refine ⟨fun h' => ?_, fun h' _ => ?_, fun h' _ => ?_, fun h' hc => ?_, fun _ hc => ?_⟩
  · rw [hrun] at h'
    cases h'
  · rw [hrun] at h'
    cases h'
  · rw [hrun] at h'
    cases h'
  · rw [hrun] at h'
    cases h'
    rw [hclean] at hc
    exact ⟨by simpa using hc, hsame⟩
  · rw [hclean] at hc
    exact Or.inl (by simpa using hc)

end Head

theorem accounts_nil (e : ContinuousBatchEngine) : Accounts cfg inj now d placed [] e := by
  refine ⟨fun h' => ?_, fun h' _ => ?_, fun _ hc => ?_, fun h' _ => ?_, fun h' _ => ?_⟩
  · cases h'
    exact ⟨by simp, by simp, by simp, fun _ _ => rfl⟩
  · cases h'
    simp
  · simp [placesCleanly] at hc
  · cases h'
  · cases h'

/-- by induction on the selected requests, each at the head of the rest -/
theorem accounts (h : Batching.Inv cfg e) (hd : ∀ {r item}, d.get? r = some item → item.requestId = r)
    (hn : ids.Nodup) (inj : FailureInjectionConfig) (now : Time) (placed : Bool) :
    Accounts cfg inj now d placed ids e := by
  induction ids generalizing e placed with
  | nil => exact accounts_nil e
  | cons r ids ih =>
    obtain ⟨hr, hn⟩ := List.nodup_cons.1 hn
    cases hget : d.get? r with
    | none =>
      refine (ih h hn placed).refused hr (fun _ => rfl) rfl (placeAll_missing hget) ?_
      simp only [placesCleanly, hget]
    | some item =>
      have hid := hd hget
      rcases Batching.placeSelected_reports h inj now item with ⟨x, e₁, hrun, hx, hno, hsame⟩ |
        ⟨err, e₁, hrun, hadmits, hcreation, hsame⟩ |
        ⟨batch, outcome, e₁, hrun, hadmits, hcreation, houtcome, hnew, hactive, hothers⟩
      · -- refused
        have hstep := step_placeSelected hrun
        have hinv : Batching.Inv cfg e₁ := hstep ▸ Batching.step_inv h (.placeSelected inj now item)
        refine (ih hinv hn placed).refused hr hsame (hx.trans hid) (placeAll_refused hget hrun) ?_
        have hnot : ¬Admitted cfg inj now item e := hno _
        simp only [placesCleanly, hget, if_neg hnot, hstep]
      · -- batch creation fails
        refine Accounts.raised hsame (placeAll_raised hget hrun) ?_
        have hfound := hadmits.found
        simp only [placesCleanly, hget, if_pos hadmits.admitted, hcreation, hfound, and_self, if_true]
      · -- placed
        have hstep := step_placeSelected hrun
        have hinv : Batching.Inv cfg e₁ := hstep ▸ Batching.step_inv h (.placeSelected inj now item)
        rw [hid] at hnew hactive hothers
        have henters : Enters cfg r e e₁ := ⟨hinv, hnew, hactive, hothers⟩
        have hnot : ¬(inj.isActive .batchCreationFailure (some item.requestId) = true ∧
            e.findAdmittableBatch cfg item.inferenceRequest.model now = none) := by
          rintro ⟨htrue, hnone⟩
          rw [hadmits.found] at hnone
          rw [hcreation hnone] at htrue
          cases htrue
        cases hinvalid : inj.isActive .schedulerInvalidBatchAssignment (some item.requestId) with
        | true =>
          rw [hinvalid, if_pos rfl] at houtcome
          obtain ⟨x, rfl, hx⟩ := houtcome
          refine (ih hinv hn true).misreported hr henters (hx.trans hid) (placeAll_refused hget hrun) ?_
          simp only [placesCleanly, hget, if_pos hadmits.admitted, if_neg hnot, hinvalid, Bool.not_true, Bool.false_and]
        | false =>
          rw [hinvalid, if_neg Bool.false_ne_true] at houtcome
          obtain ⟨x, rfl, hx⟩ := houtcome
          refine (ih hinv hn true).entered hr henters (hx.trans hid) (placeAll_entered hget hrun) ?_
          simp only [placesCleanly, hget, if_pos hadmits.admitted, if_neg hnot, hinvalid, Bool.not_false, Bool.true_and,
            hstep]

/-! ## The whole cycle -/

/-- the items the cycle reads -/
def scannedItems (cfg : Settings) (queue : ControlPlane.QueueCapacityConfig) (now : Time)
    (cp : ControlPlaneApplication) :
    List QueueItem :=
  match EStateM.run (listQueueItems queue cfg.queueScanLimit now) cp with
  | .ok items _ => items
  | .error _ _ => []

/-- the requests the policy selects from them -/
def selectedIds (cfg : Settings) (queue : ControlPlane.QueueCapacityConfig) (now : Time) (s : CycleState) : List UUID :=
  (s.policy.evaluate (itemsToCandidates now (scannedItems cfg queue now s.controlPlane))
    cfg.maxCandidateRequests).1.selected

/-- the cycle fails before it reads the queue, or its placements go cleanly -/
def cyclesCleanly (cfg : Settings) (queue : ControlPlane.QueueCapacityConfig)
    (inj : FailureInjectionConfig) (now : Time) (s : CycleState) : Bool :=
  inj.isActive .schedulerCrash none || inj.isActive .schedulerTimeout none ||
    placesCleanly cfg.batch inj now (itemById (scannedItems cfg queue now s.controlPlane)) false
      (selectedIds cfg queue now s) s.engine

theorem listQueueItems_ok (queue : ControlPlane.QueueCapacityConfig) (limit : ℕ) (now : Time)
    (cp : ControlPlaneApplication) : ∃ items cp', EStateM.run (listQueueItems queue limit now) cp = .ok items cp' ∧
      (items.map QueueItem.requestId).Sublist (cp.items.map ControlPlane.QueuedRequest.requestId) := by
  obtain ⟨cp', hrun, -, hitems⟩ := ControlPlane.reindexPositions_spec
    { cp with items := cp.items.filter fun item => !ControlPlane.overdue queue now item }
  refine ⟨(cp'.items.filterMap (ControlPlane.toQueueItem cp'.entries)).take limit, cp', ?_, ?_⟩
  · simp only [listQueueItems, ControlPlane.getQueueSnapshot, ControlPlane.listItems, ControlPlane.expireTimeoutsLocked,
      EStateM.run_bind, EStateM.run_get, EStateM.run_modify, hrun, EStateM.run_pure, ne_eq, not_true_eq_false, if_false]
  · have hids : ∀ items : List ControlPlane.QueuedRequest,
        ((items.filterMap (ControlPlane.toQueueItem cp'.entries)).map QueueItem.requestId).Sublist
          (items.map ControlPlane.QueuedRequest.requestId) := by
      intro items
      induction items with
      | nil => exact List.Sublist.refl _
      | cons item items ih =>
        cases hitem : ControlPlane.toQueueItem cp'.entries item with
        | none =>
          rw [List.filterMap_cons_none hitem, List.map_cons]
          exact ih.cons _
        | some x =>
          obtain ⟨entry, -, hx⟩ := Option.bind_eq_some_iff.1 hitem
          cases hx
          rw [List.filterMap_cons_some hitem, List.map_cons, List.map_cons]
          exact ih.cons_cons _
    have hkept : (cp'.items.map ControlPlane.QueuedRequest.requestId).Sublist
        (cp.items.map ControlPlane.QueuedRequest.requestId) := by
      rw [hitems, ControlPlane.map_numbered _ (fun _ _ => rfl)]
      exact List.filter_sublist.map _
    exact (((List.take_sublist _ _).map _).trans (hids cp'.items)).trans hkept

theorem nodup_selected (policy : SchedulerPolicy) {items : List QueueItem} (hn : (items.map QueueItem.requestId).Nodup)
    (now : Time) (limit : ℕ) : (policy.evaluate (itemsToCandidates now items) limit).1.selected.Nodup := by
  have hperm := perm_selected_skipped policy (itemsToCandidates now items) limit
  rw [map_itemsToCandidates] at hperm
  exact (List.nodup_append.1 (hperm.nodup_iff.2 hn)).1

theorem not_newly_active (h : Batching.Inv cfg e) (h' : Batching.Inv cfg e') {r : UUID}
    (hsame : e'.membership r = e.membership r) : ¬(e'.isActive r ∧ ¬e.isActive r) := by
  rintro ⟨hactive, hnot⟩
  rw [h'.isActive_iff_membership, hsame, ← h.isActive_iff_membership] at hactive
  exact hnot hactive

/-- a failed cycle that has changed no membership -/
theorem reportsTruth_failed (h : Batching.Inv cfg e) (h' : Batching.Inv cfg e') (err : CycleError)
    (hsame : ∀ r, e'.membership r = e.membership r) : ReportsTruth e e' { failure := some err } := by
  refine ⟨fun r => ?_, by simp, by simp, fun _ => hsame⟩
  simp only [List.map_nil, List.not_mem_nil, iff_false]
  exact not_newly_active h h' (hsame r)

theorem reportsTruth_iff (h : Batching.Inv cfg e) (hd : ∀ {r item}, d.get? r = some item → item.requestId = r)
    (hn : ids.Nodup) {report : Report} (hrun : EStateM.run (placeAll cfg inj now d ids) e = .ok report e')
    {result : SchedulingResult} (hselected : result.selectedRequestIds = ids)
    (hplacements : result.placementDecisions = report.1) (hrejections : result.rejectionDecisions = report.2)
    (hfailure : result.failure = none) :
    ReportsTruth e e' result ↔ placesCleanly cfg inj now d false ids e = true := by
  have hacc := accounts h hd hn inj now false
  have hinv' : Batching.Inv cfg e' := by
    rw [← Batching.EngineM.final_ok hrun]
    exact (placeAll_placed h).1
  have hreported := hacc.ok hrun
  constructor
  · intro htruth
    by_contra hunclean
    obtain ⟨r, hr, hmis⟩ := hacc.okUnclean hrun (by simpa using hunclean)
    rw [← hrejections] at hr
    exact misreported_changed hinv' hmis (htruth.rejected r hr)
  · intro hclean
    have hsame := hacc.okClean hrun hclean
    refine ⟨fun r => ?_, fun r hr => ?_, ?_, fun hfailed => absurd hfailure hfailed⟩
    · rw [hplacements]
      constructor
      · intro hnew
        by_contra hr
        by_cases hid : r ∈ ids
        · rcases (hreported.named r).2 hid with hr' | hr'
          · exact hr hr'
          · exact not_newly_active h hinv' (hsame r hr') hnew
        · exact not_newly_active h hinv' (hreported.others r hid) hnew
      · intro hr
        obtain ⟨hnone, hactive⟩ := hreported.placed r hr
        refine ⟨hactive, fun hactive' => ?_⟩
        obtain ⟨id, m, hm, -⟩ := h.isActive_iff_membership.1 hactive'
        rw [hnone] at hm
        cases hm
    · rw [hplacements, hrejections]
      rw [hselected] at hr
      rcases (hreported.named r).2 hr with hplaced | hrejected
      · exact Or.inl ⟨hplaced, hreported.once r hplaced⟩
      · exact Or.inr ⟨hrejected, fun hplaced => hreported.once r hplaced hrejected⟩
    · rw [hrejections]
      exact hsame

/-- **When the scheduling cycle reports the truth.** For every queue whose items have distinct ids, every policy, every
engine that placements and retirements lead to, every clock reading and every failure injection. -/
theorem cycle_reports_truth_iff (cfg : Settings) (queue : ControlPlane.QueueCapacityConfig)
    (inj : FailureInjectionConfig)
    (now : Time) (controlPlane : ControlPlaneApplication) (policy : SchedulerPolicy) (ops : List EngineOp)
    (hqueue : (controlPlane.items.map ControlPlane.QueuedRequest.requestId).Nodup) :
    let s : CycleState :=
      ⟨controlPlane, policy, run (ContinuousBatchEngine.step cfg.batch) ContinuousBatchEngine.init ops⟩
    let after := runCycle cfg queue inj now s
    ReportsTruth s.engine after.1.engine after.2 ↔ cyclesCleanly cfg queue inj now s = true := by
  intro s after
  have h : Batching.Inv cfg.batch s.engine := Batching.run_inv cfg.batch ops
  by_cases hcrash : inj.isActive .schedulerCrash none = true
  · have hafter : after = (s, { failure := some (.injectedFailure .schedulerCrash inj.message) }) := by
      simp only [after, runCycle, if_pos hcrash]
    rw [hafter, cyclesCleanly, hcrash]
    simp only [Bool.true_or, iff_true]
    exact reportsTruth_failed h h _ fun _ => rfl
  by_cases htimeout : inj.isActive .schedulerTimeout none = true
  · have hafter : after = (s, { failure := some (.injectedFailure .schedulerTimeout inj.message) }) := by
      simp only [after, runCycle, if_neg hcrash, if_pos htimeout]
    rw [hafter, cyclesCleanly, htimeout]
    simp only [Bool.true_or, Bool.or_true, iff_true]
    exact reportsTruth_failed h h _ fun _ => rfl
  obtain ⟨items, cp', hrun, hsub⟩ := listQueueItems_ok queue cfg.queueScanLimit now s.controlPlane
  have hitems : scannedItems cfg queue now s.controlPlane = items := by
    simp only [scannedItems, hrun]
  have hn : (selectedIds cfg queue now s).Nodup := by
    rw [selectedIds, hitems]
    exact nodup_selected s.policy (hqueue.sublist hsub) now _
  have hd : ∀ {r item}, (itemById items).get? r = some item → item.requestId = r := fun hget => (get?_itemById hget).2
  have hclean : cyclesCleanly cfg queue inj now s =
      placesCleanly cfg.batch inj now (itemById items) false (selectedIds cfg queue now s) s.engine := by
    simp only [cyclesCleanly, hcrash, htimeout, Bool.false_or, hitems]
  rw [hclean]
  have hselected : (s.policy.evaluate (itemsToCandidates now items) cfg.maxCandidateRequests).1.selected =
      selectedIds cfg queue now s := by rw [selectedIds, hitems]
  cases hplace : EStateM.run (placeAll cfg.batch inj now (itemById items) (selectedIds cfg queue now s)) s.engine with
  | ok report e' =>
    have hafter : after = runCycle cfg queue inj now s := rfl
    simp only [runCycle, if_neg hcrash, if_neg htimeout, hrun, scheduleItems, hselected, hplace] at hafter
    rw [hafter]
    exact reportsTruth_iff h hd hn hplace rfl rfl rfl rfl
  | error err e' =>
    have hafter : after = runCycle cfg queue inj now s := rfl
    simp only [runCycle, if_neg hcrash, if_neg htimeout, hrun, scheduleItems, hselected, hplace] at hafter
    rw [hafter]
    have hacc := accounts h hd hn inj now false
    have hinv' : Batching.Inv cfg.batch e' := by
      rw [← Batching.EngineM.final_error hplace]
      exact (placeAll_placed h).1
    constructor
    · intro htruth
      by_contra hunclean
      rcases hacc.errorUnclean hplace (by simpa using hunclean) with hplaced | ⟨r, hmis⟩
      · cases hplaced
      · exact misreported_changed hinv' hmis (htruth.failed (Option.some_ne_none _) r)
    · intro hc
      exact reportsTruth_failed h hinv' _ (hacc.errorClean hplace hc).2

/-! ### Two requests for two models -/

def sampleScheduler : Settings := { queueScanLimit := 10, maxCandidateRequests := 10, batch := Batching.smallConfig }

/-- request 1 for model `m` and request 2 for model `n` wait -/
def twoWaiting : ControlPlaneApplication :=
  run (ControlPlaneApplication.step ControlPlane.sampleSettings) .init
    [.processThroughQueued (ControlPlane.sampleSubmit 1) [] 0 0,
      .processThroughQueued { ControlPlane.sampleSubmit 2 with inferenceRequest := Batching.plainRequest 2 "n" } [] 0 0]

theorem cycle_reports_truth_iff_two :
    let s : CycleState :=
      ⟨twoWaiting, .fifo, run (ContinuousBatchEngine.step sampleScheduler.batch) ContinuousBatchEngine.init []⟩
    let after := runCycle sampleScheduler ControlPlane.sampleSettings.queue {} 1 s
    ReportsTruth s.engine after.1.engine after.2 ↔
      cyclesCleanly sampleScheduler ControlPlane.sampleSettings.queue {} 1 s = true :=
  cycle_reports_truth_iff sampleScheduler ControlPlane.sampleSettings.queue {} 1 twoWaiting .fifo [] (by decide)

/-- the cycle after which the engine and the report are compared, with batch creation failing for request 2 -/
def creationFails : CycleState × SchedulingResult :=
  runCycle sampleScheduler ControlPlane.sampleSettings.queue ⟨true, .batchCreationFailure, some 2, "fault"⟩ 1
    ⟨twoWaiting, .fifo, ContinuousBatchEngine.init⟩

/-- the same with the invalid assignment of request 1 -/
def assignmentInvalid : CycleState × SchedulingResult :=
  runCycle sampleScheduler ControlPlane.sampleSettings.queue ⟨true, .schedulerInvalidBatchAssignment, some 1, "fault"⟩ 1
    ⟨twoWaiting, .fifo, ContinuousBatchEngine.init⟩

theorem not_reportsTruth {result : SchedulingResult} {r : UUID} (hactive : e'.isActive r) (hnot : ¬e.isActive r)
    (hreport : r ∉ result.placementDecisions.map BatchPlacementDecision.requestId) : ¬ReportsTruth e e' result :=
  fun htruth => hreport ((htruth.placed r).1 ⟨hactive, hnot⟩)

/-- Batch creation fails for request 2 after request 1 has been placed: the cycle reports failure and no placement, but
request 1 is ACTIVE. With the invalid assignment, request 1 is reported as refused, and is ACTIVE. -/
theorem placement_unreported :
    (creationFails.1.engine.isActive 1 ∧ creationFails.2.failure.isSome ∧ creationFails.2.placementDecisions = [] ∧
      ¬ReportsTruth ContinuousBatchEngine.init creationFails.1.engine creationFails.2) ∧
    assignmentInvalid.1.engine.isActive 1 ∧
      1 ∈ assignmentInvalid.2.rejectionDecisions.map BatchRejectionDecision.requestId ∧
      ¬ReportsTruth ContinuousBatchEngine.init assignmentInvalid.1.engine assignmentInvalid.2 := by
  have hnot : ¬ContinuousBatchEngine.init.isActive 1 := by decide
  have hcreation : creationFails.1.engine.isActive 1 ∧ creationFails.2.failure.isSome ∧
      creationFails.2.placementDecisions = [] := by decide +kernel
  have hinvalid : assignmentInvalid.1.engine.isActive 1 ∧
      1 ∈ assignmentInvalid.2.rejectionDecisions.map BatchRejectionDecision.requestId ∧
      1 ∉ assignmentInvalid.2.placementDecisions.map BatchPlacementDecision.requestId := by decide +kernel
  obtain ⟨hactive, hfailure, hnone⟩ := hcreation
  obtain ⟨hactive', hrejected, hunplaced⟩ := hinvalid
  have hempty : 1 ∉ creationFails.2.placementDecisions.map BatchPlacementDecision.requestId := by
    rw [hnone]
    exact List.not_mem_nil
  exact ⟨⟨hactive, hfailure, hnone, not_reportsTruth hactive hnot hempty⟩, hactive', hrejected,
    not_reportsTruth hactive' hnot hunplaced⟩

end InferencePlatform.Scheduling
