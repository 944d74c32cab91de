/-
A cycle with room for everybody places the request it is run for.

All requests in batches and all that wait are among `owners`, and the bounds of the scan, of the selection and of the
engine are at least as many. Then every waiting item is scanned and selected, so a request that waits and is in no batch
has its turn (`placeAll_places`), and the report of the cycle names the batch it is in: `runCycle_places`.
-/
import InferencePlatform.Batching.Room
import InferencePlatform.Scheduling.Truth

namespace InferencePlatform.Scheduling

open InferencePlatform.Core (Dict)
open InferencePlatform.Batching
  (ContinuousBatchEngine EngineConfig BatchPlacementDecision BatchRejectionDecision Room Lacks
  Silent)

variable {cfg : EngineConfig} {inj : FailureInjectionConfig} {now : Time} {d : Dict UUID QueueItem}
  {ids owners : List UUID} {e e' : ContinuousBatchEngine} {r : UUID}

/-- a report places the request, into the batch that holds it -/
structure Places (placements : List BatchPlacementDecision) (rejections : List BatchRejectionDecision)
    (e : ContinuousBatchEngine) (r : UUID) : Prop where
  placed : ∃ x, placements.find? (fun x => x.requestId = r) = some x ∧ e.requestToBatch.get? r = some x.batchId
  notRejected : rejections.find? (fun x => x.requestId = r) = none

/-! ## The placements -/

/-- without faults, the placements come to their end -/
theorem placeAll_ok (h : Batching.Inv cfg e) (hinj : Silent inj) (now : Time) (d : Dict UUID QueueItem)
    (ids : List UUID) :
    ∃ report e', EStateM.run (placeAll cfg inj now d ids) e = .ok report e' := by
  induction ids generalizing e with
  | nil => exact ⟨([], []), e, rfl⟩
  | cons r ids ih =>
    cases hget : d.get? r with
    | none =>
      obtain ⟨report, e', hrest⟩ := ih h
      rw [placeAll_missing hget, hrest]
      exact ⟨_, e', rfl⟩
    | some item =>
      have hinv := Batching.step_inv h (.placeSelected inj now item)
      rcases Batching.placeSelected_silent h hinj now item with ⟨x, e₁, hrun, -⟩ | ⟨x, e₁, hrun, -⟩
      · rw [step_placeSelected hrun] at hinv
        obtain ⟨report, e', hrest⟩ := ih hinv
        rw [placeAll_refused hget hrun, hrest]
        exact ⟨_, e', rfl⟩
      · rw [step_placeSelected hrun] at hinv
        obtain ⟨report, e', hrest⟩ := ih hinv
        rw [placeAll_entered hget hrun, hrest]
        exact ⟨_, e', rfl⟩

/-- by induction on the selected requests: whoever comes before `r` leaves it room -/
theorem placeAll_places (h : Batching.Inv cfg e) (hd : ∀ {r item}, d.get? r = some item → item.requestId = r)
    (hinj : Silent inj) (hroom : Room cfg now owners e) (hl : Lacks e owners r) (hn : ids.Nodup)
    (hids : ∀ r' ∈ ids, r' ∈ owners ∧ ∃ item, d.get? r' = some item) (hr : r ∈ ids) {report : Report}
    (hrun : EStateM.run (placeAll cfg inj now d ids) e = .ok report e') : Places report.1 report.2 e' r := by
  induction ids generalizing e report with
  | nil => cases hr
  | cons r₁ ids ih =>
    obtain ⟨hr₁, hn⟩ := List.nodup_cons.1 hn
    obtain ⟨howned, item, hget⟩ := hids r₁ List.mem_cons_self
    have hid := hd hget
    have hinv := Batching.step_inv h (.placeSelected inj now item)
    by_cases hreq : r₁ = r
    · -- its own turn
      subst hreq
      have hadmitted := Batching.admitted_of_room h hroom (hid.symm ▸ hl : Lacks e owners item.requestId) hinj
      rcases Batching.placeSelected_silent h hinj now item with ⟨x, e₁, -, -, hno⟩ | ⟨x, e₁, hfirst, hx, hbatch⟩
      · exact absurd hadmitted hno
      · rw [step_placeSelected hfirst] at hinv
        rw [placeAll_entered hget hfirst] at hrun
        obtain ⟨rest, rfl, hrest⟩ := mapReport_ok hrun
        have hkept : ((placeAll cfg inj now d ids).final e₁).requestToBatch.get? item.requestId = some x.batchId :=
          (placeAll_placed hinv).2.kept hbatch
        rw [Batching.EngineM.final_ok hrest, hid] at hkept
        have hnamed := ((accounts hinv hd hn inj now false).ok hrest).named r₁
        refine ⟨⟨x, ?_, hkept⟩, ?_⟩
        · rw [List.find?_cons_of_pos (by simpa using hx.trans hid)]
        · rw [List.find?_eq_none]
          intro y hy hyr
          exact hr₁ (hnamed.1 (Or.inr (List.mem_map.2 ⟨y, hy, by simpa using hyr⟩)))
    · have hmem := (List.mem_cons.1 hr).resolve_left (Ne.symm hreq)
      have hrest' : ∀ r' ∈ ids, r' ∈ owners ∧ ∃ item, d.get? r' = some item :=
        fun r' hr' => hids r' (List.mem_cons_of_mem _ hr')
      have hroom' := hroom.placed h inj item
      have hl' : Lacks (e.step cfg (.placeSelected inj now item)) owners r :=
        hl.placed h inj (hid.symm ▸ howned) (hid.symm ▸ Ne.symm hreq)
      rcases Batching.placeSelected_silent h hinj now item with ⟨x, e₁, hfirst, hx, -⟩ | ⟨x, e₁, hfirst, hx, -⟩
      · rw [step_placeSelected hfirst] at hinv hroom' hl'
        rw [placeAll_refused hget hfirst] at hrun
        obtain ⟨rest, rfl, hrest⟩ := mapReport_ok hrun
        obtain ⟨hplaced, hnot⟩ := ih hinv hroom' hl' hn hrest' hmem hrest
        refine ⟨hplaced, ?_⟩
        rw [List.find?_cons_of_neg (by simpa [hx.trans hid] using hreq)]
        exact hnot
      · rw [step_placeSelected hfirst] at hinv hroom' hl'
        rw [placeAll_entered hget hfirst] at hrun
        obtain ⟨rest, rfl, hrest⟩ := mapReport_ok hrun
        obtain ⟨⟨y, hfind, hbatch⟩, hnot⟩ := ih hinv hroom' hl' hn hrest' hmem hrest
        refine ⟨⟨y, ?_, hbatch⟩, hnot⟩
        rw [List.find?_cons_of_neg (by simpa [hx.trans hid] using hreq)]
        exact hfind

/-! ## The cycle -/

theorem get?_itemById_of_mem {items : List QueueItem} (hr : r ∈ items.map QueueItem.requestId) :
    ∃ item, (itemById items).get? r = some item := by
  have key : ∀ d : Dict UUID QueueItem, r ∈ items.map QueueItem.requestId ∨ (∃ item, d.get? r = some item) →
      ∃ item, (items.foldl (fun d item => d.set item.requestId item) d).get? r = some item := by
    clear hr
    induction items with
    | nil =>
      rintro d (hr | hd)
      · cases hr
      · exact hd
    | cons x items ih =>
      intro d hr
      rw [List.foldl_cons]
      apply ih
      by_cases hx : r = x.requestId
      · exact Or.inr ⟨x, by rw [hx, Dict.get?_set_self]⟩
      · rcases hr with hr | hd
        · exact Or.inl ((List.mem_cons.1 hr).resolve_left hx)
        · refine Or.inr ?_
          rw [Dict.get?_set_ne _ _ hx]
          exact hd
  exact key Dict.empty (Or.inl hr)

/-- with room for all of them, all candidates are selected -/
theorem selected_perm (policy : SchedulerPolicy) {candidates : List SchedulingCandidate} {n : ℕ}
    (h : candidates.length ≤ n) :
    ((policy.evaluate candidates n).1.selected).Perm (candidates.map SchedulingCandidate.requestId) := by
  have hperm := perm_selected_skipped policy candidates n
  rw [skipped_eq_nil policy h, List.append_nil] at hperm
  exact hperm

/-- **A cycle places whoever it is run for**, when it waits and is in no batch yet. -/
theorem runCycle_places (cfg : Settings) (queue : ControlPlane.QueueCapacityConfig) (hinj : Silent inj) {s : CycleState}
    (hcp : ControlPlane.Inv s.controlPlane) (he : Batching.Inv cfg.batch s.engine)
    (hroom : Room cfg.batch now owners s.engine)
    (hl : Lacks s.engine owners r) (howned : ∀ r', s.controlPlane.overview.waits r' → r' ∈ owners)
    (hr : (s.controlPlane.overview.expire queue now).waits r) (hscan : owners.length ≤ cfg.queueScanLimit)
    (hmax : owners.length ≤ cfg.maxCandidateRequests) :
    let after := runCycle cfg queue inj now s
    Places after.2.placementDecisions after.2.rejectionDecisions after.1.engine r := by
  intro after
  obtain ⟨items, cp, hrun, hleaves, hids⟩ := listQueueItems_spec queue hcp cfg.queueScanLimit now
  have hsub : ((s.controlPlane.overview.expire queue now).waiting.map Prod.fst) ⊆ owners := by
    intro r' hr'
    obtain ⟨item, hitem, rfl⟩ := List.mem_map.1 hr'
    exact howned _ ⟨item, List.mem_of_mem_filter hitem, rfl⟩
  have hnodup : ((s.controlPlane.overview.expire queue now).waiting.map Prod.fst).Nodup := by
    rw [← hleaves.overview]
    exact hleaves.inv.nodup_waiting
  have hlen := (hnodup.subperm hsub).length_le
  rw [List.take_of_length_le (hlen.trans hscan)] at hids
  have hcount : (itemsToCandidates now items).length ≤ cfg.maxCandidateRequests := by
    rw [← List.length_map (f := SchedulingCandidate.requestId), map_itemsToCandidates, hids]
    exact hlen.trans hmax
  have hselected := selected_perm s.policy hcount
  rw [map_itemsToCandidates] at hselected
  have hafter : after = scheduleItems cfg inj now items { s with controlPlane := cp } := by
    simp only [after, runCycle, hinj .schedulerCrash none, hinj .schedulerTimeout none,
      Bool.false_eq_true, if_false, hrun]
  rw [hafter]
  unfold scheduleItems
  dsimp only
  set selected := (s.policy.evaluate (itemsToCandidates now items) cfg.maxCandidateRequests).1.selected
  have hmem : ∀ r' ∈ selected, r' ∈ owners ∧ ∃ item, (itemById items).get? r' = some item := by
    intro r' hr'
    have hitem := hselected.mem_iff.1 hr'
    exact ⟨hsub (hids ▸ hitem), get?_itemById_of_mem hitem⟩
  have hin : r ∈ selected := by
    obtain ⟨item, hitem, hid⟩ := hr
    rw [hselected.mem_iff, hids]
    exact List.mem_map.2 ⟨item, hitem, hid⟩
  have hn : selected.Nodup := hselected.nodup_iff.2 (hids ▸ hnodup)
  obtain ⟨report, e', hplace⟩ := placeAll_ok he hinj now (itemById items) selected
  rw [hplace]
  exact placeAll_places he (fun hget => (get?_itemById hget).2) hinj hroom hl hn hmem hin hplace

end InferencePlatform.Scheduling
