/-
Room for another request.

As long as all requests in batches are among `ids` and one of `ids` is in none, every batch, and the engine as a whole,
holds fewer ACTIVE requests than there are `ids`: no request is in two batches. With bounds of at least that many and
the admission windows open, the request is admitted (`admitted_of_room`), and it is still after others have been placed
(`Room.placed`).
-/
import InferencePlatform.Batching.Placement

namespace InferencePlatform.Batching

open InferencePlatform.Core (Dict)

variable {cfg : EngineConfig} {e : ContinuousBatchEngine} {inj : FailureInjectionConfig} {now : Time} {item : QueueItem}
  {ids : List UUID} {r : UUID}

/-! ## Counting -/

theorem length_lt_of_missing {l : List UUID} (hl : l.Nodup) (hsub : l ⊆ ids) (hr : r ∈ ids) (hnot : r ∉ l) :
    l.length < ids.length := by
  have hcons : (r :: l).Nodup := List.nodup_cons.2 ⟨hnot, hl⟩
  have hsub' : r :: l ⊆ ids := List.cons_subset.2 ⟨hr, hsub⟩
  exact (hcons.subperm hsub').length_le

/-- the requests in batches are among `ids`, and `r` of `ids` is in none -/
structure Lacks (e : ContinuousBatchEngine) (ids : List UUID) (r : UUID) : Prop where
  among : ∀ {r' id}, e.requestToBatch.get? r' = some id → r' ∈ ids
  mem : r ∈ ids
  unbatched : e.requestToBatch.get? r = none

theorem Lacks.activeMemberCount_lt (hl : Lacks e ids r) (h : Inv cfg e) {id : UUID} {b : Batch}
    (hb : e.batches.get? id = some b) : b.activeMemberCount < ids.length := by
  obtain ⟨s, hs, hbi⟩ := h.batch hb
  have hin : ∀ m ∈ b.activeMembers, e.requestToBatch.get? m.requestId = some id := by
    intro m hm
    exact (h.request _ _).2 ⟨s, m, hs, (hbi.mem_activeMembers.1 hm).1⟩
  rw [← b.length_activeMembers, ← List.length_map (f := BatchMember.requestId)]
  refine length_lt_of_missing hbi.nodup_activeMembers (fun r' hr' => ?_) hl.mem fun hr => ?_
  · obtain ⟨m, hm, rfl⟩ := List.mem_map.1 hr'
    exact hl.among (hin m hm)
  · obtain ⟨m, hm, rfl⟩ := List.mem_map.1 hr
    have hnone := hl.unbatched
    rw [hin m hm] at hnone
    cases hnone

/-- every ACTIVE request of the engine, batch by batch -/
def ContinuousBatchEngine.activeIds (e : ContinuousBatchEngine) : List UUID :=
  e.sets.items.flatMap fun p => p.2.listActiveRequests.map BatchMember.requestId

theorem length_activeIds (e : ContinuousBatchEngine) : e.activeIds.length = e.globalActiveRequestCount := by
  simp only [ContinuousBatchEngine.activeIds, ContinuousBatchEngine.globalActiveRequestCount, Dict.values,
    List.length_flatMap, List.length_map, List.map_map]
  rfl

theorem Inv.listActiveRequests_eq (h : Inv cfg e) {id : UUID} {s : ActiveRequestSet} (hs : e.sets.get? id = some s) :
    ∃ b, e.batches.get? id = some b ∧ BatchInv cfg id b s ∧ s.listActiveRequests = b.activeMembers := by
  obtain ⟨b, hb⟩ := h.set hs
  have hbi := h.setOf hb hs
  exact ⟨b, hb, hbi, by rw [Batch.activeMembers, hbi.members]; rfl⟩

theorem Inv.batched_of_listed (h : Inv cfg e) {id : UUID} {s : ActiveRequestSet} (hs : e.sets.get? id = some s)
    (hr : r ∈ s.listActiveRequests.map BatchMember.requestId) : e.requestToBatch.get? r = some id := by
  obtain ⟨b, hb, hbi, heq⟩ := h.listActiveRequests_eq hs
  rw [heq] at hr
  obtain ⟨m, hm, rfl⟩ := List.mem_map.1 hr
  exact (h.request _ _).2 ⟨s, m, hs, (hbi.mem_activeMembers.1 hm).1⟩

/-- no request is ACTIVE twice -/
theorem Inv.nodup_activeIds (h : Inv cfg e) : e.activeIds.Nodup := by
  rw [ContinuousBatchEngine.activeIds, List.nodup_flatMap]
  constructor
  · intro p hp
    obtain ⟨b, hb, hbi, heq⟩ := h.listActiveRequests_eq (Dict.mem_items.1 hp)
    rw [heq]
    exact hbi.nodup_activeMembers
  · have hkeys : e.sets.items.Pairwise fun p q => p.1 ≠ q.1 := List.pairwise_map.1 e.sets.nodup
    refine hkeys.imp_of_mem fun {p q} hp hq hne => ?_
    rw [Function.onFun, List.disjoint_left]
    intro r hrp hrq
    have hp' := h.batched_of_listed (Dict.mem_items.1 hp) hrp
    rw [h.batched_of_listed (Dict.mem_items.1 hq) hrq] at hp'
    exact hne (Option.some.inj hp').symm

theorem Lacks.globalActiveRequestCount_lt (hl : Lacks e ids r) (h : Inv cfg e) :
    e.globalActiveRequestCount < ids.length := by
  have hin : ∀ r' ∈ e.activeIds, ∃ id, e.requestToBatch.get? r' = some id := by
    intro r' hr'
    obtain ⟨p, hp, hr'⟩ := List.mem_flatMap.1 hr'
    exact ⟨p.1, h.batched_of_listed (Dict.mem_items.1 hp) hr'⟩
  rw [← length_activeIds]
  refine length_lt_of_missing h.nodup_activeIds (fun r' hr' => ?_) hl.mem fun hr => ?_
  · obtain ⟨id, hid⟩ := hin r' hr'
    exact hl.among hid
  · obtain ⟨id, hid⟩ := hin r hr
    rw [hl.unbatched] at hid
    cases hid

/-! ## Admission -/

/-- no FILLING batch's admission window has elapsed -/
def WindowsOpen (now : Time) (e : ContinuousBatchEngine) : Prop :=
  ∀ b ∈ e.batches.values, b.state = .filling → now ≤ b.context.admissionWindowEnd

instance (now : Time) (e : ContinuousBatchEngine) : Decidable (WindowsOpen now e) :=
  inferInstanceAs (Decidable (∀ b ∈ e.batches.values, _ → _))

/-- no fault is injected -/
def Silent (inj : FailureInjectionConfig) : Prop := ∀ point requestId, inj.isActive point requestId = false

/-- the engine has room for every one of `ids` at `now` -/
structure Room (cfg : BatchAdmissionConfig) (now : Time) (ids : List UUID) (e : ContinuousBatchEngine) : Prop where
  size : ids.length ≤ cfg.maxBatchSize
  active : ids.length ≤ cfg.maxActiveRequests
  windows : WindowsOpen now e

theorem admitted_of_room (h : Inv cfg e) (hroom : Room cfg now ids e) (hl : Lacks e ids item.requestId)
    (hinj : Silent inj) :
    Admitted cfg inj now item e := by
  have hbelow : ∀ {id b}, e.batches.get? id = some b → b.activeMemberCount < cfg.maxBatchSize := by
    intro id b hb
    exact (hl.activeMemberCount_lt h hb).trans_le hroom.size
  refine ⟨hinj _ _, hl.unbatched, rfl, fun _ => ?_, evaluateBatchAdmission_accept.2 ⟨?_, fun b hb => ?_⟩⟩
  · rw [Option.eq_none_iff_forall_not_mem]
    intro b hb
    simp only [ContinuousBatchEngine.activeFullBatch, Option.bind_eq_bind, Option.mem_def,
      Option.bind_eq_some_iff] at hb
    obtain ⟨id, -, b', hb', hfull⟩ := hb
    split_ifs at hfull with hcond
    exact absurd hcond.2 (not_le.2 (hbelow hb'))
  · exact (hl.globalActiveRequestCount_lt h).trans_le hroom.active
  · obtain ⟨id, hget, -, hopen, hless⟩ := (h.findAdmittableBatch_eq_some now).1 hb
    obtain ⟨s, -, hbi⟩ := h.batch hget
    refine ⟨hbi.isOpen_iff_not_terminal.1 hopen, hless, fun hclosed => ?_⟩
    exact absurd (hroom.windows b (Dict.mem_values.2 ⟨id, hget⟩) hclosed.1) (not_le.2 hclosed.2)

/-! ## Other placements -/

theorem afterAdmission_window (b : Batch) :
    (b.afterAdmission cfg now).context.admissionWindowEnd = b.context.admissionWindowEnd := by
  unfold Batch.afterAdmission
  split_ifs <;> rfl

theorem filling_of_afterAdmission {b : Batch} (hst : (b.afterAdmission cfg now).state = .filling) :
    b.state = .filling := by
  unfold Batch.afterAdmission at hst
  split_ifs at hst
  · cases hst
  · exact hst

theorem WindowsOpen.placed (hw : WindowsOpen now e) (h : Inv cfg e) (inj : FailureInjectionConfig) (item : QueueItem) :
    WindowsOpen now (e.step cfg (.placeSelected inj now item)) := by
  have hopen : ∀ {id b}, e.batches.get? id = some b → b.state = .filling → now ≤ b.context.admissionWindowEnd := by
    intro id b hb
    exact hw b (Dict.mem_values.2 ⟨id, hb⟩)
  rcases placeSelected_cases h inj now item with ⟨d, events, hrun, -⟩ | ⟨err, events, hrun, -⟩ |
    ⟨batch, e₀, id, b, s, reason, events, -, ht, hj, hrun⟩
  · rw [show e.step cfg (.placeSelected inj now item) = e.logged events from EngineM.final_ok hrun]
    exact hw
  · rw [show e.step cfg (.placeSelected inj now item) = e.logged events from EngineM.final_error hrun]
    exact hw
  · rw [show e.step cfg (.placeSelected inj now item) = e₀.joined cfg id b s item now events from EngineM.final_ok hrun]
    have hopen₀ : ∀ {id b}, e₀.batches.get? id = some b → b.state = .filling → now ≤ b.context.admissionWindowEnd := by
      cases ht with
      | existing => exact hopen
      | fresh hfree =>
        intro id b hb hst
        simp only [ContinuousBatchEngine.opened, Dict.get?_set] at hb
        split_ifs at hb
        · cases hb
          exact Nat.le_add_right now _
        · exact hopen hb hst
    intro b' hb' hst
    obtain ⟨id', hget⟩ := Dict.mem_values.1 hb'
    simp only [ContinuousBatchEngine.joined, Dict.get?_set] at hget
    split_ifs at hget
    · cases hget
      rw [afterAdmission_window]
      -- the join changes neither the batch's state nor its window
      have hfilling : b.state = .filling := (filling_of_afterAdmission hst : (b.withMembers _).state = .filling)
      exact (hopen₀ hj.batch hfilling : now ≤ b.context.admissionWindowEnd)
    · exact hopen₀ hget hst

theorem Room.placed (hroom : Room cfg now ids e) (h : Inv cfg e) (inj : FailureInjectionConfig) (item : QueueItem) :
    Room cfg now ids (e.step cfg (.placeSelected inj now item)) :=
  ⟨hroom.size, hroom.active, hroom.windows.placed h inj item⟩

/-- another one of `ids` is placed -/
theorem Lacks.placed (hl : Lacks e ids r) (h : Inv cfg e) (inj : FailureInjectionConfig) (hitem : item.requestId ∈ ids)
    (hne : r ≠ item.requestId) : Lacks (e.step cfg (.placeSelected inj now item)) ids r := by
  have hplaced : Placed (fun r' => r' = item.requestId) e (e.step cfg (.placeSelected inj now item)) :=
    placed_placeSelected h inj now rfl
  refine ⟨fun hid => ?_, hl.mem, ?_⟩
  · rcases hplaced.entered hid with hold | ⟨rfl, -⟩
    · exact hl.among hold
    · exact hitem
  · rw [Option.eq_none_iff_forall_not_mem]
    intro id hid
    rcases hplaced.entered hid with hold | ⟨heq, -⟩
    · rw [hl.unbatched] at hold
      cases hold
    · exact hne heq

/-- without faults, a placement refuses what is not admitted, and reports the batch of what is -/
theorem placeSelected_silent (h : Inv cfg e) (hinj : Silent inj) (now : Time) (item : QueueItem) :
    (∃ d e', EStateM.run (placeSelected cfg inj now item) e = .ok (.rejected d) e' ∧ d.requestId = item.requestId ∧
      ¬Admitted cfg inj now item e) ∨
    ∃ d e', EStateM.run (placeSelected cfg inj now item) e = .ok (.placed d) e' ∧ d.requestId = item.requestId ∧
      e'.requestToBatch.get? item.requestId = some d.batchId := by
  rcases placeSelected_cases h inj now item with ⟨d, events, hrun, hno, hid⟩ | ⟨err, events, hrun, hcreation, -⟩ |
    ⟨batch, e₀, id, b, s, reason, events, -, ht, hj, hrun⟩
  · exact Or.inl ⟨d, _, hrun, hid, hno _⟩
  · rw [hinj] at hcreation
    cases hcreation
  · rw [addOutcome, hinj, if_neg Bool.false_ne_true] at hrun
    refine Or.inr ⟨_, _, hrun, rfl, ?_⟩
    have hindex : (e₀.joined cfg id b s item now events).requestToBatch = e₀.requestToBatch.set item.requestId id := rfl
    rw [hindex, Dict.get?_set_self]

end InferencePlatform.Batching
