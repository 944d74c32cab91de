/-
The invariant of the continuous batching engine, over every run of its operations.

`Inv` ties the engine's five tables together: each batch with its active request set (`BatchInv`), the request-to-batch
map with membership in the sets, the model's pointer with the model's one open batch, the stored assignments with the
members, and the global ACTIVE count with its bound. Every operation keeps it (`step_inv`), under any clock readings
and any failure injection, so every run does (`run_inv`).

Results:
- `placeSelected_cases`: in a state of the invariant a placement changes nothing but the log, or puts the request into
  one open batch of its model that had room (an existing one, or one just opened);
- `capacity_and_indexing`: what the invariant says of the capacities and indexes of every reachable engine.
-/
import InferencePlatform.Core.Runs
import InferencePlatform.Batching.Spec

namespace InferencePlatform.Batching

open InferencePlatform.Core (Dict firstFree run)

variable {cfg : EngineConfig} {e : ContinuousBatchEngine}

/-! ## The invariant -/

/-- a batch and its active request set -/
structure BatchInv (cfg : BatchAdmissionConfig) (id : UUID) (b : Batch) (s : ActiveRequestSet) : Prop where
  id : b.context.batchId = id
  members : b.members = s.allMembers
  keyed : ∀ rid m, s.byId.get? rid = some m → m.requestId = rid ∧ m.model = b.context.model
  cap : b.activeMemberCount ≤ cfg.maxBatchSize
  slots : (b.activeMembers.map BatchMember.slotIndex).Nodup
  slotLt : ∀ m ∈ b.activeMembers, m.slotIndex < cfg.maxBatchSize
  state : b.state ∈ [BatchState.filling, .active, .completed, .failed]
  /-- a FILLING batch has room: the member that fills it activates it -/
  room : b.state = .filling → b.activeMemberCount < cfg.maxBatchSize
  /-- an ACTIVE batch has members: the retirement of the last one closes it -/
  live : b.state = .active → 0 < b.activeMemberCount

structure Inv (cfg : BatchAdmissionConfig) (e : ContinuousBatchEngine) : Prop where
  batch : ∀ {id b}, e.batches.get? id = some b → ∃ s, e.sets.get? id = some s ∧ BatchInv cfg id b s
  set : ∀ {id s}, e.sets.get? id = some s → ∃ b, e.batches.get? id = some b
  fresh : ∀ {id b}, e.batches.get? id = some b → id < e.uuids
  request : ∀ rid id, e.requestToBatch.get? rid = some id ↔
    ∃ s m, e.sets.get? id = some s ∧ s.byId.get? rid = some m
  /-- the pointer of a model names its open batch, if it has one: there is never a second -/
  pointer : ∀ model id, e.activeBatchByModel.get? model = some id ↔
    ∃ b, e.batches.get? id = some b ∧ b.context.model = model ∧ b.isOpen
  assigned : ∀ {id s rid m}, e.sets.get? id = some s → s.byId.get? rid = some m →
    ∃ req, e.assignments.get? rid = some ⟨rid, m.slotIndex, req⟩ ∧ req.model = m.model
  total : e.globalActiveRequestCount ≤ cfg.maxActiveRequests

theorem Inv.setOf (h : Inv cfg e) {id : UUID} {b : Batch} {s : ActiveRequestSet} (hb : e.batches.get? id = some b)
    (hs : e.sets.get? id = some s) : BatchInv cfg id b s := by
  obtain ⟨s', hs', hi⟩ := h.batch hb
  rw [hs] at hs'
  cases hs'
  exact hi

theorem BatchInv.activeCount {id : UUID} {b : Batch} {s : ActiveRequestSet} (h : BatchInv cfg id b s) :
    b.activeMemberCount = s.activeCount := by
  rw [← b.length_activeMembers, Batch.activeMembers, h.members]
  rfl

theorem BatchInv.notCreated {id : UUID} {b : Batch} {s : ActiveRequestSet} (h : BatchInv cfg id b s) :
    b.state ≠ .created := by
  intro hc
  have := h.state
  simp [hc] at this

/-- an open batch is FILLING or ACTIVE: READY is left within the call that enters it -/
theorem BatchInv.isOpen_iff {id : UUID} {b : Batch} {s : ActiveRequestSet} (h : BatchInv cfg id b s) :
    b.isOpen ↔ b.state = .filling ∨ b.state = .active := by
  have hst := h.state
  unfold Batch.isOpen
  cases hb : b.state <;> simp_all

theorem BatchInv.isOpen_iff_not_terminal {id : UUID} {b : Batch} {s : ActiveRequestSet} (h : BatchInv cfg id b s) :
    b.isOpen ↔ b.state ∉ batchTerminalStates := by
  have hst := h.state
  unfold Batch.isOpen
  cases hb : b.state <;> simp_all [batchTerminalStates]

theorem inv_init (cfg : EngineConfig) : Inv cfg ContinuousBatchEngine.init := by
  refine ⟨?_, ?_, ?_, ?_, ?_, ?_, ?_⟩ <;> simp [ContinuousBatchEngine.init]
  simp [ContinuousBatchEngine.globalActiveRequestCount, Dict.values, Dict.empty]

theorem Inv.logged (h : Inv cfg e) (events : List BatchEvent) : Inv cfg (e.logged events) :=
  ⟨h.batch, h.set, h.fresh, h.request, h.pointer, h.assigned, h.total⟩

theorem Inv.drawn (h : Inv cfg e) : Inv cfg { e with uuids := e.uuids + 1 } :=
  ⟨h.batch, h.set, fun hb => (h.fresh hb).trans (Nat.lt_succ_self _), h.request, h.pointer, h.assigned, h.total⟩

/-! ## Opening a batch -/

theorem batchInv_fresh (cfg : EngineConfig) (id : UUID) (model : String) (now : Time) :
    BatchInv cfg id (freshBatch cfg id model now) ActiveRequestSet.empty := by
  have hpos := cfg.maxBatchSize_pos
  refine ⟨rfl, rfl, ?_, ?_, ?_, ?_, ?_, ?_, ?_⟩ <;>
    simp [freshBatch, Batch.activeMemberCount, Batch.activeMembers, Batch.state, ActiveRequestSet.empty, hpos]

theorem Inv.unused (h : Inv cfg e) : e.batches.get? e.uuids = none ∧ e.sets.get? e.uuids = none := by
  have hnb : e.batches.get? e.uuids = none := by
    rw [Option.eq_none_iff_forall_not_mem]
    exact fun b hb => (h.fresh hb).false
  refine ⟨hnb, ?_⟩
  rw [Option.eq_none_iff_forall_not_mem]
  intro s hs
  obtain ⟨b, hb⟩ := h.set hs
  simp [hnb] at hb

/-- a new batch has no members -/
theorem Inv.globalActiveRequestCount_opened (h : Inv cfg e) (model : String) (now : Time) :
    (e.opened cfg model now).globalActiveRequestCount = e.globalActiveRequestCount := by
  calc (e.opened cfg model now).globalActiveRequestCount = e.globalActiveRequestCount + 0 :=
        Dict.sum_set_new _ h.unused.2
    _ = e.globalActiveRequestCount := Nat.add_zero _

theorem Inv.opened (h : Inv cfg e) {model : String} (now : Time) (hfree : e.activeBatchByModel.get? model = none) :
    Inv cfg (e.opened cfg model now) := by
  obtain ⟨hnb, hns⟩ := h.unused
  refine ⟨fun {id b} hb => ?_, fun {id s} hs => ?_, fun {id b} hb => ?_, fun rid id => ?_, fun model' id => ?_,
    fun {id s rid m} hs hm => ?_, ?_⟩
  · simp only [ContinuousBatchEngine.opened, Dict.get?_set] at hb ⊢
    split_ifs at hb ⊢ with hid
    · cases hb
      subst hid
      exact ⟨_, rfl, batchInv_fresh cfg _ model now⟩
    · exact h.batch hb
  · simp only [ContinuousBatchEngine.opened, Dict.get?_set] at hs ⊢
    split_ifs at hs ⊢ with hid
    · exact ⟨_, rfl⟩
    · exact h.set hs
  · simp only [ContinuousBatchEngine.opened, Dict.get?_set] at hb ⊢
    split_ifs at hb with hid
    · exact hid ▸ Nat.lt_succ_self _
    · exact (h.fresh hb).trans (Nat.lt_succ_self _)
  · rw [show (e.opened cfg model now).requestToBatch = e.requestToBatch from rfl, h.request]
    simp only [ContinuousBatchEngine.opened, Dict.get?_set]
    split_ifs with hid
    · subst hid
      simp [hns, ActiveRequestSet.empty]
    · rfl
  · simp only [ContinuousBatchEngine.opened, Dict.get?_set]
    by_cases hm : model' = model
    · subst hm
      by_cases hid : id = e.uuids
      · subst hid
        simp [freshBatch, Batch.isOpen, Batch.state]
      · have hno : ¬∃ b, e.batches.get? id = some b ∧ b.context.model = model' ∧ b.isOpen := by
          rw [← h.pointer, hfree]
          simp
        simp [hid, Ne.symm hid, hno]
    · by_cases hid : id = e.uuids
      · subst hid
        have hno : e.activeBatchByModel.get? model' ≠ some e.uuids := by
          rw [Ne, h.pointer, hnb]
          simp
        simp [hm, Ne.symm hm, freshBatch, hno]
      · simp [hm, hid, h.pointer]
  · simp only [ContinuousBatchEngine.opened, Dict.get?_set] at hs ⊢
    split_ifs at hs with hid
    · cases hs
      simp [ActiveRequestSet.empty] at hm
    · exact h.assigned hs hm
  · rw [h.globalActiveRequestCount_opened]
    exact h.total

/-! ## Joining a batch -/

@[simp] theorem Batch.afterAdmission_members (cfg : BatchAdmissionConfig) (b : Batch) (now : Time) :
    (b.afterAdmission cfg now).members = b.members := by
  unfold Batch.afterAdmission
  split_ifs <;> rfl

@[simp] theorem Batch.afterAdmission_batchId (cfg : BatchAdmissionConfig) (b : Batch) (now : Time) :
    (b.afterAdmission cfg now).context.batchId = b.context.batchId := by
  unfold Batch.afterAdmission
  split_ifs <;> rfl

@[simp] theorem Batch.afterAdmission_model (cfg : BatchAdmissionConfig) (b : Batch) (now : Time) :
    (b.afterAdmission cfg now).context.model = b.context.model := by
  unfold Batch.afterAdmission
  split_ifs <;> rfl

theorem Batch.afterAdmission_state (cfg : BatchAdmissionConfig) (b : Batch) (now : Time) :
    (b.afterAdmission cfg now).state = if b.activates cfg now then .active else b.state := by
  unfold Batch.afterAdmission
  split_ifs <;> rfl

theorem Batch.afterAdmission_isOpen (cfg : BatchAdmissionConfig) (b : Batch) (now : Time) :
    (b.afterAdmission cfg now).isOpen ↔ b.isOpen := by
  unfold Batch.isOpen
  rw [b.afterAdmission_state]
  split_ifs with ha
  · simp [ha.1]
  · rfl

/-- the batch and the set a request joins, and the room it finds -/
structure Joins (cfg : BatchAdmissionConfig) (now : Time) (item : QueueItem) (e : ContinuousBatchEngine) (id : UUID)
    (b : Batch) (s : ActiveRequestSet) : Prop where
  batch : e.batches.get? id = some b
  set : e.sets.get? id = some s
  unbatched : e.requestToBatch.get? item.requestId = none
  model : b.context.model = item.inferenceRequest.model
  isOpen : b.isOpen
  room : b.activeMemberCount < cfg.maxBatchSize
  total : e.globalActiveRequestCount < cfg.maxActiveRequests
  window : b.state = .filling → now ≤ b.context.admissionWindowEnd

theorem Joins.notMember (h : Inv cfg e) {now : Time} {item : QueueItem} {id : UUID} {b : Batch} {s : ActiveRequestSet}
    (hj : Joins cfg now item e id b s) : s.byId.get? item.requestId = none := by
  rw [Option.eq_none_iff_forall_not_mem]
  intro m hm
  have := (h.request item.requestId id).2 ⟨s, m, hj.set, hm⟩
  simp [hj.unbatched] at this

theorem allMembers_insert {s : ActiveRequestSet} {m : BatchMember} (hnew : s.byId.get? m.requestId = none) :
    (s.insert m).allMembers = s.allMembers ++ [m] := Dict.values_set_of_none hnew

theorem activeMembers_withMember {cfg : EngineConfig} {id : UUID} {b : Batch} {s : ActiveRequestSet}
    (h : BatchInv cfg id b s) {item : QueueItem} (now : Time) (hnew : s.byId.get? item.requestId = none) :
    (b.withMembers (s.insert (newMember b item now))).activeMembers = b.activeMembers ++ [newMember b item now] := by
  simp only [Batch.activeMembers, Batch.withMembers, allMembers_insert (m := newMember b item now) hnew, h.members,
    List.filter_append]
  rfl

theorem activeMemberCount_withMember {cfg : EngineConfig} {id : UUID} {b : Batch} {s : ActiveRequestSet}
    (h : BatchInv cfg id b s) {item : QueueItem} (now : Time) (hnew : s.byId.get? item.requestId = none) :
    (b.withMembers (s.insert (newMember b item now))).activeMemberCount = b.activeMemberCount + 1 := by
  rw [← Batch.length_activeMembers, ← Batch.length_activeMembers, activeMembers_withMember h now hnew,
    List.length_append, List.length_singleton]

@[simp] theorem Batch.afterAdmission_activeMembers (cfg : BatchAdmissionConfig) (b : Batch) (now : Time) :
    (b.afterAdmission cfg now).activeMembers = b.activeMembers := by
  simp [Batch.activeMembers]

@[simp] theorem Batch.afterAdmission_activeMemberCount (cfg : BatchAdmissionConfig) (b : Batch) (now : Time) :
    (b.afterAdmission cfg now).activeMemberCount = b.activeMemberCount := by
  simp [Batch.activeMemberCount]

theorem nextSlotIndex_not_mem (b : Batch) : nextSlotIndex b ∉ b.activeMembers.map BatchMember.slotIndex :=
  Core.firstFree_not_mem _

theorem nextSlotIndex_lt {b : Batch} {n : ℕ} (h : b.activeMemberCount < n) : nextSlotIndex b < n :=
  Core.firstFree_lt (by simpa [b.length_activeMembers] using h)

theorem BatchInv.joined {id : UUID} {b : Batch} {s : ActiveRequestSet} {item : QueueItem} (now : Time)
    (h : BatchInv cfg id b s) (hnew : s.byId.get? item.requestId = none)
    (hmodel : b.context.model = item.inferenceRequest.model) (hroom : b.activeMemberCount < cfg.maxBatchSize) :
    BatchInv cfg id ((b.withMembers (s.insert (newMember b item now))).afterAdmission cfg now)
      (s.insert (newMember b item now)) := by
  have hact := activeMembers_withMember h now hnew
  have hcount := activeMemberCount_withMember h now hnew
  refine ⟨?_, ?_, fun rid m hm => ?_, ?_, ?_, fun m hm => ?_, ?_, fun hf => ?_, fun _ => ?_⟩
  · rw [Batch.afterAdmission_batchId]
    exact h.id
  · rw [Batch.afterAdmission_members]
    rfl
  · rw [Batch.afterAdmission_model]
    simp only [ActiveRequestSet.insert, Dict.get?_set] at hm
    split_ifs at hm with hr
    · cases hm
      exact ⟨hr.symm, hmodel.symm⟩
    · exact h.keyed rid m hm
  · rw [Batch.afterAdmission_activeMemberCount, hcount]
    exact hroom
  · rw [Batch.afterAdmission_activeMembers, hact, List.map_append]
    refine List.Nodup.append h.slots (by simp) (List.disjoint_singleton.2 ?_)
    exact nextSlotIndex_not_mem b
  · rw [Batch.afterAdmission_activeMembers, hact] at hm
    rcases List.mem_append.1 hm with hm | hm
    · exact h.slotLt m hm
    · rw [List.mem_singleton.1 hm]
      exact nextSlotIndex_lt hroom
  · rw [Batch.afterAdmission_state]
    split_ifs
    · simp
    · exact h.state
  · rw [Batch.afterAdmission_state] at hf
    split_ifs at hf with ha
    rw [Batch.afterAdmission_activeMemberCount]
    by_contra hfull
    exact ha ⟨hf, Or.inl (not_lt.1 hfull)⟩
  · rw [Batch.afterAdmission_activeMemberCount, hcount]
    exact Nat.succ_pos _

/-- the pointer already names the batch that is joined, so naming it again changes nothing -/
theorem Inv.joined_pointer (h : Inv cfg e) {now : Time} {item : QueueItem} {id : UUID} {b : Batch}
    {s : ActiveRequestSet} (hj : Joins cfg now item e id b s) (events : List BatchEvent) :
    (e.joined cfg id b s item now events).activeBatchByModel = e.activeBatchByModel := by
  have hptr : e.activeBatchByModel.get? b.context.model = some id :=
    (h.pointer _ _).2 ⟨b, hj.batch, rfl, hj.isOpen⟩
  simp only [ContinuousBatchEngine.joined]
  split_ifs
  · exact Dict.set_get? hptr
  · rfl

theorem Inv.joined (h : Inv cfg e) {now : Time} {item : QueueItem} {id : UUID} {b : Batch} {s : ActiveRequestSet}
    (hj : Joins cfg now item e id b s) (events : List BatchEvent) : Inv cfg (e.joined cfg id b s item now events) := by
  have hbi := h.setOf hj.batch hj.set
  have hnew := hj.notMember h
  have hbi' := hbi.joined now hnew hj.model hj.room
  have hptr := h.joined_pointer hj events
  set m := newMember b item now with hm
  set b' := b.withMembers (s.insert m) with hb'
  refine ⟨fun {id' b₁} hb₁ => ?_, fun {id' s₁} hs₁ => ?_, fun {id' b₁} hb₁ => ?_, fun rid id' => ?_,
    fun model id' => ?_, fun {id' s₁ rid m₁} hs₁ hm₁ => ?_, ?_⟩
  · simp only [ContinuousBatchEngine.joined, Dict.get?_set] at hb₁ ⊢
    split_ifs at hb₁ ⊢ with hid
    · cases hb₁
      subst hid
      exact ⟨_, rfl, hbi'⟩
    · exact h.batch hb₁
  · simp only [ContinuousBatchEngine.joined, Dict.get?_set] at hs₁ ⊢
    split_ifs at hs₁ ⊢ with hid
    · exact ⟨_, rfl⟩
    · exact h.set hs₁
  · simp only [ContinuousBatchEngine.joined, Dict.get?_set] at hb₁ ⊢
    split_ifs at hb₁ with hid
    · exact hid ▸ h.fresh hj.batch
    · exact h.fresh hb₁
  · simp only [ContinuousBatchEngine.joined, Dict.get?_set]
    by_cases hr : rid = item.requestId
    · subst hr
      rw [if_pos rfl, Option.some.injEq]
      constructor
      · rintro rfl
        exact ⟨_, m, if_pos rfl, Dict.get?_set_self _ _ _⟩
      · rintro ⟨s₁, m₁, hs₁, hm₁⟩
        split_ifs at hs₁ with hid
        · exact hid.symm
        · have := (h.request _ _).2 ⟨s₁, m₁, hs₁, hm₁⟩
          simp [hj.unbatched] at this
    · have hget : (s.insert m).byId.get? rid = s.byId.get? rid := Dict.get?_set_ne _ _ hr
      rw [if_neg hr, h.request]
      by_cases hid : id' = id
      · rw [hid]
        simp only [hj.set, if_true, Option.some.injEq, exists_and_left, exists_eq_left']
        rw [← hget]
      · rw [if_neg hid]
  · rw [hptr, h.pointer]
    simp only [ContinuousBatchEngine.joined, Dict.get?_set]
    by_cases hid : id' = id
    · subst hid
      simp only [hj.batch, if_true, Option.some.injEq, exists_eq_left', Batch.afterAdmission_isOpen,
        Batch.afterAdmission_model]
      rfl
    · simp [hid]
  · simp only [ContinuousBatchEngine.joined, Dict.get?_set] at hs₁ ⊢
    by_cases hr : rid = item.requestId
    · subst hr
      by_cases hid : id' = id
      · rw [if_pos hid, Option.some.injEq] at hs₁
        subst hs₁
        obtain rfl : m = m₁ := by simpa [ActiveRequestSet.insert, hm, newMember] using hm₁
        exact ⟨_, by rw [if_pos rfl]; rfl, rfl⟩
      · rw [if_neg hid] at hs₁
        have := (h.request _ _).2 ⟨s₁, m₁, hs₁, hm₁⟩
        simp [hj.unbatched] at this
    · rw [if_neg hr]
      by_cases hid : id' = id
      · rw [if_pos hid, Option.some.injEq] at hs₁
        subst hs₁
        rw [show (s.insert m).byId.get? rid = s.byId.get? rid from Dict.get?_set_ne _ _ hr] at hm₁
        exact h.assigned hj.set hm₁
      · rw [if_neg hid] at hs₁
        exact h.assigned hs₁ hm₁
  · have hsum := Dict.sum_set_old (w := s.insert m) ActiveRequestSet.activeCount hj.set
    have hcount : (s.insert m).activeCount = s.activeCount + 1 := by
      rw [← hbi'.activeCount, Batch.afterAdmission_activeMemberCount, activeMemberCount_withMember hbi now hnew,
        hbi.activeCount]
    have htot := hj.total
    simp only [ContinuousBatchEngine.globalActiveRequestCount] at htot
    change ((e.sets.set id (s.insert m)).values.map ActiveRequestSet.activeCount).sum ≤ _
    omega

/-! ## Retiring a member -/

theorem BatchInv.mem_activeMembers {id : UUID} {b : Batch} {s : ActiveRequestSet} (h : BatchInv cfg id b s)
    {m : BatchMember} : m ∈ b.activeMembers ↔ s.byId.get? m.requestId = some m ∧ m.status = .active := by
  simp only [Batch.activeMembers, List.mem_filter, decide_eq_true_eq, h.members, ActiveRequestSet.allMembers,
    Dict.mem_values]
  constructor
  · rintro ⟨⟨k, hk⟩, hact⟩
    exact ⟨(h.keyed k m hk).1 ▸ hk, hact⟩
  · rintro ⟨hm, hact⟩
    exact ⟨⟨_, hm⟩, hact⟩

/-- a retired member drops out of the ACTIVE members, which keep their order -/
theorem activeMembers_withStatus {id : UUID} {b : Batch} {s : ActiveRequestSet} (h : BatchInv cfg id b s) {rid : UUID}
    {m : BatchMember} (hm : s.byId.get? rid = some m) {status : MemberStatus} (hst : status ≠ .active) :
    ∃ l₁ l₂, b.activeMembers = l₁ ++ (if m.status = .active then [m] else []) ++ l₂ ∧
      (b.withMembers (s.withStatus m rid status)).activeMembers = l₁ ++ l₂ := by
  obtain ⟨l₁, l₂, hv, hv'⟩ := Dict.values_split hm
  refine ⟨l₁.filter fun m => m.status = .active, l₂.filter fun m => m.status = .active, ?_, ?_⟩
  · rw [Batch.activeMembers, h.members, ActiveRequestSet.allMembers, hv]
    by_cases hact : m.status = .active <;> simp [List.filter_append, hact]
  · simp [Batch.activeMembers, Batch.withMembers, ActiveRequestSet.allMembers, ActiveRequestSet.withStatus, hv',
      List.filter_append, hst]

theorem mem_activeMembers_withStatus {id : UUID} {b : Batch} {s : ActiveRequestSet} (h : BatchInv cfg id b s)
    (rid : UUID) (m x : BatchMember) {status : MemberStatus} (hst : status ≠ .active) :
    x ∈ (b.withMembers (s.withStatus m rid status)).activeMembers ↔ x ∈ b.activeMembers ∧ x.requestId ≠ rid := by
  rw [h.mem_activeMembers]
  simp only [Batch.activeMembers, Batch.withMembers, ActiveRequestSet.allMembers, List.mem_filter, Dict.mem_values,
    decide_eq_true_eq, ActiveRequestSet.withStatus, Dict.get?_set]
  constructor
  · rintro ⟨⟨k, hk⟩, hact⟩
    split_ifs at hk with hkr
    · cases hk
      exact absurd hact hst
    · have hkx := (h.keyed k x hk).1
      exact ⟨⟨hkx ▸ hk, hact⟩, hkx ▸ hkr⟩
  · rintro ⟨⟨hx, hact⟩, hne⟩
    exact ⟨⟨x.requestId, by rw [if_neg hne]; exact hx⟩, hact⟩

theorem activeMemberCount_withStatus {id : UUID} {b : Batch} {s : ActiveRequestSet} (h : BatchInv cfg id b s)
    {rid : UUID} {m : BatchMember} (hm : s.byId.get? rid = some m) {status : MemberStatus} (hst : status ≠ .active) :
    (b.withMembers (s.withStatus m rid status)).activeMemberCount + (if m.status = .active then 1 else 0) =
      b.activeMemberCount := by
  obtain ⟨l₁, l₂, h₁, h₂⟩ := activeMembers_withStatus h hm hst
  rw [← Batch.length_activeMembers, ← Batch.length_activeMembers, h₁, h₂]
  split_ifs
  · simp only [List.length_append, List.length_singleton]
    omega
  · simp

@[simp] theorem Batch.afterRetirement_members (b : Batch) (s : ActiveRequestSet) (status : MemberStatus)
    (reason : String) (now : Time) : (b.afterRetirement s status reason now).members = b.members := by
  unfold Batch.afterRetirement
  split_ifs <;> rfl

@[simp] theorem Batch.afterRetirement_batchId (b : Batch) (s : ActiveRequestSet) (status : MemberStatus)
    (reason : String) (now : Time) :
    (b.afterRetirement s status reason now).context.batchId = b.context.batchId := by
  unfold Batch.afterRetirement
  split_ifs <;> rfl

@[simp] theorem Batch.afterRetirement_model (b : Batch) (s : ActiveRequestSet) (status : MemberStatus)
    (reason : String) (now : Time) : (b.afterRetirement s status reason now).context.model = b.context.model := by
  unfold Batch.afterRetirement
  split_ifs <;> rfl

theorem Batch.afterRetirement_state (b : Batch) (s : ActiveRequestSet) (status : MemberStatus) (reason : String)
    (now : Time) :
    (b.afterRetirement s status reason now).state =
      if b.closes s status then (if status = .failed then .failed else .completed) else b.state := by
  unfold Batch.afterRetirement
  split_ifs <;> rfl

@[simp] theorem Batch.afterRetirement_activeMembers (b : Batch) (s : ActiveRequestSet) (status : MemberStatus)
    (reason : String) (now : Time) : (b.afterRetirement s status reason now).activeMembers = b.activeMembers := by
  simp [Batch.activeMembers]

@[simp] theorem Batch.afterRetirement_activeMemberCount (b : Batch) (s : ActiveRequestSet) (status : MemberStatus)
    (reason : String) (now : Time) :
    (b.afterRetirement s status reason now).activeMemberCount = b.activeMemberCount := by
  simp [Batch.activeMemberCount]

/-- a batch that a retirement closes was open, and is not any more -/
theorem Batch.afterRetirement_isOpen (b : Batch) (s : ActiveRequestSet) (status : MemberStatus) (reason : String)
    (now : Time) : (b.afterRetirement s status reason now).isOpen ↔ b.isOpen ∧ ¬b.closes s status := by
  unfold Batch.isOpen
  rw [b.afterRetirement_state]
  split_ifs with hc hf <;> simp [hc]

theorem activeMemberCount_withMembers (b : Batch) (s : ActiveRequestSet) :
    (b.withMembers s).activeMemberCount = s.activeCount := by
  rw [← Batch.length_activeMembers]
  rfl

theorem BatchInv.retired {id : UUID} {b : Batch} {s : ActiveRequestSet} (h : BatchInv cfg id b s) {rid : UUID}
    {m : BatchMember} (hm : s.byId.get? rid = some m) {status : MemberStatus} (hst : status ≠ .active)
    (reason : String) (now : Time) :
    BatchInv cfg id ((b.withMembers (s.withStatus m rid status)).afterRetirement (s.withStatus m rid status) status
      reason now) (s.withStatus m rid status) := by
  obtain ⟨l₁, l₂, h₁, h₂⟩ := activeMembers_withStatus h hm hst
  have hsub : (l₁ ++ l₂).Sublist b.activeMembers := by
    rw [h₁, List.append_assoc]
    exact (List.Sublist.refl l₁).append (List.sublist_append_right _ l₂)
  have hcount := activeMemberCount_withStatus h hm hst
  set s' := s.withStatus m rid status with hs'
  refine ⟨?_, ?_, fun rid' m' hm' => ?_, ?_, ?_, fun m' hm' => ?_, ?_, fun hf => ?_, fun ha => ?_⟩
  · rw [Batch.afterRetirement_batchId]
    exact h.id
  · rw [Batch.afterRetirement_members]
    rfl
  · rw [Batch.afterRetirement_model]
    simp only [hs', ActiveRequestSet.withStatus, Dict.get?_set] at hm'
    split_ifs at hm' with hr
    · cases hm'
      exact hr ▸ h.keyed rid m hm
    · exact h.keyed rid' m' hm'
  · rw [Batch.afterRetirement_activeMemberCount]
    exact le_trans (by omega) h.cap
  · rw [Batch.afterRetirement_activeMembers, h₂]
    exact h.slots.sublist (hsub.map _)
  · rw [Batch.afterRetirement_activeMembers, h₂] at hm'
    exact h.slotLt m' (hsub.subset hm')
  · rw [Batch.afterRetirement_state]
    split_ifs
    · simp
    · simp
    · exact h.state
  · rw [Batch.afterRetirement_state] at hf
    rw [Batch.afterRetirement_activeMemberCount]
    split_ifs at hf with hc
    have := h.room hf
    omega
  · rw [Batch.afterRetirement_state] at ha
    rw [Batch.afterRetirement_activeMemberCount]
    split_ifs at ha with hc hf
    rw [Nat.pos_iff_ne_zero]
    intro h0
    apply hc
    by_cases hf : status = .failed
    · simp [Batch.closes, hf, ha, batchTerminalStates]
    · exact (if_neg hf).mpr ⟨activeMemberCount_withMembers b s' ▸ h0, ha⟩

/-- the member a retirement is about, with the batch and the set that hold it -/
structure Holds (e : ContinuousBatchEngine) (rid id : UUID) (b : Batch) (s : ActiveRequestSet) (m : BatchMember) :
    Prop where
  request : e.requestToBatch.get? rid = some id
  batch : e.batches.get? id = some b
  set : e.sets.get? id = some s
  member : s.byId.get? rid = some m

theorem Inv.holds (h : Inv cfg e) {rid id : UUID} (hr : e.requestToBatch.get? rid = some id) :
    ∃ b s m, Holds e rid id b s m := by
  obtain ⟨s, m, hs, hm⟩ := (h.request rid id).1 hr
  obtain ⟨b, hb⟩ := h.set hs
  exact ⟨b, s, m, hr, hb, hs, hm⟩

theorem Inv.retired (h : Inv cfg e) {rid id : UUID} {b : Batch} {s : ActiveRequestSet} {m : BatchMember}
    (hh : Holds e rid id b s m) {status : MemberStatus} (hst : status ≠ .active) (reason : String) (now : Time)
    (events : List BatchEvent) :
    Inv cfg (e.retired id b (s.withStatus m rid status) status reason now events) := by
  have hbi := h.setOf hh.batch hh.set
  have hbi' := hbi.retired hh.member hst reason now
  have hcount := activeMemberCount_withStatus hbi hh.member hst
  set s' := s.withStatus m rid status with hs'
  refine ⟨fun {id' b₁} hb₁ => ?_, fun {id' s₁} hs₁ => ?_, fun {id' b₁} hb₁ => ?_, fun rid' id' => ?_,
    fun model id' => ?_, fun {id' s₁ rid' m₁} hs₁ hm₁ => ?_, ?_⟩
  · simp only [ContinuousBatchEngine.retired, Dict.get?_set] at hb₁ ⊢
    split_ifs at hb₁ ⊢ with hid
    · cases hb₁
      subst hid
      exact ⟨_, rfl, hbi'⟩
    · exact h.batch hb₁
  · simp only [ContinuousBatchEngine.retired, Dict.get?_set] at hs₁ ⊢
    split_ifs at hs₁ ⊢ with hid
    · exact ⟨_, rfl⟩
    · exact h.set hs₁
  · simp only [ContinuousBatchEngine.retired, Dict.get?_set] at hb₁ ⊢
    split_ifs at hb₁ with hid
    · exact hid ▸ h.fresh hh.batch
    · exact h.fresh hb₁
  · rw [show (e.retired id b s' status reason now events).requestToBatch = e.requestToBatch from rfl, h.request]
    simp only [ContinuousBatchEngine.retired, Dict.get?_set]
    by_cases hid : id' = id
    · rw [hid]
      simp only [hh.set, if_true, Option.some.injEq, exists_and_left, exists_eq_left', hs',
        ActiveRequestSet.withStatus, Dict.get?_set]
      by_cases hr : rid' = rid
      · simp [hr, hh.member]
      · simp [hr]
    · rw [if_neg hid]
  · simp only [ContinuousBatchEngine.retired, Dict.get?_set]
    have hmine : e.activeBatchByModel.get? model = some id ↔ b.context.model = model ∧ b.isOpen := by
      rw [h.pointer]
      simp [hh.batch]
    by_cases hcl : b.closes s' status
    · -- the pointer of the closed batch's model is dropped
      have hopen : b.isOpen := by
        rw [hbi.isOpen_iff_not_terminal]
        unfold Batch.closes at hcl
        split_ifs at hcl
        · exact hcl
        · rw [hcl.2]
          decide
      rw [if_pos hcl, Dict.get?_pop]
      by_cases hid : id' = id
      · subst hid
        have hnot : ¬((b.withMembers s').afterRetirement s' status reason now).isOpen := by
          rw [Batch.afterRetirement_isOpen]
          exact fun hc => hc.2 hcl
        simp only [if_true, Option.some.injEq, exists_eq_left', hnot, and_false, iff_false]
        split_ifs with hmod
        · simp
        · rw [hmine]
          exact fun hc => hmod hc.1.symm
      · simp only [hid, if_false, ← h.pointer]
        split_ifs with hmod
        · have : e.activeBatchByModel.get? model = some id := hmine.2 ⟨hmod.symm, hopen⟩
          simp [this, Ne.symm hid]
        · rfl
    · rw [if_neg hcl, h.pointer]
      by_cases hid : id' = id
      · subst hid
        simp only [hh.batch, if_true, Option.some.injEq, exists_eq_left', Batch.afterRetirement_isOpen,
          Batch.afterRetirement_model]
        exact and_congr_right fun _ => ⟨fun ho => ⟨ho, hcl⟩, fun ho => ho.1⟩
      · simp [hid]
  · simp only [ContinuousBatchEngine.retired, Dict.get?_set] at hs₁ ⊢
    split_ifs at hs₁ with hid
    · cases hs₁
      simp only [hs', ActiveRequestSet.withStatus, Dict.get?_set] at hm₁
      split_ifs at hm₁ with hr
      · cases hm₁
        obtain ⟨req, hreq, hmodel⟩ := h.assigned hh.set hh.member
        exact ⟨req, hr ▸ hreq, hmodel⟩
      · exact h.assigned hh.set hm₁
    · exact h.assigned hs₁ hm₁
  · have hsum := Dict.sum_set_old (w := s') ActiveRequestSet.activeCount hh.set
    have htot := h.total
    rw [activeMemberCount_withMembers, hbi.activeCount] at hcount
    simp only [ContinuousBatchEngine.globalActiveRequestCount] at htot
    change ((e.sets.set id s').values.map ActiveRequestSet.activeCount).sum ≤ _
    omega

/-! ## Every operation -/

/-- where an admitted request goes: into the batch found for it, or into one opened for it -/
inductive Target (cfg : BatchAdmissionConfig) (e : ContinuousBatchEngine) (model : String) (now : Time) :
    Option Batch → ContinuousBatchEngine → UUID → Batch → Prop
  | existing {id : UUID} {b : Batch} : Target cfg e model now (some b) e id b
  | fresh (h : e.activeBatchByModel.get? model = none) :
    Target cfg e model now none (e.opened cfg model now) e.uuids (freshBatch cfg e.uuids model now)

variable {model : String} {now : Time} {batch : Option Batch} {e₀ : ContinuousBatchEngine} {id : UUID} {b : Batch}

theorem Target.inv (h : Inv cfg e) (ht : Target cfg e model now batch e₀ id b) : Inv cfg e₀ := by
  cases ht with
  | existing => exact h
  | fresh hfree => exact h.opened now hfree

theorem Inv.pointedBatch_eq_some (h : Inv cfg e) {model : String} {b : Batch} :
    e.pointedBatch cfg model = some b ↔
      ∃ id, e.batches.get? id = some b ∧ b.context.model = model ∧ b.isOpen ∧
        b.activeMemberCount < cfg.maxBatchSize := by
  constructor
  · intro hp
    simp only [ContinuousBatchEngine.pointedBatch, Option.bind_eq_bind, Option.bind_eq_some_iff] at hp
    obtain ⟨id, hid, b', hb', hp⟩ := hp
    split_ifs at hp with hc
    cases hp
    obtain ⟨b'', hb'', hmodel, hopen⟩ := (h.pointer _ _).1 hid
    rw [hb'] at hb''
    cases hb''
    exact ⟨id, hb', hmodel, hopen, hc.2⟩
  · rintro ⟨id, hb, hmodel, hopen, hroom⟩
    obtain ⟨s, -, hbi⟩ := h.batch hb
    have hid := (h.pointer model id).2 ⟨b, hb, hmodel, hopen⟩
    simp [ContinuousBatchEngine.pointedBatch, hid, hb, hbi.isOpen_iff_not_terminal.1 hopen, hroom]

theorem Inv.findAdmittableBatch_eq_some (h : Inv cfg e) {model : String} (now : Time) {b : Batch} :
    e.findAdmittableBatch cfg model now = some b ↔
      ∃ id, e.batches.get? id = some b ∧ b.context.model = model ∧ b.isOpen ∧
        b.activeMemberCount < cfg.maxBatchSize := by
  unfold ContinuousBatchEngine.findAdmittableBatch
  rw [Option.or_eq_some_iff, h.pointedBatch_eq_some]
  refine ⟨fun hc => hc.elim id fun ⟨hnone, hf⟩ => ?_, Or.inl⟩
  -- the scan only finds what the pointer names
  obtain ⟨id, hb⟩ := Dict.mem_values.1 (List.mem_of_find?_eq_some hf)
  have hp := List.find?_some hf
  simp only [decide_eq_true_eq] at hp
  exact ⟨id, hb, hp.1, Or.inl hp.2.1, hp.2.2.1⟩

/-- with no batch to join and none full, the model has no open batch at all -/
theorem Inv.pointer_eq_none (h : Inv cfg e) {model : String} {now : Time}
    (hfind : e.findAdmittableBatch cfg model now = none) (hfull : e.activeFullBatch cfg model = none) :
    e.activeBatchByModel.get? model = none := by
  rw [Option.eq_none_iff_forall_not_mem]
  intro id hid
  obtain ⟨b, hb, hmodel, hopen⟩ := (h.pointer _ _).1 hid
  obtain ⟨s, -, hbi⟩ := h.batch hb
  have hfullb : cfg.maxBatchSize ≤ b.activeMemberCount := by
    by_contra hroom
    have := (h.findAdmittableBatch_eq_some now).2 ⟨id, hb, hmodel, hopen, not_le.1 hroom⟩
    simp [hfind] at this
  rcases hbi.isOpen_iff.1 hopen with hst | hst
  · exact absurd (hbi.room hst) (not_lt.2 hfullb)
  · rw [Option.mem_def] at hid
    simp [ContinuousBatchEngine.activeFullBatch, hid, hb, hst, hfullb] at hfull

/-- **What a placement can do.** It is refused or its batch creation is made to fail, and only the log changes; or the
request joins one open batch of its model that had room. -/
theorem placeSelected_cases (h : Inv cfg e) (inj : FailureInjectionConfig) (now : Time) (item : QueueItem) :
    (∃ d events, EStateM.run (placeSelected cfg inj now item) e = .ok (.rejected d) (e.logged events) ∧
      (∀ batch, ¬Admits cfg inj now item e batch) ∧ d.requestId = item.requestId) ∨
    (∃ err events, EStateM.run (placeSelected cfg inj now item) e = .error err (e.logged events) ∧
      inj.isActive .batchCreationFailure (some item.requestId) = true ∧
      err = .injectedFailure .batchCreationFailure inj.message ∧ Admits cfg inj now item e none) ∨
    ∃ batch e₀ id b s reason events, (Admits cfg inj now item e batch ∧
        (batch = none → inj.isActive .batchCreationFailure (some item.requestId) = false)) ∧
      Target cfg e item.inferenceRequest.model now batch e₀ id b ∧ Joins cfg now item e₀ id b s ∧
      EStateM.run (placeSelected cfg inj now item) e =
        .ok (addOutcome inj b item id reason) (e₀.joined cfg id b s item now events) := by
  obtain ⟨result, events, hrun, hiff, -, hnamed⟩ := checkSelected_run cfg inj now item e
  simp only [placeSelected, EStateM.run_bind, hrun]
  rcases result with d | ⟨_ | b, reason⟩
  · refine Or.inl ⟨d, events, rfl, fun batch ha => ?_, hnamed d rfl⟩
    obtain ⟨reason, hr⟩ := (hiff batch).2 ha
    cases hr
  · have ha := (hiff none).1 ⟨reason, rfl⟩
    by_cases hinj : inj.isActive .batchCreationFailure (some item.requestId) = true
    · refine Or.inr (Or.inl ⟨.injectedFailure .batchCreationFailure inj.message, events, ?_, hinj, rfl, ha⟩)
      simp only [EStateM.run_bind, maybeRaise, if_pos hinj, EngineM.run_throw]
    · have hfree := h.pointer_eq_none ha.found (ha.notFull rfl)
      have hacc := evaluateBatchAdmission_accept.1 ha.accept
      have hb : (e.opened cfg item.inferenceRequest.model now).batches.get? e.uuids = some _ := Dict.get?_set_self _ _ _
      have hs : (e.opened cfg item.inferenceRequest.model now).sets.get? e.uuids = some _ := Dict.get?_set_self _ _ _
      have htot := h.globalActiveRequestCount_opened item.inferenceRequest.model now
      obtain ⟨events', hadd⟩ := addSelected_run cfg inj now item reason
        (e := (e.logged events).opened cfg item.inferenceRequest.model now) hb hs rfl (Or.inl rfl)
      refine Or.inr (Or.inr ⟨none, _, _, _, _, reason, events', ⟨ha, fun _ => by simpa using hinj⟩, .fresh hfree,
        ⟨hb, hs, ha.unbatched, rfl, Or.inl rfl, cfg.maxBatchSize_pos, htot ▸ hacc.1, fun _ =>
          Nat.le_add_right _ _⟩, ?_⟩)
      simp only [EStateM.run_bind, maybeRaise, if_neg hinj, EStateM.run_pure, createBatch_run]
      exact hadd
  · have ha := (hiff (some b)).1 ⟨reason, rfl⟩
    obtain ⟨id, hb, hmodel, hopen, hroom⟩ := (h.findAdmittableBatch_eq_some now).1 ha.found
    obtain ⟨s, hs, hbi⟩ := h.batch hb
    have hacc := evaluateBatchAdmission_accept.1 ha.accept
    have hj : Joins cfg now item e id b s := ⟨hb, hs, ha.unbatched, hmodel, hopen, hroom, hacc.1, fun hf => by
      have := (hacc.2 b rfl).2.2
      simp only [hf, true_and, not_lt] at this
      exact this⟩
    obtain ⟨events', hadd⟩ := addSelected_run cfg (e := e.logged events) inj now item reason
      hb hs (hj.notMember h) (hbi.isOpen_iff.1 hopen)
    refine Or.inr (Or.inr ⟨some b, e, id, b, s, reason, events', ⟨ha, fun hnone => by cases hnone⟩, .existing, hj, ?_⟩)
    have hid : b.batchId = id := hbi.id
    simp only [hid]
    exact hadd

/-- what a retirement can do: nothing to the tables, or the status of one member is overwritten -/
theorem retireRequest_cases (h : Inv cfg e) (rid : UUID) (status : MemberStatus) (reason : String) (now : Time) :
    (e.requestToBatch.get? rid = none ∧ ∃ r, EStateM.run (retireRequest rid status reason now) e =
      .ok r { e with uuids := e.uuids + 1 }) ∨
    ∃ id b s m r events, Holds e rid id b s m ∧ EStateM.run (retireRequest rid status reason now) e =
      .ok r (e.retired id b (s.withStatus m rid status) status reason now events) := by
  cases hr : e.requestToBatch.get? rid with
  | none => exact Or.inl ⟨rfl, _, retireRequest_unbatched status reason now hr⟩
  | some id =>
    obtain ⟨b, s, m, hh⟩ := h.holds hr
    obtain ⟨r, events, -, hrun⟩ := retireRequest_run status reason now hr hh.batch hh.set hh.member
      (h.setOf hh.batch hh.set).notCreated
    exact Or.inr ⟨id, b, s, m, r, events, hh, hrun⟩

theorem EngineM.final_ok {α : Type} {x : EngineM α} {a : α} {e' : ContinuousBatchEngine}
    (h : EStateM.run x e = .ok a e') : x.final e = e' := by
  simp [EngineM.final, h]

theorem EngineM.final_error {α : Type} {x : EngineM α} {err : EngineError} {e' : ContinuousBatchEngine}
    (h : EStateM.run x e = .error err e') : x.final e = e' := by
  simp [EngineM.final, h]

theorem inv_placeSelected (h : Inv cfg e) (inj : FailureInjectionConfig) (now : Time) (item : QueueItem) :
    Inv cfg ((placeSelected cfg inj now item).final e) := by
  rcases placeSelected_cases h inj now item with ⟨d, events, hrun, -⟩ | ⟨err, events, hrun, -⟩ |
    ⟨batch, e₀, id, b, s, reason, events, -, ht, hj, hrun⟩
  · rw [EngineM.final_ok hrun]
    exact h.logged events
  · rw [EngineM.final_error hrun]
    exact h.logged events
  · rw [EngineM.final_ok hrun]
    exact (ht.inv h).joined hj events

theorem inv_retireRequest (h : Inv cfg e) (rid : UUID) {status : MemberStatus} (hst : status ≠ .active)
    (reason : String) (now : Time) : Inv cfg ((retireRequest rid status reason now).final e) := by
  rcases retireRequest_cases h rid status reason now with ⟨-, r, hrun⟩ | ⟨id, b, s, m, r, events, hh, hrun⟩
  · rw [EngineM.final_ok hrun]
    exact h.drawn
  · rw [EngineM.final_ok hrun]
    exact h.retired hh hst reason now events

theorem step_inv (h : Inv cfg e) (o : EngineOp) : Inv cfg (e.step cfg o) := by
  cases o with
  | placeSelected inj now item => exact inv_placeSelected h inj now item
  | completeRequest now rid => exact inv_retireRequest h rid (by decide) _ now
  | failRequest now rid reason => exact inv_retireRequest h rid (by decide) reason now
  | cancelRequest now rid => exact inv_retireRequest h rid (by decide) _ now

theorem run_inv (cfg : EngineConfig) (ops : List EngineOp) :
    Inv cfg (run (ContinuousBatchEngine.step cfg) ContinuousBatchEngine.init ops) :=
  Core.run_inv (I := Inv cfg) (fun _ o h => step_inv h o) ops (inv_init cfg)

/-! ## Which requests are ACTIVE -/

/-- the request holds a slot: it is an ACTIVE member of some batch -/
def ContinuousBatchEngine.isActive (e : ContinuousBatchEngine) (rid : UUID) : Prop :=
  ∃ b ∈ e.batches.values, ∃ m ∈ b.activeMembers, m.requestId = rid

instance (e : ContinuousBatchEngine) (rid : UUID) : Decidable (e.isActive rid) :=
  inferInstanceAs (Decidable (∃ b ∈ e.batches.values, ∃ m ∈ b.activeMembers, m.requestId = rid))

theorem isActive_iff {e : ContinuousBatchEngine} {rid : UUID} :
    e.isActive rid ↔ ∃ id b, e.batches.get? id = some b ∧ ∃ m ∈ b.activeMembers, m.requestId = rid := by
  simp only [ContinuousBatchEngine.isActive, Dict.mem_values]
  constructor
  · rintro ⟨b, ⟨id, hb⟩, hm⟩
    exact ⟨id, b, hb, hm⟩
  · rintro ⟨id, b, hb, hm⟩
    exact ⟨b, ⟨id, hb⟩, hm⟩

/-- an ACTIVE request is batched -/
theorem Inv.batched_of_isActive (h : Inv cfg e) {rid : UUID} (ha : e.isActive rid) :
    ∃ id, e.requestToBatch.get? rid = some id := by
  obtain ⟨id, b, hb, m, hm, rfl⟩ := isActive_iff.1 ha
  obtain ⟨s, hs, hbi⟩ := h.batch hb
  exact ⟨id, (h.request _ _).2 ⟨s, m, hs, (hbi.mem_activeMembers.1 hm).1⟩⟩

theorem Target.isActive (h : Inv cfg e) (ht : Target cfg e model now batch e₀ id b) (rid : UUID) :
    e₀.isActive rid ↔ e.isActive rid := by
  cases ht with
  | existing => rfl
  | fresh hfree =>
    simp only [ContinuousBatchEngine.isActive, ContinuousBatchEngine.opened, Dict.values_set_of_none h.unused.1,
      List.mem_append, List.mem_singleton]
    constructor
    · rintro ⟨b, hb | rfl, m, hm, hr⟩
      · exact ⟨b, hb, m, hm, hr⟩
      · simp [freshBatch, Batch.activeMembers] at hm
    · rintro ⟨b, hb, hm⟩
      exact ⟨b, Or.inl hb, hm⟩

theorem isActive_joined (h : Inv cfg e) {now : Time} {item : QueueItem} {id : UUID} {b : Batch} {s : ActiveRequestSet}
    (hj : Joins cfg now item e id b s) (events : List BatchEvent) (rid : UUID) :
    (e.joined cfg id b s item now events).isActive rid ↔ rid = item.requestId ∨ e.isActive rid := by
  have hact := activeMembers_withMember (h.setOf hj.batch hj.set) now (hj.notMember h)
  simp only [isActive_iff, ContinuousBatchEngine.joined, Dict.get?_set]
  constructor
  · rintro ⟨id', b', hb', m, hm, rfl⟩
    split_ifs at hb' with hid
    · cases hb'
      rw [Batch.afterAdmission_activeMembers, hact] at hm
      rcases List.mem_append.1 hm with hm | hm
      · exact Or.inr ⟨id, b, hj.batch, m, hm, rfl⟩
      · rw [List.mem_singleton.1 hm]
        exact Or.inl rfl
    · exact Or.inr ⟨id', b', hb', m, hm, rfl⟩
  · have hmem : ∀ m, m ∈ b.activeMembers ++ [newMember b item now] →
        ∃ b', (if id = id then some ((b.withMembers (s.insert (newMember b item now))).afterAdmission cfg now)
          else e.batches.get? id) = some b' ∧ m ∈ b'.activeMembers :=
      fun m hm => ⟨_, if_pos rfl, by rw [Batch.afterAdmission_activeMembers, hact]; exact hm⟩
    rintro (rfl | ⟨id', b', hb', m, hm, rfl⟩)
    · obtain ⟨b', hb', hm⟩ := hmem (newMember b item now) (by simp)
      exact ⟨id, b', hb', _, hm, rfl⟩
    · by_cases hid : id' = id
      · subst hid
        rw [hj.batch] at hb'
        cases hb'
        obtain ⟨b'', hb'', hm'⟩ := hmem m (List.mem_append_left _ hm)
        exact ⟨id', b'', hb'', m, hm', rfl⟩
      · exact ⟨id', b', by rw [if_neg hid]; exact hb', m, hm, rfl⟩

theorem isActive_retired (h : Inv cfg e) {rid id : UUID} {b : Batch} {s : ActiveRequestSet} {m : BatchMember}
    (hh : Holds e rid id b s m) {status : MemberStatus} (hst : status ≠ .active) (reason : String) (now : Time)
    (events : List BatchEvent) (r : UUID) :
    (e.retired id b (s.withStatus m rid status) status reason now events).isActive r ↔ e.isActive r ∧ r ≠ rid := by
  have hbi := h.setOf hh.batch hh.set
  simp only [isActive_iff, ContinuousBatchEngine.retired, Dict.get?_set]
  constructor
  · rintro ⟨id', b', hb', x, hx, rfl⟩
    split_ifs at hb' with hid
    · cases hb'
      rw [Batch.afterRetirement_activeMembers, mem_activeMembers_withStatus hbi rid m _ hst] at hx
      exact ⟨⟨id, b, hh.batch, x, hx.1, rfl⟩, hx.2⟩
    · refine ⟨⟨id', b', hb', x, hx, rfl⟩, ?_⟩
      -- a member of another batch is another request
      rintro hr
      obtain ⟨s', hs', hbi'⟩ := h.batch hb'
      have := (h.request _ _).2 ⟨s', x, hs', (hbi'.mem_activeMembers.1 hx).1⟩
      rw [hr, hh.request] at this
      exact hid (Option.some.inj this).symm
  · rintro ⟨⟨id', b', hb', x, hx, rfl⟩, hne⟩
    by_cases hid : id' = id
    · subst hid
      rw [hh.batch] at hb'
      cases hb'
      refine ⟨id', _, if_pos rfl, x, ?_, rfl⟩
      rw [Batch.afterRetirement_activeMembers, mem_activeMembers_withStatus hbi rid m _ hst]
      exact ⟨hx, hne⟩
    · exact ⟨id', b', by rw [if_neg hid]; exact hb', x, hx, rfl⟩

theorem isActive_retireRequest (h : Inv cfg e) (rid : UUID) {status : MemberStatus} (hst : status ≠ .active)
    (reason : String) (now : Time) (r : UUID) :
    ((retireRequest rid status reason now).final e).isActive r ↔ e.isActive r ∧ r ≠ rid := by
  rcases retireRequest_cases h rid status reason now with ⟨hnone, res, hrun⟩ | ⟨id, b, s, m, res, events, hh, hrun⟩
  · rw [EngineM.final_ok hrun]
    refine ⟨fun ha => ⟨ha, ?_⟩, fun ha => ha.1⟩
    rintro rfl
    obtain ⟨id, hid⟩ := h.batched_of_isActive (e := e) ha
    simp [hnone] at hid
  · rw [EngineM.final_ok hrun]
    exact isActive_retired h hh hst reason now events r

/-- the count is zero exactly when no request is ACTIVE -/
theorem Inv.globalActiveRequestCount_eq_zero (h : Inv cfg e) :
    e.globalActiveRequestCount = 0 ↔ ∀ rid, ¬e.isActive rid := by
  simp only [ContinuousBatchEngine.globalActiveRequestCount, List.sum_eq_zero_iff, List.mem_map,
    forall_exists_index, and_imp, Dict.mem_values]
  constructor
  · intro hz rid ha
    obtain ⟨id, b, hb, m, hm, -⟩ := isActive_iff.1 ha
    obtain ⟨s, hs, hbi⟩ := h.batch hb
    have h0 := hz _ s id hs rfl
    rw [← hbi.activeCount, ← b.length_activeMembers, List.length_eq_zero_iff] at h0
    simp [h0] at hm
  · rintro hz _ s id hs rfl
    obtain ⟨b, hb⟩ := h.set hs
    rw [← (h.setOf hb hs).activeCount, ← b.length_activeMembers, List.length_eq_zero_iff,
      List.eq_nil_iff_forall_not_mem]
    exact fun m hm => hz m.requestId (isActive_iff.2 ⟨id, b, hb, m, hm, rfl⟩)

/-! ## The assignments of a batch -/

theorem BatchInv.nodup_activeMembers {id : UUID} {b : Batch} {s : ActiveRequestSet} (h : BatchInv cfg id b s) :
    (b.activeMembers.map BatchMember.requestId).Nodup := by
  have hall : s.byId.values.map BatchMember.requestId = s.byId.keys := by
    simp only [Dict.values, Dict.keys, List.map_map]
    exact List.map_congr_left fun p hp => (h.keyed p.1 p.2 (Dict.mem_items.1 hp)).1
  have hsub : (b.activeMembers.map BatchMember.requestId).Sublist s.byId.keys := by
    rw [← hall, Batch.activeMembers, h.members]
    exact List.filter_sublist.map _
  exact s.byId.nodup.sublist hsub

/-- the stored assignment of a member -/
structure AssignedTo (m : BatchMember) (a : BatchAssignment) : Prop where
  requestId : a.requestId = m.requestId
  slotIndex : a.slotIndex = m.slotIndex
  model : a.inferenceRequest.model = m.model

/-- every ACTIVE member has its assignment stored: the list is parallel to the members -/
theorem Inv.assignedTo_getBatchAssignments (h : Inv cfg e) {id : UUID} {b : Batch} (hb : e.batches.get? id = some b) :
    List.Forall₂ AssignedTo b.activeMembers (e.getBatchAssignments id) := by
  obtain ⟨s, hs, hbi⟩ := h.batch hb
  have hget : ∀ m ∈ b.activeMembers, ∃ a, e.assignments.get? m.requestId = some a ∧ AssignedTo m a :=
    fun m hm => by
      obtain ⟨req, hreq, hmodel⟩ := h.assigned hs (hbi.mem_activeMembers.1 hm).1
      exact ⟨_, hreq, rfl, rfl, hmodel⟩
  simp only [ContinuousBatchEngine.getBatchAssignments, hb]
  generalize b.activeMembers = l at hget
  induction l with
  | nil => exact .nil
  | cons m l ih =>
    obtain ⟨a, ha, hma⟩ := hget m List.mem_cons_self
    simp only [List.filterMap_cons, ha]
    exact .cons hma (ih fun m' hm' => hget m' (List.mem_cons_of_mem _ hm'))

/-- what an assignment copies from its member, in the members' order -/
theorem map_eq_of_assignedTo {α : Type} {f : BatchMember → α} {g : BatchAssignment → α}
    (hfg : ∀ m a, AssignedTo m a → g a = f m) {members : List BatchMember} {assignments : List BatchAssignment}
    (h : List.Forall₂ AssignedTo members assignments) : assignments.map g = members.map f := by
  induction h with
  | nil => rfl
  | cons hma _ ih => rw [List.map_cons, List.map_cons, hfg _ _ hma, ih]

theorem Inv.map_getBatchAssignments (h : Inv cfg e) {id : UUID} {b : Batch} (hb : e.batches.get? id = some b) :
    (e.getBatchAssignments id).map BatchAssignment.requestId = b.activeMembers.map BatchMember.requestId :=
  map_eq_of_assignedTo (fun _ _ hma => hma.requestId) (h.assignedTo_getBatchAssignments hb)

theorem Inv.nodup_getBatchAssignments (h : Inv cfg e) (id : UUID) :
    ((e.getBatchAssignments id).map BatchAssignment.requestId).Nodup := by
  cases hb : e.batches.get? id with
  | none => simp [ContinuousBatchEngine.getBatchAssignments, hb]
  | some b =>
    obtain ⟨s, -, hbi⟩ := h.batch hb
    rw [h.map_getBatchAssignments hb]
    exact hbi.nodup_activeMembers

/-- only ACTIVE requests are assigned -/
theorem Inv.isActive_of_assigned (h : Inv cfg e) {id rid : UUID}
    (hr : rid ∈ (e.getBatchAssignments id).map BatchAssignment.requestId) : e.isActive rid := by
  cases hb : e.batches.get? id with
  | none => simp only [ContinuousBatchEngine.getBatchAssignments, hb, List.map_nil, List.not_mem_nil] at hr
  | some b =>
    rw [h.map_getBatchAssignments hb] at hr
    obtain ⟨m, hm, hid⟩ := List.mem_map.1 hr
    exact isActive_iff.2 ⟨id, b, hb, m, hm, hid⟩

/-! ## Capacity and indexing -/

/-- what the capacities and the indexes of an engine promise -/
structure CapacityAndIndexing (cfg : BatchAdmissionConfig) (e : ContinuousBatchEngine) : Prop where
  batchCapacity : ∀ id b, e.batches.get? id = some b → b.activeMemberCount ≤ cfg.maxBatchSize
  globalCapacity : e.globalActiveRequestCount ≤ cfg.maxActiveRequests
  slots : ∀ id b, e.batches.get? id = some b →
    (b.activeMembers.map BatchMember.slotIndex).Nodup ∧ ∀ m ∈ b.activeMembers, m.slotIndex < cfg.maxBatchSize
  /-- a request is a member of the batch the map names, and of no other -/
  request : ∀ rid id, e.requestToBatch.get? rid = some id ↔
    ∃ b, e.batches.get? id = some b ∧ ∃ m ∈ b.members, m.requestId = rid
  /-- the record's members are its set's, and every batch has one -/
  records : ∀ id b, e.batches.get? id = some b → ∃ s, e.sets.get? id = some s ∧ b.members = s.allMembers
  sets : ∀ id s, e.sets.get? id = some s → ∃ b, e.batches.get? id = some b
  /-- a member, and the request that was placed for it, are for the batch's model -/
  model : ∀ id b, e.batches.get? id = some b → ∀ m ∈ b.members, m.model = b.context.model ∧
    ∃ a, e.assignments.get? m.requestId = some a ∧ a.inferenceRequest.model = b.context.model

theorem BatchInv.mem_members {id : UUID} {b : Batch} {s : ActiveRequestSet} (h : BatchInv cfg id b s)
    {m : BatchMember} : m ∈ b.members ↔ s.byId.get? m.requestId = some m := by
  rw [h.members, ActiveRequestSet.allMembers, Dict.mem_values]
  constructor
  · rintro ⟨k, hk⟩
    exact (h.keyed k m hk).1 ▸ hk
  · exact fun hm => ⟨_, hm⟩

theorem Inv.capacityAndIndexing (h : Inv cfg e) : CapacityAndIndexing cfg e := by
  refine ⟨fun id b hb => ?_, h.total, fun id b hb => ?_, fun rid id => ?_, fun id b hb => ?_, fun id s hs => h.set hs,
    fun id b hb m hm => ?_⟩
  · obtain ⟨s, -, hbi⟩ := h.batch hb
    exact hbi.cap
  · obtain ⟨s, -, hbi⟩ := h.batch hb
    exact ⟨hbi.slots, hbi.slotLt⟩
  · rw [h.request]
    constructor
    · rintro ⟨s, m, hs, hm⟩
      obtain ⟨b, hb⟩ := h.set hs
      have hbi := h.setOf hb hs
      have hrid := (hbi.keyed rid m hm).1
      exact ⟨b, hb, m, hbi.mem_members.2 (hrid ▸ hm), hrid⟩
    · rintro ⟨b, hb, m, hm, rfl⟩
      obtain ⟨s, hs, hbi⟩ := h.batch hb
      exact ⟨s, m, hs, hbi.mem_members.1 hm⟩
  · obtain ⟨s, hs, hbi⟩ := h.batch hb
    exact ⟨s, hs, hbi.members⟩
  · obtain ⟨s, hs, hbi⟩ := h.batch hb
    have hget := hbi.mem_members.1 hm
    have hmodel := (hbi.keyed _ m hget).2
    obtain ⟨req, hreq, hreqm⟩ := h.assigned hs hget
    exact ⟨hmodel, _, hreq, hreqm.trans hmodel⟩

/-- **Capacity and indexing of the engine.** For every valid configuration, after every run of placements and
retirements, with any queue items, clock readings and failure injection. -/
theorem capacity_and_indexing (cfg : EngineConfig) (ops : List EngineOp) :
    CapacityAndIndexing cfg (run (ContinuousBatchEngine.step cfg) ContinuousBatchEngine.init ops) :=
  (run_inv cfg ops).capacityAndIndexing

end InferencePlatform.Batching
