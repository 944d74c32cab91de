/-
The batching engine as a slot allocator.

What the engine is for can be said without batches, sets, pointers and assignments: the ACTIVE requests of a model hold
slots of its one open pool. `ContinuousBatchEngine.allocator` is this view of the engine, and `EngineOp.allocation` what
an operation asks for.

- `allocator_refined`: over every run the view moves as the allocator does, and the answers are the allocator's;
- `models_isolated`: as long as `max_active_requests` does not bind, the open batch of a model and the answers about its
  requests are those of the run without the other models' operations.
-/
import InferencePlatform.Batching.Room
import InferencePlatform.Core.SlotAllocator

namespace InferencePlatform.Batching

open InferencePlatform.Core (Dict Pool SlotAllocator AllocatorOp AllocatorLimits Meets run run_cons)

variable {cfg : EngineConfig} {e : ContinuousBatchEngine} {model : String} {now : Time} {id : UUID} {b : Batch}
  {s : ActiveRequestSet}

/-! ## The view -/

def Batch.pool (b : Batch) : Pool UUID Time where
  holder i := (b.activeMembers.find? fun m => m.slotIndex = i).map BatchMember.requestId
  guests := {r | ∃ m ∈ b.members, m.requestId = r}
  gathersUntil := if b.state = .filling then some b.context.admissionWindowEnd else none

def ContinuousBatchEngine.openBatch (e : ContinuousBatchEngine) (model : String) : Option Batch :=
  (e.activeBatchByModel.get? model).bind e.batches.get?

def ContinuousBatchEngine.allocator (e : ContinuousBatchEngine) : SlotAllocator String UUID Time where
  pools model := (e.openBatch model).map Batch.pool
  placed := {r | e.requestToBatch.get? r ≠ none}
  active := {r | e.isActive r}

def BatchAdmissionConfig.limits (cfg : BatchAdmissionConfig) : AllocatorLimits :=
  ⟨cfg.maxBatchSize, cfg.maxActiveRequests⟩

/-- what an operation asks the allocator for -/
def EngineOp.allocation (cfg : BatchAdmissionConfig) : EngineOp → AllocatorOp String UUID Time
  | .placeSelected inj now item =>
    .place (!inj.isActive .batchAdmissionFailure (some item.requestId))
      (!inj.isActive .batchCreationFailure (some item.requestId))
      now (now + microseconds cfg.batchAdmissionWindowMs) item.inferenceRequest.model item.requestId
  | .failRequest _ requestId _ => .leave true requestId
  | .completeRequest _ requestId | .cancelRequest _ requestId => .leave false requestId

def PlacementOutcome.slot? : PlacementOutcome → Option ℕ
  | .placed d => some d.assignment.slotIndex
  | .rejected _ => none

/-- what the caller of an operation learns: the slot of the request, and whether there was anything to retire -/
def ContinuousBatchEngine.answer (cfg : BatchAdmissionConfig) (e : ContinuousBatchEngine) : EngineOp → Option ℕ × Bool
  | .placeSelected inj now item => (((placeSelected cfg inj now item).value? e).bind PlacementOutcome.slot?, false)
  | .completeRequest now requestId => (none, ((completeRequest requestId now).value? e).any BatchResult.success)
  | .failRequest now requestId reason => (none, ((failRequest requestId reason now).value? e).any BatchResult.success)
  | .cancelRequest now requestId => (none, ((cancelRequest requestId now).value? e).any BatchResult.success)

/-- the operation reports a request that it has placed as rejected -/
def EngineOp.misreports : EngineOp → Prop
  | .placeSelected inj _ item => inj.isActive .schedulerInvalidBatchAssignment (some item.requestId) = true
  | _ => False

/-! ## Pools -/

theorem pool_holder_eq_none {i : ℕ} : b.pool.holder i = none ↔ i ∉ b.activeMembers.map BatchMember.slotIndex := by
  simp [Batch.pool, List.find?_eq_none]

theorem pool_holder_of_mem (hslots : (b.activeMembers.map BatchMember.slotIndex).Nodup) {m : BatchMember}
    (hm : m ∈ b.activeMembers) : b.pool.holder m.slotIndex = some m.requestId := by
  cases hf : b.activeMembers.find? fun m' => m'.slotIndex = m.slotIndex with
  | none =>
    have hnone := List.find?_eq_none.1 hf m hm
    simp at hnone
  | some m' =>
    have hslot : m'.slotIndex = m.slotIndex := by simpa using List.find?_some hf
    have heq : m' = m := List.inj_on_of_nodup_map hslots (List.mem_of_find?_eq_some hf) hm hslot
    simp only [Batch.pool, hf, heq, Option.map_some]

theorem mem_of_pool_holder {i : ℕ} {r : UUID} (h : b.pool.holder i = some r) :
    ∃ m ∈ b.activeMembers, m.slotIndex = i ∧ m.requestId = r := by
  obtain ⟨m, hf, rfl⟩ := Option.map_eq_some_iff.1 h
  exact ⟨m, List.mem_of_find?_eq_some hf, by simpa using List.find?_some hf, rfl⟩

/-- the slots in use are distinct and below the size: the pool is full exactly when there are as many -/
theorem pool_full {n : ℕ} (hslots : (b.activeMembers.map BatchMember.slotIndex).Nodup)
    (hlt : ∀ m ∈ b.activeMembers, m.slotIndex < n) : b.pool.Full n ↔ n ≤ b.activeMemberCount := by
  have hcard : (b.activeMembers.map BatchMember.slotIndex).toFinset.card = b.activeMemberCount := by
    rw [List.toFinset_card_of_nodup hslots, List.length_map, b.length_activeMembers]
  have hsub : (b.activeMembers.map BatchMember.slotIndex).toFinset ⊆ Finset.range n := by
    intro i hi
    obtain ⟨m, hm, rfl⟩ := List.mem_map.1 (List.mem_toFinset.1 hi)
    exact Finset.mem_range.2 (hlt m hm)
  constructor
  · intro hfull
    have hall : Finset.range n ⊆ (b.activeMembers.map BatchMember.slotIndex).toFinset := by
      intro i hi
      have := hfull i (Finset.mem_range.1 hi)
      rw [ne_eq, pool_holder_eq_none, not_not] at this
      exact List.mem_toFinset.2 this
    have := Finset.card_le_card hall
    rwa [Finset.card_range, hcard] at this
  · intro hn i hi
    have heq := Finset.eq_of_subset_of_card_le hsub (by rwa [Finset.card_range, hcard])
    rw [ne_eq, pool_holder_eq_none, not_not, ← List.mem_toFinset, heq]
    exact Finset.mem_range.2 hi

theorem pool_free (b : Batch) : b.pool.free = nextSlotIndex b := by
  refine Pool.free_eq (pool_holder_eq_none.2 (nextSlotIndex_not_mem b)) fun i hi => ?_
  rw [ne_eq, pool_holder_eq_none, not_not]
  exact Core.firstFree_least _ i hi

theorem pool_late : b.pool.Late now ↔ b.state = .filling ∧ b.context.admissionWindowEnd < now := by
  by_cases hst : b.state = .filling
  · simp [Pool.Late, Batch.pool, hst]
  · simp [Pool.Late, Batch.pool, hst]

theorem pool_fresh (cfg : BatchAdmissionConfig) (id : UUID) (model : String) (now : Time) :
    (freshBatch cfg id model now).pool = Pool.fresh (now + microseconds cfg.batchAdmissionWindowMs) := by
  ext
  · rfl
  · simp [freshBatch, Batch.pool, Pool.fresh]
  · rfl

theorem pool_withMember (h : BatchInv cfg id b s) {item : QueueItem} (now : Time)
    (hnew : s.byId.get? item.requestId = none) :
    (b.withMembers (s.insert (newMember b item now))).pool = b.pool.take item.requestId := by
  ext1
  · funext i
    simp only [Pool.take, pool_free, Function.update_apply]
    simp only [Batch.pool, activeMembers_withMember h now hnew, List.find?_append]
    split_ifs with hi
    · have hnone : b.activeMembers.find? (fun m => m.slotIndex = i) = none := by
        rw [List.find?_eq_none, hi]
        intro m hm hslot
        exact nextSlotIndex_not_mem b (List.mem_map.2 ⟨m, hm, by simpa using hslot⟩)
      rw [hnone, Option.none_or]
      simp [newMember, hi]
    · have hnone : [newMember b item now].find? (fun m => m.slotIndex = i) = none := by
        simp [newMember, Ne.symm hi]
      rw [hnone, Option.or_none]
  · ext r
    simp only [Batch.pool, Batch.withMembers, Pool.take, allMembers_insert (m := newMember b item now) hnew, h.members,
      List.mem_append, List.mem_singleton, Set.mem_ofPred_eq, Set.mem_insert_iff]
    constructor
    · rintro ⟨m, hm | rfl, rfl⟩
      · exact Or.inr ⟨m, hm, rfl⟩
      · exact Or.inl rfl
    · rintro (rfl | ⟨m, hm, rfl⟩)
      · exact ⟨_, Or.inr rfl, rfl⟩
      · exact ⟨m, Or.inl hm, rfl⟩
  · rfl

theorem pool_afterAdmission (hslots : (b.activeMembers.map BatchMember.slotIndex).Nodup)
    (hlt : ∀ m ∈ b.activeMembers, m.slotIndex < cfg.maxBatchSize) (now : Time) :
    (b.afterAdmission cfg now).pool = b.pool.settle cfg.maxBatchSize now := by
  by_cases hst : b.state = .filling
  · have hiff : b.activates cfg now ↔
        b.pool.Full cfg.maxBatchSize ∨ ∃ deadline, b.pool.gathersUntil = some deadline ∧ deadline ≤ now := by
      rw [pool_full hslots hlt]
      simp [Batch.activates, Batch.pool, hst]
    unfold Batch.afterAdmission Pool.settle
    split_ifs with ha hs hs
    · rfl
    · exact absurd (hiff.1 ha) hs
    · exact absurd (hiff.2 hs) ha
    · rfl
  · have hnot : ¬b.activates cfg now := fun h => hst h.1
    have hgathers : b.pool.gathersUntil = none := if_neg hst
    unfold Batch.afterAdmission Pool.settle
    rw [if_neg hnot]
    split_ifs
    · ext1
      · rfl
      · rfl
      · exact hgathers
    · rfl

theorem pool_retired (h : BatchInv cfg id b s) {m : BatchMember} {r : UUID} {status : MemberStatus}
    (hm : s.byId.get? r = some m) (hst : status ≠ .active) :
    (b.withMembers (s.withStatus m r status)).pool = b.pool.vacate r := by
  have hmem := fun x => mem_activeMembers_withStatus h r m x hst
  have hbi' := h.retired hm hst "" 0
  have hslots : ((b.withMembers (s.withStatus m r status)).activeMembers.map BatchMember.slotIndex).Nodup := by
    simpa using hbi'.slots
  ext1
  · funext i
    simp only [Pool.vacate]
    split_ifs with hr
    · rw [pool_holder_eq_none]
      intro hi
      obtain ⟨m', hm', rfl⟩ := List.mem_map.1 hi
      obtain ⟨hold, hne⟩ := (hmem m').1 hm'
      rw [pool_holder_of_mem h.slots hold] at hr
      exact hne (Option.some.inj hr)
    · cases hi : b.pool.holder i with
      | none =>
        rw [pool_holder_eq_none] at hi ⊢
        intro hin
        obtain ⟨m', hm', rfl⟩ := List.mem_map.1 hin
        exact hi (List.mem_map_of_mem ((hmem m').1 hm').1)
      | some r' =>
        obtain ⟨m', hm', rfl, rfl⟩ := mem_of_pool_holder hi
        refine pool_holder_of_mem hslots ((hmem m').2 ⟨hm', fun heq => hr ?_⟩)
        rw [hi, heq]
  · ext r'
    simp only [Batch.pool, Batch.withMembers, Pool.vacate, h.members, ActiveRequestSet.allMembers,
      ActiveRequestSet.withStatus, Dict.mem_values, Dict.get?_set, Set.mem_ofPred_eq]
    constructor
    · rintro ⟨m', ⟨k, hk⟩, rfl⟩
      split_ifs at hk with hkr
      · cases hk
        exact ⟨m, ⟨r, hm⟩, rfl⟩
      · exact ⟨m', ⟨k, hk⟩, rfl⟩
    · rintro ⟨m', ⟨k, hk⟩, rfl⟩
      by_cases hkr : k = r
      · subst hkr
        rw [hm] at hk
        cases hk
        exact ⟨_, ⟨k, if_pos rfl⟩, rfl⟩
      · exact ⟨m', ⟨k, by rw [if_neg hkr]; exact hk⟩, rfl⟩
  · rfl

/-- an open batch is closed exactly as its pool is -/
theorem closes_iff (h : BatchInv cfg id b s) (hopen : b.isOpen) {m : BatchMember} {r : UUID} {status : MemberStatus}
    (hm : s.byId.get? r = some m) (hst : status ≠ .active) :
    (b.withMembers (s.withStatus m r status)).closes (s.withStatus m r status) status ↔
      status = .failed ∨ (b.pool.vacate r).Vacant ∧ b.pool.gathersUntil = none := by
  have hvacant : (b.pool.vacate r).Vacant ↔ (s.withStatus m r status).activeCount = 0 := by
    rw [← pool_retired h hm hst, ← activeMemberCount_withMembers b, ← Batch.length_activeMembers,
      List.length_eq_zero_iff]
    simp only [Pool.Vacant, pool_holder_eq_none]
    constructor
    · intro hnone
      rw [← List.map_eq_nil_iff (f := BatchMember.slotIndex), List.eq_nil_iff_forall_not_mem]
      exact hnone
    · intro hnil i
      rw [hnil]
      exact List.not_mem_nil
  have hgathers : b.pool.gathersUntil = none ↔ b.state = .active := by
    rcases h.isOpen_iff.1 hopen with hs | hs
    · simp [Batch.pool, hs]
    · simp [Batch.pool, hs]
  unfold Batch.closes
  split_ifs with hf
  · exact iff_of_true (h.isOpen_iff_not_terminal.1 hopen) (Or.inl hf)
  · rw [hvacant, hgathers, or_iff_right hf]
    rfl

/-! ## The tables -/

theorem Inv.openBatch_eq_some (h : Inv cfg e) :
    e.openBatch model = some b ↔ ∃ id, e.batches.get? id = some b ∧ b.context.model = model ∧ b.isOpen := by
  rw [ContinuousBatchEngine.openBatch, Option.bind_eq_some_iff]
  constructor
  · rintro ⟨id, hid, hb⟩
    obtain ⟨b', hb', hmodel, hopen⟩ := (h.pointer model id).1 hid
    rw [hb] at hb'
    cases hb'
    exact ⟨id, hb, hmodel, hopen⟩
  · rintro ⟨id, hb, hmodel, hopen⟩
    exact ⟨id, (h.pointer model id).2 ⟨b, hb, hmodel, hopen⟩, hb⟩

theorem mem_activeIds (h : Inv cfg e) {r : UUID} : r ∈ e.activeIds ↔ e.isActive r := by
  simp only [ContinuousBatchEngine.activeIds, List.mem_flatMap, isActive_iff]
  constructor
  · rintro ⟨p, hp, hr⟩
    obtain ⟨b, hb, -, heq⟩ := h.listActiveRequests_eq (Dict.mem_items.1 hp)
    rw [heq] at hr
    exact ⟨p.1, b, hb, List.mem_map.1 hr⟩
  · rintro ⟨id, b, hb, hr⟩
    obtain ⟨s, hs, -⟩ := h.batch hb
    obtain ⟨b', hb', -, heq⟩ := h.listActiveRequests_eq hs
    rw [hb] at hb'
    cases hb'
    exact ⟨(id, s), Dict.mem_items.2 hs, by rw [heq]; exact List.mem_map.2 hr⟩

theorem ncard_active (h : Inv cfg e) : e.allocator.active.ncard = e.globalActiveRequestCount := by
  have hset : e.allocator.active = ↑e.activeIds.toFinset := by
    ext r
    simp [ContinuousBatchEngine.allocator, mem_activeIds h]
  rw [hset, Set.ncard_coe_finset, List.toFinset_card_of_nodup h.nodup_activeIds, length_activeIds]

theorem pools_eq (e : ContinuousBatchEngine) (model : String) :
    e.allocator.pools model = (e.openBatch model).map Batch.pool := rfl

theorem target_of_open (hb : e.openBatch model = some b) (deadline : Time) :
    e.allocator.target deadline model = b.pool :=
  SlotAllocator.target_eq (by rw [pools_eq, hb, Option.map_some]) deadline

theorem target_of_none (hb : e.openBatch model = none) (deadline : Time) :
    e.allocator.target deadline model = Pool.fresh deadline := by
  rw [SlotAllocator.target, pools_eq, hb]
  rfl

/-! ## One operation -/

section

variable {item : QueueItem} {batch : Option Batch} {e₀ : ContinuousBatchEngine} {inj : FailureInjectionConfig}

/-- the pool a request joins is the one the view offers -/
theorem Target.pool (h : Inv cfg e) (ht : Target cfg e item.inferenceRequest.model now batch e₀ id b)
    (hj : Joins cfg now item e₀ id b s) :
    e.allocator.target (now + microseconds cfg.batchAdmissionWindowMs) item.inferenceRequest.model = b.pool := by
  cases ht with
  | existing => exact target_of_open (h.openBatch_eq_some.2 ⟨id, hj.batch, hj.model, hj.isOpen⟩) _
  | fresh hfree =>
    rw [target_of_none (by rw [ContinuousBatchEngine.openBatch, hfree]; rfl), pool_fresh]

/-- the batches of the other models stay as they are -/
theorem Target.other (h : Inv cfg e) (ht : Target cfg e item.inferenceRequest.model now batch e₀ id b)
    (hj : Joins cfg now item e₀ id b s) (events : List BatchEvent) {id' : UUID} {b' : Batch}
    (hne : b'.context.model ≠ item.inferenceRequest.model) :
    (e₀.joined cfg id b s item now events).batches.get? id' = some b' ↔ e.batches.get? id' = some b' := by
  simp only [ContinuousBatchEngine.joined, Dict.get?_set]
  have hmodel : ((b.withMembers (s.insert (newMember b item now))).afterAdmission cfg now).context.model =
      item.inferenceRequest.model := by
    rw [Batch.afterAdmission_model]
    exact hj.model
  cases ht with
  | existing =>
    split_ifs with hid
    · rw [hid, hj.batch]
      constructor
      · intro heq
        exact absurd (Option.some.inj heq ▸ hmodel) hne
      · intro heq
        exact absurd (Option.some.inj heq ▸ hj.model) hne
    · rfl
  | fresh hfree =>
    split_ifs with hid
    · rw [hid, h.unused.1]
      constructor
      · intro heq
        exact absurd (Option.some.inj heq ▸ hmodel) hne
      · intro heq
        cases heq
    · rw [ContinuousBatchEngine.opened, Dict.get?_set_ne _ _ hid]

theorem allocator_joined (h : Inv cfg e) (ht : Target cfg e item.inferenceRequest.model now batch e₀ id b)
    (hj : Joins cfg now item e₀ id b s) (events : List BatchEvent) :
    (e₀.joined cfg id b s item now events).allocator =
      { pools := Function.update e.allocator.pools item.inferenceRequest.model (some ((e.allocator.target
          (now + microseconds cfg.batchAdmissionWindowMs) item.inferenceRequest.model).join cfg.maxBatchSize
            now item.requestId))
        placed := insert item.requestId e.allocator.placed
        active := insert item.requestId e.allocator.active } := by
  have h₀ := ht.inv h
  have h₁ := h₀.joined hj events
  have hbi := h₀.setOf hj.batch hj.set
  have hnew := hj.notMember h₀
  have hbi₁ := hbi.joined now hnew hj.model hj.room
  ext1
  · funext model
    simp only [pools_eq, Function.update_apply]
    split_ifs with hmodel
    · have hopen : (e₀.joined cfg id b s item now events).openBatch model =
          some ((b.withMembers (s.insert (newMember b item now))).afterAdmission cfg now) := by
        refine h₁.openBatch_eq_some.2 ⟨id, Dict.get?_set_self _ _ _, ?_, ?_⟩
        · rw [Batch.afterAdmission_model, hmodel]
          exact hj.model
        · rw [Batch.afterAdmission_isOpen]
          exact hj.isOpen
      have hslots := hbi₁.slots
      have hlt := hbi₁.slotLt
      rw [Batch.afterAdmission_activeMembers] at hslots hlt
      rw [hopen, Option.map_some, pool_afterAdmission hslots hlt, pool_withMember hbi now hnew, ht.pool h hj]
      rfl
    · have hopen : (e₀.joined cfg id b s item now events).openBatch model = e.openBatch model := by
        refine Option.ext fun b' => ?_
        rw [h₁.openBatch_eq_some, h.openBatch_eq_some]
        refine exists_congr fun id' => and_congr_left fun hb' => ?_
        exact ht.other h hj events (hb'.1.trans_ne hmodel)
      rw [hopen]
  · ext r
    have hplaced : e₀.requestToBatch = e.requestToBatch := by
      cases ht with
      | existing => rfl
      | fresh hfree => rfl
    simp only [ContinuousBatchEngine.allocator, ContinuousBatchEngine.joined, Dict.get?_set, hplaced, Set.mem_ofPred_eq,
      Set.mem_insert_iff]
    split_ifs with hr
    · simp [hr]
    · simp [hr]
  · ext r
    exact (isActive_joined h₀ hj events r).trans (or_congr_right (ht.isActive h r))

theorem allocator_retired (h : Inv cfg e) {r : UUID} {m : BatchMember} (hh : Holds e r id b s m) {status : MemberStatus}
    (hst : status ≠ .active) (reason : String) (events : List BatchEvent) :
    (e.retired id b (s.withStatus m r status) status reason now events).allocator =
      e.allocator.step cfg.limits (.leave (status = .failed) r) := by
  have hbi := h.setOf hh.batch hh.set
  have hclosesOpen : (b.withMembers (s.withStatus m r status)).closes (s.withStatus m r status) status → b.isOpen := by
    intro hc
    unfold Batch.closes at hc
    split_ifs at hc
    · exact hbi.isOpen_iff_not_terminal.2 hc
    · exact Or.inr (Or.inr hc.2)
  ext1
  · funext model
    simp only [SlotAllocator.step, pools_eq, ContinuousBatchEngine.openBatch, ContinuousBatchEngine.retired]
    cases hid : e.activeBatchByModel.get? model with
    | none =>
      split_ifs
      · rw [Dict.get?_pop, hid]
        simp
      · rw [hid]
        rfl
    | some id' =>
      obtain ⟨b', hb', hmodel, hopen⟩ := (h.pointer model id').1 hid
      by_cases hsame : id' = id
      · subst hsame
        rw [hh.batch] at hb'
        cases hb'
        have hguest : r ∈ b.pool.guests := ⟨m, by rw [hbi.members]; exact Dict.mem_values.2 ⟨r, hh.member⟩,
          (hbi.keyed r m hh.member).1⟩
        have hiff := closes_iff hbi hopen hh.member hst
        split_ifs with hc
        · rw [Dict.get?_pop, if_pos hmodel.symm]
          simp only [Option.bind_none, Option.map_none, Option.bind_some, hh.batch, Option.map_some]
          rw [Pool.part, if_pos hguest, if_pos (by simpa using hiff.1 hc)]
        · rw [hid]
          simp only [Option.bind_some, Dict.get?_set_self, hh.batch, Option.map_some]
          have hstays : ¬(b.withMembers (s.withStatus m r status)).closes (s.withStatus m r status) status := hc
          rw [Pool.part, if_pos hguest, if_neg (by simpa using mt hiff.2 hc), Batch.afterRetirement, if_neg hstays,
            pool_retired hbi hh.member hst]
      · have hguest : r ∉ b'.pool.guests := by
          rintro ⟨m', hm', rfl⟩
          obtain ⟨s', hs', hbi'⟩ := h.batch hb'
          have hm'' := (h.request m'.requestId id').2 ⟨s', m', hs', hbi'.mem_members.1 hm'⟩
          rw [hh.request] at hm''
          exact hsame (Option.some.inj hm'').symm
        have hptr : (if (b.withMembers (s.withStatus m r status)).closes (s.withStatus m r status) status then
            e.activeBatchByModel.pop b.context.model else e.activeBatchByModel).get? model = some id' := by
          split_ifs with hc
          · have hne : model ≠ b.context.model := by
              rintro rfl
              have hown := (h.pointer b.context.model id).2 ⟨b, hh.batch, rfl, hclosesOpen hc⟩
              rw [hid] at hown
              exact hsame (Option.some.inj hown)
            rw [Dict.get?_pop, if_neg hne, hid]
          · exact hid
        have hptr' : (if b.closes (s.withStatus m r status) status then
            e.activeBatchByModel.pop b.context.model else e.activeBatchByModel).get? model = some id' := hptr
        rw [hptr']
        simp only [Option.bind_some, Dict.get?_set_ne _ _ hsame, hb', Option.map_some]
        rw [Pool.part_of_not_guest hguest]
  · rfl
  · ext r'
    exact isActive_retired h hh hst reason now events r'

theorem admitted_iff (h : Inv cfg e) (inj : FailureInjectionConfig) (now : Time) (item : QueueItem) :
    e.allocator.Admits cfg.limits (!inj.isActive .batchAdmissionFailure (some item.requestId))
        (!inj.isActive .batchCreationFailure (some item.requestId)) now (now + microseconds cfg.batchAdmissionWindowMs)
        item.inferenceRequest.model item.requestId ↔
      ∃ batch, Admits cfg inj now item e batch ∧
        (batch = none → inj.isActive .batchCreationFailure (some item.requestId) = false) := by
  have htotal : e.allocator.active.ncard < cfg.limits.total ↔ e.globalActiveRequestCount < cfg.maxActiveRequests := by
    rw [ncard_active h]
    rfl
  cases hb : e.openBatch item.inferenceRequest.model with
  | some b =>
    obtain ⟨id, hid, hmodel, hopen⟩ := h.openBatch_eq_some.1 hb
    obtain ⟨s, hs, hbi⟩ := h.batch hid
    have hfull : b.pool.Full cfg.limits.slots ↔ cfg.maxBatchSize ≤ b.activeMemberCount := pool_full hbi.slots hbi.slotLt
    have htarget := target_of_open hb (now + microseconds cfg.batchAdmissionWindowMs)
    constructor
    · rintro ⟨hallowed, hfresh, hn, -, hroom, hlate⟩
      rw [htarget, hfull, not_le] at hroom
      rw [htarget, pool_late] at hlate
      refine ⟨some b, ⟨by simpa using hallowed, not_not.1 hfresh, ?_, nofun, ?_⟩, nofun⟩
      · exact (h.findAdmittableBatch_eq_some now).2 ⟨id, hid, hmodel, hopen, hroom⟩
      · rw [evaluateBatchAdmission_accept]
        refine ⟨htotal.1 hn, fun b' hb' => ?_⟩
        cases hb'
        exact ⟨hbi.isOpen_iff_not_terminal.1 hopen, hroom, hlate⟩
    · rintro ⟨batch, ha, -⟩
      have hacc := evaluateBatchAdmission_accept.1 ha.accept
      obtain rfl : batch = some b := by
        cases batch with
        | none =>
          have hnone := h.pointer_eq_none ha.found (ha.notFull rfl)
          rw [ContinuousBatchEngine.openBatch, hnone] at hb
          cases hb
        | some b' =>
          obtain ⟨id', hid', hmodel', hopen', -⟩ := (h.findAdmittableBatch_eq_some now).1 ha.found
          rw [h.openBatch_eq_some.2 ⟨id', hid', hmodel', hopen'⟩] at hb
          exact hb
      obtain ⟨-, hroom, hlate⟩ := hacc.2 b rfl
      refine ⟨by simpa using ha.notInjected, not_not.2 ha.unbatched, htotal.2 hacc.1, fun hnone => ?_, ?_, ?_⟩
      · rw [pools_eq, hb] at hnone
        cases hnone
      · rw [htarget, hfull, not_le]
        exact hroom
      · rw [htarget, pool_late]
        exact hlate
  | none =>
    have htarget := target_of_none hb (now + microseconds cfg.batchAdmissionWindowMs)
    have hpools : e.allocator.pools item.inferenceRequest.model = none := by
      rw [pools_eq, hb]
      rfl
    have hpointer : e.activeBatchByModel.get? item.inferenceRequest.model = none := by
      rw [Option.eq_none_iff_forall_not_mem]
      intro id hid
      obtain ⟨b, hid', hmodel, hopen⟩ := (h.pointer _ _).1 hid
      rw [h.openBatch_eq_some.2 ⟨id, hid', hmodel, hopen⟩] at hb
      cases hb
    constructor
    · rintro ⟨hallowed, hfresh, hn, hmay, -, -⟩
      refine ⟨none, ⟨by simpa using hallowed, not_not.1 hfresh, ?_, fun hnone => ?_, ?_⟩,
        fun hnone => by simpa using hmay hpools⟩
      · rw [Option.eq_none_iff_forall_not_mem]
        intro b hfound
        obtain ⟨id, hid, hmodel, hopen, -⟩ := (h.findAdmittableBatch_eq_some now).1 hfound
        rw [h.openBatch_eq_some.2 ⟨id, hid, hmodel, hopen⟩] at hb
        cases hb
      · rw [ContinuousBatchEngine.activeFullBatch, hpointer]
        rfl
      · rw [evaluateBatchAdmission_accept]
        exact ⟨htotal.1 hn, fun b hnone => by cases hnone⟩
    · rintro ⟨batch, ha, hcreation⟩
      obtain rfl : batch = none := by
        cases batch with
        | none => rfl
        | some b =>
          obtain ⟨id, hid, hmodel, hopen, -⟩ := (h.findAdmittableBatch_eq_some now).1 ha.found
          rw [h.openBatch_eq_some.2 ⟨id, hid, hmodel, hopen⟩] at hb
          cases hb
      refine ⟨by simpa using ha.notInjected, not_not.2 ha.unbatched,
        htotal.2 (evaluateBatchAdmission_accept.1 ha.accept).1, fun _ => by simpa using hcreation rfl, ?_, ?_⟩
      · rw [htarget]
        exact fun hfull => hfull 0 cfg.maxBatchSize_pos rfl
      · rw [htarget]
        rintro ⟨deadline, hd, hlt⟩
        cases hd
        exact absurd hlt (not_lt.2 (Nat.le_add_right _ _))

theorem place_refines (h : Inv cfg e) (inj : FailureInjectionConfig) (now : Time) (item : QueueItem) :
    (e.step cfg (.placeSelected inj now item)).allocator =
        e.allocator.step cfg.limits (EngineOp.allocation cfg (.placeSelected inj now item)) ∧
      (¬(EngineOp.placeSelected inj now item).misreports → e.answer cfg (.placeSelected inj now item) =
        e.allocator.answer cfg.limits (EngineOp.allocation cfg (.placeSelected inj now item))) := by
  have hiff := admitted_iff h inj now item
  rcases placeSelected_cases h inj now item with ⟨d, events, hrun, hnot, -⟩ | ⟨err, events, hrun, hinj, -, ha⟩ |
    ⟨batch, e₀, id, b, s, reason, events, ha, ht, hj, hrun⟩
  · have hrefused := mt hiff.1 fun ⟨batch, ha, _⟩ => hnot batch ha
    refine ⟨?_, fun _ => ?_⟩
    · rw [EngineOp.allocation, SlotAllocator.step_place_of_not_admits hrefused, ContinuousBatchEngine.step,
        EngineM.final_ok hrun]
      rfl
    · rw [EngineOp.allocation, SlotAllocator.answer, if_neg hrefused, ContinuousBatchEngine.answer,
        EngineM.value?, hrun]
      rfl
  · have hrefused := mt hiff.1 fun ⟨batch, ha', hcreation⟩ => by
      have hnone : batch = none := ha'.found.symm.trans ha.found
      rw [hcreation hnone] at hinj
      cases hinj
    refine ⟨?_, fun _ => ?_⟩
    · rw [EngineOp.allocation, SlotAllocator.step_place_of_not_admits hrefused, ContinuousBatchEngine.step,
        EngineM.final_error hrun]
      rfl
    · rw [EngineOp.allocation, SlotAllocator.answer, if_neg hrefused, ContinuousBatchEngine.answer,
        EngineM.value?, hrun]
      rfl
  · have hadmitted := hiff.2 ⟨batch, ha⟩
    refine ⟨?_, fun htold => ?_⟩
    · rw [EngineOp.allocation, SlotAllocator.step_place_of_admits hadmitted, ContinuousBatchEngine.step,
        EngineM.final_ok hrun, allocator_joined h ht hj events]
      rfl
    · rw [EngineOp.allocation, SlotAllocator.answer, if_pos hadmitted, ht.pool h hj, pool_free,
        ContinuousBatchEngine.answer, EngineM.value?, hrun]
      have hplain : ¬inj.isActive .schedulerInvalidBatchAssignment (some item.requestId) = true := htold
      simp only [addOutcome, if_neg hplain]
      rfl

theorem retire_refines (h : Inv cfg e) (r : UUID) (status : MemberStatus) (hst : status ≠ .active) (reason : String)
    (now : Time) :
    ((retireRequest r status reason now).final e).allocator =
      e.allocator.step cfg.limits (.leave (status = .failed) r) ∧
      ((none, ((retireRequest r status reason now).value? e).any BatchResult.success) : Option ℕ × Bool) =
        e.allocator.answer cfg.limits (.leave (status = .failed) r) := by
  cases hr : e.requestToBatch.get? r with
  | none =>
    have hrun := retireRequest_unbatched status reason now hr
    have hguest : ∀ model, (e.allocator.pools model).bind (Pool.part (status = .failed) r) =
        e.allocator.pools model := by
      intro model
      rw [pools_eq]
      cases hb : e.openBatch model with
      | none => rfl
      | some b =>
        obtain ⟨id, hid, -, -⟩ := h.openBatch_eq_some.1 hb
        obtain ⟨s, hs, hbi⟩ := h.batch hid
        rw [Option.map_some, Option.bind_some, Pool.part_of_not_guest]
        rintro ⟨m, hm, rfl⟩
        rw [(h.request _ _).2 ⟨s, m, hs, hbi.mem_members.1 hm⟩] at hr
        cases hr
    have hidle : ¬e.isActive r := fun ha => by
      obtain ⟨id, hid⟩ := h.batched_of_isActive ha
      rw [hid] at hr
      cases hr
    constructor
    · rw [EngineM.final_ok hrun, SlotAllocator.step]
      ext1
      · exact (funext hguest).symm
      · rfl
      · exact (Set.sdiff_singleton_eq_self (s := e.allocator.active) hidle).symm
    · rw [EngineM.value?, hrun]
      simp [SlotAllocator.answer, ContinuousBatchEngine.allocator, hr]
  | some id =>
    obtain ⟨b, s, m, hh⟩ := h.holds hr
    obtain ⟨result, events, hsuccess, hrun⟩ := retireRequest_run status reason now hr hh.batch hh.set hh.member
      (h.setOf hh.batch hh.set).notCreated
    constructor
    · rw [EngineM.final_ok hrun]
      exact allocator_retired h hh hst reason events
    · rw [EngineM.value?, hrun]
      simp [SlotAllocator.answer, ContinuousBatchEngine.allocator, hr, hsuccess]

end

theorem step_refines (h : Inv cfg e) (op : EngineOp) :
    (e.step cfg op).allocator = e.allocator.step cfg.limits (op.allocation cfg) ∧
      (¬op.misreports → e.answer cfg op = e.allocator.answer cfg.limits (op.allocation cfg)) := by
  cases op with
  | placeSelected inj now item => exact place_refines h inj now item
  | completeRequest now r =>
    exact (retire_refines h r .completed (by decide) _ now).imp_right fun hanswer _ => hanswer
  | failRequest now r reason =>
    exact (retire_refines h r .failed (by decide) reason now).imp_right fun hanswer _ => hanswer
  | cancelRequest now r =>
    exact (retire_refines h r .cancelled (by decide) _ now).imp_right fun hanswer _ => hanswer

theorem allocator_init : ContinuousBatchEngine.init.allocator = SlotAllocator.init := by
  ext1
  · rfl
  · ext r
    simp [ContinuousBatchEngine.allocator, ContinuousBatchEngine.init, SlotAllocator.init]
  · ext r
    simp [ContinuousBatchEngine.allocator, ContinuousBatchEngine.init, SlotAllocator.init,
      ContinuousBatchEngine.isActive, Dict.values, Dict.empty]

theorem run_allocator (cfg : EngineConfig) (ops : List EngineOp) :
    (run (ContinuousBatchEngine.step cfg) ContinuousBatchEngine.init ops).allocator =
      run (SlotAllocator.step cfg.limits) SlotAllocator.init (ops.map (EngineOp.allocation cfg)) := by
  rw [← allocator_init]
  exact Core.run_map (I := Inv cfg) (fun _ op h => step_inv h op) (fun _ op h => (step_refines h op).1)
    (inv_init cfg) ops

/-- **The engine is a slot allocator.** After every run its view is what the allocator has become, no request holds two
slots in it, and the engine's answer to the next operation is the allocator's, unless an injected fault reports a placed
request as rejected. -/
theorem allocator_refined (cfg : EngineConfig) (ops : List EngineOp) :
    let e := run (ContinuousBatchEngine.step cfg) ContinuousBatchEngine.init ops
    e.allocator = run (SlotAllocator.step cfg.limits) SlotAllocator.init (ops.map (EngineOp.allocation cfg)) ∧
      e.allocator.Sound ∧
      ∀ op, ¬op.misreports → e.answer cfg op = e.allocator.answer cfg.limits (op.allocation cfg) := by
  refine ⟨run_allocator cfg ops, ?_, fun op => (step_refines (run_inv cfg ops) op).2⟩
  rw [run_allocator]
  exact SlotAllocator.run_sound cfg.limits _

/-! ## Isolation -/

def EngineOp.requestId : EngineOp → UUID
  | .placeSelected _ _ item => item.requestId
  | .completeRequest _ requestId | .failRequest _ requestId _ | .cancelRequest _ requestId => requestId

/-- a request is placed under its own model -/
def EngineOp.SubmittedAs (modelOf : UUID → String) : EngineOp → Prop
  | .placeSelected _ _ item => item.inferenceRequest.model = modelOf item.requestId
  | _ => True

/-- the bound on all ACTIVE requests does not bind when a request of the model is placed -/
def BelowBound (cfg : BatchAdmissionConfig) (model : String) (e : ContinuousBatchEngine) : EngineOp → Prop
  | .placeSelected _ _ item => item.inferenceRequest.model = model → e.globalActiveRequestCount < cfg.maxActiveRequests
  | _ => True

instance (cfg : BatchAdmissionConfig) (model : String) (e : ContinuousBatchEngine) : (op : EngineOp) →
    Decidable (BelowBound cfg model e op)
  | .placeSelected _ _ item =>
    inferInstanceAs (Decidable (item.inferenceRequest.model = model →
      e.globalActiveRequestCount < cfg.maxActiveRequests))
  | .completeRequest .. | .failRequest .. | .cancelRequest .. => isTrue trivial

variable {modelOf : UUID → String}

theorem EngineOp.SubmittedAs.atHome {op : EngineOp} (h : op.SubmittedAs modelOf) :
    SlotAllocator.AtHome modelOf (op.allocation cfg) := by
  cases op with
  | placeSelected inj now item => exact h
  | completeRequest now r => trivial
  | failRequest now r reason => trivial
  | cancelRequest now r => trivial

theorem concerns_allocation (op : EngineOp) :
    SlotAllocator.concerns modelOf model (op.allocation cfg) = decide (modelOf op.requestId = model) := by
  cases op <;> rfl

theorem BelowBound.unbound (h : Inv cfg e) {op : EngineOp} (hb : BelowBound cfg model e op) :
    SlotAllocator.Unbound model cfg.limits e.allocator (op.allocation cfg) := by
  cases op with
  | placeSelected inj now item =>
    intro hmodel
    rw [ncard_active h]
    exact hb hmodel
  | completeRequest now r => trivial
  | failRequest now r reason => trivial
  | cancelRequest now r => trivial

/-- **The models do not interfere.** -/
theorem models_isolated (cfg : EngineConfig) (model : String) {ops : List EngineOp}
    (hmodels : ∀ op ∈ ops, op.SubmittedAs modelOf)
    (hbound : Meets (ContinuousBatchEngine.step cfg) (BelowBound cfg model) ContinuousBatchEngine.init ops) :
    let whole := run (ContinuousBatchEngine.step cfg) ContinuousBatchEngine.init ops
    let own := run (ContinuousBatchEngine.step cfg) ContinuousBatchEngine.init
      (ops.filter fun op => modelOf op.requestId = model)
    (whole.openBatch model).map Batch.pool = (own.openBatch model).map Batch.pool ∧
      ∀ op, op.SubmittedAs modelOf → modelOf op.requestId = model → ¬op.misreports → BelowBound cfg model whole op →
        whole.answer cfg op = own.answer cfg op := by
  intro whole own
  have hwhole : whole.allocator = _ := run_allocator cfg ops
  have hown : own.allocator = _ := run_allocator cfg (ops.filter fun op => modelOf op.requestId = model)
  have hfilter : (ops.map (EngineOp.allocation cfg)).filter (SlotAllocator.concerns modelOf model) =
      (ops.filter fun op => modelOf op.requestId = model).map (EngineOp.allocation cfg) := by
    rw [List.filter_map]
    exact congrArg _ (List.filter_congr fun op _ => concerns_allocation op)
  have hn : Meets (SlotAllocator.step cfg.limits) (SlotAllocator.Unbound model cfg.limits) SlotAllocator.init
      (ops.map (EngineOp.allocation cfg)) := by
    rw [← allocator_init]
    exact hbound.map (I := Inv cfg) (fun _ op h => step_inv h op) (fun _ op h => (step_refines h op).1)
      (fun _ _ h hb => hb.unbound h) (inv_init cfg)
  have hhome : ∀ op ∈ ops.map (EngineOp.allocation cfg), SlotAllocator.AtHome modelOf op := by
    intro op hop
    obtain ⟨op', hop', rfl⟩ := List.mem_map.1 hop
    exact (hmodels op' hop').atHome
  obtain ⟨hpools, hanswers⟩ := SlotAllocator.run_isolated cfg.limits hhome hn
  rw [hfilter, ← hwhole, ← hown] at hpools hanswers
  refine ⟨hpools, fun op hop hmodel htold hb => ?_⟩
  rw [(step_refines (run_inv cfg ops) op).2 htold, (step_refines (run_inv cfg _) op).2 htold]
  exact hanswers _ hop.atHome (by rw [concerns_allocation, hmodel, decide_eq_true rfl])
    (hb.unbound (run_inv cfg ops))

/-- two models: the failure of a request of the second closes its batch, and not that of the first -/
def twoModels : List EngineOp :=
  [.placeSelected {} 0 (plainItem 1 "m"), .placeSelected {} 0 (plainItem 2 "n"), .placeSelected {} 1 (plainItem 3 "m"),
    .failRequest 2 2 "request_failed", .completeRequest 3 1]

theorem models_isolated_two :
    ((run (ContinuousBatchEngine.step smallConfig) ContinuousBatchEngine.init twoModels).openBatch "m").map Batch.pool =
      ((run (ContinuousBatchEngine.step smallConfig) ContinuousBatchEngine.init
        (twoModels.filter fun op => (if op.requestId = 2 then "n" else "m") = "m")).openBatch "m").map Batch.pool := by
  refine (@models_isolated (fun r => if r = 2 then "n" else "m") smallConfig "m" _ ?_ (by decide +kernel)).1
  simp [twoModels, EngineOp.SubmittedAs, plainItem, plainRequest]

end InferencePlatform.Batching
