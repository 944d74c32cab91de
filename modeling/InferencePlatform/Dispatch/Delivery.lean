/-
Delivery of placed requests, when dispatch calls follow one another.

Here every `submit_pending_batches` call runs to its end before the next operation, routing finds a backend, the adapter
accepts, and there is no threshold: the most favourable schedule. A batch takes members as long as it is open, FILLING
or ACTIVE, but the submitter remembers batches, not members: whoever joins a batch after its first accepted dispatch is
never sent (`late_member_never_sent`).

`members_delivered`: if no placement joins a batch that has been submitted, then after a `submit_pending_batches` call
every ACTIVE member of an open batch is in an accepted dispatch of that batch.
-/
import InferencePlatform.Batching.Invariant
import InferencePlatform.Dispatch.Submitter

namespace InferencePlatform.Dispatch

open InferencePlatform.Core (Dict Meets run)
open Batching (ContinuousBatchEngine Batch BatchMember EngineOp EngineConfig BatchAdmissionConfig Admits Joins Target)

variable {bcfg : EngineConfig} {cfg : DispatchConfig} {e : ContinuousBatchEngine}

/-! ## A call from start to end -/

/-- the adapter accepts every attempt of a call, at most `n` of them -/
def acceptAll (cfg : DispatchConfig) (route : Route) (e : ContinuousBatchEngine) :
    ℕ → BatchDispatchService × SubmitTask → BatchDispatchService × SubmitTask
  | 0, p => p
  | n + 1, (svc, task) =>
    match task.attempt with
    | none => (svc, task)
    | some a => acceptAll cfg route e n (task.resumeWith cfg route e svc a (.result true a.backendId "accepted"))

/-- `submit_pending_batches` with an adapter that accepts: one attempt a batch at most -/
def submitPendingBatches (cfg : DispatchConfig) (route : Route) (e : ContinuousBatchEngine)
    (svc : BatchDispatchService) : BatchDispatchService × SubmitTask :=
  acceptAll cfg route e e.listBatches.length (submitPending cfg route e svc)

/-- routing finds a backend, if it is configured at all -/
def Finds (cfg : DispatchConfig) (route : Route) : Prop :=
  cfg.routed = true → ∀ requestId model excluded, ∃ backendId, route requestId model excluded = .ok backendId

variable {route : Route} {svc : BatchDispatchService}

theorem pending_iff {submitted : Finset UUID} (hmin : cfg.minDispatchMembers = none) {id : UUID} :
    Pending cfg submitted e id ↔
      id ∉ submitted ∧ ∃ b, e.batches.get? id = some b ∧ b.isOpen ∧ b.activeMemberCount ≠ 0 := by
  simp only [Pending, hmin, Option.mem_def, ContinuousBatchEngine.getBatch, reduceCtorEq, false_implies, implies_true,
    and_true]

/-- a pending batch reaches the adapter, with the assignments of its ACTIVE members -/
theorem iterate_pending (h : Batching.Inv bcfg e) (hfinds : Finds cfg route) {submitted : Finset UUID} {id : UUID}
    (hp : Pending cfg submitted e id) :
    ∃ a, iterate cfg route e { batchId := id, assignments := e.getBatchAssignments id } = .waiting a ∧
      a.sub.batchId = id ∧ a.dispatch.batchId = id ∧ a.dispatch.assignments = e.getBatchAssignments id := by
  obtain ⟨-, b, hb, hopen, hcount, -⟩ := hp
  obtain ⟨s, -, hbi⟩ := h.batch hb
  have hne : (e.getBatchAssignments id).isEmpty = false := by
    rw [List.isEmpty_eq_false_iff, Ne, ← List.map_eq_nil_iff (f := BatchAssignment.requestId),
      h.map_getBatchAssignments hb, List.map_eq_nil_iff, ← List.length_eq_zero_iff, b.length_activeMembers]
    exact hcount
  have hget : e.getBatch id = some b := hb
  have hroute : ∃ backendId, (if cfg.routed then
      route (Submission.requestId { batchId := id, assignments := e.getBatchAssignments id }) b.context.model ∅
      else .ok cfg.defaultBackendId) = .ok backendId := by
    by_cases hr : cfg.routed = true
    · simpa [hr] using hfinds hr _ _ _
    · exact ⟨cfg.defaultBackendId, by simp [hr]⟩
  obtain ⟨backendId, hroute⟩ := hroute
  have hit : iterate cfg route e { batchId := id, assignments := e.getBatchAssignments id } = .waiting
      { sub := { batchId := id, assignments := e.getBatchAssignments id }, backendId
        dispatch := { batchId := b.batchId, model := b.context.model, workerId := backendId
                      assignments := e.getBatchAssignments id
                      createdAt := b.context.activatedAt.getD b.context.createdAt } } := by
    simp only [iterate, hget, hroute, buildDispatchBatch, hopen, not_true_eq_false, if_false, hne, Bool.false_eq_true]
  exact ⟨_, hit, rfl, hbi.id, rfl⟩

/-- what a visit has left when it stops at the adapter, or returns -/
inductive Visited (cfg : DispatchConfig) (e : ContinuousBatchEngine) (submitted : Finset UUID) (ids : List UUID)
    (task : SubmitTask) : Prop
  | returned (h : task.attempt = none) (hnone : ∀ id ∈ ids, ¬Pending cfg submitted e id)
  | stopped (a : Attempt) (h : task.attempt = some a) (before : List UUID)
    (hsplit : ids = before ++ a.sub.batchId :: task.remaining) (hbefore : ∀ id ∈ before, ¬Pending cfg submitted e id)
    (hexists : ∃ b, e.batches.get? a.sub.batchId = some b) (hbatch : a.dispatch.batchId = a.sub.batchId)
    (hassign : a.dispatch.assignments = e.getBatchAssignments a.sub.batchId)

theorem visited (h : Batching.Inv bcfg e) (hfinds : Finds cfg route) (submitted : Finset UUID) (ids : List UUID)
    (results : List BatchDispatchResult) :
    Visited cfg e submitted ids (visit cfg route e submitted ids results) := by
  induction ids generalizing results with
  | nil => exact .returned rfl (by simp)
  | cons id ids ih =>
    by_cases hp : Pending cfg submitted e id
    · obtain ⟨a, hit, hid, hbatch, hassign⟩ := iterate_pending h hfinds hp
      have hv : visit cfg route e submitted (id :: ids) results = ⟨ids, results, some a⟩ := by
        simp only [visit, if_pos hp, hit]
      obtain ⟨-, b, hb, -⟩ := hp
      rw [hv]
      exact .stopped a rfl [] (by rw [hid]; rfl) (by simp) ⟨b, hid ▸ hb⟩ (hbatch.trans hid.symm)
        (by rw [hid]; exact hassign)
    · have hv : visit cfg route e submitted (id :: ids) results = visit cfg route e submitted ids results := by
        simp only [visit, if_neg hp]
      have hih := ih results
      rw [hv]
      generalize visit cfg route e submitted ids results = task at hih
      cases hih with
      | returned hnone hall =>
        refine .returned hnone fun x hx => ?_
        rcases List.mem_cons.1 hx with rfl | hx
        · exact hp
        · exact hall x hx
      | stopped a ha before hsplit hbefore hexists hbatch hassign =>
        refine .stopped a ha (id :: before) (by rw [hsplit]; rfl) (fun x hx => ?_) hexists hbatch hassign
        rcases List.mem_cons.1 hx with rfl | hx
        · exact hp
        · exact hbefore x hx

/-- between two services: what a call over the batches `ids` has submitted, and in which dispatch -/
structure Delivered (cfg : DispatchConfig) (e : ContinuousBatchEngine) (ids : List UUID)
    (svc svc' : BatchDispatchService) : Prop where
  submitted : svc.submittedBatchIds ⊆ svc'.submittedBatchIds
  accepted : ∀ d ∈ svc.accepted, d ∈ svc'.accepted
  pending : ∀ id ∈ ids, Pending cfg svc.submittedBatchIds e id → id ∈ svc'.submittedBatchIds
  new : ∀ id ∈ svc'.submittedBatchIds, id ∈ svc.submittedBatchIds ∨ (∃ b, e.batches.get? id = some b) ∧
    ∃ d ∈ svc'.accepted, d.batchId = id ∧ d.assignments = e.getBatchAssignments id

theorem Delivered.refl {ids : List UUID} (hnone : ∀ id ∈ ids, ¬Pending cfg svc.submittedBatchIds e id)
    {svc' : BatchDispatchService} (hsub : svc'.submittedBatchIds = svc.submittedBatchIds)
    (hacc : svc'.accepted = svc.accepted) : Delivered cfg e ids svc svc' :=
  ⟨by rw [hsub], by rw [hacc]; exact fun d hd => hd, fun id hid hp => absurd hp (hnone id hid),
    fun id hid => Or.inl (hsub ▸ hid)⟩

/-- a batch recorded at the first step, and the others by the rest of the call -/
theorem Delivered.cons {svc₁ svc' : BatchDispatchService} {id : UUID} {ids : List UUID} {d : DispatchBatch}
    (hsub : svc₁.submittedBatchIds = insert id svc.submittedBatchIds) (hacc : svc₁.accepted = svc.accepted ++ [d])
    (hexists : ∃ b, e.batches.get? id = some b) (hd : d.batchId = id)
    (hassign : d.assignments = e.getBatchAssignments id)
    (hrest : Delivered cfg e ids svc₁ svc') : Delivered cfg e (id :: ids) svc svc' := by
  have hin : id ∈ svc'.submittedBatchIds := hrest.submitted (hsub ▸ Finset.mem_insert_self _ _)
  refine ⟨fun x hx => hrest.submitted (hsub ▸ Finset.mem_insert_of_mem hx),
    fun x hx => hrest.accepted x (hacc ▸ List.mem_append_left _ hx), fun x hx hp => ?_, fun x hx => ?_⟩
  · by_cases hxid : x = id
    · exact hxid ▸ hin
    · have hx' := (List.mem_cons.1 hx).resolve_left hxid
      refine hrest.pending x hx' ⟨?_, hp.2⟩
      rw [hsub, Finset.mem_insert, not_or]
      exact ⟨hxid, hp.1⟩
  · rcases hrest.new x hx with hx' | hx'
    · rw [hsub, Finset.mem_insert] at hx'
      rcases hx' with rfl | hx'
      · exact Or.inr ⟨hexists, d, hrest.accepted d (hacc ▸ by simp), hd, hassign⟩
      · exact Or.inl hx'
    · exact Or.inr hx'

theorem Delivered.skip {svc' : BatchDispatchService} {before ids : List UUID}
    (hbefore : ∀ id ∈ before, ¬Pending cfg svc.submittedBatchIds e id) (h : Delivered cfg e ids svc svc') :
    Delivered cfg e (before ++ ids) svc svc' := by
  refine ⟨h.submitted, h.accepted, fun id hid hp => ?_, h.new⟩
  rcases List.mem_append.1 hid with hid | hid
  · exact absurd hp (hbefore id hid)
  · exact h.pending id hid hp

/-- **A call that is accepted throughout.** It returns, and has submitted every pending batch with the assignments of
all its ACTIVE members. -/
theorem acceptAll_delivers (h : Batching.Inv bcfg e) (hfinds : Finds cfg route) {ids : List UUID} {task : SubmitTask}
    (hv : Visited cfg e svc.submittedBatchIds ids task) {n : ℕ} (hn : ids.length ≤ n) :
    (acceptAll cfg route e n (svc.logSent task, task)).2.attempt = none ∧
      Delivered cfg e ids svc (acceptAll cfg route e n (svc.logSent task, task)).1 := by
  induction n generalizing svc ids task with
  | zero =>
    cases hv with
    | returned hnone hall => exact ⟨hnone, .refl hall rfl rfl⟩
    | stopped a ha before hsplit => simp [hsplit] at hn
  | succ n ih =>
    cases hv with
    | returned hnone hall =>
      simp only [acceptAll, hnone]
      exact ⟨trivial, .refl hall rfl rfl⟩
    | stopped a ha before hsplit hbefore hexists hbatch hassign =>
      simp only [acceptAll, ha, SubmitTask.resumeWith, Attempt.settle, if_true]
      set svc₁ := (svc.logSent task).settled a (.result true a.backendId "accepted") with hsvc₁
      have hlen : task.remaining.length ≤ n := by
        rw [hsplit, List.length_append, List.length_cons] at hn
        omega
      obtain ⟨hdone, hrest⟩ := @ih svc₁ _ _ (visited h hfinds svc₁.submittedBatchIds task.remaining _) hlen
      refine ⟨hdone, ?_⟩
      rw [hsplit]
      exact .skip hbefore (.cons rfl rfl hexists hbatch hassign hrest)

theorem submitPendingBatches_delivers (h : Batching.Inv bcfg e) (hfinds : Finds cfg route)
    (svc : BatchDispatchService) :
    (submitPendingBatches cfg route e svc).2.attempt = none ∧
      Delivered cfg e (e.listBatches.map Batch.batchId) svc (submitPendingBatches cfg route e svc).1 :=
  acceptAll_delivers h hfinds (visited h hfinds _ _ _) (by simp)

/-! ## Operations one after another -/

structure SequentialSystem where
  engine : ContinuousBatchEngine
  service : BatchDispatchService

def SequentialSystem.init : SequentialSystem := ⟨ContinuousBatchEngine.init, BatchDispatchService.init⟩

inductive SequentialOp
  | engine (o : EngineOp)
  /-- a whole `submit_pending_batches` call; `backend` is what routing answers during it -/
  | submitPending (backend : Option UUID → String → Finset String → String)

/-- routing that always finds a backend -/
def found (backend : Option UUID → String → Finset String → String) : Route := fun r m x => .ok (backend r m x)

theorem found_finds (backend : Option UUID → String → Finset String → String) : Finds cfg (found backend) :=
  fun _ _ _ _ => ⟨_, rfl⟩

def SequentialSystem.step (bcfg : BatchAdmissionConfig) (cfg : DispatchConfig) (s : SequentialSystem) :
    SequentialOp → SequentialSystem
  | .engine o => { s with engine := s.engine.step bcfg o }
  | .submitPending backend => { s with service := (submitPendingBatches cfg (found backend) s.engine s.service).1 }

/-- an accepted dispatch of the batch contains the request -/
def BatchDispatchService.Covers (svc : BatchDispatchService) (id rid : UUID) : Prop :=
  ∃ d ∈ svc.accepted, d.batchId = id ∧ ∃ a ∈ d.assignments, a.requestId = rid

instance (svc : BatchDispatchService) (id rid : UUID) : Decidable (svc.Covers id rid) :=
  inferInstanceAs (Decidable (∃ d ∈ svc.accepted, _ ∧ ∃ a ∈ d.assignments, _))

/-- every ACTIVE member of an open batch has been dispatched and accepted -/
def SequentialSystem.AllDelivered (s : SequentialSystem) : Prop :=
  ∀ id b, s.engine.batches.get? id = some b → b.isOpen → ∀ m ∈ b.activeMembers, s.service.Covers id m.requestId

/-- a placement does not put its request into a batch that has been submitted -/
def JoinsUnsubmitted (bcfg : BatchAdmissionConfig) (s : SequentialSystem) : SequentialOp → Prop
  | .engine (.placeSelected inj now item) =>
    ∀ b ∈ s.engine.findAdmittableBatch bcfg item.inferenceRequest.model now,
      Admits bcfg inj now item s.engine (some b) → b.batchId ∉ s.service.submittedBatchIds
  | _ => True

instance (bcfg : BatchAdmissionConfig) (s : SequentialSystem) :
    (o : SequentialOp) → Decidable (JoinsUnsubmitted bcfg s o)
  | .engine (.placeSelected _ now item) =>
    inferInstanceAs (Decidable (∀ b ∈ s.engine.findAdmittableBatch bcfg item.inferenceRequest.model now, _ → _))
  | .engine (.completeRequest ..) | .engine (.failRequest ..) | .engine (.cancelRequest ..) | .submitPending _ =>
    isTrue trivial

/-! ## Invariant -/

structure DeliveryInv (bcfg : BatchAdmissionConfig) (s : SequentialSystem) : Prop where
  engine : Batching.Inv bcfg s.engine
  exist : ∀ id ∈ s.service.submittedBatchIds, ∃ b, s.engine.batches.get? id = some b
  covered : ∀ id ∈ s.service.submittedBatchIds, ∀ b, s.engine.batches.get? id = some b →
    ∀ m ∈ b.activeMembers, s.service.Covers id m.requestId

theorem delivery_init (bcfg : EngineConfig) : DeliveryInv bcfg SequentialSystem.init :=
  ⟨Batching.inv_init bcfg, by simp [SequentialSystem.init, BatchDispatchService.init],
    by simp [SequentialSystem.init, BatchDispatchService.init]⟩

/-- what an engine step can make of the batch stored under `id` -/
inductive BatchStep (bcfg : BatchAdmissionConfig) (e : ContinuousBatchEngine) (o : EngineOp) (id : UUID) :
    Option Batch → Option Batch → Prop
  | same (x : Option Batch) : BatchStep bcfg e o id x x
  | retired (b b' : Batch) (hsub : b'.activeMembers ⊆ b.activeMembers) : BatchStep bcfg e o id (some b) (some b')
  | joined (inj : FailureInjectionConfig) (now : Time) (item : QueueItem) (b b' : Batch)
    (ho : o = .placeSelected inj now item) (ha : Admits bcfg inj now item e (some b)) (hid : b.batchId = id) :
    BatchStep bcfg e o id (some b) (some b')
  | created (b' : Batch) : BatchStep bcfg e o id none (some b')

theorem batchStep_retireRequest (h : Batching.Inv bcfg e) {o : EngineOp} {rid : UUID} {status : Batching.MemberStatus}
    (hst : status ≠ .active) (reason : String) (now : Time)
    (ho : e.step bcfg o = (Batching.retireRequest rid status reason now).final e) (id : UUID) :
    BatchStep bcfg e o id (e.batches.get? id) ((e.step bcfg o).batches.get? id) := by
  rw [ho]
  rcases Batching.retireRequest_cases h rid status reason now with ⟨-, r, hrun⟩ | ⟨id', b, s, m, r, events, hh, hrun⟩
  · rw [Batching.EngineM.final_ok hrun]
    exact .same _
  · rw [Batching.EngineM.final_ok hrun]
    simp only [ContinuousBatchEngine.retired, Dict.get?_set]
    split_ifs with hid
    · rw [hid, hh.batch]
      refine .retired _ _ fun x hx => ?_
      rw [Batch.afterRetirement_activeMembers,
        Batching.mem_activeMembers_withStatus (h.setOf hh.batch hh.set) rid m x hst] at hx
      exact hx.1
    · exact .same _

theorem batchStep (h : Batching.Inv bcfg e) (o : EngineOp) (id : UUID) :
    BatchStep bcfg e o id (e.batches.get? id) ((e.step bcfg o).batches.get? id) := by
  cases o with
  | placeSelected inj now item =>
    simp only [ContinuousBatchEngine.step]
    rcases Batching.placeSelected_cases h inj now item with ⟨d, events, hrun, -⟩ | ⟨err, events, hrun, -⟩ |
      ⟨batch, e₀, id', b, s, reason, events, ⟨ha, -⟩, ht, hj, hrun⟩
    · rw [Batching.EngineM.final_ok hrun]
      exact .same _
    · rw [Batching.EngineM.final_error hrun]
      exact .same _
    · rw [Batching.EngineM.final_ok hrun]
      simp only [ContinuousBatchEngine.joined, Dict.get?_set]
      cases ht with
      | existing =>
        split_ifs with hid
        · rw [hid, hj.batch]
          exact .joined inj now item b _ rfl ha (h.setOf hj.batch hj.set).id
        · exact .same _
      | fresh hfree =>
        simp only [ContinuousBatchEngine.opened, Dict.get?_set]
        split_ifs with hid
        · rw [hid, h.unused.1]
          exact .created _
        · exact .same _
  | completeRequest now rid => exact batchStep_retireRequest h (by decide) _ now rfl id
  | failRequest now rid reason => exact batchStep_retireRequest h (by decide) reason now rfl id
  | cancelRequest now rid => exact batchStep_retireRequest h (by decide) _ now rfl id

/-- the engine forgets no batch -/
theorem exists_batch_engine_step (h : Batching.Inv bcfg e) (o : EngineOp) {id : UUID}
    (hb : ∃ b, e.batches.get? id = some b) : ∃ b', (e.step bcfg o).batches.get? id = some b' := by
  obtain ⟨b, hb⟩ := hb
  have hs := batchStep h o id
  rw [hb] at hs
  generalize (e.step bcfg o).batches.get? id = x at hs
  cases hs <;> exact ⟨_, rfl⟩

/-- an ACTIVE member of a submitted batch after an engine step was one before -/
theorem DeliveryInv.activeMember_step {s : SequentialSystem} (h : DeliveryInv bcfg s) {o : EngineOp}
    (hc : JoinsUnsubmitted bcfg s (.engine o)) {id : UUID} (hid : id ∈ s.service.submittedBatchIds) {b' : Batch}
    (hb' : (s.engine.step bcfg o).batches.get? id = some b') {m : BatchMember} (hm : m ∈ b'.activeMembers) :
    ∃ b, s.engine.batches.get? id = some b ∧ m ∈ b.activeMembers := by
  obtain ⟨b, hb⟩ := h.exist id hid
  have hs := batchStep h.engine o id
  rw [hb, hb'] at hs
  refine ⟨b, hb, ?_⟩
  cases hs with
  | same => exact hm
  | retired _ _ hsub => exact hsub hm
  | joined inj now item _ _ ho ha hbid =>
    subst ho
    exact absurd hid (hbid ▸ hc b ha.found ha)

theorem delivery_step {s : SequentialSystem} (o : SequentialOp) (h : DeliveryInv bcfg s)
    (hc : JoinsUnsubmitted bcfg s o) : DeliveryInv bcfg (s.step bcfg cfg o) := by
  cases o with
  | engine o =>
    refine ⟨Batching.step_inv h.engine o, fun id hid => exists_batch_engine_step h.engine o (h.exist id hid), ?_⟩
    intro id hid b' hb' m hm
    obtain ⟨b, hb, hmb⟩ := h.activeMember_step hc hid hb' hm
    exact h.covered id hid b hb m hmb
  | submitPending backend =>
    obtain ⟨-, hd⟩ := submitPendingBatches_delivers h.engine (found_finds backend) s.service
    refine ⟨h.engine, fun id hid => ?_, fun id hid b hb m hm => ?_⟩
    · rcases hd.new id hid with hold | ⟨hexists, -⟩
      · exact h.exist id hold
      · exact hexists
    · rcases hd.new id hid with hold | ⟨-, d, hacc, hdid, hassign⟩
      · obtain ⟨d, hacc, hdid, ha⟩ := h.covered id hold b hb m hm
        exact ⟨d, hd.accepted d hacc, hdid, ha⟩
      · refine ⟨d, hacc, hdid, ?_⟩
        have hmem : m.requestId ∈ (s.engine.getBatchAssignments id).map BatchAssignment.requestId := by
          rw [h.engine.map_getBatchAssignments hb]
          exact List.mem_map_of_mem hm
        obtain ⟨a, ha, har⟩ := List.mem_map.1 hmem
        exact ⟨a, hassign ▸ ha, har⟩

theorem delivery_run {ops : List SequentialOp}
    (hc : Meets (SequentialSystem.step bcfg cfg) (JoinsUnsubmitted bcfg) SequentialSystem.init ops) :
    DeliveryInv bcfg (run (SequentialSystem.step bcfg cfg) SequentialSystem.init ops) :=
  Meets.run_inv (I := DeliveryInv bcfg) (fun _ o => delivery_step o) (delivery_init bcfg) hc

/-- a call leaves no batch with ACTIVE members unsubmitted -/
theorem submitPending_allDelivered {s : SequentialSystem} (hmin : cfg.minDispatchMembers = none)
    (h : DeliveryInv bcfg s) (backend : Option UUID → String → Finset String → String) :
    (s.step bcfg cfg (.submitPending backend)).AllDelivered := by
  obtain ⟨-, hd⟩ := submitPendingBatches_delivers h.engine (found_finds backend) s.service
  have h' : DeliveryInv bcfg (s.step bcfg cfg (.submitPending backend)) := delivery_step _ h trivial
  intro id b hb hopen m hm
  refine h'.covered id ?_ b hb m hm
  have hbs : s.engine.batches.get? id = some b := hb
  by_cases hsub : id ∈ s.service.submittedBatchIds
  · exact hd.submitted hsub
  · obtain ⟨_, -, hbi⟩ := h.engine.batch hbs
    refine hd.pending id ?_ ((pending_iff hmin).2 ⟨hsub, b, hbs, hopen, ?_⟩)
    · exact List.mem_map.2 ⟨b, Dict.mem_values.2 ⟨id, hbs⟩, hbi.id⟩
    · rw [← b.length_activeMembers]
      exact (List.length_pos_of_mem hm).ne'

/-- **Delivery of placed requests.** In a run in which no placement joins a submitted batch, a final
`submit_pending_batches` call leaves every ACTIVE member of an open batch in an accepted dispatch of its batch. -/
theorem members_delivered (bcfg : EngineConfig) (cfg : DispatchConfig) (hmin : cfg.minDispatchMembers = none)
    (ops : List SequentialOp)
    (hc : Meets (SequentialSystem.step bcfg cfg) (JoinsUnsubmitted bcfg) SequentialSystem.init ops)
    (backend : Option UUID → String → Finset String → String) :
    (run (SequentialSystem.step bcfg cfg) SequentialSystem.init (ops ++ [.submitPending backend])).AllDelivered := by
  rw [Core.run_append]
  exact submitPending_allDelivered hmin (delivery_run hc) backend

def anyBackend : Option UUID → String → Finset String → String := fun _ _ _ => "mock"

/-- request 2 joins the open batch of request 1 after it has been dispatched -/
def lateMember : List SequentialOp :=
  [.engine (.placeSelected {} 0 (Batching.plainItem 1 "m")), .submitPending anyBackend,
    .engine (.placeSelected {} 0 (Batching.plainItem 2 "m"))]

/-- **A late member is never sent.** The batch is on record as submitted, so the final call passes it by. -/
theorem late_member_never_sent :
    ¬(run (SequentialSystem.step Batching.smallConfig plainDispatch) SequentialSystem.init
      (lateMember ++ [.submitPending anyBackend])).AllDelivered := by
  intro h
  have hsent := h 0 _ rfl (by decide) ⟨2, 1, "m", "t", 0, .active⟩ (by decide)
  exact absurd hsent (by decide)

/-- request 2 joins the batch of request 1 before it is dispatched, request 3 a batch of its own after it -/
theorem members_delivered_two_batches :
    (run (SequentialSystem.step Batching.smallConfig plainDispatch) SequentialSystem.init
      ([.engine (.placeSelected {} 0 (Batching.plainItem 1 "m")),
        .engine (.placeSelected {} 0 (Batching.plainItem 2 "m")),
        .submitPending anyBackend, .engine (.placeSelected {} 0 (Batching.plainItem 3 "n"))] ++
        [.submitPending anyBackend])).AllDelivered :=
  members_delivered Batching.smallConfig plainDispatch rfl _ (by decide) anyBackend

end InferencePlatform.Dispatch
