/-
The dispatch payload of a batch, beside the batch.

The payload is put together from three places: the batch record says which members are ACTIVE, the engine's table of
stored assignments says what was placed for them, and the record's context gives the model. They are written at
different times, and slots are freed and taken again in between. `payload_faithful`: in every state the engine can reach
they agree.
-/
import InferencePlatform.Batching.Invariant
import InferencePlatform.Dispatch.Submitter

namespace InferencePlatform.Dispatch

open InferencePlatform.Core (run)
open Batching (ContinuousBatchEngine Batch BatchMember EngineOp EngineConfig BatchAdmissionConfig AssignedTo)

variable {cfg : EngineConfig} {config : DispatchConfig} {route : Route} {e : ContinuousBatchEngine}
  {id : UUID} {b : Batch}

/-- the assignments say what the batch says -/
structure Faithful (cfg : BatchAdmissionConfig) (b : Batch) (assignments : List BatchAssignment) : Prop where
  /-- one assignment for each ACTIVE member, in the members' order -/
  members : assignments.map (fun a => (a.requestId, a.slotIndex)) = b.activeMembers.map fun m =>
    (m.requestId, m.slotIndex)
  /-- and no second one -/
  once : (assignments.map BatchAssignment.requestId).Nodup
  /-- a retired member has none -/
  active : ∀ m ∈ b.members, m.requestId ∈ assignments.map BatchAssignment.requestId ↔ m.status = .active
  slots : (assignments.map BatchAssignment.slotIndex).Nodup
  size : assignments.length ≤ cfg.maxBatchSize
  model : ∀ a ∈ assignments, a.inferenceRequest.model = b.context.model

/-- a member's request is one of the ACTIVE members' only when the member is ACTIVE itself -/
theorem mem_requestIds_iff (h : Batching.Inv cfg e) (hb : e.getBatch id = some b) {m : BatchMember}
    (hm : m ∈ b.members) :
    m.requestId ∈ b.activeMembers.map BatchMember.requestId ↔ m.status = .active := by
  obtain ⟨s, hs, hbi⟩ := h.batch hb
  have hget := hbi.mem_members.1 hm
  constructor
  · intro hin
    obtain ⟨m', hm', hid⟩ := List.mem_map.1 hin
    obtain ⟨hget', hactive⟩ := hbi.mem_activeMembers.1 hm'
    rw [hid, hget] at hget'
    cases hget'
    exact hactive
  · intro hactive
    exact List.mem_map_of_mem (hbi.mem_activeMembers.2 ⟨hget, hactive⟩)

theorem faithful_getBatchAssignments (h : Batching.Inv cfg e) (hb : e.getBatch id = some b) :
    Faithful cfg b (e.getBatchAssignments id) := by
  obtain ⟨s, hs, hbi⟩ := h.batch hb
  have hpar := h.assignedTo_getBatchAssignments hb
  have hids := h.map_getBatchAssignments hb
  refine ⟨?_, h.nodup_getBatchAssignments id, fun m hm => ?_, ?_, ?_, fun a ha => ?_⟩
  · exact Batching.map_eq_of_assignedTo (fun m a hma => by rw [hma.requestId, hma.slotIndex]) hpar
  · rw [hids]
    exact mem_requestIds_iff h hb hm
  · rw [Batching.map_eq_of_assignedTo (fun _ _ hma => hma.slotIndex) hpar]
    exact hbi.slots
  · rw [← hpar.length_eq, b.length_activeMembers]
    exact hbi.cap
  · have hmodels : (e.getBatchAssignments id).map (fun a => a.inferenceRequest.model) =
        b.activeMembers.map BatchMember.model := Batching.map_eq_of_assignedTo (fun _ _ hma => hma.model) hpar
    have hmodel : a.inferenceRequest.model ∈ b.activeMembers.map BatchMember.model := by
      rw [← hmodels]
      exact List.mem_map_of_mem ha
    obtain ⟨m, hm, hma⟩ := List.mem_map.1 hmodel
    rw [← hma]
    exact (hbi.keyed _ m (hbi.mem_activeMembers.1 hm).1).2

/-- an open batch with assignments is built into a dispatch unit -/
theorem buildDispatchBatch_isSome {assignments : List BatchAssignment} (hopen : b.isOpen) (hne : assignments ≠ [])
    (backendId : String) :
    ∃ dispatch, buildDispatchBatch b assignments backendId = some dispatch ∧ dispatch.batchId = b.batchId ∧
      dispatch.model = b.context.model ∧ dispatch.assignments = assignments := by
  have hne' : ¬assignments.isEmpty := fun hempty => hne (List.isEmpty_iff.1 hempty)
  exact ⟨_, by rw [buildDispatchBatch, if_neg (not_not.2 hopen), if_neg hne'], rfl, rfl, rfl⟩

/-- **The payload is faithful to the engine.** After every run of the engine, with any queue items, clock readings and
failure injection, for every open batch with an ACTIVE member and every backend. -/
theorem payload_faithful (cfg : EngineConfig) (ops : List EngineOp) {id : UUID} {b : Batch}
    (hb : (run (ContinuousBatchEngine.step cfg) ContinuousBatchEngine.init ops).getBatch id = some b) (hopen : b.isOpen)
    (hactive : b.activeMemberCount ≠ 0) (backendId : String) :
    let assignments := (run (ContinuousBatchEngine.step cfg) ContinuousBatchEngine.init ops).getBatchAssignments id
    Faithful cfg b assignments ∧ ∃ dispatch, buildDispatchBatch b assignments backendId = some dispatch ∧
      dispatch.batchId = id ∧ dispatch.model = b.context.model ∧ dispatch.assignments = assignments := by
  have h := Batching.run_inv cfg ops
  set e := run (ContinuousBatchEngine.step cfg) ContinuousBatchEngine.init ops
  intro assignments
  have hne : assignments ≠ [] := by
    intro hnil
    have hlen := (h.assignedTo_getBatchAssignments hb).length_eq
    rw [b.length_activeMembers, show e.getBatchAssignments id = [] from hnil] at hlen
    exact hactive hlen
  obtain ⟨s, hs, hbi⟩ := h.batch hb
  obtain ⟨dispatch, hbuild, hid, hmodel, hassignments⟩ := buildDispatchBatch_isSome hopen hne backendId
  exact ⟨faithful_getBatchAssignments h hb, dispatch, hbuild, hid.trans hbi.id, hmodel, hassignments⟩

/-- the first of two requests retires and a third takes its slot -/
def reusedSlotOps : List EngineOp :=
  [.placeSelected {} 0 (Batching.plainItem 1 "m"), .placeSelected {} 0 (Batching.plainItem 2 "m"), .cancelRequest 0 1,
   .placeSelected {} 0 (Batching.plainItem 3 "m")]

theorem payload_faithful_reused :
    ∃ b, (run (ContinuousBatchEngine.step Batching.smallConfig) ContinuousBatchEngine.init reusedSlotOps).getBatch 0 =
        some b ∧ b.isOpen ∧ b.activeMemberCount = 2 ∧
      Faithful Batching.smallConfig b
        ((run (ContinuousBatchEngine.step Batching.smallConfig) ContinuousBatchEngine.init
          reusedSlotOps).getBatchAssignments 0) := by
  obtain ⟨b, hb, hopen, hcount⟩ : ∃ b, (run (ContinuousBatchEngine.step Batching.smallConfig) ContinuousBatchEngine.init
      reusedSlotOps).getBatch 0 = some b ∧ b.isOpen ∧ b.activeMemberCount = 2 :=
    ⟨_, rfl, by decide, by decide⟩
  exact ⟨b, hb, hopen, hcount, (payload_faithful Batching.smallConfig reusedSlotOps hb hopen (by omega) "mock").1⟩

/-! ## What is sent -/

theorem iterate_assignments {sub : Submission} {a : Attempt} (ha : iterate config route e sub = .waiting a) :
    a.dispatch.assignments = sub.assignments := by
  unfold iterate at ha
  cases hb : e.getBatch sub.batchId with
  | none => simp [hb] at ha
  | some b =>
    simp only [hb] at ha
    split at ha
    · cases ha
    · split at ha
      · cases ha
      · rename_i backendId dispatch hd
        cases ha
        unfold buildDispatchBatch at hd
        split_ifs at hd
        cases hd
        rfl

/-- a failover sends the assignments of the attempt it follows -/
theorem settle_assignments {a a' : Attempt} {outcome : AdapterOutcome}
    (ha : a.settle config route e outcome = .waiting a') : a'.dispatch.assignments = a.sub.assignments := by
  cases outcome with
  | raised message =>
    simp only [Attempt.settle] at ha
    split_ifs at ha
    split at ha
    · have hsent := iterate_assignments ha
      exact hsent
    · cases ha
  | result accepted backendId reason =>
    simp only [Attempt.settle] at ha
    split_ifs at ha
    have hsent := iterate_assignments ha
    exact hsent

/-- what the loop over the batches sends comes from the engine -/
theorem visit_assignments {submitted : Finset UUID} {ids : List UUID} {results : List BatchDispatchResult} {a : Attempt}
    (ha : (visit config route e submitted ids results).attempt = some a) :
    ∃ id, a.dispatch.assignments = e.getBatchAssignments id := by
  induction ids generalizing results with
  | nil => cases ha
  | cons id ids ih =>
    simp only [visit] at ha
    split_ifs at ha with hpending
    · cases hit : iterate config route e { batchId := id, assignments := e.getBatchAssignments id } with
      | waiting a' =>
        simp only [hit, Option.some.injEq] at ha
        subst ha
        exact ⟨id, iterate_assignments hit⟩
      | returned res =>
        simp only [hit] at ha
        exact ih ha
    · exact ih ha

end InferencePlatform.Dispatch
