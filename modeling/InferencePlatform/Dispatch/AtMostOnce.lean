/-
At-most-once acceptance of a batch, over every interleaving of dispatch calls.

`submit_pending_batches` checks that a batch has not been submitted before it awaits the adapter and records it after,
so two calls can have the same batch with the adapter at once; `submit_batch_by_id` does not check at all. Either way a
backend may accept the same assignments twice (`accepted_twice`).

`accepted_at_most_once`: it never does in a run in which no call hands a batch to the adapter that another call is
waiting for, or that is recorded as submitted. The invariant (`Inv`): what is in flight is pairwise distinct and not yet
recorded, and what has been accepted is pairwise distinct and recorded.
-/
import InferencePlatform.Batching.Invariant
import InferencePlatform.Dispatch.Submitter

namespace InferencePlatform.Dispatch

open InferencePlatform.Core (Dict Meets run)
open Batching (ContinuousBatchEngine Batch EngineOp EngineConfig BatchAdmissionConfig)

variable {bcfg : EngineConfig} {cfg : DispatchConfig} {route : Route} {e : ContinuousBatchEngine} {s : DispatchSystem}

/-! ## Attempts -/

/-- the dispatch unit is that of the submission, one assignment a request -/
structure Attempt.WellFormed (a : Attempt) : Prop where
  batch : a.dispatch.batchId = a.sub.batchId
  assignments : a.dispatch.assignments = a.sub.assignments
  nodup : (a.sub.assignments.map BatchAssignment.requestId).Nodup

theorem iterate_waiting (h : Batching.Inv bcfg e) {sub : Submission}
    (hsub : (sub.assignments.map BatchAssignment.requestId).Nodup) {a : Attempt}
    (ha : iterate cfg route e sub = .waiting a) : a.sub = sub ∧ a.WellFormed := by
  unfold iterate at ha
  cases hb : e.getBatch sub.batchId with
  | none => simp [hb] at ha
  | some b =>
    obtain ⟨_, -, hbi⟩ := h.batch hb
    simp only [hb] at ha
    split at ha
    · cases ha
    · split at ha
      · cases ha
      · rename_i backendId dispatch hd
        cases ha
        simp only [buildDispatchBatch] at hd
        split_ifs at hd
        cases hd
        exact ⟨rfl, hbi.id, rfl, hsub⟩

theorem settle_waiting (h : Batching.Inv bcfg e) {a a' : Attempt} (hwf : a.WellFormed) {outcome : AdapterOutcome}
    (ha : a.settle cfg route e outcome = .waiting a') :
    outcome.accepted = false ∧ a'.sub.batchId = a.sub.batchId ∧ a'.WellFormed := by
  cases outcome with
  | raised message =>
    simp only [Attempt.settle] at ha
    split_ifs at ha
    split at ha
    · obtain ⟨hsub, hwf'⟩ := iterate_waiting h (by exact hwf.nodup) ha
      exact ⟨rfl, by rw [hsub], hwf'⟩
    · cases ha
  | result accepted backendId reason =>
    simp only [Attempt.settle] at ha
    split_ifs at ha with hacc
    obtain ⟨hsub, hwf'⟩ := iterate_waiting h (by exact hwf.nodup) ha
    exact ⟨by simpa [AdapterOutcome.accepted] using hacc, by rw [hsub], hwf'⟩

/-- a visit ends at the adapter with a batch it has checked -/
theorem visit_attempt (h : Batching.Inv bcfg e) {submitted : Finset UUID} {ids : List UUID}
    {results : List BatchDispatchResult} {a : Attempt}
    (ha : (visit cfg route e submitted ids results).attempt = some a) :
    a.sub.batchId ∈ ids ∧ Pending cfg submitted e a.sub.batchId ∧ a.WellFormed := by
  induction ids generalizing results with
  | nil => simp [visit] at ha
  | cons id ids ih =>
    simp only [visit] at ha
    split_ifs at ha with hp
    · cases hit : iterate cfg route e { batchId := id, assignments := e.getBatchAssignments id } with
      | waiting a' =>
        simp only [hit, Option.some.injEq] at ha
        subst ha
        obtain ⟨hsub, hwf⟩ := iterate_waiting h (h.nodup_getBatchAssignments id) hit
        rw [hsub]
        exact ⟨List.mem_cons_self, hp, hwf⟩
      | returned r =>
        simp only [hit] at ha
        obtain ⟨hmem, hrest⟩ := ih ha
        exact ⟨List.mem_cons_of_mem _ hmem, hrest⟩
    · obtain ⟨hmem, hrest⟩ := ih ha
      exact ⟨List.mem_cons_of_mem _ hmem, hrest⟩

/-! ## The state around an adapter call -/

/-- the batches whose submission waits for the adapter, one entry a call -/
def inFlight (tasks : List SubmitTask) : List UUID :=
  tasks.filterMap fun t => t.attempt.map fun a => a.sub.batchId

/-- the state when the step's call has taken its answer and has not called the adapter again -/
def DispatchSystem.answered (s : DispatchSystem) : DispatchOp → DispatchSystem
  | .resume _ i outcome =>
    match s.attemptOf i with
    | none => s
    | some (task, a) => { s with
        service := s.service.settled a outcome, tasks := s.tasks.set i { task with attempt := none } }
  | _ => s

/-- the batch the step hands to the adapter, if it does -/
def DispatchSystem.handsOver (cfg : DispatchConfig) (s : DispatchSystem) : DispatchOp → Option UUID
  | .engine _ => none
  | .submitPending route => (submitPending cfg route s.engine s.service).2.attempt.map fun a => a.sub.batchId
  | .submitById route id => (submitById cfg route s.engine s.service id).2.attempt.map fun a => a.sub.batchId
  | .resume route i outcome =>
    (s.attemptOf i).bind fun (task, a) =>
      (task.resumeWith cfg route s.engine s.service a outcome).2.attempt.map fun a => a.sub.batchId

/-- a batch is handed to the adapter only while no call waits for it and it is not recorded as submitted -/
def SoleSubmission (cfg : DispatchConfig) (s : DispatchSystem) (o : DispatchOp) : Prop :=
  ∀ id ∈ s.handsOver cfg o,
    id ∉ inFlight (s.answered o).tasks ∧ id ∉ (s.answered o).service.submittedBatchIds

instance (cfg : DispatchConfig) (s : DispatchSystem) (o : DispatchOp) : Decidable (SoleSubmission cfg s o) :=
  inferInstanceAs (Decidable (∀ id ∈ s.handsOver cfg o, _ ∧ _))

/-- every assignment a backend has accepted, with the batch it came in -/
def DispatchSystem.acceptedAssignments (s : DispatchSystem) : List (UUID × UUID) :=
  s.service.accepted.flatMap fun d => d.assignments.map fun a => (d.batchId, a.requestId)

/-! ## Invariant -/

structure Inv (bcfg : BatchAdmissionConfig) (s : DispatchSystem) : Prop where
  engine : Batching.Inv bcfg s.engine
  attempts : ∀ t ∈ s.tasks, ∀ a, t.attempt = some a → a.WellFormed
  flying : (inFlight s.tasks).Nodup
  unrecorded : ∀ id ∈ inFlight s.tasks, id ∉ s.service.submittedBatchIds
  recorded : ∀ d ∈ s.service.accepted, d.batchId ∈ s.service.submittedBatchIds
  once : (s.service.accepted.map DispatchBatch.batchId).Nodup
  distinct : ∀ d ∈ s.service.accepted, (d.assignments.map BatchAssignment.requestId).Nodup

theorem inv_init (bcfg : EngineConfig) : Inv bcfg DispatchSystem.init :=
  ⟨Batching.inv_init bcfg, by simp [DispatchSystem.init], by simp [DispatchSystem.init, inFlight],
    by simp [DispatchSystem.init, inFlight], by simp [DispatchSystem.init, BatchDispatchService.init],
    by simp [DispatchSystem.init, BatchDispatchService.init], by simp [DispatchSystem.init, BatchDispatchService.init]⟩

theorem attemptOf_eq_some {i : ℕ} {task : SubmitTask} {a : Attempt} :
    s.attemptOf i = some (task, a) ↔ s.tasks[i]? = some task ∧ task.attempt = some a := by
  simp only [DispatchSystem.attemptOf, Option.bind_eq_bind, Option.bind_eq_some_iff]
  constructor
  · rintro ⟨task', ht, a', ha, hp⟩
    simp only [pure, Option.some.injEq, Prod.mk.injEq] at hp
    obtain ⟨rfl, rfl⟩ := hp
    exact ⟨ht, ha⟩
  · rintro ⟨ht, ha⟩
    exact ⟨task, ht, a, ha, rfl⟩

/-- one task of the list is replaced: the others keep their places on either side -/
theorem tasks_split {tasks : List SubmitTask} {i : ℕ} {task : SubmitTask} (h : tasks[i]? = some task) :
    ∃ l₁ l₂, tasks = l₁ ++ task :: l₂ ∧ ∀ t, tasks.set i t = l₁ ++ t :: l₂ := by
  obtain ⟨hi, rfl⟩ := List.getElem?_eq_some_iff.1 h
  exact ⟨tasks.take i, tasks.drop (i + 1), by simp, fun t => List.set_eq_take_append_cons_drop.trans (by simp [hi])⟩

theorem inv_answered (h : Inv bcfg s) (o : DispatchOp) : Inv bcfg (s.answered o) := by
  cases o with
  | resume route i outcome =>
    simp only [DispatchSystem.answered]
    cases hat : s.attemptOf i with
    | none => exact h
    | some p =>
      obtain ⟨task, a⟩ := p
      obtain ⟨ht, ha⟩ := attemptOf_eq_some.1 hat
      obtain ⟨l₁, l₂, htasks, hset⟩ := tasks_split ht
      have hwf := h.attempts task (by rw [htasks]; simp) a ha
      have hfly : inFlight s.tasks = inFlight l₁ ++ a.sub.batchId :: inFlight l₂ := by
        simp [inFlight, htasks, ha]
      have hfly' : inFlight (s.tasks.set i { task with attempt := none }) = inFlight l₁ ++ inFlight l₂ := by
        simp [inFlight, hset]
      have hnd := h.flying
      rw [hfly, List.nodup_middle, List.nodup_cons] at hnd
      have hmine := h.unrecorded a.sub.batchId (by simp [hfly])
      have hothers : ∀ id ∈ inFlight l₁ ++ inFlight l₂, id ∉ s.service.submittedBatchIds := fun id hid =>
        h.unrecorded id (by rw [hfly]; simp at hid ⊢; tauto)
      have hatt : ∀ t ∈ s.tasks.set i { task with attempt := none }, ∀ a, t.attempt = some a → a.WellFormed := by
        intro t ht' a' ha'
        rw [hset] at ht'
        refine h.attempts t ?_ a' ha'
        rw [htasks]
        simp only [List.mem_append, List.mem_cons] at ht' ⊢
        rcases ht' with ht' | rfl | ht'
        · exact Or.inl ht'
        · simp at ha'
        · exact Or.inr (Or.inr ht')
      by_cases hacc : outcome.accepted = true
      · simp only [BatchDispatchService.settled, if_pos hacc]
        refine ⟨h.engine, hatt, hfly' ▸ hnd.2, fun id hid => ?_, fun d hd => ?_, ?_, fun d hd => ?_⟩
        · simp only [hfly'] at hid
          simp only [Finset.mem_insert, not_or]
          exact ⟨fun hc => hnd.1 (hc ▸ hid), hothers id hid⟩
        · rcases List.mem_append.1 hd with hd | hd
          · exact Finset.mem_insert_of_mem (h.recorded d hd)
          · rw [List.mem_singleton.1 hd, hwf.batch]
            exact Finset.mem_insert_self _ _
        · rw [List.map_append]
          refine h.once.append (by simp) (List.disjoint_singleton.2 ?_)
          -- an accepted batch is recorded, and this one was not
          rw [hwf.batch, List.mem_map]
          rintro ⟨d, hd, hid⟩
          exact hmine (hid ▸ h.recorded d hd)
        · rcases List.mem_append.1 hd with hd | hd
          · exact h.distinct d hd
          · rw [List.mem_singleton.1 hd, hwf.assignments]
            exact hwf.nodup
      · simp only [BatchDispatchService.settled, if_neg hacc]
        exact ⟨h.engine, hatt, hfly' ▸ hnd.2, fun id hid => hothers id (hfly' ▸ hid), h.recorded, h.once, h.distinct⟩
  | _ => exact h

/-- a call that hands over a batch nobody waits for keeps the invariant -/
theorem Inv.handOver (h : Inv bcfg s) {s' : DispatchSystem} (task : SubmitTask) (hengine : s'.engine = s.engine)
    (hsub : s'.service.submittedBatchIds = s.service.submittedBatchIds)
    (hacc : s'.service.accepted = s.service.accepted)
    (hperm : (inFlight s'.tasks).Perm (inFlight [task] ++ inFlight s.tasks))
    (htasks : ∀ t ∈ s'.tasks, t ∈ s.tasks ∨ t = task)
    (hwf : ∀ a, task.attempt = some a → a.WellFormed)
    (hsole : ∀ id ∈ task.attempt.map fun a => a.sub.batchId,
      id ∉ inFlight s.tasks ∧ id ∉ s.service.submittedBatchIds) : Inv bcfg s' := by
  have hmem : ∀ id, id ∈ inFlight s'.tasks ↔ (id ∈ task.attempt.map fun a => a.sub.batchId) ∨
      id ∈ inFlight s.tasks := by
    intro id
    rw [hperm.mem_iff, List.mem_append]
    simp [inFlight]
  refine ⟨hengine ▸ h.engine, fun t ht a ha => ?_, ?_, fun id hid => ?_, ?_, ?_, ?_⟩
  · rcases htasks t ht with ht | rfl
    · exact h.attempts t ht a ha
    · exact hwf a ha
  · rw [hperm.nodup_iff]
    cases hat : task.attempt with
    | none => simpa [inFlight, hat] using h.flying
    | some a =>
      have := (hsole a.sub.batchId (by simp [hat])).1
      simp only [inFlight, List.filterMap_cons, hat, Option.map_some, List.filterMap_nil, List.singleton_append,
        List.nodup_cons]
      exact ⟨this, h.flying⟩
  · rw [hsub]
    rcases (hmem id).1 hid with hid | hid
    · exact (hsole id hid).2
    · exact h.unrecorded id hid
  · rw [hsub, hacc]
    exact h.recorded
  · rw [hacc]
    exact h.once
  · rw [hacc]
    exact h.distinct

theorem submitPending_wellFormed (h : Batching.Inv bcfg e) {svc : BatchDispatchService} {a : Attempt}
    (ha : (submitPending cfg route e svc).2.attempt = some a) : a.WellFormed :=
  (visit_attempt h ha).2.2

theorem submitById_wellFormed (h : Batching.Inv bcfg e) {svc : BatchDispatchService} {id : UUID} {a : Attempt}
    (ha : (submitById cfg route e svc id).2.attempt = some a) : a.WellFormed := by
  simp only [submitById] at ha
  cases hb : e.getBatch id with
  | none => simp [hb] at ha
  | some b =>
    simp only [hb] at ha
    cases hit : iterate cfg route e { batchId := b.batchId, assignments := e.getBatchAssignments id } with
    | waiting a' =>
      simp only [hit, Option.some.injEq] at ha
      exact ha ▸ (iterate_waiting h (h.nodup_getBatchAssignments id) hit).2
    | returned r => simp [hit] at ha

theorem resumeWith_wellFormed (h : Batching.Inv bcfg e) {svc : BatchDispatchService}
    {task : SubmitTask} {a a' : Attempt} (hwf : a.WellFormed) {outcome : AdapterOutcome}
    (ha : (task.resumeWith cfg route e svc a outcome).2.attempt = some a') : a'.WellFormed := by
  simp only [SubmitTask.resumeWith] at ha
  cases hset : a.settle cfg route e outcome with
  | waiting a₁ =>
    simp only [hset, Option.some.injEq] at ha
    exact ha ▸ (settle_waiting h hwf hset).2.2
  | returned r =>
    simp only [hset] at ha
    exact (visit_attempt h ha).2.2

theorem step_inv (h : Inv bcfg s) (o : DispatchOp) (hc : SoleSubmission cfg s o) : Inv bcfg (s.step bcfg cfg o) := by
  cases o with
  | engine o =>
    exact ⟨Batching.step_inv h.engine o, h.attempts, h.flying, h.unrecorded, h.recorded, h.once, h.distinct⟩
  | submitPending route =>
    refine h.handOver (submitPending cfg route s.engine s.service).2 rfl rfl rfl ?_ (fun t ht => ?_)
      (fun a ha => submitPending_wellFormed h.engine ha) hc
    · simp only [DispatchSystem.step, inFlight, List.filterMap_append]
      exact List.perm_append_comm
    · simpa [DispatchSystem.step] using ht
  | submitById route id =>
    refine h.handOver (submitById cfg route s.engine s.service id).2 rfl rfl rfl ?_ (fun t ht => ?_)
      (fun a ha => submitById_wellFormed h.engine ha) hc
    · simp only [DispatchSystem.step, inFlight, List.filterMap_append]
      exact List.perm_append_comm
    · simpa [DispatchSystem.step] using ht
  | resume route i outcome =>
    have hans := inv_answered h (.resume route i outcome)
    simp only [SoleSubmission, DispatchSystem.handsOver, DispatchSystem.answered] at hans hc
    simp only [DispatchSystem.step]
    cases hat : s.attemptOf i with
    | none => exact h
    | some p =>
      obtain ⟨task, a⟩ := p
      simp only [hat, Option.bind_some] at hans hc ⊢
      obtain ⟨ht, ha⟩ := attemptOf_eq_some.1 hat
      obtain ⟨l₁, l₂, htasks, hset⟩ := tasks_split ht
      have hwf := h.attempts task (by rw [htasks]; simp) a ha
      refine hans.handOver (task.resumeWith cfg route s.engine s.service a outcome).2 rfl rfl rfl ?_ (fun t ht' => ?_)
        (fun a' ha' => resumeWith_wellFormed h.engine hwf ha') hc
      · simp only [hset, inFlight, List.filterMap_append, List.filterMap_cons, Option.map_none, List.filterMap_nil]
        cases (task.resumeWith cfg route s.engine s.service a outcome).2.attempt with
        | none => simp
        | some a' => simp
      · simp only [hset, List.mem_append, List.mem_cons] at ht' ⊢
        tauto

theorem Inv.nodup_acceptedAssignments (h : Inv bcfg s) : s.acceptedAssignments.Nodup := by
  rw [DispatchSystem.acceptedAssignments, List.nodup_flatMap]
  refine ⟨fun d hd => ?_, ?_⟩
  · have := h.distinct d hd
    rw [show (d.assignments.map fun a => (d.batchId, a.requestId)) =
      (d.assignments.map BatchAssignment.requestId).map fun r => (d.batchId, r) by
        simp [List.map_map, Function.comp_def]]
    exact this.map fun a b hab => (Prod.mk.inj hab).2
  · have := List.pairwise_map.1 h.once
    refine this.imp fun {d d'} hne => ?_
    simp only [Function.onFun, List.disjoint_left, List.mem_map]
    rintro p ⟨a, -, rfl⟩ ⟨a', -, hp⟩
    exact hne (Prod.mk.inj hp).1.symm

/-! ## Runs -/

/-- **At-most-once acceptance.** For every interleaving of any number of calls of the two entry points with each other
and with engine operations, every routing and every pattern of acceptances, rejections and exceptions: if no step hands
the adapter a batch that another call is waiting for or that is recorded as submitted, no (batch, request) assignment is
accepted more than once. -/
theorem accepted_at_most_once (bcfg : EngineConfig) (cfg : DispatchConfig) (ops : List DispatchOp)
    (hc : Meets (DispatchSystem.step bcfg cfg) (SoleSubmission cfg) DispatchSystem.init ops) :
    (run (DispatchSystem.step bcfg cfg) DispatchSystem.init ops).acceptedAssignments.Nodup :=
  (Meets.run_inv (I := Inv bcfg) (fun _ o h hc => step_inv h o hc) (inv_init bcfg) hc).nodup_acceptedAssignments

def noRoute : Route := fun _ _ _ => .error ""

/-- two calls visit the batch before the adapter has answered either -/
def overlappingCalls : List DispatchOp :=
  [.engine (.placeSelected {} 0 (Batching.plainItem 1 "m")), .submitPending noRoute, .submitPending noRoute,
    .resume noRoute 0 (.result true "mock" "accepted"), .resume noRoute 1 (.result true "mock" "accepted")]

/-- **Accepted twice.** The check of the second call comes before the record of the first. -/
theorem accepted_twice :
    ¬(run (DispatchSystem.step Batching.smallConfig plainDispatch) DispatchSystem.init
      overlappingCalls).acceptedAssignments.Nodup := by
  decide

/-- the same two calls, one after the other -/
theorem accepted_at_most_once_sequential :
    (run (DispatchSystem.step Batching.smallConfig plainDispatch) DispatchSystem.init
      [.engine (.placeSelected {} 0 (Batching.plainItem 1 "m")), .submitPending noRoute,
        .resume noRoute 0 (.result true "mock" "accepted"), .submitPending noRoute]).acceptedAssignments.Nodup :=
  accepted_at_most_once Batching.smallConfig plainDispatch _ (by decide)

end InferencePlatform.Dispatch
