/-
A batch on its way through `submit_pending_batches`.

Between two awaits the call visits batches until it comes to one that is pending, and submits it; those before are
passed over (`passedOver`). A batch the call looks for has been accepted, is in flight or is still to be visited
(`Underway`), and with routing that finds a backend and an adapter that accepts it stays so unless a visit passes it
over: `submitPending_underway`, `resumeWith_underway`. When the call returns, an accepted result names the batch
(`Underway.accepted`).
-/
import InferencePlatform.Dispatch.Delivery

namespace InferencePlatform.Dispatch

open Batching (ContinuousBatchEngine Batch EngineConfig)

variable {bcfg : EngineConfig} {cfg : DispatchConfig} {route : Route} {e : ContinuousBatchEngine}
  {svc : BatchDispatchService} {task : SubmitTask} {id : UUID}

/-- the batches a visit passes over before it stops at one -/
def passedOver (cfg : DispatchConfig) (submitted : Finset UUID) (e : ContinuousBatchEngine)
    (ids : List UUID) : List UUID :=
  ids.takeWhile fun id => ¬Pending cfg submitted e id

/-- the batch is in an accepted result, in flight, or still to be visited, and nothing has been refused -/
structure Underway (task : SubmitTask) (id : UUID) : Prop where
  accepts : ∀ x ∈ task.results, x.accepted = true
  found : (∃ x ∈ task.results, x.batchId = id) ∨ (∃ a ∈ task.attempt, a.sub.batchId = id) ∨ id ∈ task.remaining
  /-- the call does not return before the last visit -/
  visited : task.attempt = none → task.remaining = []

/-- a visit that stops has fewer batches left -/
theorem visit_shorter (submitted : Finset UUID) (ids : List UUID) (results : List BatchDispatchResult) {a : Attempt}
    (ha : (visit cfg route e submitted ids results).attempt = some a) :
    (visit cfg route e submitted ids results).remaining.length < ids.length := by
  induction ids generalizing results with
  | nil => cases ha
  | cons id ids ih =>
    simp only [visit] at ha ⊢
    split_ifs at ha ⊢
    · cases hit : iterate cfg route e { batchId := id, assignments := e.getBatchAssignments id } with
      | waiting a' => exact Nat.lt_succ_self _
      | returned r =>
        rw [hit] at ha
        exact (ih _ ha).trans (Nat.lt_succ_self _)
    · exact (ih _ ha).trans (Nat.lt_succ_self _)

theorem visit_underway (h : Batching.Inv bcfg e) (hfinds : Finds cfg route) {submitted : Finset UUID} {ids : List UUID}
    {results : List BatchDispatchResult} (haccepts : ∀ x ∈ results, x.accepted = true)
    (hfound : (∃ x ∈ results, x.batchId = id) ∨ id ∈ ids) (hpass : id ∉ passedOver cfg submitted e ids) :
    Underway (visit cfg route e submitted ids results) id := by
  induction ids generalizing results with
  | nil =>
    refine ⟨haccepts, Or.inl (hfound.resolve_right ?_), fun _ => rfl⟩
    exact List.not_mem_nil
  | cons id₁ ids ih =>
    by_cases hp : Pending cfg submitted e id₁
    · -- the visit stops here
      obtain ⟨a, hit, hid, -⟩ := iterate_pending h hfinds hp
      simp only [visit, if_pos hp, hit]
      refine ⟨haccepts, ?_, fun hnone => by cases hnone⟩
      rcases hfound with hresult | hmem
      · exact Or.inl hresult
      · rcases List.mem_cons.1 hmem with rfl | hrest
        · exact Or.inr (Or.inl ⟨a, rfl, hid⟩)
        · exact Or.inr (Or.inr hrest)
    · -- and passes this one over
      have hpass' : passedOver cfg submitted e (id₁ :: ids) = id₁ :: passedOver cfg submitted e ids :=
        List.takeWhile_cons_of_pos (by simpa using hp)
      rw [hpass', List.mem_cons, not_or] at hpass
      simp only [visit, if_neg hp]
      refine ih haccepts (hfound.imp_right fun hmem => ?_) hpass.2
      exact (List.mem_cons.1 hmem).resolve_left hpass.1

/-- a call of `submit_pending_batches`, up to its first `await` -/
theorem submitPending_underway (h : Batching.Inv bcfg e) (hfinds : Finds cfg route) {b : Batch}
    (hb : e.batches.get? id = some b)
    (hpass : id ∉ passedOver cfg svc.submittedBatchIds e (e.listBatches.map Batch.batchId)) :
    Underway (submitPending cfg route e svc).2 id := by
  obtain ⟨s, -, hbi⟩ := h.batch hb
  have hmem : id ∈ e.listBatches.map Batch.batchId := List.mem_map.2 ⟨b, Core.Dict.mem_values.2 ⟨id, hb⟩, hbi.id⟩
  exact visit_underway h hfinds (fun x hx => by cases hx) (Or.inr hmem) hpass

/-- the adapter has accepted the attempt -/
theorem resumeWith_underway (h : Batching.Inv bcfg e) (hfinds : Finds cfg route) {a : Attempt}
    (ha : task.attempt = some a)
    {outcome : AdapterOutcome} (haccepted : outcome.accepted = true) (hunder : Underway task id)
    (hpass : id ∉ passedOver cfg (svc.settled a outcome).submittedBatchIds e task.remaining) :
    Underway (task.resumeWith cfg route e svc a outcome).2 id := by
  cases outcome with
  | raised message => cases haccepted
  | result accepted backendId reason =>
    obtain rfl : accepted = true := haccepted
    simp only [SubmitTask.resumeWith, Attempt.settle, if_true, Option.toList_some]
    refine visit_underway h hfinds (fun x hx => ?_) ?_ hpass
    · rcases List.mem_append.1 hx with hold | hnew
      · exact hunder.accepts x hold
      · rw [List.mem_singleton.1 hnew]
    · rcases hunder.found with ⟨x, hx, hid⟩ | ⟨a', ha', hid⟩ | hmem
      · exact Or.inl ⟨x, List.mem_append_left _ hx, hid⟩
      · rw [ha] at ha'
        cases ha'
        exact Or.inl ⟨_, List.mem_append_right _ (List.mem_singleton.2 rfl), hid⟩
      · exact Or.inr hmem

/-- an accepted attempt leaves fewer batches to visit -/
theorem resumeWith_shorter {a a' : Attempt} {outcome : AdapterOutcome} (haccepted : outcome.accepted = true)
    (ha' : (task.resumeWith cfg route e svc a outcome).2.attempt = some a') :
    (task.resumeWith cfg route e svc a outcome).2.remaining.length < task.remaining.length := by
  cases outcome with
  | raised message => cases haccepted
  | result accepted backendId reason =>
    obtain rfl : accepted = true := haccepted
    exact visit_shorter _ _ _ ha'

/-- a call that has returned found the batch accepted -/
theorem Underway.accepted (h : Underway task id) (hattempt : task.attempt = none) :
    ∃ x, task.results.find? (fun x => x.batchId = id) = some x ∧ x.accepted = true := by
  have hfound : ∃ x ∈ task.results, x.batchId = id := by
    rcases h.found with hresult | ⟨a, ha, -⟩ | hmem
    · exact hresult
    · rw [hattempt] at ha
      cases ha
    · rw [h.visited hattempt] at hmem
      cases hmem
  cases hfind : task.results.find? (fun x => x.batchId = id) with
  | none =>
    obtain ⟨x, hx, hid⟩ := hfound
    exact absurd hid (by simpa using List.find?_eq_none.1 hfind x hx)
  | some x => exact ⟨x, rfl, h.accepts x (List.mem_of_find?_eq_some hfind)⟩

end InferencePlatform.Dispatch
