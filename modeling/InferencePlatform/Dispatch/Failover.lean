/-
One submission from start to end, with the routing engine's policies and any adapter.

`_submit_batch` tries backends until one accepts or the policy finds no other. `submitBatch` runs its loop: `answer i`
is what the adapter does with attempt `i`, and `engine i` the engine when the loop looks at it for the `i`-th time, so
the batch may change between attempts. The measure is the number of backends not yet tried: routing never picks an
excluded one.

- `Stage`: what an iteration of the loop can end in, when the backends in `tried` have been tried;
- `dispatch_failover`: the loop ends within one attempt for each backend, tries none twice and none that the policy may
  not pick, is accepted exactly when an attempt is, and otherwise has tried every backend that the policy may pick.
-/
import InferencePlatform.Dispatch.Submitter
import InferencePlatform.Routing.Policies

namespace InferencePlatform.Dispatch

open InferencePlatform.Core (Dict)
open Adapter (RoutableBackendSnapshot)
open Batching (ContinuousBatchEngine Batch)
open Routing (ModelRecord Eligible)

/-! ## The loop -/

/-- the answers of the routing engine, as the loop reads them -/
def routed (models : Dict String ModelRecord) (backends : List RoutableBackendSnapshot)
    (freshId routeId : UUID) : Route :=
  fun requestId modelId excluded =>
    let result := Routing.route (requestId.getD freshId) backends excluded routeId models modelId
    match result.success, result.decision with
    | true, some decision => .ok decision.backendId
    | _, _ => .error (result.error.getD "")

/-- the loop from its `i`-th iteration on: the attempts it makes, and what it returns (`none`: it is not done within
`fuel` attempts) -/
def submitBatch (cfg : DispatchConfig) (route : Route) (engine : ℕ → ContinuousBatchEngine)
    (answer : ℕ → AdapterOutcome) :
    ℕ → ℕ → Iteration → List Attempt × Option (Option BatchDispatchResult)
  | _, _, .returned r => ([], some r)
  | 0, _, .waiting _ => ([], none)
  | fuel + 1, i, .waiting a =>
    let (attempts, r) := submitBatch cfg route engine answer fuel (i + 1)
      (a.settle cfg route (engine (i + 1)) (answer i))
    (a :: attempts, r)

/-- the batch of the call, in the engine: the call holds on to it, and its model never changes -/
def Holds (id : UUID) (model : ModelRecord) (e : ContinuousBatchEngine) : Prop :=
  ∃ b, e.getBatch id = some b ∧ b.context.model = model.modelId

def IsOpen (id : UUID) (e : ContinuousBatchEngine) : Prop := ∃ b, e.getBatch id = some b ∧ b.isOpen

/-! ## One iteration -/

variable {cfg : DispatchConfig} {models : Dict String ModelRecord} {model : ModelRecord}
  {backends : List RoutableBackendSnapshot} {freshId routeId id : UUID} {e : ContinuousBatchEngine}
  {tried : Finset String}

/-- an iteration ends in an attempt with a new backend, in a result because no backend is left, or in nothing because
the batch is not open any more -/
inductive Stage (model : ModelRecord) (backends : List RoutableBackendSnapshot) (id : UUID) (e : ContinuousBatchEngine)
    (tried : Finset String) : Iteration → Prop
  | waiting (a : Attempt) (hid : a.sub.batchId = id) (hassignments : a.sub.assignments ≠ [])
      (hexcluded : a.sub.excluded = tried) (hmodel : a.dispatch.model = model.modelId)
      (hbackend : ∃ b ∈ backends, Eligible model tried b ∧ b.backendId = a.backendId) :
      Stage model backends id e tried (.waiting a)
  | exhausted (res : BatchDispatchResult) (hrefused : res.accepted = false)
      (hnone : ∀ b ∈ backends, ¬Eligible model tried b) : Stage model backends id e tried (.returned (some res))
  | closed (h : ¬IsOpen id e) : Stage model backends id e tried (.returned none)

/-- routing answers with an eligible backend exactly when there is one -/
theorem routed_cases (backends : List RoutableBackendSnapshot) (freshId routeId : UUID) (tried : Finset String)
    (hmodel : models.get? model.modelId = some model) (requestId : Option UUID) :
    ((∀ b ∈ backends, ¬Eligible model tried b) ∧
        ∃ error, routed models backends freshId routeId requestId model.modelId tried = .error error) ∨
      ∃ b ∈ backends, Eligible model tried b ∧
        routed models backends freshId routeId requestId model.modelId tried = .ok b.backendId := by
  unfold routed
  rw [Routing.route_registered hmodel]
  rcases Routing.select_cases (requestId.getD freshId) model backends tried routeId with
    ⟨hnone, hfail, hdecision⟩ | ⟨d, hok, hdecision, hchosen⟩
  · simp only [hfail, hdecision]
    exact Or.inl ⟨hnone, _, rfl⟩
  · obtain ⟨b, hb, heligible, hid⟩ := hchosen.eligible
    simp only [hok, hdecision]
    exact Or.inr ⟨b, hb, heligible, by rw [hid]⟩

theorem iterate_stage (hrouted : cfg.routed = true) (hmodel : models.get? model.modelId = some model)
    (he : Holds id model e) {sub : Submission} (hid : sub.batchId = id) (hassignments : sub.assignments ≠ [])
    (hexcluded : sub.excluded = tried) :
    Stage model backends id e tried (iterate cfg (routed models backends freshId routeId) e sub) := by
  obtain ⟨b, hb, hbmodel⟩ := he
  unfold iterate
  rw [hid, hb]
  dsimp only
  rw [if_pos hrouted, hbmodel, hexcluded]
  rcases routed_cases backends freshId routeId tried hmodel sub.requestId with
    ⟨hnone, error, hroute⟩ | ⟨backend, hbackend, heligible, hroute⟩
  · rw [hroute]
    exact .exhausted _ rfl hnone
  · rw [hroute]
    dsimp only
    by_cases hopen : b.isOpen
    · have hsome : buildDispatchBatch b sub.assignments backend.backendId =
          some { batchId := b.batchId, model := b.context.model, workerId := backend.backendId
                 assignments := sub.assignments
                 createdAt := b.context.activatedAt.getD b.context.createdAt } := by
        rw [buildDispatchBatch, if_neg (not_not.2 hopen), if_neg]
        simpa using hassignments
      rw [hsome]
      exact .waiting _ hid hassignments hexcluded hbmodel ⟨backend, hbackend, heligible, rfl⟩
    · have hnone : buildDispatchBatch b sub.assignments backend.backendId = none := by
        rw [buildDispatchBatch, if_pos hopen]
      rw [hnone]
      refine .closed ?_
      rintro ⟨b', hb', hopen'⟩
      rw [hb] at hb'
      cases hb'
      exact hopen hopen'

/-- an attempt that is not accepted is followed by the next stage, with its backend among those tried -/
theorem settle_stage (backends : List RoutableBackendSnapshot) (freshId routeId : UUID) (hrouted : cfg.routed = true)
    (hmodel : models.get? model.modelId = some model)
    (he : Holds id model e) {a : Attempt} (hid : a.sub.batchId = id) (hassignments : a.sub.assignments ≠ [])
    (hexcluded : a.sub.excluded = tried) (hdispatch : a.dispatch.model = model.modelId) {outcome : AdapterOutcome}
    (hrefused : outcome.accepted = false) :
    Stage model backends id e (insert a.backendId tried)
      (a.settle cfg (routed models backends freshId routeId) e outcome) := by
  cases outcome with
  | result accepted backendId reason =>
    have haccepted : accepted = false := hrefused
    simp only [Attempt.settle, haccepted, Bool.false_eq_true, if_false, hrouted, if_true]
    exact iterate_stage hrouted hmodel he hid hassignments (by rw [hexcluded])
  | raised message =>
    simp only [Attempt.settle, hrouted, if_true, hdispatch, hexcluded]
    rcases routed_cases backends freshId routeId (insert a.backendId tried) hmodel
      ({ a.sub with excluded := insert a.backendId tried, lastError := message } : Submission).requestId with
      ⟨hnone, error, hroute⟩ | ⟨backend, -, -, hroute⟩
    · rw [hroute]
      exact .exhausted _ rfl hnone
    · rw [hroute]
      exact iterate_stage hrouted hmodel he hid hassignments rfl

theorem settle_accepted (cfg : DispatchConfig) (route : Route) (e : ContinuousBatchEngine) (a : Attempt)
    {outcome : AdapterOutcome} (h : outcome.accepted = true) :
    ∃ res, a.settle cfg route e outcome = .returned (some res) ∧ res.accepted = true := by
  cases outcome with
  | result accepted backendId reason =>
    have haccepted : accepted = true := h
    simp only [Attempt.settle, haccepted, if_true]
    exact ⟨_, rfl, rfl⟩
  | raised message => cases h

/-! ## The whole loop -/

/-- the backends that may be picked are the eligible ones that have not been tried -/
theorem eligible_iff {b : RoutableBackendSnapshot} :
    Eligible model tried b ↔ Eligible model ∅ b ∧ b.backendId ∉ tried := by
  constructor
  · rintro ⟨havailable, hallows⟩
    exact ⟨⟨⟨havailable.healthy, havailable.supports, Finset.notMem_empty _⟩, hallows⟩, havailable.free⟩
  · rintro ⟨⟨havailable, hallows⟩, hfree⟩
    exact ⟨⟨havailable.healthy, havailable.supports, hfree⟩, hallows⟩

/-- the attempts of the loop from iteration `i` on, and what it returns -/
structure Concludes (model : ModelRecord) (backends : List RoutableBackendSnapshot) (id : UUID)
    (engine : ℕ → ContinuousBatchEngine) (answer : ℕ → AdapterOutcome) (tried : Finset String) (i : ℕ)
    (attempts : List Attempt) (r : Option BatchDispatchResult) : Prop where
  nodup : (attempts.map Attempt.backendId).Nodup
  untried : ∀ a ∈ attempts, a.backendId ∉ tried
  eligible : ∀ a ∈ attempts, ∃ b ∈ backends, Eligible model ∅ b ∧ b.backendId = a.backendId
  accepted : (∃ res, r = some res ∧ res.accepted = true) ↔ ∃ j < attempts.length, (answer (i + j)).accepted = true
  complete : ∀ res, r = some res → res.accepted = false → ∀ b ∈ backends, Eligible model ∅ b →
    b.backendId ∈ tried ∨ b.backendId ∈ attempts.map Attempt.backendId
  open_ : r = none → ∃ j ≤ attempts.length, ¬IsOpen id (engine (i + j))

variable {engine : ℕ → ContinuousBatchEngine} {answer : ℕ → AdapterOutcome} {i : ℕ}

/-- the backends not yet tried -/
def untried (backends : List RoutableBackendSnapshot) (tried : Finset String) : Finset String :=
  (backends.map RoutableBackendSnapshot.backendId).toFinset \ tried

theorem untried_lt {a : Attempt} (h : ∃ b ∈ backends, Eligible model tried b ∧ b.backendId = a.backendId) :
    (untried backends (insert a.backendId tried)).card < (untried backends tried).card := by
  obtain ⟨b, hb, heligible, hid⟩ := h
  refine Finset.card_lt_card ⟨fun x hx => ?_, fun hsub => ?_⟩
  · simp only [untried, Finset.mem_sdiff, Finset.mem_insert, not_or] at hx ⊢
    exact ⟨hx.1, hx.2.2⟩
  · have hmem : a.backendId ∈ untried backends tried := by
      rw [untried, Finset.mem_sdiff, List.mem_toFinset, ← hid]
      exact ⟨List.mem_map_of_mem hb, (eligible_iff.1 heligible).2⟩
    have hnot := hsub hmem
    simp [untried] at hnot

/-- the attempt in hand, before those that follow it -/
theorem Concludes.cons {a : Attempt} {attempts : List Attempt} {r : Option BatchDispatchResult}
    (hbackend : ∃ b ∈ backends, Eligible model tried b ∧ b.backendId = a.backendId)
    (hrefused : (answer i).accepted = false)
    (h : Concludes model backends id engine answer (insert a.backendId tried) (i + 1) attempts r) :
    Concludes model backends id engine answer tried i (a :: attempts) r := by
  obtain ⟨b, hb, heligible, hid⟩ := hbackend
  refine ⟨?_, ?_, ?_, ?_, ?_, ?_⟩
  · refine List.nodup_cons.2 ⟨fun hmem => ?_, h.nodup⟩
    obtain ⟨a', ha', hsame⟩ := List.mem_map.1 hmem
    exact h.untried a' ha' (hsame ▸ Finset.mem_insert_self _ _)
  · intro a' ha'
    rcases List.mem_cons.1 ha' with rfl | ha'
    · exact hid ▸ (eligible_iff.1 heligible).2
    · exact fun hmem => h.untried a' ha' (Finset.mem_insert_of_mem hmem)
  · intro a' ha'
    rcases List.mem_cons.1 ha' with rfl | ha'
    · exact ⟨b, hb, (eligible_iff.1 heligible).1, hid⟩
    · exact h.eligible a' ha'
  · rw [h.accepted]
    constructor
    · rintro ⟨j, hj, haccepted⟩
      refine ⟨j + 1, Nat.succ_lt_succ hj, ?_⟩
      rwa [show i + (j + 1) = i + 1 + j by omega]
    · rintro ⟨j, hj, haccepted⟩
      cases j with
      | zero =>
        rw [Nat.add_zero, hrefused] at haccepted
        cases haccepted
      | succ j =>
        refine ⟨j, Nat.lt_of_succ_lt_succ hj, ?_⟩
        rwa [show i + 1 + j = i + (j + 1) by omega]
  · intro res hr hres b' hb' heligible'
    rcases h.complete res hr hres b' hb' heligible' with hmem | hmem
    · rcases Finset.mem_insert.1 hmem with hsame | hmem
      · exact Or.inr (hsame ▸ List.mem_cons_self)
      · exact Or.inl hmem
    · exact Or.inr (List.mem_cons_of_mem _ hmem)
  · intro hr
    obtain ⟨j, hj, hclosed⟩ := h.open_ hr
    refine ⟨j + 1, Nat.succ_le_succ hj, ?_⟩
    rwa [show i + (j + 1) = i + 1 + j by omega]

/-- by induction on the backends that have not been tried -/
theorem submitBatch_concludes (answer : ℕ → AdapterOutcome) (hrouted : cfg.routed = true)
    (hmodel : models.get? model.modelId = some model) (hbatch : ∀ i, Holds id model (engine i)) {fuel : ℕ}
    (hfuel : (untried backends tried).card ≤ fuel) {it : Iteration}
    (hstage : Stage model backends id (engine i) tried it) :
    ∃ attempts r, submitBatch cfg (routed models backends freshId routeId) engine answer fuel i it =
      (attempts, some r) ∧
      Concludes model backends id engine answer tried i attempts r ∧
        attempts.length ≤ (untried backends tried).card := by
  induction fuel generalizing i tried it with
  | zero =>
    cases hstage with
    | waiting a _ _ _ _ hbackend =>
      have hlt := untried_lt hbackend
      omega
    | exhausted res hrefused hnone =>
      refine ⟨[], some res, rfl, ⟨List.nodup_nil, by simp, by simp, ?_, fun _ _ _ b hb h => ?_, by simp⟩, Nat.zero_le _⟩
      · simp [hrefused]
      · by_contra hno
        exact hnone b hb (eligible_iff.2 ⟨h, fun hmem => hno (Or.inl hmem)⟩)
    | closed hclosed =>
      exact ⟨[], none, rfl, ⟨List.nodup_nil, by simp, by simp, by simp, by simp, fun _ => ⟨0, le_rfl, hclosed⟩⟩,
        Nat.zero_le _⟩
  | succ fuel ih =>
    cases hstage with
    | waiting a hid hassignments hexcluded hdispatch hbackend =>
      have hlt := untried_lt hbackend
      cases haccepted : (answer i).accepted with
      | true =>
        obtain ⟨res, hsettle, hres⟩ :=
          settle_accepted cfg (routed models backends freshId routeId) (engine (i + 1)) a haccepted
        obtain ⟨b, hb, heligible, hbid⟩ := hbackend
        refine ⟨[a], some res, ?_, ⟨List.nodup_singleton _, ?_, ?_, ?_, ?_, by simp⟩, ?_⟩
        · simp only [submitBatch, hsettle]
        · intro a' ha'
          rw [List.mem_singleton.1 ha', ← hbid]
          exact (eligible_iff.1 heligible).2
        · intro a' ha'
          rw [List.mem_singleton.1 ha']
          exact ⟨b, hb, (eligible_iff.1 heligible).1, hbid⟩
        · refine ⟨fun _ => ⟨0, Nat.one_pos, haccepted⟩, fun _ => ⟨res, rfl, hres⟩⟩
        · intro res' hr hno
          cases hr
          rw [hres] at hno
          cases hno
        · rw [List.length_singleton]
          omega
      | false =>
        have hnext := settle_stage backends freshId routeId hrouted hmodel (hbatch (i + 1)) hid hassignments hexcluded
          hdispatch haccepted
        obtain ⟨attempts, r, hrun, hconcludes, hlength⟩ := ih (by omega) hnext
        refine ⟨a :: attempts, r, ?_, hconcludes.cons hbackend haccepted, ?_⟩
        · simp only [submitBatch, hrun]
        · rw [List.length_cons]
          omega
    | exhausted res hrefused hnone =>
      refine ⟨[], some res, rfl, ⟨List.nodup_nil, by simp, by simp, ?_, fun _ _ _ b hb h => ?_, by simp⟩, Nat.zero_le _⟩
      · simp [hrefused]
      · by_contra hno
        exact hnone b hb (eligible_iff.2 ⟨h, fun hmem => hno (Or.inl hmem)⟩)
    | closed hclosed =>
      exact ⟨[], none, rfl, ⟨List.nodup_nil, by simp, by simp, by simp, by simp, fun _ => ⟨0, le_rfl, hclosed⟩⟩,
        Nat.zero_le _⟩

/-- the call makes at most one attempt for each backend, and each is with a backend the policy may pick. It returns an
accepted result exactly when an attempt was accepted, and any other result only when every such backend was tried; it
returns nothing only when it found the batch no longer open. -/
theorem dispatch_failover (cfg : DispatchConfig) (hrouted : cfg.routed = true) (models : Dict String ModelRecord)
    (model : ModelRecord) (hmodel : models.get? model.modelId = some model) (backends : List RoutableBackendSnapshot)
    (freshId routeId id : UUID) (engine : ℕ → ContinuousBatchEngine) (hbatch : ∀ i, Holds id model (engine i))
    (assignments : List BatchAssignment) (hassignments : assignments ≠ []) (answer : ℕ → AdapterOutcome) :
    let route := routed models backends freshId routeId
    ∃ attempts r, submitBatch cfg route engine answer backends.length 0
          (iterate cfg route (engine 0) { batchId := id, assignments }) = (attempts, some r) ∧
      attempts.length ≤ backends.length ∧ (attempts.map Attempt.backendId).Nodup ∧
      (∀ a ∈ attempts, ∃ b ∈ backends, Eligible model ∅ b ∧ b.backendId = a.backendId) ∧
      ((∃ res, r = some res ∧ res.accepted = true) ↔ ∃ j < attempts.length, (answer j).accepted = true) ∧
      (∀ res, r = some res → res.accepted = false →
        ∀ b ∈ backends, Eligible model ∅ b → b.backendId ∈ attempts.map Attempt.backendId) ∧
      (r = none → ∃ j ≤ attempts.length, ¬IsOpen id (engine j)) := by
  intro route
  have hstage : Stage model backends id (engine 0) ∅ (iterate cfg route (engine 0) { batchId := id, assignments }) :=
    iterate_stage hrouted hmodel (hbatch 0) rfl hassignments rfl
  have hcard : (untried backends ∅).card ≤ backends.length := by
    rw [untried, Finset.sdiff_empty]
    exact (List.toFinset_card_le _).trans (List.length_map ..).le
  obtain ⟨attempts, r, hrun, hconcludes, hlength⟩ :=
    submitBatch_concludes answer hrouted hmodel hbatch hcard hstage
  refine ⟨attempts, r, hrun, hlength.trans hcard, hconcludes.nodup, hconcludes.eligible, ?_, ?_, ?_⟩
  · simpa using hconcludes.accepted
  · intro res hr hrefused b hb heligible
    exact (hconcludes.complete res hr hrefused b hb heligible).resolve_left (Finset.notMem_empty _)
  · intro hr
    simpa using hconcludes.open_ hr

/-- the model's own backend raises, and its fallback takes the batch -/
theorem dispatch_failover_fallback :
    let model : ModelRecord :=
      { modelId := "m", backend := "mock", routingPolicy := .fallback, fallbackBackend := some "spare" }
    let backends : List RoutableBackendSnapshot :=
      [⟨"mock", "healthy", true, [], .standard, .standard, 32⟩,
        ⟨"spare", "healthy", true, [], .standard, .standard, 32⟩]
    let cfg : DispatchConfig := ⟨"mock", true, none⟩
    let route := routed (Dict.set .empty "m" model) backends 7 8
    let answer (i : ℕ) : AdapterOutcome :=
      if i = 0 then .raised "connection refused" else .result true "spare" "accepted"
    let engine := ContinuousBatchEngine.init.step Batching.smallConfig (.placeSelected {} 0 (Batching.plainItem 1 "m"))
    ∃ attempts r, submitBatch cfg route (fun _ => engine) answer 2 0
          (iterate cfg route engine { batchId := 0, assignments := engine.getBatchAssignments 0 }) =
            (attempts, some r) ∧
      ∃ res, r = some res ∧ res.accepted = true := by
  intro model backends cfg route answer engine
  have hholds : Holds 0 model engine := by
    refine ⟨(engine.getBatch 0).get (by decide), by simp, by decide⟩
  have hopen : IsOpen 0 engine := ⟨(engine.getBatch 0).get (by decide), by simp, by decide⟩
  obtain ⟨attempts, r, hrun, -, -, -, haccepted, hcomplete, hclosed⟩ :=
    dispatch_failover cfg rfl (Dict.set .empty "m" model) model rfl backends 7 8 0 (fun _ => engine)
      (fun _ => hholds) (engine.getBatchAssignments 0) (by decide) answer
  refine ⟨attempts, r, hrun, ?_⟩
  cases r with
  | none =>
    obtain ⟨_, -, hnot⟩ := hclosed rfl
    exact absurd hopen hnot
  | some res =>
    by_contra hno
    have hrefused : res.accepted = false := Bool.eq_false_iff.2 fun h => hno ⟨res, rfl, h⟩
    -- both backends were tried, and the second of them takes the batch
    have hmock := hcomplete res rfl hrefused backends[0] (by simp [backends])
        ⟨⟨rfl, rfl, Finset.notMem_empty _⟩, Or.inl rfl⟩
    have hspare := hcomplete res rfl hrefused backends[1] (by simp [backends])
        ⟨⟨rfl, rfl, Finset.notMem_empty _⟩, Or.inr rfl⟩
    refine hno (haccepted.2 ⟨1, ?_, rfl⟩)
    rcases attempts with _ | ⟨a, _ | ⟨a', rest⟩⟩
    · cases hmock
    · rw [List.map_singleton, List.mem_singleton] at hmock hspare
      exact absurd (hmock.trans hspare.symm) (by decide)
    · simp

end InferencePlatform.Dispatch
