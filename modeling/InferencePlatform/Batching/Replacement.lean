/-
Replacing a request: `BatchService.replace_request`.

It is a retirement and then a placement, and guards the two one way only: a retirement that does not succeed ends the
call, but a placement that is refused leaves the retirement standing. Nothing is asked of the placement before the
retirement.

`replacement_iff`: in every state the engine can reach, for an ACTIVE request, the call does all or nothing exactly when
the state before it is `Replaceable`. The retirement frees one slot of the whole engine, so of the placement's checks
the global bound always passes; what is left is the item itself and the open batch of its model, seen without the
retired request.
-/
import InferencePlatform.Batching.Placement

namespace InferencePlatform.Batching

open InferencePlatform.Core (Dict run)

variable {cfg : EngineConfig} {e : ContinuousBatchEngine} {inj : FailureInjectionConfig} {now : Time} {item : QueueItem}

/-! ## The operation -/

/-- what the caller gets: the result of a retirement that did not succeed, or the placement's decision -/
inductive ReplaceOutcome
  | retirement (r : BatchResult)
  | placement (o : PlacementOutcome)
  deriving DecidableEq, Repr

/-- each half reads the clock for itself -/
def replaceRequest (cfg : BatchAdmissionConfig) (inj : FailureInjectionConfig) (requestId : UUID) (item : QueueItem)
    (retiredAt now : Time) : EngineM ReplaceOutcome := do
  let retire ← completeRequest requestId retiredAt
  if retire.success then return .placement (← placeSelected cfg inj now item)
  else return .retirement retire

/-! ## The property -/

/-- request `r` is retired and `c` is a new ACTIVE member; or `r` is ACTIVE in its slot as before, and nothing but the
log has changed -/
def AllOrNothing (e e' : ContinuousBatchEngine) (r c : UUID) : Prop :=
  (¬e'.isActive r ∧ e.requestToBatch.get? c = none ∧ e'.isActive c) ∨
    (e'.isActive r ∧ e'.membership r = e.membership r ∧ ∃ events, e' = e.logged events)

/-- the request is an ACTIVE member of the batch -/
def Batch.holds (b : Batch) (r : UUID) : Prop := ∃ m ∈ b.activeMembers, m.requestId = r

instance (b : Batch) (r : UUID) : Decidable (b.holds r) :=
  inferInstanceAs (Decidable (∃ m ∈ b.activeMembers, m.requestId = r))

/-- the completion of the request completes the batch: it is ACTIVE, and the request is its last member -/
def Batch.endsWith (b : Batch) (r : UUID) : Prop := b.state = .active ∧ b.activeMemberCount = 1 ∧ b.holds r

instance (b : Batch) (r : UUID) : Decidable (b.endsWith r) := inferInstanceAs (Decidable (_ ∧ _ ∧ _))

def Batch.windowClosed (b : Batch) (now : Time) : Prop := b.state = .filling ∧ b.context.admissionWindowEnd < now

instance (b : Batch) (now : Time) : Decidable (b.windowClosed now) := inferInstanceAs (Decidable (_ ∧ _))

/-- the batches that are open for a model -/
def ContinuousBatchEngine.openBatches (e : ContinuousBatchEngine) (model : String) : List Batch :=
  e.batches.values.filter fun b => b.context.model = model ∧ b.isOpen

/-- the placement of the item takes effect once `r` is retired -/
structure Replaceable (cfg : BatchAdmissionConfig) (inj : FailureInjectionConfig) (now : Time)
    (e : ContinuousBatchEngine) (r : UUID) (item : QueueItem) : Prop where
  notInjected : inj.isActive .batchAdmissionFailure (some item.requestId) = false
  unbatched : e.requestToBatch.get? item.requestId = none
  /-- an open batch of the item's model that outlives `r` has room, or gets it from `r`, and its window is not closed -/
  takes : ∀ b ∈ e.openBatches item.inferenceRequest.model, ¬b.endsWith r →
    (b.activeMemberCount < cfg.maxBatchSize ∨ b.holds r) ∧ ¬b.windowClosed now
  /-- when there is none a batch is created, and no fault is injected there -/
  creates : (∀ b ∈ e.openBatches item.inferenceRequest.model, b.endsWith r) →
    inj.isActive .batchCreationFailure (some item.requestId) = false

instance (cfg : BatchAdmissionConfig) (inj : FailureInjectionConfig) (now : Time) (e : ContinuousBatchEngine) (r : UUID)
    (item : QueueItem) : Decidable (Replaceable cfg inj now e r item) :=
  decidable_of_iff (inj.isActive .batchAdmissionFailure (some item.requestId) = false ∧
      e.requestToBatch.get? item.requestId = none ∧
      (∀ b ∈ e.openBatches item.inferenceRequest.model, ¬b.endsWith r →
        (b.activeMemberCount < cfg.maxBatchSize ∨ b.holds r) ∧ ¬b.windowClosed now) ∧
      ((∀ b ∈ e.openBatches item.inferenceRequest.model, b.endsWith r) →
        inj.isActive .batchCreationFailure (some item.requestId) = false))
    ⟨fun ⟨h₁, h₂, h₃, h₄⟩ => ⟨h₁, h₂, h₃, h₄⟩, fun h => ⟨h.notInjected, h.unbatched, h.takes, h.creates⟩⟩

/-! ## When a placement takes effect -/

theorem mem_openBatches {model : String} {b : Batch} :
    b ∈ e.openBatches model ↔ ∃ id, e.batches.get? id = some b ∧ b.context.model = model ∧ b.isOpen := by
  simp only [ContinuousBatchEngine.openBatches, List.mem_filter, Dict.mem_values, decide_eq_true_eq]
  constructor
  · rintro ⟨⟨id, hb⟩, h⟩
    exact ⟨id, hb, h⟩
  · rintro ⟨id, hb, h⟩
    exact ⟨⟨id, hb⟩, h⟩

/-- a model has one open batch at most -/
theorem Inv.openBatches_unique (h : Inv cfg e) {model : String} {b b' : Batch} (hb : b ∈ e.openBatches model)
    (hb' : b' ∈ e.openBatches model) : b = b' := by
  obtain ⟨id, hget, hopen⟩ := mem_openBatches.1 hb
  obtain ⟨id', hget', hopen'⟩ := mem_openBatches.1 hb'
  have hid := (h.pointer model id).2 ⟨b, hget, hopen⟩
  have hid' := (h.pointer model id').2 ⟨b', hget', hopen'⟩
  rw [hid] at hid'
  cases hid'
  rw [hget] at hget'
  exact Option.some.inj hget'

/-- the placement goes through: it is admitted, and the creation of a new batch does not fail -/
def TakesEffect (cfg : BatchAdmissionConfig) (inj : FailureInjectionConfig) (now : Time) (item : QueueItem)
    (e : ContinuousBatchEngine) : Prop :=
  ∃ batch, Admits cfg inj now item e batch ∧
    (batch = none → inj.isActive .batchCreationFailure (some item.requestId) = false)

/-- below the global bound, a placement takes effect by the item and the open batch of its model alone -/
theorem takesEffect_iff (h : Inv cfg e) (htotal : e.globalActiveRequestCount < cfg.maxActiveRequests) :
    TakesEffect cfg inj now item e ↔
      inj.isActive .batchAdmissionFailure (some item.requestId) = false ∧ e.requestToBatch.get? item.requestId = none ∧
      (∀ b ∈ e.openBatches item.inferenceRequest.model,
        b.activeMemberCount < cfg.maxBatchSize ∧ ¬b.windowClosed now) ∧
      (e.openBatches item.inferenceRequest.model = [] →
        inj.isActive .batchCreationFailure (some item.requestId) = false) := by
  constructor
  · rintro ⟨batch, hadmits, hcreation⟩
    refine ⟨hadmits.notInjected, hadmits.unbatched, ?_⟩
    cases batch with
    | none =>
      have hptr := h.pointer_eq_none hadmits.found (hadmits.notFull rfl)
      have hnone : ∀ b, b ∉ e.openBatches item.inferenceRequest.model := by
        intro b hb
        obtain ⟨id, hget, hopen⟩ := mem_openBatches.1 hb
        rw [(h.pointer _ id).2 ⟨b, hget, hopen⟩] at hptr
        cases hptr
      exact ⟨fun b hb => absurd hb (hnone b), fun _ => hcreation rfl⟩
    | some b =>
      obtain ⟨id, hget, hmodel, hopen, hroom⟩ := (h.findAdmittableBatch_eq_some now).1 hadmits.found
      have hmem := mem_openBatches.2 ⟨id, hget, hmodel, hopen⟩
      obtain ⟨-, -, hwindow⟩ := (evaluateBatchAdmission_accept.1 hadmits.accept).2 b rfl
      refine ⟨fun b' hb' => ?_, fun hnil => ?_⟩
      · rw [h.openBatches_unique hb' hmem]
        exact ⟨hroom, hwindow⟩
      · rw [hnil] at hmem
        cases hmem
  · rintro ⟨hinj, hunbatched, htakes, hcreation⟩
    cases hptr : e.activeBatchByModel.get? item.inferenceRequest.model with
    | none =>
      have hnil : e.openBatches item.inferenceRequest.model = [] := by
        rw [List.eq_nil_iff_forall_not_mem]
        intro b hb
        obtain ⟨id, hget, hopen⟩ := mem_openBatches.1 hb
        rw [(h.pointer _ id).2 ⟨b, hget, hopen⟩] at hptr
        cases hptr
      refine ⟨none, ⟨hinj, hunbatched, ?_, fun _ => ?_, ?_⟩, fun _ => hcreation hnil⟩
      · rw [Option.eq_none_iff_forall_not_mem]
        intro b hb
        obtain ⟨id, hget, hmodel, hopen, -⟩ := (h.findAdmittableBatch_eq_some now).1 hb
        have hmem := mem_openBatches.2 ⟨id, hget, hmodel, hopen⟩
        rw [hnil] at hmem
        cases hmem
      · simp [ContinuousBatchEngine.activeFullBatch, hptr]
      · exact evaluateBatchAdmission_accept.2 ⟨htotal, fun b hb => by cases hb⟩
    | some id =>
      obtain ⟨b, hget, hmodel, hopen⟩ := (h.pointer _ id).1 hptr
      obtain ⟨s, -, hbi⟩ := h.batch hget
      obtain ⟨hroom, hwindow⟩ := htakes b (mem_openBatches.2 ⟨id, hget, hmodel, hopen⟩)
      refine ⟨some b, ⟨hinj, hunbatched, ?_, ?_, ?_⟩, ?_⟩
      · exact (h.findAdmittableBatch_eq_some now).2 ⟨id, hget, hmodel, hopen, hroom⟩
      · intro hnone
        cases hnone
      · refine evaluateBatchAdmission_accept.2 ⟨htotal, fun b' hb' => ?_⟩
        cases hb'
        exact ⟨hbi.isOpen_iff_not_terminal.1 hopen, hroom, hwindow⟩
      · intro hnone
        cases hnone

/-! ## The retirement, seen from the open batches -/

/-- the ACTIVE request that is replaced, with the batch, the set and the record that hold it -/
structure Replaced (e : ContinuousBatchEngine) (r id : UUID) (b : Batch) (s : ActiveRequestSet) (m : BatchMember) : Prop
    extends Holds e r id b s m where
  active : m.status = .active

/-- the batch once the request is retired from it -/
def Batch.without (b : Batch) (s : ActiveRequestSet) (m : BatchMember) (r : UUID) : Batch :=
  b.withMembers (s.withStatus m r .completed)

/-- the engine once the request is retired -/
def ContinuousBatchEngine.without (e : ContinuousBatchEngine) (id : UUID) (b : Batch) (s : ActiveRequestSet)
    (m : BatchMember) (r : UUID) (retiredAt : Time) (events : List BatchEvent) : ContinuousBatchEngine :=
  e.retired id b (s.withStatus m r .completed) .completed "request_completed" retiredAt events

variable {r id : UUID} {b : Batch} {s : ActiveRequestSet} {m : BatchMember}

theorem Inv.replaced (h : Inv cfg e) (hr : e.isActive r) : ∃ id b s m, Replaced e r id b s m := by
  obtain ⟨id, m, hm, hactive⟩ := h.isActive_iff_membership.1 hr
  obtain ⟨hid, s, hs, hget⟩ := membership_eq_some.1 hm
  obtain ⟨b, hb⟩ := h.set hs
  exact ⟨id, b, s, m, ⟨hid, hb, hs, hget⟩, hactive⟩

/-- no other batch holds it -/
theorem Replaced.holds_iff (hh : Replaced e r id b s m) (h : Inv cfg e) {id' : UUID} {b' : Batch}
    (hb' : e.batches.get? id' = some b') : b'.holds r ↔ id' = id := by
  obtain ⟨s', hs', hbi⟩ := h.batch hb'
  constructor
  · rintro ⟨m', hm', rfl⟩
    have hid := (h.request _ id').2 ⟨s', m', hs', (hbi.mem_activeMembers.1 hm').1⟩
    rw [hh.request] at hid
    exact (Option.some.inj hid).symm
  · rintro rfl
    rw [hh.batch] at hb'
    cases hb'
    have hbi := h.setOf hh.batch hh.set
    have hid := (hbi.keyed r m hh.member).1
    exact ⟨m, hbi.mem_activeMembers.2 ⟨hid ▸ hh.member, hh.active⟩, hid⟩

/-- the batch loses one ACTIVE member -/
theorem Replaced.activeMemberCount_without (hh : Replaced e r id b s m) (h : Inv cfg e) :
    (b.without s m r).activeMemberCount + 1 = b.activeMemberCount := by
  have hne : MemberStatus.completed ≠ .active := by decide
  have hcount := activeMemberCount_withStatus (h.setOf hh.batch hh.set) hh.member hne
  rw [if_pos hh.active] at hcount
  exact hcount

theorem Replaced.closes_iff (hh : Replaced e r id b s m) (h : Inv cfg e) :
    (b.without s m r).closes (s.withStatus m r .completed) .completed ↔ b.endsWith r := by
  have hcount := hh.activeMemberCount_without h
  have hset : (b.without s m r).activeMemberCount = (s.withStatus m r .completed).activeCount :=
    activeMemberCount_withMembers _ _
  have hholds : b.holds r := (hh.holds_iff h hh.batch).2 rfl
  rw [Batch.closes, if_neg (by decide), ← hset]
  constructor
  · rintro ⟨hzero, hactive⟩
    exact ⟨hactive, by omega, hholds⟩
  · rintro ⟨hactive, hone, -⟩
    exact ⟨by omega, hactive⟩

/-- the retirement frees a slot of the engine -/
theorem Replaced.globalActiveRequestCount_lt (hh : Replaced e r id b s m) (h : Inv cfg e) (retiredAt : Time)
    (events : List BatchEvent) :
    (e.without id b s m r retiredAt events).globalActiveRequestCount < cfg.maxActiveRequests := by
  have hsum := Dict.sum_set_old (w := s.withStatus m r .completed) ActiveRequestSet.activeCount hh.set
  have hcount : (s.withStatus m r .completed).activeCount + 1 = s.activeCount := by
    calc (s.withStatus m r .completed).activeCount + 1 = (b.without s m r).activeMemberCount + 1 := by
          rw [Batch.without, activeMemberCount_withMembers]
      _ = b.activeMemberCount := hh.activeMemberCount_without h
      _ = s.activeCount := (h.setOf hh.batch hh.set).activeCount
  have htotal := h.total
  simp only [ContinuousBatchEngine.globalActiveRequestCount] at htotal
  change ((e.sets.set id (s.withStatus m r .completed)).values.map ActiveRequestSet.activeCount).sum < _
  omega

/-- an open batch that outlives the request is open after the retirement; if it held the request it has room -/
theorem Replaced.survives (hh : Replaced e r id b s m) (h : Inv cfg e) (retiredAt : Time) (events : List BatchEvent)
    {model : String} {b₀ : Batch} (hb₀ : b₀ ∈ e.openBatches model) (hnot : ¬b₀.endsWith r) (now : Time) :
    ∃ b' ∈ (e.without id b s m r retiredAt events).openBatches model,
      (b'.activeMemberCount < cfg.maxBatchSize ↔ b₀.activeMemberCount < cfg.maxBatchSize ∨ b₀.holds r) ∧
      (b'.windowClosed now ↔ b₀.windowClosed now) := by
  obtain ⟨id₀, hget, hmodel, hopen⟩ := mem_openBatches.1 hb₀
  have hholds := hh.holds_iff h hget
  by_cases hid : id₀ = id
  · subst hid
    rw [hh.batch] at hget
    cases hget
    have hclosed : ¬(b.without s m r).closes (s.withStatus m r .completed) .completed := by rwa [hh.closes_iff h]
    have hget' : (e.without id₀ b s m r retiredAt events).batches.get? id₀ = some (b.without s m r) := by
      refine (Dict.get?_set_self _ _ _).trans ?_
      exact congrArg some (if_neg hclosed)
    have hcount := hh.activeMemberCount_without h
    have hcap := (h.setOf hh.batch hh.set).cap
    refine ⟨b.without s m r, mem_openBatches.2 ⟨id₀, hget', hmodel, hopen⟩, ?_, Iff.rfl⟩
    constructor
    · intro _
      exact Or.inr (hholds.2 rfl)
    · intro _
      omega
  · have hget' : (e.without id b s m r retiredAt events).batches.get? id₀ = some b₀ :=
      (Dict.get?_set_ne _ _ hid).trans hget
    refine ⟨b₀, mem_openBatches.2 ⟨id₀, hget', hmodel, hopen⟩, ?_, Iff.rfl⟩
    constructor
    · exact Or.inl
    · rintro (hroom | hheld)
      · exact hroom
      · exact absurd (hholds.1 hheld) hid

/-- and the retirement opens no batch -/
theorem Replaced.origin (hh : Replaced e r id b s m) (h : Inv cfg e) {retiredAt : Time} {events : List BatchEvent}
    {model : String} {b' : Batch} (hb' : b' ∈ (e.without id b s m r retiredAt events).openBatches model) :
    ∃ b₀ ∈ e.openBatches model, ¬b₀.endsWith r := by
  obtain ⟨id', hget, hmodel, hopen⟩ := mem_openBatches.1 hb'
  by_cases hid : id' = id
  · subst hid
    obtain rfl : (b.without s m r).afterRetirement (s.withStatus m r .completed) .completed "request_completed"
        retiredAt = b' := by
      rw [← Option.some.injEq, ← hget]
      exact (Dict.get?_set_self _ _ _).symm
    rw [Batch.afterRetirement_isOpen, hh.closes_iff h] at hopen
    rw [Batch.afterRetirement_model] at hmodel
    exact ⟨b, mem_openBatches.2 ⟨id', hh.batch, hmodel, hopen.1⟩, hopen.2⟩
  · have hget₀ : e.batches.get? id' = some b' := (Dict.get?_set_ne _ _ hid).symm.trans hget
    refine ⟨b', mem_openBatches.2 ⟨id', hget₀, hmodel, hopen⟩, ?_⟩
    rintro ⟨-, -, hheld⟩
    exact hid ((hh.holds_iff h hget₀).1 hheld)

theorem Replaced.inv (hh : Replaced e r id b s m) (h : Inv cfg e) (retiredAt : Time) (events : List BatchEvent) :
    Inv cfg (e.without id b s m r retiredAt events) :=
  h.retired hh.toHolds (by decide) _ _ _

/-- after the retirement the placement takes effect exactly when the state before it is replaceable -/
theorem Replaced.takesEffect_iff (hh : Replaced e r id b s m) (h : Inv cfg e) (retiredAt : Time)
    (events : List BatchEvent) :
    TakesEffect cfg inj now item (e.without id b s m r retiredAt events) ↔ Replaceable cfg inj now e r item := by
  have h' := hh.inv h retiredAt events
  have hsurvives := fun (b₀ : Batch) (hb₀ : b₀ ∈ e.openBatches item.inferenceRequest.model) hnot =>
    hh.survives h retiredAt events hb₀ hnot now
  rw [Batching.takesEffect_iff h' (hh.globalActiveRequestCount_lt h retiredAt events)]
  constructor
  · rintro ⟨hinj, hunbatched, htakes, hcreates⟩
    refine ⟨hinj, hunbatched, fun b₀ hb₀ hnot => ?_, fun hall => hcreates ?_⟩
    · obtain ⟨b', hb', hroom, hwindow⟩ := hsurvives b₀ hb₀ hnot
      obtain ⟨hroom', hwindow'⟩ := htakes b' hb'
      exact ⟨hroom.1 hroom', fun hclosed => hwindow' (hwindow.2 hclosed)⟩
    · rw [List.eq_nil_iff_forall_not_mem]
      intro b' hb'
      obtain ⟨b₀, hb₀, hnot⟩ := hh.origin h hb'
      exact hnot (hall b₀ hb₀)
  · intro hrep
    refine ⟨hrep.notInjected, hrep.unbatched, fun b' hb' => ?_, fun hnil => hrep.creates fun b₀ hb₀ => ?_⟩
    · obtain ⟨b₀, hb₀, hnot⟩ := hh.origin h hb'
      obtain ⟨b'', hb'', hroom, hwindow⟩ := hsurvives b₀ hb₀ hnot
      obtain ⟨hroom₀, hwindow₀⟩ := hrep.takes b₀ hb₀ hnot
      rw [h'.openBatches_unique hb' hb'']
      exact ⟨hroom.2 hroom₀, fun hclosed => hwindow₀ (hwindow.1 hclosed)⟩
    · by_contra hnot
      obtain ⟨b', hb', -⟩ := hsurvives b₀ hb₀ hnot
      rw [hnil] at hb'
      cases hb'

/-! ## The replacement -/

/-- of an ACTIVE request: it is retired, and then the item's placement is tried -/
theorem Replaced.final_replaceRequest (hh : Replaced e r id b s m) (h : Inv cfg e) (inj : FailureInjectionConfig)
    (item : QueueItem) (retiredAt now : Time) :
    ∃ events, (replaceRequest cfg inj r item retiredAt now).final e =
      (placeSelected cfg inj now item).final (e.without id b s m r retiredAt events) := by
  obtain ⟨result, events, hsuccess, hrun⟩ := retireRequest_run .completed "request_completed" retiredAt hh.request
    hh.batch hh.set hh.member (h.setOf hh.batch hh.set).notCreated
  refine ⟨events, ?_⟩
  have hcomplete : EStateM.run (completeRequest r retiredAt) e =
      .ok result (e.without id b s m r retiredAt events) := hrun
  simp only [replaceRequest, EngineM.final, EStateM.run_bind, hcomplete, if_pos hsuccess]
  cases EStateM.run (placeSelected cfg inj now item) (e.without id b s m r retiredAt events) with
  | ok outcome e' => rfl
  | error err e' => rfl

theorem Replaced.not_isActive (hh : Replaced e r id b s m) (h : Inv cfg e) (retiredAt : Time)
    (events : List BatchEvent) :
    ¬(e.without id b s m r retiredAt events).isActive r := by
  intro hactive
  exact ((isActive_retired h hh.toHolds (by decide) _ _ _ _).1 hactive).2 rfl

/-- the call does all or nothing exactly when its placement takes effect -/
theorem Replaced.allOrNothing_iff (hh : Replaced e r id b s m) (h : Inv cfg e) (retiredAt : Time)
    (events : List BatchEvent) :
    AllOrNothing e ((placeSelected cfg inj now item).final (e.without id b s m r retiredAt events)) r item.requestId ↔
      TakesEffect cfg inj now item (e.without id b s m r retiredAt events) := by
  have h' := hh.inv h retiredAt events
  have hgone := hh.not_isActive h retiredAt events
  set e₁ := e.without id b s m r retiredAt events with he₁
  have hplaced : Placed (fun rid => rid = item.requestId) e₁ ((placeSelected cfg inj now item).final e₁) :=
    placed_placeSelected h' inj now rfl
  have hretired : ¬((placeSelected cfg inj now item).final e₁).isActive r := by
    intro hactive
    rcases hplaced.enteredActive hactive with hactive | ⟨-, hunbatched⟩
    · exact hgone hactive
    · have hbatched : e₁.requestToBatch.get? r = some id := hh.request
      rw [hbatched] at hunbatched
      cases hunbatched
  constructor
  · rintro (⟨-, hunbatched, hactive⟩ | ⟨hactive, -⟩)
    · -- the item is a member, and was not one before: the placement has put it there
      have hnot : ¬e₁.isActive item.requestId := by
        intro hactive₁
        obtain ⟨id', hid'⟩ := h'.batched_of_isActive hactive₁
        have hid : e.requestToBatch.get? item.requestId = some id' := hid'
        rw [hunbatched] at hid
        cases hid
      have hsame : ∀ events', ¬(e₁.logged events').isActive item.requestId := fun _ => hnot
      rcases placeSelected_cases h' inj now item with ⟨d, events', hrun, -⟩ | ⟨err, events', hrun, -⟩ |
        ⟨batch, e₀, id', b', s', reason, events', hadmits, -⟩
      · rw [EngineM.final_ok hrun] at hactive
        exact absurd hactive (hsame events')
      · rw [EngineM.final_error hrun] at hactive
        exact absurd hactive (hsame events')
      · exact ⟨batch, hadmits⟩
    · exact absurd hactive hretired
  · rintro ⟨batch, hadmits, hcreation⟩
    refine Or.inl ⟨hretired, hadmits.unbatched, ?_⟩
    rcases placeSelected_reports h' inj now item with ⟨d, e', -, -, hno, -⟩ | ⟨err, e', -, hnone, hinjected, -⟩ |
      ⟨batch', outcome, e', hrun, -, -, -, -, hactive, -⟩
    · exact absurd hadmits (hno batch)
    · obtain rfl : batch = none := hadmits.found.symm.trans hnone.found
      rw [hcreation rfl] at hinjected
      cases hinjected
    · rw [EngineM.final_ok hrun]
      exact hactive

/-- **When a replacement is all or nothing.** In every state that the engine can reach, for every ACTIVE request, every
queue item, every clock reading and every failure injection. -/
theorem replacement_iff (cfg : EngineConfig) (ops : List EngineOp) (inj : FailureInjectionConfig) (r : UUID)
    (item : QueueItem) (retiredAt now : Time)
    (hr : (run (ContinuousBatchEngine.step cfg) ContinuousBatchEngine.init ops).isActive r) :
    AllOrNothing (run (ContinuousBatchEngine.step cfg) ContinuousBatchEngine.init ops)
        ((replaceRequest cfg inj r item retiredAt now).final
          (run (ContinuousBatchEngine.step cfg) ContinuousBatchEngine.init ops)) r item.requestId ↔
      Replaceable cfg inj now (run (ContinuousBatchEngine.step cfg) ContinuousBatchEngine.init ops) r item := by
  have h := run_inv cfg ops
  obtain ⟨id, b, s, m, hh⟩ := h.replaced hr
  obtain ⟨events, hfinal⟩ := hh.final_replaceRequest h inj item retiredAt now
  rw [hfinal]
  exact (hh.allOrNothing_iff h retiredAt events).trans (hh.takesEffect_iff h retiredAt events)

/-- a full ACTIVE batch of one model, and a batch of another with one member -/
def fullBatchOps : List EngineOp :=
  [.placeSelected {} 0 (plainItem 1 "m"), .placeSelected {} 0 (plainItem 2 "m"), .placeSelected {} 0 (plainItem 3 "n")]

theorem replacement_iff_same_model :
    (run (ContinuousBatchEngine.step smallConfig) ContinuousBatchEngine.init fullBatchOps).isActive 1 ∧
      AllOrNothing (run (ContinuousBatchEngine.step smallConfig) ContinuousBatchEngine.init fullBatchOps)
        ((replaceRequest smallConfig {} 1 (plainItem 4 "m") 1 1).final
          (run (ContinuousBatchEngine.step smallConfig) ContinuousBatchEngine.init fullBatchOps)) 1 4 := by
  have hactive : (run (ContinuousBatchEngine.step smallConfig) ContinuousBatchEngine.init fullBatchOps).isActive 1 := by
    decide
  exact ⟨hactive, (replacement_iff smallConfig fullBatchOps {} 1 (plainItem 4 "m") 1 1 hactive).2 (by decide)⟩

/-- **A replacement that only retires.** Request 3 is to make room for an item of the other model, whose batch is full:
it is retired, and the item is refused. Likewise for an item that a batch holds already. -/
theorem retired_without_replacement :
    let e := run (ContinuousBatchEngine.step smallConfig) ContinuousBatchEngine.init fullBatchOps
    e.isActive 3 ∧
      ¬AllOrNothing e ((replaceRequest smallConfig {} 3 (plainItem 4 "m") 1 1).final e) 3 4 ∧
      ¬AllOrNothing e ((replaceRequest smallConfig {} 3 (plainItem 1 "m") 1 1).final e) 3 1 := by
  intro e
  have hlost : ∀ c, ¬((replaceRequest smallConfig {} 3 (plainItem c "m") 1 1).final e).isActive 3 →
      (¬((replaceRequest smallConfig {} 3 (plainItem c "m") 1 1).final e).isActive c ∨
        e.requestToBatch.get? c ≠ none) →
      ¬AllOrNothing e ((replaceRequest smallConfig {} 3 (plainItem c "m") 1 1).final e) 3 c := by
    rintro c hgone hnot (⟨-, hunbatched, hactive⟩ | ⟨hactive, -⟩)
    · rcases hnot with hnot | hbatched
      · exact hnot hactive
      · exact hbatched hunbatched
    · exact hgone hactive
  exact ⟨by decide, hlost 4 (by decide) (Or.inl (by decide)), hlost 1 (by decide) (Or.inr (by decide))⟩

end InferencePlatform.Batching
