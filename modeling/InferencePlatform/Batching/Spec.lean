/-
What each engine operation does, once and for all.

The engine's operations are written as the source has them, step by step in `EngineM`. This file runs them: on a state
whose tables agree on the batch concerned, an operation ends in one of a few states, each given as one record update.
- `opened`: a new FILLING batch, named by the model's pointer;
- `joined`: a request has become a member of a batch (which may have been activated by it);
- `retired`: a member's status has been overwritten (which may have closed its batch).
`placeSelected_cases` and `retireRequest_cases` are the case analyses that every invariant below goes through; nothing
after this file unfolds an operation.
-/
import InferencePlatform.Batching.Engine

namespace InferencePlatform.Batching

open InferencePlatform.Core (Dict firstFree)

variable {cfg : BatchAdmissionConfig} {e : ContinuousBatchEngine}

/-! ## The elementary steps -/

@[simp] theorem EngineM.run_throw {α : Type} (err : EngineError) (e : ContinuousBatchEngine) :
    EStateM.run (throw err : EngineM α) e = .error err e := rfl

@[simp] theorem emit_run (event : BatchEvent) (e : ContinuousBatchEngine) :
    EStateM.run (emit event) e = .ok () { e with events := e.events ++ [event] } := rfl

@[simp] theorem uuid4_run (e : ContinuousBatchEngine) :
    EStateM.run uuid4 e = .ok e.uuids { e with uuids := e.uuids + 1 } := rfl

@[simp] theorem lookup_run {α : Type} (d : Dict UUID α) (key : UUID) (e : ContinuousBatchEngine) :
    EStateM.run (lookup d key) e =
      match d.get? key with
      | some v => .ok v e
      | none => .error (.keyError key) e := by
  unfold lookup
  cases d.get? key <;> rfl

@[simp] theorem derefBatch_run (id : UUID) (e : ContinuousBatchEngine) :
    EStateM.run (derefBatch id) e =
      match e.batches.get? id with
      | some b => .ok b e
      | none => .error (.keyError id) e := by
  simp only [derefBatch, EStateM.run_bind, EStateM.run_get, lookup_run]
  cases e.batches.get? id <;> rfl

@[simp] theorem updateBatch_run (id : UUID) (f : Batch → Batch) (e : ContinuousBatchEngine) :
    EStateM.run (updateBatch id f) e =
      match e.batches.get? id with
      | some b => .ok () { e with batches := e.batches.set id (f b) }
      | none => .error (.keyError id) e := by
  simp only [updateBatch, EStateM.run_bind, derefBatch_run]
  cases e.batches.get? id <;> rfl

theorem setBatchState_run {id : UUID} {b : Batch} (h : e.batches.get? id = some b) {toState : BatchState}
    (ht : canTransition b.state toState = true) :
    EStateM.run (setBatchState id toState) e =
      .ok () { e with batches := e.batches.set id { b with context := { b.context with state := toState } } } := by
  simp only [setBatchState, EStateM.run_bind, derefBatch_run, h, transition, ht, if_true, EStateM.run_pure,
    updateBatch_run]

/-! ## Opening a batch -/

/-- a batch as `createBatch` leaves it -/
def freshBatch (cfg : BatchAdmissionConfig) (id : UUID) (model : String) (now : Time) : Batch :=
  { context :=
      { batchId := id, model, state := .filling, createdAt := now
        admissionWindowEnd := now + microseconds cfg.batchAdmissionWindowMs } }

def ContinuousBatchEngine.opened (cfg : BatchAdmissionConfig) (e : ContinuousBatchEngine) (model : String)
    (now : Time) : ContinuousBatchEngine :=
  { e with
    batches := e.batches.set e.uuids (freshBatch cfg e.uuids model now)
    sets := e.sets.set e.uuids ActiveRequestSet.empty
    activeBatchByModel := e.activeBatchByModel.set model e.uuids
    events := e.events ++
      [{ eventType := .batchCreated, batchId := e.uuids, model, decisionReason := "new_batch" },
        { eventType := .batchAdmission, batchId := e.uuids, model, decisionReason := "batch_opened" }]
    uuids := e.uuids + 1 }

theorem createBatch_run (cfg : BatchAdmissionConfig) (e : ContinuousBatchEngine) (model : String) (now : Time) :
    EStateM.run (createBatch cfg model now) e = .ok e.uuids (e.opened cfg model now) := by
  simp only [createBatch, EStateM.run_bind, uuid4_run, EStateM.run_modify, emit_run]
  rw [setBatchState_run (Dict.get?_set_self _ _ _) rfl]
  simp only [Dict.set_set, EStateM.run_pure, List.append_assoc, List.singleton_append]
  rfl

/-! ## Joining a batch -/

/-- a member admitted while the batch is FILLING activates it when it fills the batch or ends the window -/
def Batch.activates (cfg : BatchAdmissionConfig) (b : Batch) (now : Time) : Prop :=
  b.state = .filling ∧ (cfg.maxBatchSize ≤ b.activeMemberCount ∨ b.context.admissionWindowEnd ≤ now)

instance (b : Batch) (now : Time) : Decidable (b.activates cfg now) := inferInstanceAs (Decidable (_ ∧ _))

def Batch.afterAdmission (cfg : BatchAdmissionConfig) (b : Batch) (now : Time) : Batch :=
  if b.activates cfg now then { b with context := { b.context with state := .active, activatedAt := some now } } else b

theorem activateBatch_run {id : UUID} {b : Batch} (now : Time)
    (h : e.batches.get? id = some b) (hs : b.state = .ready) :
    EStateM.run (activateBatch id now) e = .ok () { e with
      batches := e.batches.set id { b with context := { b.context with state := .active, activatedAt := some now } }
      activeBatchByModel := e.activeBatchByModel.set b.context.model id } := by
  have ht : canTransition b.state .active = true := by rw [hs]; rfl
  simp only [activateBatch, EStateM.run_bind, derefBatch_run, h, hs, if_true, setBatchState_run h ht,
    updateBatch_run, Dict.get?_set_self, Dict.set_set, EStateM.run_modify]

/-- FILLING to READY to ACTIVE, in one go -/
theorem activate_from_filling {id : UUID} {b : Batch} (now : Time)
    (h : e.batches.get? id = some b) (hs : b.state = .filling) :
    EStateM.run (do setBatchState id .ready; activateBatch id now) e = .ok () { e with
      batches := e.batches.set id { b with context := { b.context with state := .active, activatedAt := some now } }
      activeBatchByModel := e.activeBatchByModel.set b.context.model id } := by
  have ht : canTransition b.state .ready = true := by rw [hs]; rfl
  rw [EStateM.run_bind, setBatchState_run h ht]
  simp only
  rw [activateBatch_run now (Dict.get?_set_self _ _ _) rfl]
  simp only [Dict.set_set]

/-- what is announced of a FILLING batch that an admission has filled -/
def fullEvents (cfg : BatchAdmissionConfig) (b : Batch) (id : UUID) : List BatchEvent :=
  if b.state = .filling ∧ cfg.maxBatchSize ≤ b.activeMemberCount then
    [{ eventType := .batchFull, batchId := id, model := b.context.model, decisionReason := "max_batch_size_reached" }]
  else []

theorem advanceBatchAfterAdmission_run (cfg : BatchAdmissionConfig) {id : UUID} {b : Batch} (now : Time)
    (h : e.batches.get? id = some b) (hs : b.state = .filling ∨ b.state = .active) :
    EStateM.run (advanceBatchAfterAdmission cfg id now) e = .ok () { e with
      batches := e.batches.set id (b.afterAdmission cfg now)
      activeBatchByModel :=
        if b.activates cfg now then e.activeBatchByModel.set b.context.model id else e.activeBatchByModel
      events := e.events ++ fullEvents cfg b id } := by
  have hsame : e.batches.set id b = e.batches := Dict.set_get? h
  simp only [advanceBatchAfterAdmission, EStateM.run_bind, derefBatch_run, h]
  rcases hs with hs | hs
  · by_cases hfull : cfg.maxBatchSize ≤ b.activeMemberCount
    · have ha : b.activates cfg now := ⟨hs, Or.inl hfull⟩
      have hevents : fullEvents cfg b id = [{ eventType := .batchFull, batchId := id, model := b.context.model
                                              decisionReason := "max_batch_size_reached" }] := if_pos ⟨hs, hfull⟩
      simp only [hs, if_true, hfull, EStateM.run_bind, emit_run, ha, Batch.afterAdmission, hevents]
      exact activate_from_filling now h hs
    · have hevents : fullEvents cfg b id = [] := if_neg fun hc => hfull hc.2
      rw [hevents, List.append_nil]
      by_cases hwin : b.context.admissionWindowEnd ≤ now
      · have ha : b.activates cfg now := ⟨hs, Or.inr hwin⟩
        simp only [hs, if_true, hfull, if_false, hwin, ha, Batch.afterAdmission]
        exact activate_from_filling now h hs
      · have ha : ¬b.activates cfg now := fun h => h.2.elim hfull hwin
        simp only [hs, if_true, hfull, if_false, hwin, ha, Batch.afterAdmission, hsame]
        rfl
  · have ha : ¬b.activates cfg now := by simp [Batch.activates, hs]
    have hevents : fullEvents cfg b id = [] := if_neg fun hc => by simp [hs] at hc
    simp [hs, ha, Batch.afterAdmission, hsame, hevents]

/-- the member an item becomes in a batch -/
def newMember (b : Batch) (item : QueueItem) (now : Time) : BatchMember :=
  { requestId := item.requestId, slotIndex := nextSlotIndex b, model := item.inferenceRequest.model
    correlationId := item.requestContext.traceId, addedAt := now }

def newAssignment (b : Batch) (item : QueueItem) : BatchAssignment :=
  { requestId := item.requestId, slotIndex := nextSlotIndex b, inferenceRequest := item.inferenceRequest }

def Batch.withMembers (b : Batch) (s : ActiveRequestSet) : Batch := { b with members := s.allMembers }

def ContinuousBatchEngine.withMember (e : ContinuousBatchEngine) (id : UUID) (b : Batch) (s : ActiveRequestSet)
    (item : QueueItem) (now : Time) (events : List BatchEvent) : ContinuousBatchEngine :=
  { e with
    batches := e.batches.set id (b.withMembers (s.insert (newMember b item now)))
    sets := e.sets.set id (s.insert (newMember b item now))
    requestToBatch := e.requestToBatch.set item.requestId id
    events }

/-- what is announced of a request that has joined a batch -/
def addedEvent (b : Batch) (item : QueueItem) (id : UUID) (reason : String) : BatchEvent :=
  { eventType := .requestAddedToBatch, batchId := id, requestId := item.requestId
    correlationId := item.requestContext.traceId, model := item.inferenceRequest.model
    decisionReason := reason, extra := some (.slotIndex (nextSlotIndex b)) }

theorem addMember_run (now : Time) {item : QueueItem} {id : UUID} (reason : String) {b : Batch}
    {s : ActiveRequestSet} (hb : e.batches.get? id = some b) (hs : e.sets.get? id = some s)
    (hnew : s.byId.get? item.requestId = none) :
    EStateM.run (addMember now item id reason) e =
      .ok (newMember b item now) (e.withMember id b s item now (e.events ++ [addedEvent b item id reason])) := by
  have hadd : s.addRequest (newMember b item now) = some (s.insert (newMember b item now)) := by
    simp [ActiveRequestSet.addRequest, ActiveRequestSet.contains, Dict.contains, newMember, hnew]
  simp only [newMember] at hadd
  simp only [addMember, EStateM.run_bind, derefBatch_run, hb, EStateM.run_get, lookup_run, hs, hadd,
    EStateM.run_modify, updateBatch_run, emit_run, EStateM.run_pure]
  rfl

/-- the engine after a request has joined a batch -/
def ContinuousBatchEngine.joined (cfg : BatchAdmissionConfig) (e : ContinuousBatchEngine) (id : UUID) (b : Batch)
    (s : ActiveRequestSet) (item : QueueItem) (now : Time) (events : List BatchEvent) : ContinuousBatchEngine :=
  let b' := b.withMembers (s.insert (newMember b item now))
  { e with
    batches := e.batches.set id (b'.afterAdmission cfg now)
    sets := e.sets.set id (s.insert (newMember b item now))
    requestToBatch := e.requestToBatch.set item.requestId id
    activeBatchByModel :=
      if b'.activates cfg now then e.activeBatchByModel.set b.context.model id else e.activeBatchByModel
    assignments := e.assignments.set item.requestId (newAssignment b item)
    events }

/-- what the caller is told: the injected fault reports a rejection of a request that has been placed -/
def addOutcome (inj : FailureInjectionConfig) (b : Batch) (item : QueueItem) (id : UUID) (reason : String) :
    PlacementOutcome :=
  if inj.isActive .schedulerInvalidBatchAssignment (some item.requestId) then
    .rejected { requestId := item.requestId, decisionReason := "invalid_batch_assignment"
                correlationId := item.requestContext.traceId, batchId := some id }
  else
    .placed { requestId := item.requestId, batchId := id, assignment := newAssignment b item
              decisionReason := reason, correlationId := item.requestContext.traceId }

/-- what is announced of an admission -/
def joinEvents (cfg : BatchAdmissionConfig) (id : UUID) (b : Batch) (s : ActiveRequestSet)
    (item : QueueItem) (now : Time) (reason : String) : List BatchEvent :=
  addedEvent b item id reason :: fullEvents cfg (b.withMembers (s.insert (newMember b item now))) id

theorem addSelected_emits (cfg : BatchAdmissionConfig) (inj : FailureInjectionConfig) (now : Time) (item : QueueItem)
    {id : UUID} (reason : String) {b : Batch} {s : ActiveRequestSet} (hb : e.batches.get? id = some b)
    (hs : e.sets.get? id = some s) (hnew : s.byId.get? item.requestId = none)
    (hst : b.state = .filling ∨ b.state = .active) :
    EStateM.run (addSelected cfg inj now item id reason) e =
      .ok (addOutcome inj b item id reason)
        (e.joined cfg id b s item now (e.events ++ joinEvents cfg id b s item now reason)) := by
  have hadd := addMember_run now reason hb hs hnew
  have hb' : (e.withMember id b s item now (e.events ++ [addedEvent b item id reason])).batches.get? id =
      some (b.withMembers (s.insert (newMember b item now))) := Dict.get?_set_self _ _ _
  have hadv := advanceBatchAfterAdmission_run cfg now hb' hst
  have hevents : e.events ++ joinEvents cfg id b s item now reason = e.events ++ [addedEvent b item id reason] ++
      fullEvents cfg (b.withMembers (s.insert (newMember b item now))) id := by
    rw [joinEvents, List.append_assoc, List.singleton_append]
  rw [hevents]
  simp only [addSelected, EStateM.run_bind, hadd, hadv, EStateM.run_modify]
  simp only [ContinuousBatchEngine.withMember, ContinuousBatchEngine.joined, Dict.set_set, addOutcome]
  by_cases hinj : inj.isActive .schedulerInvalidBatchAssignment (some item.requestId) = true
  · simp only [if_pos hinj, EStateM.run_pure]
    rfl
  · simp only [if_neg hinj, EStateM.run_pure]
    rfl

theorem addSelected_run (cfg : BatchAdmissionConfig) (inj : FailureInjectionConfig) (now : Time) (item : QueueItem)
    {id : UUID} (reason : String) {b : Batch} {s : ActiveRequestSet} (hb : e.batches.get? id = some b)
    (hs : e.sets.get? id = some s) (hnew : s.byId.get? item.requestId = none)
    (hst : b.state = .filling ∨ b.state = .active) :
    ∃ events, EStateM.run (addSelected cfg inj now item id reason) e =
      .ok (addOutcome inj b item id reason) (e.joined cfg id b s item now events) :=
  ⟨_, addSelected_emits cfg inj now item reason hb hs hnew hst⟩

/-! ## Placement -/

/-- nothing but the event log has changed -/
def ContinuousBatchEngine.logged (e : ContinuousBatchEngine) (events : List BatchEvent) : ContinuousBatchEngine :=
  { e with events }

/-- the request is admitted: into `batch`, or into a new batch when it is `none` -/
structure Admits (cfg : BatchAdmissionConfig) (inj : FailureInjectionConfig) (now : Time) (item : QueueItem)
    (e : ContinuousBatchEngine) (batch : Option Batch) : Prop where
  notInjected : inj.isActive .batchAdmissionFailure (some item.requestId) = false
  unbatched : e.requestToBatch.get? item.requestId = none
  found : e.findAdmittableBatch cfg item.inferenceRequest.model now = batch
  notFull : batch = none → e.activeFullBatch cfg item.inferenceRequest.model = none
  accept : (evaluateBatchAdmission batch e.globalActiveRequestCount cfg now).decision = .accept

instance (cfg : BatchAdmissionConfig) (inj : FailureInjectionConfig) (now : Time) (item : QueueItem)
    (e : ContinuousBatchEngine) (batch : Option Batch) : Decidable (Admits cfg inj now item e batch) :=
  decidable_of_iff (inj.isActive .batchAdmissionFailure (some item.requestId) = false ∧
      e.requestToBatch.get? item.requestId = none ∧ e.findAdmittableBatch cfg item.inferenceRequest.model now = batch ∧
      (batch = none → e.activeFullBatch cfg item.inferenceRequest.model = none) ∧
      (evaluateBatchAdmission batch e.globalActiveRequestCount cfg now).decision = .accept)
    ⟨fun ⟨h₁, h₂, h₃, h₄, h₅⟩ => ⟨h₁, h₂, h₃, h₄, h₅⟩,
      fun h => ⟨h.notInjected, h.unbatched, h.found, h.notFull, h.accept⟩⟩

theorem checkSelected_run (cfg : BatchAdmissionConfig) (inj : FailureInjectionConfig) (now : Time) (item : QueueItem)
    (e : ContinuousBatchEngine) :
    ∃ result events, EStateM.run (checkSelected cfg inj now item) e = .ok result (e.logged events) ∧
      (∀ batch, (∃ reason, result = .ok (batch, reason)) ↔ Admits cfg inj now item e batch) ∧
      (e.requestToBatch.contains item.requestId = true →
        inj.isActive .batchAdmissionFailure (some item.requestId) = false →
          result = .error { requestId := item.requestId, decisionReason := "request_already_batched"
                            correlationId := item.requestContext.traceId }) ∧
      ∀ d, result = .error d → d.requestId = item.requestId := by
  have hnamed : ∀ (d : BatchRejectionDecision) (named : d.requestId = item.requestId) (d' : BatchRejectionDecision),
      (.error d : Except BatchRejectionDecision (Option Batch × String)) = .error d' →
        d'.requestId = item.requestId := by
    intro d named d' h
    cases h
    exact named
  have hrefused : ∀ (d : BatchRejectionDecision) (batch : Option Batch), (∃ reason : String,
      (.error d : Except BatchRejectionDecision (Option Batch × String)) = .ok (batch, reason)) →
      Admits cfg inj now item e batch := by
    rintro d batch ⟨_, h⟩
    cases h
  simp only [checkSelected, EStateM.run_bind, EStateM.run_get]
  by_cases hinj : inj.isActive .batchAdmissionFailure (some item.requestId) = true
  · simp only [if_pos hinj, EStateM.run_pure]
    refine ⟨_, e.events, rfl, fun batch => ⟨hrefused _ batch, fun h => ?_⟩, fun _ h => ?_, hnamed _ rfl⟩
    · exact absurd h.notInjected (by simp [hinj])
    · simp [hinj] at h
  simp only [if_neg hinj]
  by_cases hin : e.requestToBatch.contains item.requestId = true
  · simp only [if_pos hin, EStateM.run_pure]
    refine ⟨_, e.events, rfl, fun batch => ⟨hrefused _ batch, fun h => ?_⟩, fun _ _ => rfl, hnamed _ rfl⟩
    exact absurd h.unbatched (by simpa [Dict.contains, Option.isSome_iff_ne_none] using hin)
  have hnone : e.requestToBatch.get? item.requestId = none := by simpa [Dict.contains] using hin
  simp only [if_neg hin]
  cases hfull : (if (e.findAdmittableBatch cfg item.inferenceRequest.model now).isNone then
      e.activeFullBatch cfg item.inferenceRequest.model else none) with
  | some full =>
    simp only [EStateM.run_bind, emit_run, EStateM.run_pure]
    refine ⟨_, _, rfl, fun batch => ⟨hrefused _ batch, fun h => ?_⟩, fun h => absurd h hin, hnamed _ rfl⟩
    rw [h.found] at hfull
    cases batch with
    | none => simp [h.notFull rfl] at hfull
    | some b => simp at hfull
  | none =>
    simp only
    split_ifs with hrej
    · simp only [EStateM.run_bind, emit_run, EStateM.run_pure]
      refine ⟨_, _, rfl, fun batch => ⟨hrefused _ batch, fun h => ?_⟩, fun h => absurd h hin, hnamed _ rfl⟩
      rw [h.found, h.accept] at hrej
      cases hrej
    · refine ⟨_, e.events, rfl, fun batch => ⟨fun hok => ?_, fun h => ?_⟩, fun h => absurd h hin, by simp⟩
      · obtain ⟨_, h⟩ := hok
        simp only [Except.ok.injEq, Prod.mk.injEq] at h
        obtain ⟨rfl, rfl⟩ := h
        refine ⟨by simpa using hinj, hnone, rfl, fun hb => by simpa [hb] using hfull, ?_⟩
        generalize (evaluateBatchAdmission _ _ _ _).decision = d at hrej
        cases d with
        | accept => rfl
        | reject => exact absurd rfl hrej
      · exact ⟨_, by rw [h.found]⟩

/-! ## Retirement -/

/-- a retirement closes the batch when it is a failure of an open batch, or leaves an ACTIVE batch empty -/
def Batch.closes (b : Batch) (s : ActiveRequestSet) (status : MemberStatus) : Prop :=
  if status = .failed then b.state ∉ batchTerminalStates else s.activeCount = 0 ∧ b.state = .active

instance (b : Batch) (s : ActiveRequestSet) (status : MemberStatus) : Decidable (b.closes s status) :=
  inferInstanceAs (Decidable (ite _ _ _))

def Batch.afterRetirement (b : Batch) (s : ActiveRequestSet) (status : MemberStatus) (reason : String) (now : Time) :
    Batch :=
  if b.closes s status then
    if status = .failed then { b with context := { b.context with state := .failed, failureReason := some reason } }
    else { b with context := { b.context with state := .completed, completedAt := some now } }
  else b

def ActiveRequestSet.withStatus (s : ActiveRequestSet) (m : BatchMember) (requestId : UUID) (status : MemberStatus) :
    ActiveRequestSet :=
  ⟨s.byId.set requestId { m with status }⟩

/-- the engine after a member's status has been overwritten -/
def ContinuousBatchEngine.retired (e : ContinuousBatchEngine) (id : UUID) (b : Batch) (s : ActiveRequestSet)
    (status : MemberStatus) (reason : String) (now : Time) (events : List BatchEvent) : ContinuousBatchEngine :=
  { e with
    batches := e.batches.set id ((b.withMembers s).afterRetirement s status reason now)
    sets := e.sets.set id s
    activeBatchByModel := if b.closes s status then e.activeBatchByModel.pop b.context.model else e.activeBatchByModel
    events }

/-- what is announced of a batch that a retirement closes -/
def closeEvents (b : Batch) (s : ActiveRequestSet) (status : MemberStatus) (reason : String) (id : UUID) :
    List BatchEvent :=
  if b.closes s status then
    if status = .failed then
      [{ eventType := .batchFailed, batchId := id, model := b.context.model, decisionReason := reason
         extra := some (.previousState b.state) }]
    else
      [{ eventType := .batchCompleted, batchId := id, model := b.context.model, decisionReason := "all_members_retired"
         extra := some (.previousState b.state) }]
  else []

theorem closeBatch_run {id : UUID} {b : Batch} (s : ActiveRequestSet) (status : MemberStatus) (reason : String)
    (now : Time) (h : e.batches.get? id = some b) (hst : b.state ≠ .created) :
    EStateM.run (closeBatch id s status reason now) e = .ok () { e with
      batches := e.batches.set id (b.afterRetirement s status reason now)
      activeBatchByModel := if b.closes s status then e.activeBatchByModel.pop b.context.model else e.activeBatchByModel
      events := e.events ++ closeEvents b s status reason id } := by
  have hsame : e.batches.set id b = e.batches := Dict.set_get? h
  by_cases hf : status = .failed
  · simp only [closeBatch, if_pos hf, failBatch, EStateM.run_bind, derefBatch_run, h,
      Batch.afterRetirement, closeEvents, Batch.closes]
    by_cases hterm : b.state ∈ batchTerminalStates
    · simp only [hterm, not_true_eq_false, if_false, hsame, List.append_nil]
      rfl
    · have ht : canTransition b.state .failed = true := by
        revert hst hterm
        cases b.state <;> decide
      simp only [hterm, not_false_eq_true, if_true, EStateM.run_bind, setBatchState_run h ht, updateBatch_run,
        Dict.get?_set_self, Dict.set_set, EStateM.run_modify, emit_run]
  · simp only [closeBatch, if_neg hf, EStateM.run_bind, derefBatch_run, h, Batch.afterRetirement,
      closeEvents, Batch.closes]
    by_cases hc : s.activeCount = 0 ∧ b.state = .active
    · have ht : canTransition b.state .completed = true := by rw [hc.2]; rfl
      have hterm : b.state ∉ batchTerminalStates := by rw [hc.2]; decide
      simp only [if_pos hc, completeBatch, EStateM.run_bind, derefBatch_run, h, hterm, not_false_eq_true, if_true,
        setBatchState_run h ht, updateBatch_run, Dict.get?_set_self, Dict.set_set, EStateM.run_modify, emit_run]
    · simp only [if_neg hc, hsame, List.append_nil]
      rfl

/-- what is announced of a member that is retired -/
def removedEvent (m : BatchMember) (id requestId : UUID) (status : MemberStatus) (reason : String) : BatchEvent :=
  { eventType := .requestRemovedFromBatch, batchId := id, requestId, correlationId := m.correlationId, model := m.model
    decisionReason := reason, extra := some (.memberStatus status) }

theorem setMemberStatus_run {requestId id : UUID} {b : Batch} {s : ActiveRequestSet} {m : BatchMember}
    (status : MemberStatus) (reason : String) (hb : e.batches.get? id = some b) (hs : e.sets.get? id = some s)
    (hm : s.byId.get? requestId = some m) :
    EStateM.run (setMemberStatus id requestId status reason) e =
      .ok (some (s.withStatus m requestId status)) { e with
        batches := e.batches.set id (b.withMembers (s.withStatus m requestId status))
        sets := e.sets.set id (s.withStatus m requestId status)
        events := e.events ++ [removedEvent m id requestId status reason] } := by
  have hset : s.setStatus requestId status = some ({ m with status }, s.withStatus m requestId status) := by
    simp [ActiveRequestSet.setStatus, hm, ActiveRequestSet.withStatus]
  simp only [setMemberStatus, EStateM.run_bind, EStateM.run_get, lookup_run, hs, hset, EStateM.run_modify,
    updateBatch_run, hb, emit_run, EStateM.run_pure]
  rfl

/-- what is announced of a retirement -/
def retireEvents (id : UUID) (b : Batch) (s : ActiveRequestSet) (m : BatchMember) (requestId : UUID)
    (status : MemberStatus) (reason : String) : List BatchEvent :=
  removedEvent m id requestId status reason :: closeEvents (b.withMembers s) s status reason id

theorem retireRequest_emits {requestId id : UUID} {b : Batch} {s : ActiveRequestSet} {m : BatchMember}
    (status : MemberStatus) (reason : String) (now : Time) (hr : e.requestToBatch.get? requestId = some id)
    (hb : e.batches.get? id = some b) (hs : e.sets.get? id = some s) (hm : s.byId.get? requestId = some m)
    (hst : b.state ≠ .created) :
    ∃ result, result.success = true ∧ EStateM.run (retireRequest requestId status reason now) e =
      .ok result (e.retired id b (s.withStatus m requestId status) status reason now
        (e.events ++ retireEvents id b (s.withStatus m requestId status) m requestId status reason)) := by
  have hset := setMemberStatus_run status reason hb hs hm
  set s' := s.withStatus m requestId status
  have hb' : (e.batches.set id (b.withMembers s')).get? id = some (b.withMembers s') := Dict.get?_set_self _ _ _
  have hclose := closeBatch_run (e := { e with
    batches := e.batches.set id (b.withMembers s'), sets := e.sets.set id s'
    events := e.events ++ [removedEvent m id requestId status reason] }) s' status reason now hb' hst
  have hevents : e.events ++ retireEvents id b s' m requestId status reason =
      e.events ++ [removedEvent m id requestId status reason] ++
        closeEvents (b.withMembers s') s' status reason id := by
    rw [retireEvents, List.append_assoc, List.singleton_append]
  rw [hevents]
  simp only [retireRequest, EStateM.run_bind, EStateM.run_get, hr, derefBatch_run, hb, hset, hclose,
    Dict.get?_set_self, EStateM.run_pure, Dict.set_set]
  exact ⟨_, rfl, rfl⟩

theorem retireRequest_run {requestId id : UUID} {b : Batch} {s : ActiveRequestSet} {m : BatchMember}
    (status : MemberStatus) (reason : String) (now : Time) (hr : e.requestToBatch.get? requestId = some id)
    (hb : e.batches.get? id = some b) (hs : e.sets.get? id = some s) (hm : s.byId.get? requestId = some m)
    (hst : b.state ≠ .created) :
    ∃ result events, result.success = true ∧ EStateM.run (retireRequest requestId status reason now) e =
      .ok result (e.retired id b (s.withStatus m requestId status) status reason now events) := by
  obtain ⟨result, hsuccess, hrun⟩ := retireRequest_emits status reason now hr hb hs hm hst
  exact ⟨result, _, hsuccess, hrun⟩

theorem retireRequest_unbatched {requestId : UUID} (status : MemberStatus) (reason : String) (now : Time)
    (h : e.requestToBatch.get? requestId = none) :
    EStateM.run (retireRequest requestId status reason now) e =
      .ok { batchId := e.uuids, requestId, success := false, decisionReason := "request_not_in_batch" }
        { e with uuids := e.uuids + 1 } := by
  simp only [retireRequest, EStateM.run_bind, EStateM.run_get, h, uuid4_run, EStateM.run_pure]

end InferencePlatform.Batching
