/-
Continuous batching engine: accepts scheduler-selected requests into managed batches. No inference execution.

Every public operation holds the engine's lock from end to end, so it is one atomic step on the engine's state. An
operation that raises leaves the state it has reached (`EStateM` keeps it), as the Python object does. A batch is
mutated in place there; here `updateBatch` rewrites the record under its id.

Left out: metrics gauges and spans, which no operation reads back. The event log keeps what the emitter is called with.
-/
import InferencePlatform.Batching.Models
import InferencePlatform.Core.FirstFree

namespace InferencePlatform.Batching

open InferencePlatform.Core (Dict firstFree)

/-! ## State -/

inductive EngineError
  | invalidBatchTransition (fromState toState : BatchState)
  | keyError (key : UUID)
  | requestAlreadyInBatch (requestId : UUID)
  | injectedFailure (point : FailurePoint) (message : String)
  deriving DecidableEq, Repr

inductive BatchEventType
  | batchCreated | batchAdmission | batchFull | requestAddedToBatch | requestRemovedFromBatch | batchCompleted
  | batchFailed
  deriving DecidableEq, Repr

inductive BatchEventExtra
  | slotIndex (index : ℕ)
  | memberStatus (status : MemberStatus)
  | previousState (state : BatchState)
  deriving DecidableEq, Repr

structure BatchEvent where
  eventType : BatchEventType
  batchId : Option UUID := none
  requestId : Option UUID := none
  correlationId : Option String := none
  model : Option String := none
  decisionReason : Option String := none
  extra : Option BatchEventExtra := none
  deriving DecidableEq, Repr

structure ContinuousBatchEngine where
  batches : Dict UUID Batch
  sets : Dict UUID ActiveRequestSet
  requestToBatch : Dict UUID UUID
  activeBatchByModel : Dict String UUID
  assignments : Dict UUID BatchAssignment
  events : List BatchEvent
  /-- how many times `uuid4()` has been called -/
  uuids : ℕ

def ContinuousBatchEngine.init : ContinuousBatchEngine :=
  ⟨Dict.empty, Dict.empty, Dict.empty, Dict.empty, Dict.empty, [], 0⟩

abbrev EngineM := EStateM EngineError ContinuousBatchEngine

namespace ContinuousBatchEngine

/-! ## Reading -/

def getBatch (e : ContinuousBatchEngine) (batchId : UUID) : Option Batch := e.batches.get? batchId

def listBatches (e : ContinuousBatchEngine) : List Batch := e.batches.values

def globalActiveRequestCount (e : ContinuousBatchEngine) : ℕ := (e.sets.values.map ActiveRequestSet.activeCount).sum

/-- the stored assignments of the batch's ACTIVE members -/
def getBatchAssignments (e : ContinuousBatchEngine) (batchId : UUID) : List BatchAssignment :=
  match e.batches.get? batchId with
  | none => []
  | some b => b.activeMembers.filterMap fun m => e.assignments.get? m.requestId

/-- the batch the model's pointer names, when it is not terminal and not full -/
def pointedBatch (cfg : BatchAdmissionConfig) (model : String) (e : ContinuousBatchEngine) : Option Batch := do
  let activeId ← e.activeBatchByModel.get? model
  let batch ← e.batches.get? activeId
  if batch.state ∉ batchTerminalStates ∧ batch.activeMemberCount < cfg.maxBatchSize then some batch else none

/-- the first FILLING batch of the model with room and an open window, in creation order -/
def fillingBatch (cfg : BatchAdmissionConfig) (model : String) (now : Time) (e : ContinuousBatchEngine) :
    Option Batch :=
  e.batches.values.find? fun b =>
    b.context.model = model ∧ b.state = .filling ∧ b.activeMemberCount < cfg.maxBatchSize ∧
      now ≤ b.context.admissionWindowEnd

def findAdmittableBatch (cfg : BatchAdmissionConfig) (model : String) (now : Time) (e : ContinuousBatchEngine) :
    Option Batch :=
  (e.pointedBatch cfg model).or (e.fillingBatch cfg model now)

def activeFullBatch (cfg : BatchAdmissionConfig) (model : String) (e : ContinuousBatchEngine) : Option Batch := do
  let activeId ← e.activeBatchByModel.get? model
  let batch ← e.batches.get? activeId
  if batch.state = .active ∧ cfg.maxBatchSize ≤ batch.activeMemberCount then some batch else none

end ContinuousBatchEngine

def nextSlotIndex (b : Batch) : ℕ := firstFree (b.activeMembers.map BatchMember.slotIndex)

/-! ## Writing -/

def emit (event : BatchEvent) : EngineM Unit := modify fun e => { e with events := e.events ++ [event] }

def uuid4 : EngineM UUID := modifyGet fun e => (e.uuids, { e with uuids := e.uuids + 1 })

def lookup {α : Type} (d : Dict UUID α) (key : UUID) : EngineM α :=
  match d.get? key with
  | some v => pure v
  | none => throw (.keyError key)

def derefBatch (batchId : UUID) : EngineM Batch := do lookup (← get).batches batchId

def updateBatch (batchId : UUID) (f : Batch → Batch) : EngineM Unit := do
  let batch ← derefBatch batchId
  modify fun e => { e with batches := e.batches.set batchId (f batch) }

def transition (fromState toState : BatchState) : EngineM BatchState :=
  if canTransition fromState toState then pure toState else throw (.invalidBatchTransition fromState toState)

def setBatchState (batchId : UUID) (toState : BatchState) : EngineM Unit := do
  let batch ← derefBatch batchId
  let state ← transition batch.state toState
  updateBatch batchId fun b => { b with context := { b.context with state } }

def maybeRaise (inj : FailureInjectionConfig) (point : FailurePoint) (requestId : UUID) : EngineM Unit :=
  if inj.isActive point (some requestId) then throw (.injectedFailure point inj.message) else pure ()

def createBatch (cfg : BatchAdmissionConfig) (model : String) (now : Time) : EngineM UUID := do
  let batchId ← uuid4
  let windowEnd := now + microseconds cfg.batchAdmissionWindowMs
  let context : BatchContext :=
    { batchId, model, state := .created, createdAt := now, admissionWindowEnd := windowEnd }
  modify fun e => { e with
    batches := e.batches.set batchId { context }
    sets := e.sets.set batchId ActiveRequestSet.empty }
  emit { eventType := .batchCreated, batchId, model, decisionReason := "new_batch" }
  emit { eventType := .batchAdmission, batchId, model, decisionReason := "batch_opened" }
  setBatchState batchId .filling
  modify fun e => { e with activeBatchByModel := e.activeBatchByModel.set model batchId }
  return batchId

def activateBatch (batchId : UUID) (now : Time) : EngineM Unit := do
  let batch ← derefBatch batchId
  if batch.state = .ready then
    setBatchState batchId .active
    updateBatch batchId fun b => { b with context := { b.context with activatedAt := some now } }
    modify fun e => { e with activeBatchByModel := e.activeBatchByModel.set batch.context.model batchId }

def advanceBatchAfterAdmission (cfg : BatchAdmissionConfig) (batchId : UUID) (now : Time) : EngineM Unit := do
  let batch ← derefBatch batchId
  if batch.state = .filling then
    if cfg.maxBatchSize ≤ batch.activeMemberCount then
      emit { eventType := .batchFull, batchId, model := batch.context.model
             decisionReason := "max_batch_size_reached" }
      setBatchState batchId .ready
      activateBatch batchId now
    else if batch.context.admissionWindowEnd ≤ now then
      setBatchState batchId .ready
      activateBatch batchId now
  else if batch.state = .ready then
    activateBatch batchId now

def completeBatch (batchId : UUID) (reason : String) (now : Time) : EngineM Unit := do
  let batch ← derefBatch batchId
  if batch.state ∉ batchTerminalStates then
    setBatchState batchId .completed
    updateBatch batchId fun b => { b with context := { b.context with completedAt := some now } }
    modify fun e => { e with activeBatchByModel := e.activeBatchByModel.pop batch.context.model }
    emit { eventType := .batchCompleted, batchId, model := batch.context.model, decisionReason := reason
           extra := some (.previousState batch.state) }

def failBatch (batchId : UUID) (reason : String) : EngineM Unit := do
  let batch ← derefBatch batchId
  if batch.state ∉ batchTerminalStates then
    setBatchState batchId .failed
    updateBatch batchId fun b => { b with context := { b.context with failureReason := some reason } }
    modify fun e => { e with activeBatchByModel := e.activeBatchByModel.pop batch.context.model }
    emit { eventType := .batchFailed, batchId, model := batch.context.model, decisionReason := reason
           extra := some (.previousState batch.state) }

/-! ## Placement -/

/-- everything before the engine's tables change: a rejection, or the batch to join (`none`: a new one) and why -/
def checkSelected (cfg : BatchAdmissionConfig) (inj : FailureInjectionConfig) (now : Time) (item : QueueItem) :
    EngineM (Except BatchRejectionDecision (Option Batch × String)) := do
  let correlationId := item.requestContext.traceId
  let model := item.inferenceRequest.model
  let e ← get
  if inj.isActive .batchAdmissionFailure (some item.requestId) then
    return .error { requestId := item.requestId, decisionReason := "injected_batch_admission_failure", correlationId }
  else if e.requestToBatch.contains item.requestId then
    return .error { requestId := item.requestId, decisionReason := "request_already_batched", correlationId }
  else
    let batch := e.findAdmittableBatch cfg model now
    match if batch.isNone then e.activeFullBatch cfg model else none with
    | some full =>
      emit { eventType := .batchAdmission, batchId := full.batchId, requestId := item.requestId, correlationId, model
             decisionReason := "batch_full_no_slots" }
      return .error { requestId := item.requestId, decisionReason := "batch_full_no_slots", correlationId
                      batchId := full.batchId }
    | none =>
      let admission := evaluateBatchAdmission batch e.globalActiveRequestCount cfg now
      if admission.decision = .reject then
        emit { eventType := .batchAdmission, batchId := batch.map Batch.batchId, requestId := item.requestId
               correlationId, model, decisionReason := admission.reason }
        return .error { requestId := item.requestId, decisionReason := admission.reason, correlationId
                        batchId := batch.map Batch.batchId }
      else return .ok (batch, admission.reason)

/-- the request becomes a member of the batch, in the least slot no ACTIVE member holds -/
def addMember (now : Time) (item : QueueItem) (batchId : UUID) (reason : String) : EngineM BatchMember := do
  let batch ← derefBatch batchId
  let member : BatchMember :=
    { requestId := item.requestId, slotIndex := nextSlotIndex batch, model := item.inferenceRequest.model
      correlationId := item.requestContext.traceId, addedAt := now }
  let requestSet ← lookup (← get).sets batchId
  match requestSet.addRequest member with
  | none => throw (.requestAlreadyInBatch item.requestId)
  | some requestSet =>
    modify fun e => { e with sets := e.sets.set batchId requestSet }
    updateBatch batchId fun b => { b with members := requestSet.allMembers }
    modify fun e => { e with requestToBatch := e.requestToBatch.set item.requestId batchId }
    emit { eventType := .requestAddedToBatch, batchId, requestId := item.requestId
           correlationId := item.requestContext.traceId, model := item.inferenceRequest.model
           decisionReason := reason, extra := some (.slotIndex member.slotIndex) }
    return member

def addSelected (cfg : BatchAdmissionConfig) (inj : FailureInjectionConfig) (now : Time) (item : QueueItem)
    (batchId : UUID) (reason : String) : EngineM PlacementOutcome := do
  let member ← addMember now item batchId reason
  advanceBatchAfterAdmission cfg batchId now
  let correlationId := item.requestContext.traceId
  let assignment : BatchAssignment :=
    { requestId := item.requestId, slotIndex := member.slotIndex, inferenceRequest := item.inferenceRequest }
  modify fun e => { e with assignments := e.assignments.set item.requestId assignment }
  if inj.isActive .schedulerInvalidBatchAssignment (some item.requestId) then
    return .rejected { requestId := item.requestId, decisionReason := "invalid_batch_assignment", correlationId
                       batchId := some batchId }
  else
    return .placed { requestId := item.requestId, batchId, assignment, decisionReason := reason, correlationId }

def placeSelected (cfg : BatchAdmissionConfig) (inj : FailureInjectionConfig) (now : Time) (item : QueueItem) :
    EngineM PlacementOutcome := do
  match ← checkSelected cfg inj now item with
  | .error rejection => return .rejected rejection
  | .ok (some batch, reason) => addSelected cfg inj now item batch.batchId reason
  | .ok (none, reason) =>
    maybeRaise inj .batchCreationFailure item.requestId
    let batchId ← createBatch cfg item.inferenceRequest.model now
    addSelected cfg inj now item batchId reason

/-! ## Retirement -/

/-- overwrite the member's status; `none` when the batch has no such member -/
def setMemberStatus (batchId requestId : UUID) (status : MemberStatus) (reason : String) :
    EngineM (Option ActiveRequestSet) := do
  let requestSet ← lookup (← get).sets batchId
  match requestSet.setStatus requestId status with
  | none => return none
  | some (member, requestSet) =>
    modify fun e => { e with sets := e.sets.set batchId requestSet }
    updateBatch batchId fun b => { b with members := requestSet.allMembers }
    emit { eventType := .requestRemovedFromBatch, batchId, requestId, correlationId := member.correlationId
           model := member.model, decisionReason := reason, extra := some (.memberStatus status) }
    return some requestSet

/-- a failure fails the whole batch; an ACTIVE batch without ACTIVE members is complete -/
def closeBatch (batchId : UUID) (requestSet : ActiveRequestSet) (status : MemberStatus) (reason : String)
    (now : Time) : EngineM Unit := do
  if status = .failed then failBatch batchId reason
  else
    let batch ← derefBatch batchId
    if requestSet.activeCount = 0 ∧ batch.state = .active then completeBatch batchId "all_members_retired" now

def retireRequest (requestId : UUID) (status : MemberStatus) (reason : String) (now : Time) : EngineM BatchResult := do
  match (← get).requestToBatch.get? requestId with
  | none =>
    return { batchId := ← uuid4, requestId, success := false, decisionReason := "request_not_in_batch" }
  | some batchId =>
    let batch ← derefBatch batchId
    match ← setMemberStatus batchId requestId status reason with
    | none => return { batchId, requestId, success := false, decisionReason := "member_not_found" }
    | some requestSet =>
      closeBatch batchId requestSet status reason now
      return { batchId, requestId, success := true, decisionReason := reason, previousState := batch.state
               newState := (← derefBatch batchId).state }

def completeRequest (requestId : UUID) (now : Time) : EngineM BatchResult :=
  retireRequest requestId .completed "request_completed" now

def failRequest (requestId : UUID) (reason : String) (now : Time) : EngineM BatchResult :=
  retireRequest requestId .failed reason now

def cancelRequest (requestId : UUID) (now : Time) : EngineM BatchResult :=
  retireRequest requestId .cancelled "request_cancelled" now

/-! ## Runs -/

/-- the operations of the engine's interface, each with its clock reading and the injector's configuration then -/
inductive EngineOp
  | placeSelected (inj : FailureInjectionConfig) (now : Time) (item : QueueItem)
  | completeRequest (now : Time) (requestId : UUID)
  | failRequest (now : Time) (requestId : UUID) (reason : String)
  | cancelRequest (now : Time) (requestId : UUID)
  deriving DecidableEq, Repr

/-- the state an engine operation leaves, whether it returns or raises -/
def EngineM.final {α : Type} (x : EngineM α) (e : ContinuousBatchEngine) : ContinuousBatchEngine :=
  match x.run e with
  | .ok _ e' => e'
  | .error _ e' => e'

def EngineM.value? {α : Type} (x : EngineM α) (e : ContinuousBatchEngine) : Option α :=
  match x.run e with
  | .ok a _ => some a
  | .error _ _ => none

def ContinuousBatchEngine.step (cfg : BatchAdmissionConfig) (e : ContinuousBatchEngine) :
    EngineOp → ContinuousBatchEngine
  | .placeSelected inj now item => (placeSelected cfg inj now item).final e
  | .completeRequest now requestId => (completeRequest requestId now).final e
  | .failRequest now requestId reason => (failRequest requestId reason now).final e
  | .cancelRequest now requestId => (cancelRequest requestId now).final e

/-! ## Small instances -/

/-- two slots a batch, four in all, a window of one millisecond -/
def smallConfig : EngineConfig := ⟨⟨2, 4, 1⟩, rfl⟩

def plainRequest (requestId : UUID) (model : String) : InferenceRequest :=
  { requestId, model, messages := [⟨"hi"⟩], stream := false, maxTokens := 8, priorityClass := none }

def plainItem (requestId : UUID) (model : String) : QueueItem :=
  { requestId, inferenceRequest := plainRequest requestId model, requestContext := ⟨"t", 0⟩, enqueuedAt := 0
    priorityClass := .default, queueName := model ++ "/default" }

-- a slot that is given back is the next one taken
example : ((EngineM.value? (do
    let _ ← placeSelected smallConfig {} 0 (plainItem 1 "m")
    let _ ← placeSelected smallConfig {} 1 (plainItem 2 "m")
    let _ ← cancelRequest 1 2
    let _ ← placeSelected smallConfig {} 3 (plainItem 3 "m")
    return ((← get).batches.values.map fun b => b.activeMembers.map fun m => (m.requestId, m.slotIndex)))
    ContinuousBatchEngine.init) = some [[(2, 1), (3, 0)]]) := by decide

end InferencePlatform.Batching
