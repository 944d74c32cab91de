/-
Batch lifecycle contracts: the batch state machine, batches and their members, the active request set of a batch and
the batch admission rules.
-/
import InferencePlatform.Core.Dict
import InferencePlatform.Schemas

namespace InferencePlatform.Batching

open InferencePlatform.Core (Dict)

/-! ## Batch states -/

inductive BatchState
  | created | filling | ready | active | completed | failed | cancelled
  deriving DecidableEq, Repr

def BatchState.value : BatchState → String
  | .created => "created"
  | .filling => "filling"
  | .ready => "ready"
  | .active => "active"
  | .completed => "completed"
  | .failed => "failed"
  | .cancelled => "cancelled"

def batchTerminalStates : List BatchState := [.completed, .failed, .cancelled]

def allowedTransitions : BatchState → List BatchState
  | .created => [.filling, .cancelled]
  | .filling => [.filling, .ready, .cancelled, .failed]
  | .ready => [.active, .cancelled, .failed]
  | .active => [.active, .completed, .failed, .cancelled]
  | .completed | .failed | .cancelled => []

def canTransition (fromState toState : BatchState) : Bool :=
  if fromState = toState then fromState ∈ [BatchState.filling, .active]
  else if fromState ∈ batchTerminalStates then false
  else toState ∈ allowedTransitions fromState

inductive MemberStatus
  | active | completed | cancelled | failed
  deriving DecidableEq, Repr

def MemberStatus.value : MemberStatus → String
  | .active => "active"
  | .completed => "completed"
  | .cancelled => "cancelled"
  | .failed => "failed"

/-! ## Batches -/

structure BatchMember where
  requestId : UUID
  slotIndex : ℕ
  model : String
  correlationId : String
  addedAt : Time
  status : MemberStatus := .active
  deriving DecidableEq, Repr

structure BatchContext where
  batchId : UUID
  model : String
  state : BatchState
  createdAt : Time
  admissionWindowEnd : Time
  activatedAt : Option Time := none
  completedAt : Option Time := none
  failureReason : Option String := none
  deriving DecidableEq, Repr

structure Batch where
  context : BatchContext
  members : List BatchMember := []
  deriving DecidableEq, Repr

namespace Batch

def batchId (b : Batch) : UUID := b.context.batchId

def state (b : Batch) : BatchState := b.context.state

def activeMembers (b : Batch) : List BatchMember := b.members.filter fun m => m.status = .active

def activeMemberCount (b : Batch) : ℕ := b.members.countP fun m => m.status = .active

/-- the states in which a batch takes members and is dispatched -/
def isOpen (b : Batch) : Prop := b.state = .filling ∨ b.state = .ready ∨ b.state = .active

instance (b : Batch) : Decidable b.isOpen := inferInstanceAs (Decidable (_ ∨ _ ∨ _))

theorem length_activeMembers (b : Batch) : b.activeMembers.length = b.activeMemberCount :=
  List.countP_eq_length_filter.symm

end Batch

structure BatchResult where
  batchId : UUID
  requestId : Option UUID
  success : Bool
  decisionReason : String
  previousState : Option BatchState := none
  newState : Option BatchState := none
  deriving DecidableEq, Repr

/-! ## Placement decisions -/

structure BatchPlacementDecision where
  requestId : UUID
  batchId : UUID
  assignment : BatchAssignment
  decisionReason : String
  correlationId : String
  deriving DecidableEq, Repr

structure BatchRejectionDecision where
  requestId : UUID
  decisionReason : String
  correlationId : String
  batchId : Option UUID := none
  deriving DecidableEq, Repr

inductive PlacementOutcome
  | placed (d : BatchPlacementDecision)
  | rejected (d : BatchRejectionDecision)
  deriving DecidableEq, Repr

/-! ## Active request sets -/

/-- the members of one batch, by request -/
structure ActiveRequestSet where
  byId : Dict UUID BatchMember

namespace ActiveRequestSet

def empty : ActiveRequestSet := ⟨Dict.empty⟩

def contains (s : ActiveRequestSet) (requestId : UUID) : Bool := s.byId.contains requestId

def insert (s : ActiveRequestSet) (member : BatchMember) : ActiveRequestSet := ⟨s.byId.set member.requestId member⟩

/-- `none` is the `ValueError` "request already in batch" -/
def addRequest (s : ActiveRequestSet) (member : BatchMember) : Option ActiveRequestSet :=
  if s.contains member.requestId then none else some (s.insert member)

def allMembers (s : ActiveRequestSet) : List BatchMember := s.byId.values

def listActiveRequests (s : ActiveRequestSet) : List BatchMember := s.allMembers.filter fun m => m.status = .active

def activeCount (s : ActiveRequestSet) : ℕ := s.listActiveRequests.length

/-- the member's status is overwritten whatever it was; `none` when the request is no member -/
def setStatus (s : ActiveRequestSet) (requestId : UUID) (status : MemberStatus) :
    Option (BatchMember × ActiveRequestSet) :=
  (s.byId.get? requestId).map fun m => ({ m with status }, ⟨s.byId.set requestId { m with status }⟩)

end ActiveRequestSet

/-! ## Batch admission -/

structure BatchAdmissionConfig where
  maxBatchSize : ℕ
  maxActiveRequests : ℕ
  batchAdmissionWindowMs : ℕ
  deriving DecidableEq, Repr

def BatchAdmissionConfig.validate (c : BatchAdmissionConfig) : Except String Unit :=
  if c.maxBatchSize < 1 then .error "max_batch_size must be >= 1"
  else if c.maxActiveRequests < 1 then .error "max_active_requests must be >= 1"
  else if c.batchAdmissionWindowMs < 1 then .error "batch_admission_window_ms must be >= 1"
  else .ok ()

/-- a configuration an engine can be constructed with: the constructor validates it -/
structure EngineConfig extends BatchAdmissionConfig where
  valid : toBatchAdmissionConfig.validate = .ok ()

instance : Coe EngineConfig BatchAdmissionConfig := ⟨EngineConfig.toBatchAdmissionConfig⟩

theorem EngineConfig.maxBatchSize_pos (c : EngineConfig) : 0 < c.maxBatchSize := by
  have h := c.valid
  simp only [BatchAdmissionConfig.validate] at h
  split_ifs at h
  omega

inductive AdmissionDecision
  | accept | reject
  deriving DecidableEq, Repr

structure BatchAdmissionResult where
  decision : AdmissionDecision
  reason : String
  deriving DecidableEq, Repr

def evaluateBatchAdmission (batch : Option Batch) (globalActiveCount : ℕ) (config : BatchAdmissionConfig)
    (now : Time) : BatchAdmissionResult :=
  if config.maxActiveRequests ≤ globalActiveCount then ⟨.reject, "max_active_requests_reached"⟩
  else
    match batch with
    | none => ⟨.accept, "new_batch"⟩
    | some b =>
      if b.state ∈ batchTerminalStates then ⟨.reject, "batch_terminal"⟩
      else if config.maxBatchSize ≤ b.activeMemberCount then
        if b.state = .active then ⟨.reject, "batch_full_no_slots"⟩ else ⟨.reject, "batch_full"⟩
      else if b.state = .filling ∧ b.context.admissionWindowEnd < now then ⟨.reject, "admission_window_closed"⟩
      else ⟨.accept, "batch_has_capacity"⟩

/-- an admission is accepted exactly below both bounds, in a batch that is not terminal and whose window is open -/
theorem evaluateBatchAdmission_accept {batch : Option Batch} {n : ℕ} {config : BatchAdmissionConfig} {now : Time} :
    (evaluateBatchAdmission batch n config now).decision = .accept ↔
      n < config.maxActiveRequests ∧ ∀ b, batch = some b →
        b.state ∉ batchTerminalStates ∧ b.activeMemberCount < config.maxBatchSize ∧
          ¬(b.state = .filling ∧ b.context.admissionWindowEnd < now) := by
  unfold evaluateBatchAdmission
  rcases batch with _ | b
  · split_ifs with h
    · simp [h]
    · simp; omega
  · simp only [Option.some.injEq, forall_eq']
    split_ifs with h1 h2 h3 h4 h5
    · simp; omega
    · simp [h2]
    · simp; omega
    · simp; omega
    · simp [h5]
    · exact ⟨fun _ => ⟨by omega, h2, by omega, h5⟩, fun _ => rfl⟩

end InferencePlatform.Batching
