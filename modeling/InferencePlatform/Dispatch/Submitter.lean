/-
Batch dispatch: submitting the engine's batches to the inference adapter, with routing and failover.

A call of `submit_pending_batches` or `submit_batch_by_id` runs from one `await` on the adapter to the next.
`SubmitTask` is what such a call holds while it waits: the batches of its snapshot it has not visited, the results so
far and the attempt in flight. `submitPending` and `submitById` start a call, `resumeWith` goes on with the adapter's
answer; each is one atomic step. The batches in the snapshot are live objects, so their state and members are read when
they are visited.

The routing engine is deterministic and nothing else runs within a step, so its answers in a step are a function
`Route`, which may differ from step to step. `sent` and `accepted` record what crosses the adapter's boundary.
-/
import InferencePlatform.Batching.Engine

namespace InferencePlatform.Dispatch

open InferencePlatform.Core (Dict)
open Batching (ContinuousBatchEngine Batch EngineOp)

/-! ## Configuration and results -/

structure DispatchConfig where
  defaultBackendId : String
  /-- a routing engine is configured -/
  routed : Bool
  minDispatchMembers : Option ℕ
  deriving DecidableEq, Repr

structure BatchDispatchResult where
  batchId : UUID
  backendId : String
  accepted : Bool
  reason : String
  deriving DecidableEq, Repr

/-- no routing engine, no threshold -/
def plainDispatch : DispatchConfig := ⟨"mock", false, none⟩

/-- the routing engine's answer for a request (`none`: a fresh id), a model and the excluded backends: a backend, or an
error (empty when the engine gives none) -/
abbrev Route := Option UUID → String → Finset String → Except String String

/-- what `adapter.submit_batch` does once it is resumed -/
inductive AdapterOutcome
  | result (accepted : Bool) (backendId reason : String)
  | raised (message : String)
  deriving DecidableEq, Repr

def AdapterOutcome.accepted : AdapterOutcome → Bool
  | .result accepted _ _ => accepted
  | .raised _ => false

/-! ## One submission -/

def buildDispatchBatch (batch : Batch) (assignments : List BatchAssignment) (backendId : String) :
    Option DispatchBatch :=
  if ¬batch.isOpen then none
  else if assignments.isEmpty then none
  else some { batchId := batch.batchId, model := batch.context.model, workerId := backendId, assignments
              createdAt := batch.context.activatedAt.getD batch.context.createdAt }

/-- the locals of `_submit_batch` between iterations of its loop -/
structure Submission where
  batchId : UUID
  assignments : List BatchAssignment
  excluded : Finset String := ∅
  lastError : String := "routing_failed"
  deriving DecidableEq

def Submission.requestId (sub : Submission) : Option UUID := sub.assignments.head?.map BatchAssignment.requestId

/-- a submission that waits for the adapter's answer -/
structure Attempt where
  sub : Submission
  backendId : String
  dispatch : DispatchBatch
  deriving DecidableEq

inductive Iteration
  | waiting (a : Attempt)
  | returned (r : Option BatchDispatchResult)

/-- one iteration of the loop, up to the call of the adapter -/
def iterate (cfg : DispatchConfig) (route : Route) (e : ContinuousBatchEngine) (sub : Submission) : Iteration :=
  match e.getBatch sub.batchId with
  | none => .returned none
  | some batch =>
    match if cfg.routed then route sub.requestId batch.context.model sub.excluded else .ok cfg.defaultBackendId with
    | .error error =>
      .returned (some { batchId := sub.batchId, backendId := cfg.defaultBackendId, accepted := false
                        reason := if error = "" then sub.lastError else error })
    | .ok backendId =>
      match buildDispatchBatch batch sub.assignments backendId with
      | none => .returned none
      | some dispatch => .waiting { sub, backendId, dispatch }

/-- the rest of the iteration once the adapter has answered, and the iteration after it if the loop goes on -/
def Attempt.settle (cfg : DispatchConfig) (route : Route) (e : ContinuousBatchEngine) (a : Attempt) :
    AdapterOutcome → Iteration
  | .raised message =>
    let failed := .returned (some { batchId := a.sub.batchId, backendId := a.backendId, accepted := false
                                    reason := message })
    if cfg.routed then
      let sub := { a.sub with excluded := insert a.backendId a.sub.excluded, lastError := message }
      match route sub.requestId a.dispatch.model sub.excluded with
      | .ok _ => iterate cfg route e sub
      | .error _ => failed
    else failed
  | .result accepted backendId reason =>
    if accepted then .returned (some { batchId := a.sub.batchId, backendId, accepted := true, reason })
    else if cfg.routed then
      iterate cfg route e { a.sub with excluded := insert a.backendId a.sub.excluded, lastError := reason }
    else .returned (some { batchId := a.sub.batchId, backendId, accepted := false, reason })

/-! ## Calls -/

structure SubmitTask where
  /-- the batches of the snapshot still to be visited -/
  remaining : List UUID
  results : List BatchDispatchResult
  /-- `none`: the call has returned -/
  attempt : Option Attempt
  deriving DecidableEq

structure BatchDispatchService where
  submittedBatchIds : Finset UUID
  sent : List DispatchBatch
  accepted : List DispatchBatch
  deriving DecidableEq

def BatchDispatchService.init : BatchDispatchService := ⟨∅, [], []⟩

/-- the checks a batch passes before `submit_pending_batches` submits it -/
def Pending (cfg : DispatchConfig) (submitted : Finset UUID) (e : ContinuousBatchEngine) (id : UUID) : Prop :=
  id ∉ submitted ∧ ∃ b ∈ e.getBatch id, b.isOpen ∧ b.activeMemberCount ≠ 0 ∧
    ∀ least ∈ cfg.minDispatchMembers, least ≤ b.activeMemberCount

instance (cfg : DispatchConfig) (submitted : Finset UUID) (e : ContinuousBatchEngine) (id : UUID) :
    Decidable (Pending cfg submitted e id) :=
  inferInstanceAs (Decidable (_ ∧ ∃ b ∈ e.getBatch id, _ ∧ _ ∧ ∀ least ∈ cfg.minDispatchMembers, _))

/-- visit the remaining batches of the snapshot until one is handed to the adapter -/
def visit (cfg : DispatchConfig) (route : Route) (e : ContinuousBatchEngine) (submitted : Finset UUID) :
    List UUID → List BatchDispatchResult → SubmitTask
  | [], results => ⟨[], results, none⟩
  | id :: rest, results =>
    if Pending cfg submitted e id then
      match iterate cfg route e { batchId := id, assignments := e.getBatchAssignments id } with
      | .waiting a => ⟨rest, results, some a⟩
      | .returned r => visit cfg route e submitted rest (results ++ r.toList)
    else visit cfg route e submitted rest results

/-- the adapter call a step ends in, if any, is recorded -/
def BatchDispatchService.logSent (svc : BatchDispatchService) (task : SubmitTask) : BatchDispatchService :=
  { svc with sent := svc.sent ++ (task.attempt.map Attempt.dispatch).toList }

def submitPending (cfg : DispatchConfig) (route : Route) (e : ContinuousBatchEngine) (svc : BatchDispatchService) :
    BatchDispatchService × SubmitTask :=
  let task := visit cfg route e svc.submittedBatchIds (e.listBatches.map Batch.batchId) []
  (svc.logSent task, task)

/-- no check that the batch has been submitted already -/
def submitById (cfg : DispatchConfig) (route : Route) (e : ContinuousBatchEngine) (svc : BatchDispatchService)
    (id : UUID) : BatchDispatchService × SubmitTask :=
  let task : SubmitTask :=
    match e.getBatch id with
    | none => ⟨[], [], none⟩
    | some batch =>
      match iterate cfg route e { batchId := batch.batchId, assignments := e.getBatchAssignments id } with
      | .waiting a => ⟨[], [], some a⟩
      | .returned r => ⟨[], r.toList, none⟩
  (svc.logSent task, task)

/-- the service once an answer has been taken: an accepted batch is recorded as submitted -/
def BatchDispatchService.settled (svc : BatchDispatchService) (a : Attempt) (outcome : AdapterOutcome) :
    BatchDispatchService :=
  if outcome.accepted then
    { svc with
      submittedBatchIds := insert a.sub.batchId svc.submittedBatchIds, accepted := svc.accepted ++ [a.dispatch] }
  else svc

/-- the call goes on with the adapter's answer to its attempt `a` -/
def SubmitTask.resumeWith (cfg : DispatchConfig) (route : Route) (e : ContinuousBatchEngine)
    (svc : BatchDispatchService) (task : SubmitTask) (a : Attempt) (outcome : AdapterOutcome) :
    BatchDispatchService × SubmitTask :=
  let svc := svc.settled a outcome
  let task : SubmitTask :=
    match a.settle cfg route e outcome with
    | .waiting a' => { task with attempt := some a' }
    | .returned r => visit cfg route e svc.submittedBatchIds task.remaining (task.results ++ r.toList)
  (svc.logSent task, task)

/-! ## Concurrent calls on one service -/

/-- one engine, one dispatch service, and every call made on the service so far -/
structure DispatchSystem where
  engine : ContinuousBatchEngine
  service : BatchDispatchService
  tasks : List SubmitTask

def DispatchSystem.init : DispatchSystem := ⟨ContinuousBatchEngine.init, BatchDispatchService.init, []⟩

inductive DispatchOp
  | engine (o : EngineOp)
  | submitPending (route : Route)
  | submitById (route : Route) (id : UUID)
  /-- call number `i` takes the adapter's answer -/
  | resume (route : Route) (i : ℕ) (outcome : AdapterOutcome)

namespace DispatchSystem

/-- what call number `i` waits for -/
def attemptOf (s : DispatchSystem) (i : ℕ) : Option (SubmitTask × Attempt) := do
  let task ← s.tasks[i]?
  let a ← task.attempt
  return (task, a)

/-- a step of one call, or of the engine beside the calls -/
def step (bcfg : Batching.BatchAdmissionConfig) (cfg : DispatchConfig) (s : DispatchSystem) :
    DispatchOp → DispatchSystem
  | .engine o => { s with engine := s.engine.step bcfg o }
  | .submitPending route =>
    let (service, task) := Dispatch.submitPending cfg route s.engine s.service
    { s with service, tasks := s.tasks ++ [task] }
  | .submitById route id =>
    let (service, task) := Dispatch.submitById cfg route s.engine s.service id
    { s with service, tasks := s.tasks ++ [task] }
  | .resume route i outcome =>
    match s.attemptOf i with
    | none => s
    | some (task, a) =>
      let (service, task) := task.resumeWith cfg route s.engine s.service a outcome
      { s with service, tasks := s.tasks.set i task }

end DispatchSystem

end InferencePlatform.Dispatch
