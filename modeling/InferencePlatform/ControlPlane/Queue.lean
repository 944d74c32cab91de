/-
The waiting queue: operations on the list, the queue service over it, inspection, and the scheduler's reader.

Almost every operation expires overdue items first (`expireTimeoutsLocked`), whatever it is called for; only
`processTimeouts` says so in the registry. Each operation holds the queue's lock and reads the clock once, so it is one
atomic step at a time `now`. Durations are exact numbers of microseconds.
-/
import InferencePlatform.ControlPlane.Models

namespace InferencePlatform.ControlPlane

open InferencePlatform.Core (Dict)

variable (cfg : QueueCapacityConfig)

/-! ## Reading and writing entries -/

def derefEntry (ref : Ref) : ControlPlaneM RegisteredRequest := do
  match (← get).entries[ref]? with
  | some entry => pure entry
  | none => throw (.runtimeError "dangling reference")

def modifyEntry (ref : Ref) (f : RegisteredRequest → RegisteredRequest) : ControlPlaneM Unit :=
  modify fun cp => { cp with entries := cp.entries.modify ref f }

/-- `registry.get` -/
def getRef (requestId : UUID) : ControlPlaneM Ref := do
  match (← get).registry.get? requestId with
  | some ref => pure ref
  | none => throw (.requestNotFound requestId)

/-- `registry.update_state` -/
def updateState (writer : StateWriter) (requestId : UUID) (state : RequestState) (now : Time) : ControlPlaneM Ref := do
  let ref ← getRef requestId
  modifyEntry ref fun entry => { entry.enter writer state with updatedAt := now }
  return ref

def emitLifecycle (event : LifecycleEvent) : ControlPlaneM Unit :=
  modify fun cp => { cp with events := cp.events ++ [.lifecycle event] }

def emitQueue (event : QueueEvent) : ControlPlaneM Unit :=
  modify fun cp => { cp with events := cp.events ++ [.queue event] }

/-! ## Queue operations -/

inductive QueueCapacityDecision
  | accept
  | reject (reason : String)
  deriving DecidableEq, Repr

def evaluateEnqueueCapacity (currentDepth : ℕ) : QueueCapacityDecision :=
  if cfg.maxQueueSize ≤ currentDepth then .reject "queue_full" else .accept

/-- the item has waited longer than the timeout -/
def overdue (now : Time) (item : QueuedRequest) : Bool := item.queueEnteredAt + microseconds cfg.queueTimeoutMs < now

def numbered (items : List QueuedRequest) : List QueuedRequest :=
  (items.zipIdx 1).map fun p => { p.1 with queuePosition := p.2 }

/-- every item gets its place in the queue as its position, and so does its entry -/
def reindexPositions : ControlPlaneM Unit :=
  modify fun cp =>
    { cp with
      items := numbered cp.items
      entries := (numbered cp.items).foldl (fun entries item =>
        entries.modify item.entry fun entry => { entry with queuePosition := some item.queuePosition }) cp.entries }

def expireTimeoutsLocked (now : Time) : ControlPlaneM (List QueuedRequest) := do
  let items := (← get).items
  modify fun cp => { cp with items := items.filter fun item => !overdue cfg now item }
  reindexPositions
  return items.filter fun item => overdue cfg now item

/-- `enqueue` with its two readings of the clock, one for the expiry and one for the item; an error is the reason of a
`QueueFullError` -/
def enqueueAt (ref : Ref) (now now' : Time) : ControlPlaneM (Except String QueuedRequest) := do
  let _ ← expireTimeoutsLocked cfg now
  let entry ← derefEntry ref
  if (← get).contains entry.requestId then
    throw (.valueError s!"request already queued: {entry.requestId}")
  else
    match evaluateEnqueueCapacity cfg (← get).items.length with
    | .reject reason => return .error reason
    | .accept =>
      let position := (← get).items.length + 1
      let queued : QueuedRequest :=
        { requestId := entry.requestId, entry := ref, queueEnteredAt := now', queuePosition := position
          queueName := entry.inferenceRequest.model ++ "/default"
          priorityClass := entry.inferenceRequest.priorityClass.getD .default }
      modify fun cp => { cp with items := cp.items ++ [queued] }
      modifyEntry ref fun entry => { entry with queueEnteredAt := some now', queuePosition := some position }
      return .ok queued

def enqueue (ref : Ref) (now : Time) : ControlPlaneM (Except String QueuedRequest) := enqueueAt cfg ref now now

def dequeue (now : Time) : ControlPlaneM (Option QueuedRequest) := do
  let _ ← expireTimeoutsLocked cfg now
  match (← get).items with
  | [] => return none
  | item :: rest =>
    modify fun cp => { cp with items := rest }
    reindexPositions
    return some item

def peek (now : Time) : ControlPlaneM (Option QueuedRequest) := do
  let _ ← expireTimeoutsLocked cfg now
  return (← get).items.head?

def removeItem (requestId : UUID) : ControlPlaneM (Option QueuedRequest) := do
  match (← get).items.find? fun item => item.requestId = requestId with
  | none => return none
  | some item =>
    modify fun cp => { cp with items := cp.items.eraseP fun item => item.requestId = requestId }
    reindexPositions
    return some item

def clear : ControlPlaneM ℕ := modifyGet fun cp => (cp.items.length, { cp with items := [] })

def listItems (now : Time) : ControlPlaneM (List QueuedRequest) := do
  let _ ← expireTimeoutsLocked cfg now
  return (← get).items

/-! ## Inspection -/

def elapsed (since now : Time) : ℤ := now - since

structure QueueSnapshot where
  queueName : String
  depth : ℕ
  maxSize : ℕ
  items : List QueueItem
  capturedAt : Time
  deriving DecidableEq, Repr

structure QueueStatistics where
  depth : ℕ
  maxSize : ℕ
  oldestWait : Option ℤ
  averageWait : Option ℚ
  capturedAt : Time
  deriving DecidableEq, Repr

structure QueuedRequestView where
  requestId : UUID
  model : String
  correlationId : String
  queuePosition : ℕ
  queueEnteredAt : Time
  queueWaitDuration : ℤ
  requestAge : ℤ
  deriving DecidableEq, Repr

def toQueueItem (entries : List RegisteredRequest) (item : QueuedRequest) : Option QueueItem := do
  let entry ← entries[item.entry]?
  return { requestId := item.requestId, inferenceRequest := entry.inferenceRequest
           requestContext := entry.requestContext, enqueuedAt := item.queueEnteredAt
           priorityClass := item.priorityClass, queueName := item.queueName }

def getQueueSnapshot (queueName : String) (now : Time) : ControlPlaneM QueueSnapshot := do
  let items ← listItems cfg now
  let items := if queueName ≠ "all" then items.filter fun item => item.queueName = queueName else items
  return { queueName, depth := items.length, maxSize := cfg.maxQueueSize
           items := items.filterMap (toQueueItem (← get).entries), capturedAt := now }

def getQueueStatistics (now : Time) : ControlPlaneM QueueStatistics := do
  let items ← listItems cfg now
  let waits := items.map fun item => elapsed item.queueEnteredAt now
  return { depth := items.length, maxSize := cfg.maxQueueSize, oldestWait := waits.max?
           averageWait := if items.isEmpty then none else some (waits.sum / items.length), capturedAt := now }

def toView (entries : List RegisteredRequest) (now : Time) (item : QueuedRequest) : Option QueuedRequestView := do
  let entry ← entries[item.entry]?
  return { requestId := item.requestId, model := entry.inferenceRequest.model
           correlationId := entry.requestContext.traceId, queuePosition := item.queuePosition
           queueEnteredAt := item.queueEnteredAt, queueWaitDuration := elapsed item.queueEnteredAt now
           requestAge := elapsed entry.createdAt now }

def listQueuedRequests (now : Time) : ControlPlaneM (List QueuedRequestView) := do
  let items ← listItems cfg now
  return items.filterMap (toView (← get).entries now)

/-- the scheduler's reader: the first `limit` items of a snapshot -/
def listQueueItems (limit : ℕ) (now : Time) : ControlPlaneM (List QueueItem) := do
  return (← getQueueSnapshot cfg "all" now).items.take limit

/-! ## Queue service -/

def queueEvent (eventType : QueueEventType) (entry : RegisteredRequest) (queuePosition : Option ℕ) (now : Time) :
    QueueEvent :=
  { eventType, requestId := entry.requestId, correlationId := entry.requestContext.traceId, timestamp := now
    model := entry.inferenceRequest.model, queuePosition }

/-- ADMITTED to QUEUED, or to REJECTED when the queue is full -/
def enqueueFromAdmitted (requestId : UUID) (now : Time) : ControlPlaneM Ref := do
  let ref ← getRef requestId
  let entry ← derefEntry ref
  if entry.state ≠ .admitted then
    throw (.valueError s!"request {requestId} must be ADMITTED before enqueue, got {entry.state.value}")
  else
    match ← enqueue cfg ref now with
    | .error reason =>
      emitQueue { queueEvent .queueFull entry none now with reason, queueDepth := (← get).items.length }
      modifyEntry ref (RegisteredRequest.applyFailure .enqueue (admissionFailure reason .queueFull))
      modifyEntry ref (RegisteredRequest.enter .enqueue .rejected)
      let _ ← updateState .enqueue requestId .rejected now
      return ref
    | .ok queued =>
      modifyEntry ref (RegisteredRequest.enter .enqueue .queued)
      let _ ← updateState .enqueue requestId .queued now
      emitQueue { queueEvent .requestEnqueued entry queued.queuePosition now with
                  queueWaitDuration := some 0, requestAge := some (elapsed entry.createdAt now)
                  queueName := queued.queueName }
      emitLifecycle { eventType := .requestQueued, requestId := entry.requestId
                      correlationId := entry.requestContext.traceId, lifecycleState := .queued, timestamp := now
                      model := entry.inferenceRequest.model, toState := .queued
                      queuePosition := queued.queuePosition }
      return ref

/-- removes the head; updates no lifecycle state -/
def dequeueNext (now : Time) : ControlPlaneM (Option Ref) := do
  match ← dequeue cfg now with
  | none => return none
  | some item =>
    let entry ← derefEntry item.entry
    emitQueue { queueEvent .requestDequeued entry item.queuePosition now with
                queueWaitDuration := some (elapsed item.queueEnteredAt now)
                requestAge := some (elapsed entry.createdAt now) }
    return some item.entry

def remove (requestId : UUID) (now : Time) : ControlPlaneM (Option Ref) := do
  match ← removeItem requestId with
  | none => return none
  | some item =>
    let entry ← derefEntry item.entry
    emitQueue (queueEvent .queueRemoved entry item.queuePosition now)
    return some item.entry

/-- what `process_timeouts` does with one expired item -/
def timeOut (now : Time) (item : QueuedRequest) : ControlPlaneM Ref := do
  modifyEntry item.entry fun entry =>
    { entry.enter .processTimeouts .timedOut with
      failureReason := some .queueTimeout, failureMessage := some "queue wait timeout exceeded" }
  let entry ← derefEntry item.entry
  let _ ← updateState .processTimeouts entry.requestId .timedOut now
  emitQueue { queueEvent .queueTimeout entry item.queuePosition now with
              queueWaitDuration := some (elapsed item.queueEnteredAt now) }
  return item.entry

def timeOutAll (now : Time) : List QueuedRequest → ControlPlaneM (List Ref)
  | [] => pure []
  | item :: rest => do
    let ref ← timeOut now item
    let refs ← timeOutAll now rest
    return ref :: refs

def processTimeouts (now : Time) : ControlPlaneM (List Ref) := do
  let expired ← expireTimeoutsLocked cfg now
  timeOutAll now expired

end InferencePlatform.ControlPlane
