/-
`StreamEngine.stream_sse` and its handlers, over the streaming path of the orchestrator.

One run of the generator, consumed to its end. What it does not decide itself is its `Environment`: the answer of every
`await` and the operations of other tasks on the control plane while it waits, or while the client holds a frame. Any
chunk may come, any awaited call may raise, and a cancellation may be noticed at any chunk.

`execute_streaming_path` is modelled from the result of its scheduling cycle on; its way there is `Gateway.startIntake`,
`Gateway.startDispatch` and what they call, and stands here as operations of `opening`.

`marked` is not in the source. It records the state in which each `mark_failed` of the run found the request.
-/
import InferencePlatform.Gateway.Orchestrator
import InferencePlatform.Streaming.Models

namespace InferencePlatform.Streaming

open ControlPlane (ControlPlaneApplication ControlPlaneM Op)
open Gateway (Verdict)
open Batching (BatchPlacementDecision)

/-! ## Environment -/

/-- an `await`: what other tasks do meanwhile, the answer or the text of an exception, and the time then -/
structure Await (α : Type) where
  meanwhile : List Op := []
  answer : Except String α
  now : Time

/-- a chunk of the backend's stream, and what happens until the next one is asked for -/
structure Delivery where
  meanwhile : List Op := []
  chunk : StreamChunk
  now : Time
  /-- the stream's id is in `_cancelled_streams` -/
  cancelled : Bool := false
  /-- `disconnect_check`, when there is one -/
  disconnect : Option (Await Bool) := none
  /-- what encoding the chunk raises -/
  encoding : Option String := none

structure Environment where
  /-- up to the result of the scheduling cycle -/
  opening : Await Verdict
  /-- a backend is registered under the id -/
  hasBackend : String → Bool
  deliveries : List Delivery
  /-- the backend's stream ends or raises after the last chunk -/
  ending : Await Unit
  /-- what the batch engine's `complete_request` raises -/
  batch : Option String := none
  afterDone : List Op := []
  cancelRequest : Await Unit
  /-- what storing the stream's result raises; a negative duration, which `StreamingMetricsRecord` refuses, raises here
  as well -/
  capture : Option String := none
  failedAt : Time
  afterFailure : List Op := []
  /-- what storing the failed request raises -/
  captureFailure : Option String := none

/-! ## State -/

structure StreamState where
  controlPlane : ControlPlaneApplication
  session : StreamSession
  /-- what the client has received -/
  frames : List String := []
  events : List StreamEvent := []
  metrics : StreamMetrics := {}
  /-- `stream_metrics` of the registered request -/
  streamMetrics : Option StreamResult := none
  marked : List (Option RequestState) := []

/-- an exception is its text -/
abbrev StreamM := EStateM String StreamState

namespace StreamM

/-- the state a program leaves, whether it returns or raises -/
def final {α : Type} (x : StreamM α) (s : StreamState) : StreamState :=
  match EStateM.run x s with
  | .ok _ s' => s'
  | .error _ s' => s'

end StreamM

def onControlPlane {α : Type} (x : ControlPlaneM α) : StreamM α := fun s =>
  match EStateM.run x s.controlPlane with
  | .ok a controlPlane => .ok a { s with controlPlane }
  | .error err controlPlane => .error err.message { s with controlPlane }

def modifySession (f : StreamSession → StreamSession) : StreamM Unit :=
  modify fun s => { s with session := f s.session }

def modifyMetrics (f : StreamMetrics → StreamMetrics) : StreamM Unit :=
  modify fun s => { s with metrics := f s.metrics }

def emit (event : StreamEvent) : StreamM Unit := modify fun s => { s with events := s.events ++ [event] }

/-- `yield` -/
def send (frame : String) : StreamM Unit := modify fun s => { s with frames := s.frames ++ [frame] }

def orRaise : Option String → StreamM Unit
  | none => return ()
  | some message => throw message

def others (cfg : ControlPlane.Settings) (ops : List Op) : StreamM Unit := modify fun s =>
  { s with controlPlane := Core.run (ControlPlaneApplication.step cfg) s.controlPlane ops }

def awaiting {α : Type} (cfg : ControlPlane.Settings) (a : Await α) : StreamM α := do
  others cfg a.meanwhile
  match a.answer with
  | .ok x => return x
  | .error message => throw message

def markFailed (requestId : UUID) (reason : FailureReason) (message : String) (now : Time)
    (batchId : Option UUID := none) : StreamM Unit := do
  modify fun s => { s with marked := s.marked ++ [s.controlPlane.state? requestId] }
  let _ ← onControlPlane (ControlPlane.markFailed requestId reason message now batchId)

/-- `get_entry(request_id).state` -/
def entryState (requestId : UUID) : ControlPlaneM RequestState := do
  return (← ControlPlane.derefEntry (← ControlPlane.getRef requestId)).state

/-! ## The bookkeeping of a chunk -/

/-- the role is sent with the first chunk that is marked as the first -/
def includesRole (roleSent : Bool) (chunk : StreamChunk) : Bool := !roleSent && chunk.isFirst

def observeTtft : StreamM Unit := modify fun s =>
  { s with metrics := { s.metrics with ttft := s.metrics.ttft ++ s.session.timing.ttft.toList } }

def observeItl (previous : Option Time) (now : Time) : StreamM Unit :=
  modifyMetrics fun m => { m with itl := m.itl ++ (previous.map fun t => (now : ℤ) - t).toList }

/-- the times of the first token and of the others; `previous` is the time of the token before this one -/
def recordChunk (chunk : StreamChunk) (previous : Option Time) : StreamM Unit := do
  let now := chunk.timestamp
  if chunk.isFirst || (chunk.deltaText ≠ "" && (← get).session.tokenCount = 0) then
    modifySession fun session =>
      { session with timing := session.timing.recordToken now, state := .streamActive }
    emit { eventType := .firstTokenEmitted, index := some chunk.index }
    observeTtft
  else if chunk.deltaText ≠ "" then
    modifySession fun session => { session with timing := session.timing.recordToken now }
    observeItl previous now
    emit { eventType := .tokenEmitted, index := some chunk.index, deltaLength := some chunk.deltaText.length }

def appendText (chunk : StreamChunk) : StreamM Unit :=
  if chunk.deltaText ≠ "" then
    modifySession fun session =>
      { session with
        generatedText := session.generatedText ++ chunk.deltaText
        tokenCount := session.tokenCount + 1 }
  else return ()

def recordFinish (chunk : StreamChunk) : StreamM Unit := do
  if chunk.finishes then
    modifySession fun session =>
      { session with
        timing := { session.timing with completionTime := some chunk.timestamp }
        state := .streamCompleted }
    emit { eventType := .streamCompleted }
    modifyMetrics fun m => { m with completed := m.completed + 1 }

/-- after a chunk has been sent; the result is the time of the last token -/
def account (chunk : StreamChunk) (previous : Option Time) : StreamM (Option Time) := do
  recordChunk chunk previous
  appendText chunk
  recordFinish chunk
  return if chunk.deltaText ≠ "" then some chunk.timestamp else previous

/-! ## The run -/

section Run

variable (cfg : ControlPlane.Settings) (submit : SubmitRequest) (env : Environment)

/-- `execute_streaming_path` between its scheduling cycle and the dispatch check -/
def markBatched (placement : BatchPlacementDecision) (now : Time) : ControlPlaneM Unit := do
  let _ ← ControlPlane.transition submit.inferenceRequest.requestId .scheduled now placement.batchId
  let _ ← ControlPlane.transition submit.inferenceRequest.requestId .batched now

def markStreaming (backendId : String) (now : Time) : ControlPlaneM Unit := do
  let _ ← ControlPlane.transition submit.inferenceRequest.requestId .submitted now none backendId
  let _ ← ControlPlane.transition submit.inferenceRequest.requestId .streaming now

/-- `execute_streaming_path` up to the first chunk -/
def openStream : StreamM Unit := do
  let requestId := submit.inferenceRequest.requestId
  let now := env.opening.now
  match ← awaiting cfg env.opening with
  | .rejected reason =>
    markFailed requestId .adapterError reason now
    throw reason
  | .notSelected =>
    markFailed requestId .internalError "scheduler_did_not_select_request" now
    throw "scheduler_did_not_select_request"
  | .notDispatched placement reason =>
    onControlPlane (markBatched submit placement now)
    markFailed requestId .adapterError reason now placement.batchId
    throw reason
  | .dispatched placement dispatch =>
    onControlPlane (markBatched submit placement now)
    modifySession fun session =>
      { session with batchId := some placement.batchId, backendId := some dispatch.backendId }
    onControlPlane (markStreaming submit dispatch.backendId now)
    if env.hasBackend dispatch.backendId then return ()
    else throw s!"backend not found: {dispatch.backendId}"

/-- `execute_streaming_path` after the last chunk -/
def finishStream : StreamM Unit := do
  awaiting cfg env.ending
  orRaise env.batch
  let _ ← onControlPlane (ControlPlane.completeRequest submit.inferenceRequest.requestId none env.ending.now)

/-- `_persist_stream_metrics` -/
def persistStreamMetrics : StreamM Unit := do
  let _ ← onControlPlane (entryState submit.inferenceRequest.requestId)
  modify fun s => { s with streamMetrics := some (.fromSession submit.inferenceRequest.requestId s.session) }
  orRaise env.capture

/-- `_handle_cancel` -/
def handleCancel (now : Time) : StreamM Unit := do
  modifySession fun session =>
    { session with timing := { session.timing with completionTime := some now }, state := .streamCancelled }
  emit { eventType := .streamCancelled }
  modifyMetrics fun m => { m with cancelled := m.cancelled + 1 }
  if (← get).session.backendId.isSome then awaiting cfg env.cancelRequest
  let _ ← onControlPlane (ControlPlane.cancel submit.inferenceRequest.requestId env.cancelRequest.now)
  persistStreamMetrics submit env

/-- `_persist_stream_failure` -/
def persistStreamFailure (message : String) : StreamM Unit := do
  let state ← onControlPlane (entryState submit.inferenceRequest.requestId)
  if state ≠ .failed ∧ state ≠ .cancelled then
    markFailed submit.inferenceRequest.requestId .adapterError message env.failedAt
  orRaise env.captureFailure

def disconnected (d : Delivery) : StreamM Bool :=
  match d.disconnect with
  | none => return false
  | some check => awaiting cfg check

/-- the loop over the chunks; `false` when the run ends in a cancellation -/
def deliver (created : ℕ) : Bool → Option Time → List Delivery → StreamM Bool
  | _, _, [] => return true
  | roleSent, previous, d :: rest => do
    others cfg d.meanwhile
    if d.cancelled then
      handleCancel cfg submit env d.now
      return false
    else if ← disconnected cfg d then
      handleCancel cfg submit env d.now
      return false
    else
      orRaise d.encoding
      send (chunkToOpenaiSse d.chunk submit.inferenceRequest.model (some created) (includesRole roleSent d.chunk))
      let previous ← account d.chunk previous
      deliver created (roleSent || includesRole roleSent d.chunk) previous rest

/-- the `try` block -/
def runStream (created : ℕ) : StreamM Unit := do
  openStream cfg submit env
  if ← deliver cfg submit env created false none env.deliveries then
    finishStream cfg submit env
    send formatSseDone
    others cfg env.afterDone
    persistStreamMetrics submit env

/-- the `except` block -/
def failStream (message : String) : StreamM Unit := do
  modifySession fun session =>
    { session with
      state := .streamFailed
      error := some message
      timing := { session.timing with completionTime := some env.failedAt } }
  emit { eventType := .streamFailed, error := some message }
  modifyMetrics fun m => { m with failed := m.failed + 1 }
  send (formatStreamErrorSse message submit.inferenceRequest.requestId submit.inferenceRequest.model env.failedAt)
  send formatSseDone
  others cfg env.afterFailure
  persistStreamFailure submit env message

def streamSse : StreamM Unit := do
  modifyMetrics fun m => { m with created := m.created + 1 }
  emit { eventType := .streamCreated }
  modifySession fun session => { session with state := .streamCreated }
  let created := seconds (← get).session.timing.requestReceivedTime
  tryCatch (runStream cfg submit env created) (failStream cfg submit env)

end Run

/-- a run starts with a new session -/
def StreamState.start (controlPlane : ControlPlaneApplication) (streamId : UUID) (receivedAt : Time)
    (metrics : StreamMetrics) : StreamState :=
  { controlPlane, session := .create streamId receivedAt, metrics }

end InferencePlatform.Streaming
