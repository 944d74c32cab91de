/-
Chunks, sessions and their timing, stream events and metrics, and the SSE text of a chunk.

A session is created for a submitted request, so its ids, correlation id and model are the request's and are not
repeated here. Durations are numbers of microseconds; the percentiles of a `StreamResult` are left out, its samples are
not.
-/
import InferencePlatform.Schemas
import InferencePlatform.Core.Json

namespace InferencePlatform.Streaming

open InferencePlatform.Core (Json)

/-- `str(uuid)`: 32 hexadecimal digits in five groups -/
def uuidText (u : UUID) : String :=
  let digits := (List.range 32).map fun i => Nat.digitChar (u / 16 ^ (31 - i) % 16)
  let group (start length : ℕ) := String.ofList ((digits.drop start).take length)
  "-".intercalate [group 0 8, group 8 4, group 12 4, group 16 4, group 20 12]

example : uuidText 0x123e4567e89b12d3a456426614174000 = "123e4567-e89b-12d3-a456-426614174000" := by decide +kernel

/-- `int(time.timestamp())` -/
def seconds (time : Time) : ℕ := time / 1000000

/-! ## Sessions -/

inductive StreamLifecycleState
  | streamCreated | streamActive | streamCompleted | streamCancelled | streamFailed
  deriving DecidableEq, Repr

structure StreamChunk where
  requestId : UUID
  index : ℕ
  deltaText : String
  finishReason : Option String
  timestamp : Time
  isFirst : Bool := false
  deriving DecidableEq, Repr

/-- the truth value of `finish_reason`: an empty one counts as none -/
def StreamChunk.finishes (chunk : StreamChunk) : Bool := chunk.finishReason.getD "" ≠ ""

structure StreamTimingMeasurements where
  requestReceivedTime : Time
  firstTokenTime : Option Time := none
  completionTime : Option Time := none
  tokenTimestamps : List Time := []
  deriving DecidableEq, Repr

namespace StreamTimingMeasurements

def recordToken (timing : StreamTimingMeasurements) (timestamp : Time) : StreamTimingMeasurements :=
  { timing with
    firstTokenTime := timing.firstTokenTime.or (some timestamp)
    tokenTimestamps := timing.tokenTimestamps ++ [timestamp] }

/-- `ttft_ms` -/
def ttft (timing : StreamTimingMeasurements) : Option ℤ :=
  timing.firstTokenTime.map fun first => (first : ℤ) - timing.requestReceivedTime

/-- `inter_token_latencies_ms` -/
def interTokenLatencies (timing : StreamTimingMeasurements) : List ℤ :=
  List.zipWith (fun previous current => (current : ℤ) - previous) timing.tokenTimestamps timing.tokenTimestamps.tail

end StreamTimingMeasurements

structure StreamSession where
  streamId : UUID
  backendId : Option String := none
  batchId : Option UUID := none
  state : StreamLifecycleState := .streamCreated
  timing : StreamTimingMeasurements
  generatedText : String := ""
  tokenCount : ℕ := 0
  error : Option String := none
  deriving DecidableEq, Repr

def StreamSession.create (streamId : UUID) (receivedAt : Time) : StreamSession :=
  { streamId, timing := { requestReceivedTime := receivedAt } }

structure StreamResult where
  streamId : UUID
  requestId : UUID
  state : StreamLifecycleState
  generatedText : String
  tokenCount : ℕ
  ttft : Option ℤ
  itlSamples : List ℤ
  completionTime : Option Time
  finishReason : Option String
  error : Option String
  deriving DecidableEq, Repr

def StreamResult.fromSession (requestId : UUID) (session : StreamSession) : StreamResult where
  streamId := session.streamId
  requestId
  state := session.state
  generatedText := session.generatedText
  tokenCount := session.tokenCount
  ttft := session.timing.ttft
  itlSamples := session.timing.interTokenLatencies
  completionTime := session.timing.completionTime
  finishReason := if session.state = .streamCompleted then some "stop" else none
  error := session.error

/-! ## Events and metrics -/

inductive StreamEventType
  | streamCreated | firstTokenEmitted | tokenEmitted | streamCompleted | streamFailed | streamCancelled
  deriving DecidableEq, Repr

structure StreamEvent where
  eventType : StreamEventType
  index : Option ℕ := none
  deltaLength : Option ℕ := none
  error : Option String := none
  deriving DecidableEq, Repr

/-- the stream metrics of the process -/
structure StreamMetrics where
  created : ℕ := 0
  completed : ℕ := 0
  failed : ℕ := 0
  cancelled : ℕ := 0
  ttft : List ℤ := []
  itl : List ℤ := []
  deriving DecidableEq, Repr

/-- the streams that have ended -/
def StreamMetrics.ended (m : StreamMetrics) : ℕ := m.completed + m.failed + m.cancelled

/-! ## SSE -/

def formatSseData (payload : Json) : String := "data: " ++ payload.dumps ++ "\n\n"

def formatSseDone : String := "data: [DONE]\n\n"

/-- `created or int(chunk.timestamp.timestamp())` -/
def createdAt (created : Option ℕ) (timestamp : Time) : ℕ :=
  if created.getD 0 = 0 then seconds timestamp else created.getD 0

def chunkDelta (chunk : StreamChunk) (includeRole : Bool) : List (String × Json) :=
  (if includeRole && chunk.isFirst then [("role", .str "assistant")] else []) ++
    (if chunk.deltaText ≠ "" then [("content", .str chunk.deltaText)] else [])

def chunkPayload (chunk : StreamChunk) (model : String) (created : Option ℕ) (includeRole : Bool) : Json :=
  .obj
    [("id", .str (uuidText chunk.requestId)), ("object", .str "chat.completion.chunk"),
      ("created", .num (createdAt created chunk.timestamp)), ("model", .str model),
      ("choices", .arr [.obj [("index", .num 0), ("delta", .obj (chunkDelta chunk includeRole)),
        ("finish_reason", match chunk.finishReason with | some reason => .str reason | none => .null)]])]

def chunkToOpenaiSse (chunk : StreamChunk) (model : String) (created : Option ℕ) (includeRole : Bool) : String :=
  formatSseData (chunkPayload chunk model created includeRole)

def errorPayload (message : String) (requestId : UUID) (model : String) (now : Time) : Json :=
  .obj
    [("id", .str (uuidText requestId)), ("object", .str "chat.completion.chunk"), ("created", .num (seconds now)),
      ("model", .str model),
      ("choices", .arr [.obj [("index", .num 0), ("delta", .obj [("content", .str "")]),
        ("finish_reason", .str "error")]]),
      ("error", .str message)]

def formatStreamErrorSse (message : String) (requestId : UUID) (model : String) (now : Time) : String :=
  formatSseData (errorPayload message requestId model now)

/-- a frame of a JSON object is not the closing frame -/
theorem formatSseData_obj_ne (fields : List (String × Json)) : formatSseData (.obj fields) ≠ formatSseDone := by
  intro h
  have hchars := congrArg String.toList h
  have hdone : formatSseDone.toList = "data: ".toList ++ "[DONE]\n\n".toList := by decide
  rw [formatSseData, String.toList_append, String.toList_append, hdone, List.append_assoc, List.append_cancel_left_eq,
    Json.dumps, String.toList_ofList, Json.dump] at hchars
  cases hchars

end InferencePlatform.Streaming
