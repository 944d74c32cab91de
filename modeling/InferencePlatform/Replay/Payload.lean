/-
Request payloads as dicts: dumped from a submit, cloned for a replay, stored, and built into a submit again.

The request models are here with all their fields and constraints, each constraint carried by the field's type. A strict
model takes a field as it is dumped (an id, a time or a member, never its text), refuses unknown keys and missing
required ones, and takes the nested dicts that `model_dump` makes. Only whether it raises matters, not the texts of its
errors.

The coercions of `normalize_payload_snapshot` write into the messages of the snapshot they are given, which they share
with the result; the model returns new ones.
-/
import InferencePlatform.Persistence.Values

namespace InferencePlatform.Replay

open InferencePlatform.Persistence (PyValue PyDict Texts)

/-! ## The models -/

inductive MessageRole
  | system | user | assistant
  deriving DecidableEq, Repr

def MessageRole.value : MessageRole → String
  | .system => "system"
  | .user => "user"
  | .assistant => "assistant"

def MessageRole.members : List MessageRole := [.system, .user, .assistant]

def priorityClasses : List PriorityClass := [.default, .elevated, .background]

structure Message where
  role : MessageRole
  content : String
  deriving DecidableEq, Repr

abbrev NonEmptyString := {s : String // s ≠ ""}

structure InferenceRequest where
  requestId : UUID
  model : NonEmptyString
  messages : {l : List Message // 1 ≤ l.length ∧ l.length ≤ 128}
  stream : Bool
  maxTokens : {n : ℤ // 1 ≤ n ∧ n ≤ 32768}
  temperature : Option {q : ℚ // 0 ≤ q ∧ q ≤ 2} := none
  topP : Option {q : ℚ // 0 ≤ q ∧ q ≤ 1} := none
  priorityClass : Option PriorityClass := none
  apiKeyId : Option String := none
  clientRequestId : Option String := none
  deriving DecidableEq

structure RequestContext where
  requestId : UUID
  traceId : NonEmptyString
  spanId : NonEmptyString
  arrivalTime : Time
  model : String
  stream : Bool
  gatewayInstanceId : String
  deriving DecidableEq

structure SubmitRequest where
  inferenceRequest : InferenceRequest
  requestContext : RequestContext
  deriving DecidableEq

/-! ## `model_dump` -/

def dumpRole (role : MessageRole) : PyValue := .enum "MessageRole" role.value

def dumpPriority (priority : PriorityClass) : PyValue := .enum "PriorityClass" priority.value

def dumpOpt {α : Type} (dump : α → PyValue) : Option α → PyValue
  | none => .none
  | some a => dump a

def Message.modelDump (message : Message) : PyValue :=
  .dict [("role", dumpRole message.role), ("content", .str message.content)]

def InferenceRequest.modelDump (request : InferenceRequest) : PyDict :=
  [("request_id", .uuid request.requestId), ("model", .str request.model),
    ("messages", .list (request.messages.1.map Message.modelDump)), ("stream", .bool request.stream),
    ("max_tokens", .int request.maxTokens), ("temperature", dumpOpt (fun q => .float q.1) request.temperature),
    ("top_p", dumpOpt (fun q => .float q.1) request.topP),
    ("priority_class", dumpOpt dumpPriority request.priorityClass),
    ("api_key_id", dumpOpt .str request.apiKeyId), ("client_request_id", dumpOpt .str request.clientRequestId)]

def RequestContext.modelDump (context : RequestContext) : PyDict :=
  [("request_id", .uuid context.requestId), ("trace_id", .str context.traceId), ("span_id", .str context.spanId),
    ("arrival_time", .datetime context.arrivalTime), ("model", .str context.model), ("stream", .bool context.stream),
    ("gateway_instance_id", .str context.gatewayInstanceId)]

/-! ## `model_validate` -/

/-- a required field -/
def field {α : Type} (data : PyDict) (key : String) (read : PyValue → Except String α) : Except String α :=
  match data.get? key with
  | none => .error "Field required"
  | some v => read v

/-- a field with the default `None`, which it may hold as well -/
def optField {α : Type} (data : PyDict) (key : String) (read : PyValue → Except String α) : Except String (Option α) :=
  match data.get? key with
  | none | some .none => .ok none
  | some v => (read v).map some

/-- `extra="forbid"` -/
def forbidExtra (fields : List String) (data : PyDict) : Except String Unit :=
  if data.all fun p => p.1 ∈ fields then .ok () else .error "Extra inputs are not permitted"

def check {α : Type} {p : α → Prop} [DecidablePred p] (message : String) (a : α) : Except String {a // p a} :=
  if h : p a then .ok ⟨a, h⟩ else .error message

def readUuid : PyValue → Except String UUID
  | .uuid u => .ok u
  | _ => .error "Input should be an instance of UUID"

def readDatetime : PyValue → Except String Time
  | .datetime t => .ok t
  | _ => .error "Input should be a valid datetime"

def readStr : PyValue → Except String String
  | .str s => .ok s
  | _ => .error "Input should be a valid string"

def readNonEmpty (v : PyValue) : Except String NonEmptyString := do
  check "String should have at least 1 character" (← readStr v)

def readBool : PyValue → Except String Bool
  | .bool b => .ok b
  | _ => .error "Input should be a valid boolean"

def readMaxTokens : PyValue → Except String {n : ℤ // 1 ≤ n ∧ n ≤ 32768}
  | .int n => check "Input should be between 1 and 32768" n
  | _ => .error "Input should be a valid integer"

/-- a number from 0 to `top`; an integer is one as well -/
def readNumber (top : ℚ) : PyValue → Except String {q : ℚ // 0 ≤ q ∧ q ≤ top}
  | .float q => check "Input out of range" q
  | .int n => check "Input out of range" n
  | _ => .error "Input should be a valid number"

def readRole : PyValue → Except String MessageRole
  | .enum "MessageRole" value =>
    match MessageRole.members.find? fun role => role.value = value with
    | some role => .ok role
    | none => .error "Input should be an instance of MessageRole"
  | _ => .error "Input should be an instance of MessageRole"

def readPriority : PyValue → Except String PriorityClass
  | .enum "PriorityClass" value =>
    match priorityClasses.find? fun priority => priority.value = value with
    | some priority => .ok priority
    | none => .error "Input should be an instance of PriorityClass"
  | _ => .error "Input should be an instance of PriorityClass"

def readMessage : PyValue → Except String Message
  | .dict data => do
    forbidExtra ["role", "content"] data
    return { role := ← field data "role" readRole, content := ← field data "content" readStr }
  | _ => .error "Input should be a valid dictionary"

def readMessages : PyValue → Except String {l : List Message // 1 ≤ l.length ∧ l.length ≤ 128}
  | .list items => do
    check "List should have 1 to 128 items" (← items.mapM readMessage)
  | _ => .error "Input should be a valid list"

def InferenceRequest.modelValidate (data : PyDict) : Except String InferenceRequest := do
  forbidExtra ["request_id", "model", "messages", "stream", "max_tokens", "temperature", "top_p", "priority_class",
    "api_key_id", "client_request_id"] data
  return { requestId := ← field data "request_id" readUuid, model := ← field data "model" readNonEmpty
           messages := ← field data "messages" readMessages, stream := ← field data "stream" readBool
           maxTokens := ← field data "max_tokens" readMaxTokens
           temperature := ← optField data "temperature" (readNumber 2), topP := ← optField data "top_p" (readNumber 1)
           priorityClass := ← optField data "priority_class" readPriority
           apiKeyId := ← optField data "api_key_id" readStr
           clientRequestId := ← optField data "client_request_id" readStr }

def RequestContext.modelValidate (data : PyDict) : Except String RequestContext := do
  forbidExtra ["request_id", "trace_id", "span_id", "arrival_time", "model", "stream", "gateway_instance_id"] data
  return { requestId := ← field data "request_id" readUuid, traceId := ← field data "trace_id" readNonEmpty
           spanId := ← field data "span_id" readNonEmpty, arrivalTime := ← field data "arrival_time" readDatetime
           model := ← field data "model" readStr, stream := ← field data "stream" readBool
           gatewayInstanceId := ← field data "gateway_instance_id" readStr }

/-! ## Payload snapshots -/

structure RequestPayloadSnapshot where
  inferenceRequest : PyDict
  requestContext : PyDict

def RequestPayloadSnapshot.fromSubmit (submit : SubmitRequest) : RequestPayloadSnapshot :=
  ⟨submit.inferenceRequest.modelDump, submit.requestContext.modelDump⟩

def payloadSnapshotToDict (payload : RequestPayloadSnapshot) : PyDict :=
  [("inference_request", .dict payload.inferenceRequest), ("request_context", .dict payload.requestContext)]

def payloadSnapshotFromDict (data : PyDict) : Except String RequestPayloadSnapshot := do
  return ⟨← (← data.item "inference_request").asDict, ← (← data.item "request_context").asDict⟩

/-- the assignment `data[key] = v` -/
def setItem (key : String) (v : PyValue) (data : PyDict) : PyDict := Core.Dict.setItems key v data

variable (texts : Texts)

def replayTraceId (replayId : UUID) : String := s!"replay-{texts.uuidText replayId}"

def replaySpanId (replayId : UUID) : String := s!"replay-span-{texts.uuidText replayId}"

def clonePayloadForReplay (payload : RequestPayloadSnapshot) (replayId : UUID) : RequestPayloadSnapshot where
  inferenceRequest := setItem "request_id" (.uuid replayId) payload.inferenceRequest
  requestContext :=
    setItem "span_id" (.str (replaySpanId texts replayId))
      (setItem "trace_id" (.str (replayTraceId texts replayId))
        (setItem "request_id" (.uuid replayId) payload.requestContext))

/-! ## Building a submit -/

/-- the text of a `str`, which a member is one of -/
def strText? : PyValue → Option String
  | .str s | .enum _ s => some s
  | _ => none

def coerceUuid (v : PyValue) : Except String PyValue :=
  match strText? v with
  | none => .ok v
  | some s =>
    match texts.parseUuid s with
    | some u => .ok (.uuid u)
    | none => .error "badly formed hexadecimal UUID string"

def coerceRole (v : PyValue) : Except String PyValue :=
  match strText? v with
  | none => .ok v
  | some s =>
    match MessageRole.members.find? fun role => role.value = s with
    | some role => .ok (dumpRole role)
    | none => .error s!"'{s}' is not a valid MessageRole"

def coercePriority (v : PyValue) : Except String PyValue :=
  match strText? v with
  | none => .ok v
  | some s =>
    match priorityClasses.find? fun priority => priority.value = s with
    | some priority => .ok (dumpPriority priority)
    | none => .error s!"'{s}' is not a valid PriorityClass"

def coerceTime (v : PyValue) : Except String PyValue :=
  match strText? v with
  | none => .ok v
  | some s =>
    match texts.fromisoformat s with
    | some t => .ok (.datetime t)
    | none => .error s!"Invalid isoformat string: '{s}'"

/-- `data[key]` coerced, where `data` has the key -/
def coerceItem (key : String) (coerce : PyValue → Except String PyValue) (data : PyDict) : Except String PyDict :=
  match data.get? key with
  | none => .ok data
  | some v => do return setItem key (← coerce v) data

def coerceMessage : PyValue → Except String PyValue
  | .dict message => do return .dict (← coerceItem "role" coerceRole message)
  | _ => .error "object has no attribute 'get'"

def coerceMessages (v : PyValue) : Except String PyValue :=
  if v.truthy then
    match v with
    | .list messages => do return .list (← messages.mapM coerceMessage)
    | .tuple messages => do return .tuple (← messages.mapM coerceMessage)
    | _ => .error "object has no attribute 'get'"
  else .ok v

def coerceInferenceRequest (data : PyDict) : Except String PyDict := do
  let data ← coerceItem "request_id" (coerceUuid texts) data
  let data ← coerceItem "messages" coerceMessages data
  coerceItem "priority_class" coercePriority data

def coerceRequestContext (data : PyDict) : Except String PyDict := do
  let data ← coerceItem "request_id" (coerceUuid texts) data
  coerceItem "arrival_time" (coerceTime texts) data

def normalizePayloadSnapshot (snapshot : RequestPayloadSnapshot) : Except String RequestPayloadSnapshot := do
  return ⟨← coerceInferenceRequest texts snapshot.inferenceRequest,
    ← coerceRequestContext texts snapshot.requestContext⟩

def submitFromPayload (snapshot : RequestPayloadSnapshot) : Except String SubmitRequest := do
  let normalized ← normalizePayloadSnapshot texts snapshot
  return ⟨← InferenceRequest.modelValidate normalized.inferenceRequest,
    ← RequestContext.modelValidate normalized.requestContext⟩

end InferencePlatform.Replay
