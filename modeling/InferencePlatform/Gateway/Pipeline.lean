/-
From a body and its headers to the request that is handed on.

`prepareChatRequest` is what both endpoints run first: the key, the body, the model's record, and the two models that
are handed on as one `SubmitRequest`. Those are pydantic models again, so that every field is read once more, by the
readers of `Gateway.RequestBody`; what they refuse there is no `GatewayError`.

- `prepared_iff`: a request is handed on exactly if its key is allowed and its body says, field by field, what is handed
  on, within the limits of the model's record;
- `refusals`: otherwise the refusal is typed, with its status: 401 before anything of the body is looked at, 404 for a
  model that is not registered, and 400;
- `handed_on`: the streaming path is handed streaming requests only, the full path the others.

A header's value is decoded as Latin-1. The digest of a key, the trace's random ids, the clock and `uuid4()` are
parameters. Left out: logging, and the two timestamps that only measure.
-/
import InferencePlatform.Core.Dict
import InferencePlatform.Gateway.RequestBody

namespace InferencePlatform.Gateway.Pipeline

open InferencePlatform.Core (Dict)
open Replay (MessageRole)

/-! ## Settings and registry -/

/-- a header's value -/
abbrev Header := {s : Text // ∀ c ∈ s, c < 256}

structure Settings where
  maxBodyBytes : ℕ
  defaultMaxTokens : ℤ
  /-- separated by commas -/
  apiKeys : Text
  gatewayInstanceId : {s : Text // isUnicode s = true}

structure ModelRecord where
  modelId : Text
  maxOutputTokens : {n : ℤ // 1 ≤ n}
  maxPromptTokens : {n : ℤ // 1 ≤ n}

structure ModelRegistry where
  models : Dict Text ModelRecord
  keyed : ∀ key record, models.get? key = some record → record.modelId = key

namespace ModelRegistry

def empty : ModelRegistry := ⟨Dict.empty, fun _ _ h => by cases h⟩

def registerModel (registry : ModelRegistry) (record : ModelRecord) : ModelRegistry where
  models := registry.models.set record.modelId record
  keyed key record' h := by
    rw [Dict.get?_set] at h
    split_ifs at h with hkey
    · rw [hkey, Option.some.inj h]
    · exact registry.keyed key record' h

def getModel (registry : ModelRegistry) (modelId : Text) : Option ModelRecord := registry.models.get? modelId

end ModelRegistry

/-! ## The key -/

inductive PipelineError
  | raised (err : Raised)
  /-- pydantic's `ValidationError`, of a model that is handed on -/
  | validationError (details : ErrorDetails)

def PipelineError.gateway (err : GatewayError) : PipelineError := .raised (.gateway err)

def authenticationError : GatewayError := ⟨.authenticationError, text "invalid or missing API key", 401, none⟩

def unknownModel (model : Text) : GatewayError := ⟨.unknownModel, text "unknown model: " ++ model, 404, none⟩

def notImplemented (message : Text) : GatewayError := ⟨.internalError, message, 501, none⟩

def isSpace (c : ℕ) : Bool :=
  9 ≤ c ∧ c ≤ 13 ∨ 28 ≤ c ∧ c ≤ 32 ∨ c = 0x85 ∨ c = 0xA0 ∨ c = 0x1680 ∨ 0x2000 ≤ c ∧ c ≤ 0x200A ∨
    c = 0x2028 ∨ c = 0x2029 ∨
    c = 0x202F ∨ c = 0x205F ∨ c = 0x3000

def strip (s : Text) : Text := ((s.dropWhile isSpace).reverse.dropWhile isSpace).reverse

/-- `api_keys.split(",")`, stripped, without the empty ones -/
def Settings.allowedKeys (cfg : Settings) : List Text :=
  ((cfg.apiKeys.splitOn ','.toNat).map strip).filter fun key => key ≠ []

def bearer : Text := text "Bearer "

def validateApiKey (cfg : Settings) (authorization : Option Header) : Except GatewayError Text :=
  match authorization with
  | none => .error authenticationError
  | some header =>
    if bearer.isPrefixOf header.1 then
      let token := strip (header.1.drop bearer.length)
      if token = [] then .error authenticationError
      else if cfg.apiKeys ≠ [] ∧ ¬cfg.allowedKeys.contains token then .error authenticationError
      else .ok token
    else .error authenticationError

/-! ## The body of a legacy completion -/

variable {F : Type} (py : Python F)

def allowedCompletionFields : List Text := ["model", "prompt", "stream", "max_tokens", "temperature", "top_p"].map text

structure CompletionRequestIn (F : Type) where
  model : {s : Text // s ≠ []}
  prompt : {s : Text // s ≠ []}
  stream : Bool
  maxTokens : Option {n : ℤ // 1 ≤ n ∧ n ≤ 32768}
  temperature : Option F
  topP : Option F

/-- `min_length=1`, then the validator `prompt_non_empty` -/
def readPrompt (v : JsonValue F) : Except ErrorDetails {s : Text // s ≠ []} := do
  let s ← readNonEmpty v
  if strip s.1 = [] then refuse "Value error, prompt must not be empty" else .ok s

def CompletionRequestIn.modelValidate (data : List (Text × JsonValue F)) : Except ErrorDetails
    (CompletionRequestIn F) := do
  let model ← requiredField data "model" readNonEmpty
  let prompt ← requiredField data "prompt" readPrompt
  let stream ← defaultField data "stream" false readBool
  let maxTokens ← defaultField data "max_tokens" none (optional readMaxTokens)
  let temperature ← defaultField data "temperature" none (optional (readNumber py 2))
  let topP ← defaultField data "top_p" none (optional (readNumber py 1))
  forbidExtra ["model", "prompt", "stream", "max_tokens", "temperature", "top_p"] data
  return { model, prompt, stream, maxTokens, temperature, topP }

/-- as a chat request with the prompt for its one message -/
def CompletionRequestIn.chat (request : CompletionRequestIn F) : ChatCompletionRequestIn F :=
  { model := request.model
    messages := ⟨[{ role := .user, content := request.prompt.1 }], by simp, by simp⟩
    stream := request.stream, maxTokens := request.maxTokens, temperature := request.temperature, topP := request.topP }

def parseCompletionRequest (body : List (Text × JsonValue F)) : Except GatewayError (ChatCompletionRequestIn F) := do
  checkUnsupportedFields py body allowedCompletionFields
  match CompletionRequestIn.modelValidate py body with
  | .ok request => .ok request.chat
  | .error details => .error (pydanticToGateway details)

/-! ## What is handed on -/

structure Message where
  role : MessageRole
  content : Text
  deriving DecidableEq, Repr

structure InferenceRequest (F : Type) where
  requestId : UUID
  model : {s : Text // s ≠ []}
  messages : {l : List Message // 1 ≤ l.length ∧ l.length ≤ 128}
  stream : Bool
  maxTokens : {n : ℤ // 1 ≤ n ∧ n ≤ 32768}
  temperature : Option F
  topP : Option F
  apiKeyId : Option Text
  clientRequestId : Option Text

structure RequestContext where
  requestId : UUID
  traceId : {s : Text // s ≠ []}
  spanId : {s : Text // s ≠ []}
  arrivalTime : Time
  model : Text
  stream : Bool
  gatewayInstanceId : Text

structure SubmitRequest (F : Type) where
  inferenceRequest : InferenceRequest F
  requestContext : RequestContext

/-- `min(default_max_tokens, max_output_tokens)` where the body has no limit -/
def maxTokensOf (cfg : Settings) (record : ModelRecord) (request : ChatCompletionRequestIn F) : ℤ :=
  match request.maxTokens with
  | some n => n.1
  | none => min cfg.defaultMaxTokens record.maxOutputTokens.1

def Message.construct (m : ChatMessageIn) : Except ErrorDetails Message := do
  let content ← within (text "content") (readText (.str m.content : JsonValue F))
  return { role := m.role, content }

def constructMessages : List ChatMessageIn → Except ErrorDetails (List Message)
  | [] => return []
  | m :: rest => return (← Message.construct (F := F) m) :: (← constructMessages rest)

def promptLength (messages : List Message) : ℤ := (messages.map fun m => (m.content.length : ℤ)).sum

def validatePromptLength (messages : List Message) (maxChars : ℤ) : Except GatewayError Unit :=
  if promptLength messages > maxChars then
    .error (validationError (text s!"total prompt length {promptLength messages} exceeds limit {maxChars}")
      (some (text "messages")))
  else .ok ()

/-- an optional value as pydantic is given it -/
def given (value : Option F) : JsonValue F := value.elim .none .float

def InferenceRequest.construct (cfg : Settings) (record : ModelRecord) (request : ChatCompletionRequestIn F)
    (requestId : UUID) (apiKeyId : Text) (clientRequestId : Option Header) (messages : List Message) :
    Except ErrorDetails (InferenceRequest F) := do
  let model ← within (text "model") (readNonEmpty (.str record.modelId : JsonValue F))
  if hlength : 1 ≤ messages.length ∧ messages.length ≤ 128 then
    let maxTokens ← within (text "max_tokens") (readMaxTokens (.int (maxTokensOf cfg record request) : JsonValue F))
    let temperature ← within (text "temperature") (optional (readNumber py 2) (given request.temperature))
    let topP ← within (text "top_p") (optional (readNumber py 1) (given request.topP))
    let apiKeyId ← within (text "api_key_id") (readText (.str apiKeyId : JsonValue F))
    let clientRequestId ← within (text "client_request_id")
      (optional readText (clientRequestId.elim .none fun header => (.str header.1 : JsonValue F)))
    return { requestId, model, messages := ⟨messages, hlength⟩, stream := request.stream, maxTokens, temperature, topP
             apiKeyId := some apiKeyId, clientRequestId }
  else within (text "messages") (refuse s!"List should have 1 to 128 items after validation, not {messages.length}")

def buildInferenceRequest (cfg : Settings) (record : ModelRecord) (request : ChatCompletionRequestIn F)
    (requestId : UUID)
    (apiKeyId : Text) (clientRequestId : Option Header) : Except PipelineError (InferenceRequest F) := do
  if maxTokensOf cfg record request > record.maxOutputTokens.1 then
    throw (.gateway (validationError (text s!"max_tokens exceeds model limit {record.maxOutputTokens.1}")
      (some (text "max_tokens"))))
  let messages ← (constructMessages (F := F) request.messages.1).mapError .validationError
  (validatePromptLength messages record.maxPromptTokens.1).mapError .gateway
  (InferenceRequest.construct py cfg record request requestId apiKeyId clientRequestId messages).mapError
    .validationError

/-- the random ids of `TraceContext.new_trace` -/
structure TraceContext where
  traceId : {s : Text // s ≠ [] ∧ isUnicode s = true}
  spanId : {s : Text // s ≠ [] ∧ isUnicode s = true}

/-- `(correlation_header or client_request_header or "").strip()`, or the trace's id -/
def correlationId (correlationHeader clientRequestHeader : Option Header) (trace : TraceContext) : Text :=
  let header := ((correlationHeader.filter fun h => h.1 ≠ []).orElse fun _ =>
    clientRequestHeader.filter fun h => h.1 ≠ []).elim [] Subtype.val
  if strip header = [] then trace.traceId.1 else strip header

def buildRequestContext (cfg : Settings) (request : InferenceRequest F) (correlationId : Text) (trace : TraceContext)
    (received : Time) : Except ErrorDetails RequestContext := do
  let traceId ← within (text "trace_id") (readNonEmpty (.str correlationId : JsonValue F))
  let spanId ← within (text "span_id") (readNonEmpty (.str trace.spanId.1 : JsonValue F))
  return { requestId := request.requestId, traceId, spanId, arrivalTime := received, model := request.model.1
           stream := request.stream, gatewayInstanceId := cfg.gatewayInstanceId.1 }

/-! ## The endpoints -/

/-- what comes with a call, and what the process draws for it -/
structure Arrival where
  raw : List UInt8
  authorization : Option Header
  correlationHeader : Option Header
  clientRequestHeader : Option Header
  requestId : UUID
  trace : TraceContext
  received : Time

variable (cfg : Settings) (registry : ModelRegistry) (apiKeyId : Text → {s : Text // isUnicode s = true})

/-- the body, as a chat request -/
def readBody (legacy : Bool) (raw : List UInt8) : Except PipelineError (ChatCompletionRequestIn F) := do
  let body ← (parseJsonBody py cfg.maxBodyBytes raw).mapError .raised
  (if legacy then parseCompletionRequest py body else parseChatRequest py body).mapError .gateway

def prepareChatRequest (legacy : Bool) (a : Arrival) : Except PipelineError (SubmitRequest F) := do
  let token ← (validateApiKey cfg a.authorization).mapError .gateway
  let request ← readBody py cfg legacy a.raw
  match registry.getModel request.model.1 with
  | none => throw (.gateway (unknownModel request.model.1))
  | some record =>
    let inferenceRequest ←
      buildInferenceRequest py cfg record request a.requestId (apiKeyId token).1 a.clientRequestHeader
    let requestContext ← (buildRequestContext cfg inferenceRequest
      (correlationId a.correlationHeader a.clientRequestHeader a.trace) a.trace a.received).mapError .validationError
    return { inferenceRequest, requestContext }

/-- what the control plane is asked to accept, and for which path -/
inductive Handover (F : Type)
  | fullPath (submit : SubmitRequest F)
  | streaming (submit : SubmitRequest F)

/-- `process_chat_completion`, up to `accept_request` -/
def processChatCompletion (legacy : Bool) (a : Arrival) : Except PipelineError (Handover F) := do
  let submit ← prepareChatRequest py cfg registry apiKeyId legacy a
  if submit.inferenceRequest.stream then
    throw (.gateway (notImplemented (text "use streaming endpoint for stream=true requests")))
  else return .fullPath submit

/-- `process_streaming_chat_completion`, up to `accept_request` -/
def processStreamingChatCompletion (legacy : Bool) (a : Arrival) : Except PipelineError (Handover F) := do
  let submit ← prepareChatRequest py cfg registry apiKeyId legacy a
  if submit.inferenceRequest.stream then return .streaming submit
  else throw (.gateway (validationError (text "stream=true required for streaming endpoint") (some (text "stream"))))

/-- `create_chat_completion`; `integrated` says that there is a full path -/
def chatEndpoint (integrated : Bool) (a : Arrival) : Except PipelineError (Handover F) := do
  let bodyStream ← (requestWantsStream py a.raw).mapError .raised
  if bodyStream && integrated then processStreamingChatCompletion py cfg registry apiKeyId false a
  else processChatCompletion py cfg registry apiKeyId false a

/-- `create_completion` -/
def completionEndpoint (a : Arrival) : Except PipelineError (Handover F) :=
  processChatCompletion py cfg registry apiKeyId true a

/-! ## What a body says -/

section Says

variable {py} {α : Type} {data : List (Text × JsonValue F)} {key : String}

/-- `read` takes a value for a result exactly if `S` relates the two -/
def Reads (read : JsonValue F → Except ErrorDetails α) (S : JsonValue F → α → Prop) : Prop :=
  ∀ v a, read v = .ok a ↔ S v a

def HasField (data : List (Text × JsonValue F)) (key : String) (S : JsonValue F → α → Prop) (a : α) : Prop :=
  ∃ v, getField data key = some v ∧ S v a

def HasDefault (data : List (Text × JsonValue F)) (key : String) (default : α)
    (S : JsonValue F → α → Prop) (a : α) : Prop :=
  getField data key = none ∧ a = default ∨ HasField data key S a

/-- null for none -/
def Nullable (S : JsonValue F → α → Prop) (v : JsonValue F) (a : Option α) : Prop :=
  match v with
  | .none => a = none
  | v => ∃ b, S v b ∧ a = some b

def OnlyKeys (fields : List String) (data : List (Text × JsonValue F)) : Prop :=
  ∀ field ∈ data, field.1 ∈ fields.map text

def IsText (v : JsonValue F) (s : Text) : Prop := v = .str s ∧ isUnicode s = true

def IsNonEmpty (v : JsonValue F) (s : {s : Text // s ≠ []}) : Prop := IsText v s.1

def IsBool (v : JsonValue F) (b : Bool) : Prop := v = .bool b

def IsMaxTokens (v : JsonValue F) (n : {n : ℤ // 1 ≤ n ∧ n ≤ 32768}) : Prop := v = .int n.1

def IsNumber (py : Python F) (le : ℕ) (v : JsonValue F) (x : F) : Prop :=
  (v = .float x ∨ ∃ i, v = .int i ∧ py.ofInt i = some x) ∧ py.AtMost x le ∧ py.AtLeast x 0

def IsRole (v : JsonValue F) (role : MessageRole) : Prop := v = .str (text role.value)

structure IsMessage (v : JsonValue F) (m : ChatMessageIn) : Prop where
  fields : ∃ data, v = .dict data ∧ HasField data "role" IsRole m.role ∧ HasField data "content" IsText m.content ∧
    OnlyKeys ["role", "content"] data

def IsMessages (v : JsonValue F) (l : {l : List ChatMessageIn // 1 ≤ l.length ∧ l.length ≤ 128}) : Prop :=
  ∃ items, v = .list items ∧ List.Forall₂ IsMessage items l.1

theorem within_ok {part : Text} {x : Except ErrorDetails α} {a : α} : within part x = .ok a ↔ x = .ok a := by
  cases x <;> simp [within]

theorem requiredField_ok {read : JsonValue F → Except ErrorDetails α} {S : JsonValue F → α → Prop}
    (h : Reads read S) {a : α} :
    requiredField data key read = .ok a ↔ HasField data key S a := by
  unfold requiredField HasField
  rw [within_ok]
  cases getField data key with
  | none => simp [refuse]
  | some v => simpa using h v a

theorem defaultField_ok {read : JsonValue F → Except ErrorDetails α} {S : JsonValue F → α → Prop} (h : Reads read S)
    {default a : α} : defaultField data key default read = .ok a ↔ HasDefault data key default S a := by
  unfold defaultField HasDefault HasField
  rw [within_ok]
  cases getField data key with
  | none => simp [eq_comm]
  | some v => simpa using h v a

theorem optional_reads {read : JsonValue F → Except ErrorDetails α} {S : JsonValue F → α → Prop} (h : Reads read S) :
    Reads (optional read) (Nullable S) := by
  intro v a
  have hsome : (read v).map some = .ok a ↔ ∃ b, S v b ∧ a = some b := by
    constructor
    · intro hmap
      cases hread : read v with
      | error err => simp [hread, Except.map] at hmap
      | ok b =>
        refine ⟨b, (h v b).1 hread, ?_⟩
        simpa [hread, Except.map, eq_comm] using hmap
    · rintro ⟨b, hb, rfl⟩
      rw [(h v b).2 hb]
      rfl
  cases v with
  | none => simp [optional, Nullable, eq_comm]
  | bool b | int i | float x | str s | list items | dict fields => exact hsome

theorem forbidExtra_ok {fields : List String} : forbidExtra fields data = .ok () ↔ OnlyKeys fields data := by
  unfold forbidExtra OnlyKeys
  cases hfind : data.find? fun field => field.1 ∉ fields.map text with
  | none =>
    rw [List.find?_eq_none] at hfind
    simpa using hfind
  | some field =>
    have hmem := List.mem_of_find?_eq_some hfind
    have hnot := List.find?_some hfind
    simp only [decide_eq_true_eq] at hnot
    simp only [within, refuse, reduceCtorEq, false_iff]
    exact fun hall => hnot (hall field hmem)

theorem readText_reads : Reads (readText (F := F)) IsText := by
  intro v a
  cases v with
  | str s =>
    by_cases hs : isUnicode s = true
    · simp only [readText, hs, if_true, IsText, Except.ok.injEq, JsonValue.str.injEq]
      exact ⟨fun heq => ⟨heq, heq ▸ hs⟩, And.left⟩
    · simp only [readText, if_neg hs, refuse, IsText, reduceCtorEq, JsonValue.str.injEq, false_iff]
      rintro ⟨rfl, hunicode⟩
      exact hs hunicode
  | none | bool b | int i | float x | list items | dict fields => simp [readText, IsText, refuse]

theorem readNonEmpty_reads : Reads (readNonEmpty (F := F)) IsNonEmpty := by
  rintro v ⟨s, hs⟩
  constructor
  · intro h
    obtain ⟨s', hread, h⟩ := exists_of_bind h
    split_ifs at h with hne
    · obtain rfl : s' = s := by simpa using h
      exact (readText_reads v s').1 hread
    · simp [refuse] at h
  · intro h
    rw [readNonEmpty, (readText_reads v s).2 h]
    simp [bind, Except.bind, hs]

theorem readBool_reads : Reads (readBool (F := F)) IsBool := by
  intro v a
  cases v <;> simp [readBool, IsBool, refuse, eq_comm]

theorem readMaxTokens_reads : Reads (readMaxTokens (F := F)) IsMaxTokens := by
  rintro v ⟨n, hlo, hhi⟩
  cases v with
  | int i =>
    simp only [readMaxTokens, IsMaxTokens, JsonValue.int.injEq]
    split_ifs with hi lo
    · simp
    · simp only [refuse, reduceCtorEq, false_iff]
      omega
    · simp only [refuse, reduceCtorEq, false_iff]
      omega
  | none | bool b | float x | str s | list items | dict fields => simp [readMaxTokens, IsMaxTokens, refuse]

theorem bounded_ok {le : ℕ} {x y : F} :
    readNumber.bounded py le x = .ok y ↔ x = y ∧ py.AtMost y le ∧ py.AtLeast y 0 := by
  unfold readNumber.bounded
  split_ifs with hle hge
  · rw [Except.ok.injEq]
    exact ⟨fun heq => ⟨heq, heq ▸ hle, heq ▸ hge⟩, And.left⟩
  · simp only [refuse, reduceCtorEq, false_iff]
    rintro ⟨rfl, -, hge'⟩
    exact hge hge'
  · simp only [refuse, reduceCtorEq, false_iff]
    rintro ⟨rfl, hle', -⟩
    exact hle hle'

theorem readNumber_reads (le : ℕ) : Reads (readNumber py le) (IsNumber py le) := by
  intro v x
  cases v with
  | float y => simp [readNumber, IsNumber, bounded_ok]
  | int i =>
    cases hi : py.ofInt i with
    | none => simp [readNumber, IsNumber, hi, refuse]
    | some y => simp [readNumber, IsNumber, hi, bounded_ok]
  | none | bool b | str s | list items | dict fields => simp [readNumber, IsNumber, refuse]

theorem coerceRole_reads : Reads (coerceRole py) IsRole := by
  intro v role
  cases v with
  | str s =>
    simp only [coerceRole, IsRole, JsonValue.str.injEq]
    cases hfind : MessageRole.members.find? fun role => text role.value = s with
    | none =>
      have hnot := List.find?_eq_none.1 hfind role (by cases role <;> decide)
      simp only [reduceCtorEq, false_iff]
      exact fun heq => hnot (decide_eq_true heq.symm)
    | some found =>
      have hfound : text found.value = s := by simpa using List.find?_some hfind
      simp only [Except.ok.injEq]
      constructor
      · rintro rfl
        exact hfound.symm
      · rintro rfl
        revert hfound
        cases found <;> cases role <;> decide
  | none | bool b | int i | float x | list items | dict fields => simp [coerceRole, IsRole, refuse]

/-- a computation that ends with a check and a result -/
theorem check_ok {β : Type} {x : Except ErrorDetails Unit} {b c : β} :
    (x >>= fun _ => .ok b) = .ok c ↔ x = .ok () ∧ b = c := by
  cases x <;> simp [bind, Except.bind]

theorem bind_ok {β γ : Type} {ε : Type} {x : Except ε β} {f : β → Except ε γ} {c : γ} :
    (x >>= f) = .ok c ↔ ∃ b, x = .ok b ∧ f b = .ok c := by
  cases x <;> simp [bind, Except.bind]

theorem messageModelValidate_reads : Reads (ChatMessageIn.modelValidate py) IsMessage := by
  rintro v ⟨role, content⟩
  cases v with
  | dict data =>
    simp only [ChatMessageIn.modelValidate, bind_ok, requiredField_ok coerceRole_reads, requiredField_ok readText_reads,
      pure, Except.pure, Except.ok.injEq, ChatMessageIn.mk.injEq]
    constructor
    · rintro ⟨r, hrole, c, hcontent, u, hkeys, rfl, rfl⟩
      exact ⟨data, rfl, hrole, hcontent, forbidExtra_ok.1 hkeys⟩
    · rintro ⟨data', hdata, hrole, hcontent, hkeys⟩
      obtain rfl : data = data' := by simpa using hdata
      exact ⟨role, hrole, content, hcontent, (), forbidExtra_ok.2 hkeys, rfl, rfl⟩
  | none | bool b | int i | float x | str s | list items =>
    simp only [ChatMessageIn.modelValidate, refuse, reduceCtorEq, false_iff]
    rintro ⟨data, hdata, -⟩
    cases hdata

theorem mapIdx_ok {β : Type} {read : JsonValue F → Except ErrorDetails β} {S : JsonValue F → β → Prop}
    (h : Reads read S) (part : ℕ → Text) (items : List (JsonValue F)) (bs : List β) :
    (items.mapIdx fun i item => within (part i) (read item)).mapM id = .ok bs ↔ List.Forall₂ S items bs := by
  induction items generalizing part bs with
  | nil => simp [pure, Except.pure, eq_comm]
  | cons item rest ih =>
    rw [List.mapIdx_cons, List.mapM_cons]
    simp only [id, bind_ok, within_ok, h item, pure, Except.pure, Except.ok.injEq]
    constructor
    · rintro ⟨b, hb, bs', hrest, rfl⟩
      exact .cons hb ((ih (fun i => part (i + 1)) bs').1 hrest)
    · intro hall
      cases hall with
      | cons hb hrest => exact ⟨_, hb, _, (ih (fun i => part (i + 1)) _).2 hrest, rfl⟩

theorem readMessages_reads : Reads (readMessages py) (IsMessages (F := F)) := by
  rintro v ⟨messages, hlength⟩
  cases v with
  | list items =>
    have hitems := mapIdx_ok (messageModelValidate_reads : Reads (ChatMessageIn.modelValidate py) IsMessage)
        (fun i => text (toString i)) items messages
    have hmany : 128 < items.length → ¬List.Forall₂ IsMessage items messages := fun hlong hall => by
      have := hall.length_eq
      omega
    simp only [readMessages]
    split_ifs with hlong
    · simp only [refuse, bind, Except.bind, reduceCtorEq, false_iff]
      rintro ⟨items', heq, hall⟩
      cases heq
      exact hmany hlong hall
    · simp only [bind_ok]
      constructor
      · rintro ⟨messages', hread, h⟩
        split_ifs at h
        · obtain rfl : messages' = messages := by simpa using h
          exact ⟨items, rfl, hitems.1 hread⟩
        · simp [refuse] at h
      · rintro ⟨items', heq, hall⟩
        cases heq
        exact ⟨messages, hitems.2 hall, by simp [hlength]⟩
  | none | bool b | int i | float x | str s | dict fields => simp [readMessages, IsMessages, refuse]

/-- the fields that both kinds of body share -/
structure SharedFields (py : Python F) (data : List (Text × JsonValue F))
    (request : ChatCompletionRequestIn F) : Prop where
  model : HasField data "model" IsNonEmpty request.model
  stream : HasDefault data "stream" false IsBool request.stream
  maxTokens : HasDefault data "max_tokens" none (Nullable IsMaxTokens) request.maxTokens
  temperature : HasDefault data "temperature" none (Nullable (IsNumber py 2)) request.temperature
  topP : HasDefault data "top_p" none (Nullable (IsNumber py 1)) request.topP

/-- what the body of a chat completion says, or with `legacy` that of a text completion -/
structure BodySays (py : Python F) (legacy : Bool) (data : List (Text × JsonValue F))
    (request : ChatCompletionRequestIn F) : Prop
    extends SharedFields py data request where
  messages : if legacy then ∃ prompt, HasField data "prompt" IsText prompt ∧ strip prompt ≠ [] ∧
      request.messages.1 = [{ role := .user, content := prompt }]
    else HasField data "messages" IsMessages request.messages
  keys : OnlyKeys ["model", if legacy then "prompt" else "messages", "stream", "max_tokens",
    "temperature", "top_p"] data

theorem chatModelValidate_ok {request : ChatCompletionRequestIn F} :
    ChatCompletionRequestIn.modelValidate py data = .ok request ↔ BodySays py false data request := by
  obtain ⟨model, messages, stream, maxTokens, temperature, topP⟩ := request
  simp only [ChatCompletionRequestIn.modelValidate, bind_ok, requiredField_ok readNonEmpty_reads,
    requiredField_ok readMessages_reads, defaultField_ok readBool_reads,
    defaultField_ok (optional_reads readMaxTokens_reads),
    defaultField_ok (optional_reads (readNumber_reads _)), pure, Except.pure, Except.ok.injEq,
    ChatCompletionRequestIn.mk.injEq]
  constructor
  · rintro ⟨_, hmodel, _, hmessages, _, hstream, _, hmax, _, htemperature, _, htopP, _, hkeys, rfl,
      rfl, rfl, rfl, rfl, rfl⟩
    exact ⟨⟨hmodel, hstream, hmax, htemperature, htopP⟩, hmessages, forbidExtra_ok.1 hkeys⟩
  · rintro ⟨⟨hmodel, hstream, hmax, htemperature, htopP⟩, hmessages, hkeys⟩
    exact ⟨_, hmodel, _, hmessages, _, hstream, _, hmax, _, htemperature, _, htopP, _, forbidExtra_ok.2 hkeys,
      rfl, rfl, rfl, rfl, rfl, rfl⟩

/-- a prompt with anything but spaces in it is not empty -/
theorem ne_nil_of_strip {s : Text} (h : strip s ≠ []) : s ≠ [] := by
  rintro rfl
  exact h rfl

theorem readPrompt_reads : Reads (readPrompt (F := F)) fun v s => IsText v s.1 ∧ strip s.1 ≠ [] := by
  intro v s
  simp only [readPrompt, bind_ok]
  constructor
  · rintro ⟨s', hread, h⟩
    split_ifs at h with hstrip
    · simp [refuse] at h
    · obtain rfl : s' = s := by simpa using h
      exact ⟨(readNonEmpty_reads v s').1 hread, hstrip⟩
  · rintro ⟨htext, hstrip⟩
    exact ⟨s, (readNonEmpty_reads v s).2 htext, if_neg hstrip⟩

theorem completionModelValidate_ok {request : ChatCompletionRequestIn F} :
    (∃ completion, CompletionRequestIn.modelValidate py data = .ok completion ∧ completion.chat = request) ↔
      BodySays py true data request := by
  simp only [CompletionRequestIn.modelValidate, bind_ok, requiredField_ok readNonEmpty_reads,
    requiredField_ok readPrompt_reads, defaultField_ok readBool_reads,
    defaultField_ok (optional_reads readMaxTokens_reads),
    defaultField_ok (optional_reads (readNumber_reads _)), pure, Except.pure, Except.ok.injEq]
  constructor
  · rintro ⟨_, ⟨_, hmodel, prompt, ⟨v, hfield, htext, hstrip⟩, _, hstream, _, hmax, _, htemperature, _, htopP,
      _, hkeys, rfl⟩, rfl⟩
    exact ⟨⟨hmodel, hstream, hmax, htemperature, htopP⟩, ⟨prompt.1, ⟨v, hfield, htext⟩, hstrip, rfl⟩,
      forbidExtra_ok.1 hkeys⟩
  · obtain ⟨model, ⟨messages, hlength⟩, stream, maxTokens, temperature, topP⟩ := request
    rintro ⟨⟨hmodel, hstream, hmax, htemperature, htopP⟩, ⟨prompt, ⟨v, hfield, htext⟩, hstrip, hprompt⟩, hkeys⟩
    obtain rfl : messages = [{ role := .user, content := prompt }] := hprompt
    exact ⟨_, ⟨_, hmodel, ⟨prompt, ne_nil_of_strip hstrip⟩, ⟨v, hfield, htext, hstrip⟩, _, hstream, _,
      hmax, _, htemperature, _, htopP, _, forbidExtra_ok.2 hkeys, rfl⟩, rfl⟩

/-- what only allowed keys are in passes the check, which looks for `n` in vain -/
theorem checkUnsupportedFields_of_keys (py : Python F) {fields : List String}
    (hallowed : ∀ field ∈ fields, text field ∉ unsupportedChatFields)
    (h : OnlyKeys fields data) : checkUnsupportedFields py data (fields.map text) = .ok () := by
  have hkeys : checkKeys (fields.map text) data = .ok () := by
    induction data with
    | nil => rfl
    | cons entry rest ih =>
      obtain ⟨k, v⟩ := entry
      have hk := h (k, v) List.mem_cons_self
      obtain ⟨field, hfield, rfl⟩ := List.mem_map.1 hk
      rw [checkKeys, if_neg (hallowed field hfield), if_neg (not_not_intro hk)]
      exact ih fun entry hentry => h entry (List.mem_cons_of_mem _ hentry)
  have hn : getField data "n" = none := by
    rw [getField, Option.map_eq_none_iff, List.find?_eq_none]
    intro entry hentry heq
    obtain ⟨field, hfield, htext⟩ := List.mem_map.1 (h entry hentry)
    rw [decide_eq_true_eq] at heq
    exact hallowed field hfield (by rw [htext, heq]; decide)
  simp [checkUnsupportedFields, hkeys, hn, bind, Except.bind]

theorem parseChatRequest_iff {request : ChatCompletionRequestIn F} :
    parseChatRequest py data = .ok request ↔ BodySays py false data request := by
  rw [← chatModelValidate_ok]
  constructor
  · exact parseChatRequest_ok
  · intro h
    have hkeys := (chatModelValidate_ok.1 h).keys
    have hcheck := checkUnsupportedFields_of_keys py (by decide) hkeys
    rw [parseChatRequest]
    exact bind_ok.2 ⟨(), hcheck, by rw [h]⟩

theorem parseCompletionRequest_iff {request : ChatCompletionRequestIn F} :
    parseCompletionRequest py data = .ok request ↔ BodySays py true data request := by
  rw [← completionModelValidate_ok]
  constructor
  · intro h
    obtain ⟨u, -, h⟩ := bind_ok.1 h
    cases hvalidate : CompletionRequestIn.modelValidate py data with
    | ok completion => exact ⟨completion, rfl, by simpa [hvalidate] using h⟩
    | error details => simp [hvalidate] at h
  · rintro ⟨completion, h, rfl⟩
    have hkeys := (completionModelValidate_ok.1 ⟨completion, h, rfl⟩).keys
    have hcheck := checkUnsupportedFields_of_keys py (by decide) hkeys
    rw [parseCompletionRequest]
    exact bind_ok.2 ⟨(), hcheck, by rw [h]⟩

theorem mapError_ok {ε ε' β : Type} {f : ε → ε'} {x : Except ε β} {b : β} : x.mapError f = .ok b ↔ x = .ok b := by
  cases x <;> simp [Except.mapError]

theorem parseJsonBody_iff {maxBytes : ℕ} {raw : List UInt8} :
    parseJsonBody py maxBytes raw = .ok data ↔ raw.length ≤ maxBytes ∧ raw ≠ [] ∧ py.loads raw = .ok (.dict data) := by
  constructor
  · intro h
    have hloads := parseJsonBody_ok h
    unfold parseJsonBody at h
    split_ifs at h with hlong hempty
    exact ⟨not_lt.1 hlong, hempty, hloads⟩
  · rintro ⟨hlong, hempty, hloads⟩
    rw [parseJsonBody, if_neg (not_lt.2 hlong), if_neg hempty, hloads]

/-- the bytes are the JSON of an object that says the request -/
def Says (py : Python F) (cfg : Settings) (legacy : Bool) (raw : List UInt8)
    (request : ChatCompletionRequestIn F) : Prop :=
  raw.length ≤ cfg.maxBodyBytes ∧ raw ≠ [] ∧ ∃ data, py.loads raw = .ok (.dict data) ∧ BodySays py legacy data request

theorem readBody_iff {legacy : Bool} {raw : List UInt8} {request : ChatCompletionRequestIn F} :
    readBody py cfg legacy raw = .ok request ↔ Says py cfg legacy raw request := by
  have hparse : ∀ data, (if legacy then parseCompletionRequest py data else parseChatRequest py data) = .ok request ↔
      BodySays py legacy data request := by
    intro data
    cases legacy
    · exact parseChatRequest_iff
    · exact parseCompletionRequest_iff
  simp only [readBody, bind_ok, mapError_ok, parseJsonBody_iff, hparse, Says]
  constructor
  · rintro ⟨data, ⟨hlong, hempty, hloads⟩, hmeant⟩
    exact ⟨hlong, hempty, data, hloads, hmeant⟩
  · rintro ⟨hlong, hempty, data, hloads, hmeant⟩
    exact ⟨data, ⟨hlong, hempty, hloads⟩, hmeant⟩

end Says

/-! ## What is handed on -/

/-- the header bears a key that the settings allow; without settings every key but the empty one -/
def Bears (cfg : Settings) (authorization : Option Header) (token : Text) : Prop :=
  ∃ header rest, authorization = some header ∧ header.1 = bearer ++ rest ∧ token = strip rest ∧ token ≠ [] ∧
    (cfg.apiKeys = [] ∨ token ∈ cfg.allowedKeys)

variable {py cfg registry apiKeyId} {a : Arrival} {legacy : Bool} {request : ChatCompletionRequestIn F}
  {record : ModelRecord} {token : Text} {submit : SubmitRequest F}

theorem validateApiKey_ok {authorization : Option Header} :
    validateApiKey cfg authorization = .ok token ↔ Bears cfg authorization token := by
  cases authorization with
  | none => simp [validateApiKey, Bears]
  | some header =>
    by_cases hprefix : bearer.isPrefixOf header.1 = true
    · obtain ⟨rest, hrest⟩ := List.isPrefixOf_iff_prefix.1 hprefix
      have hdrop : header.1.drop bearer.length = rest := by rw [← hrest, List.drop_left]
      simp only [validateApiKey, hprefix, if_true, hdrop]
      constructor
      · intro h
        split_ifs at h with hempty hdenied
        obtain rfl : strip rest = token := by simpa using h
        refine ⟨header, rest, rfl, hrest.symm, rfl, hempty, ?_⟩
        simpa [imp_iff_or_not, or_comm] using hdenied
      · rintro ⟨_, rest', heq, hheader, rfl, hempty, hallowed⟩
        cases heq
        obtain rfl : rest = rest' := List.append_cancel_left (hrest.trans hheader)
        rw [if_neg hempty, if_neg]
        rintro ⟨hkeys, hdenied⟩
        exact hallowed.elim hkeys fun hmem => hdenied (List.contains_iff_mem.2 hmem)
    · simp only [validateApiKey, hprefix, Bool.false_eq_true, if_false, reduceCtorEq, false_iff]
      rintro ⟨_, rest, heq, hheader, -⟩
      cases heq
      exact hprefix (List.isPrefixOf_iff_prefix.2 ⟨rest, hheader.symm⟩)

/-- `validateApiKey` has one refusal -/
theorem validateApiKey_error {authorization : Option Header} {err : GatewayError}
    (h : validateApiKey cfg authorization = .error err) : err = authenticationError := by
  unfold validateApiKey at h
  split at h
  · exact (Except.error.inj h).symm
  · dsimp only at h
    split_ifs at h <;> exact (Except.error.inj h).symm

structure WithinLimits (cfg : Settings) (record : ModelRecord) (request : ChatCompletionRequestIn F) : Prop where
  maxTokens : maxTokensOf cfg record request ≤ record.maxOutputTokens.1
  prompt : (request.messages.1.map fun m => (m.content.length : ℤ)).sum ≤ record.maxPromptTokens.1

/-- what is handed on, field by field -/
structure Carries (cfg : Settings) (a : Arrival) (record : ModelRecord) (request : ChatCompletionRequestIn F)
    (apiKeyId : Text) (submit : SubmitRequest F) : Prop where
  requestId : submit.inferenceRequest.requestId = a.requestId
  model : submit.inferenceRequest.model = request.model
  messages : submit.inferenceRequest.messages.1 = request.messages.1.map fun m => ⟨m.role, m.content⟩
  stream : submit.inferenceRequest.stream = request.stream
  maxTokens : submit.inferenceRequest.maxTokens.1 = maxTokensOf cfg record request
  temperature : submit.inferenceRequest.temperature = request.temperature
  topP : submit.inferenceRequest.topP = request.topP
  apiKeyId : submit.inferenceRequest.apiKeyId = some apiKeyId
  clientRequestId : submit.inferenceRequest.clientRequestId = a.clientRequestHeader.map Subtype.val
  contextId : submit.requestContext.requestId = a.requestId
  traceId : submit.requestContext.traceId.1 = correlationId a.correlationHeader a.clientRequestHeader a.trace
  spanId : submit.requestContext.spanId.1 = a.trace.spanId.1
  arrivalTime : submit.requestContext.arrivalTime = a.received
  contextModel : submit.requestContext.model = request.model.1
  contextStream : submit.requestContext.stream = request.stream
  instanceId : submit.requestContext.gatewayInstanceId = cfg.gatewayInstanceId.1

/-- it is determined by that -/
theorem Carries.unique {apiKeyId : Text} {submit' : SubmitRequest F} (h : Carries cfg a record request apiKeyId submit)
    (h' : Carries cfg a record request apiKeyId submit') : submit = submit' := by
  obtain ⟨⟨_, _, ⟨messages, _⟩, _, ⟨n, _⟩, _, _, _, _⟩, ⟨_, ⟨t, _⟩, ⟨sp, _⟩, _, _, _, _⟩⟩ := submit
  obtain ⟨⟨_, _, ⟨messages', _⟩, _, ⟨n', _⟩, _, _, _, _⟩, ⟨_, ⟨t', _⟩, ⟨sp', _⟩, _, _, _, _⟩⟩ := submit'
  obtain ⟨rfl, rfl, rfl, rfl, rfl, rfl, rfl, rfl, rfl, rfl, rfl, rfl, rfl, rfl, rfl, rfl⟩ := h
  obtain ⟨rfl, rfl, hmessages, rfl, hmax, rfl, rfl, hkey, rfl, rfl, htrace, hspan, rfl, rfl, rfl, rfl⟩ := h'
  simp_all

/-! ### The second reading -/

/-- a text that has been read is read again -/
theorem BodySays.unicode {data : List (Text × JsonValue F)} (h : BodySays py legacy data request) :
    isUnicode request.model.1 = true ∧ ∀ m ∈ request.messages.1, isUnicode m.content = true := by
  obtain ⟨v, -, -, hmodel⟩ := h.model
  refine ⟨hmodel, fun m hm => ?_⟩
  have hmessages := h.messages
  cases legacy with
  | true =>
    rw [if_pos rfl] at hmessages
    obtain ⟨prompt, ⟨v, -, -, hprompt⟩, -, heq⟩ := hmessages
    rw [heq, List.mem_singleton] at hm
    rw [hm]
    exact hprompt
  | false =>
    rw [if_neg Bool.false_ne_true] at hmessages
    obtain ⟨v, -, items, -, hall⟩ := hmessages
    obtain ⟨i, hi, rfl⟩ := List.mem_iff_getElem.1 hm
    obtain ⟨data, -, -, ⟨w, -, -, hcontent⟩, -⟩ :=
      (List.forall₂_iff_get.1 hall).2 i (by rw [hall.length_eq]; exact hi) hi
    exact hcontent

/-- and a number -/
theorem number_again {le : ℕ} {data : List (Text × JsonValue F)} {key : String} {value : Option F}
    (h : HasDefault data key none (Nullable (IsNumber py le)) value) :
      optional (readNumber py le) (given value) = .ok value := by
  rw [optional_reads (readNumber_reads le)]
  cases value with
  | none => rfl
  | some x =>
    rcases h with ⟨-, hnone⟩ | ⟨v, -, hv⟩
    · cases hnone
    · refine ⟨x, ⟨.inl rfl, ?_⟩, rfl⟩
      cases v with
      | none => cases hv
      | bool b | int i | float y | str s | list items | dict fields =>
        obtain ⟨y, hy, hx⟩ := hv
        cases hx
        exact hy.2

theorem constructMessages_ok {l : List ChatMessageIn} (h : ∀ m ∈ l, isUnicode m.content = true) :
    constructMessages (F := F) l = .ok (l.map fun m => ⟨m.role, m.content⟩) := by
  induction l with
  | nil => rfl
  | cons m rest ih =>
    have hm := (readText_reads (F := F) (.str m.content) m.content).2 ⟨rfl, h m List.mem_cons_self⟩
    rw [constructMessages, Message.construct, ih fun m hm => h m (List.mem_cons_of_mem _ hm), hm]
    rfl

theorem header_unicode (header : Header) : isUnicode header.1 = true := by
  refine List.all_eq_true.2 fun c hc => ?_
  have := header.2 c hc
  simp
  omega

theorem clientRequestId_again (clientRequestId : Option Header) :
    optional readText (clientRequestId.elim .none fun header => (.str header.1 : JsonValue F)) =
      .ok (clientRequestId.map Subtype.val) := by
  rw [optional_reads readText_reads]
  cases clientRequestId with
  | none => rfl
  | some header => exact ⟨_, ⟨rfl, header_unicode header⟩, rfl⟩

theorem mem_strip {s : Text} {c : ℕ} (h : c ∈ strip s) : c ∈ s := by
  have hback := (List.dropWhile_sublist _).subset (List.mem_reverse.1 h)
  exact (List.dropWhile_sublist _).subset (List.mem_reverse.1 hback)

theorem correlationId_read (correlationHeader clientRequestHeader : Option Header) (trace : TraceContext) :
    correlationId correlationHeader clientRequestHeader trace ≠ [] ∧
      isUnicode (correlationId correlationHeader clientRequestHeader trace) = true := by
  unfold correlationId
  set header := ((correlationHeader.filter fun h => h.1 ≠ []).orElse fun _ =>
    clientRequestHeader.filter fun h => h.1 ≠ []) with hheader
  dsimp only
  split_ifs with hempty
  · exact trace.traceId.2
  · refine ⟨hempty, ?_⟩
    cases hh : header with
    | none => simp [hh, strip] at hempty
    | some h =>
      have hlatin : ∀ c ∈ strip h.1, c < 256 := fun c hc => h.2 c (mem_strip hc)
      simpa using header_unicode ⟨strip h.1, hlatin⟩

theorem buildRequestContext_ok (cfg : Settings) (ir : InferenceRequest F) (a : Arrival) :
    ∃ context, buildRequestContext cfg ir (correlationId a.correlationHeader a.clientRequestHeader a.trace)
      a.trace a.received =
        .ok context ∧
      context.requestId = ir.requestId ∧
      context.traceId.1 = correlationId a.correlationHeader a.clientRequestHeader a.trace ∧
      context.spanId.1 = a.trace.spanId.1 ∧ context.arrivalTime = a.received ∧ context.model = ir.model.1 ∧
      context.stream = ir.stream ∧ context.gatewayInstanceId = cfg.gatewayInstanceId.1 := by
  obtain ⟨hne, hunicode⟩ := correlationId_read a.correlationHeader a.clientRequestHeader a.trace
  have htrace := (readNonEmpty_reads (F := F) (.str _) ⟨_, hne⟩).2 ⟨rfl, hunicode⟩
  have hspan := (readNonEmpty_reads (F := F) (.str _) ⟨_, a.trace.spanId.2.1⟩).2 ⟨rfl, a.trace.spanId.2.2⟩
  refine ⟨{ requestId := ir.requestId, traceId := ⟨_, hne⟩, spanId := ⟨_, a.trace.spanId.2.1⟩, arrivalTime := a.received
            model := ir.model.1, stream := ir.stream, gatewayInstanceId := cfg.gatewayInstanceId.1 },
    ?_, rfl, rfl, rfl, rfl, rfl, rfl, rfl⟩
  rw [buildRequestContext, htrace, hspan]
  rfl

/-- the limit that is handed on lies in the range of its field -/
def InRange (cfg : Settings) (record : ModelRecord) (request : ChatCompletionRequestIn F) : Prop :=
  1 ≤ maxTokensOf cfg record request ∧ maxTokensOf cfg record request ≤ 32768

/-- a default in the range stays there under the model's limit -/
theorem inRange_of_default (h : 1 ≤ cfg.defaultMaxTokens ∧ cfg.defaultMaxTokens ≤ 32768) :
    InRange cfg record request := by
  unfold InRange maxTokensOf
  cases request.maxTokens with
  | some n => exact n.2
  | none => exact ⟨le_min h.1 record.maxOutputTokens.2, (min_le_left _ _).trans h.2⟩

theorem promptLength_map (l : List ChatMessageIn) :
    promptLength (l.map fun m => ⟨m.role, m.content⟩) = (l.map fun m => (m.content.length : ℤ)).sum := by
  simp [promptLength, List.map_map, Function.comp_def]

/-- the two refusals of `buildInferenceRequest` -/
def overLimit (record : ModelRecord) : GatewayError :=
  validationError (text s!"max_tokens exceeds model limit {record.maxOutputTokens.1}") (some (text "max_tokens"))

def tooLong (total : ℤ) (record : ModelRecord) : GatewayError :=
  validationError (text s!"total prompt length {total} exceeds limit {record.maxPromptTokens.1}")
    (some (text "messages"))

section Build

variable {data : List (Text × JsonValue F)}

theorem build_refused (requestId : UUID) (key : Text) (clientRequestId : Option Header)
    (hbody : BodySays py legacy data request) (hlimits : ¬WithinLimits cfg record request) :
    ∃ err, buildInferenceRequest py cfg record request requestId key clientRequestId = .error (.gateway err) ∧
      err.statusCode = 400 := by
  by_cases hmax : maxTokensOf cfg record request > record.maxOutputTokens.1
  · refine ⟨overLimit record, ?_, rfl⟩
    rw [buildInferenceRequest, if_pos hmax]
    rfl
  · have hlong : promptLength (request.messages.1.map fun m => ⟨m.role, m.content⟩) > record.maxPromptTokens.1 := by
      rw [promptLength_map, gt_iff_lt, ← not_le]
      exact fun hprompt => hlimits ⟨not_lt.1 hmax, hprompt⟩
    refine ⟨tooLong (promptLength (request.messages.1.map fun m => ⟨m.role, m.content⟩)) record, ?_, rfl⟩
    rw [buildInferenceRequest, if_neg hmax, constructMessages_ok hbody.unicode.2]
    simp only [Except.mapError, validatePromptLength, bind, Except.bind, if_pos hlong]
    rfl

theorem readModelId (hbody : BodySays py legacy data request) (hmodel : record.modelId = request.model.1) :
    readNonEmpty (.str record.modelId : JsonValue F) = .ok request.model :=
  (readNonEmpty_reads _ request.model).2 ⟨by rw [hmodel], hbody.unicode.1⟩

theorem messages_within (hlimits : WithinLimits cfg record request) :
    validatePromptLength (request.messages.1.map fun m => ⟨m.role, m.content⟩) record.maxPromptTokens.1 = .ok () := by
  rw [validatePromptLength, promptLength_map, if_neg (not_lt.2 hlimits.prompt)]

theorem build_within (hbody : BodySays py legacy data request) (hmodel : record.modelId = request.model.1)
    (hkey : isUnicode key = true) (hlimits : WithinLimits cfg record request) (hrange : InRange cfg record request) :
    buildInferenceRequest py cfg record request requestId key clientRequestId =
      .ok { requestId, model := request.model
            messages := ⟨request.messages.1.map fun m => ⟨m.role, m.content⟩, by simpa using request.messages.2⟩
            stream := request.stream, maxTokens := ⟨maxTokensOf cfg record request, hrange⟩
            temperature := request.temperature, topP := request.topP, apiKeyId := some key
            clientRequestId := clientRequestId.map Subtype.val } := by
  have hmax := (readMaxTokens_reads (F := F) (.int _) ⟨_, hrange⟩).2 rfl
  have hkeyRead := (readText_reads (F := F) (.str key) key).2 ⟨rfl, hkey⟩
  have hlength : 1 ≤ (request.messages.1.map fun m => (⟨m.role, m.content⟩ : Message)).length ∧
      (request.messages.1.map fun m => (⟨m.role, m.content⟩ : Message)).length ≤ 128 := by
        simpa using request.messages.2
  rw [buildInferenceRequest, if_neg (not_lt.2 hlimits.maxTokens), constructMessages_ok hbody.unicode.2]
  simp only [Except.mapError, bind, Except.bind, pure, Except.pure, messages_within hlimits, InferenceRequest.construct,
    readModelId hbody hmodel, within, dif_pos hlength, hmax, number_again hbody.temperature,
    number_again hbody.topP, hkeyRead,
    clientRequestId_again]

/-- the only field that can fail the second reading -/
theorem build_outside (requestId : UUID) (key : Text) (clientRequestId : Option Header)
    (hbody : BodySays py legacy data request) (hmodel : record.modelId = request.model.1)
    (hlimits : WithinLimits cfg record request) (hrange : ¬InRange cfg record request) :
    ∃ details, buildInferenceRequest py cfg record request requestId key clientRequestId =
      .error (.validationError details) := by
  have hlength : 1 ≤ (request.messages.1.map fun m => (⟨m.role, m.content⟩ : Message)).length ∧
      (request.messages.1.map fun m => (⟨m.role, m.content⟩ : Message)).length ≤ 128 := by
        simpa using request.messages.2
  cases hmax : readMaxTokens (.int (maxTokensOf cfg record request) : JsonValue F) with
  | ok n =>
    have hn : maxTokensOf cfg record request = n.1 := by simpa [IsMaxTokens] using (readMaxTokens_reads _ n).1 hmax
    exact absurd (by rw [InRange, hn]; exact n.2) hrange
  | error details =>
    refine ⟨{ details with loc := text "max_tokens" :: details.loc }, ?_⟩
    rw [buildInferenceRequest, if_neg (not_lt.2 hlimits.maxTokens), constructMessages_ok hbody.unicode.2]
    simp only [Except.mapError, bind, Except.bind, messages_within hlimits, InferenceRequest.construct,
      readModelId hbody hmodel, within, dif_pos hlength, hmax]

end Build

/-! ### The preparation -/

/-- once the body is read, the rest depends on the model's record -/
theorem prepare_read (htoken : Bears cfg a.authorization token) (hmeant : Says py cfg legacy a.raw request) :
    prepareChatRequest py cfg registry apiKeyId legacy a =
      match registry.getModel request.model.1 with
      | none => .error (.gateway (unknownModel request.model.1))
      | some record => do
        let inferenceRequest ←
          buildInferenceRequest py cfg record request a.requestId (apiKeyId token).1 a.clientRequestHeader
        let requestContext ← (buildRequestContext cfg inferenceRequest
          (correlationId a.correlationHeader a.clientRequestHeader a.trace) a.trace a.received).mapError
            .validationError
        return { inferenceRequest, requestContext } := by
  rw [prepareChatRequest, validateApiKey_ok.2 htoken, (readBody_iff cfg).2 hmeant]
  simp only [Except.mapError, bind, Except.bind]
  cases registry.getModel request.model.1 <;> rfl

theorem prepare_within (apiKeyId : Text → {s : Text // isUnicode s = true})
    (htoken : Bears cfg a.authorization token) (hmeant : Says py cfg legacy a.raw request)
    (hrecord : registry.getModel request.model.1 = some record) (hlimits : WithinLimits cfg record request)
    (hrange : InRange cfg record request) :
    ∃ submit, prepareChatRequest py cfg registry apiKeyId legacy a = .ok submit ∧
      Carries cfg a record request (apiKeyId token).1 submit := by
  obtain ⟨-, -, data, -, hbody⟩ := id hmeant
  let inferenceRequest : InferenceRequest F :=
    { requestId := a.requestId, model := request.model
      messages := ⟨request.messages.1.map fun m => ⟨m.role, m.content⟩, by simpa using request.messages.2⟩
      stream := request.stream, maxTokens := ⟨maxTokensOf cfg record request, hrange⟩
      temperature := request.temperature, topP := request.topP, apiKeyId := some (apiKeyId token).1
      clientRequestId := a.clientRequestHeader.map Subtype.val }
  have hbuild : buildInferenceRequest py cfg record request a.requestId (apiKeyId token).1 a.clientRequestHeader =
      .ok inferenceRequest := build_within hbody (registry.keyed _ _ hrecord) (apiKeyId token).2 hlimits hrange
  obtain ⟨context, hcontext, hid, htrace, hspan, harrival, hmodel, hstream, hinstance⟩ :=
    buildRequestContext_ok cfg inferenceRequest a
  refine ⟨⟨inferenceRequest, context⟩, ?_,
    ⟨rfl, rfl, rfl, rfl, rfl, rfl, rfl, rfl, rfl, hid, htrace, hspan, harrival, hmodel, hstream, hinstance⟩⟩
  rw [prepare_read htoken hmeant, hrecord]
  simp only [hbuild, bind, Except.bind, hcontext, Except.mapError, pure, Except.pure]

/-- **What is handed on.** A request is prepared exactly if its key is allowed, its body says a request, and that is
within the limits of a registered model; it carries what the body and the headers say. -/
theorem prepared_iff (py : Python F) (cfg : Settings) (registry : ModelRegistry)
    (apiKeyId : Text → {s : Text // isUnicode s = true}) (legacy : Bool) (a : Arrival) (submit : SubmitRequest F) :
    prepareChatRequest py cfg registry apiKeyId legacy a = .ok submit ↔
      ∃ token request record, Bears cfg a.authorization token ∧ Says py cfg legacy a.raw request ∧
        registry.getModel request.model.1 = some record ∧ WithinLimits cfg record request ∧ InRange cfg record request ∧
        Carries cfg a record request (apiKeyId token).1 submit := by
  constructor
  · intro h
    obtain ⟨token, htoken, h'⟩ := bind_ok.1 h
    obtain ⟨request, hrequest, -⟩ := bind_ok.1 h'
    replace htoken := validateApiKey_ok.1 (mapError_ok.1 htoken)
    have hmeant := (readBody_iff cfg).1 hrequest
    obtain ⟨-, -, data, -, hbody⟩ := id hmeant
    rw [prepare_read htoken hmeant] at h
    cases hrecord : registry.getModel request.model.1 with
    | none => simp [hrecord] at h
    | some record =>
      rw [hrecord] at h
      have hbuilt := bind_ok.1 h
      have hlimits : WithinLimits cfg record request := by
        by_contra hlimits
        obtain ⟨err, herr, -⟩ := build_refused a.requestId (apiKeyId token).1 a.clientRequestHeader
          hbody hlimits
        rw [herr] at hbuilt
        obtain ⟨_, hcontra, -⟩ := hbuilt
        cases hcontra
      have hrange : InRange cfg record request := by
        by_contra hrange
        obtain ⟨details, herr⟩ := build_outside a.requestId (apiKeyId token).1 a.clientRequestHeader
          hbody (registry.keyed _ _ hrecord) hlimits hrange
        rw [herr] at hbuilt
        obtain ⟨_, hcontra, -⟩ := hbuilt
        cases hcontra
      obtain ⟨submit', hok, hcarries⟩ := prepare_within apiKeyId htoken hmeant hrecord hlimits hrange
      rw [prepare_read htoken hmeant, hrecord] at hok
      obtain rfl : submit' = submit := Except.ok.inj (hok.symm.trans h)
      exact ⟨token, request, record, htoken, hmeant, hrecord, hlimits, hrange, hcarries⟩
  · rintro ⟨token, request, record, htoken, hmeant, hrecord, hlimits, hrange, hcarries⟩
    obtain ⟨submit', hok, hcarries'⟩ := prepare_within apiKeyId htoken hmeant hrecord hlimits hrange
    rw [hok, hcarries.unique hcarries']

/-! ## Refusals -/

theorem bind_error {ε β γ : Type} {x : Except ε β} {f : β → Except ε γ} {err : ε} (h : (x >>= f) = .error err) :
    x = .error err ∨ ∃ b, x = .ok b ∧ f b = .error err := by
  cases x with
  | error e => exact .inl (congrArg Except.error (Except.error.inj h))
  | ok b => exact .inr ⟨b, rfl, h⟩

theorem mapError_error {ε ε' β : Type} {f : ε → ε'} {x : Except ε β} {err : ε'} (h : x.mapError f = .error err) :
    ∃ e, x = .error e ∧ err = f e := by
  cases x with
  | ok b => cases h
  | error e => exact ⟨e, rfl, (Except.error.inj h).symm⟩

theorem checkKeys_status {allowed : List Text} {data : List (Text × JsonValue F)} {err : GatewayError}
    (h : checkKeys allowed data = .error err) : err.statusCode = 400 := by
  induction data with
  | nil => cases h
  | cons entry rest ih =>
    rw [checkKeys] at h
    split_ifs at h
    · rw [← Except.error.inj h, unsupportedField]
    · exact ih h
    · rw [← Except.error.inj h, unsupportedField]

theorem checkUnsupportedFields_status {allowed : List Text} {data : List (Text × JsonValue F)} {err : GatewayError}
    (h : checkUnsupportedFields py data allowed = .error err) : err.statusCode = 400 := by
  rcases bind_error h with hkeys | ⟨u, -, hn⟩
  · exact checkKeys_status hkeys
  · split at hn
    · cases hn
    · cases hn
    · split_ifs at hn
      rw [← Except.error.inj hn, unsupportedField]

theorem parse_status {data : List (Text × JsonValue F)} {err : GatewayError}
    (h : (if legacy then parseCompletionRequest py data else parseChatRequest py data) = .error err) :
      err.statusCode = 400 := by
  cases legacy with
  | true =>
    rcases bind_error h with hcheck | ⟨u, -, hvalidate⟩
    · exact checkUnsupportedFields_status hcheck
    · split at hvalidate
      · cases hvalidate
      · rw [← Except.error.inj hvalidate, pydanticToGateway, validationError]
  | false =>
    rcases bind_error h with hcheck | ⟨u, -, hvalidate⟩
    · exact checkUnsupportedFields_status hcheck
    · split at hvalidate
      · cases hvalidate
      · rw [← Except.error.inj hvalidate, pydanticToGateway, validationError]

/-- it is not the bytes that `json.loads` fails on -/
def Decodes (py : Python F) (raw : List UInt8) : Prop := ∀ message, py.loads raw ≠ .error (.unicodeDecodeError message)

theorem readBody_status {raw : List UInt8} {err : PipelineError} (hdecodes : Decodes py raw)
    (h : readBody py cfg legacy raw = .error err) : ∃ g, err = .gateway g ∧ g.statusCode = 400 := by
  rcases bind_error h with hjson | ⟨data, -, hparse⟩
  · obtain ⟨raised, hraised, rfl⟩ := mapError_error hjson
    unfold parseJsonBody at hraised
    split_ifs at hraised
    · cases hraised
      exact ⟨_, rfl, rfl⟩
    · cases hraised
      exact ⟨_, rfl, rfl⟩
    · split at hraised
      · cases hraised
        exact ⟨_, rfl, rfl⟩
      · rename_i hloads
        exact absurd hloads (hdecodes _)
      · cases hraised
      · cases hraised
        exact ⟨_, rfl, rfl⟩
  · obtain ⟨g, hg, rfl⟩ := mapError_error hparse
    exact ⟨g, rfl, parse_status hg⟩

/-- **Refusals.** With a default limit in its range, whatever the preparation refuses of a body that decodes is refused
with a `GatewayError`: with 401 if the key is not allowed, whatever the body; else with 404 if the body says a request
for a model that is not registered; else with 400. -/
theorem refusals (registry : ModelRegistry) (apiKeyId : Text → {s : Text // isUnicode s = true}) (legacy : Bool)
    (hdecodes : Decodes py a.raw) (hdefault : 1 ≤ cfg.defaultMaxTokens ∧ cfg.defaultMaxTokens ≤ 32768)
    {err : PipelineError} (h : prepareChatRequest py cfg registry apiKeyId legacy a = .error err) :
    ∃ g, err = .gateway g ∧
      ((¬∃ token, Bears cfg a.authorization token) ∧ g = authenticationError ∨
        (∃ token, Bears cfg a.authorization token) ∧
          ((∃ request, Says py cfg legacy a.raw request ∧ registry.getModel request.model.1 = none ∧
              g = unknownModel request.model.1) ∨
            (∀ request, Says py cfg legacy a.raw request → registry.getModel request.model.1 ≠ none) ∧
              g.statusCode = 400)) := by
  rcases bind_error h with hkey | ⟨token, htoken, hrest⟩
  · obtain ⟨g, hg, rfl⟩ := mapError_error hkey
    refine ⟨g, rfl, .inl ⟨?_, validateApiKey_error hg⟩⟩
    rintro ⟨token, htoken⟩
    cases (validateApiKey_ok.2 htoken).symm.trans hg
  · replace htoken := validateApiKey_ok.1 (mapError_ok.1 htoken)
    rcases bind_error hrest with hbody | ⟨request, hrequest, -⟩
    · obtain ⟨g, rfl, hstatus⟩ := readBody_status hdecodes hbody
      refine ⟨g, rfl, .inr ⟨⟨token, htoken⟩, .inr ⟨fun request hmeant => ?_, hstatus⟩⟩⟩
      cases ((readBody_iff cfg).2 hmeant).symm.trans hbody
    · have hmeant := (readBody_iff cfg).1 hrequest
      obtain ⟨-, -, data, -, hdata⟩ := id hmeant
      cases hrecord : registry.getModel request.model.1 with
      | none =>
        rw [prepare_read htoken hmeant, hrecord] at h
        obtain rfl := Except.error.inj h
        exact ⟨_, rfl, .inr ⟨⟨token, htoken⟩, .inl ⟨request, hmeant, hrecord, rfl⟩⟩⟩
      | some record =>
        have hone : ∀ request', Says py cfg legacy a.raw request' → registry.getModel request'.model.1 ≠ none := by
          intro request' hmeant' hnone
          obtain rfl : request = request' := Except.ok.inj (hrequest.symm.trans ((readBody_iff cfg).2 hmeant'))
          cases hrecord.symm.trans hnone
        by_cases hlimits : WithinLimits cfg record request
        · obtain ⟨submit, hok, -⟩ := prepare_within apiKeyId htoken hmeant hrecord hlimits
            (inRange_of_default hdefault)
          cases hok.symm.trans h
        · obtain ⟨g, hg, hstatus⟩ := build_refused a.requestId (apiKeyId token).1 a.clientRequestHeader
            hdata hlimits
          rw [prepare_read htoken hmeant, hrecord] at h
          simp only [hg, bind, Except.bind] at h
          obtain rfl := Except.error.inj h
          exact ⟨g, rfl, .inr ⟨⟨token, htoken⟩, .inr ⟨hone, hstatus⟩⟩⟩

/-! ## The paths -/

theorem prepared_stream (h : prepareChatRequest py cfg registry apiKeyId legacy a = .ok submit) :
    ∃ request, Says py cfg legacy a.raw request ∧ submit.inferenceRequest.stream = request.stream := by
  obtain ⟨token, request, record, -, hmeant, -, -, -, hcarries⟩ :=
    (prepared_iff py cfg registry apiKeyId legacy a submit).1 h
  exact ⟨request, hmeant, hcarries.stream⟩

/-- the check for a stream and the parse agree -/
theorem wantsStream_of_request {raw : List UInt8} (h : Says py cfg false raw request) :
    requestWantsStream py raw = .ok request.stream := by
  obtain ⟨hlong, hempty, data, hloads, hbody⟩ := h
  have hparsed : fullParse py cfg.maxBodyBytes raw = .ok request := by
    rw [fullParse, parseJsonBody_iff.2 ⟨hlong, hempty, hloads⟩]
    simp only [bind, Except.bind, parseChatRequest_iff.2 hbody]
  exact parse_agrees hparsed

theorem wantsStream_of_prepared (h : prepareChatRequest py cfg registry apiKeyId false a = .ok submit) :
    requestWantsStream py a.raw = .ok submit.inferenceRequest.stream := by
  obtain ⟨request, hmeant, hstream⟩ := prepared_stream h
  rw [wantsStream_of_request hmeant, hstream]

theorem processChatCompletion_ok {handover : Handover F} :
    processChatCompletion py cfg registry apiKeyId legacy a = .ok handover ↔
      ∃ submit, prepareChatRequest py cfg registry apiKeyId legacy a = .ok submit ∧
        submit.inferenceRequest.stream = false ∧ handover = .fullPath submit := by
  rw [processChatCompletion, bind_ok]
  refine exists_congr fun submit => and_congr_right fun _ => ?_
  cases submit.inferenceRequest.stream <;> simp [throw, throwThe, MonadExceptOf.throw, pure, Except.pure, eq_comm]

theorem processStreamingChatCompletion_ok {handover : Handover F} :
    processStreamingChatCompletion py cfg registry apiKeyId legacy a = .ok handover ↔
      ∃ submit, prepareChatRequest py cfg registry apiKeyId legacy a = .ok submit ∧
        submit.inferenceRequest.stream = true ∧ handover = .streaming submit := by
  rw [processStreamingChatCompletion, bind_ok]
  refine exists_congr fun submit => and_congr_right fun _ => ?_
  cases submit.inferenceRequest.stream <;> simp [throw, throwThe, MonadExceptOf.throw, pure, Except.pure, eq_comm]

/-- **The right path.** What the endpoints hand on is a prepared request: the streaming path gets it if the body of a
chat completion asks for a stream, and the full path if no stream is asked for. Without a full path, and from the legacy
endpoint, nothing that asks for a stream is handed on. -/
theorem handed_on (py : Python F) (cfg : Settings) (registry : ModelRegistry)
    (apiKeyId : Text → {s : Text // isUnicode s = true}) (integrated : Bool) (a : Arrival) (handover : Handover F) :
    (chatEndpoint py cfg registry apiKeyId integrated a = .ok handover ↔
      ∃ submit, prepareChatRequest py cfg registry apiKeyId false a = .ok submit ∧
        (submit.inferenceRequest.stream = true ∧ integrated = true ∧ handover = .streaming submit ∨
          submit.inferenceRequest.stream = false ∧ handover = .fullPath submit)) ∧
    (completionEndpoint py cfg registry apiKeyId a = .ok handover ↔
      ∃ submit, prepareChatRequest py cfg registry apiKeyId true a = .ok submit ∧
        submit.inferenceRequest.stream = false ∧ handover = .fullPath submit) := by
  refine ⟨?_, processChatCompletion_ok⟩
  rw [chatEndpoint, bind_ok]
  constructor
  · rintro ⟨bodyStream, hwants, h⟩
    rw [mapError_ok] at hwants
    split_ifs at h with hpath
    · obtain ⟨submit, hsubmit, hstream, rfl⟩ := processStreamingChatCompletion_ok.1 h
      exact ⟨submit, hsubmit, .inl ⟨hstream, (Bool.and_eq_true_iff.1 hpath).2, rfl⟩⟩
    · obtain ⟨submit, hsubmit, hstream, rfl⟩ := processChatCompletion_ok.1 h
      exact ⟨submit, hsubmit, .inr ⟨hstream, rfl⟩⟩
  · rintro ⟨submit, hsubmit, hcase⟩
    refine ⟨submit.inferenceRequest.stream, mapError_ok.2 (wantsStream_of_prepared hsubmit), ?_⟩
    rcases hcase with ⟨hstream, rfl, rfl⟩ | ⟨hstream, rfl⟩
    · rw [hstream, Bool.and_self, if_pos rfl]
      exact processStreamingChatCompletion_ok.2 ⟨submit, hsubmit, hstream, rfl⟩
    · rw [hstream, Bool.false_and, if_neg Bool.false_ne_true]
      exact processChatCompletion_ok.2 ⟨submit, hsubmit, hstream, rfl⟩

/-! ## A body -/

/-- `json.loads` of one body, with rational numbers for floats -/
def onePython (fields : List (Text × JsonValue ℚ)) : Python ℚ where
  loads raw := if raw = [0x7B] then .ok (.dict fields) else .error (.jsonDecodeError (text "Expecting value"))
  ofInt i := some i
  compare x n := some (cmp x n)
  repr s := text "'" ++ s ++ text "'"

def demoSettings : Settings where
  maxBodyBytes := 64
  defaultMaxTokens := 256
  apiKeys := text "key"
  gatewayInstanceId := ⟨text "gw", by decide⟩

def demoRegistry : ModelRegistry := ModelRegistry.empty.registerModel ⟨text "demo", ⟨16, by decide⟩, ⟨8, by decide⟩⟩

def demoArrival : Arrival where
  raw := [0x7B]
  authorization := some ⟨text "Bearer key", by decide⟩
  correlationHeader := none
  clientRequestHeader := none
  requestId := 1
  trace := ⟨⟨text "t", by decide⟩, ⟨text "s", by decide⟩⟩
  received := 0

/-- a text completion for a model that is registered, without a limit, with a prompt that is too long -/
def longPrompt : Python ℚ :=
  onePython [(text "model", .str (text "demo")), (text "prompt", .str (text "a long prompt"))]

theorem refusals_long :
    prepareChatRequest longPrompt demoSettings demoRegistry (fun _ => ⟨[], rfl⟩) true demoArrival =
        .error (.gateway (tooLong 13 ⟨text "demo", ⟨16, by decide⟩, ⟨8, by decide⟩⟩)) ∧
      ∀ request, Says longPrompt demoSettings true demoArrival.raw request →
        demoRegistry.getModel request.model.1 ≠ none := by
  have hrefused : prepareChatRequest longPrompt demoSettings demoRegistry (fun _ => ⟨[], rfl⟩) true demoArrival =
      .error (.gateway (tooLong 13 ⟨text "demo", ⟨16, by decide⟩, ⟨8, by decide⟩⟩)) := by
    rfl
  refine ⟨hrefused, ?_⟩
  obtain ⟨g, hg, hcase⟩ := @refusals _ longPrompt demoSettings demoArrival demoRegistry
    (fun _ => ⟨[], rfl⟩) true (fun message h => by cases h) ⟨by decide, by decide⟩ _ hrefused
  cases hg
  rcases hcase with ⟨-, hauthentication⟩ | ⟨-, ⟨request, -, -, hunknown⟩ | ⟨hregistered, -⟩⟩
  · cases congrArg GatewayError.statusCode hauthentication
  · cases congrArg GatewayError.statusCode hunknown
  · exact hregistered

end InferencePlatform.Gateway.Pipeline
