/-
The two readers of a chat completion body: the check whether a stream is wanted, and the full parse.

A text is the list of its code points, so that it may hold a lone surrogate, as a JSON escape can make one. What is not
in the repository is in `Python`: `json.loads` of bytes, which returns a value or fails for one of two reasons, its
floats, and `repr` of a text. The models are strict: of a field they take the type it has and no other, and the first
error counts, in the order of the fields.

- `parse_agrees`: whenever the full parse succeeds, the check gives the stream flag of the request;
- `body_contract_iff`: both readers fail in a typed way only, exactly for the bodies that decode, if they hold an object
  or no JSON at all;
- `array_body`: another body.
-/
import InferencePlatform.Replay.Payload

namespace InferencePlatform.Gateway

open Replay (MessageRole)

/-! ## Values -/

/-- a `str`, by its code points -/
abbrev Text := List ℕ

def text (s : String) : Text := s.toList.map Char.toNat

/-- what `json.loads` returns, with floats in `F`; the keys of a dict are distinct -/
inductive JsonValue (F : Type)
  | none
  | bool (b : Bool)
  | int (i : ℤ)
  | float (x : F)
  | str (s : Text)
  | list (items : List (JsonValue F))
  | dict (fields : List (Text × JsonValue F))

inductive LoadsError
  | jsonDecodeError (message : Text)
  | unicodeDecodeError (message : Text)
  deriving DecidableEq, Repr

structure Python (F : Type) where
  loads : List UInt8 → Except LoadsError (JsonValue F)
  /-- the float of an integer, if it has one -/
  ofInt : ℤ → Option F
  /-- nothing compares with a NaN -/
  compare : F → ℤ → Option Ordering
  repr : Text → Text

variable {F : Type} (py : Python F)

def getField (fields : List (Text × JsonValue F)) (key : String) : Option (JsonValue F) :=
  (fields.find? fun field => field.1 = text key).map Prod.snd

/-- `bool(value)` -/
def truthy : JsonValue F → Bool
  | .none => false
  | .bool b => b
  | .int i => i ≠ 0
  | .float x => py.compare x 0 ≠ some .eq
  | .str s => s ≠ []
  | .list items => !items.isEmpty
  | .dict fields => !fields.isEmpty

/-- `value == 1` -/
def equalsOne : JsonValue F → Bool
  | .bool b => b
  | .int i => i = 1
  | .float x => py.compare x 1 = some .eq
  | _ => false

def typeName : JsonValue F → String
  | .none => "NoneType"
  | .bool _ => "bool"
  | .int _ => "int"
  | .float _ => "float"
  | .str _ => "str"
  | .list _ => "list"
  | .dict _ => "dict"

/-! ## Errors -/

structure GatewayError where
  errorType : FailureReason
  message : Text
  statusCode : ℕ
  param : Option Text
  deriving DecidableEq, Repr

def validationError (message : Text) (param : Option Text) : GatewayError := ⟨.validationError, message, 400, param⟩

def unsupportedField (field : Text) : GatewayError :=
  ⟨.unsupportedField, text "unsupported field: " ++ field, 400, some field⟩

/-- what a reader raises -/
inductive Raised
  | gateway (err : GatewayError)
  | unicodeDecodeError (message : Text)
  | attributeError (message : Text)
  deriving DecidableEq, Repr

/-- it returns, or raises a `GatewayError` -/
def Typed {α : Type} : Except Raised α → Prop
  | .ok _ | .error (.gateway _) => True
  | .error (.unicodeDecodeError _) | .error (.attributeError _) => False

/-! ## The check for a stream -/

/-- `_request_wants_stream` -/
def requestWantsStream (raw : List UInt8) : Except Raised Bool :=
  match py.loads raw with
  | .error (.jsonDecodeError _) => .ok false
  | .error (.unicodeDecodeError message) => .error (.unicodeDecodeError message)
  | .ok (.dict fields) => .ok (truthy py ((getField fields "stream").getD .none))
  | .ok data => .error (.attributeError (text s!"'{typeName data}' object has no attribute 'get'"))

/-! ## The full parse -/

def parseJsonBody (maxBytes : ℕ) (raw : List UInt8) : Except Raised (List (Text × JsonValue F)) :=
  if raw.length > maxBytes then
    .error (.gateway
      (validationError (text s!"request body exceeds maximum size of {maxBytes} bytes") (some (text "body"))))
  else if raw = [] then .error (.gateway (validationError (text "request body is required") (some (text "body"))))
  else
    match py.loads raw with
    | .error (.jsonDecodeError message) =>
      .error (.gateway (validationError (text "invalid JSON: " ++ message) (some (text "body"))))
    | .error (.unicodeDecodeError message) => .error (.unicodeDecodeError message)
    | .ok (.dict fields) => .ok fields
    | .ok _ => .error (.gateway (validationError (text "request body must be a JSON object") (some (text "body"))))

def allowedChatFields : List Text := ["model", "messages", "stream", "max_tokens", "temperature", "top_p"].map text

def unsupportedChatFields : List Text :=
  ["tools", "tool_choice", "functions", "function_call", "response_format", "logprobs", "top_logprobs", "n",
    "presence_penalty", "frequency_penalty", "seed", "user", "stream_options", "parallel_tool_calls", "suffix", "echo",
    "best_of", "logit_bias", "stop"].map text

/-- the loop of `check_unsupported_fields` -/
def checkKeys (allowed : List Text) : List (Text × JsonValue F) → Except GatewayError Unit
  | [] => .ok ()
  | (key, _) :: rest =>
    if key ∈ unsupportedChatFields then .error (unsupportedField key)
    else if key ∉ allowed then .error (unsupportedField key)
    else checkKeys allowed rest

def checkUnsupportedFields (body : List (Text × JsonValue F)) (allowed : List Text) : Except GatewayError Unit := do
  checkKeys allowed body
  match getField body "n" with
  | none | some .none => .ok ()
  | some n => if equalsOne py n then .ok () else .error (unsupportedField (text "n"))

/-! ### Models -/

/-- the first of a validation's errors -/
structure ErrorDetails where
  loc : List Text
  msg : Text
  deriving DecidableEq, Repr

def refuse {α : Type} (msg : String) : Except ErrorDetails α := .error ⟨[], text msg⟩

/-- inside a field or an item -/
def within {α : Type} (part : Text) : Except ErrorDetails α → Except ErrorDetails α
  | .ok a => .ok a
  | .error details => .error { details with loc := part :: details.loc }

def requiredField {α : Type} (data : List (Text × JsonValue F)) (key : String)
    (read : JsonValue F → Except ErrorDetails α) :
    Except ErrorDetails α :=
  within (text key) (match getField data key with
    | none => refuse "Field required"
    | some v => read v)

/-- a field with a default -/
def defaultField {α : Type} (data : List (Text × JsonValue F)) (key : String) (default : α)
    (read : JsonValue F → Except ErrorDetails α) : Except ErrorDetails α :=
  within (text key) (match getField data key with
    | none => .ok default
    | some v => read v)

def optional {α : Type} (read : JsonValue F → Except ErrorDetails α) : JsonValue F → Except ErrorDetails (Option α)
  | .none => .ok none
  | v => (read v).map some

/-- `extra="forbid"` -/
def forbidExtra (fields : List String) (data : List (Text × JsonValue F)) : Except ErrorDetails Unit :=
  match data.find? fun field => field.1 ∉ fields.map text with
  | none => .ok ()
  | some field => within field.1 (refuse "Extra inputs are not permitted")

/-- no lone surrogate is in it -/
def isUnicode (s : Text) : Bool := s.all fun c => c < 0xD800 ∨ 0xDFFF < c

def readText : JsonValue F → Except ErrorDetails Text
  | .str s =>
    if isUnicode s then .ok s else refuse "Input should be a valid string, unable to parse raw data as a unicode string"
  | _ => refuse "Input should be a valid string"

/-- `min_length=1` -/
def readNonEmpty (v : JsonValue F) : Except ErrorDetails {s : Text // s ≠ []} := do
  let s ← readText v
  if h : s ≠ [] then .ok ⟨s, h⟩ else refuse "String should have at least 1 character"

def readBool : JsonValue F → Except ErrorDetails Bool
  | .bool b => .ok b
  | _ => refuse "Input should be a valid boolean"

/-- `ge=1, le=32768` -/
def readMaxTokens : JsonValue F → Except ErrorDetails {n : ℤ // 1 ≤ n ∧ n ≤ 32768}
  | .int i =>
    if hi : i ≤ 32768 then
      if lo : 1 ≤ i then .ok ⟨i, lo, hi⟩ else refuse "Input should be greater than or equal to 1"
    else refuse "Input should be less than or equal to 32768"
  | _ => refuse "Input should be a valid integer"

/-- `x <= n`, which is false of a NaN -/
def Python.AtMost (x : F) (n : ℤ) : Prop := py.compare x n = some .lt ∨ py.compare x n = some .eq

/-- `x >= n`, which is false of a NaN -/
def Python.AtLeast (x : F) (n : ℤ) : Prop := py.compare x n = some .gt ∨ py.compare x n = some .eq

instance (x : F) (n : ℤ) : Decidable (py.AtMost x n) := inferInstanceAs (Decidable (_ ∨ _))

instance (x : F) (n : ℤ) : Decidable (py.AtLeast x n) := inferInstanceAs (Decidable (_ ∨ _))

/-- `ge=0.0` and `le`; an integer is a number as well, and a NaN is refused for its upper bound -/
def readNumber (le : ℕ) (v : JsonValue F) : Except ErrorDetails F :=
  match v with
  | .float x => bounded x
  | .int i => (py.ofInt i).elim (refuse "Input should be a valid number") bounded
  | _ => refuse "Input should be a valid number"
where
  bounded (x : F) : Except ErrorDetails F :=
    if py.AtMost x le then
      if py.AtLeast x 0 then .ok x else refuse "Input should be greater than or equal to 0"
    else refuse s!"Input should be less than or equal to {le}"

structure ChatMessageIn where
  role : MessageRole
  content : Text
  deriving DecidableEq, Repr

structure ChatCompletionRequestIn (F : Type) where
  model : {s : Text // s ≠ []}
  messages : {l : List ChatMessageIn // 1 ≤ l.length ∧ l.length ≤ 128}
  stream : Bool := false
  maxTokens : Option {n : ℤ // 1 ≤ n ∧ n ≤ 32768} := none
  temperature : Option F := none
  topP : Option F := none

/-- `MessageRole(value)` -/
def coerceRole : JsonValue F → Except ErrorDetails MessageRole
  | .str s =>
    match MessageRole.members.find? fun role => text role.value = s with
    | some role => .ok role
    | none => .error ⟨[], text "Value error, " ++ py.repr s ++ text " is not a valid MessageRole"⟩
  | _ => refuse "Value error, role must be a string enum value"

def ChatMessageIn.modelValidate : JsonValue F → Except ErrorDetails ChatMessageIn
  | .dict data => do
    let role ← requiredField data "role" (coerceRole py)
    let content ← requiredField data "content" readText
    forbidExtra ["role", "content"] data
    return { role, content }
  | _ => refuse "Input should be a valid dictionary or instance of ChatMessageIn"

def readMessages : JsonValue F → Except ErrorDetails {l : List ChatMessageIn // 1 ≤ l.length ∧ l.length ≤ 128}
  | .list items => do
    if items.length > 128 then
      refuse s!"List should have at most 128 items after validation, not {items.length}"
    let messages ← (items.mapIdx fun i item => within (text (toString i)) (ChatMessageIn.modelValidate py item)).mapM id
    if h : 1 ≤ messages.length ∧ messages.length ≤ 128 then .ok ⟨messages, h⟩
    else refuse "List should have at least 1 item after validation, not 0"
  | _ => refuse "Input should be a valid list"

def ChatCompletionRequestIn.modelValidate (data : List (Text × JsonValue F)) :
    Except ErrorDetails (ChatCompletionRequestIn F) := do
  let model ← requiredField data "model" readNonEmpty
  let messages ← requiredField data "messages" (readMessages py)
  let stream ← defaultField data "stream" false readBool
  let maxTokens ← defaultField data "max_tokens" none (optional readMaxTokens)
  let temperature ← defaultField data "temperature" none (optional (readNumber py 2))
  let topP ← defaultField data "top_p" none (optional (readNumber py 1))
  forbidExtra ["model", "messages", "stream", "max_tokens", "temperature", "top_p"] data
  return { model, messages, stream, maxTokens, temperature, topP }

/-- `_pydantic_to_gateway` of the first error -/
def pydanticToGateway (details : ErrorDetails) : GatewayError :=
  validationError details.msg (if details.loc = [] then none else some ((text ".").intercalate details.loc))

def parseChatRequest (body : List (Text × JsonValue F)) : Except GatewayError (ChatCompletionRequestIn F) := do
  checkUnsupportedFields py body allowedChatFields
  match ChatCompletionRequestIn.modelValidate py body with
  | .ok request => .ok request
  | .error details => .error (pydanticToGateway details)

/-- the body of a chat completion -/
def fullParse (maxBytes : ℕ) (raw : List UInt8) : Except Raised (ChatCompletionRequestIn F) := do
  let body ← parseJsonBody py maxBytes raw
  match parseChatRequest py body with
  | .ok request => .ok request
  | .error err => .error (.gateway err)

/-! ## What the readers agree on -/

variable {py} {maxBytes : ℕ} {raw : List UInt8}

theorem exists_of_bind {ε α β : Type} {x : Except ε α} {f : α → Except ε β} {b : β} (h : (x >>= f) = .ok b) :
    ∃ a, x = .ok a ∧ f a = .ok b := by
  cases x with
  | error e => cases h
  | ok a => exact ⟨a, rfl, h⟩

theorem parseJsonBody_ok {body : List (Text × JsonValue F)} (h : parseJsonBody py maxBytes raw = .ok body) :
    py.loads raw = .ok (.dict body) := by
  unfold parseJsonBody at h
  split_ifs at h
  split at h
  · cases h
  · cases h
  · rename_i hloads
    rw [hloads, Except.ok.inj h]
  · cases h

theorem parseChatRequest_ok {body : List (Text × JsonValue F)} {request : ChatCompletionRequestIn F}
    (h : parseChatRequest py body = .ok request) : ChatCompletionRequestIn.modelValidate py body = .ok request := by
  obtain ⟨u, -, hvalidate⟩ := exists_of_bind h
  split at hvalidate
  · rename_i hrequest
    rw [hrequest, Except.ok.inj hvalidate]
  · cases hvalidate

theorem fullParse_ok {request : ChatCompletionRequestIn F} (h : fullParse py maxBytes raw = .ok request) :
    ∃ body, py.loads raw = .ok (.dict body) ∧ ChatCompletionRequestIn.modelValidate py body = .ok request := by
  obtain ⟨body, hbody, hparse⟩ := exists_of_bind h
  refine ⟨body, parseJsonBody_ok hbody, ?_⟩
  split at hparse
  · rename_i hrequest
    rw [← Except.ok.inj hparse]
    exact parseChatRequest_ok hrequest
  · cases hparse

theorem modelValidate_stream {body : List (Text × JsonValue F)} {request : ChatCompletionRequestIn F}
    (h : ChatCompletionRequestIn.modelValidate py body = .ok request) :
    defaultField body "stream" false readBool = .ok request.stream := by
  obtain ⟨model, -, h⟩ := exists_of_bind h
  obtain ⟨messages, -, h⟩ := exists_of_bind h
  obtain ⟨stream, hstream, h⟩ := exists_of_bind h
  obtain ⟨maxTokens, -, h⟩ := exists_of_bind h
  obtain ⟨temperature, -, h⟩ := exists_of_bind h
  obtain ⟨topP, -, h⟩ := exists_of_bind h
  obtain ⟨u, -, h⟩ := exists_of_bind h
  cases h
  exact hstream

/-- a strict flag is its own truth value, and its default is that of a missing field -/
theorem truthy_stream {body : List (Text × JsonValue F)} {stream : Bool}
    (h : defaultField body "stream" false readBool = .ok stream) :
    truthy py ((getField body "stream").getD .none) = stream := by
  unfold defaultField at h
  cases hfield : getField body "stream" with
  | none =>
    rw [hfield] at h
    exact Except.ok.inj h
  | some v =>
    rw [hfield] at h
    cases v with
    | bool b => exact Except.ok.inj h
    | none => cases h
    | int i => cases h
    | float x => cases h
    | str s => cases h
    | list items => cases h
    | dict fields => cases h

theorem parse_agrees {request : ChatCompletionRequestIn F} (h : fullParse py maxBytes raw = .ok request) :
    requestWantsStream py raw = .ok request.stream := by
  obtain ⟨body, hloads, hvalidate⟩ := fullParse_ok h
  rw [requestWantsStream, hloads]
  exact congrArg Except.ok (truthy_stream (modelValidate_stream hvalidate))

/-! ## Typed failure -/

/-- the body decodes, and holds an object if it holds JSON -/
def Readable (py : Python F) (raw : List UInt8) : Prop :=
  match py.loads raw with
  | .ok (.dict _) | .error (.jsonDecodeError _) => True
  | .ok _ | .error (.unicodeDecodeError _) => False

theorem typed_requestWantsStream_iff : Typed (requestWantsStream py raw) ↔ Readable py raw := by
  unfold requestWantsStream Readable
  cases py.loads raw with
  | error err =>
    cases err with
    | jsonDecodeError message => exact Iff.rfl
    | unicodeDecodeError message => exact Iff.rfl
  | ok v =>
    cases v with
    | dict fields => exact Iff.rfl
    | none => exact Iff.rfl
    | bool b => exact Iff.rfl
    | int i => exact Iff.rfl
    | float x => exact Iff.rfl
    | str s => exact Iff.rfl
    | list items => exact Iff.rfl

theorem typed_fullParse (maxBytes : ℕ) (h : Readable py raw) : Typed (fullParse py maxBytes raw) := by
  have hbody : ∀ body : Except Raised (List (Text × JsonValue F)), Typed body →
      Typed (body >>= fun body => match parseChatRequest py body with
        | .ok request => .ok request
        | .error err => .error (.gateway err)) := by
    intro body hbody
    cases body with
    | ok body =>
      change Typed (match parseChatRequest py body with
        | .ok request => .ok request
        | .error err => .error (.gateway err))
      cases parseChatRequest py body with
      | ok request => trivial
      | error err => trivial
    | error err =>
      cases err with
      | gateway err => trivial
      | unicodeDecodeError message => exact hbody.elim
      | attributeError message => exact hbody.elim
  refine hbody _ ?_
  unfold parseJsonBody
  split_ifs
  · trivial
  · trivial
  · unfold Readable at h
    cases hloads : py.loads raw with
    | error err =>
      rw [hloads] at h
      cases err with
      | jsonDecodeError message => trivial
      | unicodeDecodeError message => exact h.elim
    | ok v =>
      rw [hloads] at h
      cases v with
      | dict fields => trivial
      | none => trivial
      | bool b => trivial
      | int i => trivial
      | float x => trivial
      | str s => trivial
      | list items => trivial

/-- both readers return or fail in a typed way, and agree on the stream flag -/
structure BodyContract (py : Python F) (maxBytes : ℕ) (raw : List UInt8) : Prop where
  precheck : Typed (requestWantsStream py raw)
  parse : Typed (fullParse py maxBytes raw)
  agree : ∀ request, fullParse py maxBytes raw = .ok request → requestWantsStream py raw = .ok request.stream

theorem body_contract_iff (py : Python F) (maxBytes : ℕ) (raw : List UInt8) :
    BodyContract py maxBytes raw ↔ Readable py raw := by
  constructor
  · intro h
    exact typed_requestWantsStream_iff.1 h.precheck
  · intro h
    exact ⟨typed_requestWantsStream_iff.2 h, typed_fullParse maxBytes h, fun request => parse_agrees⟩

/-! ## Bodies -/

/-- `json.loads` of two bodies, with rational numbers for floats -/
def samplePython : Python ℚ where
  loads raw :=
    if raw = [0x5B, 0x5D] then .ok (.list [])
    else if raw = [0xFF] then
      .error (.unicodeDecodeError (text "'utf-8' codec can't decode byte 0xff in position 0: invalid start byte"))
    else .error (.jsonDecodeError (text "Expecting value: line 1 column 1 (char 0)"))
  ofInt i := some i
  compare x n := some (cmp x n)
  repr s := text "'" ++ s ++ text "'"

/-- `[]` -/
theorem array_body :
    requestWantsStream samplePython [0x5B, 0x5D] =
      .error (.attributeError (text "'list' object has no attribute 'get'")) ∧
      ¬BodyContract samplePython 4194304 [0x5B, 0x5D] := by
  have hraised : requestWantsStream samplePython [0x5B, 0x5D] =
      .error (.attributeError (text "'list' object has no attribute 'get'")) := rfl
  refine ⟨hraised, fun h => ?_⟩
  have htyped := h.precheck
  rw [hraised] at htyped
  exact htyped

/-- a byte that starts no character -/
example : ¬Typed (requestWantsStream samplePython [0xFF]) ∧ ¬Typed (fullParse samplePython 4194304 [0xFF]) :=
  ⟨fun h => h, fun h => h⟩

end InferencePlatform.Gateway
