/-
The round trip of a replay payload.

A payload reaches the submit builder as it was dumped, or out of the store, where ids, times and members have become
texts and the keys are sorted. `view` is a value as the builder finds it in either case. The builder's coercions give
back what was dumped (`messages_rebuilt`, `inference_rebuilt`, `context_rebuilt`); the order of the keys stays another
one, but the models only look keys up.

`replay_round_trip`: a replay runs the original request, under ids of its own.
-/
import InferencePlatform.Replay.Payload

namespace InferencePlatform.Replay

open InferencePlatform.Persistence (PyValue PyDict Texts sortKeys normaliseFields)

variable {texts : Texts} {data dump : PyDict} {fields : List String} {key : String}

/-! ## Keys -/

/-- no other keys -/
def OnlyKeys (fields : List String) (data : PyDict) : Prop := ∀ p ∈ data, p.1 ∈ fields

theorem OnlyKeys.forbidExtra (h : OnlyKeys fields data) : forbidExtra fields data = .ok () := by
  have hall : (data.all fun p => decide (p.1 ∈ fields)) = true := List.all_eq_true.2 fun p hp => decide_eq_true (h p hp)
  simp only [Replay.forbidExtra, if_pos hall]

theorem OnlyKeys.setItem (h : OnlyKeys fields data) (hkey : key ∈ fields) (v : PyValue) :
    OnlyKeys fields (setItem key v data) := by
  intro p hp
  have hmem : p.1 ∈ (Core.Dict.setItems key v data).map Prod.fst := List.mem_map_of_mem hp
  rw [Core.Dict.fst_setItems] at hmem
  have hold : p.1 ∈ data.map Prod.fst → p.1 ∈ fields := by
    intro hin
    obtain ⟨q, hq, heq⟩ := List.mem_map.1 hin
    exact heq ▸ h q hq
  split_ifs at hmem
  · exact hold hmem
  · rcases List.mem_append.1 hmem with hin | hin
    · exact hold hin
    · rw [List.mem_singleton.1 hin]
      exact hkey

theorem keys_normaliseFields (data : PyDict) : (normaliseFields texts data).map Prod.fst = data.map Prod.fst := by
  induction data with
  | nil => rw [normaliseFields]
  | cons p rest ih => rw [normaliseFields, List.map_cons, List.map_cons, ih]

theorem OnlyKeys.normalise (h : OnlyKeys fields data) : OnlyKeys fields (PyDict.normalise texts data) := by
  intro p hp
  have hmem : p ∈ normaliseFields texts data := (List.perm_insertionSort _ _).mem_iff.1 hp
  have hkey : p.1 ∈ (normaliseFields texts data).map Prod.fst := List.mem_map_of_mem hmem
  rw [keys_normaliseFields] at hkey
  obtain ⟨q, hq, heq⟩ := List.mem_map.1 hkey
  exact heq ▸ h q hq

@[simp] theorem get?_setItem (key key' : String) (v : PyValue) (data : PyDict) :
    PyDict.get? (setItem key v data) key' = if key' = key then some v else PyDict.get? data key' :=
  Core.Dict.getItems_setItems key key' v data

/-! ## Stored values -/

/-- a value as the builder finds it, out of the store or not -/
def view (texts : Texts) (stored : Bool) (v : PyValue) : PyValue := if stored then v.normalise texts else v

variable (texts) (stored : Bool)

@[simp] theorem view_str (s : String) : view texts stored (.str s) = .str s := by
  cases stored <;> simp [view]

@[simp] theorem view_bool (b : Bool) : view texts stored (.bool b) = .bool b := by
  cases stored <;> simp [view, PyValue.normalise]

@[simp] theorem view_int (n : ℤ) : view texts stored (.int n) = .int n := by
  cases stored <;> simp [view, PyValue.normalise]

@[simp] theorem view_float (q : ℚ) : view texts stored (.float q) = .float q := by
  cases stored <;> simp [view, PyValue.normalise]

@[simp] theorem view_none : view texts stored .none = .none := by
  cases stored <;> simp [view, PyValue.normalise]

@[simp] theorem view_list (items : List PyValue) :
    view texts stored (.list items) = .list (items.map (view texts stored)) := by
  cases stored with
  | false =>
    have hid : items.map (view texts false) = items := List.map_id'' (fun _ => rfl) items
    rw [hid]
    rfl
  | true =>
    change (PyValue.list items).normalise texts = _
    rw [Persistence.PyValue.normalise_list]
    rfl

theorem view_dumpOpt {α : Type} {dumpValue : α → PyValue} (h : ∀ a, view texts stored (dumpValue a) = dumpValue a)
    (value : Option α) : view texts stored (dumpOpt dumpValue value) = dumpOpt dumpValue value := by
  cases value with
  | none => exact view_none texts stored
  | some a => exact h a

/-- what was dumped, out of the store or not -/
structure Shows (stored : Bool) (data dump : PyDict) : Prop where
  lookup : ∀ key, PyDict.get? data key = (PyDict.get? dump key).map (view texts stored)
  keys : ∀ fields, OnlyKeys fields dump → OnlyKeys fields data

theorem shows_dump (dump : PyDict) : Shows texts false dump dump := by
  refine ⟨fun key => ?_, fun _ h => h⟩
  cases PyDict.get? dump key <;> rfl

theorem shows_normalise (dump : PyDict) : Shows texts true (PyDict.normalise texts dump) dump :=
  ⟨fun key => by rw [Persistence.PyDict.get?_normalise]; rfl, fun _ h => h.normalise⟩

/-! ## Messages -/

theorem coerceItem_some {coerce : PyValue → Except String PyValue} {v v' : PyValue}
    (hget : PyDict.get? data key = some v)
    (hv : coerce v = .ok v') : coerceItem key coerce data = .ok (setItem key v' data) := by
  simp only [coerceItem, hget, hv]
  rfl

theorem readRole_dumpRole (role : MessageRole) : readRole (dumpRole role) = .ok role := by
  cases role <;> rfl

theorem strText_view_enum (type value : String) : strText? (view texts stored (.enum type value)) = some value := by
  cases stored <;> simp [view, PyValue.normalise, strText?]

theorem coerceRole_view (role : MessageRole) :
    coerceRole (view texts stored (dumpRole role)) = .ok (dumpRole role) := by
  simp only [coerceRole, dumpRole, strText_view_enum]
  cases role <;> rfl

/-- a message, with its role coerced -/
theorem message_rebuilt (message : Message) :
    ∃ v, coerceMessage (view texts stored message.modelDump) = .ok v ∧ readMessage v = .ok message := by
  obtain ⟨data, hdata, hshows⟩ : ∃ data, view texts stored message.modelDump = .dict data ∧
      Shows texts stored data [("role", dumpRole message.role), ("content", .str message.content)] := by
    cases stored with
    | false => exact ⟨_, rfl, shows_dump texts _⟩
    | true => exact ⟨_, Persistence.normalise_dict _, shows_normalise texts _⟩
  have hrole : PyDict.get? data "role" = some (view texts stored (dumpRole message.role)) := hshows.lookup "role"
  have hcontent : PyDict.get? data "content" = some (.str message.content) := by
    rw [hshows.lookup]
    simp
  have hkeys : OnlyKeys ["role", "content"] data := hshows.keys _ (by simp [OnlyKeys])
  refine ⟨.dict (setItem "role" (dumpRole message.role) data), ?_, ?_⟩
  · simp only [hdata, coerceMessage, coerceItem_some hrole (coerceRole_view texts stored message.role)]
    rfl
  · have hrole' : "role" ∈ ["role", "content"] := List.mem_cons_self
    have hforbid := (hkeys.setItem hrole' (dumpRole message.role)).forbidExtra
    simp only [readMessage, hforbid, field, get?_setItem, if_true, hcontent, readRole_dumpRole]
    rfl

theorem mapM_rebuilt {α : Type} {coerce : PyValue → Except String PyValue} {read : PyValue → Except String α}
    {dumpValue : α → PyValue} (h : ∀ a, ∃ v, coerce (view texts stored (dumpValue a)) = .ok v ∧ read v = .ok a)
    (items : List α) :
    ∃ vs, ((items.map dumpValue).map (view texts stored)).mapM coerce = .ok vs ∧ vs.mapM read = .ok items := by
  induction items with
  | nil => exact ⟨[], rfl, rfl⟩
  | cons a rest ih =>
    obtain ⟨v, hcoerce, hread⟩ := h a
    obtain ⟨vs, hcoerce', hread'⟩ := ih
    refine ⟨v :: vs, ?_, ?_⟩
    · simp only [List.map_cons, List.mapM_cons, hcoerce, hcoerce']
      rfl
    · simp only [List.mapM_cons, hread, hread']
      rfl

theorem check_ok {α : Type} {p : α → Prop} [DecidablePred p] (message : String) (a : {a // p a}) :
    check message a.1 = .ok a := by
  simp only [check, dif_pos a.2]

theorem messages_rebuilt (messages : {l : List Message // 1 ≤ l.length ∧ l.length ≤ 128}) :
    ∃ v, coerceMessages (view texts stored (.list (messages.1.map Message.modelDump))) = .ok v ∧
      readMessages v = .ok messages := by
  obtain ⟨vs, hcoerce, hread⟩ := mapM_rebuilt texts stored (message_rebuilt texts stored) messages.1
  refine ⟨.list vs, ?_, ?_⟩
  · have htruthy : (PyValue.list ((messages.1.map Message.modelDump).map (view texts stored))).truthy = true := by
      obtain ⟨list, hlength, -⟩ := messages
      cases list with
      | nil => simp at hlength
      | cons message rest => rfl
    simp only [coerceMessages, view_list, htruthy, if_true, hcoerce]
    rfl
  · simp only [readMessages, hread]
    exact check_ok _ messages

/-! ## Requests and contexts -/

theorem strText_view_priority (priority : PriorityClass) :
    coercePriority (view texts stored (dumpPriority priority)) = .ok (dumpPriority priority) := by
  simp only [coercePriority, dumpPriority, strText_view_enum]
  cases priority <;> rfl

theorem priority_rebuilt (priority : Option PriorityClass) :
    coercePriority (view texts stored (dumpOpt dumpPriority priority)) = .ok (dumpOpt dumpPriority priority) := by
  cases priority with
  | none => simp [dumpOpt, coercePriority, strText?]
  | some priority => exact strText_view_priority texts stored priority

theorem time_rebuilt (t : Time) : coerceTime texts (view texts stored (.datetime t)) = .ok (.datetime t) := by
  cases stored <;> simp [view, PyValue.normalise, coerceTime, strText?]

theorem coerceUuid_uuid (u : UUID) : coerceUuid texts (.uuid u) = .ok (.uuid u) := rfl

/-- what the readers find under the keys of a request -/
structure Tells (data : PyDict) (request : InferenceRequest) : Prop where
  keys : OnlyKeys (request.modelDump.map Prod.fst) data
  messages : field data "messages" readMessages = .ok request.messages
  others : ∀ key ≠ "messages", PyDict.get? data key = PyDict.get? request.modelDump key

theorem field_ok {α : Type} {read : PyValue → Except String α} {v : PyValue} {a : α}
    (hget : PyDict.get? data key = some v) (hread : read v = .ok a) : field data key read = .ok a := by
  simp only [field, hget, hread]

theorem optField_ok {α : Type} {read : PyValue → Except String α} {dumpValue : α → PyValue} {value : Option α}
    (hget : PyDict.get? data key = some (dumpOpt dumpValue value)) (hread : ∀ a, read (dumpValue a) = .ok a)
    (hne : ∀ a, dumpValue a ≠ .none) : optField data key read = .ok value := by
  cases value with
  | none => simp only [optField, hget, dumpOpt]
  | some a =>
    have hsome : optField data key read = (read (dumpValue a)).map some := by
      unfold optField
      rw [hget]
      split
      · next h => cases h
      · next h => exact absurd (Option.some.inj h) (hne a)
      · next v _ h => rw [← Option.some.inj h, dumpOpt]
    rw [hsome, hread]
    rfl

theorem readPriority_dump (priority : PriorityClass) : readPriority (dumpPriority priority) = .ok priority := by
  cases priority <;> rfl

theorem readNonEmpty_str (s : NonEmptyString) : readNonEmpty (.str s) = .ok s := check_ok _ s

theorem readNumber_float (top : ℚ) (q : {q : ℚ // 0 ≤ q ∧ q ≤ top}) :
    readNumber top (.float q.1) = .ok q := check_ok _ q

variable {texts stored}

theorem Tells.validate {request : InferenceRequest} (h : Tells data request) :
    InferenceRequest.modelValidate data = .ok request := by
  have hget : ∀ {key v}, key ≠ "messages" → PyDict.get? request.modelDump key = some v →
      PyDict.get? data key = some v :=
    fun hne hv => (h.others _ hne).trans hv
  have hid : field data "request_id" readUuid = .ok request.requestId := field_ok (hget (by decide) rfl) rfl
  have hmodel : field data "model" readNonEmpty = .ok request.model :=
    field_ok (hget (by decide) rfl) (readNonEmpty_str request.model)
  have hstream : field data "stream" readBool = .ok request.stream := field_ok (hget (by decide) rfl) rfl
  have htokens : field data "max_tokens" readMaxTokens = .ok request.maxTokens :=
    field_ok (hget (by decide) rfl) (check_ok _ request.maxTokens)
  have htemperature : optField data "temperature" (readNumber 2) = .ok request.temperature :=
    optField_ok (hget (by decide) rfl) (readNumber_float 2) fun _ h => by cases h
  have htop : optField data "top_p" (readNumber 1) = .ok request.topP :=
    optField_ok (hget (by decide) rfl) (readNumber_float 1) fun _ h => by cases h
  have hpriority : optField data "priority_class" readPriority = .ok request.priorityClass :=
    optField_ok (hget (by decide) rfl) readPriority_dump fun _ h => by cases h
  have hkey : optField data "api_key_id" readStr = .ok request.apiKeyId :=
    optField_ok (hget (by decide) rfl) (fun _ => rfl) fun _ h => by cases h
  have hclient : optField data "client_request_id" readStr = .ok request.clientRequestId :=
    optField_ok (hget (by decide) rfl) (fun _ => rfl) fun _ h => by cases h
  have hforbid := h.keys.forbidExtra
  simp only [InferenceRequest.modelDump, List.map_cons, List.map_nil] at hforbid
  simp only [InferenceRequest.modelValidate, hforbid, hid, hmodel, h.messages, hstream, htokens, htemperature, htop,
    hpriority, hkey, hclient]
  rfl

variable (texts stored) in
/-- a lookup does not see whether the value comes out of the store, where the value does not change in it -/
theorem map_view_get? (h : ∀ p ∈ dump, p.1 = key → view texts stored p.2 = p.2) :
    (PyDict.get? dump key).map (view texts stored) = PyDict.get? dump key := by
  cases hget : PyDict.get? dump key with
  | none => rfl
  | some v => exact congrArg some (h (key, v) (Core.Dict.getItems_mem hget) rfl)

variable (texts stored) in
/-- of a request, the store changes the id, the messages' roles and the priority class -/
theorem plain_lookup (request : InferenceRequest) (replayId : UUID) (hmessages : key ≠ "messages")
    (hpriority : key ≠ "priority_class") (hid : key ≠ "request_id") :
    (PyDict.get? request.modelDump key).map (view texts stored) =
      PyDict.get? ({ request with requestId := replayId } : InferenceRequest).modelDump key := by
  have hplain : (PyDict.get? request.modelDump key).map (view texts stored) = PyDict.get? request.modelDump key := by
    refine map_view_get? texts stored fun p hp heq => ?_
    simp only [InferenceRequest.modelDump, List.mem_cons, List.not_mem_nil, or_false] at hp
    rcases hp with rfl | rfl | rfl | rfl | rfl | rfl | rfl | rfl | rfl | rfl
    · exact absurd heq.symm hid
    · exact view_str texts stored _
    · exact absurd heq.symm hmessages
    · exact view_bool texts stored _
    · exact view_int texts stored _
    · exact view_dumpOpt texts stored (fun _ => view_float texts stored _) _
    · exact view_dumpOpt texts stored (fun _ => view_float texts stored _) _
    · exact absurd heq.symm hpriority
    · exact view_dumpOpt texts stored (view_str texts stored) _
    · exact view_dumpOpt texts stored (view_str texts stored) _
  have hskip : ∀ v rest, PyDict.get? (("request_id", v) :: rest) key = PyDict.get? rest key := by
    intro v rest
    rw [PyDict.get?_cons, if_neg (Ne.symm hid)]
  exact hplain.trans ((hskip _ _).trans (hskip _ _).symm)

theorem inference_rebuilt {request : InferenceRequest} (h : Shows texts stored data request.modelDump)
    (replayId : UUID) :
    ∃ data', coerceInferenceRequest texts (setItem "request_id" (.uuid replayId) data) = .ok data' ∧
      InferenceRequest.modelValidate data' = .ok { request with requestId := replayId } := by
  obtain ⟨v, hcoerce, hread⟩ := messages_rebuilt texts stored request.messages
  set data₁ := setItem "request_id" (.uuid replayId) (setItem "request_id" (.uuid replayId) data) with hdata₁
  set data₂ := setItem "messages" v data₁ with hdata₂
  set data₃ := setItem "priority_class" (dumpOpt dumpPriority request.priorityClass) data₂ with hdata₃
  have hid : coerceItem "request_id" (coerceUuid texts) (setItem "request_id" (.uuid replayId) data) = .ok data₁ :=
    coerceItem_some (by simp) (coerceUuid_uuid texts replayId)
  have hmessages : coerceItem "messages" coerceMessages data₁ = .ok data₂ := by
    refine coerceItem_some ?_ hcoerce
    simp [hdata₁, h.lookup, InferenceRequest.modelDump]
  have hpriority : coerceItem "priority_class" coercePriority data₂ = .ok data₃ := by
    refine coerceItem_some ?_ (priority_rebuilt texts stored request.priorityClass)
    simp [hdata₂, hdata₁, h.lookup, InferenceRequest.modelDump]
  refine ⟨data₃, ?_, Tells.validate ?_⟩
  · simp only [coerceInferenceRequest, hid, hmessages, hpriority, bind, Except.bind]
  · refine ⟨?_, ?_, ?_⟩
    · have hkeys : OnlyKeys (request.modelDump.map Prod.fst) data := h.keys _ fun p hp => List.mem_map_of_mem hp
      have hmem : ∀ key ∈ ["request_id", "messages", "priority_class"], key ∈ request.modelDump.map Prod.fst := by
        simp [InferenceRequest.modelDump]
      exact (((hkeys.setItem (hmem "request_id" (by simp)) _).setItem (hmem "request_id" (by simp)) _).setItem
        (hmem "messages" (by simp)) _).setItem (hmem "priority_class" (by simp)) _
    · refine field_ok ?_ hread
      simp [hdata₃, hdata₂]
    · intro key hkey
      simp only [hdata₃, hdata₂, hdata₁, get?_setItem, h.lookup, if_neg hkey]
      by_cases hpriority : key = "priority_class"
      · simp [hpriority, InferenceRequest.modelDump]
      by_cases hid : key = "request_id"
      · simp [hid, InferenceRequest.modelDump]
      rw [if_neg hpriority, if_neg hid, if_neg hid]
      exact plain_lookup texts stored request replayId hkey hpriority hid

theorem replayTraceId_ne (replayId : UUID) : replayTraceId texts replayId ≠ "" := by
  intro h
  have hlength := congrArg String.length h
  simp [replayTraceId] at hlength
  exact texts.uuidText_ne replayId hlength.2

theorem replaySpanId_ne (replayId : UUID) : replaySpanId texts replayId ≠ "" := by
  intro h
  have hlength := congrArg String.length h
  simp [replaySpanId] at hlength
  exact texts.uuidText_ne replayId hlength.2

variable (texts) in
/-- the context of a replay -/
def RequestContext.replayedAs (context : RequestContext) (replayId : UUID) : RequestContext :=
  { context with
    requestId := replayId, traceId := ⟨replayTraceId texts replayId, replayTraceId_ne replayId⟩
    spanId := ⟨replaySpanId texts replayId, replaySpanId_ne replayId⟩ }

/-- what the readers find under the keys of a context -/
theorem context_validate {context : RequestContext} (hkeys : OnlyKeys (context.modelDump.map Prod.fst) data)
    (hlookup : ∀ key, PyDict.get? data key = PyDict.get? context.modelDump key) :
    RequestContext.modelValidate data = .ok context := by
  have hget : ∀ {key v}, PyDict.get? context.modelDump key = some v → PyDict.get? data key = some v :=
    fun hv => (hlookup _).trans hv
  have hid : field data "request_id" readUuid = .ok context.requestId := field_ok (hget rfl) rfl
  have htrace : field data "trace_id" readNonEmpty = .ok context.traceId :=
    field_ok (hget rfl) (readNonEmpty_str context.traceId)
  have hspan : field data "span_id" readNonEmpty = .ok context.spanId :=
    field_ok (hget rfl) (readNonEmpty_str context.spanId)
  have harrival : field data "arrival_time" readDatetime = .ok context.arrivalTime := field_ok (hget rfl) rfl
  have hmodel : field data "model" readStr = .ok context.model := field_ok (hget rfl) rfl
  have hstream : field data "stream" readBool = .ok context.stream := field_ok (hget rfl) rfl
  have hgateway : field data "gateway_instance_id" readStr = .ok context.gatewayInstanceId := field_ok (hget rfl) rfl
  have hforbid := hkeys.forbidExtra
  simp only [RequestContext.modelDump, List.map_cons, List.map_nil] at hforbid
  simp only [RequestContext.modelValidate, hforbid, hid, htrace, hspan, harrival, hmodel, hstream, hgateway]
  rfl

/-- the context's dict after the clone -/
def clonedContext (texts : Texts) (replayId : UUID) (data : PyDict) : PyDict :=
  setItem "span_id" (.str (replaySpanId texts replayId))
    (setItem "trace_id" (.str (replayTraceId texts replayId)) (setItem "request_id" (.uuid replayId) data))

theorem context_rebuilt {context : RequestContext} (h : Shows texts stored data context.modelDump) (replayId : UUID) :
    ∃ data', coerceRequestContext texts (clonedContext texts replayId data) = .ok data' ∧
      RequestContext.modelValidate data' = .ok (context.replayedAs texts replayId) := by
  set data₁ := setItem "request_id" (.uuid replayId) (clonedContext texts replayId data) with hdata₁
  set data₂ := setItem "arrival_time" (.datetime context.arrivalTime) data₁ with hdata₂
  have hid : coerceItem "request_id" (coerceUuid texts) (clonedContext texts replayId data) = .ok data₁ :=
    coerceItem_some (by simp [clonedContext]) (coerceUuid_uuid texts replayId)
  have harrival : coerceItem "arrival_time" (coerceTime texts) data₁ = .ok data₂ := by
    refine coerceItem_some ?_ (time_rebuilt texts stored context.arrivalTime)
    simp [hdata₁, clonedContext, h.lookup, RequestContext.modelDump]
  refine ⟨data₂, ?_, context_validate ?_ ?_⟩
  · simp only [coerceRequestContext, hid, harrival, bind, Except.bind]
  · have hkeys : OnlyKeys (context.modelDump.map Prod.fst) data := h.keys _ fun p hp => List.mem_map_of_mem hp
    have hmem : ∀ key ∈ ["request_id", "trace_id", "span_id", "arrival_time"],
        key ∈ context.modelDump.map Prod.fst := by
      simp [RequestContext.modelDump]
    exact ((((hkeys.setItem (hmem "request_id" (by simp)) _).setItem (hmem "trace_id" (by simp)) _).setItem
      (hmem "span_id" (by simp)) _).setItem (hmem "request_id" (by simp)) _).setItem (hmem "arrival_time" (by simp)) _
  · intro key
    have hplain : key ≠ "request_id" → key ≠ "arrival_time" →
        (PyDict.get? context.modelDump key).map (view texts stored) = PyDict.get? context.modelDump key := by
      intro hid harrival
      refine map_view_get? texts stored fun p hp heq => ?_
      simp only [RequestContext.modelDump, List.mem_cons, List.not_mem_nil, or_false] at hp
      rcases hp with rfl | rfl | rfl | rfl | rfl | rfl | rfl
      · exact absurd heq.symm hid
      · exact view_str texts stored _
      · exact view_str texts stored _
      · exact absurd heq.symm harrival
      · exact view_str texts stored _
      · exact view_bool texts stored _
      · exact view_str texts stored _
    simp only [hdata₂, hdata₁, clonedContext, get?_setItem, h.lookup]
    by_cases hid : key = "request_id"
    · simp [hid, RequestContext.modelDump, RequestContext.replayedAs]
    by_cases harrival : key = "arrival_time"
    · simp [harrival, RequestContext.modelDump, RequestContext.replayedAs]
    by_cases hspan : key = "span_id"
    · simp [hspan, RequestContext.modelDump, RequestContext.replayedAs]
    by_cases htrace : key = "trace_id"
    · simp [htrace, RequestContext.modelDump, RequestContext.replayedAs]
    have hskip : ∀ v v' v'' rest,
        PyDict.get? (("request_id", v) :: ("trace_id", v') :: ("span_id", v'') :: rest) key = PyDict.get? rest key := by
      intro v v' v'' rest
      rw [PyDict.get?_cons, if_neg (Ne.symm hid), PyDict.get?_cons, if_neg (Ne.symm htrace), PyDict.get?_cons,
        if_neg (Ne.symm hspan)]
    rw [if_neg harrival, if_neg hid, if_neg hspan, if_neg htrace, if_neg hid, hplain hid harrival]
    exact (hskip _ _ _ _).trans (hskip _ _ _ _).symm

/-! ## The round trip -/

variable (texts) in
/-- the submit of a replay: the original's, under the replay's ids -/
def SubmitRequest.replayedAs (submit : SubmitRequest) (replayId : UUID) : SubmitRequest :=
  ⟨{ submit.inferenceRequest with requestId := replayId }, submit.requestContext.replayedAs texts replayId⟩

theorem submit_rebuilt {payload : RequestPayloadSnapshot} {submit : SubmitRequest}
    (hrequest : Shows texts stored payload.inferenceRequest submit.inferenceRequest.modelDump)
    (hcontext : Shows texts stored payload.requestContext submit.requestContext.modelDump) (replayId : UUID) :
    submitFromPayload texts (clonePayloadForReplay texts payload replayId) =
      .ok (submit.replayedAs texts replayId) := by
  obtain ⟨data, hcoerce, hvalidate⟩ := inference_rebuilt hrequest replayId
  obtain ⟨data', hcoerce', hvalidate'⟩ := context_rebuilt hcontext replayId
  have hnormalized : normalizePayloadSnapshot texts (clonePayloadForReplay texts payload replayId) =
      .ok ⟨data, data'⟩ := by
    simp only [normalizePayloadSnapshot, clonePayloadForReplay, hcoerce]
    change (coerceRequestContext texts (clonedContext texts replayId payload.requestContext)).map _ = _
    rw [hcoerce']
    rfl
  simp only [submitFromPayload, hnormalized, bind, Except.bind, hvalidate, hvalidate']
  rfl

/-- **Replay payload round trip.** Cloned for a replay, as it was dumped or out of the store, a payload builds the
submit it was taken from, under the replay's ids. -/
theorem replay_round_trip (texts : Texts) (submit : SubmitRequest) (replayId : UUID) :
    let payload := RequestPayloadSnapshot.fromSubmit submit
    submitFromPayload texts (clonePayloadForReplay texts payload replayId) = .ok (submit.replayedAs texts replayId) ∧
      ∃ stored, payloadSnapshotFromDict (PyDict.normalise texts (payloadSnapshotToDict payload)) = .ok stored ∧
        submitFromPayload texts (clonePayloadForReplay texts stored replayId) =
          .ok (submit.replayedAs texts replayId) := by
  intro payload
  refine ⟨submit_rebuilt (shows_dump texts _) (shows_dump texts _) replayId, ?_⟩
  set stored : RequestPayloadSnapshot :=
    ⟨PyDict.normalise texts submit.inferenceRequest.modelDump, PyDict.normalise texts submit.requestContext.modelDump⟩
    with hstored
  have hread : payloadSnapshotFromDict (PyDict.normalise texts (payloadSnapshotToDict payload)) = .ok stored := by
    simp only [payloadSnapshotFromDict, PyDict.item, Persistence.PyDict.get?_normalise, payloadSnapshotToDict]
    simp [PyValue.asDict, hstored, payload, RequestPayloadSnapshot.fromSubmit]
    rfl
  exact ⟨stored, hread, submit_rebuilt (shows_normalise texts _) (shows_normalise texts _) replayId⟩

end InferencePlatform.Replay
