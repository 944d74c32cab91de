/-
The response bodies of the two completion endpoints, and the completion record on its way into them.

The orchestrator hands the backend's record to the registry (`handed_over`). `/v1/chat/completions` then takes text,
finish reason and usage from the record, unless the text is empty: the test for a record is a test for text.
`/v1/completions` does not look at the record at all. `responses_faithful_iff` says which records both bodies carry all
the same, and which the chat body carries.

A response's `id` is the request's number, `created` counts seconds.
-/
import InferencePlatform.ControlPlane.Safety
import InferencePlatform.Gateway.Spec

namespace InferencePlatform.Gateway

open ControlPlane (ControlPlaneApplication ControlPlaneM RegisteredRequest Ref)

/-! ## Bodies -/

structure Usage where
  promptTokens : ℕ
  completionTokens : ℕ
  totalTokens : ℕ
  deriving DecidableEq, Repr

structure ChatMessage where
  role : String
  content : String
  deriving DecidableEq, Repr

structure ChatChoice where
  index : ℕ
  message : ChatMessage
  finishReason : String
  deriving DecidableEq, Repr

structure TextChoice where
  index : ℕ
  text : String
  finishReason : String
  deriving DecidableEq, Repr

/-- the body of a response, for either kind of choice -/
structure ResponseBody (choice : Type) where
  id : UUID
  object : String
  created : ℕ
  model : String
  choices : List choice
  usage : Usage
  deriving DecidableEq, Repr

/-- what the builders read of the gateway's context -/
structure GatewayRequestContext where
  requestId : UUID
  inferenceRequest : InferenceRequest
  receivedTimestamp : Time
  lifecycleState : RequestState
  registered : Option RegisteredRequest

/-- the context that `process_chat_completion` builds for the entry that `accept_request` has returned -/
def GatewayRequestContext.accepted (entry : RegisteredRequest) (receivedTimestamp : Time) : GatewayRequestContext :=
  { requestId := entry.requestId, inferenceRequest := entry.inferenceRequest, receivedTimestamp
    lifecycleState := entry.state, registered := some entry }

def placeholderText (state : RequestState) : String :=
  s!"Request completed via mock backend (lifecycle_state={state.value}). No model tokens generated."

def placeholderChatResponse (ctx : GatewayRequestContext) : ResponseBody ChatChoice :=
  let created := ctx.receivedTimestamp / 1000000
  let placeholder : ResponseBody ChatChoice :=
    { id := ctx.requestId, object := "chat.completion", created, model := ctx.inferenceRequest.model
      choices := [{ index := 0, message := ⟨"assistant", placeholderText ctx.lifecycleState⟩, finishReason := "stop" }]
      usage := ⟨0, 0, 0⟩ }
  match ctx.registered.bind RegisteredRequest.completion with
  | none => placeholder
  | some completion =>
    if completion.generatedText ≠ "" then
      -- `finish_reason or "stop"`: an empty reason is replaced as well
      let finishReason := completion.finishReason.getD ""
      { id := ctx.requestId, object := "chat.completion", created, model := ctx.inferenceRequest.model
        choices :=
          [{ index := 0, message := ⟨"assistant", completion.generatedText⟩
             finishReason := if finishReason = "" then "stop" else finishReason }]
        usage := ⟨completion.promptTokens, completion.completionTokens, completion.totalTokens⟩ }
    else placeholder

def placeholderTextCompletionResponse (ctx : GatewayRequestContext) : ResponseBody TextChoice :=
  { id := ctx.requestId, object := "text_completion", created := ctx.receivedTimestamp / 1000000
    model := ctx.inferenceRequest.model
    choices := [{ index := 0, text := placeholderText ctx.lifecycleState, finishReason := "stop" }]
    usage := ⟨0, 0, 0⟩ }

/-! ## Fidelity -/

variable {c : InferenceCompletionRecord} {ctx : GatewayRequestContext} {s s' : PlatformStack} {r : UUID} {now : Time}

/-- one choice, with the record's text and finish reason, and the record's usage -/
def Carries {choice : Type} (text finishReason : choice → String) (c : InferenceCompletionRecord)
    (body : ResponseBody choice) : Prop :=
  body.choices.map (fun choice => (text choice, finishReason choice)) =
    [(c.generatedText, c.finishReason.getD "stop")] ∧
    body.usage = ⟨c.promptTokens, c.completionTokens, c.totalTokens⟩

abbrev ChatCarries : InferenceCompletionRecord → ResponseBody ChatChoice → Prop :=
  Carries (fun choice => choice.message.content) ChatChoice.finishReason

abbrev TextCarries : InferenceCompletionRecord → ResponseBody TextChoice → Prop :=
  Carries TextChoice.text TextChoice.finishReason

instance {choice : Type} (text finishReason : choice → String) (body : ResponseBody choice) :
    Decidable (Carries text finishReason c body) := inferInstanceAs (Decidable (_ ∧ _))

/-- the record says what the placeholder says of a COMPLETED request -/
def SaysPlaceholder (c : InferenceCompletionRecord) : Prop :=
  c.generatedText = placeholderText .completed ∧ c.finishReason.getD "stop" = "stop" ∧
    c.promptTokens = 0 ∧ c.completionTokens = 0 ∧ c.totalTokens = 0

theorem placeholderText_ne (state : RequestState) : placeholderText state ≠ "" := by
  cases state <;> decide

variable (ctx c) in
theorem chatCarries_iff (hc : ctx.registered.bind RegisteredRequest.completion = some c) :
    ChatCarries c (placeholderChatResponse ctx) ↔ c.generatedText ≠ "" ∧ c.finishReason ≠ some "" := by
  by_cases htext : c.generatedText = ""
  · have hbody : (placeholderChatResponse ctx).choices.map (fun choice => choice.message.content) =
        [placeholderText ctx.lifecycleState] := by
      simp [placeholderChatResponse, hc, htext]
    constructor
    · intro h
      have hchoice := congrArg (List.map Prod.fst) h.1
      rw [List.map_map] at hchoice
      rw [show Prod.fst ∘ (fun choice : ChatChoice => (choice.message.content, choice.finishReason)) =
        fun choice => choice.message.content from rfl, hbody, htext] at hchoice
      exact absurd (List.singleton_inj.1 hchoice) (placeholderText_ne _)
    · intro h
      exact absurd htext h.1
  · cases hreason : c.finishReason with
    | none => simp [Carries, placeholderChatResponse, hc, htext, hreason]
    | some reason =>
      simp only [Carries, placeholderChatResponse, hc, if_pos (show c.generatedText ≠ "" from htext), hreason,
        Option.getD_some, List.map_cons, List.map_nil, List.singleton_inj, Prod.mk.injEq, true_and, and_true, ne_eq,
        Option.some.injEq]
      by_cases hempty : reason = ""
      · simp [hempty]
      · simp [hempty, htext]

variable (ctx c) in
theorem textCarries_iff (hstate : ctx.lifecycleState = .completed) :
    TextCarries c (placeholderTextCompletionResponse ctx) ↔ SaysPlaceholder c := by
  simp only [Carries, placeholderTextCompletionResponse, SaysPlaceholder, hstate, List.map_cons, List.map_nil,
    List.singleton_inj, Prod.mk.injEq, Usage.mk.injEq]
  constructor
  · intro h
    exact ⟨h.1.1.symm, h.1.2.symm, h.2.1.symm, h.2.2.1.symm, h.2.2.2.symm⟩
  · intro h
    exact ⟨⟨h.1.symm, h.2.1.symm⟩, h.2.2.1.symm, h.2.2.2.1.symm, h.2.2.2.2.symm⟩

/-- the orchestrator's completion leaves a COMPLETED entry with the record -/
theorem handed_over (hrun : EStateM.run (completeRequest r (some c) now) s = .ok () s') :
    ∃ e, s'.controlPlane.entry? r = some e ∧ e.state = .completed ∧ e.completion = some c := by
  cases hengine : EStateM.run (onEngine (Batching.completeRequest r now)) s with
  | error err s₁ =>
    simp only [completeRequest, EStateM.run_bind, hengine] at hrun
    cases hrun
  | ok released s₁ =>
    cases hlife : EStateM.run (ControlPlane.completeRequest r (some c) now) s₁.controlPlane with
    | error err cp =>
      simp only [completeRequest, EStateM.run_bind, hengine, onControlPlane_error hlife] at hrun
      cases hrun
    | ok ref cp =>
      simp only [completeRequest, EStateM.run_bind, hengine, onControlPlane_ok hlife, EStateM.run_pure] at hrun
      cases hrun
      cases hr : s₁.controlPlane.registry.get? r with
      | none =>
        rw [ControlPlane.completeRequest_unknown hr] at hlife
        cases hlife
      | some ref' =>
        cases he : s₁.controlPlane.entries[ref']? with
        | none =>
          simp only [ControlPlane.completeRequest, ControlPlane.derefEntry, EStateM.run_bind,
            ControlPlane.getRef_run hr, EStateM.run_get, he, ControlPlane.run_throw] at hlife
          cases hlife
        | some e =>
          by_cases hst : e.state = .submitted ∨ e.state = .streaming
          · obtain ⟨events, hstored⟩ := ControlPlane.completeRequest_store hr he hst (some c) now
            rw [hstored] at hlife
            cases hlife
            set e' := ({ e with completion := some c } : RegisteredRequest).moved .completed now none none with he'
            have hentry : ControlPlaneApplication.entry? ((s₁.controlPlane.store ref e').logged events) r =
                some e' := by
              change (s₁.controlPlane.registry.get? r).bind _ = _
              rw [hr]
              exact ControlPlane.store_get he e'
            exact ⟨e', hentry, rfl, rfl⟩
          · rw [(ControlPlane.completeRequest_run hr he (some c) now).2 hst] at hlife
            cases hlife

/-- **Response fidelity.** After the orchestrator has completed a request with a record, both bodies carry the record
exactly when it says what the placeholder says; the chat body alone does exactly when neither its text nor its finish
reason is the empty string. -/
theorem responses_faithful_iff (hrun : EStateM.run (completeRequest r (some c) now) s = .ok () s') (received : Time) :
    ∃ e, s'.controlPlane.entry? r = some e ∧ e.state = .completed ∧ e.completion = some c ∧
      let ctx := GatewayRequestContext.accepted e received
      (ChatCarries c (placeholderChatResponse ctx) ∧ TextCarries c (placeholderTextCompletionResponse ctx) ↔
        SaysPlaceholder c) ∧
      (ChatCarries c (placeholderChatResponse ctx) ↔ c.generatedText ≠ "" ∧ c.finishReason ≠ some "") := by
  obtain ⟨e, he, hstate, hcompletion⟩ := handed_over hrun
  refine ⟨e, he, hstate, hcompletion, ?_⟩
  intro ctx
  have hchat := chatCarries_iff c ctx hcompletion
  have htext := textCarries_iff c ctx hstate
  refine ⟨?_, hchat⟩
  rw [hchat, htext]
  constructor
  · exact And.right
  · intro h
    refine ⟨⟨h.1 ▸ placeholderText_ne _, ?_⟩, h⟩
    intro hempty
    have hreason := h.2.1
    rw [hempty] at hreason
    exact absurd hreason (by decide)

/-! ## Runs -/

/-- a request that the backend has been given -/
def submittedStack : PlatformStack :=
  { PlatformStack.init .fifo with
    controlPlane := Core.run (ControlPlaneApplication.step ControlPlane.sampleSettings) .init
      (ControlPlane.completedOps.take 4) }

def sampleRecord (text : String) (finishReason : Option String) : InferenceCompletionRecord :=
  ⟨1, "vllm", text, 3, 1, 4, finishReason, 5, none⟩

def completedStack (c : InferenceCompletionRecord) : PlatformStack :=
  (completeRequest 1 (some c) 6).final submittedStack

/-- a record with a text and a finish reason: the chat body carries it, the text body does not -/
theorem responses_faithful_chat : ∃ e,
    ControlPlaneApplication.entry? (completedStack (sampleRecord "hello" (some "length"))).controlPlane 1 = some e ∧
    e.state = .completed ∧ e.completion = some (sampleRecord "hello" (some "length")) ∧
      let ctx := GatewayRequestContext.accepted e 0
      (ChatCarries (sampleRecord "hello" (some "length")) (placeholderChatResponse ctx) ∧
          TextCarries (sampleRecord "hello" (some "length")) (placeholderTextCompletionResponse ctx) ↔
        SaysPlaceholder (sampleRecord "hello" (some "length"))) ∧
      (ChatCarries (sampleRecord "hello" (some "length")) (placeholderChatResponse ctx) ↔
        "hello" ≠ "" ∧ some "length" ≠ some "") := by
  have hrun : EStateM.run (completeRequest 1 (some (sampleRecord "hello" (some "length"))) 6) submittedStack =
      .ok () (completedStack (sampleRecord "hello" (some "length"))) := by rfl
  exact responses_faithful_iff hrun 0

/-- an empty text comes back as the placeholder with no usage, and a text is not in the body of `/v1/completions` -/
theorem placeholder_for_record :
    let bodies (c : InferenceCompletionRecord) :=
      ((ControlPlaneApplication.entry? (completedStack c).controlPlane 1).map fun e =>
      let ctx := GatewayRequestContext.accepted e 0
      (placeholderChatResponse ctx, placeholderTextCompletionResponse ctx))
    (bodies (sampleRecord "" (some "length"))).map Prod.fst =
        some ⟨1, "chat.completion", 0, "m", [⟨0, ⟨"assistant", placeholderText .completed⟩, "stop"⟩], ⟨0, 0, 0⟩⟩ ∧
      (bodies (sampleRecord "hello" none)).map Prod.snd =
        some ⟨1, "text_completion", 0, "m", [⟨0, placeholderText .completed, "stop"⟩], ⟨0, 0, 0⟩⟩ ∧
      (bodies (sampleRecord "" (some "length"))).all
        (fun p => ¬ChatCarries (sampleRecord "" (some "length")) p.1) = true ∧
      (bodies (sampleRecord "hello" none)).all (fun p => ¬TextCarries (sampleRecord "hello" none) p.2) = true := by
  decide

end InferencePlatform.Gateway
