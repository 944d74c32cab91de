/-
What a client reads of a stream.

A stream that ends without an exception or a cancellation has sent one frame for each chunk and then the closing frame.
Splitting the bytes at blank lines and decoding the data before the closing frame gives back the payloads that were sent
(`received_frames`), whatever the chunks' texts hold. The payloads and the session add up the same texts.

- `content_fidelity`: the text the client puts together is the text of the chunks and the text of the session, the role
  is in one frame at most, and the session has counted the chunks with a text.
-/
import InferencePlatform.Core.EventStream
import InferencePlatform.Streaming.Terminal

namespace InferencePlatform.Streaming

open InferencePlatform.Core (Json)
open InferencePlatform.Core.EventStream (beforeMark)
open ControlPlane (ControlPlaneApplication Op Linked Serves)

variable {cfg : ControlPlane.Settings} {submit : SubmitRequest} {env : Environment} {s s' : StreamState}

/-! ## The client -/

/-- the value of a key of an object -/
def field (key : String) : Json → Option Json
  | .obj fields => fields.lookup key
  | _ => none

/-- `payload["choices"][0]["delta"]` -/
def deltaOf (payload : Json) : Option Json :=
  match field "choices" payload with
  | some (.arr (choice :: _)) => field "delta" choice
  | _ => none

/-- `delta.get("content", "")` -/
def contentOf (payload : Json) : String :=
  match (deltaOf payload).bind (field "content") with
  | some (.str text) => text
  | _ => ""

def hasRole (payload : Json) : Bool := ((deltaOf payload).bind (field "role")).isSome

/-- the bytes are split at blank lines, and the data of each frame before `[DONE]` is decoded -/
def received (frames : List String) : List (Option Json) := (beforeMark "[DONE]" (String.join frames)).map Json.loads

/-- the payloads of the chunks, in the order in which they are sent -/
def payloads (model : String) (created : ℕ) : Bool → List StreamChunk → List Json
  | _, [] => []
  | roleSent, chunk :: rest =>
    chunkPayload chunk model (some created) (includesRole roleSent chunk) ::
      payloads model created (roleSent || includesRole roleSent chunk) rest

/-! ## Frames and payloads -/

theorem formatSseData_eq (payload : Json) : formatSseData payload = Core.EventStream.frame payload.dumps := rfl

theorem formatSseDone_eq : formatSseDone = Core.EventStream.frame "[DONE]" := by decide

theorem newline_not_mem_dumps (payload : Json) : '\n' ∉ payload.dumps.toList := by
  intro hmem
  have hprintable := Json.printable_of_mem_dumps payload hmem
  revert hprintable
  decide

/-- the client reads the payloads of a closed stream, whatever texts they hold -/
theorem received_frames {objects : List Json} (hobjects : ∀ payload ∈ objects, ∃ fields, payload = .obj fields) :
    received (objects.map formatSseData ++ [formatSseDone]) = objects.map some := by
  set datas := objects.map Json.dumps with hdatas
  have hframes : objects.map formatSseData ++ [formatSseDone] =
      (datas ++ "[DONE]" :: []).map Core.EventStream.frame := by
    rw [List.map_append, hdatas, List.map_map, formatSseDone_eq]
    rfl
  have hmark : "[DONE]" ∉ datas := by
    intro hmem
    obtain ⟨payload, hpayload, hdata⟩ := List.mem_map.1 hmem
    obtain ⟨fields, rfl⟩ := hobjects payload hpayload
    exact formatSseData_obj_ne fields (by rw [formatSseData_eq, hdata, formatSseDone_eq])
  have hlines : ∀ data ∈ datas ++ "[DONE]" :: [], '\n' ∉ data.toList := by
    intro data hdata
    rcases List.mem_append.1 hdata with hdata | hdata
    · obtain ⟨payload, -, rfl⟩ := List.mem_map.1 hdata
      exact newline_not_mem_dumps payload
    · rw [List.mem_singleton.1 hdata]
      decide
  rw [received, hframes, Core.EventStream.beforeMark_frames hmark hlines, hdatas, List.map_map]
  exact List.map_congr_left fun payload _ => Json.loads_dumps payload

theorem payloads_objects (model : String) (created : ℕ) (roleSent : Bool) (chunks : List StreamChunk) :
    ∀ payload ∈ payloads model created roleSent chunks, ∃ fields, payload = .obj fields := by
  induction chunks generalizing roleSent with
  | nil => exact fun payload hmem => by cases hmem
  | cons chunk chunks ih =>
    intro payload hmem
    rcases List.mem_cons.1 hmem with rfl | hmem
    · exact ⟨_, rfl⟩
    · exact ih _ payload hmem

theorem deltaOf_chunkPayload (chunk : StreamChunk) (model : String) (created : Option ℕ) (includeRole : Bool) :
    deltaOf (chunkPayload chunk model created includeRole) = some (.obj (chunkDelta chunk includeRole)) := by
  simp [deltaOf, chunkPayload, field, List.lookup]

theorem contentOf_chunkPayload (chunk : StreamChunk) (model : String) (created : Option ℕ) (includeRole : Bool) :
    contentOf (chunkPayload chunk model created includeRole) = chunk.deltaText := by
  rw [contentOf, deltaOf_chunkPayload]
  by_cases htext : chunk.deltaText = ""
  · cases hrole : includeRole && chunk.isFirst <;> simp [chunkDelta, field, List.lookup, htext, hrole]
  · cases hrole : includeRole && chunk.isFirst <;> simp [chunkDelta, field, List.lookup, htext, hrole]

theorem hasRole_chunkPayload (chunk : StreamChunk) (model : String) (created : Option ℕ) (includeRole : Bool) :
    hasRole (chunkPayload chunk model created includeRole) = (includeRole && chunk.isFirst) := by
  rw [hasRole, deltaOf_chunkPayload]
  by_cases htext : chunk.deltaText = ""
  · cases hrole : includeRole && chunk.isFirst <;> simp [chunkDelta, field, List.lookup, htext, hrole]
  · cases hrole : includeRole && chunk.isFirst <;> simp [chunkDelta, field, List.lookup, htext, hrole]

theorem contentOf_payloads (model : String) (created : ℕ) (roleSent : Bool) (chunks : List StreamChunk) :
    (payloads model created roleSent chunks).map contentOf = chunks.map StreamChunk.deltaText := by
  induction chunks generalizing roleSent with
  | nil => rfl
  | cons chunk chunks ih => rw [payloads, List.map_cons, contentOf_chunkPayload, ih, List.map_cons]

/-- the role is sent once, if it has not been sent before -/
theorem hasRole_payloads (model : String) (created : ℕ) (roleSent : Bool) (chunks : List StreamChunk) :
    (payloads model created roleSent chunks).countP hasRole ≤ if roleSent then 0 else 1 := by
  induction chunks generalizing roleSent with
  | nil => exact Nat.zero_le _
  | cons chunk chunks ih =>
    have hrest := ih (roleSent || includesRole roleSent chunk)
    rw [payloads, List.countP_cons, hasRole_chunkPayload]
    cases roleSent with
    | true => simpa [includesRole] using hrest
    | false =>
      cases hfirst : chunk.isFirst with
      | true => simpa [includesRole, hfirst] using hrest
      | false => simpa [includesRole, hfirst] using hrest

/-! ## The run -/

/-- the chunks have been sent in their order and the stream has been closed; the session has their texts -/
structure Delivered (model : String) (created : ℕ) (roleSent : Bool) (chunks : List StreamChunk) (s s' : StreamState) :
    Prop where
  frames : s'.frames = s.frames ++ (payloads model created roleSent chunks).map formatSseData ++ [formatSseDone]
  text : s'.session.generatedText = s.session.generatedText ++ String.join (chunks.map StreamChunk.deltaText)
  tokens : s'.session.tokenCount = s.session.tokenCount + chunks.countP fun chunk => chunk.deltaText ≠ ""

/-- neither an exception nor a cancellation has been counted -/
def Undisturbed (s s' : StreamState) : Prop :=
  s'.metrics.failed = s.metrics.failed ∧ s'.metrics.cancelled = s.metrics.cancelled

variable (cfg submit env) in
/-- an exception is counted -/
theorem disturbed_by_failure (message : String) (s₀ : StreamState) (hlinked : ∃ R, Linked R s.controlPlane)
    (hfailed : s₀.metrics.failed ≤ s.metrics.failed) :
    ¬Undisturbed s₀ ((failStream cfg submit env message).final s) := by
  obtain ⟨s', frame, hfinal, -, -, hmetrics, -⟩ :=
    failStream_final cfg submit env hlinked message
  rw [hfinal]
  intro h
  have hcount := h.1
  rw [hmetrics] at hcount
  dsimp only at hcount
  omega

section Continue

variable {created : ℕ} {roleSent : Bool} {previous : Option Time}

theorem delivered_nil (hserves : Serves submit.inferenceRequest.requestId s.controlPlane)
    (h : Undisturbed s (endOf cfg submit env (continueStream cfg submit env created roleSent previous []) s)) :
    Delivered submit.inferenceRequest.model created roleSent []
      s (endOf cfg submit env (continueStream cfg submit env created roleSent previous []) s) := by
  obtain ⟨hok, herror⟩ := finishStream_run cfg env hserves
  rw [endOf_congr (continueStream_nil created roleSent previous s)] at h ⊢
  by_cases hcompletes : Completes cfg submit env s.controlPlane
  · obtain ⟨cp', hrun, hserves'⟩ := hok hcompletes
    set s₁ : StreamState :=
      { s with
        controlPlane := afterOthers cfg env.afterDone cp'
        frames := s.frames ++ [formatSseDone] } with hs₁
    have hpersist := persistStreamMetrics_run env (s := s₁) (hserves'.run cfg env.afterDone)
    have hall : EStateM.run (do
        finishStream cfg submit env
        send formatSseDone
        others cfg env.afterDone
        persistStreamMetrics submit env) s = EStateM.run (persistStreamMetrics submit env) s₁ := by
      rw [StreamM.bind_run_ok hrun, StreamM.bind_run_ok (send_run _ _), StreamM.bind_run_ok (others_run _ _)]
    cases hcapture : env.capture with
    | none =>
      rw [hcapture] at hpersist
      rw [endOf_ok (hall.trans hpersist)]
      refine ⟨?_, ?_, rfl⟩
      · simp [persisted, hs₁, payloads]
      · simp [persisted, hs₁]
    | some message =>
      rw [hcapture] at hpersist
      rw [endOf_error (hall.trans hpersist)] at h
      exact absurd h (disturbed_by_failure _ _ _ _ _ (hserves'.run cfg env.afterDone).linked (Nat.le_refl _))
  · obtain ⟨message, hrun⟩ := herror hcompletes
    rw [endOf_error (StreamM.bind_run_error hrun _)] at h
    exact absurd h (disturbed_by_failure _ _ _ _ _ (hserves.run cfg env.ending.meanwhile).linked (Nat.le_refl _))

/-- a stream that ends undisturbed has sent and added up its chunks, by induction on them -/
theorem delivered (deliveries : List Delivery) (hserves : Serves submit.inferenceRequest.requestId s.controlPlane)
    (hbackend : s.session.backendId.isSome)
    (h : Undisturbed s (endOf cfg submit env (continueStream cfg submit env created roleSent previous deliveries) s)) :
    Delivered submit.inferenceRequest.model created roleSent (deliveries.map Delivery.chunk)
      s (endOf cfg submit env (continueStream cfg submit env created roleSent previous deliveries) s) := by
  induction deliveries generalizing s roleSent previous with
  | nil => exact delivered_nil hserves h
  | cons d rest ih =>
    cases hincident : d.incident with
    | passes =>
      obtain ⟨previous', s', hrun, haccounts⟩ :=
        deliver_passes cfg submit env created roleSent previous d rest hincident s
      have hcontinue : EStateM.run (continueStream cfg submit env created roleSent previous (d :: rest)) s =
          EStateM.run (continueStream cfg submit env created
            (roleSent || includesRole roleSent d.chunk) previous' rest) s' := by
        simp only [continueStream, EStateM.run_bind, hrun]
      have hserves' : Serves submit.inferenceRequest.requestId s'.controlPlane := by
        rw [haccounts.controlPlane]
        exact Delivery.reached_serves hserves d
      have hbackend' : s'.session.backendId.isSome := by
        rw [haccounts.backendId]
        exact hbackend
      rw [endOf_congr hcontinue] at h ⊢
      have hrest := ih hserves' hbackend' ⟨h.1.trans haccounts.failed.symm, h.2.trans haccounts.cancelled.symm⟩
      refine ⟨?_, ?_, ?_⟩
      · rw [hrest.frames, haccounts.frames, List.map_cons, payloads, List.map_cons]
        simp [chunkToOpenaiSse]
      · rw [hrest.text, haccounts.text, List.map_cons, List.map_cons, String.join_cons, String.append_assoc]
      · rw [hrest.tokens, haccounts.tokens, List.map_cons, List.countP_cons]
        simp only [decide_eq_true_eq]
        omega
    | cancels =>
      obtain ⟨ops, hrun⟩ :=
        deliver_cancels cfg submit env created roleSent previous d rest hincident s
      set s₁ : StreamState := { s with controlPlane := afterOthers cfg ops s.controlPlane } with hs₁
      obtain ⟨hok, herror⟩ := handleCancel_run cfg submit env (s := s₁)
        (hserves.run cfg ops) hbackend d.now
      by_cases hreturns : CancelReturns env
      · obtain ⟨u, s', hcancel, hcancels⟩ := hok hreturns
        have hcontinue : EStateM.run (continueStream cfg submit env created roleSent previous (d :: rest)) s =
            .ok () s' := by
          simp only [continueStream, EStateM.run_bind, hrun, hcancel]
          rfl
        have hcount := h.2
        rw [endOf_ok hcontinue, hcancels.metrics] at hcount
        exact absurd hcount (Nat.succ_ne_self _)
      · obtain ⟨message, s', hcancel, hcancels, hlinked⟩ := herror hreturns
        have hcontinue : EStateM.run (continueStream cfg submit env created roleSent previous (d :: rest)) s =
            .error message s' := by
          simp only [continueStream, EStateM.run_bind, hrun, hcancel]
        rw [endOf_error hcontinue] at h
        exact absurd h (disturbed_by_failure _ _ _ _ _ hlinked (by rw [hcancels.metrics]))
    | raises message =>
      have hrun := deliver_raises cfg submit env created roleSent previous d rest hincident s
      have hcontinue : EStateM.run (continueStream cfg submit env created roleSent previous (d :: rest)) s =
          .error message { s with controlPlane := d.reached cfg s.controlPlane } := StreamM.bind_run_error hrun _
      rw [endOf_error hcontinue] at h
      exact absurd h (disturbed_by_failure _ _ _ _ _ (Delivery.reached_serves hserves d).linked (Nat.le_refl _))

end Continue

/-- **Content fidelity.** A stream from a new session that ends without an exception or a cancellation is read by its
client as the payloads of the chunks: their contents, the chunks' texts and the session's text are the same text. -/
theorem content_fidelity (cfg : ControlPlane.Settings) (ops : List Op) (submit : SubmitRequest) (env : Environment)
    (streamId : UUID) (receivedAt : Time) (metrics : StreamMetrics)
    (h : Undisturbed (.start (Core.run (ControlPlaneApplication.step cfg) .init ops) streamId receivedAt metrics)
      ((streamSse cfg submit env).final
        (.start (Core.run (ControlPlaneApplication.step cfg) .init ops) streamId receivedAt metrics))) :
    let s' := (streamSse cfg submit env).final
      (.start (Core.run (ControlPlaneApplication.step cfg) .init ops) streamId receivedAt metrics)
    let chunks := env.deliveries.map Delivery.chunk
    ∃ decoded : List Json, received s'.frames = decoded.map some ∧ decoded.length = chunks.length ∧
      String.join (decoded.map contentOf) = String.join (chunks.map StreamChunk.deltaText) ∧
      s'.session.generatedText = String.join (chunks.map StreamChunk.deltaText) ∧
      decoded.countP hasRole ≤ 1 ∧
      s'.session.tokenCount = chunks.countP fun chunk => chunk.deltaText ≠ "" := by
  intro s' chunks
  set s := StreamState.start (Core.run (ControlPlaneApplication.step cfg) .init ops) streamId receivedAt metrics with hs
  have hlinked : ∃ R, Linked R (begun s).controlPlane := ControlPlane.run_linked cfg ops
  have hopen := openStream_run cfg submit env hlinked
  have hfinal : s' = endOf cfg submit env (runStream cfg submit env (seconds receivedAt)) (begun s) := streamSse_final s
  cases hrun : EStateM.run (openStream cfg submit env) (begun s) with
  | error message s₁ =>
    rw [hrun] at hopen
    have hcontinue : EStateM.run (runStream cfg submit env (seconds receivedAt)) (begun s) = .error message s₁ :=
      StreamM.bind_run_error hrun _
    rw [endOf_error hcontinue] at hfinal
    have hdisturbed := disturbed_by_failure cfg submit env message s
      hopen.linked (by rw [hopen.metrics]; exact Nat.le_refl _)
    rw [← hfinal] at hdisturbed
    exact absurd h hdisturbed
  | ok u s₁ =>
    rw [hrun] at hopen
    have hcontinue : EStateM.run (runStream cfg submit env (seconds receivedAt)) (begun s) =
        EStateM.run (continueStream cfg submit env (seconds receivedAt) false none env.deliveries) s₁ :=
      StreamM.bind_run_ok hrun _
    rw [endOf_congr hcontinue] at hfinal
    have hundisturbed : Undisturbed s₁
        (endOf cfg submit env (continueStream cfg submit env (seconds receivedAt) false none env.deliveries) s₁) := by
      rw [← hfinal, Undisturbed, hopen.metrics]
      exact h
    have hdelivered := delivered env.deliveries hopen.serves hopen.backendId hundisturbed
    rw [← hfinal] at hdelivered
    refine ⟨payloads submit.inferenceRequest.model (seconds receivedAt) false chunks, ?_, ?_, ?_, ?_, ?_, ?_⟩
    · rw [hdelivered.frames, hopen.frames]
      exact received_frames (payloads_objects _ _ _ _)
    · have hlength := congrArg List.length
          (contentOf_payloads submit.inferenceRequest.model (seconds receivedAt) false chunks)
      rwa [List.length_map, List.length_map] at hlength
    · rw [contentOf_payloads]
    · rw [hdelivered.text, hopen.text]
      exact String.empty_append
    · exact hasRole_payloads _ _ _ _
    · rw [hdelivered.tokens, hopen.tokens]
      exact Nat.zero_add _

/-- texts that look like frames -/
def trickyEnvironment : Environment :=
  { sampleEnvironment none with
    deliveries :=
      [{ chunk := { requestId := 1, index := 0, deltaText := "a\n\n", finishReason := none, timestamp := 2,
                    isFirst := true }
         now := 2 },
       { chunk := { requestId := 1, index := 1, deltaText := "data: [DONE]\n\n", finishReason := none, timestamp := 3 }
         now := 3 },
       { chunk := { requestId := 1, index := 2, deltaText := "", finishReason := "stop", timestamp := 4 }
         now := 4 }] }

theorem content_fidelity_tricky :
    let s' := (streamSse ControlPlane.sampleSettings (ControlPlane.sampleSubmit 1) trickyEnvironment).final
      (.start (Core.run (ControlPlaneApplication.step ControlPlane.sampleSettings) .init []) 9 0 {})
    let chunks := trickyEnvironment.deliveries.map Delivery.chunk
    ∃ decoded : List Json, received s'.frames = decoded.map some ∧ decoded.length = chunks.length ∧
      String.join (decoded.map contentOf) = String.join (chunks.map StreamChunk.deltaText) ∧
      s'.session.generatedText = String.join (chunks.map StreamChunk.deltaText) ∧
      decoded.countP hasRole ≤ 1 ∧
      s'.session.tokenCount = chunks.countP fun chunk => chunk.deltaText ≠ "" :=
  content_fidelity ControlPlane.sampleSettings [] (ControlPlane.sampleSubmit 1) trickyEnvironment 9 0 {}
    ⟨by decide +kernel, by decide +kernel⟩

end InferencePlatform.Streaming
