/-
What the parts of a streaming run do.

A part is described by its run from a state whose control plane has linked entries (`Linked`), or has the request
registered (`Serves`): what it returns or raises, and which fields of the state it changes. `Step` collects the fields
the bookkeeping of a chunk changes.
-/
import InferencePlatform.ControlPlane.Links
import InferencePlatform.Streaming.Engine

namespace InferencePlatform.Streaming

open ControlPlane (ControlPlaneApplication ControlPlaneM Op Linked Serves)
open Batching (BatchPlacementDecision)
open InferencePlatform.Core (Keeps)

variable {cfg : ControlPlane.Settings} {submit : SubmitRequest} {env : Environment} {s s' : StreamState} {α β : Type}

/-! ## Elementary steps -/

@[simp] theorem run_throw (message : String) (s : StreamState) :
    EStateM.run (throw message : StreamM α) s = .error message s := rfl

@[simp] theorem modifySession_run (f : StreamSession → StreamSession) (s : StreamState) :
    EStateM.run (modifySession f) s = .ok () { s with session := f s.session } := rfl

@[simp] theorem modifyMetrics_run (f : StreamMetrics → StreamMetrics) (s : StreamState) :
    EStateM.run (modifyMetrics f) s = .ok () { s with metrics := f s.metrics } := rfl

@[simp] theorem emit_run (event : StreamEvent) (s : StreamState) :
    EStateM.run (emit event) s = .ok () { s with events := s.events ++ [event] } := rfl

@[simp] theorem send_run (frame : String) (s : StreamState) :
    EStateM.run (send frame) s = .ok () { s with frames := s.frames ++ [frame] } := rfl

@[simp] theorem orRaise_none_run (s : StreamState) : EStateM.run (orRaise none) s = .ok () s := rfl

@[simp] theorem orRaise_some_run (message : String) (s : StreamState) :
    EStateM.run (orRaise (some message)) s = .error message s := rfl

/-- the control plane after operations of other tasks -/
def afterOthers (cfg : ControlPlane.Settings) (ops : List Op) (cp : ControlPlaneApplication) :
    ControlPlaneApplication :=
  Core.run (ControlPlaneApplication.step cfg) cp ops

@[simp] theorem others_run (ops : List Op) (s : StreamState) :
    EStateM.run (others cfg ops) s = .ok () { s with controlPlane := afterOthers cfg ops s.controlPlane } := rfl

variable (cfg) in
theorem awaiting_ok {a : Await α} {x : α} (h : a.answer = .ok x) (s : StreamState) :
    EStateM.run (awaiting cfg a) s = .ok x { s with controlPlane := afterOthers cfg a.meanwhile s.controlPlane } := by
  simp only [awaiting, EStateM.run_bind, others_run, h, EStateM.run_pure]

theorem awaiting_error {a : Await α} {message : String} (h : a.answer = .error message) (s : StreamState) :
    EStateM.run (awaiting cfg a) s =
      .error message { s with controlPlane := afterOthers cfg a.meanwhile s.controlPlane } := by
  simp only [awaiting, EStateM.run_bind, others_run, h, run_throw]

theorem onControlPlane_ok {x : ControlPlaneM α} {a : α} {cp' : ControlPlaneApplication}
    (h : EStateM.run x s.controlPlane = .ok a cp') :
    EStateM.run (onControlPlane x) s = .ok a { s with controlPlane := cp' } := by
  rw [EStateM.run, onControlPlane, h]

theorem onControlPlane_error {x : ControlPlaneM α} {err : ControlPlane.ControlPlaneError}
    {cp' : ControlPlaneApplication} (h : EStateM.run x s.controlPlane = .error err cp') :
    EStateM.run (onControlPlane x) s = .error err.message { s with controlPlane := cp' } := by
  rw [EStateM.run, onControlPlane, h]

namespace StreamM

variable {x : StreamM α} {f : α → StreamM β} {message : String} {a : α}

theorem final_ok (h : EStateM.run x s = .ok a s') : x.final s = s' := by
  simp only [final, h]

theorem final_error (h : EStateM.run x s = .error message s') : x.final s = s' := by
  simp only [final, h]

theorem bind_run_ok (h : EStateM.run x s = .ok a s') (f : α → StreamM β) :
    EStateM.run (x >>= f) s = EStateM.run (f a) s' := by
  rw [EStateM.run_bind, h]

theorem bind_run_error (h : EStateM.run x s = .error message s') (f : α → StreamM β) :
    EStateM.run (x >>= f) s = .error message s' := by
  rw [EStateM.run_bind, h]

/-- what a program leaves under a handler depends on its run only -/
theorem final_tryCatch (x : StreamM Unit) (handler : String → StreamM Unit) (s : StreamState) :
    final (tryCatch x handler) s =
      match EStateM.run x s with
      | .ok _ s' => s'
      | .error message s' => (handler message).final s' := by
  simp only [final, EStateM.run, tryCatch, tryCatchThe, MonadExceptOf.tryCatch, EStateM.tryCatch]
  cases x s <;> rfl

end StreamM

/-! ## The control plane -/

section ControlPlane

variable {cp : ControlPlaneApplication} {r : UUID}

theorem linked_others (cfg : ControlPlane.Settings) (ops : List Op) (h : ∃ R, Linked R cp) :
    ∃ R, Linked R (afterOthers cfg ops cp) :=
  Core.run_inv (I := fun cp => ∃ R, Linked R cp) (fun _ o => ControlPlane.step_linked cfg o) ops h

theorem entryState_run (h : Serves r cp) :
    ∃ state, EStateM.run (entryState r) cp = .ok state cp ∧ cp.state? r = some state := by
  obtain ⟨ref, e, hr, he, hstate⟩ := h.entry
  refine ⟨e.state, ?_, hstate⟩
  simp only [entryState, EStateM.run_bind, ControlPlane.getRef_run hr, ControlPlane.derefEntry_run he, EStateM.run_pure]

theorem entryState_unknown (hr : cp.registry.get? r = none) :
    EStateM.run (entryState r) cp = .error (.requestNotFound r) cp := by
  simp only [entryState, EStateM.run_bind, ControlPlane.getRef_unknown hr]

theorem state?_store {ref : ControlPlane.Ref} {e e' : ControlPlane.RegisteredRequest}
    (hr : cp.registry.get? r = some ref) (he : cp.entries[ref]? = some e) (events : List ControlPlane.LifecycleEvent) :
    ((cp.store ref e').logged events).state? r = some e'.state := by
  have hr' : ((cp.store ref e').logged events).registry.get? r = some ref := hr
  have he' : ((cp.store ref e').logged events).entries[ref]? = some e' := ControlPlane.store_get he e'
  rw [ControlPlaneApplication.state?, ControlPlaneApplication.entry?, hr']
  exact congrArg (Option.map ControlPlane.RegisteredRequest.state) he'

theorem markFailed_serves (h : Serves r cp) (reason : FailureReason) (message : String) (now : Time)
    (batchId : Option UUID) (backendId : Option String) :
    ∃ ref cp', EStateM.run (ControlPlane.markFailed r reason message now batchId backendId) cp = .ok ref cp' ∧
      Serves r cp' ∧ cp'.state? r = some .failed := by
  obtain ⟨ref, e, hr, he, -⟩ := h.entry
  obtain ⟨e', events, hrun, hb⟩ := ControlPlane.markFailed_run hr he reason message now batchId backendId
  refine ⟨ref, _, hrun, ?_, hb.state ▸ state?_store hr he events⟩
  have hfinal := h.final fun R => ControlPlane.markFailed_linked (R := R) r reason message now batchId backendId
  rwa [ControlPlane.final_ok hrun] at hfinal

theorem transition_serves (h : Serves r cp) (toState : RequestState) (now : Time) (batchId : Option UUID)
    (backendId : Option String) :
    (∃ ref cp', EStateM.run (ControlPlane.transition r toState now batchId backendId) cp = .ok ref cp' ∧
      Serves r cp' ∧ cp'.state? r = some toState) ∨
    ∃ err cp', EStateM.run (ControlPlane.transition r toState now batchId backendId) cp = .error err cp' ∧
      Serves r cp' ∧ cp'.state? r = cp.state? r := by
  obtain ⟨ref, e, hr, he, hstate⟩ := h.entry
  obtain ⟨hok, herr⟩ := ControlPlane.transition_run hr he toState now batchId backendId
  have hfinal := h.final fun R => ControlPlane.transition_linked (R := R) r toState now batchId backendId
  cases hallowed : ControlPlane.isAllowedTransition e.state toState with
  | true =>
    obtain ⟨e', events, hrun, hb⟩ := hok hallowed
    rw [ControlPlane.final_ok hrun] at hfinal
    exact Or.inl ⟨ref, _, hrun, hfinal, hb.state ▸ state?_store hr he events⟩
  | false =>
    obtain ⟨e', hrun, hb⟩ := herr hallowed
    rw [ControlPlane.final_error hrun] at hfinal
    exact Or.inr ⟨_, _, hrun, hfinal, (state?_store hr he cp.lifecycleEvents).trans (hb.state ▸ hstate.symm)⟩

theorem completeRequest_serves (h : Serves r cp) (now : Time) :
    (cp.state? r = some .submitted ∨ cp.state? r = some .streaming → ∃ ref cp',
      EStateM.run (ControlPlane.completeRequest r none now) cp = .ok ref cp' ∧ Serves r cp') ∧
    (¬(cp.state? r = some .submitted ∨ cp.state? r = some .streaming) → ∃ err,
      EStateM.run (ControlPlane.completeRequest r none now) cp = .error err cp) := by
  obtain ⟨ref, e, hr, he, hstate⟩ := h.entry
  obtain ⟨hok, herr⟩ := ControlPlane.completeRequest_run hr he none now
  simp only [hstate, Option.some.injEq]
  constructor
  · intro hrunning
    obtain ⟨e', events, hrun, -⟩ := hok hrunning
    have hfinal := h.final fun R => ControlPlane.completeRequest_linked (R := R) r none now
    rw [ControlPlane.final_ok hrun] at hfinal
    exact ⟨ref, _, hrun, hfinal⟩
  · intro hrunning
    exact ⟨_, herr hrunning⟩

theorem cancel_serves (h : Serves r cp) (now : Time) :
    ∃ ref cp', EStateM.run (ControlPlane.cancel r now) cp = .ok ref cp' ∧ Serves r cp' := by
  obtain ⟨ref, e, hr, he, -⟩ := h.entry
  obtain ⟨hok, hno⟩ := ControlPlane.cancel_run hr he now
  have hfinal := h.final fun R => ControlPlane.cancel_linked (R := R) r now
  by_cases hrunning : e.state = .submitted ∨ e.state = .streaming
  · obtain ⟨e', events, hrun, -⟩ := hok hrunning
    rw [ControlPlane.final_ok hrun] at hfinal
    exact ⟨ref, _, hrun, hfinal⟩
  · exact ⟨ref, cp, hno hrunning, h⟩

end ControlPlane

/-! ## The bookkeeping of a chunk -/

/-- nothing but the session, the events and the metrics changes; the session keeps its backend, its text grows by `text`
and its count by `tokens`, and `completions` streams are counted as completed -/
structure Accounts (text : String) (tokens completions : ℕ) (s s' : StreamState) : Prop where
  controlPlane : s'.controlPlane = s.controlPlane
  frames : s'.frames = s.frames
  marked : s'.marked = s.marked
  backendId : s'.session.backendId = s.session.backendId
  text : s'.session.generatedText = s.session.generatedText ++ text
  tokens : s'.session.tokenCount = s.session.tokenCount + tokens
  created : s'.metrics.created = s.metrics.created
  completed : s'.metrics.completed = s.metrics.completed + completions
  failed : s'.metrics.failed = s.metrics.failed
  cancelled : s'.metrics.cancelled = s.metrics.cancelled

theorem Accounts.trans {t t' : String} {n n' k k' : ℕ} {s'' : StreamState} (h : Accounts t n k s s')
    (h' : Accounts t' n' k' s' s'') : Accounts (t ++ t') (n + n') (k + k') s s'' where
  controlPlane := h'.controlPlane.trans h.controlPlane
  frames := h'.frames.trans h.frames
  marked := h'.marked.trans h.marked
  backendId := h'.backendId.trans h.backendId
  text := by rw [h'.text, h.text, String.append_assoc]
  tokens := by rw [h'.tokens, h.tokens, Nat.add_assoc]
  created := h'.created.trans h.created
  completed := by rw [h'.completed, h.completed, Nat.add_assoc]
  failed := h'.failed.trans h.failed
  cancelled := h'.cancelled.trans h.cancelled

theorem recordChunk_run (chunk : StreamChunk) (previous : Option Time) (s : StreamState) :
    ∃ u s', EStateM.run (recordChunk chunk previous) s = .ok u s' ∧ Accounts "" 0 0 s s' := by
  apply Core.returns_of_run
  by_cases hfirst : chunk.isFirst || (chunk.deltaText ≠ "" && s.session.tokenCount = 0)
  · simp only [recordChunk, EStateM.run_bind, EStateM.run_get, if_pos hfirst, modifySession_run, emit_run]
    constructor <;> simp
  · by_cases htext : chunk.deltaText ≠ ""
    · simp only [recordChunk, EStateM.run_bind, EStateM.run_get, if_neg hfirst, if_pos htext, modifySession_run]
      constructor <;> simp
    · simp only [recordChunk, EStateM.run_bind, EStateM.run_get, if_neg hfirst, if_neg htext, EStateM.run_pure]
      constructor <;> simp

theorem appendText_run (chunk : StreamChunk) (s : StreamState) :
    ∃ u s', EStateM.run (appendText chunk) s = .ok u s' ∧
      Accounts chunk.deltaText (if chunk.deltaText ≠ "" then 1 else 0) 0 s s' := by
  apply Core.returns_of_run
  by_cases htext : chunk.deltaText ≠ ""
  · simp only [appendText, if_pos htext, modifySession_run]
    constructor <;> simp
  · simp only [appendText, if_neg htext, EStateM.run_pure]
    constructor <;> simp [not_not.1 htext]

theorem recordFinish_run (chunk : StreamChunk) (s : StreamState) :
    ∃ u s', EStateM.run (recordFinish chunk) s = .ok u s' ∧ Accounts "" 0 (if chunk.finishes then 1 else 0) s s' := by
  apply Core.returns_of_run
  by_cases hfinish : chunk.finishes = true
  · simp only [recordFinish, EStateM.run_bind, if_pos hfinish, modifySession_run, emit_run, modifyMetrics_run]
    constructor <;> simp
  · simp only [recordFinish, if_neg hfinish, EStateM.run_pure]
    constructor <;> simp

theorem account_run (chunk : StreamChunk) (previous : Option Time) (s : StreamState) :
    ∃ previous' s', EStateM.run (account chunk previous) s = .ok previous' s' ∧
      Accounts chunk.deltaText (if chunk.deltaText ≠ "" then 1 else 0) (if chunk.finishes then 1 else 0) s s' := by
  obtain ⟨_, s₁, hrecord, h₁⟩ := recordChunk_run chunk previous s
  obtain ⟨_, s₂, happend, h₂⟩ := appendText_run chunk s₁
  obtain ⟨_, s₃, hfinish, h₃⟩ := recordFinish_run chunk s₂
  apply Core.returns_of_run
  simp only [account, EStateM.run_bind, hrecord, happend, hfinish, EStateM.run_pure]
  have h := (h₁.trans h₂).trans h₃
  simpa using h

/-! ## Failing a request -/

section Handlers

variable {r : UUID}

theorem markFailed_run (h : Serves r s.controlPlane) (reason : FailureReason) (message : String) (now : Time)
    (batchId : Option UUID) :
    ∃ cp', EStateM.run (markFailed r reason message now batchId) s =
        .ok () { s with controlPlane := cp', marked := s.marked ++ [s.controlPlane.state? r] } ∧
      Serves r cp' ∧ cp'.state? r = some .failed := by
  obtain ⟨ref, cp', hrun, hserves, hstate⟩ := markFailed_serves h reason message now batchId none
  refine ⟨cp', ?_, hserves, hstate⟩
  have hlift := onControlPlane_ok (s := { s with marked := s.marked ++ [s.controlPlane.state? r] }) hrun
  simp only [markFailed, EStateM.run_bind, EStateM.run_modify, hlift, EStateM.run_pure]

theorem markFailed_unknown (hr : s.controlPlane.registry.get? r = none) (reason : FailureReason) (message : String)
    (now : Time) (batchId : Option UUID) :
    EStateM.run (markFailed r reason message now batchId) s =
      .error (ControlPlane.ControlPlaneError.requestNotFound r).message { s with marked := s.marked ++ [none] } := by
  have hrun := ControlPlane.markFailed_unknown hr reason message now batchId none
  have hlift := onControlPlane_error (s := { s with marked := s.marked ++ [none] }) hrun
  simp only [markFailed, EStateM.run_bind, EStateM.run_modify, ControlPlane.state?_unknown hr, hlift]

/-- what `_persist_stream_metrics` leaves -/
def persisted (r : UUID) (s : StreamState) : StreamState := { s with streamMetrics := some (.fromSession r s.session) }

variable (env) in
theorem persistStreamMetrics_run (h : Serves submit.inferenceRequest.requestId s.controlPlane) :
    EStateM.run (persistStreamMetrics submit env) s =
      match env.capture with
      | none => .ok () (persisted submit.inferenceRequest.requestId s)
      | some message => .error message (persisted submit.inferenceRequest.requestId s) := by
  obtain ⟨state, hrun, -⟩ := entryState_run h
  have hlift := onControlPlane_ok hrun
  simp only [persistStreamMetrics, EStateM.run_bind, hlift, EStateM.run_modify]
  cases env.capture <;> rfl

/-- a cancellation is counted; the client's side and the failures of the run stay as they are -/
structure Cancels (s s' : StreamState) : Prop where
  frames : s'.frames = s.frames
  marked : s'.marked = s.marked
  metrics : s'.metrics = { s.metrics with cancelled := s.metrics.cancelled + 1 }

/-- neither the backend nor the store raises when the stream is cancelled -/
def CancelReturns (env : Environment) : Prop := env.cancelRequest.answer = .ok () ∧ env.capture = none

variable (cfg submit env) in
theorem handleCancel_run (h : Serves submit.inferenceRequest.requestId s.controlPlane)
    (hbackend : s.session.backendId.isSome) (now : Time) :
    (CancelReturns env → ∃ u s', EStateM.run (handleCancel cfg submit env now) s = .ok u s' ∧ Cancels s s') ∧
    (¬CancelReturns env → ∃ message s', EStateM.run (handleCancel cfg submit env now) s = .error message s' ∧
      Cancels s s' ∧ ∃ R, Linked R s'.controlPlane) := by
  set s₁ : StreamState :=
    { s with
      session := { s.session with
        timing := { s.session.timing with completionTime := some now }
        state := .streamCancelled }
      events := s.events ++ [{ eventType := .streamCancelled }]
      metrics := { s.metrics with cancelled := s.metrics.cancelled + 1 } } with hs₁
  have hrun₁ : EStateM.run (handleCancel cfg submit env now) s = EStateM.run (do
      awaiting cfg env.cancelRequest
      let _ ← onControlPlane (ControlPlane.cancel submit.inferenceRequest.requestId env.cancelRequest.now)
      persistStreamMetrics submit env) s₁ := by
    simp only [handleCancel, EStateM.run_bind, modifySession_run, emit_run, modifyMetrics_run, EStateM.run_get,
      if_pos hbackend]
    rfl
  have hcancels : Cancels s s₁ := ⟨rfl, rfl, rfl⟩
  have hserves : Serves submit.inferenceRequest.requestId
      (afterOthers cfg env.cancelRequest.meanwhile s.controlPlane) :=
    h.run cfg env.cancelRequest.meanwhile
  obtain ⟨ref, cp₂, hcancel, hserves₂⟩ := cancel_serves hserves env.cancelRequest.now
  rw [hrun₁]
  cases hanswer : env.cancelRequest.answer with
  | error message =>
    refine ⟨fun hreturns => ?_, fun _ => ⟨message,
      { s₁ with controlPlane := afterOthers cfg env.cancelRequest.meanwhile s₁.controlPlane }, ?_, ?_, ?_⟩⟩
    · rw [CancelReturns, hanswer] at hreturns
      cases hreturns.1
    · simp only [EStateM.run_bind, awaiting_error hanswer]
    · exact ⟨hcancels.frames, hcancels.marked, hcancels.metrics⟩
    · exact hserves.linked
  | ok u =>
    set s₂ : StreamState := { s₁ with controlPlane := cp₂ } with hs₂
    have hlift := onControlPlane_ok
      (s := { s₁ with controlPlane := afterOthers cfg env.cancelRequest.meanwhile s₁.controlPlane }) hcancel
    have hpersist := persistStreamMetrics_run env (s := s₂) hserves₂
    have hcancels₂ : Cancels s (persisted submit.inferenceRequest.requestId s₂) :=
      ⟨hcancels.frames, hcancels.marked, hcancels.metrics⟩
    simp only [EStateM.run_bind, awaiting_ok _ hanswer, hlift]
    cases hcapture : env.capture with
    | none =>
      simp only [hcapture] at hpersist
      exact ⟨fun _ => ⟨(), _, hpersist, hcancels₂⟩, fun hno => absurd ⟨hanswer, hcapture⟩ hno⟩
    | some message =>
      simp only [hcapture] at hpersist
      refine ⟨fun hreturns => ?_, fun _ => ⟨message, _, hpersist, hcancels₂, hserves₂.linked⟩⟩
      rw [CancelReturns, hcapture] at hreturns
      cases hreturns.2

variable (submit env) in
/-- a request that is found FAILED or CANCELLED is left alone -/
theorem persistStreamFailure_final (h : ∃ R, Linked R s.controlPlane) (message : String) :
    ∃ s', (persistStreamFailure submit env message).final s = s' ∧ s'.frames = s.frames ∧ s'.metrics = s.metrics ∧
      (some .completed ∈ s'.marked ↔ some .completed ∈ s.marked ∨
        s.controlPlane.state? submit.inferenceRequest.requestId = some .completed) := by
  rcases ControlPlane.serves_or_unknown h submit.inferenceRequest.requestId with hserves | hunknown
  · obtain ⟨state, hentry, hstate⟩ := entryState_run hserves
    have hlift := onControlPlane_ok hentry
    by_cases hfail : state ≠ .failed ∧ state ≠ .cancelled
    · obtain ⟨cp', hrun, -, -⟩ := markFailed_run hserves .adapterError message env.failedAt none
      have hfinal : (persistStreamFailure submit env message).final s =
          { s with
            controlPlane := cp'
            marked := s.marked ++ [s.controlPlane.state? submit.inferenceRequest.requestId] } := by
        simp only [StreamM.final, persistStreamFailure, EStateM.run_bind, hlift, if_pos hfail, hrun]
        cases env.captureFailure <;> rfl
      refine ⟨_, hfinal, rfl, rfl, ?_⟩
      rw [List.mem_append, List.mem_singleton]
      exact or_congr_right eq_comm
    · have hfinal : (persistStreamFailure submit env message).final s = s := by
        simp only [StreamM.final, persistStreamFailure, EStateM.run_bind, hlift, if_neg hfail]
        cases env.captureFailure <;> rfl
      refine ⟨_, hfinal, rfl, rfl, ?_⟩
      rw [hstate, Option.some.injEq]
      constructor
      · exact Or.inl
      · rintro (hmem | rfl)
        · exact hmem
        · exact absurd ⟨by decide, by decide⟩ hfail
  · have hlift := onControlPlane_error (entryState_unknown hunknown)
    have hfinal : (persistStreamFailure submit env message).final s = s := by
      simp only [StreamM.final, persistStreamFailure, EStateM.run_bind, hlift]
    refine ⟨_, hfinal, rfl, rfl, ?_⟩
    rw [ControlPlane.state?_unknown hunknown]
    simp

variable (cfg submit env) in
/-- the failure handler sends two frames, the second of them the closing one, and stores the failure -/
theorem failStream_final (h : ∃ R, Linked R s.controlPlane) (message : String) :
    ∃ s' frame, (failStream cfg submit env message).final s = s' ∧
      s'.frames = s.frames ++ [frame] ++ [formatSseDone] ∧ frame ≠ formatSseDone ∧
      s'.metrics = { s.metrics with failed := s.metrics.failed + 1 } ∧
      (some .completed ∈ s'.marked ↔ some .completed ∈ s.marked ∨
        (afterOthers cfg env.afterFailure s.controlPlane).state? submit.inferenceRequest.requestId =
          some .completed) := by
  set frame := formatStreamErrorSse message submit.inferenceRequest.requestId submit.inferenceRequest.model env.failedAt
    with hframe
  set s₁ : StreamState :=
    { s with
      controlPlane := afterOthers cfg env.afterFailure s.controlPlane
      session := { s.session with
        state := .streamFailed
        error := some message
        timing := { s.session.timing with completionTime := some env.failedAt } }
      events := s.events ++ [{ eventType := .streamFailed, error := some message }]
      metrics := { s.metrics with failed := s.metrics.failed + 1 }
      frames := s.frames ++ [frame] ++ [formatSseDone] } with hs₁
  have hrun : (failStream cfg submit env message).final s = (persistStreamFailure submit env message).final s₁ := by
    simp only [StreamM.final, failStream, EStateM.run_bind, modifySession_run, emit_run, modifyMetrics_run, send_run,
      others_run]
    rfl
  obtain ⟨s', hfinal, hframes, hmetrics, hmarked⟩ :=
    persistStreamFailure_final submit env (s := s₁) (linked_others cfg env.afterFailure h) message
  exact ⟨s', frame, hrun.trans hfinal, hframes, formatSseData_obj_ne _, hmetrics, hmarked⟩

/-! ## Opening -/

/-- the scheduling cycle has refused the request, and the path itself fails it -/
def Refused (env : Environment) : Prop :=
  (∃ reason, env.opening.answer = .ok (.rejected reason)) ∨ env.opening.answer = .ok .notSelected

/-- the program returns only when it has moved the request to `state` -/
def MovesTo (r : UUID) (state : RequestState) (x : ControlPlaneM α) : Prop :=
  ∀ cp, (∃ R, Linked R cp) → match EStateM.run x cp with
    | .ok _ cp' => Serves r cp' ∧ cp'.state? r = some state
    | .error _ cp' => ∃ R, Linked R cp'

theorem movesTo_transition (r : UUID) (toState : RequestState) (now : Time) (batchId : Option UUID)
    (backendId : Option String) : MovesTo r toState (ControlPlane.transition r toState now batchId backendId) := by
  intro cp h
  rcases ControlPlane.serves_or_unknown h r with hserves | hunknown
  · rcases transition_serves hserves toState now batchId backendId with ⟨ref, cp', hrun, h', hstate⟩
      | ⟨err, cp', hrun, h', -⟩
    · rw [hrun]
      exact ⟨h', hstate⟩
    · rw [hrun]
      exact h'.linked
  · rw [ControlPlane.transition_unknown hunknown]
    exact h

theorem MovesTo.bind {state state' : RequestState} {x : ControlPlaneM α} {f : α → ControlPlaneM β}
    (h : MovesTo r state x) (hf : ∀ a, MovesTo r state' (f a)) : MovesTo r state' (x >>= f) := by
  intro cp hcp
  have hx := h cp hcp
  rw [EStateM.run_bind]
  cases hrun : EStateM.run x cp with
  | ok a cp' =>
    rw [hrun] at hx
    exact hf a cp' hx.1.linked
  | error err cp' =>
    rw [hrun] at hx
    exact hx

theorem MovesTo.unit {state : RequestState} {x : ControlPlaneM α} (h : MovesTo r state x) :
    MovesTo r state (do let _ ← x) := by
  intro cp hcp
  have hx := h cp hcp
  simp only [EStateM.run_bind]
  cases hrun : EStateM.run x cp with
  | ok a cp' =>
    rw [hrun] at hx
    exact hx
  | error err cp' =>
    rw [hrun] at hx
    exact hx

theorem movesTo_markBatched (submit : SubmitRequest) (placement : BatchPlacementDecision) (now : Time) :
    MovesTo submit.inferenceRequest.requestId .batched (markBatched submit placement now) :=
  (movesTo_transition _ _ now _ _).bind fun _ => (movesTo_transition _ _ now _ _).unit

theorem movesTo_markStreaming (submit : SubmitRequest) (backendId : String) (now : Time) :
    MovesTo submit.inferenceRequest.requestId .streaming (markStreaming submit backendId now) :=
  (movesTo_transition _ _ now _ _).bind fun _ => (movesTo_transition _ _ now _ _).unit

/-- a program on the control plane, lifted: the rest of the state stays -/
theorem MovesTo.lift {state : RequestState} {x : ControlPlaneM α} (h : MovesTo r state x)
    (hs : ∃ R, Linked R s.controlPlane) :
    (∃ a cp', EStateM.run (onControlPlane x) s = .ok a { s with controlPlane := cp' } ∧ Serves r cp' ∧
      cp'.state? r = some state) ∨
    ∃ message cp', EStateM.run (onControlPlane x) s = .error message { s with controlPlane := cp' } ∧
      ∃ R, Linked R cp' := by
  have hx := h s.controlPlane hs
  cases hrun : EStateM.run x s.controlPlane with
  | ok a cp' =>
    rw [hrun] at hx
    exact Or.inl ⟨a, cp', onControlPlane_ok hrun, hx⟩
  | error err cp' =>
    rw [hrun] at hx
    exact Or.inr ⟨_, cp', onControlPlane_error hrun, hx⟩

/-- the path raises before the first chunk: the client and the metrics have seen nothing of it -/
structure Aborts (found : Prop) (s s' : StreamState) : Prop where
  frames : s'.frames = s.frames
  metrics : s'.metrics = s.metrics
  linked : ∃ R, Linked R s'.controlPlane
  marked : some .completed ∈ s'.marked ↔ some .completed ∈ s.marked ∨ found

/-- the path has the backend's stream: only its backend and batch are new in the session -/
structure Opens (r : UUID) (s s' : StreamState) : Prop where
  frames : s'.frames = s.frames
  metrics : s'.metrics = s.metrics
  marked : s'.marked = s.marked
  serves : Serves r s'.controlPlane
  backendId : s'.session.backendId.isSome
  text : s'.session.generatedText = s.session.generatedText
  tokens : s'.session.tokenCount = s.session.tokenCount

/-- the path fails the request itself, and raises -/
theorem refuse_run (h : ∃ R, Linked R s.controlPlane) (reason : FailureReason) (message : String) (now : Time)
    (batchId : Option UUID) (r : UUID) :
    ∃ message' s', EStateM.run (do markFailed r reason message now batchId; throw message : StreamM α) s =
      .error message' s' ∧ Aborts (s.controlPlane.state? r = some .completed) s s' := by
  rcases ControlPlane.serves_or_unknown h r with hserves | hunknown
  · obtain ⟨cp', hrun, hserves', -⟩ := markFailed_run hserves reason message now batchId
    refine ⟨message, { s with controlPlane := cp', marked := s.marked ++ [s.controlPlane.state? r] }, ?_, rfl, rfl,
      hserves'.linked, ?_⟩
    · simp only [EStateM.run_bind, hrun, run_throw]
    · rw [List.mem_append, List.mem_singleton]
      exact or_congr_right eq_comm
  · have hrun := markFailed_unknown (s := s) hunknown reason message now batchId
    refine ⟨_, _, StreamM.bind_run_error hrun _, rfl, rfl, h, ?_⟩
    rw [ControlPlane.state?_unknown hunknown]
    simp

variable (cfg submit env) in
theorem openStream_run (h : ∃ R, Linked R s.controlPlane) :
    match EStateM.run (openStream cfg submit env) s with
    | .ok _ s' => Opens submit.inferenceRequest.requestId s s'
    | .error _ s' => Aborts (Refused env ∧ (afterOthers cfg env.opening.meanwhile s.controlPlane).state?
        submit.inferenceRequest.requestId = some .completed) s s' := by
  have hlinked := linked_others cfg env.opening.meanwhile h
  set s₁ : StreamState := { s with controlPlane := afterOthers cfg env.opening.meanwhile s.controlPlane } with hs₁
  cases hanswer : env.opening.answer with
  | error message =>
    simp only [openStream, EStateM.run_bind, awaiting_error hanswer]
    refine ⟨rfl, rfl, hlinked, ?_⟩
    simp [Refused, hanswer]
  | ok verdict =>
    have hopen := StreamM.bind_run_ok (β := Unit) (awaiting_ok cfg hanswer s)
    cases verdict with
    | rejected reason =>
      have hrefused : Refused env := Or.inl ⟨reason, hanswer⟩
      obtain ⟨message, s', hrun, haborts⟩ :=
        refuse_run (α := Unit) (s := s₁) hlinked .adapterError reason env.opening.now none
        submit.inferenceRequest.requestId
      rw [openStream, hopen, hrun]
      exact ⟨haborts.frames, haborts.metrics, haborts.linked, by simpa [hrefused] using haborts.marked⟩
    | notSelected =>
      have hrefused : Refused env := Or.inr hanswer
      obtain ⟨message, s', hrun, haborts⟩ := refuse_run (α := Unit) (s := s₁) hlinked .internalError
        "scheduler_did_not_select_request" env.opening.now none submit.inferenceRequest.requestId
      rw [openStream, hopen, hrun]
      exact ⟨haborts.frames, haborts.metrics, haborts.linked, by simpa [hrefused] using haborts.marked⟩
    | notDispatched placement reason =>
      have hnot : ¬Refused env := by simp [Refused, hanswer]
      rcases (movesTo_markBatched submit placement env.opening.now).lift (s := s₁) hlinked with
        ⟨u, cp₂, hbatched, hserves, hstate⟩ | ⟨message, cp₂, hbatched, hlinked₂⟩
      · -- the path has moved the request itself, so it fails it as BATCHED
        obtain ⟨message, s', hrun, haborts⟩ :=
          refuse_run (α := Unit) (s := { s₁ with controlPlane := cp₂ }) hserves.linked
          .adapterError reason env.opening.now placement.batchId submit.inferenceRequest.requestId
        rw [openStream, hopen, StreamM.bind_run_ok hbatched, hrun]
        refine ⟨haborts.frames, haborts.metrics, haborts.linked, ?_⟩
        have hmarked := haborts.marked
        simp only [hstate] at hmarked
        simpa [hnot] using hmarked
      · rw [openStream, hopen, StreamM.bind_run_error hbatched]
        exact ⟨rfl, rfl, hlinked₂, by simp [hnot, hs₁]⟩
    | dispatched placement dispatch =>
      have hnot : ¬Refused env := by simp [Refused, hanswer]
      rcases (movesTo_markBatched submit placement env.opening.now).lift (s := s₁) hlinked with
        ⟨u, cp₂, hbatched, hserves, -⟩ | ⟨message, cp₂, hbatched, hlinked₂⟩
      · set s₂ : StreamState :=
          { s₁ with
            controlPlane := cp₂
            session := { s₁.session with
              batchId := some placement.batchId, backendId := some dispatch.backendId } } with hs₂
        have hsession : EStateM.run (modifySession fun session =>
            { session with batchId := some placement.batchId, backendId := some dispatch.backendId })
            { s₁ with controlPlane := cp₂ } = .ok () s₂ := rfl
        rcases (movesTo_markStreaming submit dispatch.backendId env.opening.now).lift (s := s₂) hserves.linked with
          ⟨u, cp₃, hstreaming, hserves₃, -⟩ | ⟨message, cp₃, hstreaming, hlinked₃⟩
        · rw [openStream, hopen, StreamM.bind_run_ok hbatched, StreamM.bind_run_ok hsession,
            StreamM.bind_run_ok hstreaming]
          by_cases hbackend : env.hasBackend dispatch.backendId = true
          · simp only [if_pos hbackend, EStateM.run_pure]
            exact ⟨rfl, rfl, rfl, hserves₃, rfl, rfl, rfl⟩
          · simp only [if_neg hbackend, run_throw]
            exact ⟨rfl, rfl, hserves₃.linked, by simp [hnot, hs₂, hs₁]⟩
        · rw [openStream, hopen, StreamM.bind_run_ok hbatched, StreamM.bind_run_ok hsession,
            StreamM.bind_run_error hstreaming]
          exact ⟨rfl, rfl, hlinked₃, by simp [hnot, hs₂, hs₁]⟩
      · rw [openStream, hopen, StreamM.bind_run_error hbatched]
        exact ⟨rfl, rfl, hlinked₂, by simp [hnot, hs₁]⟩

theorem refused_raises (h : Refused env) (u : Unit) (s' : StreamState) :
    EStateM.run (openStream cfg submit env) s ≠ .ok u s' := by
  intro hrun
  rcases h with ⟨reason, hanswer⟩ | hanswer
  · have hopen := StreamM.bind_run_ok (β := Unit) (awaiting_ok cfg hanswer s)
    rw [openStream, hopen, EStateM.run_bind] at hrun
    split at hrun <;> cases hrun
  · have hopen := StreamM.bind_run_ok (β := Unit) (awaiting_ok cfg hanswer s)
    rw [openStream, hopen, EStateM.run_bind] at hrun
    split at hrun <;> cases hrun

end Handlers

/-! ## A chunk -/

/-- what happens at a chunk -/
inductive Incident
  | passes
  | cancels
  | raises (message : String)
  deriving DecidableEq

def Delivery.incident (d : Delivery) : Incident :=
  if d.cancelled then .cancels
  else
    match (d.disconnect.map Await.answer).getD (.ok false), d.encoding with
    | .error message, _ => .raises message
    | .ok true, _ => .cancels
    | .ok false, some message => .raises message
    | .ok false, none => .passes

/-- the control plane when the run goes on after the checks -/
def Delivery.reached (cfg : ControlPlane.Settings) (d : Delivery) (cp : ControlPlaneApplication) :
    ControlPlaneApplication :=
  afterOthers cfg ((d.disconnect.map Await.meanwhile).getD []) (afterOthers cfg d.meanwhile cp)

theorem Delivery.reached_serves {r : UUID} {cp : ControlPlaneApplication} (h : Serves r cp) (d : Delivery) :
    Serves r (d.reached cfg cp) := (h.run cfg d.meanwhile).run cfg _

variable (cfg) in
theorem disconnected_run (d : Delivery) (s : StreamState) :
    EStateM.run (disconnected cfg d) s =
      match (d.disconnect.map Await.answer).getD (.ok false) with
      | .ok gone =>
        .ok gone { s with controlPlane := afterOthers cfg ((d.disconnect.map Await.meanwhile).getD []) s.controlPlane }
      | .error message =>
        .error message
          { s with controlPlane := afterOthers cfg ((d.disconnect.map Await.meanwhile).getD []) s.controlPlane } := by
  cases hcheck : d.disconnect with
  | none => simp only [disconnected, hcheck]; rfl
  | some check =>
    simp only [disconnected, hcheck, Option.map_some, Option.getD_some]
    cases hanswer : check.answer with
    | ok gone => exact awaiting_ok _ hanswer s
    | error message => exact awaiting_error hanswer s

theorem Delivery.incident_cancelled {d : Delivery} (h : d.cancelled = true) : d.incident = .cancels := by
  rw [incident, if_pos h]

theorem Delivery.incident_checked {d : Delivery} (h : ¬d.cancelled = true) :
    d.incident = match (d.disconnect.map Await.answer).getD (.ok false), d.encoding with
      | .error message, _ => .raises message
      | .ok true, _ => .cancels
      | .ok false, some message => .raises message
      | .ok false, none => .passes := by
  rw [incident, if_neg h]

section Loop

variable (created : ℕ) (roleSent : Bool) (previous : Option Time) (d : Delivery) (rest : List Delivery)

/-- a chunk of a stream whose cancellation nobody has asked for: the check, the frame and the bookkeeping -/
theorem deliver_checked (h : ¬d.cancelled = true) (s : StreamState) :
    EStateM.run (deliver cfg submit env created roleSent previous (d :: rest)) s =
      EStateM.run (do
        if ← disconnected cfg d then
          handleCancel cfg submit env d.now
          return false
        else
          orRaise d.encoding
          send (chunkToOpenaiSse d.chunk submit.inferenceRequest.model (some created) (includesRole roleSent d.chunk))
          let previous ← account d.chunk previous
          deliver cfg submit env created (roleSent || includesRole roleSent d.chunk) previous rest)
        { s with controlPlane := afterOthers cfg d.meanwhile s.controlPlane } := by
  rw [deliver, StreamM.bind_run_ok (others_run d.meanwhile s), if_neg h]

variable (cfg submit env) in
/-- a chunk that passes is sent and counted, and the loop goes on -/
theorem deliver_passes (h : d.incident = .passes) (s : StreamState) :
    ∃ previous' s', EStateM.run (deliver cfg submit env created roleSent previous (d :: rest)) s =
        EStateM.run (deliver cfg submit env created (roleSent || includesRole roleSent d.chunk) previous' rest) s' ∧
      Accounts d.chunk.deltaText (if d.chunk.deltaText ≠ "" then 1 else 0) (if d.chunk.finishes then 1 else 0)
        { s with
          controlPlane := d.reached cfg s.controlPlane
          frames := s.frames ++ [chunkToOpenaiSse d.chunk submit.inferenceRequest.model (some created)
            (includesRole roleSent d.chunk)] } s' := by
  have hflag : ¬d.cancelled = true := by
    intro hflag
    rw [Delivery.incident_cancelled hflag] at h
    cases h
  rw [Delivery.incident_checked hflag] at h
  have hcheck := disconnected_run cfg d { s with controlPlane := afterOthers cfg d.meanwhile s.controlPlane }
  split at h <;> cases h
  next hgone hencoding =>
  rw [hgone] at hcheck
  set s₁ : StreamState :=
    { s with
      controlPlane := d.reached cfg s.controlPlane
      frames := s.frames ++ [chunkToOpenaiSse d.chunk submit.inferenceRequest.model (some created)
        (includesRole roleSent d.chunk)] } with hs₁
  obtain ⟨previous', s', haccount, haccounts⟩ := account_run d.chunk previous s₁
  refine ⟨previous', s', ?_, haccounts⟩
  rw [deliver_checked created roleSent previous d rest hflag, StreamM.bind_run_ok hcheck,
    if_neg Bool.false_ne_true, hencoding, StreamM.bind_run_ok (orRaise_none_run _), StreamM.bind_run_ok (send_run _ _)]
  exact StreamM.bind_run_ok haccount _

variable (cfg submit env) in
theorem deliver_cancels (h : d.incident = .cancels) (s : StreamState) :
    ∃ ops, EStateM.run (deliver cfg submit env created roleSent previous (d :: rest)) s =
      EStateM.run (do handleCancel cfg submit env d.now; return false)
        { s with controlPlane := afterOthers cfg ops s.controlPlane } := by
  by_cases hflag : d.cancelled = true
  · refine ⟨d.meanwhile, ?_⟩
    rw [deliver, StreamM.bind_run_ok (others_run d.meanwhile s), if_pos hflag]
  · rw [Delivery.incident_checked hflag] at h
    have hcheck := disconnected_run cfg d { s with controlPlane := afterOthers cfg d.meanwhile s.controlPlane }
    split at h <;> cases h
    next hgone =>
    rw [hgone] at hcheck
    have hops : afterOthers cfg (d.meanwhile ++ (d.disconnect.map Await.meanwhile).getD []) s.controlPlane =
        afterOthers cfg ((d.disconnect.map Await.meanwhile).getD []) (afterOthers cfg d.meanwhile s.controlPlane) :=
      Core.run_append _ _ _
    refine ⟨d.meanwhile ++ (d.disconnect.map Await.meanwhile).getD [], ?_⟩
    rw [deliver_checked created roleSent previous d rest hflag, StreamM.bind_run_ok hcheck, if_pos rfl, hops]

variable (cfg submit env) in
theorem deliver_raises {message : String} (h : d.incident = .raises message) (s : StreamState) :
    EStateM.run (deliver cfg submit env created roleSent previous (d :: rest)) s =
      .error message { s with controlPlane := d.reached cfg s.controlPlane } := by
  have hflag : ¬d.cancelled = true := by
    intro hflag
    rw [Delivery.incident_cancelled hflag] at h
    cases h
  rw [Delivery.incident_checked hflag] at h
  have hcheck := disconnected_run cfg d { s with controlPlane := afterOthers cfg d.meanwhile s.controlPlane }
  rw [deliver_checked created roleSent previous d rest hflag]
  split at h <;> cases h
  next hgone =>
    rw [hgone] at hcheck
    exact StreamM.bind_run_error hcheck _
  next hgone hencoding =>
    rw [hgone] at hcheck
    rw [StreamM.bind_run_ok hcheck, if_neg Bool.false_ne_true, hencoding]
    exact StreamM.bind_run_error (orRaise_some_run message _) _

end Loop

end InferencePlatform.Streaming
