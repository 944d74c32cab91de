/-
What each control-plane operation does to a request's entry.

Every operation but registration and expiry touches the entry of one request. `Becomes e e' state reason` says what is
kept and what is new about it, and the lemmas below give, for each operation, the one entry it writes. `Recorded` is
what `changes` means: a path from the entry's first state to its present one, each step with the right of its writer.
-/
import InferencePlatform.ControlPlane.Lifecycle

namespace InferencePlatform.ControlPlane

variable {cp : ControlPlaneApplication} {requestId : UUID} {ref : Ref} {e : RegisteredRequest} {now : Time}

/-! ## The elementary steps -/

/-- lifecycle events have been emitted -/
def ControlPlaneApplication.logged (cp : ControlPlaneApplication) (events : List LifecycleEvent) :
    ControlPlaneApplication := { cp with events := cp.events ++ events.map Event.lifecycle }

@[simp] theorem run_throw {α : Type} (err : ControlPlaneError) (cp : ControlPlaneApplication) :
    EStateM.run (throw err : ControlPlaneM α) cp = .error err cp := rfl

@[simp] theorem modifyEntry_run (ref : Ref) (f : RegisteredRequest → RegisteredRequest) (cp : ControlPlaneApplication) :
    EStateM.run (modifyEntry ref f) cp = .ok () { cp with entries := cp.entries.modify ref f } := rfl

@[simp] theorem emitLifecycle_run (event : LifecycleEvent) (cp : ControlPlaneApplication) :
    EStateM.run (emitLifecycle event) cp = .ok () (cp.logged [event]) := rfl

@[simp] theorem emitStateEvent_run (eventType : LifecycleEventType) (entry : RegisteredRequest) (now : Time)
    (completion : Option InferenceCompletionRecord) (cp : ControlPlaneApplication) :
    ∃ events, EStateM.run (emitStateEvent eventType entry now completion) cp =
      .ok () (cp.logged events) := ⟨_, emitLifecycle_run _ cp⟩

@[simp] theorem emitQueue_run (event : QueueEvent) (cp : ControlPlaneApplication) :
    EStateM.run (emitQueue event) cp = .ok () { cp with events := cp.events ++ [.queue event] } := rfl

theorem derefEntry_run (he : cp.entries[ref]? = some e) : EStateM.run (derefEntry ref) cp = .ok e cp := by
  simp only [derefEntry, EStateM.run_bind, EStateM.run_get, he, EStateM.run_pure]

theorem getRef_run (hr : cp.registry.get? requestId = some ref) : EStateM.run (getRef requestId) cp = .ok ref cp := by
  simp only [getRef, EStateM.run_bind, EStateM.run_get, hr, EStateM.run_pure]

theorem getRef_unknown (hr : cp.registry.get? requestId = none) :
    EStateM.run (getRef requestId) cp = .error (.requestNotFound requestId) cp := by
  simp only [getRef, EStateM.run_bind, EStateM.run_get, hr, run_throw]

/-- `ref` holds the entry `e` -/
def ControlPlaneApplication.store (cp : ControlPlaneApplication) (ref : Ref) (e : RegisteredRequest) :
    ControlPlaneApplication := { cp with entries := cp.entries.set ref e }


theorem entries_modify (he : cp.entries[ref]? = some e) (f : RegisteredRequest → RegisteredRequest) :
    ({ cp with entries := cp.entries.modify ref f } : ControlPlaneApplication) = cp.store ref (f e) := by
  unfold ControlPlaneApplication.store
  congr 1
  obtain ⟨hlt, hget⟩ := List.getElem?_eq_some_iff.1 he
  refine List.ext_getElem? fun i => ?_
  rw [List.getElem?_modify, List.getElem?_set]
  by_cases h : ref = i
  · subst h
    simp [hlt, hget]
  · simp [h]

theorem modifyEntry_store (he : cp.entries[ref]? = some e) (f : RegisteredRequest → RegisteredRequest) :
    EStateM.run (modifyEntry ref f) cp = .ok () (cp.store ref (f e)) := by
  rw [modifyEntry_run, entries_modify he]

@[simp] theorem store_get (he : cp.entries[ref]? = some e) (e' : RegisteredRequest) :
    (cp.store ref e').entries[ref]? = some e' := by
  simp [ControlPlaneApplication.store, (List.getElem?_eq_some_iff.1 he).1]

@[simp] theorem store_store (cp : ControlPlaneApplication) (ref : Ref) (e e' : RegisteredRequest) :
    (cp.store ref e).store ref e' = cp.store ref e' := by
  simp [ControlPlaneApplication.store]

@[simp] theorem store_registry (cp : ControlPlaneApplication) (ref : Ref) (e : RegisteredRequest) :
    (cp.store ref e).registry = cp.registry := rfl

@[simp] theorem store_items (cp : ControlPlaneApplication) (ref : Ref) (e : RegisteredRequest) :
    (cp.store ref e).items = cp.items := rfl

@[simp] theorem logged_store (cp : ControlPlaneApplication) (events : List LifecycleEvent) (ref : Ref)
    (e : RegisteredRequest) : (cp.logged events).store ref e = (cp.store ref e).logged events := rfl

@[simp] theorem logged_nil (cp : ControlPlaneApplication) : cp.logged [] = cp := by
  simp [ControlPlaneApplication.logged]

@[simp] theorem logged_logged (cp : ControlPlaneApplication) (events events' : List LifecycleEvent) :
    (cp.logged events).logged events' = cp.logged (events ++ events') := by
  simp [ControlPlaneApplication.logged]

@[simp] theorem queueEvents_logged (cp : ControlPlaneApplication) (events : List LifecycleEvent) :
    (cp.logged events).queueEvents = cp.queueEvents := by
  simp [ControlPlaneApplication.logged, ControlPlaneApplication.queueEvents, Event.queue?]

@[simp] theorem logged_entries (cp : ControlPlaneApplication) (events : List LifecycleEvent) :
    (cp.logged events).entries = cp.entries := rfl

@[simp] theorem logged_registry (cp : ControlPlaneApplication) (events : List LifecycleEvent) :
    (cp.logged events).registry = cp.registry := rfl

@[simp] theorem logged_items (cp : ControlPlaneApplication) (events : List LifecycleEvent) :
    (cp.logged events).items = cp.items := rfl

theorem updateState_store (hr : cp.registry.get? requestId = some ref) (he : cp.entries[ref]? = some e)
    (writer : StateWriter) (state : RequestState) (now : Time) :
    EStateM.run (updateState writer requestId state now) cp =
      .ok ref (cp.store ref { e.enter writer state with updatedAt := now }) := by
  simp only [updateState, EStateM.run_bind, getRef_run hr, modifyEntry_store he, EStateM.run_pure]

/-! ## What the record of changes means -/

/-- a change that its writer may make: `mark_failed` fails any request, an expired queue item times its request out, and
the others follow the table -/
def StateChange.Legal (c : StateChange) : Prop :=
  match c.writer with
  | .markFailed => c.toState = .failed
  | .processTimeouts => c.toState = .timedOut
  | .transition | .runAdmission | .enqueue => c.fromState = c.toState ∨ isAllowedTransition c.fromState c.toState = true

/-- the changes lead from the entry's first state to its present one, and all are legal -/
structure RegisteredRequest.Recorded (e : RegisteredRequest) : Prop where
  path : ∃ s, e.changes.map StateChange.fromState ++ [e.state] = s :: e.changes.map StateChange.toState
  legal : ∀ c ∈ e.changes, c.Legal

theorem RegisteredRequest.Recorded.enter {e : RegisteredRequest} (h : e.Recorded) {writer : StateWriter}
    {state : RequestState} (hl : (StateChange.mk e.state state writer).Legal) : (e.enter writer state).Recorded := by
  obtain ⟨s, hs⟩ := h.path
  refine ⟨⟨s, ?_⟩, fun c hc => ?_⟩
  · simp only [RegisteredRequest.enter, List.map_append, List.map_cons, List.map_nil]
    rw [hs, List.cons_append]
  · rcases List.mem_append.1 hc with hc | hc
    · exact h.legal c hc
    · rw [List.mem_singleton.1 hc]
      exact hl

theorem legal_failed (s : RequestState) : (StateChange.mk s .failed .markFailed).Legal := rfl

theorem legal_timedOut (s : RequestState) : (StateChange.mk s .timedOut .processTimeouts).Legal := rfl

theorem legal_edge {s t : RequestState} (h : isAllowedTransition s t = true) :
    (StateChange.mk s t .transition).Legal := Or.inr h

/-- what an operation makes of an entry: its state and failure reason, and that the record of changes goes on -/
structure Becomes (e e' : RegisteredRequest) (state : RequestState) (reason : Option FailureReason) : Prop where
  submit : e'.submit = e.submit
  state : e'.state = state
  reason : e'.failureReason = reason
  recorded : e.Recorded → e'.Recorded

theorem Becomes.refl (e : RegisteredRequest) : Becomes e e e.state e.failureReason := ⟨rfl, rfl, rfl, id⟩

theorem RegisteredRequest.Recorded.congr {e e' : RegisteredRequest} (h : e.Recorded) (hs : e'.state = e.state)
    (hc : e'.changes = e.changes) : e'.Recorded :=
  ⟨by rw [hc, hs]; exact h.path, by rw [hc]; exact h.legal⟩

/-! ## Transitions, failure, completion -/

theorem emitForTransition_run (entry : RegisteredRequest) (fromState toState : RequestState) (now : Time)
    (cp : ControlPlaneApplication) :
    ∃ events, EStateM.run (emitForTransition entry fromState toState now) cp = .ok () (cp.logged events) := by
  unfold emitForTransition
  split
  · exact ⟨[], by rw [logged_nil]; rfl⟩
  · exact ⟨_, emitLifecycle_run _ cp⟩

/-- an allowed transition stores the ids that are given and enters the state -/
def RegisteredRequest.moved (e : RegisteredRequest) (toState : RequestState) (now : Time) (batchId : Option UUID)
    (backendId : Option String) : RegisteredRequest :=
  { (e.assign batchId backendId).enter .transition toState with updatedAt := now }

theorem transition_store (hr : cp.registry.get? requestId = some ref) (he : cp.entries[ref]? = some e)
    {toState : RequestState} (hallowed : isAllowedTransition e.state toState = true) (now : Time)
    (batchId : Option UUID) (backendId : Option String) :
    ∃ events, EStateM.run (transition requestId toState now batchId backendId) cp =
      .ok ref ((cp.store ref (e.moved toState now batchId backendId)).logged events) := by
  set e₁ := e.assign batchId backendId with he₁
  have hget : (cp.store ref e₁).entries[ref]? = some e₁ := store_get he e₁
  have hst : e₁.state = e.state := rfl
  have hr₁ : (cp.store ref e₁).registry.get? requestId = some ref := hr
  have hupd := updateState_store hr₁ hget .transition toState now
  set e₂ : RegisteredRequest := { e₁.enter .transition toState with updatedAt := now } with he₂
  obtain ⟨events, hemit⟩ := emitForTransition_run e₂ e.state toState now (cp.store ref e₂)
  refine ⟨events, ?_⟩
  simp only [transition, EStateM.run_bind, getRef_run hr, modifyEntry_store he, ← he₁, derefEntry_run hget, hst,
    if_pos hallowed, hupd, store_store, derefEntry_run (store_get he e₂), hemit, EStateM.run_pure]
  rfl

/-- a refused transition has stored the ids by then -/
theorem transition_refused (hr : cp.registry.get? requestId = some ref) (he : cp.entries[ref]? = some e)
    {toState : RequestState} (hrefused : isAllowedTransition e.state toState = false) (now : Time)
    (batchId : Option UUID) (backendId : Option String) :
    EStateM.run (transition requestId toState now batchId backendId) cp =
      .error (.invalidTransition requestId e.state toState) (cp.store ref (e.assign batchId backendId)) := by
  set e₁ := e.assign batchId backendId with he₁
  have hget : (cp.store ref e₁).entries[ref]? = some e₁ := store_get he e₁
  have hst : e₁.state = e.state := rfl
  simp only [transition, EStateM.run_bind, getRef_run hr, modifyEntry_store he, ← he₁, derefEntry_run hget, hst,
    hrefused, Bool.false_eq_true, if_false, run_throw]

theorem transition_run (hr : cp.registry.get? requestId = some ref) (he : cp.entries[ref]? = some e)
    (toState : RequestState) (now : Time) (batchId : Option UUID) (backendId : Option String) :
    (isAllowedTransition e.state toState = true → ∃ e' events,
      EStateM.run (transition requestId toState now batchId backendId) cp = .ok ref ((cp.store ref e').logged events) ∧
        Becomes e e' toState e.failureReason) ∧
    (isAllowedTransition e.state toState = false → ∃ e',
      EStateM.run (transition requestId toState now batchId backendId) cp =
        .error (.invalidTransition requestId e.state toState) (cp.store ref e') ∧
        Becomes e e' e.state e.failureReason) := by
  constructor
  · intro hallowed
    obtain ⟨events, hrun⟩ := transition_store hr he hallowed now batchId backendId
    refine ⟨_, events, hrun, ⟨rfl, rfl, rfl, fun h => ?_⟩⟩
    have h₁ : (e.assign batchId backendId).Recorded := h.congr rfl rfl
    exact (h₁.enter (legal_edge hallowed)).congr rfl rfl
  · intro hrefused
    exact ⟨_, transition_refused hr he hrefused now batchId backendId, ⟨rfl, rfl, rfl, fun h => h.congr rfl rfl⟩⟩

theorem Becomes.enter {e e' : RegisteredRequest} {state : RequestState} {reason : Option FailureReason}
    (h : Becomes e e' state reason) (writer : StateWriter) (toState : RequestState)
    (hl : (StateChange.mk state toState writer).Legal) : Becomes e (e'.enter writer toState) toState reason := by
  refine ⟨h.submit, rfl, h.reason, fun he => ?_⟩
  have hl' : (StateChange.mk e'.state toState writer).Legal := h.state ▸ hl
  exact (h.recorded he).enter hl'

theorem Becomes.touched {e e' : RegisteredRequest} {state : RequestState} {reason : Option FailureReason}
    (h : Becomes e e' state reason) (now : Time) : Becomes e { e' with updatedAt := now } state reason :=
  ⟨h.submit, h.state, h.reason, fun he => (h.recorded he).congr rfl rfl⟩

theorem Becomes.applyFailure {e e' : RegisteredRequest} {state : RequestState} {reason : Option FailureReason}
    (h : Becomes e e' state reason) (writer : StateWriter) (failure : ClassifiedFailure)
    (hl : (StateChange.mk state (targetState failure.category) writer).Legal) :
    Becomes e (e'.applyFailure writer failure) (targetState failure.category) (some failure.reason) := by
  have hb := h.enter writer (targetState failure.category) hl
  exact ⟨hb.submit, rfl, rfl, fun he => (hb.recorded he).congr rfl rfl⟩

theorem Becomes.trans {e e' e'' : RegisteredRequest} {s t : RequestState} {r u : Option FailureReason}
    (h : Becomes e e' s r) (h' : Becomes e' e'' t u) : Becomes e e'' t u :=
  ⟨h'.submit.trans h.submit, h'.state, h'.reason, fun he => h'.recorded (h.recorded he)⟩

theorem Becomes.assign (e : RegisteredRequest) (batchId : Option UUID) (backendId : Option String) :
    Becomes e (e.assign batchId backendId) e.state e.failureReason := ⟨rfl, rfl, rfl, fun h => h.congr rfl rfl⟩

/-- an entry without its place in the queue and without the record of its changes -/
def RegisteredRequest.content (e : RegisteredRequest) : RegisteredRequest :=
  { e with queuePosition := none, changes := [] }

/-- what `mark_failed` makes an entry say -/
def RegisteredRequest.failedContent (e : RegisteredRequest) (reason : FailureReason) (message : String) (now : Time) :
    RegisteredRequest :=
  { e.content with state := .failed, failureReason := some reason, failureMessage := some message, updatedAt := now }

/-- `mark_failed` always fails a registered request -/
theorem markFailed_store (hr : cp.registry.get? requestId = some ref) (he : cp.entries[ref]? = some e)
    (reason : FailureReason) (message : String) (now : Time) (batchId : Option UUID) (backendId : Option String) :
    ∃ e' events, EStateM.run (markFailed requestId reason message now batchId backendId) cp =
      .ok ref ((cp.store ref e').logged events) ∧ Becomes e e' .failed (some reason) ∧
      e'.content = (e.assign batchId backendId).failedContent reason message now := by
  have hb₁ := Becomes.assign e batchId backendId
  set e₁ := e.assign batchId backendId with he₁
  have hget : (cp.store ref e₁).entries[ref]? = some e₁ := store_get he e₁
  have hr₁ : (cp.store ref e₁).registry.get? requestId = some ref := hr
  set failure := internalFailure message reason with hfailure
  have htarget : targetState failure.category = .failed := rfl
  simp only [markFailed, EStateM.run_bind, getRef_run hr, modifyEntry_store he, ← he₁, derefEntry_run hget,
    ← hfailure, htarget]
  by_cases hallowed : isAllowedTransition e₁.state .failed = true
  · obtain ⟨events, hrun⟩ := transition_store hr₁ hget hallowed now none none
    set e₂ := e₁.moved .failed now none none with he₂
    have hb₂ : Becomes e e₂ .failed e.failureReason := (hb₁.enter .transition .failed (legal_edge hallowed)).touched now
    rw [store_store] at hrun
    refine ⟨e₂.applyFailure .markFailed failure, events, ?_, hb₂.applyFailure .markFailed failure (legal_failed _), rfl⟩
    have hget₂ : ((cp.store ref e₂).logged events).entries[ref]? = some e₂ := store_get he e₂
    simp only [if_pos hallowed, EStateM.run_bind, hrun, modifyEntry_store hget₂, logged_store, store_store,
      EStateM.run_pure]
  · set e₂ := e₁.applyFailure .markFailed failure with he₂
    have hb₂ : Becomes e e₂ .failed (some reason) := hb₁.applyFailure .markFailed failure (legal_failed _)
    set e₃ : RegisteredRequest := { e₂.enter .markFailed .failed with updatedAt := now } with he₃
    have hget₂ : (cp.store ref e₂).entries[ref]? = some e₂ := store_get he e₂
    have hr₂ : (cp.store ref e₂).registry.get? requestId = some ref := hr
    have hupd := updateState_store hr₂ hget₂ .markFailed .failed now
    obtain ⟨events, hemit⟩ := emitStateEvent_run .requestFailed e₃ now none (cp.store ref e₃)
    refine ⟨e₃, events, ?_, (hb₂.enter .markFailed .failed (legal_failed _)).touched now, rfl⟩
    simp only [if_neg hallowed, EStateM.run_bind, modifyEntry_store hget, ← he₂, store_store, hupd,
      derefEntry_run (store_get he e₃), ← he₃, hemit, EStateM.run_pure]

theorem markFailed_run (hr : cp.registry.get? requestId = some ref) (he : cp.entries[ref]? = some e)
    (reason : FailureReason) (message : String) (now : Time) (batchId : Option UUID) (backendId : Option String) :
    ∃ e' events, EStateM.run (markFailed requestId reason message now batchId backendId) cp =
      .ok ref ((cp.store ref e').logged events) ∧ Becomes e e' .failed (some reason) := by
  obtain ⟨e', events, hrun, hb, -⟩ := markFailed_store hr he reason message now batchId backendId
  exact ⟨e', events, hrun, hb⟩

/-- a request that is being executed gets its completion, if there is one, and is COMPLETED -/
theorem completeRequest_store (hr : cp.registry.get? requestId = some ref) (he : cp.entries[ref]? = some e)
    (hst : e.state = .submitted ∨ e.state = .streaming) (completion : Option InferenceCompletionRecord) (now : Time) :
    ∃ events, EStateM.run (completeRequest requestId completion now) cp = .ok ref ((cp.store ref
      (({ e with completion := completion.or e.completion } : RegisteredRequest).moved .completed now none none)).logged
        events) := by
  set e₁ : RegisteredRequest := { e with completion := completion.or e.completion } with he₁
  have hget : (cp.store ref e₁).entries[ref]? = some e₁ := store_get he e₁
  have hr₁ : (cp.store ref e₁).registry.get? requestId = some ref := hr
  have hallowed : isAllowedTransition e₁.state .completed = true := by
    rcases hst with hst | hst
    · rw [show e₁.state = .submitted from hst]; rfl
    · rw [show e₁.state = .streaming from hst]; rfl
  obtain ⟨events, hrun⟩ := transition_store hr₁ hget hallowed now none none
  set e₂ := e₁.moved .completed now none none with he₂
  rw [store_store] at hrun
  have hget₂ : ((cp.store ref e₂).logged events).entries[ref]? = some e₂ := store_get he e₂
  obtain ⟨events', hemit⟩ := emitStateEvent_run .requestCompleted e₂ now completion ((cp.store ref e₂).logged events)
  refine ⟨events ++ events', ?_⟩
  have hgo : ¬(e.state ≠ .submitted ∧ e.state ≠ .streaming) := by tauto
  simp only [completeRequest, EStateM.run_bind, getRef_run hr, derefEntry_run he, if_neg hgo, modifyEntry_store he,
    ← he₁, hrun, derefEntry_run hget₂, hemit, logged_logged, EStateM.run_pure]

theorem completeRequest_run (hr : cp.registry.get? requestId = some ref) (he : cp.entries[ref]? = some e)
    (completion : Option InferenceCompletionRecord) (now : Time) :
    (e.state = .submitted ∨ e.state = .streaming → ∃ e' events,
      EStateM.run (completeRequest requestId completion now) cp = .ok ref ((cp.store ref e').logged events) ∧
        Becomes e e' .completed e.failureReason) ∧
    (¬(e.state = .submitted ∨ e.state = .streaming) →
      EStateM.run (completeRequest requestId completion now) cp =
        .error (.invalidTransition requestId e.state .completed) cp) := by
  constructor
  · intro hst
    obtain ⟨events, hrun⟩ := completeRequest_store hr he hst completion now
    refine ⟨_, events, hrun, ?_⟩
    have hb₁ : Becomes e { e with completion := completion.or e.completion } e.state e.failureReason :=
      ⟨rfl, rfl, rfl, fun h => h.congr rfl rfl⟩
    have hallowed : isAllowedTransition e.state .completed = true := by
      rcases hst with hst | hst
      · rw [hst]; rfl
      · rw [hst]; rfl
    exact (hb₁.enter .transition .completed (legal_edge hallowed)).touched now
  · intro hst
    have hstop : e.state ≠ .submitted ∧ e.state ≠ .streaming := by tauto
    simp only [completeRequest, EStateM.run_bind, getRef_run hr, derefEntry_run he, if_pos hstop, run_throw]

/-- the gateway's cancellation moves a request that is being executed, and no other -/
theorem cancel_run (hr : cp.registry.get? requestId = some ref) (he : cp.entries[ref]? = some e) (now : Time) :
    (e.state = .submitted ∨ e.state = .streaming → ∃ e' events,
      EStateM.run (cancel requestId now) cp = .ok ref ((cp.store ref e').logged events) ∧
        Becomes e e' .cancelled e.failureReason) ∧
    (¬(e.state = .submitted ∨ e.state = .streaming) → EStateM.run (cancel requestId now) cp = .ok ref cp) := by
  constructor
  · intro hst
    have hallowed : isAllowedTransition e.state .cancelled = true := by
      rcases hst with hst | hst <;> rw [hst] <;> rfl
    obtain ⟨e', events, hrun, hb⟩ := (transition_run hr he .cancelled now none none).1 hallowed
    refine ⟨e', events, ?_, hb⟩
    simp only [cancel, EStateM.run_bind, getRef_run hr, derefEntry_run he, if_pos hst.symm, hrun]
  · intro hst
    have hno : ¬(e.state = .streaming ∨ e.state = .submitted) := by tauto
    simp only [cancel, EStateM.run_bind, getRef_run hr, derefEntry_run he, if_neg hno, EStateM.run_pure]

/-! ## Admission -/

theorem startAdmission_run (hr : cp.registry.get? requestId = some ref) (he : cp.entries[ref]? = some e) :
    EStateM.run (startAdmission requestId) cp =
      if e.state = .validated then .ok ref cp else .error (.invalidTransition requestId e.state .admitted) cp := by
  by_cases hst : e.state = .validated
  · simp [startAdmission, EStateM.run_bind, getRef_run hr, derefEntry_run he, hst]
  · simp [startAdmission, EStateM.run_bind, getRef_run hr, derefEntry_run he, hst]

/-- a VALIDATED request is ADMITTED or REJECTED; an exception of a check leaves it as it is -/
theorem finishAdmission_run (hr : cp.registry.get? requestId = some ref) (he : cp.entries[ref]? = some e)
    (hst : e.state = .validated) (result : Except String AdmissionResult) (now : Time) :
    (∃ message, result = .error message ∧
      EStateM.run (finishAdmission requestId ref result now) cp = .error (.checkRaised message) cp) ∨
    (∃ r e' events, result = .ok r ∧ r.outcome = .accept ∧
      EStateM.run (finishAdmission requestId ref result now) cp = .ok ref ((cp.store ref e').logged events) ∧
      Becomes e e' .admitted e.failureReason) ∨
    ∃ r e' events, result = .ok r ∧ r.outcome ≠ .accept ∧
      EStateM.run (finishAdmission requestId ref result now) cp = .ok ref ((cp.store ref e').logged events) ∧
      Becomes e e' .rejected (some .queueFull) := by
  cases result with
  | error message => exact Or.inl ⟨message, rfl, rfl⟩
  | ok r =>
    by_cases haccept : r.outcome = .accept
    · have hallowed : isAllowedTransition e.state .admitted = true := by rw [hst]; rfl
      obtain ⟨e', events, hrun, hb⟩ := (transition_run hr he .admitted now none none).1 hallowed
      refine Or.inr (Or.inl ⟨r, e', events, rfl, haccept, ?_, hb⟩)
      simp only [finishAdmission, if_pos haccept, hrun]
    · set failure := admissionFailure (if r.reason.getD "" = "" then "admission rejected" else r.reason.getD "") with hf
      set e₁ := e.applyFailure .runAdmission failure with he₁
      set e₂ := e₁.enter .runAdmission .rejected with he₂
      set e₃ : RegisteredRequest := { e₂.enter .runAdmission .rejected with updatedAt := now } with he₃
      have hb₀ : Becomes e e .validated e.failureReason := ⟨rfl, hst, rfl, id⟩
      have hb₁ : Becomes e e₁ .rejected (some .queueFull) := hb₀.applyFailure .runAdmission failure (Or.inr rfl)
      have hb₂ : Becomes e e₂ .rejected (some .queueFull) := hb₁.enter .runAdmission .rejected (Or.inl rfl)
      have hget₁ : (cp.store ref e₁).entries[ref]? = some e₁ := store_get he e₁
      have hget₂ : (cp.store ref e₂).entries[ref]? = some e₂ := store_get he e₂
      have hr₂ : (cp.store ref e₂).registry.get? requestId = some ref := hr
      have hupd := updateState_store hr₂ hget₂ .runAdmission .rejected now
      obtain ⟨events, hemit⟩ := emitStateEvent_run .requestRejected e₃ now none (cp.store ref e₃)
      refine Or.inr (Or.inr ⟨r, e₃, events, rfl, haccept, ?_,
        (hb₂.enter .runAdmission .rejected (Or.inl rfl)).touched now⟩)
      simp only [finishAdmission, if_neg haccept, EStateM.run_bind, ← hf, modifyEntry_store he, ← he₁,
        modifyEntry_store hget₁, store_store, ← he₂, hupd, ← he₃, derefEntry_run (store_get he e₃), hemit,
        EStateM.run_pure]

end InferencePlatform.ControlPlane
