/-
What each piece of a call leaves behind.

A piece of a call changes the registry through a few control-plane operations; over overviews its effect and the phase
it ends in are functions: `entered`, `finalized`, `opened`, `concluded`. The lemmas below compute each piece once, so
that no later proof unfolds a request path.
-/
import InferencePlatform.Batching.Invariant
import InferencePlatform.Gateway.Orchestrator

namespace InferencePlatform.Gateway

open InferencePlatform.Core (Dict run)
open ControlPlane (ControlPlaneApplication ControlPlaneM ControlPlaneError Ref AdmissionResult Overview Status Leaves
  isAllowedTransition)
open Batching (ContinuousBatchEngine EngineM EngineError BatchPlacementDecision BatchRejectionDecision)
open Dispatch (BatchDispatchService BatchDispatchResult DispatchConfig Route SubmitTask Attempt AdapterOutcome)
open Scheduling (SchedulingResult SchedulerPolicy CycleState runCycle)

variable {cfg : Settings} {s s' : PlatformStack} {r : UUID} {st : Status} {path : Path} {now : Time}

/-! ## Lifting -/

@[simp] theorem run_throw {α : Type} (err : PlatformError) (s : PlatformStack) :
    EStateM.run (throw err : PlatformM α) s = .error err s := rfl

theorem onControlPlane_ok {α : Type} {x : ControlPlaneM α} {a : α} {cp : ControlPlaneApplication}
    (h : EStateM.run x s.controlPlane = .ok a cp) :
    EStateM.run (onControlPlane x) s = .ok a { s with controlPlane := cp } := by
  simp only [EStateM.run] at h
  simp only [EStateM.run, onControlPlane, h]

theorem onControlPlane_error {α : Type} {x : ControlPlaneM α} {err : ControlPlaneError} {cp : ControlPlaneApplication}
    (h : EStateM.run x s.controlPlane = .error err cp) :
    EStateM.run (onControlPlane x) s = .error (.controlPlane err) { s with controlPlane := cp } := by
  simp only [EStateM.run] at h
  simp only [EStateM.run, onControlPlane, h]

theorem onEngine_ok {α : Type} {x : EngineM α} {a : α} {e : ContinuousBatchEngine}
    (h : EStateM.run x s.engine = .ok a e) : EStateM.run (onEngine x) s = .ok a { s with engine := e } := by
  simp only [EStateM.run] at h
  simp only [EStateM.run, onEngine, h]

theorem perform_ok {x : PlatformM Phase} {phase : Phase} (h : EStateM.run x s = .ok phase s') :
    perform path x s = (s', phase) := by
  simp only [perform, h]

theorem perform_error {x : PlatformM Phase} {err : PlatformError} (h : EStateM.run x s = .error err s') :
    perform path x s = (s', path.failed err) := by
  simp only [perform, h]

/-- the piece changes nothing but the control plane, which comes to show `p.1`, and ends in phase `p.2` -/
def Leads (path : Path) (x : PlatformM Phase) (s : PlatformStack) (p : Overview × Phase) : Prop :=
  ∃ cp, perform path x s = ({ s with controlPlane := cp }, p.2) ∧ Leaves s.controlPlane cp p.1

/-- the phase after a control-plane operation has not found the request -/
def Path.notFound (path : Path) (r : UUID) : Phase := path.failed (.controlPlane (.requestNotFound r))

/-! ## One request at a time -/

theorem markFailed_run (h : ControlPlane.Inv s.controlPlane) (hs : s.controlPlane.overview.status r = some st)
    (reason : FailureReason) (message : String) (now : Time) (batchId : Option UUID) :
    ∃ cp, EStateM.run (markFailed r reason message now batchId) s = .ok () { s with controlPlane := cp } ∧
      Leaves s.controlPlane cp (s.controlPlane.overview.put r ⟨.failed, some reason⟩) := by
  obtain ⟨ref, cp, hrun, -, hl⟩ := ControlPlane.markFailed_spec h hs reason message now batchId none
  refine ⟨cp, ?_, hl⟩
  simp only [markFailed, EStateM.run_bind, onControlPlane_ok hrun, EStateM.run_pure]

theorem markFailed_unknown (hr : s.controlPlane.registry.get? r = none) (reason : FailureReason) (message : String)
    (now : Time) (batchId : Option UUID) :
    EStateM.run (markFailed r reason message now batchId) s = .error (.controlPlane (.requestNotFound r)) s := by
  have hrun := ControlPlane.markFailed_unknown hr reason message now batchId none
  simp only [markFailed, EStateM.run_bind, onControlPlane_error hrun]

theorem transition_run (h : ControlPlane.Inv s.controlPlane) (hs : s.controlPlane.overview.status r = some st)
    (toState : RequestState) (now : Time) (batchId : Option UUID) (backendId : Option String) :
    (isAllowedTransition st.state toState = true → ∃ cp,
      EStateM.run (transition r toState now batchId backendId) s = .ok () { s with controlPlane := cp } ∧
        Leaves s.controlPlane cp (s.controlPlane.overview.put r ⟨toState, st.reason⟩)) ∧
    (isAllowedTransition st.state toState = false → ∃ cp,
      EStateM.run (transition r toState now batchId backendId) s =
        .error (.controlPlane (.invalidTransition r st.state toState)) { s with controlPlane := cp } ∧
        Leaves s.controlPlane cp s.controlPlane.overview) := by
  obtain ⟨hok, herr⟩ := ControlPlane.transition_spec h hs toState now batchId backendId
  constructor
  · intro hallowed
    obtain ⟨ref, cp, hrun, hl⟩ := hok hallowed
    refine ⟨cp, ?_, hl⟩
    simp only [transition, EStateM.run_bind, onControlPlane_ok hrun, EStateM.run_pure]
  · intro hrefused
    obtain ⟨cp, hrun, hl⟩ := herr hrefused
    refine ⟨cp, ?_, hl⟩
    simp only [transition, EStateM.run_bind, onControlPlane_error hrun]

theorem transition_unknown (hr : s.controlPlane.registry.get? r = none) (toState : RequestState) (now : Time)
    (batchId : Option UUID) (backendId : Option String) :
    EStateM.run (transition r toState now batchId backendId) s = .error (.controlPlane (.requestNotFound r)) s := by
  have hrun := ControlPlane.transition_unknown hr toState now batchId backendId
  simp only [transition, EStateM.run_bind, onControlPlane_error hrun]

/-- a transition after another one that has gone well -/
theorem transition_again {cp : ControlPlaneApplication} {o : Overview} (hl : Leaves s.controlPlane cp (o.put r st))
    (toState : RequestState) (hallowed : isAllowedTransition st.state toState = true) (now : Time)
    (batchId : Option UUID) (backendId : Option String) :
    ∃ cp', EStateM.run (transition r toState now batchId backendId) { s with controlPlane := cp } =
        .ok () { s with controlPlane := cp' } ∧
      Leaves s.controlPlane cp' (o.put r ⟨toState, st.reason⟩) := by
  have hs : cp.overview.status r = some st := by
    rw [hl.overview]
    exact Overview.put_status_self o r st
  obtain ⟨hok, -⟩ := transition_run (s := { s with controlPlane := cp }) hl.inv hs toState now batchId backendId
  obtain ⟨cp', hrun, hl'⟩ := hok hallowed
  refine ⟨cp', hrun, hl'.inv, hl'.registry.trans hl.registry, ?_⟩
  rw [hl'.overview, hl.overview, Overview.put_put]

theorem markBatched_run (h : ControlPlane.Inv s.controlPlane) (hs : s.controlPlane.overview.status r = some st)
    (placement : BatchPlacementDecision) (now : Time) :
    (isAllowedTransition st.state .scheduled = true → ∃ cp,
      EStateM.run (markBatched r placement now) s = .ok () { s with controlPlane := cp } ∧
        Leaves s.controlPlane cp (s.controlPlane.overview.put r ⟨.batched, st.reason⟩)) ∧
    (isAllowedTransition st.state .scheduled = false → ∃ cp,
      EStateM.run (markBatched r placement now) s =
        .error (.controlPlane (.invalidTransition r st.state .scheduled)) { s with controlPlane := cp } ∧
        Leaves s.controlPlane cp s.controlPlane.overview) := by
  obtain ⟨hok, herr⟩ := transition_run h hs .scheduled now placement.batchId none
  constructor
  · intro hallowed
    obtain ⟨cp, hrun, hl⟩ := hok hallowed
    obtain ⟨cp', hrun', hl'⟩ := transition_again hl .batched rfl now none none
    exact ⟨cp', by simp only [markBatched, EStateM.run_bind, hrun, hrun'], hl'⟩
  · intro hrefused
    obtain ⟨cp, hrun, hl⟩ := herr hrefused
    exact ⟨cp, by simp only [markBatched, EStateM.run_bind, hrun], hl⟩

/-! ## Intake -/

/-- the phase of a path that has been handed an entry in `state` -/
def Path.entered (path : Path) (state : RequestState) : Phase :=
  match path with
  | .acceptRequest _ | .runSchedulingCycle => .returned
  | .executeFullPath _ => if state = .queued then .scheduling else .returned
  | .streamSse _ =>
    if isTerminalRequestState state then
      path.failed (.runtimeError s!"request terminated before streaming: {state.value}")
    else if state ≠ .queued then path.failed (.runtimeError s!"unexpected pre-stream state: {state.value}")
    else .scheduling

theorem afterIntake_run (path : Path) (h : ControlPlane.Inv s.controlPlane) {ref : Ref}
    (hr : s.controlPlane.registry.get? r = some ref) (hs : s.controlPlane.overview.status r = some st) :
    perform path (afterIntake path ref) s = (s, path.entered st.state) := by
  obtain ⟨e, hderef, hst⟩ := h.deref hr hs
  have hget := onControlPlane_ok (s := s) hderef
  rw [← hst]
  cases path with
  | acceptRequest submit =>
    have hrun : EStateM.run (afterIntake (.acceptRequest submit) ref) s = .ok .returned s := by
      simp only [afterIntake, EStateM.run_bind, hget, EStateM.run_pure]
    exact perform_ok hrun
  | runSchedulingCycle =>
    have hrun : EStateM.run (afterIntake .runSchedulingCycle ref) s = .ok .returned s := by
      simp only [afterIntake, EStateM.run_bind, hget, EStateM.run_pure]
    exact perform_ok hrun
  | executeFullPath submit =>
    simp only [Path.entered]
    split_ifs with hqueued
    · exact perform_ok (by simp only [afterIntake, EStateM.run_bind, hget, if_pos hqueued, EStateM.run_pure])
    · exact perform_ok (by simp only [afterIntake, EStateM.run_bind, hget, if_neg hqueued, EStateM.run_pure])
  | streamSse submit =>
    simp only [Path.entered]
    split_ifs with hterminal hqueued
    · exact perform_error (by simp only [afterIntake, EStateM.run_bind, hget, if_pos hterminal, run_throw])
    · exact perform_error (by
        simp only [afterIntake, EStateM.run_bind, hget, if_neg hterminal, if_pos hqueued, run_throw])
    · exact perform_ok (by
        simp only [afterIntake, EStateM.run_bind, hget, if_neg hterminal, if_neg hqueued, EStateM.run_pure])

theorem admitted_status_self (q : ControlPlane.QueueCapacityConfig) (o : Overview) (r : UUID)
    (reason : Option FailureReason) (result : Except String AdmissionResult) (now : Time) :
    ∃ st, (o.admitted q r reason result now).status r = some st := by
  cases result with
  | error message => exact ⟨_, Overview.put_status_self o r _⟩
  | ok a =>
    simp only [Overview.admitted]
    split_ifs
    · exact ⟨_, Overview.put_status_self _ r _⟩
    · exact ⟨_, Overview.put_status_self _ r _⟩
    · exact ⟨_, Overview.put_status_self o r _⟩

/-- the admission checks have answered for a VALIDATED request that does not wait -/
theorem finishIntake_run (cfg : Settings) (path : Path) (h : ControlPlane.Inv s.controlPlane) {ref : Ref}
    (hr : s.controlPlane.registry.get? r = some ref)
    (hs : s.controlPlane.overview.status r = some ⟨.validated, none⟩) (hw : ¬s.controlPlane.overview.waits r)
    (result : Except String AdmissionResult) (now : Time) :
    ∃ cp st, perform path (finishIntake cfg path r ref result now) s =
        ({ s with controlPlane := cp }, path.entered st.state) ∧
      Leaves s.controlPlane cp (s.controlPlane.overview.admitted cfg.controlPlane.queue r none result now) ∧
      cp.overview.status r = some st := by
  obtain ⟨cp, hrun, hl⟩ := ControlPlane.processFromAdmission_spec cfg.controlPlane h hr hs rfl hw result now
  obtain ⟨st, hst⟩ :=
    admitted_status_self cfg.controlPlane.queue s.controlPlane.overview r none result now
  have hst' : cp.overview.status r = some st := by
    rw [hl.overview]
    exact hst
  have hafter := afterIntake_run (s := { s with controlPlane := cp }) path hl.inv
    (hl.registry ▸ hr : cp.registry.get? r = some ref) hst'
  refine ⟨cp, st, ?_, hl, hst'⟩
  rw [← hafter]
  simp only [perform, finishIntake, EStateM.run_bind, onControlPlane_ok hrun]

/-- up to the admission checks of a request that is not registered -/
theorem startIntake_run (cfg : Settings) (path : Path) (h : ControlPlane.Inv s.controlPlane) (submit : SubmitRequest)
    (now : Time) (hfresh : s.controlPlane.overview.status submit.inferenceRequest.requestId = none) :
    let o := s.controlPlane.overview.processTimeouts cfg.controlPlane.queue now
    (∃ cp, perform path (startIntake cfg path submit now) s =
        ({ s with controlPlane := cp }, path.notFound submit.inferenceRequest.requestId) ∧
      cfg.controlPlane.registryMaxEntries ≤ s.controlPlane.overview.registered ∧ Leaves s.controlPlane cp o) ∨
    ∃ ref cp, perform path (startIntake cfg path submit now) s = ({ s with controlPlane := cp }, .admitting ref) ∧
      ControlPlane.Inv cp ∧ cp.registry = s.controlPlane.registry.set submit.inferenceRequest.requestId ref ∧
      s.controlPlane.overview.registered < cfg.controlPlane.registryMaxEntries ∧
      cp.overview = o.register submit.inferenceRequest.requestId ⟨.validated, none⟩ := by
  rcases ControlPlane.processUntilAdmission_spec cfg.controlPlane h submit now hfresh with
    ⟨cp, hrun, hfull, hl⟩ | ⟨ref, cp, hrun, hinv, hreg, hroom, hov⟩
  · refine Or.inl ⟨cp, perform_error ?_, hfull, hl⟩
    simp only [startIntake, EStateM.run_bind, onControlPlane_error hrun]
  · refine Or.inr ⟨ref, cp, perform_ok ?_, hinv, hreg, hroom, hov⟩
    simp only [startIntake, EStateM.run_bind, onControlPlane_ok hrun, EStateM.run_pure]

/-! ## The end of a full path -/

/-- what `_finalize_request` makes of a request in status `st` -/
def finalized (path : Path) (o : Overview) (r : UUID) (st : Status) (result : SchedulingResult) : Overview × Phase :=
  match verdict result r with
  | .rejected _ => (o.put r ⟨.failed, some .adapterError⟩, .returned)
  | .notSelected =>
    if r ∈ result.skippedRequestIds then (o, .returned) else (o.put r ⟨.failed, some .internalError⟩, .returned)
  | .notDispatched _ _ =>
    if isAllowedTransition st.state .scheduled then (o.put r ⟨.failed, some .adapterError⟩, .returned)
    else (o, path.failed (.controlPlane (.invalidTransition r st.state .scheduled)))
  | .dispatched _ dispatch =>
    if isAllowedTransition st.state .scheduled then (o.put r ⟨.submitted, st.reason⟩, .executing dispatch.backendId)
    else (o, path.failed (.controlPlane (.invalidTransition r st.state .scheduled)))

theorem finalizeRequest_leads (path : Path) (h : ControlPlane.Inv s.controlPlane)
    (hs : s.controlPlane.overview.status r = some st) (result : SchedulingResult) (now : Time) :
    Leads path (finalizeRequest r result now) s (finalized path s.controlPlane.overview r st result) := by
  unfold finalized
  cases hv : verdict result r with
  | rejected reason =>
    obtain ⟨cp, hrun, hl⟩ := markFailed_run h hs .adapterError reason now none
    exact ⟨cp, perform_ok (by simp only [finalizeRequest, hv, EStateM.run_bind, hrun, EStateM.run_pure]), hl⟩
  | notSelected =>
    dsimp only
    split_ifs with hskipped
    · obtain ⟨ref, e, hr, -⟩ := h.entry hs
      have hget := onControlPlane_ok (s := s) (ControlPlane.getRef_run hr)
      refine ⟨s.controlPlane, perform_ok ?_, h, rfl, rfl⟩
      simp only [finalizeRequest, hv, if_pos hskipped, EStateM.run_bind, hget, EStateM.run_pure]
    · obtain ⟨cp, hrun, hl⟩ := markFailed_run h hs .internalError "scheduler_did_not_select_request" now none
      refine ⟨cp, perform_ok ?_, hl⟩
      simp only [finalizeRequest, hv, if_neg hskipped, EStateM.run_bind, hrun, EStateM.run_pure]
  | notDispatched placement reason =>
    obtain ⟨hok, herr⟩ := markBatched_run h hs placement now
    dsimp only
    split_ifs with hallowed
    · obtain ⟨cp, hrun, hl⟩ := hok hallowed
      have hs' : cp.overview.status r = some ⟨.batched, st.reason⟩ := by
        rw [hl.overview]
        exact Overview.put_status_self _ _ _
      obtain ⟨cp', hrun', hl'⟩ := markFailed_run (s := { s with controlPlane := cp }) hl.inv hs'
          .adapterError reason now
        placement.batchId
      refine ⟨cp', perform_ok ?_, hl'.inv, hl'.registry.trans hl.registry, ?_⟩
      · simp only [finalizeRequest, hv, EStateM.run_bind, hrun, hrun', EStateM.run_pure]
      · rw [hl'.overview, hl.overview, Overview.put_put]
    · obtain ⟨cp, hrun, hl⟩ := herr (by simpa using hallowed)
      exact ⟨cp, perform_error (by simp only [finalizeRequest, hv, EStateM.run_bind, hrun]), hl⟩
  | dispatched placement dispatch =>
    obtain ⟨hok, herr⟩ := markBatched_run h hs placement now
    dsimp only
    split_ifs with hallowed
    · obtain ⟨cp, hrun, hl⟩ := hok hallowed
      obtain ⟨cp', hrun', hl'⟩ := transition_again hl .submitted rfl now none dispatch.backendId
      refine ⟨cp', perform_ok ?_, hl'⟩
      simp only [finalizeRequest, hv, EStateM.run_bind, hrun, hrun', EStateM.run_pure]
    · obtain ⟨cp, hrun, hl⟩ := herr (by simpa using hallowed)
      exact ⟨cp, perform_error (by simp only [finalizeRequest, hv, EStateM.run_bind, hrun]), hl⟩

theorem finalizeRequest_unknown (path : Path) (h : ControlPlane.Inv s.controlPlane)
    (hr : s.controlPlane.registry.get? r = none) (result : SchedulingResult) (now : Time) :
    Leads path (finalizeRequest r result now) s (s.controlPlane.overview, path.notFound r) := by
  refine ⟨s.controlPlane, perform_error ?_, h, rfl, rfl⟩
  have hget := onControlPlane_error (s := s) (ControlPlane.getRef_unknown hr)
  have htrans := transition_unknown hr .scheduled now
  unfold finalizeRequest
  cases verdict result r with
  | rejected reason => simp only [EStateM.run_bind, markFailed_unknown hr]
  | notSelected =>
    dsimp only
    split_ifs
    · simp only [EStateM.run_bind, hget]
    · simp only [EStateM.run_bind, markFailed_unknown hr]
  | notDispatched placement reason => simp only [markBatched, EStateM.run_bind, htrans]
  | dispatched placement dispatch => simp only [markBatched, EStateM.run_bind, htrans]

/-! ## The start of a stream -/

def opened (path : Path) (o : Overview) (r : UUID) (st : Status) (result : SchedulingResult) (view : AdapterView) :
    Overview × Phase :=
  match verdict result r with
  | .rejected reason => (o.put r ⟨.failed, some .adapterError⟩, path.failed (.runtimeError reason))
  | .notSelected =>
    (o.put r ⟨.failed, some .internalError⟩, path.failed (.runtimeError "scheduler_did_not_select_request"))
  | .notDispatched _ reason =>
    if isAllowedTransition st.state .scheduled then
      (o.put r ⟨.failed, some .adapterError⟩, path.failed (.runtimeError reason))
    else (o, path.failed (.controlPlane (.invalidTransition r st.state .scheduled)))
  | .dispatched _ dispatch =>
    if isAllowedTransition st.state .scheduled then
      (o.put r ⟨.streaming, st.reason⟩,
        if view.hasBackend dispatch.backendId then .streaming dispatch.backendId
        else path.failed (.runtimeError s!"backend not found: {dispatch.backendId}"))
    else (o, path.failed (.controlPlane (.invalidTransition r st.state .scheduled)))

theorem openStream_leads (path : Path) (h : ControlPlane.Inv s.controlPlane)
    (hs : s.controlPlane.overview.status r = some st) (result : SchedulingResult) (view : AdapterView) (now : Time) :
    Leads path (openStream r result view now) s (opened path s.controlPlane.overview r st result view) := by
  unfold opened
  cases hv : verdict result r with
  | rejected reason =>
    obtain ⟨cp, hrun, hl⟩ := markFailed_run h hs .adapterError reason now none
    exact ⟨cp, perform_error (by simp only [openStream, hv, EStateM.run_bind, hrun, run_throw]), hl⟩
  | notSelected =>
    obtain ⟨cp, hrun, hl⟩ := markFailed_run h hs .internalError "scheduler_did_not_select_request" now none
    exact ⟨cp, perform_error (by simp only [openStream, hv, EStateM.run_bind, hrun, run_throw]), hl⟩
  | notDispatched placement reason =>
    obtain ⟨hok, herr⟩ := markBatched_run h hs placement now
    dsimp only
    split_ifs with hallowed
    · obtain ⟨cp, hrun, hl⟩ := hok hallowed
      have hs' : cp.overview.status r = some ⟨.batched, st.reason⟩ := by
        rw [hl.overview]
        exact Overview.put_status_self _ _ _
      obtain ⟨cp', hrun', hl'⟩ := markFailed_run (s := { s with controlPlane := cp }) hl.inv hs'
          .adapterError reason now
        placement.batchId
      refine ⟨cp', perform_error ?_, hl'.inv, hl'.registry.trans hl.registry, ?_⟩
      · simp only [openStream, hv, EStateM.run_bind, hrun, hrun', run_throw]
      · rw [hl'.overview, hl.overview, Overview.put_put]
    · obtain ⟨cp, hrun, hl⟩ := herr (by simpa using hallowed)
      exact ⟨cp, perform_error (by simp only [openStream, hv, EStateM.run_bind, hrun]), hl⟩
  | dispatched placement dispatch =>
    obtain ⟨hok, herr⟩ := markBatched_run h hs placement now
    dsimp only
    split_ifs with hallowed hbackend
    · obtain ⟨cp, hrun, hl⟩ := hok hallowed
      obtain ⟨cp₁, hrun₁, hl₁⟩ := transition_again hl .submitted rfl now none dispatch.backendId
      obtain ⟨cp₂, hrun₂, hl₂⟩ := transition_again hl₁ .streaming rfl now none none
      refine ⟨cp₂, perform_ok ?_, hl₂⟩
      simp only [openStream, hv, EStateM.run_bind, hrun, hrun₁, hrun₂, if_pos hbackend, EStateM.run_pure]
    · obtain ⟨cp, hrun, hl⟩ := hok hallowed
      obtain ⟨cp₁, hrun₁, hl₁⟩ := transition_again hl .submitted rfl now none dispatch.backendId
      obtain ⟨cp₂, hrun₂, hl₂⟩ := transition_again hl₁ .streaming rfl now none none
      refine ⟨cp₂, perform_error ?_, hl₂⟩
      simp only [openStream, hv, EStateM.run_bind, hrun, hrun₁, hrun₂, if_neg hbackend, run_throw]
    · obtain ⟨cp, hrun, hl⟩ := herr (by simpa using hallowed)
      exact ⟨cp, perform_error (by simp only [openStream, hv, EStateM.run_bind, hrun]), hl⟩

theorem openStream_unknown (path : Path) (h : ControlPlane.Inv s.controlPlane)
    (hr : s.controlPlane.registry.get? r = none) (result : SchedulingResult) (view : AdapterView) (now : Time) :
    Leads path (openStream r result view now) s (s.controlPlane.overview, path.notFound r) := by
  refine ⟨s.controlPlane, perform_error ?_, h, rfl, rfl⟩
  have htrans := transition_unknown hr .scheduled now
  unfold openStream
  cases verdict result r with
  | rejected reason => simp only [EStateM.run_bind, markFailed_unknown hr]
  | notSelected => simp only [EStateM.run_bind, markFailed_unknown hr]
  | notDispatched placement reason => simp only [markBatched, EStateM.run_bind, htrans]
  | dispatched placement dispatch => simp only [markBatched, EStateM.run_bind, htrans]

/-! ## From dispatch on -/

/-- what the request's path does with a cycle's result, once dispatch has ended -/
def concluded (path : Path) (o : Overview) (result : SchedulingResult) (view : AdapterView) : Overview × Phase :=
  match path with
  | .executeFullPath submit =>
    (o.status submit.inferenceRequest.requestId).elim (o, path.notFound submit.inferenceRequest.requestId) fun st =>
      finalized path o submit.inferenceRequest.requestId st result
  | .streamSse submit =>
    (o.status submit.inferenceRequest.requestId).elim (o, path.notFound submit.inferenceRequest.requestId) fun st =>
      opened path o submit.inferenceRequest.requestId st result view
  | .acceptRequest _ | .runSchedulingCycle => (o, .returned)

theorem afterDispatch_leads (path : Path) (h : ControlPlane.Inv s.controlPlane) (result : SchedulingResult)
    (view : AdapterView) (now : Time) :
    Leads path (afterDispatch path result view now) s (concluded path s.controlPlane.overview result view) := by
  cases path with
  | executeFullPath submit =>
    simp only [concluded, afterDispatch]
    cases hs : s.controlPlane.overview.status submit.inferenceRequest.requestId with
    | none => exact finalizeRequest_unknown _ h ((ControlPlane.overview_status_eq_none h).1 hs) result now
    | some st => exact finalizeRequest_leads _ h hs result now
  | streamSse submit =>
    simp only [concluded, afterDispatch]
    cases hs : s.controlPlane.overview.status submit.inferenceRequest.requestId with
    | none => exact openStream_unknown _ h ((ControlPlane.overview_status_eq_none h).1 hs) result view now
    | some st => exact openStream_leads _ h hs result view now
  | acceptRequest submit => exact ⟨s.controlPlane, rfl, h, rfl, rfl⟩
  | runSchedulingCycle => exact ⟨s.controlPlane, rfl, h, rfl, rfl⟩

/-! ## Execution -/

/-- the states a request completes or is cancelled from -/
def running (state : RequestState) : Bool := state = .submitted ∨ state = .streaming

/-- the engine when a request's slot has been released -/
def released (e : ContinuousBatchEngine) (r : UUID) (now : Time) : ContinuousBatchEngine :=
  (Batching.completeRequest r now).final e

theorem completeRequest_run (h : ControlPlane.Inv s.controlPlane) (he : Batching.Inv cfg.scheduler.batch s.engine)
    (r : UUID) (completion : Option InferenceCompletionRecord) (now : Time) :
    (∀ st, s.controlPlane.overview.status r = some st → running st.state = true → ∃ cp,
      EStateM.run (completeRequest r completion now) s =
        .ok () { s with controlPlane := cp, engine := released s.engine r now } ∧
      Leaves s.controlPlane cp (s.controlPlane.overview.put r ⟨.completed, st.reason⟩)) ∧
    ((∀ st, s.controlPlane.overview.status r = some st → running st.state = false) → ∃ err,
      EStateM.run (completeRequest r completion now) s = .error err { s with engine := released s.engine r now }) := by
  have hengine : ∃ res, EStateM.run (Batching.completeRequest r now) s.engine = .ok res (released s.engine r now) := by
    rcases Batching.retireRequest_cases he r .completed "request_completed" now with ⟨-, res, hrun⟩ |
      ⟨id, b, set, m, res, events, -, hrun⟩
    · exact ⟨res, hrun.trans (by rw [released, Batching.completeRequest, Batching.EngineM.final_ok hrun])⟩
    · exact ⟨res, hrun.trans (by rw [released, Batching.completeRequest, Batching.EngineM.final_ok hrun])⟩
  obtain ⟨res, hengine⟩ := hengine
  have hrelease := onEngine_ok (s := s) hengine
  set s₁ : PlatformStack := { s with engine := released s.engine r now } with hs₁
  constructor
  · intro st hs hst
    obtain ⟨hok, -⟩ := ControlPlane.completeRequest_spec h hs completion now
    obtain ⟨ref, cp, hrun, hl⟩ := hok (by simpa [running] using hst)
    refine ⟨cp, ?_, hl⟩
    simp only [completeRequest, EStateM.run_bind, hrelease, onControlPlane_ok (s := s₁) hrun, EStateM.run_pure]
    rfl
  · intro hno
    cases hs : s.controlPlane.overview.status r with
    | none =>
      have hrun := ControlPlane.completeRequest_unknown ((ControlPlane.overview_status_eq_none h).1 hs) completion now
      refine ⟨.controlPlane (.requestNotFound r), ?_⟩
      simp only [completeRequest, EStateM.run_bind, hrelease, onControlPlane_error (s := s₁) hrun]
      rfl
    | some st =>
      obtain ⟨-, herr⟩ := ControlPlane.completeRequest_spec h hs completion now
      have hrun := herr (by simpa [running] using hno st hs)
      refine ⟨.controlPlane (.invalidTransition r st.state .completed), ?_⟩
      simp only [completeRequest, EStateM.run_bind, hrelease, onControlPlane_error (s := s₁) hrun]
      rfl

theorem orRaise_run {α : Type} (result : Except String α) (s : PlatformStack) :
    EStateM.run (orRaise result) s =
      match result with
      | .ok a => .ok a s
      | .error message => .error (.raised message) s := by
  cases result <;> rfl

/-- the phases a path ends in, whether it returns or fails -/
def Path.Finishes (path : Path) (phase : Phase) : Prop := phase = .returned ∨ ∃ err, phase = path.failed err

/-- the phase once the stream's result has been stored, or storing it has raised -/
def Path.stored (path : Path) : Except String Unit → Phase
  | .ok _ => .returned
  | .error message => path.failed (.raised message)

theorem Path.finishes_stored (path : Path) (persisted : Except String Unit) :
    path.Finishes (path.stored persisted) := by
  cases persisted with
  | ok u => exact Or.inl rfl
  | error message => exact Or.inr ⟨_, rfl⟩

theorem handleCancel_run (path : Path) (h : ControlPlane.Inv s.controlPlane) (r : UUID)
    (persisted : Except String Unit) (now : Time) :
    ∃ phase, path.Finishes phase ∧
      (∀ st, s.controlPlane.overview.status r = some st → running st.state = true → ∃ cp,
        perform path (handleCancel r (.ok ()) persisted now) s = ({ s with controlPlane := cp }, phase) ∧
        Leaves s.controlPlane cp (s.controlPlane.overview.put r ⟨.cancelled, st.reason⟩)) ∧
      ((∀ st, s.controlPlane.overview.status r = some st → running st.state = false) →
        perform path (handleCancel r (.ok ()) persisted now) s = (s, phase)) := by
  have hafter : ∀ {ref cp}, EStateM.run (ControlPlane.cancel r now) s.controlPlane = .ok ref cp →
      perform path (handleCancel r (.ok ()) persisted now) s =
        ({ s with controlPlane := cp }, path.stored persisted) := by
    intro ref cp hrun
    cases persisted with
    | ok u =>
      exact perform_ok (by
        simp only [handleCancel, EStateM.run_bind, orRaise_run, onControlPlane_ok hrun, EStateM.run_pure, Path.stored])
    | error message =>
      exact perform_error (by simp only [handleCancel, EStateM.run_bind, orRaise_run, onControlPlane_ok hrun])
  cases hs : s.controlPlane.overview.status r with
  | none =>
    have hrun := ControlPlane.cancel_unknown ((ControlPlane.overview_status_eq_none h).1 hs) now
    have herr : EStateM.run (handleCancel r (.ok ()) persisted now) s =
        .error (.controlPlane (.requestNotFound r)) s := by
      simp only [handleCancel, EStateM.run_bind, orRaise_run, onControlPlane_error hrun]
    exact ⟨path.notFound r, Or.inr ⟨_, rfl⟩, by simp, fun _ => perform_error herr⟩
  | some st =>
    obtain ⟨hok, hno⟩ := ControlPlane.cancel_spec h hs now
    refine ⟨_, path.finishes_stored persisted, fun st' hst' hrunning => ?_, fun hnot => ?_⟩
    · cases hst'
      obtain ⟨ref, cp, hrun, hl⟩ := hok (by simpa [running] using hrunning)
      exact ⟨cp, hafter hrun, hl⟩
    · obtain ⟨ref, hrun⟩ := hno (by simpa [running] using hnot st rfl)
      exact hafter hrun

/-- the failure of a stream is stored unless the request is FAILED or CANCELLED already -/
theorem persistStreamFailure_run (path : Path) (h : ControlPlane.Inv s.controlPlane) (r : UUID) (err : PlatformError)
    (now : Time) :
    (∀ st, s.controlPlane.overview.status r = some st → st.state ≠ .failed → st.state ≠ .cancelled → ∃ cp,
      perform path (persistStreamFailure r err now) s = ({ s with controlPlane := cp }, .returned) ∧
      Leaves s.controlPlane cp (s.controlPlane.overview.put r ⟨.failed, some .adapterError⟩)) ∧
    ((∀ st, s.controlPlane.overview.status r = some st → st.state = .failed ∨ st.state = .cancelled) →
      ∃ phase, path.Finishes phase ∧ perform path (persistStreamFailure r err now) s = (s, phase)) := by
  cases hs : s.controlPlane.overview.status r with
  | none =>
    have hrun : EStateM.run (do ControlPlane.derefEntry (← ControlPlane.getRef r)) s.controlPlane =
        .error (.requestNotFound r) s.controlPlane := by
      simp only [EStateM.run_bind, ControlPlane.getRef_unknown ((ControlPlane.overview_status_eq_none h).1 hs)]
    have herr : EStateM.run (persistStreamFailure r err now) s = .error (.controlPlane (.requestNotFound r)) s := by
      simp only [persistStreamFailure, EStateM.run_bind, onControlPlane_error hrun]
    exact ⟨by simp, fun _ => ⟨path.notFound r, Or.inr ⟨_, rfl⟩, perform_error herr⟩⟩
  | some st =>
    obtain ⟨ref, e, hr, he, -, rfl⟩ := h.entry hs
    have hrun : EStateM.run (do ControlPlane.derefEntry (← ControlPlane.getRef r)) s.controlPlane =
        .ok e s.controlPlane := by
      simp only [EStateM.run_bind, ControlPlane.getRef_run hr, ControlPlane.derefEntry_run he]
    have hget := onControlPlane_ok (s := s) hrun
    constructor
    · intro st' hst' hfailed hcancelled
      cases hst'
      have hneg : ¬(e.state = .failed ∨ e.state = .cancelled) := not_or.2 ⟨hfailed, hcancelled⟩
      obtain ⟨cp, hfail, hl⟩ := markFailed_run h hs .adapterError err.message now none
      refine ⟨cp, perform_ok ?_, hl⟩
      simp only [persistStreamFailure, EStateM.run_bind, hget, if_neg hneg, hfail, EStateM.run_pure]
    · intro hended
      have hpos : e.state = .failed ∨ e.state = .cancelled := hended _ rfl
      refine ⟨.returned, Or.inl rfl, perform_ok ?_⟩
      simp only [persistStreamFailure, EStateM.run_bind, hget, if_pos hpos, EStateM.run_pure]

end InferencePlatform.Gateway
