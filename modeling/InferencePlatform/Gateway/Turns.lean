/-
The platform as a transition system.

`Turn` lists what a call can do when it is resumed, branch by branch: what the control plane comes to show, what becomes
of the engine and of the dispatch service, and the phase the call ends in. `Begins` does so for a new call, and `Steps`
for a step of the platform. Results about runs are inductions over them; they do not look at the request paths again.
-/
import InferencePlatform.Batching.Placement
import InferencePlatform.Gateway.Spec

namespace InferencePlatform.Gateway

open InferencePlatform.Core (Dict run Meets)
open ControlPlane (ControlPlaneApplication Ref AdmissionResult Overview Status Leaves QueueCapacityConfig
  isAllowedTransition)
open Batching (ContinuousBatchEngine BatchPlacementDecision Placed)
open Dispatch (BatchDispatchService BatchDispatchResult SubmitTask Attempt AdapterOutcome)
open Scheduling (SchedulingResult CycleState runCycle)

variable {cfg : Settings} {s s' : PlatformStack} {p : Platform} {r : UUID} {st : Status} {path : Path} {now : Time}
  {cp cp' : ControlPlaneApplication} {o o' : Overview}

/-! ## The parts of a step -/

/-- the control plane comes to show `o`, and every id stays where it is registered -/
structure Arrives (cp cp' : ControlPlaneApplication) (o : Overview) : Prop where
  inv : ControlPlane.Inv cp'
  registry : ∀ {r ref}, cp.registry.get? r = some ref → cp'.registry.get? r = some ref
  overview : cp'.overview = o

theorem arrives_of_leaves (h : Leaves cp cp' o) : Arrives cp cp' o := by
  refine ⟨h.inv, fun hr => ?_, h.overview⟩
  rw [h.registry]
  exact hr

/-- a scheduling cycle of the stack -/
def PlatformStack.cycled (cfg : Settings) (inj : FailureInjectionConfig) (now : Time) (s : PlatformStack) :
    PlatformStack × SchedulingResult :=
  let c := runCycle cfg.scheduler cfg.controlPlane.queue inj now ⟨s.controlPlane, s.policy, s.engine⟩
  ({ s with controlPlane := c.1.controlPlane, policy := c.1.policy, engine := c.1.engine }, c.2)

/-- a step of a call inside `submit_pending_batches`: what it leaves of the service, and the task -/
inductive Submits (cfg : Settings) (s : PlatformStack) :
    Phase → Event → AdapterView → SchedulingResult → BatchDispatchService → SubmitTask → Prop
  /-- without dispatch the call goes on at once -/
  | disabled {result : SchedulingResult} {view : AdapterView} (h : cfg.dispatchEnabled = false) :
    Submits cfg s (.scheduled result) (.dispatch view) view result s.dispatch ⟨[], result.dispatchResults, none⟩
  | start {result : SchedulingResult} {view : AdapterView} (h : cfg.dispatchEnabled = true) :
    Submits cfg s (.scheduled result) (.dispatch view) view result
      (Dispatch.submitPending cfg.dispatch view.route s.engine s.dispatch).1
      (Dispatch.submitPending cfg.dispatch view.route s.engine s.dispatch).2
  | resume {result : SchedulingResult} {task : SubmitTask} {a : Attempt} {view : AdapterView} {outcome : AdapterOutcome}
    (ha : task.attempt = some a) :
    Submits cfg s (.submitting result task) (.adapter view outcome) view result
      (task.resumeWith cfg.dispatch view.route s.engine s.dispatch a outcome).1
      (task.resumeWith cfg.dispatch view.route s.engine s.dispatch a outcome).2

/-- the phases an execution ends in, and what ends it -/
inductive Ends : Phase → Event → Phase → Prop
  | executing {backendId : String} {completion : Option InferenceCompletionRecord} :
    Ends (.executing backendId) (.completion (.ok completion)) .returned
  | streaming {backendId : String} : Ends (.streaming backendId) .streamEnd .persisting

/-- the call goes on and leaves everything else as it is -/
inductive Rests (path : Path) : Phase → Event → Phase → Prop
  | completion {backendId message : String} :
    Rests path (.executing backendId) (.completion (.error message)) (path.failed (.raised message))
  | streamError {backendId message : String} :
    Rests path (.streaming backendId) (.streamError message) (path.failed (.raised message))
  | cancelStream {backendId : String} : Rests path (.streaming backendId) .cancelStream .cancelling
  | cancelled {outcome persisted : Except String Unit} {phase : Phase} (h : path.Finishes phase) :
    Rests path .cancelling (.cancelled outcome persisted) phase
  | persistResult {outcome : Except String Unit} {phase : Phase} (h : path.Finishes phase) :
    Rests path .persisting (.persistResult outcome) phase
  | persistFailure {err : PlatformError} {phase : Phase} (h : path.Finishes phase) :
    Rests path (.streamFailed err) .persistFailure phase

/-- what a call can do when it is resumed -/
inductive Turn (cfg : Settings) (s : PlatformStack) (path : Path) (now : Time) :
    Phase → Event → PlatformStack → Phase → Prop
  | admitted {r : UUID} {ref : Ref} {result : Except String AdmissionResult}
    {cp : ControlPlaneApplication} {st : Status} (hr : path.requestId? = some r) (hs : cp.overview.status r = some st)
    (hcp : Arrives s.controlPlane cp
      (s.controlPlane.overview.admitted cfg.controlPlane.queue r none result now)) :
    Turn cfg s path now (.admitting ref) (.admission result) { s with controlPlane := cp } (path.entered st.state)
  | cycled {inj : FailureInjectionConfig} :
    Turn cfg s path now .scheduling (.cycle inj) (s.cycled cfg inj now).1 (.scheduled (s.cycled cfg inj now).2)
  | submitting {phase : Phase} {event : Event} {view : AdapterView} {result : SchedulingResult}
    {svc : BatchDispatchService} {task : SubmitTask} {a : Attempt}
    (hsub : Submits cfg s phase event view result svc task)
    (ha : task.attempt = some a) :
    Turn cfg s path now phase event { s with dispatch := svc } (.submitting result task)
  | concluded {phase : Phase} {event : Event} {view : AdapterView} {result : SchedulingResult}
    {svc : BatchDispatchService} {task : SubmitTask} {cp : ControlPlaneApplication}
    (hsub : Submits cfg s phase event view result svc task) (ha : task.attempt = none)
    (hcp : Arrives s.controlPlane cp
      (concluded path s.controlPlane.overview { result with dispatchResults := task.results } view).1) :
    Turn cfg s path now phase event { s with dispatch := svc, controlPlane := cp }
      (concluded path s.controlPlane.overview { result with dispatchResults := task.results } view).2
  | completed {phase phase' : Phase} {event : Event} {r : UUID} {st : Status} {cp : ControlPlaneApplication}
    (hends : Ends phase event phase') (hr : path.requestId? = some r) (hs : s.controlPlane.overview.status r = some st)
    (hst : running st.state = true)
    (hcp : Arrives s.controlPlane cp (s.controlPlane.overview.put r ⟨.completed, st.reason⟩)) :
    Turn cfg s path now phase event { s with controlPlane := cp, engine := released s.engine r now } phase'
  /-- the slot is released, but the request is in no state to complete from -/
  | refused {phase phase' : Phase} {event : Event} {r : UUID} {err : PlatformError} (hends : Ends phase event phase')
    (hr : path.requestId? = some r)
    (hno : ∀ st, s.controlPlane.overview.status r = some st → running st.state = false) :
    Turn cfg s path now phase event { s with engine := released s.engine r now } (path.failed err)
  | cancelled {persisted : Except String Unit} {phase : Phase} {r : UUID} {st : Status} {cp : ControlPlaneApplication}
    (hr : path.requestId? = some r) (hs : s.controlPlane.overview.status r = some st) (hst : running st.state = true)
    (hfinishes : path.Finishes phase)
    (hcp : Arrives s.controlPlane cp (s.controlPlane.overview.put r ⟨.cancelled, st.reason⟩)) :
    Turn cfg s path now .cancelling (.cancelled (.ok ()) persisted) { s with controlPlane := cp } phase
  | failureStored {err : PlatformError} {r : UUID} {st : Status} {cp : ControlPlaneApplication}
    (hr : path.requestId? = some r) (hs : s.controlPlane.overview.status r = some st) (hfailed : st.state ≠ .failed)
    (hcancelled : st.state ≠ .cancelled)
    (hcp : Arrives s.controlPlane cp (s.controlPlane.overview.put r ⟨.failed, some .adapterError⟩)) :
    Turn cfg s path now (.streamFailed err) .persistFailure { s with controlPlane := cp } .returned
  | rests {phase phase' : Phase} {event : Event} (h : Rests path phase event phase') :
    Turn cfg s path now phase event s phase'

/-- what a new call can do up to its first `await` -/
inductive Begins (cfg : Settings) (s : PlatformStack) (now : Time) : Path → PlatformStack → Phase → Prop
  /-- the registry is full -/
  | refused {path : Path} {r : UUID} {cp : ControlPlaneApplication} (hr : path.requestId? = some r)
    (hnew : s.controlPlane.overview.status r = none)
    (hfull : cfg.controlPlane.registryMaxEntries ≤ s.controlPlane.overview.registered)
    (hcp : Arrives s.controlPlane cp (s.controlPlane.overview.processTimeouts cfg.controlPlane.queue now)) :
    Begins cfg s now path { s with controlPlane := cp } (path.notFound r)
  | admits {path : Path} {r : UUID} {ref : Ref} {cp : ControlPlaneApplication} (hr : path.requestId? = some r)
    (hnew : s.controlPlane.overview.status r = none) (href : cp.registry.get? r = some ref)
    (hcp : Arrives s.controlPlane cp
      ((s.controlPlane.overview.processTimeouts cfg.controlPlane.queue now).register r ⟨.validated, none⟩)) :
    Begins cfg s now path { s with controlPlane := cp } (.admitting ref)
  /-- a stream of a request that has been through the intake -/
  | found {submit : SubmitRequest} {st : Status}
    (hs : s.controlPlane.overview.status submit.inferenceRequest.requestId = some st) (hst : retakes st.state = false) :
    Begins cfg s now (.streamSse submit) s ((Path.streamSse submit).entered st.state)
  | cycle : Begins cfg s now .runSchedulingCycle s .scheduling

/-- what a step of the platform can do -/
inductive Platform.Steps (cfg : Settings) (p : Platform) : PlatformOp → Platform → Prop
  | call {path : Path} {now : Time} {s : PlatformStack} {phase : Phase}
    (hbegins : Begins cfg p.stack now path s phase) :
    Steps cfg p (.call path now) { stack := s, calls := p.calls ++ [⟨path, phase⟩] }
  | resume {i : ℕ} {call : Call} {event : Event} {now : Time} {s : PlatformStack} {phase : Phase}
    (hcall : p.calls[i]? = some call) (hturn : Turn cfg p.stack call.path now call.phase event s phase) :
    Steps cfg p (.resume i event now) { stack := s, calls := p.calls.set i { call with phase } }
  /-- the call does not wait for the event -/
  | idle {i : ℕ} {event : Event} {now : Time} (hidle : p.resumption cfg i event now = none) :
    Steps cfg p (.resume i event now) p
  | tick {inj : FailureInjectionConfig} {now : Time} :
    Steps cfg p (.tick inj now) { p with stack := (p.stack.cycled cfg inj now).1 }
  | processTimeouts {now : Time} {cp : ControlPlaneApplication}
    (hcp : Arrives p.stack.controlPlane cp (p.stack.controlPlane.overview.processTimeouts cfg.controlPlane.queue now)) :
    Steps cfg p (.processTimeouts now) { p with stack := { p.stack with controlPlane := cp } }

/-! ## Every step is one of these -/

theorem turn_afterSubmit (h : ControlPlane.Inv s.controlPlane) {phase : Phase} {event : Event} {view : AdapterView}
    {result : SchedulingResult} {svc : BatchDispatchService} {task : SubmitTask}
    (hsub : Submits cfg s phase event view result svc task) :
    let after := perform path (afterSubmit path result view now task) { s with dispatch := svc }
    Turn cfg s path now phase event after.1 after.2 := by
  intro after
  cases ha : task.attempt with
  | some a =>
    have hafter : after = ({ s with dispatch := svc }, .submitting result task) := by
      refine perform_ok ?_
      simp only [afterSubmit, ha, EStateM.run_pure]
    rw [hafter]
    exact Turn.submitting hsub ha
  | none =>
    obtain ⟨cp, hrun, hl⟩ := afterDispatch_leads (s := { s with dispatch := svc }) path h
      { result with dispatchResults := task.results } view now
    have hafter : after = perform path (afterDispatch path { result with dispatchResults := task.results } view now)
        { s with dispatch := svc } := by
      simp only [after, afterSubmit, ha]
    rw [hafter, hrun]
    exact Turn.concluded hsub ha (arrives_of_leaves hl)

theorem turn_startDispatch (h : ControlPlane.Inv s.controlPlane) (path : Path) (result : SchedulingResult)
    (view : AdapterView) (now : Time) :
    let after := perform path (startDispatch cfg path result view now) s
    Turn cfg s path now (.scheduled result) (.dispatch view) after.1 after.2 := by
  cases hd : cfg.dispatchEnabled with
  | false =>
    have hstart : startDispatch cfg path result view now =
        afterSubmit path result view now ⟨[], result.dispatchResults, none⟩ := by
      simp only [startDispatch, hd, Bool.false_eq_true, if_false]
      rfl
    rw [hstart]
    exact turn_afterSubmit h (.disabled hd)
  | true =>
    have hstart : perform path (startDispatch cfg path result view now) s =
        perform path (afterSubmit path result view now
            (Dispatch.submitPending cfg.dispatch view.route s.engine s.dispatch).2)
          { s with dispatch := (Dispatch.submitPending cfg.dispatch view.route s.engine s.dispatch).1 } := by
      simp only [startDispatch, hd, if_true]
      rfl
    rw [hstart]
    exact turn_afterSubmit h (.start hd)

theorem turn_resumeDispatch (h : ControlPlane.Inv s.controlPlane) (path : Path) (result : SchedulingResult)
    {task : SubmitTask} {a : Attempt} (ha : task.attempt = some a) (view : AdapterView) (outcome : AdapterOutcome)
    (now : Time) :
    let after := perform path (resumeDispatch cfg path result task a view outcome now) s
    Turn cfg s path now (.submitting result task) (.adapter view outcome) after.1 after.2 :=
  turn_afterSubmit h (.resume ha)

/-- the end of an execution: the slot is released, and the request completes if it still can -/
theorem turn_completed (h : ControlPlane.Inv s.controlPlane) (he : Batching.Inv cfg.scheduler.batch s.engine)
    {phase phase' : Phase} {event : Event} (hends : Ends phase event phase') (hr : path.requestId? = some r)
    (completion : Option InferenceCompletionRecord) (now : Time) :
    let after := perform path (do
      completeRequest r completion now
      return phase') s
    Turn cfg s path now phase event after.1 after.2 := by
  intro after
  obtain ⟨hok, herr⟩ := completeRequest_run h he r completion now
  by_cases hrunning : ∃ st, s.controlPlane.overview.status r = some st ∧ running st.state = true
  · obtain ⟨st, hs, hst⟩ := hrunning
    obtain ⟨cp, hrun, hl⟩ := hok st hs hst
    have hafter : after = ({ s with controlPlane := cp, engine := released s.engine r now }, phase') :=
      perform_ok (by simp only [EStateM.run_bind, hrun, EStateM.run_pure])
    rw [hafter]
    exact Turn.completed hends hr hs hst (arrives_of_leaves hl)
  · have hno : ∀ st, s.controlPlane.overview.status r = some st → running st.state = false := by
      intro st hs
      by_contra hst
      exact hrunning ⟨st, hs, by simpa using hst⟩
    obtain ⟨err, hrun⟩ := herr hno
    have hafter : after = ({ s with engine := released s.engine r now }, path.failed err) :=
      perform_error (by simp only [EStateM.run_bind, hrun])
    rw [hafter]
    exact Turn.refused hends hr hno

theorem turn_handleCancel (h : ControlPlane.Inv s.controlPlane) (hr : path.requestId? = some r)
    (outcome persisted : Except String Unit) (now : Time) :
    let after := perform path (handleCancel r outcome persisted now) s
    Turn cfg s path now .cancelling (.cancelled outcome persisted) after.1 after.2 := by
  intro after
  cases outcome with
  | error message =>
    have hafter : after = (s, path.failed (.raised message)) :=
      perform_error (by simp only [handleCancel, EStateM.run_bind, orRaise_run])
    rw [hafter]
    exact Turn.rests (.cancelled (Or.inr ⟨_, rfl⟩))
  | ok u =>
    obtain ⟨phase, hfinishes, hok, hno⟩ := handleCancel_run path h r persisted now
    by_cases hrunning : ∃ st, s.controlPlane.overview.status r = some st ∧ running st.state = true
    · obtain ⟨st, hs, hst⟩ := hrunning
      obtain ⟨cp, hrun, hl⟩ := hok st hs hst
      rw [show after = _ from hrun]
      exact Turn.cancelled hr hs hst hfinishes (arrives_of_leaves hl)
    · have hrun := hno fun st hs => by
        by_contra hst
        exact hrunning ⟨st, hs, by simpa using hst⟩
      rw [show after = _ from hrun]
      exact Turn.rests (.cancelled hfinishes)

theorem turn_persistStreamFailure (h : ControlPlane.Inv s.controlPlane) (hr : path.requestId? = some r)
    (err : PlatformError) (now : Time) :
    let after := perform path (persistStreamFailure r err now) s
    Turn cfg s path now (.streamFailed err) .persistFailure after.1 after.2 := by
  intro after
  obtain ⟨hok, hno⟩ := persistStreamFailure_run path h r err now
  by_cases hended : ∀ st, s.controlPlane.overview.status r = some st → st.state = .failed ∨ st.state = .cancelled
  · obtain ⟨phase, hfinishes, hrun⟩ := hno hended
    rw [show after = _ from hrun]
    exact Turn.rests (.persistFailure hfinishes)
  · push Not at hended
    obtain ⟨st, hs, hfailed, hcancelled⟩ := hended
    obtain ⟨cp, hrun, hl⟩ := hok st hs hfailed hcancelled
    rw [show after = _ from hrun]
    exact Turn.failureStored hr hs hfailed hcancelled (arrives_of_leaves hl)

/-- what a call that waits for the admission checks relies on -/
structure Admitting (cp : ControlPlaneApplication) (path : Path) (ref : Ref) (r : UUID) : Prop where
  id : path.requestId? = some r
  registered : cp.registry.get? r = some ref
  validated : cp.overview.status r = some ⟨.validated, none⟩
  unqueued : ¬cp.overview.waits r

theorem turn_finishIntake (h : ControlPlane.Inv s.controlPlane) {ref : Ref}
    (hadmitting : Admitting s.controlPlane path ref r) (result : Except String AdmissionResult) (now : Time) :
    let after := perform path (finishIntake cfg path r ref result now) s
    Turn cfg s path now (.admitting ref) (.admission result) after.1 after.2 := by
  intro after
  obtain ⟨cp, st, hrun, hl, hs⟩ := finishIntake_run cfg path h hadmitting.registered hadmitting.validated
    hadmitting.unqueued result now
  rw [show after = _ from hrun]
  exact Turn.admitted hadmitting.id hs (arrives_of_leaves hl)

theorem turn_of_advance (h : ControlPlane.Inv s.controlPlane) (he : Batching.Inv cfg.scheduler.batch s.engine)
    {call : Call} {event : Event} {x : PlatformM Phase} (hx : advance cfg call now event = some x)
    (hadmitting : ∀ ref, call.phase = .admitting ref → ∃ r, Admitting s.controlPlane call.path ref r) :
    let after := perform call.path x s
    Turn cfg s call.path now call.phase event after.1 after.2 := by
  cases event with
  | admission result =>
    simp only [advance] at hx
    split at hx
    · rename_i ref r hphase hr
      cases hx
      obtain ⟨r', hadm⟩ := hadmitting ref hphase
      have hid := hadm.id
      rw [hr] at hid
      cases hid
      rw [hphase]
      exact turn_finishIntake h hadm result now
    · cases hx
  | cycle inj =>
    simp only [advance] at hx
    split at hx
    · rename_i hphase
      cases hx
      rw [hphase]
      exact Turn.cycled
    · cases hx
  | dispatch view =>
    simp only [advance] at hx
    split at hx
    · rename_i result hphase
      cases hx
      rw [hphase]
      exact turn_startDispatch h call.path result view now
    · cases hx
  | adapter view outcome =>
    simp only [advance] at hx
    split at hx
    · rename_i result task hphase
      obtain ⟨a, ha, rfl⟩ := Option.map_eq_some_iff.1 hx
      rw [hphase]
      exact turn_resumeDispatch h call.path result ha view outcome now
    · cases hx
  | completion outcome =>
    simp only [advance] at hx
    split at hx
    · rename_i backendId r hphase hr
      cases hx
      rw [hphase]
      cases outcome with
      | ok completion => exact turn_completed h he .executing hr completion now
      | error message => exact Turn.rests .completion
    · cases hx
  | streamEnd =>
    simp only [advance] at hx
    split at hx
    · rename_i backendId r hphase hr
      cases hx
      rw [hphase]
      exact turn_completed h he .streaming hr none now
    · cases hx
  | streamError message =>
    simp only [advance] at hx
    split at hx
    · rename_i backendId hphase
      cases hx
      rw [hphase]
      exact Turn.rests .streamError
    · cases hx
  | cancelStream =>
    simp only [advance] at hx
    split at hx
    · rename_i backendId hphase
      cases hx
      rw [hphase]
      exact Turn.rests .cancelStream
    · cases hx
  | cancelled outcome persisted =>
    simp only [advance] at hx
    split at hx
    · rename_i r hphase hr
      cases hx
      rw [hphase]
      exact turn_handleCancel h hr outcome persisted now
    · cases hx
  | persistResult outcome =>
    simp only [advance] at hx
    split at hx
    · rename_i hphase
      cases hx
      rw [hphase]
      cases outcome with
      | ok u => exact Turn.rests (.persistResult (Or.inl rfl))
      | error message => exact Turn.rests (.persistResult (Or.inr ⟨_, rfl⟩))
    · cases hx
  | persistFailure =>
    simp only [advance] at hx
    split at hx
    · rename_i err r hphase hr
      cases hx
      rw [hphase]
      exact turn_persistStreamFailure h hr err now
    · cases hx

/-! ## Distinct requests -/

/-- no call has been made for the id, and it is not registered -/
def Platform.Fresh (p : Platform) (r : UUID) : Prop :=
  p.stack.controlPlane.registry.get? r = none ∧ ∀ call ∈ p.calls, call.path.requestId? ≠ some r

instance (p : Platform) (r : UUID) : Decidable (p.Fresh r) := inferInstanceAs (Decidable (_ ∧ _))

/-- each request is taken through the intake once: a full path, or the acceptance of a stream, is for a new id; a stream
is for a new id or for a request that has been through the intake -/
def Distinct (p : Platform) : PlatformOp → Prop
  | .call (.acceptRequest submit) _ | .call (.executeFullPath submit) _ => p.Fresh submit.inferenceRequest.requestId
  | .call (.streamSse submit) _ => p.Fresh submit.inferenceRequest.requestId ∨
    ∃ st ∈ p.stack.controlPlane.overview.status submit.inferenceRequest.requestId, retakes st.state = false
  | _ => True

instance (p : Platform) : (o : PlatformOp) → Decidable (Distinct p o)
  | .call (.acceptRequest _) _ | .call (.executeFullPath _) _ => inferInstanceAs (Decidable (p.Fresh _))
  | .call (.streamSse _) _ => inferInstanceAs (Decidable (p.Fresh _ ∨ ∃ st ∈ _, _))
  | .call .runSchedulingCycle _ | .resume .. | .tick .. | .processTimeouts .. => isTrue trivial

theorem begins_startIntake (h : ControlPlane.Inv s.controlPlane) (path : Path) (submit : SubmitRequest) (now : Time)
    (hr : path.requestId? = some submit.inferenceRequest.requestId)
    (hfresh : s.controlPlane.registry.get? submit.inferenceRequest.requestId = none) :
    let after := perform path (startIntake cfg path submit now) s
    Begins cfg s now path after.1 after.2 := by
  intro after
  have hnew := (ControlPlane.overview_status_eq_none h).2 hfresh
  rcases startIntake_run cfg path h submit now hnew with ⟨cp, hrun, hfull, hl⟩ | ⟨ref, cp, hrun, hinv, hreg, hroom, hov⟩
  · rw [show after = _ from hrun]
    exact Begins.refused hr hnew hfull (arrives_of_leaves hl)
  · rw [show after = _ from hrun]
    refine Begins.admits hr hnew (by rw [hreg, Dict.get?_set_self]) ⟨hinv, fun {r₁ ref₁} hr₁ => ?_, hov⟩
    rw [hreg, Dict.get?_set_ne]
    · exact hr₁
    · rintro rfl
      rw [hfresh] at hr₁
      cases hr₁

theorem begins_start (h : ControlPlane.Inv p.stack.controlPlane) {path : Path} {now : Time}
    (hd : Distinct p (.call path now)) :
    let after := perform path (start cfg path now) p.stack
    Begins cfg p.stack now path after.1 after.2 := by
  cases path with
  | acceptRequest submit => exact begins_startIntake h _ submit now rfl hd.1
  | executeFullPath submit => exact begins_startIntake h _ submit now rfl hd.1
  | runSchedulingCycle => exact Begins.cycle
  | streamSse submit =>
    rcases hd with hfresh | ⟨st, hs, hst⟩
    · have hstart : perform (.streamSse submit) (start cfg (.streamSse submit) now) p.stack =
          perform (.streamSse submit) (startIntake cfg (.streamSse submit) submit now) p.stack := by
        simp only [perform, start, startStreaming, EStateM.run_bind, EStateM.run_get, hfresh.1]
      rw [hstart]
      exact begins_startIntake h _ submit now rfl hfresh.1
    · obtain ⟨ref, e, hr, he, -, rfl⟩ := h.entry hs
      have hstart : perform (.streamSse submit) (start cfg (.streamSse submit) now) p.stack =
          perform (.streamSse submit) (afterIntake (.streamSse submit) ref) p.stack := by
        have hderef := onControlPlane_ok (s := p.stack) (ControlPlane.derefEntry_run he)
        have hst' : retakes e.state = false := hst
        simp only [perform, start, startStreaming, EStateM.run_bind, EStateM.run_get, hr, hderef, hst',
          Bool.false_eq_true, if_false]
      rw [hstart, afterIntake_run _ h hr hs]
      exact Begins.found hs hst

end InferencePlatform.Gateway
