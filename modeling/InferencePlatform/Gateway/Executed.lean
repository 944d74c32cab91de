/-
Requests that have been executed.

A request is submitted, streams, completes or is cancelled only after a cycle has placed it, so it is in a batch by then
and stays in one: the request index of the engine keeps whoever has entered. `Ran` is the invariant, with the results
that calls hold of their cycles; `ran_step` keeps it.
-/
import InferencePlatform.Gateway.Endings
import InferencePlatform.Scheduling.Entries

namespace InferencePlatform.Gateway

open ControlPlane (ControlPlaneApplication AdmissionResult Overview Status)
open Scheduling (SchedulingResult)

variable {cfg : Settings} {s s' : PlatformStack} {p p' : Platform} {op : PlatformOp} {r : UUID}
  {st : Status} {path : Path} {now : Time} {o : Overview}

/-! ## The invariant -/

/-- the states from the submission of a request on, as long as it does not fail -/
def hasRun (state : RequestState) : Bool :=
  state = .submitted ∨ state = .streaming ∨ state = .completed ∨ state = .cancelled

def Batched (s : PlatformStack) (r : UUID) : Prop := ∃ id, s.engine.requestToBatch.get? r = some id

/-- the result of its cycle, while a call holds it -/
def Phase.result? : Phase → Option SchedulingResult
  | .scheduled result | .submitting result _ => some result
  | _ => none

/-- who has been executed is in a batch, and so is who is placed by a cycle whose result a call holds -/
structure Ran (p : Platform) : Prop where
  executed : ∀ {r st}, p.stack.controlPlane.overview.status r = some st → hasRun st.state = true → Batched p.stack r
  placed : ∀ {i : ℕ} {call : Call} {result : SchedulingResult}, p.calls[i]? = some call →
    call.phase.result? = some result →
    ∀ d ∈ result.placementDecisions, Batched p.stack d.requestId

theorem ran_init (policy : Scheduling.SchedulerPolicy) : Ran (Platform.init policy) where
  executed hs _ := by cases hs
  placed hcall _ := by cases hcall

/-! ## Steps -/

/-- nobody leaves the request index -/
theorem Turn.kept (h : ControlPlane.Inv s.controlPlane) (he : Batching.Inv cfg.scheduler.batch s.engine)
    {phase phase' : Phase} {event : Event} (hturn : Turn cfg s path now phase event s' phase') {id : UUID}
    (hid : s.engine.requestToBatch.get? r = some id) : s'.engine.requestToBatch.get? r = some id := by
  have hreleased : ∀ r' : UUID, (released s.engine r' now).requestToBatch.get? r = some id := by
    intro r'
    have hindex := Batching.requestToBatch_retireRequest he r' .completed "request_completed" now
    unfold released Batching.completeRequest
    rw [hindex]
    exact hid
  cases hturn with
  | @cycled inj => exact (placed_cycled h he inj now).2.kept hid
  | completed => exact hreleased _
  | refused => exact hreleased _
  | _ => exact hid

theorem Platform.Steps.kept (h : Sound cfg p) (hsteps : Platform.Steps cfg p op p') {id : UUID}
    (hid : p.stack.engine.requestToBatch.get? r = some id) : p'.stack.engine.requestToBatch.get? r = some id := by
  cases hsteps with
  | call hbegins => cases hbegins <;> exact hid
  | resume hcall hturn => exact hturn.kept h.controlPlane h.engine hid
  | idle => exact hid
  | @tick inj now => exact (placed_cycled h.controlPlane h.engine inj now).2.kept hid
  | processTimeouts => exact hid

theorem Platform.Steps.batched (h : Sound cfg p) (hsteps : Platform.Steps cfg p op p') (hr : Batched p.stack r) :
    Batched p'.stack r := by
  obtain ⟨id, hid⟩ := hr
  exact ⟨id, hsteps.kept h hid⟩

theorem verdict_placed {result : SchedulingResult} {placement : Batching.BatchPlacementDecision}
    {dispatch : Dispatch.BatchDispatchResult} (hv : verdict result r = .dispatched placement dispatch) :
    placement ∈ result.placementDecisions ∧ placement.requestId = r := by
  unfold verdict at hv
  split at hv
  · cases hv
  · split at hv
    · cases hv
    · rename_i placement' hfind
      split at hv
      · cases hv
      · split_ifs at hv
        cases hv
        exact ⟨List.mem_of_find?_eq_some hfind, by simpa using List.find?_some hfind⟩

theorem Submits.result {phase : Phase} {event : Event} {view : AdapterView} {result : SchedulingResult}
    {svc : Dispatch.BatchDispatchService} {task : Dispatch.SubmitTask}
    (hsub : Submits cfg s phase event view result svc task) : phase.result? = some result := by
  cases hsub <;> rfl

theorem admitted_state {q : ControlPlane.QueueCapacityConfig} {result : Except String AdmissionResult}
    (hs : (o.admitted q r none result now).status r = some st) : hasRun st.state = false := by
  cases result with
  | error message =>
    rw [Overview.admitted, Overview.put_status_self] at hs
    cases hs
    rfl
  | ok a =>
    simp only [Overview.admitted] at hs
    split_ifs at hs
    · rw [Overview.put_status_self] at hs
      cases hs
      rfl
    · have hqueued : ((o.expire q now).put r ⟨.queued, none⟩).status r = some st := hs
      rw [Overview.put_status_self] at hqueued
      cases hqueued
      rfl
    · rw [Overview.put_status_self] at hs
      cases hs
      rfl

/-- a request that comes to be executed is in a batch -/
theorem Turn.executed {phase phase' : Phase} {event : Event} (hturn : Turn cfg s path now phase event s' phase')
    (h : ControlPlane.Inv s.controlPlane)
    (hran : ∀ {r st}, s.controlPlane.overview.status r = some st → hasRun st.state = true → Batched s r)
    (hplaced : ∀ {result}, phase.result? = some result → ∀ d ∈ result.placementDecisions, Batched s d.requestId)
    (hs : s'.controlPlane.overview.status r = some st) (hst : hasRun st.state = true) : Batched s r := by
  have hput : ∀ {r₁ st₁}, (hasRun st₁.state = true → Batched s r₁) →
      s'.controlPlane.overview = s.controlPlane.overview.put r₁ st₁ → Batched s r := by
    intro r₁ st₁ hnew ho
    rw [ho] at hs
    by_cases hr : r = r₁
    · rw [hr, Overview.put_status_self] at hs
      cases hs
      rw [hr]
      exact hnew hst
    · rw [Overview.put_status_ne _ _ hr] at hs
      exact hran hs hst
  have hrunning : ∀ {r₁ st₁}, s.controlPlane.overview.status r₁ = some st₁ → running st₁.state = true →
      Batched s r₁ := by
    intro r₁ st₁ hs₁ hst₁
    refine hran hs₁ ?_
    have hcases : st₁.state = .submitted ∨ st₁.state = .streaming := by simpa [running] using hst₁
    rcases hcases with h | h
    · rw [h]
      rfl
    · rw [h]
      rfl
  cases hturn with
  | @admitted r₁ ref result cp st₁ hr₁ hs₁ hcp =>
    change cp.overview.status r = some st at hs
    rw [hcp.overview] at hs
    by_cases hr : r = r₁
    · subst hr
      rw [admitted_state hs] at hst
      cases hst
    · rw [ControlPlane.admitted_status none result now hr] at hs
      exact hran hs hst
  | @cycled inj =>
    rw [cycled_status h inj now] at hs
    exact hran hs hst
  | submitting hsub ha => exact hran hs hst
  | @concluded _ _ view result svc task cp hsub ha hcp =>
    rcases concluded_cases path s.controlPlane.overview { result with dispatchResults := task.results } view with
      hsame | ⟨r₁, reason, -, hput₁⟩ | ⟨r₁, st₁, placement, dispatch, state, -, -, hv, -, -, hput₁⟩
    · change cp.overview.status r = some st at hs
      rw [hcp.overview, hsame] at hs
      exact hran hs hst
    · exact hput (fun hfailed => by cases hfailed) (hcp.overview.trans hput₁)
    · refine hput (fun _ => ?_) (hcp.overview.trans hput₁)
      obtain ⟨hmem, hid⟩ := verdict_placed hv
      rw [← hid]
      exact hplaced hsub.result placement hmem
  | completed hends hr hs₁ hst₁ hcp => exact hput (fun _ => hrunning hs₁ hst₁) hcp.overview
  | refused hends hr hno => exact hran hs hst
  | cancelled hr hs₁ hst₁ hfinishes hcp => exact hput (fun _ => hrunning hs₁ hst₁) hcp.overview
  | failureStored hr hs₁ hfailed hcancelled hcp => exact hput (fun hf => by cases hf) hcp.overview
  | rests hrests => exact hran hs hst

theorem Path.result?_failed (path : Path) (err : PlatformError) : (path.failed err).result? = none := by
  cases path <;> rfl

theorem Path.Finishes.result? {phase : Phase} (h : path.Finishes phase) : phase.result? = none := by
  rcases h with rfl | ⟨err, rfl⟩
  · rfl
  · exact path.result?_failed err

theorem Path.result?_entered (path : Path) (state : RequestState) : (path.entered state).result? = none := by
  cases path with
  | acceptRequest submit => rfl
  | runSchedulingCycle => rfl
  | executeFullPath submit =>
    unfold Path.entered
    dsimp only
    split_ifs <;> rfl
  | streamSse submit =>
    unfold Path.entered
    dsimp only
    split_ifs <;> rfl

theorem result?_concluded (path : Path) (o : Overview) (result : SchedulingResult) (view : AdapterView) :
    (concluded path o result view).2.result? = none := by
  cases path with
  | acceptRequest submit => rfl
  | runSchedulingCycle => rfl
  | executeFullPath submit =>
    simp only [concluded]
    cases o.status submit.inferenceRequest.requestId with
    | none => rfl
    | some st =>
      simp only [Option.elim_some, finalized]
      cases verdict result submit.inferenceRequest.requestId <;> dsimp only <;> (try split_ifs) <;> rfl
  | streamSse submit =>
    simp only [concluded]
    cases o.status submit.inferenceRequest.requestId with
    | none => rfl
    | some st =>
      simp only [Option.elim_some, opened]
      cases verdict result submit.inferenceRequest.requestId <;> dsimp only <;> (try split_ifs) <;> rfl

/-- a call gets its result from its cycle, and passes it on -/
theorem Turn.result? {phase phase' : Phase} {event : Event} (hturn : Turn cfg s path now phase event s' phase')
    {result : SchedulingResult} (hres : phase'.result? = some result) :
    phase.result? = some result ∨ ∃ inj, s' = (s.cycled cfg inj now).1 ∧ result = (s.cycled cfg inj now).2 := by
  have hnone : ∀ {phase : Phase}, phase.result? = none → phase.result? = some result → False := by
    intro phase hn hr
    rw [hn] at hr
    cases hr
  cases hturn with
  | admitted hr hs hcp => exact (hnone (path.result?_entered _) hres).elim
  | @cycled inj =>
    cases hres
    exact Or.inr ⟨inj, rfl, rfl⟩
  | submitting hsub ha =>
    cases hres
    exact Or.inl hsub.result
  | concluded hsub ha hcp => exact (hnone (result?_concluded path _ _ _) hres).elim
  | completed hends hr hs hst hcp => cases hends <;> cases hres
  | refused hends hr hno => exact (hnone (path.result?_failed _) hres).elim
  | cancelled hr hs hst hfinishes hcp => exact (hnone hfinishes.result? hres).elim
  | failureStored hr hs hfailed hcancelled hcp => cases hres
  | rests hrests =>
    cases hrests with
    | completion => exact (hnone (path.result?_failed _) hres).elim
    | streamError => exact (hnone (path.result?_failed _) hres).elim
    | cancelStream => cases hres
    | cancelled hfinishes => exact (hnone hfinishes.result? hres).elim
    | persistResult hfinishes => exact (hnone hfinishes.result? hres).elim
    | persistFailure hfinishes => exact (hnone hfinishes.result? hres).elim

theorem cycled_placements (h : ControlPlane.Inv s.controlPlane) (he : Batching.Inv cfg.scheduler.batch s.engine)
    (inj : FailureInjectionConfig) (now : Time) :
    ∀ d ∈ (s.cycled cfg inj now).2.placementDecisions, Batched (s.cycled cfg inj now).1 d.requestId := by
  intro d hd
  have hactive := Scheduling.runCycle_placements cfg.scheduler cfg.controlPlane.queue inj now
    (s := ⟨s.controlPlane, s.policy, s.engine⟩) he h.nodup d hd
  exact (placed_cycled h he inj now).1.batched_of_isActive hactive

theorem hasRun_processTimeouts (cfg : Settings) (now : Time)
    (hs : (o.processTimeouts cfg.controlPlane.queue now).status r = some st) (hst : hasRun st.state = true) :
    o.status r = some st := by
  by_cases hlate : r ∈ o.lateIds cfg.controlPlane.queue now
  · rw [ControlPlane.processTimeouts_status_of_late cfg.controlPlane hlate] at hs
    cases hs
    cases hst
  · rw [ControlPlane.processTimeouts_status_of_not_late cfg.controlPlane hlate] at hs
    exact hs

/-- a new call finds nobody executed who has not been before -/
theorem Begins.hasRun {phase : Phase} (hbegins : Begins cfg p.stack now path s' phase)
    (hs : s'.controlPlane.overview.status r = some st) (hst : hasRun st.state = true) :
    p.stack.controlPlane.overview.status r = some st := by
  cases hbegins with
  | @refused _ r₁ cp hr hnew hfull hcp =>
    change cp.overview.status r = some st at hs
    rw [hcp.overview] at hs
    exact hasRun_processTimeouts cfg now hs hst
  | @admits _ r₁ ref cp hr hnew href hcp =>
    change cp.overview.status r = some st at hs
    rw [hcp.overview] at hs
    by_cases hr₁ : r = r₁
    · rw [hr₁, Overview.register_status_self] at hs
      cases hs
      cases hst
    · rw [Overview.register_status_ne _ _ hr₁] at hs
      exact hasRun_processTimeouts cfg now hs hst
  | found hs' hst' => exact hs
  | cycle => exact hs

theorem ran_step (h : Sound cfg p) (hd : Distinct p op) (hran : Ran p) : Ran (p.step cfg op) := by
  have hsteps := step_steps h hd
  generalize p.step cfg op = p' at hsteps ⊢
  have hkept : ∀ {r}, Batched p.stack r → Batched p'.stack r := fun hr => hsteps.batched h hr
  cases hsteps with
  | @call path now s phase hbegins =>
    refine ⟨fun hs hst => hkept (hran.executed (hbegins.hasRun hs hst) hst), ?_⟩
    intro i call result hcall hres d hdec
    rcases called_cases hcall with hold | ⟨-, rfl⟩
    · exact hkept (hran.placed hold hres d hdec)
    · have hnone : phase.result? = none := by
        cases hbegins with
        | refused hr hnew hfull hcp => exact path.result?_failed _
        | admits hr hnew href hcp => rfl
        | found hs hst => exact Path.result?_entered _ _
        | cycle => rfl
      rw [hnone] at hres
      cases hres
  | @resume i call event now s phase hcall hturn =>
    refine ⟨fun hs hst => hkept ?_, ?_⟩
    · exact hturn.executed h.controlPlane hran.executed (fun hres => hran.placed hcall hres) hs hst
    · intro j call' result hj hres d hdec
      rcases resumed_cases hcall hj with ⟨-, rfl⟩ | ⟨-, hj'⟩
      · rcases hturn.result? hres with hold | ⟨inj, rfl, rfl⟩
        · exact hkept (hran.placed hcall hold d hdec)
        · exact cycled_placements h.controlPlane h.engine inj now d hdec
      · exact hkept (hran.placed hj' hres d hdec)
  | idle => exact hran
  | @tick inj now =>
    refine ⟨fun {r st} hs hst => ?_, fun hcall hres d hdec => ?_⟩
    · have hbefore : p.stack.controlPlane.overview.status r = some st := by
        rw [← cycled_status h.controlPlane inj now]
        exact hs
      exact hkept (hran.executed hbefore hst)
    · exact hkept (hran.placed hcall hres d hdec)
  | @processTimeouts now cp hcp =>
    refine ⟨fun {r st} hs hst => hran.executed ?_ hst, fun hcall hres d hdec => hran.placed hcall hres d hdec⟩
    change cp.overview.status r = some st at hs
    rw [hcp.overview] at hs
    exact hasRun_processTimeouts cfg now hs hst

end InferencePlatform.Gateway
