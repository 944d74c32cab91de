/-
The requests a step ends.

The registry is told of every end; the engine is told of a completion only. `Platform.dropped` lists the requests that a
step ends without a word to the engine: its path gives the request up (a refusal by the engine, a cycle that did not
select it, a dispatch that was refused), its stream fails or is cancelled, or the queue times it out.
`Platform.Steps.endsOnly`: a step ends these, and requests whose slot it releases, and a request that has ended stays
so.
-/
import InferencePlatform.Gateway.Invariant

namespace InferencePlatform.Gateway

open ControlPlane (ControlPlaneApplication Overview Status isAllowedTransition)
open Dispatch (BatchDispatchService SubmitTask)
open Scheduling (SchedulingResult)

variable {cfg : Settings} {s s' : PlatformStack} {p p' : Platform} {op : PlatformOp} {r : UUID}
  {st : Status} {path : Path} {now : Time} {o o' : Overview}

/-! ## Ended requests -/

/-- the registry shows the request in a terminal state -/
def Ended (o : Overview) (r : UUID) : Prop := ∃ st ∈ o.status r, isTerminalRequestState st.state = true

instance (o : Overview) (r : UUID) : Decidable (Ended o r) := inferInstanceAs (Decidable (∃ st ∈ o.status r, _))

def Platform.ended (p : Platform) (r : UUID) : Prop := Ended p.stack.controlPlane.overview r

instance (p : Platform) (r : UUID) : Decidable (p.ended r) := inferInstanceAs (Decidable (Ended _ r))

theorem Ended.congr (h : Ended o r) (hs : o'.status r = o.status r) : Ended o' r := by
  obtain ⟨st, hst, hterminal⟩ := h
  exact ⟨st, hs.trans hst, hterminal⟩

theorem ended_put {r' : UUID} : Ended (o.put r st) r' ↔
    if r' = r then isTerminalRequestState st.state = true else Ended o r' := by
  split_ifs with hr
  · subst hr
    constructor
    · rintro ⟨st', hst', hterminal⟩
      rw [Overview.put_status_self] at hst'
      cases hst'
      exact hterminal
    · exact fun hterminal => ⟨st, Overview.put_status_self _ _ _, hterminal⟩
  · exact ⟨fun h => h.congr (Overview.put_status_ne o st hr).symm, fun h => h.congr (Overview.put_status_ne o st hr)⟩

theorem Ended.put (h : Ended o r) {r' : UUID} (hst : isTerminalRequestState st.state = true) :
    Ended (o.put r' st) r := by
  rw [ended_put]
  split_ifs
  · exact hst
  · exact h

theorem not_ended_of_status (hs : o.status r = some st) (hst : isTerminalRequestState st.state = false) :
    ¬Ended o r := by
  rintro ⟨st', hst', hterminal⟩
  rw [hs] at hst'
  cases hst'
  rw [hst] at hterminal
  cases hterminal

/-- a timeout ends the late requests, and no other -/
theorem ended_processTimeouts (cfg : Settings) (now : Time) :
    Ended (o.processTimeouts cfg.controlPlane.queue now) r ↔
      r ∈ o.lateIds cfg.controlPlane.queue now ∨ Ended o r := by
  by_cases hlate : r ∈ o.lateIds cfg.controlPlane.queue now
  · have hs := ControlPlane.processTimeouts_status_of_late cfg.controlPlane hlate
    exact ⟨fun _ => Or.inl hlate, fun _ => ⟨_, hs, rfl⟩⟩
  · have hs := ControlPlane.processTimeouts_status_of_not_late cfg.controlPlane hlate
    constructor
    · exact fun h => Or.inr (h.congr hs.symm)
    · exact fun h => (h.resolve_left hlate).congr hs

/-! ## Without a word to the engine -/

/-- the result and the task a step inside dispatch leaves -/
def submission (cfg : Settings) (s : PlatformStack) : Phase → Event → Option (SchedulingResult × SubmitTask)
  | .scheduled result, .dispatch view =>
    some (result, if cfg.dispatchEnabled then (Dispatch.submitPending cfg.dispatch view.route s.engine s.dispatch).2
      else ⟨[], result.dispatchResults, none⟩)
  | .submitting result task, .adapter view outcome =>
    task.attempt.map fun a => (result, (task.resumeWith cfg.dispatch view.route s.engine s.dispatch a outcome).2)
  | _, _ => none

/-- the request a call gives up when its dispatch has ended -/
def Call.abandoned (cfg : Settings) (s : PlatformStack) (call : Call) (event : Event) : List UUID :=
  (submission cfg s call.phase event).elim [] fun (result, task) =>
    if task.attempt = none then
      call.path.requestId?.toList.filter fun r =>
        call.path.Abandons s.controlPlane.overview { result with dispatchResults := task.results } r
    else []

/-- the request a call ends with the event, without a word to the engine -/
def Call.dropped (cfg : Settings) (s : PlatformStack) (call : Call) (event : Event) : List UUID :=
  match call.phase, event with
  | .cancelling, .cancelled (.ok _) _ =>
    call.path.requestId?.toList.filter fun r => ∃ st ∈ s.controlPlane.overview.status r, running st.state = true
  | .streamFailed _, .persistFailure =>
    call.path.requestId?.toList.filter fun r =>
      ∃ st ∈ s.controlPlane.overview.status r, st.state ≠ .failed ∧ st.state ≠ .cancelled
  | _, _ => call.abandoned cfg s event

/-- the requests a step ends without a word to the engine -/
def Platform.dropped (cfg : Settings) (p : Platform) : PlatformOp → List UUID
  | .call path now =>
    if path.requestId?.any fun r => (p.stack.controlPlane.overview.status r).isNone then
      p.stack.controlPlane.overview.lateIds cfg.controlPlane.queue now
    else []
  | .resume i event _ => p.calls[i]?.elim [] fun call => call.dropped cfg p.stack event
  | .tick .. => []
  | .processTimeouts now => p.stack.controlPlane.overview.lateIds cfg.controlPlane.queue now

/-! ## What a step ends -/

/-- the step ends nobody but those in `ids` and those it takes the slot from, and who has ended stays so -/
structure EndsOnly (ids : List UUID) (s s' : PlatformStack) : Prop where
  kept : ∀ {r}, Ended s.controlPlane.overview r → Ended s'.controlPlane.overview r
  ended : ∀ {r}, Ended s'.controlPlane.overview r → Ended s.controlPlane.overview r ∨ r ∈ ids ∨ ¬s'.engine.isActive r

theorem endsOnly_of_overview {ids : List UUID} (ho : s'.controlPlane.overview.status = s.controlPlane.overview.status) :
    EndsOnly ids s s' := by
  constructor
  · exact fun {r} h => h.congr (congrFun ho r)
  · exact fun {r} h => Or.inl (h.congr (congrFun ho r).symm)

theorem not_terminal_of_allowed {toState : RequestState} (h : isAllowedTransition st.state toState = true) :
    isTerminalRequestState st.state = false := by
  by_contra hterminal
  rw [ControlPlane.isAllowedTransition_of_terminal (by simpa using hterminal)] at h
  cases h

theorem submission_of_submits {phase : Phase} {event : Event} {view : AdapterView} {result : SchedulingResult}
    {svc : BatchDispatchService} {task : SubmitTask} (h : Submits cfg s phase event view result svc task) :
    submission cfg s phase event = some (result, task) := by
  cases h with
  | disabled hd => simp only [submission, hd, Bool.false_eq_true, if_false]
  | start hd => simp only [submission, hd, if_true]
  | resume ha => simp only [submission, ha, Option.map_some]

theorem cycled_status (h : ControlPlane.Inv s.controlPlane) (inj : FailureInjectionConfig) (now : Time) :
    (s.cycled cfg inj now).1.controlPlane.overview.status = s.controlPlane.overview.status := by
  rcases cycled_overview h inj now with hsame | hexpired
  · rw [hsame]
  · rw [hexpired]
    rfl

theorem released_isActive (he : Batching.Inv cfg.scheduler.batch s.engine) (r' : UUID) (now : Time) :
    (released s.engine r' now).isActive r ↔ s.engine.isActive r ∧ r ≠ r' :=
  Batching.isActive_retireRequest he r' (by decide) _ now r

theorem dropped_of_submits {phase : Phase} {event : Event} {view : AdapterView} {result : SchedulingResult}
    {svc : BatchDispatchService} {task : SubmitTask} (h : Submits cfg s phase event view result svc task)
    (ha : task.attempt = none)
    (habandons : path.Abandons s.controlPlane.overview { result with dispatchResults := task.results } r) :
    r ∈ Call.dropped cfg s ⟨path, phase⟩ event := by
  have hdropped : Call.dropped cfg s ⟨path, phase⟩ event = Call.abandoned cfg s ⟨path, phase⟩ event := by
    cases h <;> rfl
  rw [hdropped, Call.abandoned, submission_of_submits h]
  simp only [Option.elim_some, if_pos ha, List.mem_filter, Option.mem_toList, decide_eq_true_eq]
  exact ⟨habandons.1, habandons⟩

/-- the request of a call that waits for the admission checks is in no batch -/
def Unbatched (s : PlatformStack) (path : Path) (phase : Phase) : Prop :=
  ∀ ref, phase = .admitting ref → ∃ r, Admitting s.controlPlane path ref r ∧ ¬s.engine.isActive r

theorem Turn.endsOnly (h : ControlPlane.Inv s.controlPlane) (he : Batching.Inv cfg.scheduler.batch s.engine)
    {phase phase' : Phase} {event : Event} (hun : Unbatched s path phase)
    (hturn : Turn cfg s path now phase event s' phase') : EndsOnly (Call.dropped cfg s ⟨path, phase⟩ event) s s' := by
  cases hturn with
  | @admitted r ref result cp st hr hs hcp =>
    obtain ⟨r₁, hadm, hfree⟩ := hun ref rfl
    have hid := hadm.id
    rw [hr] at hid
    cases hid
    have hothers : ∀ {r'}, r' ≠ r → cp.overview.status r' = s.controlPlane.overview.status r' := by
      intro r' hne
      rw [hcp.overview]
      exact ControlPlane.admitted_status none result now hne
    constructor
    · intro r' hended
      by_cases hr' : r' = r
      · subst hr'
        exact absurd hended (not_ended_of_status hadm.validated rfl)
      · exact hended.congr (hothers hr')
    · intro r' hended
      by_cases hr' : r' = r
      · subst hr'
        exact Or.inr (Or.inr hfree)
      · exact Or.inl (hended.congr (hothers hr').symm)
  | cycled => exact endsOnly_of_overview (cycled_status h _ now)
  | submitting hsub ha => exact endsOnly_of_overview rfl
  | @concluded _ _ view result svc task cp hsub ha hcp =>
    rcases concluded_cases path s.controlPlane.overview { result with dispatchResults := task.results } view with
      hsame | ⟨r, reason, habandons, hput⟩ | ⟨r, st, placement, dispatch, state, -, hs, -, hallowed, hstate, hput⟩
    · rw [hsame] at hcp
      exact endsOnly_of_overview (congrArg Overview.status hcp.overview)
    · rw [hput] at hcp
      constructor
      · intro r' hended
        change Ended cp.overview r'
        rw [hcp.overview]
        exact hended.put rfl
      · intro r' hended
        change Ended cp.overview r' at hended
        rw [hcp.overview, ended_put] at hended
        split_ifs at hended with hr'
        · subst hr'
          exact Or.inr (Or.inl (dropped_of_submits hsub ha habandons))
        · exact Or.inl hended
    · rw [hput] at hcp
      have hlive : isTerminalRequestState state = false := by
        rcases hstate with rfl | rfl
        · rfl
        · rfl
      constructor
      · intro r' hended
        change Ended cp.overview r'
        rw [hcp.overview, ended_put]
        split_ifs with hr'
        · subst hr'
          exact absurd hended (not_ended_of_status hs (not_terminal_of_allowed hallowed))
        · exact hended
      · intro r' hended
        change Ended cp.overview r' at hended
        rw [hcp.overview, ended_put, hlive] at hended
        split_ifs at hended
        exact Or.inl hended
  | @completed _ _ _ r st cp hends hr hs hst hcp =>
    constructor
    · intro r' hended
      change Ended cp.overview r'
      rw [hcp.overview]
      exact hended.put rfl
    · intro r' hended
      change Ended cp.overview r' at hended
      rw [hcp.overview, ended_put] at hended
      split_ifs at hended with hr'
      · refine Or.inr (Or.inr fun hactive => ?_)
        exact ((released_isActive he r now).1 hactive).2 hr'
      · exact Or.inl hended
  | refused hends hr hno => exact endsOnly_of_overview rfl
  | @cancelled persisted _ r st cp hr hs hst hfinishes hcp =>
    constructor
    · intro r' hended
      change Ended cp.overview r'
      rw [hcp.overview]
      exact hended.put rfl
    · intro r' hended
      change Ended cp.overview r' at hended
      rw [hcp.overview, ended_put] at hended
      split_ifs at hended with hr'
      · subst hr'
        refine Or.inr (Or.inl (List.mem_filter.2 ⟨Option.mem_toList.2 hr, ?_⟩))
        exact decide_eq_true ⟨st, hs, hst⟩
      · exact Or.inl hended
  | @failureStored err r st cp hr hs hfailed hcancelled hcp =>
    constructor
    · intro r' hended
      change Ended cp.overview r'
      rw [hcp.overview]
      exact hended.put rfl
    · intro r' hended
      change Ended cp.overview r' at hended
      rw [hcp.overview, ended_put] at hended
      split_ifs at hended with hr'
      · subst hr'
        refine Or.inr (Or.inl (List.mem_filter.2 ⟨Option.mem_toList.2 hr, ?_⟩))
        exact decide_eq_true ⟨st, hs, hfailed, hcancelled⟩
      · exact Or.inl hended
  | rests hrests => exact endsOnly_of_overview rfl

theorem EndsOnly.of_iff {ids : List UUID} (h : ∀ r, Ended s'.controlPlane.overview r ↔
    r ∈ ids ∨ Ended s.controlPlane.overview r) : EndsOnly ids s s' := by
  constructor
  · exact fun {r} hended => (h r).2 (Or.inr hended)
  · exact fun {r} hended => ((h r).1 hended).elim (fun hids => Or.inr (Or.inl hids)) Or.inl

theorem EndsOnly.processTimeouts {cp : ControlPlaneApplication}
    (hcp : cp.overview = s.controlPlane.overview.processTimeouts cfg.controlPlane.queue now) :
    EndsOnly (s.controlPlane.overview.lateIds cfg.controlPlane.queue now) s { s with controlPlane := cp } := by
  refine EndsOnly.of_iff fun r => ?_
  change Ended cp.overview r ↔ _
  rw [hcp]
  exact ended_processTimeouts cfg now

theorem Begins.endsOnly (h : Sound cfg p) {phase : Phase} (hbegins : Begins cfg p.stack now path s' phase) :
    EndsOnly (p.dropped cfg (.call path now)) p.stack s' := by
  have hlate : ∀ {r}, path.requestId? = some r → p.stack.controlPlane.overview.status r = none →
      p.dropped cfg (.call path now) = p.stack.controlPlane.overview.lateIds cfg.controlPlane.queue now := by
    intro r hr hnew
    simp only [Platform.dropped, hr, Option.any_some, hnew, Option.isNone_none, if_true]
  cases hbegins with
  | refused hr hnew hfull hcp =>
    rw [hlate hr hnew]
    exact EndsOnly.processTimeouts hcp.overview
  | @admits _ r ref cp hr hnew href hcp =>
    rw [hlate hr hnew]
    refine EndsOnly.of_iff fun r' => ?_
    change Ended cp.overview r' ↔ _
    rw [hcp.overview, ← ended_processTimeouts cfg now]
    by_cases hr' : r' = r
    · -- the new request, VALIDATED now and unknown before
      subst hr'
      have hnow : ¬Ended ((p.stack.controlPlane.overview.processTimeouts cfg.controlPlane.queue now).register r'
          ⟨.validated, none⟩) r' := not_ended_of_status (Overview.put_status_self _ _ _) rfl
      have hbefore : ¬Ended (p.stack.controlPlane.overview.processTimeouts cfg.controlPlane.queue now) r' := by
        intro hended
        rcases (ended_processTimeouts cfg now).1 hended with hlate | ⟨st, hst, -⟩
        · obtain ⟨item, hitem, hid⟩ := List.mem_map.1 hlate
          obtain ⟨st, hst, -⟩ := h.waiting ⟨item, List.mem_of_mem_filter hitem, hid⟩
          rw [hnew] at hst
          cases hst
        · rw [hnew] at hst
          cases hst
      exact iff_of_false hnow hbefore
    · have hsame := Overview.register_status_ne
        (p.stack.controlPlane.overview.processTimeouts cfg.controlPlane.queue now) ⟨.validated, none⟩ hr'
      exact ⟨fun h => h.congr hsame.symm, fun h => h.congr hsame⟩
  | found hs hst => exact endsOnly_of_overview rfl
  | cycle => exact endsOnly_of_overview rfl

theorem Sound.unbatched (h : Sound cfg p) {i : ℕ} {call : Call} (hcall : p.calls[i]? = some call) :
    Unbatched p.stack call.path call.phase := by
  intro ref hphase
  obtain ⟨r, hadm, -⟩ := h.admitting hcall hphase
  refine ⟨r, hadm, fun hactive => ?_⟩
  obtain ⟨id, hid⟩ := h.engine.batched_of_isActive hactive
  exact not_past_of_validated hadm.validated (h.batched hid)

/-- a step of the platform -/
theorem Platform.Steps.endsOnly (h : Sound cfg p) (hsteps : Platform.Steps cfg p op p') :
    EndsOnly (p.dropped cfg op) p.stack p'.stack := by
  cases hsteps with
  | call hbegins => exact hbegins.endsOnly h
  | @resume i call event now s phase hcall hturn =>
    have hdropped : p.dropped cfg (.resume i event now) = call.dropped cfg p.stack event := by
      simp only [Platform.dropped, hcall, Option.elim_some]
    rw [hdropped]
    exact hturn.endsOnly h.controlPlane h.engine (h.unbatched hcall)
  | idle hidle => exact endsOnly_of_overview rfl
  | tick => exact endsOnly_of_overview (cycled_status h.controlPlane _ _)
  | processTimeouts hcp => exact EndsOnly.processTimeouts hcp.overview

end InferencePlatform.Gateway
