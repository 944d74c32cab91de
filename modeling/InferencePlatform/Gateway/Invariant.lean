/-
What holds in every state of the platform, as long as ids are distinct.

`Sound`: the control plane's objects hang together and so do the engine's tables, whoever waits or is in a batch has
been through the intake, and a call that waits for the admission checks is alone with its request. `sound_step` is the
one induction step; `run_sound` is its run rule.

`Evolves` says how far a step of one call reaches: the status of its own request, and queue timeouts.
-/
import InferencePlatform.ControlPlane.Safety
import InferencePlatform.Gateway.Turns

namespace InferencePlatform.Gateway

open InferencePlatform.Core (Dict run Meets)
open ControlPlane (ControlPlaneApplication Ref AdmissionResult Overview Status QueueCapacityConfig isAllowedTransition)
open Batching (ContinuousBatchEngine Placed)
open Dispatch (BatchDispatchService)
open Scheduling (SchedulingResult)

variable {cfg : Settings} {s s' : PlatformStack} {p : Platform} {op : PlatformOp} {r : UUID} {st : Status} {path : Path}
  {now : Time} {cp : ControlPlaneApplication} {o o' : Overview} {own : Option UUID}

/-! ## How far a step reaches -/

/-- the request has been through the intake: it has a status, and not one the intake still works on -/
def Past (o : Overview) (r : UUID) : Prop := ∃ st, o.status r = some st ∧ retakes st.state = false

theorem Past.congr (h : Past o r) (hs : o'.status r = o.status r) : Past o' r := by
  obtain ⟨st, hst, hpast⟩ := h
  exact ⟨st, hs.trans hst, hpast⟩

theorem past_put (o : Overview) (r : UUID) (hst : retakes st.state = false) : Past (o.put r st) r :=
  ⟨st, Overview.put_status_self o r st, hst⟩

theorem not_past_of_validated (hs : o.status r = some ⟨.validated, none⟩) : ¬Past o r := by
  rintro ⟨st, hst, hpast⟩
  rw [hs] at hst
  cases hst
  cases hpast

/-- the step changes the status of the request `own` alone, queue timeouts apart; nobody goes back before the intake,
and whoever joins the queue has been through it -/
structure Evolves (cfg : Settings) (now : Time) (own : Option UUID) (o o' : Overview) : Prop where
  others : ∀ {r}, own ≠ some r → o'.status r = o.status r ∨
    r ∈ o.lateIds cfg.controlPlane.queue now ∧ o'.status r = some ⟨.timedOut, some .queueTimeout⟩
  past : ∀ {r}, Past o r → Past o' r
  waits : ∀ {r}, o'.waits r → o.waits r ∨ Past o' r

theorem Evolves.of_status (hs : o'.status = o.status) (hw : ∀ r, o'.waits r → o.waits r) :
    Evolves cfg now own o o' := by
  refine ⟨fun _ => Or.inl (congrFun hs _), fun hp => ?_, fun hr => Or.inl (hw _ hr)⟩
  exact hp.congr (congrFun hs _)

theorem Evolves.refl (cfg : Settings) (now : Time) (own : Option UUID) (o : Overview) : Evolves cfg now own o o :=
  Evolves.of_status rfl fun _ => id

theorem waits_of_expire {q : QueueCapacityConfig} (h : (o.expire q now).waits r) : o.waits r := by
  obtain ⟨item, hitem, hr⟩ := h
  exact ⟨item, List.mem_of_mem_filter hitem, hr⟩

theorem Evolves.expire (cfg : Settings) (now : Time) (own : Option UUID) (o : Overview) :
    Evolves cfg now own o (o.expire cfg.controlPlane.queue now) :=
  Evolves.of_status rfl fun _ => waits_of_expire

theorem Evolves.processTimeouts (cfg : Settings) (now : Time) (own : Option UUID) (o : Overview) :
    Evolves cfg now own o (o.processTimeouts cfg.controlPlane.queue now) := by
  have hstatus : ∀ r, (o.processTimeouts cfg.controlPlane.queue now).status r = o.status r ∨
      r ∈ o.lateIds cfg.controlPlane.queue now ∧
        (o.processTimeouts cfg.controlPlane.queue now).status r = some ⟨.timedOut, some .queueTimeout⟩ := by
    intro r
    by_cases hlate : r ∈ o.lateIds cfg.controlPlane.queue now
    · exact Or.inr ⟨hlate, ControlPlane.processTimeouts_status_of_late cfg.controlPlane hlate⟩
    · exact Or.inl (ControlPlane.processTimeouts_status_of_not_late cfg.controlPlane hlate)
  refine ⟨fun _ => hstatus _, fun {r} hp => ?_, fun hw => Or.inl (waits_of_expire hw)⟩
  rcases hstatus r with hsame | ⟨-, htimedOut⟩
  · exact hp.congr hsame
  · exact ⟨_, htimedOut, rfl⟩

theorem Evolves.put (cfg : Settings) (now : Time) (o : Overview) {r : UUID} (hr : own = some r)
    (hst : retakes st.state = false) : Evolves cfg now own o (o.put r st) := by
  refine ⟨fun {r'} hne => Or.inl (Overview.put_status_ne o st ?_), fun {r'} hp => ?_, fun hw => Or.inl hw⟩
  · rintro rfl
    exact hne hr
  · by_cases hr' : r' = r
    · rw [hr']
      exact past_put o r hst
    · exact hp.congr (Overview.put_status_ne o st hr')

/-- a new request, which does not wait yet -/
theorem Evolves.register (cfg : Settings) (now : Time) (own : Option UUID) {r : UUID} (hr : own = some r)
    (hnew : o.status r = none) (st : Status) :
    Evolves cfg now own o ((o.processTimeouts cfg.controlPlane.queue now).register r st) := by
  have htimeouts := Evolves.processTimeouts cfg now own o
  have hstatus : ∀ {r'}, r' ≠ r → ((o.processTimeouts cfg.controlPlane.queue now).register r st).status r' =
      (o.processTimeouts cfg.controlPlane.queue now).status r' := Overview.register_status_ne _ st
  refine ⟨fun {r'} hne => ?_, fun {r'} hp => ?_, fun {r'} hw => Or.inl (waits_of_expire hw)⟩
  · have hr' : r' ≠ r := by
      intro hreq
      exact hne (hr.trans (congrArg some hreq.symm))
    rw [hstatus hr']
    exact htimeouts.others hne
  · have hr' : r' ≠ r := by
      intro hreq
      obtain ⟨st', hst', -⟩ := hp
      rw [hreq, hnew] at hst'
      cases hst'
    exact (htimeouts.past hp).congr (hstatus hr')

theorem Evolves.trans {o'' : Overview} (h : Evolves cfg now own o o')
    (hlate : o'.lateIds cfg.controlPlane.queue now = []) (h' : Evolves cfg now own o' o'') :
    Evolves cfg now own o o'' := by
  refine ⟨fun {r} hne => ?_, fun hp => h'.past (h.past hp), fun {r} hw => ?_⟩
  · rcases h'.others hne with hsame | ⟨hmem, -⟩
    · rw [hsame]
      exact h.others hne
    · rw [hlate] at hmem
      cases hmem
  · rcases h'.waits hw with hw | hp
    · exact (h.waits hw).imp id h'.past
    · exact Or.inr hp

theorem lateIds_expire (q : QueueCapacityConfig) (now : Time) (o : Overview) : (o.expire q now).lateIds q now = [] := by
  simp [Overview.lateIds, Overview.expire]

/-- a request at the end of its intake -/
theorem Evolves.admitted (cfg : Settings) (now : Time) (o : Overview) {r : UUID} (hr : own = some r)
    (result : Except String AdmissionResult) :
    Evolves cfg now own o (o.admitted cfg.controlPlane.queue r none result now) := by
  cases result with
  | error message => exact Evolves.put cfg now o hr rfl
  | ok a =>
    have hexpire := Evolves.expire cfg now own o
    have hlate := lateIds_expire cfg.controlPlane.queue now o
    simp only [Overview.admitted]
    split_ifs
    · exact hexpire.trans hlate (Evolves.put cfg now _ hr rfl)
    · have hput : Evolves cfg now own o ((o.expire cfg.controlPlane.queue now).put r ⟨.queued, none⟩) :=
        hexpire.trans hlate (Evolves.put cfg now _ hr rfl)
      refine ⟨hput.others, hput.past, fun {r'} hw => ?_⟩
      obtain ⟨item, hitem, hid⟩ := hw
      rcases List.mem_append.1 hitem with hitem | hitem
      · exact Or.inl ⟨item, List.mem_of_mem_filter hitem, hid⟩
      · rw [List.mem_singleton.1 hitem] at hid
        subst hid
        exact Or.inr (past_put _ r rfl)
    · exact Evolves.put cfg now o hr rfl

/-- what the path makes of a verdict on its request in status `st`: it marks the request FAILED -/
def Path.givesUp (path : Path) (result : SchedulingResult) (r : UUID) (st : Status) : Bool :=
  match verdict result r with
  | .rejected _ => true
  | .notSelected =>
    match path with
    | .executeFullPath _ => r ∉ result.skippedRequestIds
    | .acceptRequest _ | .streamSse _ | .runSchedulingCycle => true
  | .notDispatched _ _ => isAllowedTransition st.state .scheduled
  | .dispatched _ _ => false

/-- the path gives up its request `r` -/
def Path.Abandons (path : Path) (o : Overview) (result : SchedulingResult) (r : UUID) : Prop :=
  path.requestId? = some r ∧ ∃ st ∈ o.status r, path.givesUp result r st = true

instance (path : Path) (o : Overview) (result : SchedulingResult) (r : UUID) : Decidable (path.Abandons o result r) :=
  inferInstanceAs (Decidable (_ ∧ ∃ st ∈ o.status r, _))

/-- what a request path can do with a cycle's result: nothing to its request, give it up, or have it executed -/
theorem concluded_cases (path : Path) (o : Overview) (result : SchedulingResult) (view : AdapterView) :
    (concluded path o result view).1 = o ∨
    (∃ r reason, path.Abandons o result r ∧ (concluded path o result view).1 = o.put r ⟨.failed, some reason⟩) ∨
    ∃ r st placement dispatch state, path.requestId? = some r ∧ o.status r = some st ∧
      verdict result r = .dispatched placement dispatch ∧ isAllowedTransition st.state .scheduled = true ∧
      (state = .submitted ∨ state = .streaming) ∧ (concluded path o result view).1 = o.put r ⟨state, st.reason⟩ := by
  cases path with
  | acceptRequest submit => exact Or.inl rfl
  | runSchedulingCycle => exact Or.inl rfl
  | executeFullPath submit =>
    set r := submit.inferenceRequest.requestId with hr
    have hid : (Path.executeFullPath submit).requestId? = some r := rfl
    simp only [concluded, ← hr]
    cases hs : o.status r with
    | none => exact Or.inl rfl
    | some st =>
      simp only [Option.elim_some, finalized]
      cases hv : verdict result r with
      | rejected reason =>
        exact Or.inr (Or.inl ⟨r, _, ⟨hid, st, hs, by simp only [Path.givesUp, hv]⟩, rfl⟩)
      | notSelected =>
        dsimp only
        split_ifs with hskipped
        · exact Or.inl rfl
        · exact Or.inr
            (Or.inl ⟨r, _, ⟨hid, st, hs, by simpa only [Path.givesUp, hv, decide_eq_true_eq] using hskipped⟩, rfl⟩)
      | notDispatched placement reason =>
        dsimp only
        split_ifs with hallowed
        · exact Or.inr (Or.inl ⟨r, _, ⟨hid, st, hs, by simpa only [Path.givesUp, hv] using hallowed⟩, rfl⟩)
        · exact Or.inl rfl
      | dispatched placement dispatch =>
        dsimp only
        split_ifs with hallowed
        · exact Or.inr (Or.inr ⟨r, st, placement, dispatch, .submitted, hid, hs, hv, hallowed, Or.inl rfl, rfl⟩)
        · exact Or.inl rfl
  | streamSse submit =>
    set r := submit.inferenceRequest.requestId with hr
    have hid : (Path.streamSse submit).requestId? = some r := rfl
    simp only [concluded, ← hr]
    cases hs : o.status r with
    | none => exact Or.inl rfl
    | some st =>
      simp only [Option.elim_some, opened]
      cases hv : verdict result r with
      | rejected reason =>
        exact Or.inr (Or.inl ⟨r, _, ⟨hid, st, hs, by simp only [Path.givesUp, hv]⟩, rfl⟩)
      | notSelected => exact Or.inr (Or.inl ⟨r, _, ⟨hid, st, hs, by simp only [Path.givesUp, hv]⟩, rfl⟩)
      | notDispatched placement reason =>
        dsimp only
        split_ifs with hallowed
        · exact Or.inr (Or.inl ⟨r, _, ⟨hid, st, hs, by simpa only [Path.givesUp, hv] using hallowed⟩, rfl⟩)
        · exact Or.inl rfl
      | dispatched placement dispatch =>
        dsimp only
        by_cases hallowed : isAllowedTransition st.state .scheduled = true
        · rw [if_pos hallowed]
          exact Or.inr (Or.inr ⟨r, st, placement, dispatch, .streaming, hid, hs, hv, hallowed, Or.inr rfl, rfl⟩)
        · rw [if_neg hallowed]
          exact Or.inl rfl

theorem Evolves.concluded (cfg : Settings) (now : Time) (path : Path) (o : Overview) (result : SchedulingResult)
    (view : AdapterView) : Evolves cfg now path.requestId? o (concluded path o result view).1 := by
  rcases concluded_cases path o result view with hsame | ⟨r, reason, habandons, hput⟩ |
    ⟨r, st, placement, dispatch, state, hr, -, -, -, hstate, hput⟩
  · rw [hsame]
    exact Evolves.refl cfg now _ o
  · rw [hput]
    exact Evolves.put cfg now o habandons.1 rfl
  · rw [hput]
    refine Evolves.put cfg now o hr ?_
    rcases hstate with rfl | rfl
    · rfl
    · rfl

/-! ## What a step does to the stack -/

/-- the step of a call for the request `own` -/
structure Reaches (cfg : Settings) (now : Time) (own : Option UUID) (s s' : PlatformStack) : Prop where
  controlPlane : ControlPlane.Inv s'.controlPlane
  registry : ∀ {r ref}, s.controlPlane.registry.get? r = some ref → s'.controlPlane.registry.get? r = some ref
  evolves : Evolves cfg now own s.controlPlane.overview s'.controlPlane.overview
  engine : Batching.Inv cfg.scheduler.batch s'.engine
  /-- whoever comes into a batch has been waiting -/
  batched : ∀ {r id}, s'.engine.requestToBatch.get? r = some id →
    s.engine.requestToBatch.get? r = some id ∨ s.controlPlane.overview.waits r

theorem Reaches.arrives (he : Batching.Inv cfg.scheduler.batch s.engine) (hcp : Arrives s.controlPlane cp o)
    (hevolves : Evolves cfg now own s.controlPlane.overview o) :
    Reaches cfg now own s { s with controlPlane := cp } := by
  refine ⟨hcp.inv, hcp.registry, ?_, he, Or.inl⟩
  rw [hcp.overview]
  exact hevolves

theorem Reaches.dispatch (h : Reaches cfg now own s s') (svc : BatchDispatchService) :
    Reaches cfg now own s { s' with dispatch := svc } :=
  ⟨h.controlPlane, h.registry, h.evolves, h.engine, h.batched⟩

theorem Reaches.refl (h : ControlPlane.Inv s.controlPlane) (he : Batching.Inv cfg.scheduler.batch s.engine) :
    Reaches cfg now own s s :=
  ⟨h, id, Evolves.refl cfg now own _, he, Or.inl⟩

theorem inv_released (he : Batching.Inv cfg.scheduler.batch s.engine) (r : UUID) (now : Time) :
    Batching.Inv cfg.scheduler.batch (released s.engine r now) :=
  Batching.inv_retireRequest he r (by decide) _ now

theorem Reaches.released (h : Reaches cfg now own s s') (r : UUID) (now' : Time) :
    Reaches cfg now own s { s' with engine := Gateway.released s'.engine r now' } := by
  refine ⟨h.controlPlane, h.registry, h.evolves, inv_released h.engine r now', fun {r'} id hid => h.batched ?_⟩
  have hindex := Batching.requestToBatch_retireRequest h.engine r .completed "request_completed" now'
  unfold Gateway.released Batching.completeRequest at hid
  rw [hindex] at hid
  exact hid

/-- what a cycle places has been waiting, and is in no batch yet -/
theorem placed_cycled (h : ControlPlane.Inv s.controlPlane) (he : Batching.Inv cfg.scheduler.batch s.engine)
    (inj : FailureInjectionConfig) (now : Time) :
    Batching.Inv cfg.scheduler.batch (s.cycled cfg inj now).1.engine ∧
      Placed s.controlPlane.overview.waits s.engine (s.cycled cfg inj now).1.engine := by
  obtain ⟨-, ops, hops, hwaits⟩ := Scheduling.runCycle_cycles cfg.scheduler cfg.controlPlane.queue inj now
    (s := ⟨s.controlPlane, s.policy, s.engine⟩) h
  have hengine : (s.cycled cfg inj now).1.engine =
      run (ContinuousBatchEngine.step cfg.scheduler.batch) s.engine ops := hops
  have hfrom : ∀ op ∈ ops, ∃ item, op = .placeSelected inj now item ∧
      s.controlPlane.overview.waits item.requestId := by
    intro op hop
    obtain ⟨item, hitem, hwait⟩ := hwaits op hop
    exact ⟨item, hitem, waits_of_expire hwait⟩
  rw [hengine]
  exact Batching.placed_run he hfrom

/-- a cycle drops queue items at most -/
theorem cycled_overview (h : ControlPlane.Inv s.controlPlane) (inj : FailureInjectionConfig) (now : Time) :
    (s.cycled cfg inj now).1.controlPlane.overview = s.controlPlane.overview ∨
      (s.cycled cfg inj now).1.controlPlane.overview = s.controlPlane.overview.expire cfg.controlPlane.queue now := by
  obtain ⟨hcp, -⟩ := Scheduling.runCycle_cycles cfg.scheduler cfg.controlPlane.queue inj now
    (s := ⟨s.controlPlane, s.policy, s.engine⟩) h
  rcases hcp with hsame | hleaves
  · exact Or.inl (congrArg ControlPlaneApplication.overview hsame)
  · exact Or.inr hleaves.overview

theorem Reaches.cycled (h : ControlPlane.Inv s.controlPlane) (he : Batching.Inv cfg.scheduler.batch s.engine)
    (inj : FailureInjectionConfig) (now : Time) : Reaches cfg now own s (s.cycled cfg inj now).1 := by
  obtain ⟨hengine, hplaced⟩ := placed_cycled h he inj now
  obtain ⟨hcp, -⟩ := Scheduling.runCycle_cycles cfg.scheduler cfg.controlPlane.queue inj now
    (s := ⟨s.controlPlane, s.policy, s.engine⟩) h
  have hbatched : ∀ {r id}, (s.cycled cfg inj now).1.engine.requestToBatch.get? r = some id →
      s.engine.requestToBatch.get? r = some id ∨ s.controlPlane.overview.waits r := by
    intro r id hid
    rcases hplaced.entered hid with hold | ⟨hwait, -⟩
    · exact Or.inl hold
    · exact Or.inr hwait
  rcases hcp with hsame | hleaves
  · have hcp : (s.cycled cfg inj now).1.controlPlane = s.controlPlane := hsame
    refine ⟨hcp ▸ h, ?_, ?_, hengine, hbatched⟩
    · rw [hcp]
      exact id
    · rw [hcp]
      exact Evolves.refl cfg now own _
  · refine ⟨hleaves.inv, ?_, ?_, hengine, hbatched⟩
    · exact (arrives_of_leaves hleaves).registry
    · have hoverview : (s.cycled cfg inj now).1.controlPlane.overview =
          s.controlPlane.overview.expire cfg.controlPlane.queue now := hleaves.overview
      rw [hoverview]
      exact Evolves.expire cfg now own _

theorem Turn.reaches (h : ControlPlane.Inv s.controlPlane) (he : Batching.Inv cfg.scheduler.batch s.engine)
    {phase phase' : Phase} {event : Event} (hturn : Turn cfg s path now phase event s' phase') :
    Reaches cfg now path.requestId? s s' := by
  cases hturn with
  | admitted hr hs hcp => exact .arrives he hcp (.admitted cfg now _ hr _)
  | cycled => exact .cycled h he _ now
  | submitting hsub ha => exact (Reaches.refl h he).dispatch _
  | concluded hsub ha hcp => exact (Reaches.arrives he hcp (.concluded cfg now path _ _ _)).dispatch _
  | completed hends hr hs hst hcp => exact (Reaches.arrives he hcp (.put cfg now _ hr rfl)).released _ now
  | refused hends hr hno => exact (Reaches.refl h he).released _ now
  | cancelled hr hs hst hfinishes hcp => exact .arrives he hcp (.put cfg now _ hr rfl)
  | failureStored hr hs hfailed hcancelled hcp => exact .arrives he hcp (.put cfg now _ hr rfl)
  | rests hrests => exact .refl h he

theorem Begins.reaches (h : ControlPlane.Inv s.controlPlane) (he : Batching.Inv cfg.scheduler.batch s.engine)
    {phase : Phase} (hbegins : Begins cfg s now path s' phase) : Reaches cfg now path.requestId? s s' := by
  cases hbegins with
  | refused hr hnew hfull hcp => exact .arrives he hcp (.processTimeouts cfg now _ _)
  | admits hr hnew href hcp => exact .arrives he hcp (.register cfg now _ hr hnew _)
  | found hs hst => exact .refl h he
  | cycle => exact .refl h he

/-! ## The invariant -/

/-- what holds in every state of the platform -/
structure Sound (cfg : Settings) (p : Platform) : Prop where
  controlPlane : ControlPlane.Inv p.stack.controlPlane
  engine : Batching.Inv cfg.scheduler.batch p.stack.engine
  waiting : ∀ {r}, p.stack.controlPlane.overview.waits r → Past p.stack.controlPlane.overview r
  batched : ∀ {r id}, p.stack.engine.requestToBatch.get? r = some id → Past p.stack.controlPlane.overview r
  /-- a call that waits for the admission checks is the only one for its request -/
  admitting : ∀ {i : ℕ} {call : Call} {ref : Ref}, p.calls[i]? = some call → call.phase = .admitting ref →
    ∃ r, Admitting p.stack.controlPlane call.path ref r ∧
      ∀ {j : ℕ} {call' : Call}, p.calls[j]? = some call' → call'.path.requestId? = some r → j = i

theorem sound_init (cfg : Settings) (policy : Scheduling.SchedulerPolicy) : Sound cfg (Platform.init policy) where
  controlPlane := ControlPlane.inv_init
  engine := Batching.inv_init cfg.scheduler.batch
  waiting h := by
    obtain ⟨item, hitem, -⟩ := h
    cases hitem
  batched h := by cases h
  admitting h := by cases h

/-- a call is made for an id that no call has, or for one that has been through the intake -/
theorem fresh_or_past (hd : Distinct p (.call path now)) (hr : path.requestId? = some r) :
    p.Fresh r ∨ Past p.stack.controlPlane.overview r := by
  cases path with
  | acceptRequest submit =>
    cases hr
    exact Or.inl hd
  | executeFullPath submit =>
    cases hr
    exact Or.inl hd
  | streamSse submit =>
    cases hr
    rcases hd with hfresh | ⟨st, hst, hpast⟩
    · exact Or.inl hfresh
    · exact Or.inr ⟨st, hst, hpast⟩
  | runSchedulingCycle => cases hr

/-- every step of the platform is one of `Steps` -/
theorem step_steps (h : Sound cfg p) (hd : Distinct p op) : Platform.Steps cfg p op (p.step cfg op) := by
  cases op with
  | call path now => exact .call (begins_start h.controlPlane hd)
  | resume i event now =>
    cases hres : p.resumption cfg i event now with
    | none =>
      have hstep : p.step cfg (.resume i event now) = p := by simp only [Platform.step, hres]
      rw [hstep]
      exact .idle hres
    | some found =>
      obtain ⟨call, x⟩ := found
      have hparts : p.calls[i]? = some call ∧ advance cfg call now event = some x := by
        simp only [Platform.resumption, Option.bind_eq_bind, Option.bind_eq_some_iff,
          Option.pure_def, Option.some.injEq, Prod.mk.injEq] at hres
        obtain ⟨call', hcall, x', hx, rfl, rfl⟩ := hres
        exact ⟨hcall, hx⟩
      have hadmitting : ∀ ref, call.phase = .admitting ref → ∃ r, Admitting p.stack.controlPlane call.path ref r := by
        intro ref hphase
        obtain ⟨r, hadm, -⟩ := h.admitting hparts.1 hphase
        exact ⟨r, hadm⟩
      have hturn := turn_of_advance h.controlPlane h.engine hparts.2 hadmitting
      have hstep : p.step cfg (.resume i event now) =
          { stack := (perform call.path x p.stack).1
            calls := p.calls.set i { call with phase := (perform call.path x p.stack).2 } } := by
        simp only [Platform.step, hres]
      rw [hstep]
      exact .resume hparts.1 hturn
  | tick inj now => exact .tick
  | processTimeouts now =>
    obtain ⟨refs, cp, hrun, hl⟩ := ControlPlane.processTimeouts_spec cfg.controlPlane.queue h.controlPlane now
    have hstep : p.step cfg (.processTimeouts now) = { p with stack := { p.stack with controlPlane := cp } } := by
      simp only [Platform.step, PlatformM.final, onControlPlane_ok hrun]
    rw [hstep]
    exact .processTimeouts (arrives_of_leaves hl)

/-- no turn ends before the admission checks -/
theorem Path.Finishes.not_admitting {phase : Phase} (h : path.Finishes phase) (ref : Ref) : phase ≠ .admitting ref := by
  rcases h with rfl | ⟨err, rfl⟩
  · exact Phase.noConfusion
  · cases path <;> exact Phase.noConfusion

theorem Path.entered_not_admitting (path : Path) (state : RequestState) (ref : Ref) :
    path.entered state ≠ .admitting ref := by
  cases path with
  | acceptRequest submit => exact Phase.noConfusion
  | runSchedulingCycle => exact Phase.noConfusion
  | executeFullPath submit =>
    unfold Path.entered
    dsimp only
    split_ifs <;> exact Phase.noConfusion
  | streamSse submit =>
    unfold Path.entered
    dsimp only
    split_ifs <;> exact Phase.noConfusion

theorem concluded_not_admitting (path : Path) (o : Overview) (result : SchedulingResult)
    (view : AdapterView) (ref : Ref) :
    (concluded path o result view).2 ≠ .admitting ref := by
  cases path with
  | acceptRequest submit => exact Phase.noConfusion
  | runSchedulingCycle => exact Phase.noConfusion
  | executeFullPath submit =>
    simp only [concluded]
    cases o.status submit.inferenceRequest.requestId with
    | none => exact Phase.noConfusion
    | some st =>
      simp only [Option.elim_some, finalized]
      cases verdict result submit.inferenceRequest.requestId <;> dsimp only <;>
        (try split_ifs) <;> exact Phase.noConfusion
  | streamSse submit =>
    simp only [concluded]
    cases o.status submit.inferenceRequest.requestId with
    | none => exact Phase.noConfusion
    | some st =>
      simp only [Option.elim_some, opened]
      cases verdict result submit.inferenceRequest.requestId <;> dsimp only <;>
        (try split_ifs) <;> exact Phase.noConfusion

theorem Turn.not_admitting {phase phase' : Phase} {event : Event} (h : Turn cfg s path now phase event s' phase')
    (ref : Ref) : phase' ≠ .admitting ref := by
  have hfailed : ∀ err, path.failed err ≠ .admitting ref :=
    fun err => Path.Finishes.not_admitting (Or.inr ⟨err, rfl⟩) ref
  cases h with
  | admitted hr hs hcp => exact path.entered_not_admitting _ ref
  | cycled => exact Phase.noConfusion
  | submitting hsub ha => exact Phase.noConfusion
  | concluded hsub ha hcp => exact concluded_not_admitting path _ _ _ ref
  | completed hends hr hs hst hcp => cases hends <;> exact Phase.noConfusion
  | refused hends hr hno => exact hfailed _
  | cancelled hr hs hst hfinishes hcp => exact hfinishes.not_admitting ref
  | failureStored hr hs hfailed hcancelled hcp => exact Phase.noConfusion
  | rests hrests =>
    cases hrests with
    | completion => exact hfailed _
    | streamError => exact hfailed _
    | cancelStream => exact Phase.noConfusion
    | cancelled hfinishes => exact hfinishes.not_admitting ref
    | persistResult hfinishes => exact hfinishes.not_admitting ref
    | persistFailure hfinishes => exact hfinishes.not_admitting ref

/-- a call that waits for the admission checks goes on waiting while others step -/
theorem Admitting.kept {ref : Ref} (hadm : Admitting s.controlPlane path ref r) (hreaches : Reaches cfg now own s s')
    (hne : own ≠ some r) : Admitting s'.controlPlane path ref r := by
  have hstatus : s'.controlPlane.overview.status r = some ⟨.validated, none⟩ := by
    rcases hreaches.evolves.others hne with hsame | ⟨hlate, -⟩
    · exact hsame.trans hadm.validated
    · obtain ⟨item, hitem, hid⟩ := List.mem_map.1 hlate
      exact absurd ⟨item, List.mem_of_mem_filter hitem, hid⟩ hadm.unqueued
  refine ⟨hadm.id, hreaches.registry hadm.registered, hstatus, fun hwaits => ?_⟩
  rcases hreaches.evolves.waits hwaits with hbefore | hpast
  · exact hadm.unqueued hbefore
  · exact not_past_of_validated hstatus hpast

/-- the stack's part of the invariant -/
theorem Sound.of_reaches (h : Sound cfg p) (hreaches : Reaches cfg now own p.stack s) {calls : List Call}
    (hadmitting : ∀ {i : ℕ} {call : Call} {ref : Ref}, calls[i]? = some call → call.phase = .admitting ref →
      ∃ r, Admitting s.controlPlane call.path ref r ∧
        ∀ {j : ℕ} {call' : Call}, calls[j]? = some call' → call'.path.requestId? = some r → j = i) :
    Sound cfg ⟨s, calls⟩ where
  controlPlane := hreaches.controlPlane
  engine := hreaches.engine
  waiting hwaits := by
    rcases hreaches.evolves.waits hwaits with hbefore | hpast
    · exact hreaches.evolves.past (h.waiting hbefore)
    · exact hpast
  batched hid := by
    rcases hreaches.batched hid with hbefore | hwaits
    · exact hreaches.evolves.past (h.batched hbefore)
    · exact hreaches.evolves.past (h.waiting hwaits)
  admitting := hadmitting

/-- a step that no call takes -/
theorem Sound.of_own_none (h : Sound cfg p) (hreaches : Reaches cfg now none p.stack s) :
    Sound cfg { p with stack := s } := by
  refine h.of_reaches hreaches fun hcall hphase => ?_
  obtain ⟨r, hadm, halone⟩ := h.admitting hcall hphase
  exact ⟨r, hadm.kept hreaches (by simp), halone⟩

/-- the call that has been resumed, or another one -/
theorem resumed_cases {calls : List Call} {i j : ℕ} {call call' : Call} {phase : Phase} (hcall : calls[i]? = some call)
    (h : (calls.set i { call with phase })[j]? = some call') :
    j = i ∧ call' = { call with phase } ∨ j ≠ i ∧ calls[j]? = some call' := by
  by_cases hij : i = j
  · subst hij
    rw [List.getElem?_set_self', hcall] at h
    exact Or.inl ⟨rfl, (Option.some.inj h).symm⟩
  · rw [List.getElem?_set_ne hij] at h
    exact Or.inr ⟨Ne.symm hij, h⟩

theorem sound_resume (h : Sound cfg p) {i : ℕ} {call : Call} {event : Event} {phase : Phase}
    (hcall : p.calls[i]? = some call) (hturn : Turn cfg p.stack call.path now call.phase event s phase) :
    Sound cfg { stack := s, calls := p.calls.set i { call with phase } } := by
  have hreaches := hturn.reaches h.controlPlane h.engine
  refine h.of_reaches hreaches ?_
  intro j call' ref hj hphase
  rcases resumed_cases hcall hj with ⟨-, rfl⟩ | ⟨hji, hj'⟩
  · exact absurd hphase (hturn.not_admitting ref)
  · obtain ⟨r, hadm, halone⟩ := h.admitting hj' hphase
    have hne : call.path.requestId? ≠ some r := fun hr => hji (halone hcall hr).symm
    refine ⟨r, hadm.kept hreaches hne, fun {k call₁} hk hr => ?_⟩
    rcases resumed_cases hcall hk with ⟨-, rfl⟩ | ⟨-, hk'⟩
    · exact absurd hr hne
    · exact halone hk' hr

theorem called_cases {calls : List Call} {new call : Call} {i : ℕ} (h : (calls ++ [new])[i]? = some call) :
    calls[i]? = some call ∨ i = calls.length ∧ call = new := by
  rcases Nat.lt_or_ge i calls.length with hlt | hge
  · rw [List.getElem?_append_left hlt] at h
    exact Or.inl h
  · rw [List.getElem?_append_right hge, List.getElem?_singleton] at h
    split_ifs at h with hzero
    cases h
    exact Or.inr ⟨by omega, rfl⟩

theorem sound_call (h : Sound cfg p) (hd : Distinct p (.call path now)) {phase : Phase}
    (hbegins : Begins cfg p.stack now path s phase) :
      Sound cfg { stack := s, calls := p.calls ++ [⟨path, phase⟩] } := by
  have hreaches := hbegins.reaches h.controlPlane h.engine
  refine h.of_reaches hreaches ?_
  intro i call ref hi hphase
  rcases called_cases hi with hold | ⟨rfl, rfl⟩
  · -- an earlier call: the new one is for another request
    obtain ⟨r, hadm, halone⟩ := h.admitting hold hphase
    have hne : path.requestId? ≠ some r := by
      intro hr
      rcases fresh_or_past hd hr with hfresh | hpast
      · exact hfresh.2 call (List.mem_of_getElem? hold) hadm.id
      · exact not_past_of_validated hadm.validated hpast
    refine ⟨r, hadm.kept hreaches hne, fun {j call'} hj hr => ?_⟩
    rcases called_cases hj with hj' | ⟨-, rfl⟩
    · exact halone hj' hr
    · exact absurd hr hne
  · -- the new call: its id is fresh
    cases hbegins with
    | refused hr hnew hfull hcp => exact absurd hphase (Path.Finishes.not_admitting (Or.inr ⟨_, rfl⟩) ref)
    | @found submit st hs hst => exact absurd hphase ((Path.streamSse submit).entered_not_admitting st.state ref)
    | cycle => cases hphase
    | @admits _ r _ cp hr hnew href hcp =>
      cases hphase
      have hfresh : p.Fresh r := by
        refine (fresh_or_past hd hr).resolve_right ?_
        rintro ⟨st, hst, -⟩
        rw [hnew] at hst
        cases hst
      have hstatus : cp.overview.status r = some ⟨.validated, none⟩ := by
        rw [hcp.overview]
        exact Overview.put_status_self _ r _
      refine ⟨r, ⟨hr, href, hstatus, fun hwaits => ?_⟩, fun {j call'} hj hr' => ?_⟩
      · rw [hcp.overview] at hwaits
        obtain ⟨st, hst, -⟩ := h.waiting (waits_of_expire hwaits)
        rw [hnew] at hst
        cases hst
      · rcases called_cases hj with hj' | ⟨rfl, -⟩
        · exact absurd hr' (hfresh.2 call' (List.mem_of_getElem? hj'))
        · rfl

theorem sound_step (h : Sound cfg p) (hd : Distinct p op) : Sound cfg (p.step cfg op) := by
  have hsteps := step_steps h hd
  generalize p.step cfg op = p' at hsteps ⊢
  cases hsteps with
  | call hbegins => exact sound_call h hd hbegins
  | resume hcall hturn => exact sound_resume h hcall hturn
  | idle hidle => exact h
  | tick => exact h.of_own_none (Reaches.cycled h.controlPlane h.engine _ _)
  | processTimeouts hcp => exact h.of_own_none (.arrives h.engine hcp (.processTimeouts cfg _ none _))

/-- when the step is taken -/
def PlatformOp.time : PlatformOp → Time
  | .call _ now | .resume _ _ now | .tick _ now | .processTimeouts now => now

/-- the request whose call takes the step -/
def Platform.actor (p : Platform) : PlatformOp → Option UUID
  | .call path _ => path.requestId?
  | .resume i _ _ => p.calls[i]?.bind fun call => call.path.requestId?
  | .tick .. | .processTimeouts .. => none

theorem Platform.Steps.reaches {p' : Platform} (h : Sound cfg p) (hsteps : Platform.Steps cfg p op p') :
    Reaches cfg op.time (p.actor op) p.stack p'.stack := by
  cases hsteps with
  | call hbegins => exact hbegins.reaches h.controlPlane h.engine
  | @resume i call event now s phase hcall hturn =>
    have hactor : p.actor (.resume i event now) = call.path.requestId? := by
      simp only [Platform.actor, hcall, Option.bind_some]
    rw [hactor]
    exact hturn.reaches h.controlPlane h.engine
  | idle hidle => exact .refl h.controlPlane h.engine
  | tick => exact .cycled h.controlPlane h.engine _ _
  | processTimeouts hcp => exact .arrives h.engine hcp (.processTimeouts cfg _ _ _)

/-- in every state of a run with distinct ids -/
theorem run_sound (cfg : Settings) (policy : Scheduling.SchedulerPolicy) {ops : List PlatformOp}
    (h : Meets (Platform.step cfg) Distinct (Platform.init policy) ops) :
    Sound cfg (run (Platform.step cfg) (Platform.init policy) ops) :=
  h.run_inv (I := Sound cfg) (fun _ _ hs hd => sound_step hs hd) (sound_init cfg policy)

end InferencePlatform.Gateway
