/-
Slots and dispatches of requests that have ended.

Only the completion of a request gives its slot back. Whatever else ends a request tells the registry and not the
engine: its path gives it up (a refusal by the engine, a cycle that did not select it, a dispatch that was refused), its
stream fails or is cancelled, or the queue times it out. If it holds a slot then, it keeps it, and the next dispatch of
its batch sends it to a backend (`failed_request_dispatched`). A request that has ended without a slot can still get
one, for its queue item stays, and a failover repeats the assignments of the first attempt.

`slots_given_back`: in a run in which none of this happens (`Releases`), a request that has ended holds no slot, and is
sent to no backend from then on.
-/
import InferencePlatform.Dispatch.Payload
import InferencePlatform.Gateway.Endings
import InferencePlatform.Scheduling.Entries

namespace InferencePlatform.Gateway

open InferencePlatform.Core (run Meets)
open Dispatch (BatchDispatchService SubmitTask Attempt AdapterOutcome Iteration)
open Scheduling (SchedulingResult)

variable {cfg : Settings} {s s' : PlatformStack} {p p' : Platform} {op : PlatformOp} {r : UUID} {path : Path}
  {now : Time}

/-! ## The property -/

/-- the request holds no slot in `p`, and no dispatch between `p` and `p'` sends it -/
structure GivenBack (p p' : Platform) (r : UUID) : Prop where
  slot : ¬p.stack.engine.isActive r
  unsent : ∃ later, p'.stack.dispatch.sent = p.stack.dispatch.sent ++ later ∧
    ∀ d ∈ later, r ∉ d.assignments.map BatchAssignment.requestId

/-! ## The condition -/

/-- the requests a cycle of the stack puts into batches -/
def PlatformStack.entering (cfg : Settings) (s : PlatformStack) (inj : FailureInjectionConfig)
    (now : Time) : List UUID :=
  Scheduling.cycleEntries cfg.scheduler cfg.controlPlane.queue inj now ⟨s.controlPlane, s.policy, s.engine⟩

/-- the requests a step puts into batches -/
def Platform.entering (cfg : Settings) (p : Platform) : PlatformOp → List UUID
  | .resume i (.cycle inj) now =>
    p.calls[i]?.elim [] fun call => if call.phase = .scheduling then p.stack.entering cfg inj now else []
  | .tick inj now => p.stack.entering cfg inj now
  | _ => []

/-- the loop has come to another backend -/
def Iteration.waits : Iteration → Bool
  | .waiting _ => true
  | .returned _ => false

/-- the requests a failover sends once more: those of the attempt it follows -/
def Call.retried (cfg : Settings) (s : PlatformStack) (call : Call) (event : Event) : List UUID :=
  match call.phase, event with
  | .submitting _ task, .adapter view outcome =>
    task.attempt.elim [] fun a =>
      if Iteration.waits (a.settle cfg.dispatch view.route s.engine outcome) then
        a.sub.assignments.map BatchAssignment.requestId
      else []
  | _, _ => []

def Platform.retried (cfg : Settings) (p : Platform) : PlatformOp → List UUID
  | .resume i event _ => p.calls[i]?.elim [] fun call => call.retried cfg p.stack event
  | .call .. | .tick .. | .processTimeouts .. => []

/-- nobody is ended in possession of a slot, nobody gets one after the end, and nobody is sent to another backend after
it -/
structure Releases (cfg : Settings) (p : Platform) (op : PlatformOp) : Prop where
  dropped : ∀ r ∈ p.dropped cfg op, ¬p.stack.engine.isActive r
  entering : ∀ r ∈ p.entering cfg op, ¬p.ended r
  retried : ∀ r ∈ p.retried cfg op, ¬p.ended r

instance (cfg : Settings) (p : Platform) (op : PlatformOp) : Decidable (Releases cfg p op) :=
  decidable_of_iff ((∀ r ∈ p.dropped cfg op, ¬p.stack.engine.isActive r) ∧ (∀ r ∈ p.entering cfg op, ¬p.ended r) ∧
      ∀ r ∈ p.retried cfg op, ¬p.ended r)
    ⟨fun h => ⟨h.1, h.2.1, h.2.2⟩, fun h => ⟨h.dropped, h.entering, h.retried⟩⟩

/-! ## Slots -/

/-- a step either ends requests or puts some into batches -/
theorem dropped_or_entering (cfg : Settings) (p : Platform) (op : PlatformOp) :
    p.dropped cfg op = [] ∨ p.entering cfg op = [] := by
  cases op with
  | call path now => exact Or.inr rfl
  | tick inj now => exact Or.inl rfl
  | processTimeouts now => exact Or.inr rfl
  | resume i event now =>
    cases event with
    | cycle inj =>
      refine Or.inl ?_
      simp only [Platform.dropped]
      cases p.calls[i]? with
      | none => rfl
      | some call =>
        obtain ⟨path, phase⟩ := call
        cases phase <;> rfl
    | _ => exact Or.inr rfl

theorem Turn.isActive (he : Batching.Inv cfg.scheduler.batch s.engine) {phase phase' : Phase} {event : Event}
    (hturn : Turn cfg s path now phase event s' phase') (hactive : s'.engine.isActive r) :
    s.engine.isActive r ∨ phase = .scheduling ∧ ∃ inj, event = .cycle inj ∧ r ∈ s.entering cfg inj now := by
  cases hturn with
  | @cycled inj =>
    rcases (Scheduling.runCycle_isActive cfg.scheduler cfg.controlPlane.queue inj now
      (s := ⟨s.controlPlane, s.policy, s.engine⟩) he r).1 hactive with hold | hentered
    · exact Or.inl hold
    · exact Or.inr ⟨rfl, inj, rfl, hentered⟩
  | completed => exact Or.inl ((released_isActive he _ now).1 hactive).1
  | refused => exact Or.inl ((released_isActive he _ now).1 hactive).1
  | _ => exact Or.inl hactive

/-- a request gets its slot in a cycle -/
theorem Platform.Steps.isActive (h : Sound cfg p) (hsteps : Platform.Steps cfg p op p')
    (hactive : p'.stack.engine.isActive r) : p.stack.engine.isActive r ∨ r ∈ p.entering cfg op := by
  cases hsteps with
  | call hbegins => cases hbegins <;> exact Or.inl hactive
  | @resume i call event now s phase hcall hturn =>
    rcases hturn.isActive h.engine hactive with hold | ⟨hphase, inj, rfl, hentered⟩
    · exact Or.inl hold
    · refine Or.inr ?_
      simp only [Platform.entering, hcall, Option.elim_some, if_pos hphase]
      exact hentered
  | idle => exact Or.inl hactive
  | @tick inj now =>
    exact (Scheduling.runCycle_isActive cfg.scheduler cfg.controlPlane.queue inj now
      (s := ⟨p.stack.controlPlane, p.stack.policy, p.stack.engine⟩) h.engine r).1 hactive
  | processTimeouts => exact Or.inl hactive

/-- no request that has ended holds a slot -/
def Idle (p : Platform) : Prop := ∀ r, p.ended r → ¬p.stack.engine.isActive r

theorem idle_init (policy : Scheduling.SchedulerPolicy) : Idle (Platform.init policy) := by
  rintro r ⟨st, hst, -⟩
  cases hst

theorem idle_step (h : Sound cfg p) (hd : Distinct p op) (hrel : Releases cfg p op) (hidle : Idle p) :
    Idle (p.step cfg op) := by
  have hsteps := step_steps h hd
  intro r hended hactive
  rcases (hsteps.endsOnly h).ended hended with hbefore | hdropped | hfree
  · -- it has ended before, and a cycle puts it into a batch now
    rcases hsteps.isActive h hactive with hold | hentered
    · exact hidle r hbefore hold
    · exact hrel.entering r hentered hbefore
  · have hnone : p.entering cfg op = [] := by
      rcases dropped_or_entering cfg p op with hnil | hnil
      · rw [hnil] at hdropped
        cases hdropped
      · exact hnil
    rcases hsteps.isActive h hactive with hold | hentered
    · exact hrel.dropped r hdropped hold
    · rw [hnone] at hentered
      cases hentered
  · exact hfree hactive

/-! ## Dispatches -/

/-- what a step of a call sends: ACTIVE requests, or what a failover repeats -/
theorem Submits.sends (path : Path) (he : Batching.Inv cfg.scheduler.batch s.engine) {phase : Phase} {event : Event}
    {view : AdapterView} {result : SchedulingResult} {svc : BatchDispatchService} {task : SubmitTask}
    (h : Submits cfg s phase event view result svc task) :
    svc.sent = s.dispatch.sent ++ (task.attempt.map Attempt.dispatch).toList ∧
      ∀ a, task.attempt = some a → ∀ r ∈ a.dispatch.assignments.map BatchAssignment.requestId,
        s.engine.isActive r ∨ r ∈ Call.retried cfg s ⟨path, phase⟩ event := by
  have hvisit : ∀ {submitted ids results a r},
      (Dispatch.visit cfg.dispatch view.route s.engine submitted ids results).attempt =
      some a → r ∈ a.dispatch.assignments.map BatchAssignment.requestId → s.engine.isActive r := by
    intro submitted ids results a r ha hr
    obtain ⟨id, hid⟩ := Dispatch.visit_assignments ha
    rw [hid] at hr
    exact he.isActive_of_assigned hr
  cases h with
  | disabled hd => exact ⟨by simp, fun a ha => by cases ha⟩
  | start hd => exact ⟨rfl, fun a ha r hr => Or.inl (hvisit ha hr)⟩
  | @resume result task a view outcome hattempt =>
    constructor
    · simp only [SubmitTask.resumeWith, BatchDispatchService.logSent]
      congr 1
      unfold BatchDispatchService.settled
      split_ifs <;> rfl
    · intro a' ha' r hr
      simp only [SubmitTask.resumeWith] at ha'
      cases hset : a.settle cfg.dispatch view.route s.engine outcome with
      | waiting a₁ =>
        simp only [hset, Option.some.injEq] at ha'
        subst ha'
        rw [Dispatch.settle_assignments hset] at hr
        refine Or.inr ?_
        simp only [Call.retried, hattempt, Option.elim_some, hset, Iteration.waits, if_true]
        exact hr
      | returned res =>
        simp only [hset] at ha'
        exact Or.inl (hvisit ha' hr)

theorem Turn.sends (he : Batching.Inv cfg.scheduler.batch s.engine) {phase phase' : Phase} {event : Event}
    (hturn : Turn cfg s path now phase event s' phase') :
    ∃ later, s'.dispatch.sent = s.dispatch.sent ++ later ∧
      ∀ d ∈ later, ∀ r ∈ d.assignments.map BatchAssignment.requestId,
        s.engine.isActive r ∨ r ∈ Call.retried cfg s ⟨path, phase⟩ event := by
  have hsubmits : ∀ {view result svc task}, Submits cfg s phase event view result svc task →
      ∃ later, svc.sent = s.dispatch.sent ++ later ∧
        ∀ d ∈ later, ∀ r ∈ d.assignments.map BatchAssignment.requestId,
          s.engine.isActive r ∨ r ∈ Call.retried cfg s ⟨path, phase⟩ event := by
    intro view result svc task hsub
    obtain ⟨hsent, hwhom⟩ := hsub.sends path he
    refine ⟨_, hsent, fun d hd r hr => ?_⟩
    obtain ⟨a, ha, rfl⟩ := Option.map_eq_some_iff.1 (Option.mem_toList.1 hd)
    exact hwhom a ha r hr
  have hquiet : s'.dispatch = s.dispatch → ∃ later, s'.dispatch.sent = s.dispatch.sent ++ later ∧
      ∀ d ∈ later, ∀ r ∈ d.assignments.map BatchAssignment.requestId,
        s.engine.isActive r ∨ r ∈ Call.retried cfg s ⟨path, phase⟩ event := by
    intro hsame
    exact ⟨[], by simp [hsame], by simp⟩
  cases hturn with
  | submitting hsub ha => exact hsubmits hsub
  | concluded hsub ha hcp => exact hsubmits hsub
  | _ => exact hquiet rfl

theorem Platform.Steps.sends (h : Sound cfg p) (hsteps : Platform.Steps cfg p op p') :
    ∃ later, p'.stack.dispatch.sent = p.stack.dispatch.sent ++ later ∧
      ∀ d ∈ later, ∀ r ∈ d.assignments.map BatchAssignment.requestId,
        p.stack.engine.isActive r ∨ r ∈ p.retried cfg op := by
  have hquiet : p'.stack.dispatch = p.stack.dispatch →
      ∃ later, p'.stack.dispatch.sent = p.stack.dispatch.sent ++ later ∧
      ∀ d ∈ later, ∀ r ∈ d.assignments.map BatchAssignment.requestId,
        p.stack.engine.isActive r ∨ r ∈ p.retried cfg op := by
    intro hsame
    exact ⟨[], by simp [hsame], by simp⟩
  cases hsteps with
  | call hbegins =>
    apply hquiet
    cases hbegins <;> rfl
  | @resume i call event now s phase hcall hturn =>
    have hretried : p.retried cfg (.resume i event now) = call.retried cfg p.stack event := by
      simp only [Platform.retried, hcall, Option.elim_some]
    rw [hretried]
    exact hturn.sends h.engine
  | idle => exact hquiet rfl
  | tick => exact hquiet rfl
  | processTimeouts => exact hquiet rfl

/-! ## Runs -/

/-- what holds in every state of a run that releases its slots -/
structure Settled (cfg : Settings) (p : Platform) : Prop where
  sound : Sound cfg p
  idle : Idle p

theorem settled_step (h : Settled cfg p) (hc : Distinct p op ∧ Releases cfg p op) : Settled cfg (p.step cfg op) :=
  ⟨sound_step h.sound hc.1, idle_step h.sound hc.1 hc.2 h.idle⟩

theorem ended_step (h : Settled cfg p) (hd : Distinct p op) (hended : p.ended r) : (p.step cfg op).ended r :=
  ((step_steps h.sound hd).endsOnly h.sound).kept hended

/-- a step sends nobody who has ended -/
theorem unsent_step (h : Settled cfg p) (hc : Distinct p op ∧ Releases cfg p op) (hended : p.ended r) :
    ∃ later, (p.step cfg op).stack.dispatch.sent = p.stack.dispatch.sent ++ later ∧
      ∀ d ∈ later, r ∉ d.assignments.map BatchAssignment.requestId := by
  obtain ⟨later, hsent, hwhom⟩ := (step_steps h.sound hc.1).sends h.sound
  refine ⟨later, hsent, fun d hd hr => ?_⟩
  rcases hwhom d hd r hr with hactive | hretried
  · exact h.idle r hended hactive
  · exact hc.2.retried r hretried hended

/-- and no run does, by induction on its steps -/
theorem unsent_run (h : Settled cfg p) {ops : List PlatformOp}
    (hc : Meets (Platform.step cfg) (fun p op => Distinct p op ∧ Releases cfg p op) p ops) (hended : p.ended r) :
    ∃ later, (run (Platform.step cfg) p ops).stack.dispatch.sent = p.stack.dispatch.sent ++ later ∧
      ∀ d ∈ later, r ∉ d.assignments.map BatchAssignment.requestId := by
  induction ops generalizing p with
  | nil => exact ⟨[], by simp, by simp⟩
  | cons op ops ih =>
    obtain ⟨l₁, hsent₁, hnone₁⟩ := unsent_step h hc.1 hended
    obtain ⟨l₂, hsent₂, hnone₂⟩ := ih (settled_step h hc.1) hc.2 (ended_step h hc.1.1 hended)
    refine ⟨l₁ ++ l₂, ?_, fun d hd => ?_⟩
    · rw [Core.run_cons, hsent₂, hsent₁, List.append_assoc]
    · rcases List.mem_append.1 hd with hd | hd
      · exact hnone₁ d hd
      · exact hnone₂ d hd

/-- **Slot release.** Over every interleaving of any number of full paths, streams, cycles and timeouts, with any answer
of the admission checks, of routing, of the backends and of persistence: if no step of the run leaves a slot or a
dispatch to a request that has ended, a request that has ended holds no slot, and is sent to no backend later. -/
theorem slots_given_back (cfg : Settings) (policy : Scheduling.SchedulerPolicy) {pre post : List PlatformOp}
    (hc : Meets (Platform.step cfg) (fun p op => Distinct p op ∧ Releases cfg p op)
      (Platform.init policy) (pre ++ post))
    {r : UUID} (hended : (run (Platform.step cfg) (Platform.init policy) pre).ended r) :
    GivenBack (run (Platform.step cfg) (Platform.init policy) pre)
      (run (Platform.step cfg) (Platform.init policy) (pre ++ post)) r := by
  obtain ⟨hpre, hpost⟩ := Core.meets_append.1 hc
  have h : Settled cfg (run (Platform.step cfg) (Platform.init policy) pre) :=
    hpre.run_inv (I := Settled cfg) (fun _ _ hs hc => settled_step hs hc) ⟨sound_init cfg policy, idle_init policy⟩
  refine ⟨h.idle r hended, ?_⟩
  rw [Core.run_append]
  exact unsent_run h hpost hended

def sampleSettings : Settings := ⟨ControlPlane.sampleSettings, Scheduling.sampleScheduler, Dispatch.plainDispatch, true⟩

/-- a routing engine that knows no backend, and a registry that has every one -/
def sampleView : AdapterView := ⟨fun _ _ _ => .error "no_backend", fun _ => true⟩

/-- call number `i`, a full path for `r`, up to the backend's answer to its submission -/
def fullPath (i : ℕ) (r : UUID) (outcome : AdapterOutcome) (now : Time) : List PlatformOp :=
  [.call (.executeFullPath (ControlPlane.sampleSubmit r)) now, .resume i (.admission (.ok { outcome := .accept })) now,
   .resume i (.cycle {}) now, .resume i (.dispatch sampleView) now, .resume i (.adapter sampleView outcome) now]

/-- the state after a run of the sample platform -/
def platformAfter (ops : List PlatformOp) : Platform := run (Platform.step sampleSettings) (Platform.init .fifo) ops

/-- the backend refuses the batch, and the path marks its request FAILED -/
def refusedOps : List PlatformOp := fullPath 0 1 (.result false "mock" "backend_unavailable") 0

/-- the requests of each dispatch so far -/
def Platform.sentIds (p : Platform) : List (List UUID) :=
  p.stack.dispatch.sent.map fun d => d.assignments.map BatchAssignment.requestId

/-- **A failed request is dispatched.** It is FAILED and holds its slot; the dispatch of the next call sends it
again. -/
theorem failed_request_dispatched :
    (platformAfter refusedOps).ended 1 ∧ (platformAfter refusedOps).stack.engine.isActive 1 ∧
      (platformAfter refusedOps).sentIds = [[1]] ∧
      (platformAfter (refusedOps ++ fullPath 1 2 (.result true "mock" "accepted") 1)).sentIds = [[1], [1, 2]] ∧
      ¬GivenBack (platformAfter refusedOps)
        (platformAfter (refusedOps ++ fullPath 1 2 (.result true "mock" "accepted") 1)) 1 := by
  have hactive : (platformAfter refusedOps).stack.engine.isActive 1 := by decide +kernel
  refine ⟨?_, hactive, ?_, ?_, fun h => h.slot hactive⟩
  · decide +kernel
  · decide +kernel
  · decide +kernel

/-- a path whose request completes, and a cycle that finds its item in the queue -/
def completedOps : List PlatformOp :=
  fullPath 0 1 (.result true "mock" "accepted") 0 ++ [.resume 0 (.completion (.ok none)) 0]

theorem slots_given_back_completed :
    GivenBack (platformAfter completedOps) (platformAfter (completedOps ++ [.tick {} 1])) 1 :=
  slots_given_back sampleSettings .fifo (by decide +kernel) (by decide +kernel)

end InferencePlatform.Gateway
