/-
What one step of the platform does for the full paths that are under way, when nothing stands in their way.

`Favourable` collects what is promised of the surroundings: fresh ids and few calls, no timeout, no fault, and answers
that are in order. `Attended` is about the platform's own doing: a call runs its cycle before any other cycle has placed
its request, and the visits of its dispatch do not pass over the batch that holds it.

`Tracks` says how far a request has come with its call. Under both conditions the call that takes a step moves on to a
phase nearer its end and its request with it (`Going.turn`), and the others stay where they are (`Tracks.kept`).
-/
import InferencePlatform.Dispatch.Underway
import InferencePlatform.Gateway.QueueItems
import InferencePlatform.Scheduling.Coverage

namespace InferencePlatform.Gateway

open InferencePlatform.Core (Meets)
open ControlPlane (ControlPlaneApplication Ref Overview Status)
open Batching (WindowsOpen Silent Room Lacks)
open Dispatch (BatchDispatchService SubmitTask Attempt AdapterOutcome Finds Underway passedOver)
open Scheduling (SchedulingResult Places)

variable {cfg : Settings} {n : ℕ} {s s' : PlatformStack} {p p' : Platform} {op : PlatformOp} {r : UUID}
  {phase phase' : Phase} {now : Time} {result : SchedulingResult}

/-! ## The surroundings -/

/-- there is room for `n` requests -/
structure Roomy (cfg : Settings) (n : ℕ) : Prop where
  registry : n ≤ cfg.controlPlane.registryMaxEntries
  queue : n ≤ cfg.controlPlane.queue.maxQueueSize
  batch : n ≤ cfg.scheduler.batch.maxBatchSize
  active : n ≤ cfg.scheduler.batch.maxActiveRequests
  scan : n ≤ cfg.scheduler.queueScanLimit
  candidates : n ≤ cfg.scheduler.maxCandidateRequests

instance (cfg : Settings) (n : ℕ) : Decidable (Roomy cfg n) :=
  decidable_of_iff (n ≤ cfg.controlPlane.registryMaxEntries ∧ n ≤ cfg.controlPlane.queue.maxQueueSize ∧
      n ≤ cfg.scheduler.batch.maxBatchSize ∧ n ≤ cfg.scheduler.batch.maxActiveRequests ∧
      n ≤ cfg.scheduler.queueScanLimit ∧
      n ≤ cfg.scheduler.maxCandidateRequests)
    ⟨fun ⟨h₁, h₂, h₃, h₄, h₅, h₆⟩ => ⟨h₁, h₂, h₃, h₄, h₅, h₆⟩,
      fun h => ⟨h.registry, h.queue, h.batch, h.active, h.scan, h.candidates⟩⟩

/-- what a call is resumed with is in order: admission accepts, no fault is injected, routing finds a backend, and the
backend accepts and completes -/
def Event.Healthy (cfg : Settings) : Event → Prop
  | .admission result => ∃ a, result = .ok a ∧ a.outcome = .accept
  | .cycle inj => Silent inj
  | .dispatch view => Finds cfg.dispatch view.route
  | .adapter view outcome => Finds cfg.dispatch view.route ∧ outcome.accepted = true
  | .completion outcome => ∃ completion, outcome = .ok completion
  | .streamEnd | .streamError _ | .cancelStream | .cancelled .. | .persistResult _ | .persistFailure => True

/-- full paths only, and whatever they meet is in order -/
def PlatformOp.Healthy (cfg : Settings) : PlatformOp → Prop
  | .call path _ => ∃ submit, path = .executeFullPath submit
  | .resume _ event _ => event.Healthy cfg
  | .tick inj _ => Silent inj
  | .processTimeouts _ => True

def PlatformOp.isCall : PlatformOp → Bool
  | .call .. => true
  | .resume .. | .tick .. | .processTimeouts .. => false

/-- a new call is one of `n`, and no queue timeout and no batch admission window elapses -/
structure Timely (cfg : Settings) (n : ℕ) (p : Platform) (op : PlatformOp) : Prop where
  few : op.isCall = true → p.calls.length < n
  queue : p.stack.controlPlane.overview.lateIds cfg.controlPlane.queue op.time = []
  windows : WindowsOpen op.time p.stack.engine

instance (cfg : Settings) (n : ℕ) (p : Platform) (op : PlatformOp) : Decidable (Timely cfg n p op) :=
  decidable_of_iff ((op.isCall = true → p.calls.length < n) ∧
      p.stack.controlPlane.overview.lateIds cfg.controlPlane.queue op.time = [] ∧ WindowsOpen op.time p.stack.engine)
    ⟨fun ⟨h₁, h₂, h₃⟩ => ⟨h₁, h₂, h₃⟩, fun h => ⟨h.few, h.queue, h.windows⟩⟩

/-- a step of at most `n` full paths with distinct ids, under the best of circumstances -/
structure Favourable (cfg : Settings) (n : ℕ) (p : Platform) (op : PlatformOp) : Prop where
  healthy : op.Healthy cfg
  distinct : Distinct p op
  timely : Timely cfg n p op

/-! ## The condition -/

/-- the batches that a call's visits pass over in the step -/
def passes (cfg : Settings) (s : PlatformStack) : Phase → Event → List UUID
  | .scheduled _, .dispatch _ =>
    passedOver cfg.dispatch s.dispatch.submittedBatchIds s.engine (s.engine.listBatches.map Batching.Batch.batchId)
  | .submitting _ task, .adapter _ outcome => task.attempt.elim [] fun a =>
    passedOver cfg.dispatch (s.dispatch.settled a outcome).submittedBatchIds s.engine task.remaining
  | _, _ => []

def runsCycle : Phase → Event → Bool
  | .scheduling, .cycle _ => true
  | _, _ => false

def startsDispatch : Phase → Event → Bool
  | .scheduled _, .dispatch _ => true
  | _, _ => false

/-- a call finds its request in no batch when it runs its cycle, dispatch is enabled, and the call's visits do not pass
over the batch that holds the request -/
structure Attends (cfg : Settings) (s : PlatformStack) (r : UUID) (phase : Phase) (event : Event) : Prop where
  unplaced : runsCycle phase event = true → s.engine.requestToBatch.get? r = none
  enabled : startsDispatch phase event = true → cfg.dispatchEnabled = true
  visited : ∀ id ∈ s.engine.requestToBatch.get? r, id ∉ passes cfg s phase event

instance (cfg : Settings) (s : PlatformStack) (r : UUID) (phase : Phase) (event : Event) :
    Decidable (Attends cfg s r phase event) :=
  decidable_of_iff ((runsCycle phase event = true → s.engine.requestToBatch.get? r = none) ∧
      (startsDispatch phase event = true → cfg.dispatchEnabled = true) ∧
      ∀ id ∈ s.engine.requestToBatch.get? r, id ∉ passes cfg s phase event)
    ⟨fun ⟨h₁, h₂, h₃⟩ => ⟨h₁, h₂, h₃⟩, fun h => ⟨h.unplaced, h.enabled, h.visited⟩⟩

/-- the call that takes the step attends to its request -/
def Attended (cfg : Settings) (p : Platform) : PlatformOp → Prop
  | .resume i event _ => ∀ call ∈ p.calls[i]?, ∀ r ∈ call.path.requestId?, Attends cfg p.stack r call.phase event
  | .call .. | .tick .. | .processTimeouts .. => True

instance (cfg : Settings) (p : Platform) : (op : PlatformOp) → Decidable (Attended cfg p op)
  | .resume i event _ =>
    inferInstanceAs (Decidable (∀ call ∈ p.calls[i]?, ∀ r ∈ call.path.requestId?,
      Attends cfg p.stack r call.phase event))
  | .call .. | .tick .. | .processTimeouts .. => isTrue trivial

/-! ## How far a request has come -/

/-- the request waits for its cycle -/
def Waiting (s : PlatformStack) (r : UUID) : Prop :=
  s.controlPlane.overview.status r = some ⟨.queued, none⟩ ∧ s.controlPlane.overview.waits r

/-- its cycle has placed it -/
def Held (s : PlatformStack) (r : UUID) (result : SchedulingResult) : Prop :=
  s.controlPlane.overview.status r = some ⟨.queued, none⟩ ∧
    Places result.placementDecisions result.rejectionDecisions s.engine r

/-- the batch that holds it is on its way -/
def Sent (s : PlatformStack) (r : UUID) (task : SubmitTask) : Prop :=
  ∀ id, s.engine.requestToBatch.get? r = some id → Underway task id

/-- how far the request of a full path has come when its call is in the phase -/
def Tracks (s : PlatformStack) (r : UUID) : Phase → Prop
  | .admitting _ => True
  | .scheduling => Waiting s r
  | .scheduled result => Held s r result
  | .submitting result task => Held s r result ∧ task.attempt ≠ none ∧ Sent s r task
  | .executing _ => ∃ st, s.controlPlane.overview.status r = some st ∧ st.state = .submitted
  | .returned => ∃ st, s.controlPlane.overview.status r = some st ∧ st.state = .completed
  | .streaming _ | .cancelling | .persisting | .streamFailed _ | .raised _ => False

/-- how far a full path is from its end, and in `submit_pending_batches` how many batches are left -/
def Phase.rank : Phase → ℕ ×ₗ ℕ
  | .admitting _ => toLex (5, 0)
  | .scheduling => toLex (4, 0)
  | .scheduled _ => toLex (3, 0)
  | .submitting _ task => toLex (2, task.remaining.length)
  | .executing _ => toLex (1, 0)
  | .streaming _ | .cancelling | .persisting | .streamFailed _ | .returned | .raised _ => toLex (0, 0)

theorem Held.kept (h : Held s r result)
    (hstatus : s'.controlPlane.overview.status r = s.controlPlane.overview.status r)
    (hbatch : ∀ id, s.engine.requestToBatch.get? r = some id → s'.engine.requestToBatch.get? r = some id) :
    Held s' r result := by
  obtain ⟨hqueued, ⟨x, hfind, hid⟩, hnot⟩ := h
  exact ⟨hstatus.trans hqueued, ⟨x, hfind, hbatch _ hid⟩, hnot⟩

/-- a step that leaves the request alone -/
theorem Tracks.kept (h : Tracks s r phase)
    (hstatus : s'.controlPlane.overview.status r = s.controlPlane.overview.status r)
    (hwaits : Past s.controlPlane.overview r → s.controlPlane.overview.waits r → s'.controlPlane.overview.waits r)
    (hbatch : ∀ id, s.engine.requestToBatch.get? r = some id → s'.engine.requestToBatch.get? r = some id) :
    Tracks s' r phase := by
  cases phase with
  | admitting ref => trivial
  | scheduling =>
    obtain ⟨hqueued, hw⟩ := h
    exact ⟨hstatus.trans hqueued, hwaits ⟨_, hqueued, rfl⟩ hw⟩
  | scheduled result => exact Held.kept h hstatus hbatch
  | submitting result task =>
    obtain ⟨hheld, hattempt, hsent⟩ := h
    refine ⟨hheld.kept hstatus hbatch, hattempt, fun id hid => hsent id ?_⟩
    -- the batch that holds it is the one that held it
    obtain ⟨-, ⟨x, -, hx⟩, -⟩ := hheld
    rw [hbatch _ hx] at hid
    rw [hx, hid]
  | executing backendId =>
    obtain ⟨st, hst, hsubmitted⟩ := h
    exact ⟨st, hstatus.trans hst, hsubmitted⟩
  | returned =>
    obtain ⟨st, hst, hcompleted⟩ := h
    exact ⟨st, hstatus.trans hst, hcompleted⟩
  | _ => cases h

theorem readsAt_time {now : Time} (h : now ∈ p.readsAt op) : now = op.time := by
  have hcycle : ∀ {inj : FailureInjectionConfig} {now now' : Time}, now' ∈ cycleReads inj now → now' = now := by
    intro inj now now' h
    unfold cycleReads at h
    split_ifs at h
    · cases h
    · exact (Option.some.inj h).symm
  cases op with
  | call path now' =>
    simp only [Platform.readsAt] at h
    split_ifs at h
    · exact (Option.some.inj h).symm
    · cases h
  | resume i event now' =>
    obtain ⟨call, -, hread⟩ := Option.bind_eq_some_iff.1 h
    unfold Call.readsAt at hread
    split at hread
    · split_ifs at hread
      exact (Option.some.inj hread).symm
    · exact hcycle hread
    · cases hread
  | tick inj now' => exact hcycle h
  | processTimeouts now' => exact (Option.some.inj h).symm

/-- nobody but the request whose call takes the step changes its status -/
theorem Platform.Steps.status (h : Sound cfg p) (htimely : Timely cfg n p op) (hsteps : Platform.Steps cfg p op p')
    (hown : p.actor op ≠ some r) :
    p'.stack.controlPlane.overview.status r = p.stack.controlPlane.overview.status r := by
  rcases (hsteps.reaches h).evolves.others hown with hsame | ⟨hlate, -⟩
  · exact hsame
  · rw [htimely.queue] at hlate
    cases hlate

/-- a request stays where it is while others step -/
theorem Platform.Steps.tracks (h : Sound cfg p) (htimely : Timely cfg n p op) (hsteps : Platform.Steps cfg p op p')
    (hown : p.actor op ≠ some r) (htracks : Tracks p.stack r phase) : Tracks p'.stack r phase := by
  refine htracks.kept (hsteps.status h htimely hown) (fun hpast hwaits => ?_) fun id hid => hsteps.kept h hid
  obtain ⟨item, hitem, rfl⟩ := hwaits
  refine ⟨item, ((hsteps.queues h).items hpast).2 ⟨hitem, fun now hnow => ?_⟩, rfl⟩
  by_contra hlate
  have hmem : item.1 ∈ p.stack.controlPlane.overview.lateIds cfg.controlPlane.queue op.time := by
    rw [← readsAt_time hnow]
    exact List.mem_map_of_mem (List.mem_filter.2 ⟨hitem, by simpa using hlate⟩)
  rw [htimely.queue] at hmem
  cases hmem

end InferencePlatform.Gateway
