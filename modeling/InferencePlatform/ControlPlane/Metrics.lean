/-
The request metrics, as the emitters drive them.

Every emitted event passes through `emit` or `emit_queue`, which decide by its type, and by whether it names the state
it comes from, which counter it increments; a terminal counter also takes one off the gauge of active requests.
`metrics` is what a recorder attached from the start shows. Counters commute, so the two kinds of event are counted one
after the other.

`tally` keeps apart what was counted for which request. The events of a state change name the request, for the entry
that is registered under an id is one of that id (`Linked`); so the triples of the operations say what each of them
adds. `Overview.bill` is that in one table, and `step_tally` that the table is right.

Left out: the other instruments and the labels of the instruments of other components.
-/
import InferencePlatform.ControlPlane.Links

namespace InferencePlatform.ControlPlane

open InferencePlatform.Core (Dict Keeps Yields)
open Std.Do

set_option mvcgen.warning false

/-! ## The recorder -/

/-- the request instruments -/
structure MetricsRegistry where
  requestsReceivedTotal : ℕ := 0
  requestsCompletedTotal : ℕ := 0
  requestsFailedTotal : ℕ := 0
  requestsRejectedTotal : ℕ := 0
  activeRequests : ℤ := 0
  deriving DecidableEq, Repr

namespace MetricsRegistry

def finishRequest (m : MetricsRegistry) : MetricsRegistry := { m with activeRequests := m.activeRequests - 1 }

def recordRequestReceived (m : MetricsRegistry) : MetricsRegistry :=
  { m with requestsReceivedTotal := m.requestsReceivedTotal + 1, activeRequests := m.activeRequests + 1 }

def recordRequestCompleted (m : MetricsRegistry) : MetricsRegistry :=
  finishRequest { m with requestsCompletedTotal := m.requestsCompletedTotal + 1 }

def recordRequestFailed (m : MetricsRegistry) : MetricsRegistry :=
  finishRequest { m with requestsFailedTotal := m.requestsFailedTotal + 1 }

def recordRequestRejected (m : MetricsRegistry) : MetricsRegistry :=
  finishRequest { m with requestsRejectedTotal := m.requestsRejectedTotal + 1 }

end MetricsRegistry

/-- the metrics part of `emit` -/
def LifecycleEvent.record (m : MetricsRegistry) (event : LifecycleEvent) : MetricsRegistry :=
  if event.eventType = .requestReceived then m.recordRequestReceived
  else if event.eventType = .requestCompleted ∧ event.fromState ≠ none then m.recordRequestCompleted
  else if event.eventType = .requestFailed then m.recordRequestFailed
  else if event.eventType = .requestRejected ∧ event.fromState ≠ none then m.recordRequestRejected
  else m

/-- the request metrics part of `emit_queue` -/
def QueueEvent.record (m : MetricsRegistry) (event : QueueEvent) : MetricsRegistry :=
  if event.eventType = .queueTimeout then m.recordRequestFailed
  else if event.eventType = .queueFull then m.recordRequestRejected
  else m

def ControlPlaneApplication.metrics (cp : ControlPlaneApplication) : MetricsRegistry :=
  cp.queueEvents.foldl QueueEvent.record (cp.lifecycleEvents.foldl LifecycleEvent.record {})

/-! ## What is counted for which request -/

inductive Counter
  | received | completed | failed | rejected
  deriving DecidableEq, Repr

instance : Fintype Counter := ⟨{.received, .completed, .failed, .rejected}, fun c => by cases c <;> decide⟩

def LifecycleEvent.counter (event : LifecycleEvent) : Option Counter :=
  if event.eventType = .requestReceived then some .received
  else if event.eventType = .requestCompleted ∧ event.fromState ≠ none then some .completed
  else if event.eventType = .requestFailed then some .failed
  else if event.eventType = .requestRejected ∧ event.fromState ≠ none then some .rejected
  else none

def QueueEvent.counter (event : QueueEvent) : Option Counter :=
  if event.eventType = .queueTimeout then some .failed
  else if event.eventType = .queueFull then some .rejected
  else none

/-- how often each counter was incremented for each request -/
abbrev Tally := UUID → Counter → ℕ

/-- one increment, if there is one -/
def Tally.of (r : UUID) : Option Counter → Tally
  | none => 0
  | some c => fun r' c' => if r' = r ∧ c' = c then 1 else 0

@[simp] theorem Tally.of_none (r : UUID) : Tally.of r none = 0 := rfl

theorem Tally.of_some (r r' : UUID) (c c' : Counter) :
    Tally.of r (some c) r' c' = if r' = r ∧ c' = c then 1 else 0 := rfl

def ControlPlaneApplication.tally (cp : ControlPlaneApplication) : Tally :=
  (cp.lifecycleEvents.map fun event => Tally.of event.requestId event.counter).sum +
    (cp.queueEvents.map fun event => Tally.of event.requestId event.counter).sum

/-- the counter for requests that end in a state: timed out requests count as failed, and cancelled ones not at all -/
def endCounter : RequestState → Option Counter
  | .completed => some .completed
  | .failed | .timedOut => some .failed
  | .rejected => some .rejected
  | .received | .validated | .admitted | .queued | .scheduled | .batched | .submitted | .prefilling | .decoding
  | .streaming | .cancelled => none

/-! ## Counting, step by step -/

variable {R : Dict UUID Ref} {L : Tally} {cp cp' : ControlPlaneApplication} {r : UUID} {ref : Ref}

/-- the registry and its entries stand as in `Linked`, and `L` has been counted -/
structure Books (R : Dict UUID Ref) (L : Tally) (cp : ControlPlaneApplication) : Prop where
  linked : Linked R cp
  tally : cp.tally = L

theorem Books.silent (h : Books R L cp) (h' : Linked R cp') (hl : cp'.lifecycleEvents = cp.lifecycleEvents)
    (hq : cp'.queueEvents = cp.queueEvents) : Books R L cp' := by
  refine ⟨h', ?_⟩
  rw [ControlPlaneApplication.tally, hl, hq]
  exact h.tally

/-- what emits nothing counts nothing -/
theorem modifyEntry_books (ref : Ref) (f : RegisteredRequest → RegisteredRequest)
    (hf : ∀ e, (f e).requestId = e.requestId) : Yields (Books R L) (modifyEntry ref f) fun _ => Books R L := by
  mvcgen [modifyEntry]
  next cp h _ => exact h.silent ((modifyEntry_linked ref f hf).ok h.linked rfl) rfl rfl

theorem tally_emitLifecycle (cp : ControlPlaneApplication) (event : LifecycleEvent) :
    ({ cp with events := cp.events ++ [.lifecycle event] } : ControlPlaneApplication).tally =
      cp.tally + Tally.of event.requestId event.counter := by
  simp only [ControlPlaneApplication.tally, ControlPlaneApplication.lifecycleEvents,
    ControlPlaneApplication.queueEvents, List.filterMap_append, List.filterMap_cons, List.filterMap_nil,
    Event.lifecycle?, Event.queue?, List.append_nil, List.map_append, List.sum_append, List.map_cons, List.map_nil,
    List.sum_cons, List.sum_nil, add_zero]
  exact add_right_comm _ _ _

theorem tally_emitQueue (cp : ControlPlaneApplication) (event : QueueEvent) :
    ({ cp with events := cp.events ++ [.queue event] } : ControlPlaneApplication).tally =
      cp.tally + Tally.of event.requestId event.counter := by
  simp only [ControlPlaneApplication.tally, ControlPlaneApplication.lifecycleEvents,
    ControlPlaneApplication.queueEvents, List.filterMap_append, List.filterMap_cons, List.filterMap_nil,
    Event.lifecycle?, Event.queue?, List.append_nil, List.map_append, List.sum_append, List.map_cons, List.map_nil,
    List.sum_cons, List.sum_nil, add_zero]
  exact (add_assoc _ _ _).symm

theorem emitLifecycle_books (event : LifecycleEvent) :
    Yields (Books R L) (emitLifecycle event) fun _ => Books R (L + Tally.of event.requestId event.counter) := by
  mvcgen [emitLifecycle]
  next cp h _ =>
    exact ⟨(emitLifecycle_linked event).ok h.linked rfl, h.tally ▸ tally_emitLifecycle cp event⟩

theorem emitQueue_books (event : QueueEvent) :
    Yields (Books R L) (emitQueue event) fun _ => Books R (L + Tally.of event.requestId event.counter) := by
  mvcgen [emitQueue]
  next cp h _ => exact ⟨(emitQueue_linked event).ok h.linked rfl, h.tally ▸ tally_emitQueue cp event⟩

attribute [local spec] modifyEntry_books emitLifecycle_books emitQueue_books

/-- the entry that is registered under an id is one of the id -/
theorem Books.requestId (h : Books R L cp) (hr : R.get? r = some ref) {e : RegisteredRequest}
    (he : cp.entries[ref]? = some e) : e.requestId = r := by
  obtain ⟨e', he', hid⟩ := h.linked.registered r ref hr
  rw [he] at he'
  cases he'
  exact hid

theorem Books.get? (h : Books R L cp) : cp.registry.get? r = some ref ↔ R.get? r = some ref := by
  rw [h.linked.registry]

theorem endCounter_silent {toState : RequestState} (h : transitionEvent toState = none) :
    endCounter toState = none := by
  cases toState <;> first | rfl | cases h

/-- an event that names the state it comes from counts what the state it leads to says -/
theorem counter_transition {toState : RequestState} {withReason : Bool} (event : LifecycleEvent)
    (h : transitionEvent toState = some (event.eventType, withReason)) (hfrom : event.fromState ≠ none) :
    event.counter = endCounter toState := by
  cases toState <;> simp only [transitionEvent, Option.some.injEq, Prod.mk.injEq, reduceCtorEq] at h <;>
    simp [LifecycleEvent.counter, endCounter, ← h.1, hfrom]

/-- what an event that does not name the state it comes from counts -/
def stateCounter : LifecycleEventType → Option Counter
  | .requestReceived => some .received
  | .requestFailed => some .failed
  | .requestValidated | .requestAdmitted | .requestQueued | .requestScheduled | .requestBatched | .requestSubmitted
  | .requestRejected | .requestCompleted => none

theorem counter_state (event : LifecycleEvent) (hfrom : event.fromState = none) :
    event.counter = stateCounter event.eventType := by
  cases h : event.eventType <;> simp [LifecycleEvent.counter, stateCounter, h, hfrom]

theorem emitStateEvent_books (eventType : LifecycleEventType) (entry : RegisteredRequest) (now : Time)
    (completion : Option InferenceCompletionRecord) :
    Yields (Books R L) (emitStateEvent eventType entry now completion)
      fun _ => Books R (L + Tally.of entry.requestId (stateCounter eventType)) := by
  mvcgen [emitStateEvent]
  rw [counter_state _ rfl]
  exact id

theorem emitForTransition_books (entry : RegisteredRequest) (fromState toState : RequestState) (now : Time) :
    Yields (Books R L) (emitForTransition entry fromState toState now)
      fun _ => Books R (L + Tally.of entry.requestId (endCounter toState)) := by
  mvcgen [emitForTransition]
  next hnone cp h =>
    rw [endCounter_silent hnone, Tally.of_none, add_zero]
    exact h
  next hsome _ _ _ _ =>
    rw [counter_transition _ hsome (by simp)]
    exact id

attribute [local spec] emitStateEvent_books emitForTransition_books

/-- what is returned is the registered entry -/
theorem transition_books (r : UUID) (toState : RequestState) (now : Time) (batchId : Option UUID)
    (backendId : Option String) :
    ⦃fun cp => ⌜Books R L cp⌝⦄ transition r toState now batchId backendId
    ⦃post⟨fun ref cp => ⌜R.get? r = some ref ∧ Books R (L + Tally.of r (endCounter toState)) cp⌝,
      fun _ cp => ⌜Books R L cp⌝⟩⦄ := by
  mvcgen -trivial [transition, getRef, derefEntry, updateState]
  all_goals first | exact ‹Books _ _ _› | (intro e; rfl) | skip
  next _ _ _ _ _ _ h _ _ _ _ _ hr _ _ h' _ he _ _ hfinal =>
    have hr' := h.get?.1 hr
    exact ⟨hr', h'.requestId hr' he ▸ hfinal⟩

attribute [local spec] transition_books

theorem markFailed_books (r : UUID) (reason : FailureReason) (message : String) (now : Time)
    (batchId : Option UUID) (backendId : Option String) :
    ⦃fun cp => ⌜Books R L cp⌝⦄ markFailed r reason message now batchId backendId
    ⦃post⟨fun _ cp => ⌜Books R (L + Tally.of r (some .failed)) cp⌝, fun _ cp => ⌜Books R L cp⌝⟩⦄ := by
  mvcgen -trivial [markFailed, getRef, derefEntry, updateState]
  all_goals first | exact ‹Books _ _ _› | (intro e; rfl) | skip
  next h => exact h.2
  next h _ hr _ _ _ _ _ _ _ _ _ _ _ _ _ _ _ h' _ he _ _ hfinal => exact h'.requestId (h.get?.1 hr) he ▸ hfinal

theorem completeRequest_books (r : UUID) (completion : Option InferenceCompletionRecord) (now : Time) :
    ⦃fun cp => ⌜Books R L cp⌝⦄ completeRequest r completion now
    ⦃post⟨fun _ cp => ⌜Books R (L + Tally.of r (some .completed)) cp⌝, fun _ cp => ⌜Books R L cp⌝⟩⦄ := by
  mvcgen -trivial [completeRequest, getRef, derefEntry]
  all_goals first | exact ‹Books _ _ _› | (intro e; rfl) | skip
  next h _ _ => exact h.2
  next h hnone =>
    -- the transition has returned the registered entry
    obtain ⟨e, he, -⟩ := h.2.linked.registered r _ h.1
    rw [hnone] at he
    cases he

/-- cancellation counts nothing -/
theorem cancel_books (r : UUID) (now : Time) : Keeps (Books R L) (cancel r now) := by
  mvcgen -trivial [cancel, getRef, derefEntry]
  all_goals first | exact ‹Books _ _ _› | exact fun _ h => h

/-- nor does admission, whatever it decides: the event of a rejection does not name the state it comes from -/
theorem startAdmission_books (r : UUID) : Keeps (Books R L) (startAdmission r) := by
  mvcgen [startAdmission, getRef, derefEntry]

theorem finishAdmission_books (r : UUID) (ref : Ref) (result : Except String AdmissionResult) (now : Time) :
    Keeps (Books R L) (finishAdmission r ref result now) := by
  mvcgen -trivial [finishAdmission, getRef, derefEntry, updateState]
  all_goals first | exact ‹Books _ _ _› | (intro e; rfl) | skip
  exact fun _ h => h

attribute [local spec] startAdmission_books finishAdmission_books

theorem runAdmission_books (r : UUID) (checks : List (Except String AdmissionResult)) (now : Time) :
    Keeps (Books R L) (runAdmission r checks now) := by
  mvcgen [runAdmission]

/-! ## Queue operations -/

theorem reindexPositions_books : Keeps (Books R L) reindexPositions := by
  mvcgen [reindexPositions]
  next cp h _ => exact h.silent (reindexPositions_linked.ok h.linked rfl) rfl rfl

attribute [local spec] reindexPositions_books

theorem expireTimeoutsLocked_books (cfg : QueueCapacityConfig) (now : Time) :
    Keeps (Books R L) (expireTimeoutsLocked cfg now) := by
  mvcgen [expireTimeoutsLocked]
  next cp h _ _ => exact h.silent (h.linked.sublist rfl rfl List.filter_sublist) rfl rfl

section Looking

attribute [local spec] expireTimeoutsLocked_books

theorem peek_books (cfg : QueueCapacityConfig) (now : Time) : Keeps (Books R L) (peek cfg now) := by
  mvcgen [peek]

theorem listItems_books (cfg : QueueCapacityConfig) (now : Time) : Keeps (Books R L) (listItems cfg now) := by
  mvcgen [listItems]

attribute [local spec] listItems_books

theorem getQueueSnapshot_books (cfg : QueueCapacityConfig) (queueName : String) (now : Time) :
    Keeps (Books R L) (getQueueSnapshot cfg queueName now) := by
  mvcgen [getQueueSnapshot]

attribute [local spec] getQueueSnapshot_books

theorem getQueueStatistics_books (cfg : QueueCapacityConfig) (now : Time) :
    Keeps (Books R L) (getQueueStatistics cfg now) := by
  mvcgen [getQueueStatistics]

theorem listQueuedRequests_books (cfg : QueueCapacityConfig) (now : Time) :
    Keeps (Books R L) (listQueuedRequests cfg now) := by
  mvcgen [listQueuedRequests]

theorem listQueueItems_books (cfg : QueueCapacityConfig) (limit : ℕ) (now : Time) :
    Keeps (Books R L) (listQueueItems cfg limit now) := by
  mvcgen [listQueueItems]

theorem clear_books : Keeps (Books R L) clear := by
  mvcgen [clear]
  next cp h _ => exact h.silent (h.linked.sublist rfl rfl (List.nil_sublist _)) rfl rfl

theorem dequeueNext_books (cfg : QueueCapacityConfig) (now : Time) : Keeps (Books R L) (dequeueNext cfg now) := by
  mvcgen -trivial [dequeueNext, dequeue, derefEntry]
  all_goals first | exact ‹Books _ _ _› | skip
  next cp h item rest hitems _ =>
    exact h.silent (h.linked.sublist rfl rfl (hitems ▸ List.sublist_cons_self item rest)) rfl rfl

theorem remove_books (r : UUID) (now : Time) : Keeps (Books R L) (remove r now) := by
  mvcgen -trivial [remove, removeItem, derefEntry]
  all_goals first | exact ‹Books _ _ _› | skip
  next cp h item hfind _ => exact h.silent (h.linked.sublist rfl rfl List.eraseP_sublist) rfl rfl

end Looking

/-- as many wait once the overdue items are gone -/
theorem expireTimeoutsLocked_waiting (cfg : QueueCapacityConfig) (now : Time) (n : ℕ) :
    ⦃fun cp => ⌜Books R L cp ∧ (cp.overview.expire cfg now).waiting.length = n⌝⦄ expireTimeoutsLocked cfg now
    ⦃post⟨fun _ cp => ⌜Books R L cp ∧ cp.items.length = n⌝, fun _ _ => ⌜False⌝⟩⦄ := by
  mvcgen [expireTimeoutsLocked, reindexPositions]
  next cp h _ _ _ =>
    refine ⟨h.1.silent ((expireTimeoutsLocked_linked cfg now).ok h.1.linked rfl) rfl rfl, ?_⟩
    calc (numbered (cp.items.filter fun item => !overdue cfg now item)).length
        = (cp.items.filter fun item => !overdue cfg now item).length := by simp [numbered]
      _ = (cp.overview.expire cfg now).waiting.length := by
          rw [Overview.expire, ControlPlaneApplication.overview, List.filter_map, List.length_map]
          rfl
      _ = n := h.2

theorem evaluateEnqueueCapacity_reject {cfg : QueueCapacityConfig} {depth : ℕ} {reason : String}
    (h : evaluateEnqueueCapacity cfg depth = .reject reason) : cfg.maxQueueSize ≤ depth := by
  by_contra hroom
  rw [evaluateEnqueueCapacity, if_neg hroom] at h
  cases h

theorem evaluateEnqueueCapacity_accept {cfg : QueueCapacityConfig} {depth : ℕ}
    (h : evaluateEnqueueCapacity cfg depth = .accept) : ¬cfg.maxQueueSize ≤ depth := by
  intro hfull
  rw [evaluateEnqueueCapacity, if_pos hfull] at h
  cases h

attribute [local spec] expireTimeoutsLocked_waiting

/-- a refusal is counted when the queue is full -/
theorem enqueueFromAdmitted_books (cfg : QueueCapacityConfig) (r : UUID) (now : Time) (n : ℕ) :
    ⦃fun cp => ⌜Books R L cp ∧ (cp.overview.expire cfg now).waiting.length = n⌝⦄ enqueueFromAdmitted cfg r now
    ⦃post⟨fun _ cp => ⌜Books R (L + Tally.of r (if cfg.maxQueueSize ≤ n then some .rejected else none)) cp⌝,
      fun _ cp => ⌜Books R L cp⌝⟩⦄ := by
  mvcgen -trivial [enqueueFromAdmitted, enqueue, enqueueAt, derefEntry, getRef, updateState]
  all_goals first
    | exact ‹Books _ _ _›
    | exact ‹Books _ _ _ ∧ _›
    | exact And.left (by assumption)
    | (intro e; rfl)
    | skip
  next _ h₀ _ hr _ he _ _ _ h _ _ _ _ hcap _ _ _ _ _ _ _ _ _ _ _ _ _ hfinal =>
    rw [if_pos (h.2 ▸ evaluateEnqueueCapacity_reject hcap), ← h₀.1.requestId (h₀.1.get?.1 hr) he]
    exact hfinal
  next _ h₀ _ hr _ _ _ _ _ _ _ _ _ _ _ _ _ _ _ _ _ _ _ h hnone =>
    rw [h.linked.registry, ← h₀.1.linked.registry, hr] at hnone
    cases hnone
  next _ h₀ _ hr _ _ _ _ cp h _ he _ hcap _ _ _ =>
    rw [if_neg (h.2 ▸ evaluateEnqueueCapacity_accept hcap)]
    exact h.1.silent (h.1.linked.append (h₀.1.get?.1 hr) he rfl rfl) rfl rfl
  next h₀ _ hr _ _ _ _ _ _ _ _ _ _ _ _ _ _ _ _ _ _ h hnone =>
    rw [h.linked.registry, ← h₀.1.linked.registry, hr] at hnone
    cases hnone

/-! ## Expiry and registration -/

/-- a failure for each of the ids -/
def Tally.failed (ids : List UUID) : Tally := fun r c => if c = .failed then ids.count r else 0

theorem Tally.failed_cons (r : UUID) (ids : List UUID) :
    Tally.failed (r :: ids) = Tally.of r (some .failed) + Tally.failed ids := by
  funext r' c
  by_cases hc : c = .failed
  · by_cases hr : r = r'
    · simp [Tally.failed, Tally.of_some, hc, hr, Nat.add_comm]
    · simp [Tally.failed, Tally.of_some, hc, hr, Ne.symm hr]
  · simp [Tally.failed, Tally.of_some, hc]

theorem Announces.tally {ids : List UUID} (h : Announces ids cp cp') : cp'.tally = cp.tally + Tally.failed ids := by
  obtain ⟨events, hq, hids, htype⟩ := h.queueEvents
  have hsum : (events.map fun event => Tally.of event.requestId event.counter).sum =
      Tally.failed (events.map QueueEvent.requestId) := by
    clear hq hids
    induction events with
    | nil =>
      funext r c
      simp [Tally.failed]
    | cons event events ih =>
      have hcounter : event.counter = some .failed := if_pos (htype event List.mem_cons_self)
      rw [List.map_cons, List.sum_cons, List.map_cons, Tally.failed_cons, hcounter,
        ih fun event' hmem => htype event' (List.mem_cons_of_mem _ hmem)]
  rw [ControlPlaneApplication.tally, h.lifecycleEvents, hq, List.map_append, List.sum_append, hsum, hids]
  exact (add_assoc _ _ _).symm

/-- a registration is counted when the request is RECEIVED -/
theorem register_tally {ref : Ref} (cfg : Settings) (submit : SubmitRequest) (initialState : RequestState) (now : Time)
    (h : EStateM.run (register cfg submit initialState now) cp = .ok ref cp') :
    cp'.tally = cp.tally + Tally.of submit.inferenceRequest.requestId
      (if initialState = .received then some .received else none) := by
  simp only [register] at h
  by_cases hinit : initialState ≠ .received ∧ initialState ≠ .validated
  · rw [if_pos hinit, run_throw] at h
    cases h
  · rw [if_neg hinit] at h
    simp only [EStateM.run_bind, EStateM.run_get] at h
    by_cases hfull : cfg.registryMaxEntries ≤ cp.registry.items.length
    · rw [if_pos hfull, run_throw] at h
      cases h
    · rw [if_neg hfull] at h
      cases h
      refine (tally_emitLifecycle _ _).trans ?_
      rw [counter_state _ rfl]
      by_cases hrec : initialState = .received
      · rw [if_pos hrec, if_pos hrec]
        rfl
      · rw [if_neg hrec, if_neg hrec]
        rfl

/-! ## The bill of an operation -/

namespace Overview

variable (cfg : Settings)

/-- what the answer of the admission checks counts for a request that does not wait yet -/
def admittedCounter (o : Overview) (result : Except String AdmissionResult) (now : Time) : Option Counter :=
  match result with
  | .error _ => some .failed
  | .ok a =>
    if a.outcome = .accept ∧ cfg.queue.maxQueueSize ≤ (o.expire cfg.queue now).waiting.length then some .rejected
    else none

/-- what an operation counts for which request -/
def bill (o : Overview) : Op → Tally
  | .register submit initialState _ =>
    Tally.of submit.inferenceRequest.requestId
      (if initialState = .received ∧ o.registered < cfg.registryMaxEntries then some .received else none)
  | .transition r toState _ _ _ =>
    Tally.of r ((o.status r).bind fun st => if isAllowedTransition st.state toState then endCounter toState else none)
  | .enqueueFromAdmitted r now =>
    Tally.of r ((o.status r).bind fun st =>
      if st.state = .admitted ∧ ¬(o.expire cfg.queue now).waits r ∧
          cfg.queue.maxQueueSize ≤ (o.expire cfg.queue now).waiting.length then some .rejected else none)
  | .processThroughQueued submit checks now now' =>
    Tally.failed (o.lateIds cfg.queue now) +
      if o.registered < cfg.registryMaxEntries then
        Tally.of submit.inferenceRequest.requestId (some .received) +
          Tally.of submit.inferenceRequest.requestId
            ((o.processTimeouts cfg.queue now).admittedCounter cfg (evaluate checks) now')
      else 0
  | .processTimeouts now => Tally.failed (o.lateIds cfg.queue now)
  | .markFailed r _ _ _ _ _ => Tally.of r ((o.status r).map fun _ => .failed)
  | .completeRequest r _ _ =>
    Tally.of r ((o.status r).bind fun st =>
      if st.state = .submitted ∨ st.state = .streaming then some .completed else none)
  | .runAdmission .. | .cancel .. | .dequeueNext .. | .remove .. | .clear | .peek .. | .listItems ..
  | .getQueueSnapshot .. | .getQueueStatistics .. | .listQueuedRequests .. | .listQueueItems .. => 0

end Overview

theorem Inv.books (h : Inv cp) : Books cp.registry cp.tally cp := ⟨h.linked, rfl⟩

theorem final_tally {α : Type} {x : ControlPlaneM α} (h : Inv cp) (hx : ∀ R L, Keeps (Books R L) x) :
    (x.final cp).tally = cp.tally + 0 := (final_keeps (hx _ _) h.books).tally

/-- an operation on one id, which returns or raises -/
theorem final_onStatus {α : Type} {x : ControlPlaneM α} (h : Inv cp) {f : Status → Option Counter}
    (hunknown : cp.registry.get? r = none → EStateM.run x cp = .error (.requestNotFound r) cp)
    (hknown : ∀ st, cp.overview.status r = some st → (x.final cp).tally = cp.tally + Tally.of r (f st)) :
    (x.final cp).tally = cp.tally + Tally.of r ((cp.overview.status r).bind f) := by
  cases hs : cp.overview.status r with
  | none =>
    rw [final_error (hunknown ((overview_status_eq_none h).1 hs))]
    exact (add_zero _).symm
  | some st => exact hknown st hs

theorem transition_tally (h : Inv cp) (r : UUID) (toState : RequestState) (now : Time) (batchId : Option UUID)
    (backendId : Option String) :
    ((transition r toState now batchId backendId).final cp).tally = cp.tally + Tally.of r
      ((cp.overview.status r).bind fun st =>
        if isAllowedTransition st.state toState then endCounter toState else none) := by
  refine final_onStatus h (fun hr => transition_unknown hr toState now batchId backendId) fun st hs => ?_
  have hbooks := Core.triple_iff.1 (transition_books r toState now batchId backendId) cp h.books
  obtain ⟨hok, herr⟩ := transition_spec h hs toState now batchId backendId
  by_cases hallowed : isAllowedTransition st.state toState = true
  · obtain ⟨ref, cp', hrun, -⟩ := hok hallowed
    rw [hrun] at hbooks
    rw [if_pos hallowed, final_ok hrun]
    exact hbooks.2.tally
  · obtain ⟨cp', hrun, -⟩ := herr (by simpa using hallowed)
    rw [hrun] at hbooks
    rw [if_neg hallowed, final_error hrun]
    exact hbooks.tally

theorem markFailed_tally (h : Inv cp) (r : UUID) (reason : FailureReason) (message : String) (now : Time)
    (batchId : Option UUID) (backendId : Option String) :
    ((markFailed r reason message now batchId backendId).final cp).tally =
      cp.tally + Tally.of r ((cp.overview.status r).map fun _ => .failed) := by
  rw [Option.map_eq_bind]
  refine final_onStatus h (fun hr => markFailed_unknown hr reason message now batchId backendId) fun st hs => ?_
  have hbooks := Core.triple_iff.1 (markFailed_books r reason message now batchId backendId) cp h.books
  obtain ⟨ref, cp', hrun, -, -⟩ := markFailed_spec h hs reason message now batchId backendId
  rw [hrun] at hbooks
  rw [final_ok hrun]
  exact hbooks.tally

theorem completeRequest_tally (h : Inv cp) (r : UUID) (completion : Option InferenceCompletionRecord) (now : Time) :
    ((completeRequest r completion now).final cp).tally = cp.tally + Tally.of r ((cp.overview.status r).bind fun st =>
      if st.state = .submitted ∨ st.state = .streaming then some .completed else none) := by
  refine final_onStatus h (fun hr => completeRequest_unknown hr completion now) fun st hs => ?_
  have hbooks := Core.triple_iff.1 (completeRequest_books r completion now) cp h.books
  obtain ⟨hok, herr⟩ := completeRequest_spec h hs completion now
  by_cases hst : st.state = .submitted ∨ st.state = .streaming
  · obtain ⟨ref, cp', hrun, -⟩ := hok hst
    rw [hrun] at hbooks
    rw [if_pos hst, final_ok hrun]
    exact hbooks.tally
  · have hrun := herr hst
    rw [hrun] at hbooks
    rw [if_neg hst, final_error hrun]
    exact hbooks.tally

theorem enqueueFromAdmitted_tally (cfg : Settings) (h : Inv cp) (r : UUID) (now : Time) :
    ((enqueueFromAdmitted cfg.queue r now).final cp).tally = cp.tally +
      Tally.of r ((cp.overview.status r).bind fun st =>
      if st.state = .admitted ∧ ¬(cp.overview.expire cfg.queue now).waits r ∧
        cfg.queue.maxQueueSize ≤ (cp.overview.expire cfg.queue now).waiting.length then some .rejected else none) := by
  refine final_onStatus h (fun hr => enqueueFromAdmitted_unknown hr now) fun st hs => ?_
  have hbooks := Core.triple_iff.1 (enqueueFromAdmitted_books cfg.queue r now _) cp ⟨h.books, rfl⟩
  rcases enqueueFromAdmitted_spec cfg.queue h hs now with ⟨hst, message, hrun⟩ | ⟨hst, ⟨hwaits, message, cp', hrun, -⟩ |
    ⟨ref, cp', hrun, -, hwaits, -⟩⟩
  · rw [hrun] at hbooks
    rw [final_error hrun, if_neg fun hc => hst hc.1]
    exact hbooks.tally
  · rw [hrun] at hbooks
    rw [final_error hrun, if_neg fun hc => hc.2.1 hwaits]
    exact hbooks.tally
  · rw [hrun] at hbooks
    rw [final_ok hrun]
    simp only [hst, hwaits, not_false_eq_true, true_and]
    exact hbooks.tally

/-- expiry counts a failure for every late request -/
theorem processTimeouts_tally (cfg : QueueCapacityConfig) (h : Inv cp) (now : Time) {refs : List Ref}
    (hrun : EStateM.run (processTimeouts cfg now) cp = .ok refs cp') :
    cp'.tally = cp.tally + Tally.failed (cp.overview.lateIds cfg now) := by
  obtain ⟨refs', cp₁, hrun₁, -, -, hann, -⟩ := processTimeouts_run cfg h.linked now
  rw [hrun] at hrun₁
  cases hrun₁
  have hlate : (cp.items.filter fun item => overdue cfg now item).map QueuedRequest.requestId =
      cp.overview.lateIds cfg now := by
    simp only [Overview.lateIds, ControlPlaneApplication.overview, List.filter_map, List.map_map]
    rfl
  rw [← hlate]
  exact hann.tally

/-- the second half of an intake counts what the checks and the queue decide -/
theorem processFromAdmission_tally (cfg : Settings) (h : Inv cp) (hr : cp.registry.get? r = some ref) {st : Status}
    (hs : cp.overview.status r = some st) (hst : st.state = .validated) (hw : ¬cp.overview.waits r)
    (result : Except String AdmissionResult) (now : Time) {ref' : Ref}
    (hrun : EStateM.run (processFromAdmission cfg r ref result now) cp = .ok ref' cp') :
    cp'.tally = cp.tally + Tally.of r (cp.overview.admittedCounter cfg result now) := by
  rw [processFromAdmission_eq] at hrun
  cases result with
  | error message =>
    -- the handler fails the request
    have hraised : EStateM.run (fromAdmission cfg r ref (.error message) now) cp =
        .error (.checkRaised message) cp := rfl
    have htally := markFailed_tally h r .internalError
      s!"control plane error: {(ControlPlaneError.checkRaised message).message}" now none none
    obtain ⟨ref₁, cp₁, hfail, -, -⟩ := markFailed_spec h hs .internalError
      s!"control plane error: {(ControlPlaneError.checkRaised message).message}" now none none
    rw [guarded_error (.checkRaised message) cp hraised (by simp) (by simp), EStateM.run_bind, hfail] at hrun
    cases hrun
    rw [final_ok hfail, hs] at htally
    exact htally
  | ok a =>
    obtain ⟨cp₁, hfinish, hcases⟩ := fromAdmission_steps cfg h hr hs hst a now
    obtain ⟨cp₂, hfrom, -⟩ := fromAdmission_spec cfg h hr hs hst hw a now
    have h₁ := (finishAdmission_books r ref (.ok a) now).ok h.books hfinish
    rw [guarded_ok hfrom] at hrun
    cases hrun
    rcases hcases with ⟨ha, hl, hsame⟩ | ⟨ha, -, hsame⟩
    · have htally := enqueueFromAdmitted_tally cfg hl.inv r now
      have hs₁ : cp₁.overview.status r = some ⟨.admitted, st.reason⟩ := by
        rw [hl.overview]
        exact Overview.put_status_self _ _ _
      have hexpire : (cp₁.overview.expire cfg.queue now).waiting = (cp.overview.expire cfg.queue now).waiting := by
        rw [hl.overview]
        rfl
      have hw₁ : ¬(cp₁.overview.expire cfg.queue now).waits r := by
        rw [Overview.waits, hexpire]
        rintro ⟨p, hp, hpr⟩
        exact hw ⟨p, List.mem_of_mem_filter hp, hpr⟩
      rw [final_ok (hsame ▸ hfrom), hs₁, h₁.tally] at htally
      simpa only [Option.bind_some, hw₁, hexpire, not_false_eq_true, true_and,
        Overview.admittedCounter, ha] using htally
    · rw [hsame] at hfrom
      cases hfrom
      rw [h₁.tally, Overview.admittedCounter, if_neg fun hc => ha hc.1]
      exact (add_zero _).symm

/-- an intake counts the late requests and, while there is room, its own request -/
theorem processThroughQueued_tally (cfg : Settings) (h : Inv cp) (submit : SubmitRequest)
    (checks : List (Except String AdmissionResult)) (now now' : Time)
    (hfresh : cp.registry.get? submit.inferenceRequest.requestId = none) :
    ((processThroughQueued cfg submit checks now now').final cp).tally =
      cp.tally + cp.overview.bill cfg (.processThroughQueued submit checks now now') := by
  set r := submit.inferenceRequest.requestId with hrdef
  have hs := (overview_status_eq_none h).2 hfresh
  have hw := not_waits_of_unregistered h hs
  obtain ⟨refs, cp₁, hrun₁, hl₁, hcases⟩ := processUntilAdmission_steps cfg h submit now hs
  have htally₁ := processTimeouts_tally cfg.queue h now hrun₁
  rcases hcases with ⟨hfull, hrun⟩ | ⟨hroom, ref, cp₂, cp₃, hrun₂, hinv₂, hreg₂, ⟨ref', hrun₃⟩, hl₃, hrun⟩
  · have hrun' : EStateM.run (processThroughQueued cfg submit checks now now') cp =
        .error (.requestNotFound r) cp₁ := by
      simp only [processThroughQueued, EStateM.run_bind, hrun, hrdef]
    rw [final_error hrun', htally₁, Overview.bill, if_neg (not_lt.2 hfull), add_zero]
  · have hr₃ : cp₃.registry.get? r = some ref := by
      rw [hl₃.registry, hreg₂]
      exact Dict.get?_set_self _ _ _
    have hs₃ : cp₃.overview.status r = some ⟨.validated, none⟩ := by
      rw [hl₃.overview]
      exact Overview.register_status_self _ _ _
    have hw₃ : ¬cp₃.overview.waits r := by
      rw [hl₃.overview]
      exact Overview.processTimeouts_waits hw
    obtain ⟨cp₄, hrun₄, -⟩ := processFromAdmission_spec cfg hl₃.inv hr₃ hs₃ rfl hw₃ (evaluate checks) now'
    have hrun' : EStateM.run (processThroughQueued cfg submit checks now now') cp = .ok ref cp₄ := by
      simp only [processThroughQueued, EStateM.run_bind, hrun, ← hrdef, hrun₄]
    have htally₂ := register_tally cfg submit .received now hrun₂
    have htally₃ : cp₃.tally = cp₂.tally := by
      have hbooks := Core.triple_iff.1 (transition_books r .validated now none none) cp₂ hinv₂.books
      rw [hrun₃] at hbooks
      exact hbooks.2.tally.trans (add_zero _)
    have htally₄ := processFromAdmission_tally cfg hl₃.inv hr₃ hs₃ rfl hw₃ (evaluate checks) now' hrun₄
    have hcounter : cp₃.overview.admittedCounter cfg (evaluate checks) now' =
        (cp.overview.processTimeouts cfg.queue now).admittedCounter cfg (evaluate checks) now' := by
      rw [hl₃.overview]
      rfl
    rw [final_ok hrun', Overview.bill, if_pos hroom, htally₄, htally₃, htally₂, if_pos rfl, htally₁, hcounter]
    abel

/-- every operation counts what its bill says -/
theorem step_tally (cfg : Settings) (h : Inv cp) {o : Op} (hf : Fresh cp o) :
    (cp.step cfg o).tally = cp.tally + cp.overview.bill cfg o := by
  cases o with
  | register submit initialState now =>
    change ((register cfg submit initialState now).final cp).tally = _
    rcases register_run cfg h.linked submit initialState now with ⟨hr, -, hrun⟩ | ⟨-, hfull, hrun⟩ |
      ⟨-, hroom, ref, cp', hrun, -, -⟩
    · rw [final_error hrun, Overview.bill, if_neg fun hc => hr hc.1]
      rfl
    · rw [final_error hrun, Overview.bill, if_neg fun hc => absurd hc.2 (not_lt.2 hfull)]
      rfl
    · have hroom' : cp.overview.registered < cfg.registryMaxEntries := hroom
      rw [final_ok hrun, register_tally cfg submit initialState now hrun, Overview.bill]
      simp only [hroom', and_true]
  | transition r toState now batchId backendId => exact transition_tally h r toState now batchId backendId
  | runAdmission r checks now => exact final_tally h fun _ _ => runAdmission_books r checks now
  | enqueueFromAdmitted r now => exact enqueueFromAdmitted_tally cfg h r now
  | processThroughQueued submit checks now now' => exact processThroughQueued_tally cfg h submit checks now now' hf
  | processTimeouts now =>
    obtain ⟨refs, cp', hrun, -⟩ := processTimeouts_spec cfg.queue h now
    change ((processTimeouts cfg.queue now).final cp).tally = _
    rw [final_ok hrun]
    exact processTimeouts_tally cfg.queue h now hrun
  | markFailed r reason message now batchId backendId => exact markFailed_tally h r reason message now batchId backendId
  | completeRequest r completion now => exact completeRequest_tally h r completion now
  | cancel r now => exact final_tally h fun _ _ => cancel_books r now
  | dequeueNext now => exact final_tally h fun _ _ => dequeueNext_books cfg.queue now
  | peek now => exact final_tally h fun _ _ => peek_books cfg.queue now
  | listItems now => exact final_tally h fun _ _ => listItems_books cfg.queue now
  | remove r now => exact final_tally h fun _ _ => remove_books r now
  | clear => exact final_tally h fun _ _ => clear_books
  | getQueueSnapshot queueName now => exact final_tally h fun _ _ => getQueueSnapshot_books cfg.queue queueName now
  | getQueueStatistics now => exact final_tally h fun _ _ => getQueueStatistics_books cfg.queue now
  | listQueuedRequests now => exact final_tally h fun _ _ => listQueuedRequests_books cfg.queue now
  | listQueueItems limit now => exact final_tally h fun _ _ => listQueueItems_books cfg.queue limit now

end InferencePlatform.ControlPlane
