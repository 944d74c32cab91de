/-
The platform as its traces see it: one control plane, whose events are recorded as they are emitted, and whatever the
other services emit in between.

A `Move` is an operation of the control plane or an emission. `Orderly` is what every move of a real run satisfies: no
id is registered twice, and the clock does not run backwards. Under it a timeline is the trace in the order it was
recorded.

A trace is compared with the registry through the notices of the control plane:
- `Notice.states`, `Notice.failures`: what the trace gets of a notice, its `lifecycle_state`s and its failures;
- `step_states`, `step_failures`: what an operation of the control plane adds to a trace.
-/
import InferencePlatform.ControlPlane.Changes
import InferencePlatform.Observability.Emitters

namespace InferencePlatform

open InferencePlatform.Core (Dict Meets)
open InferencePlatform.Persistence (PyValue PyDict Texts)

/-! ## The clock -/

namespace ControlPlane

/-- the clock readings of an operation, in order -/
def Op.times : Op → List Time
  | .register _ _ now | .transition _ _ now _ _ | .runAdmission _ _ now | .enqueueFromAdmitted _ now
  | .processTimeouts now | .markFailed _ _ _ now _ _ | .completeRequest _ _ now | .cancel _ now | .dequeueNext now
  | .peek now | .listItems now | .remove _ now | .getQueueSnapshot _ now | .getQueueStatistics now
  | .listQueuedRequests now | .listQueueItems _ now => [now]
  | .processThroughQueued _ _ now now' => [now, now']
  | .clear => []

/-- what is asked of the result of the admission checks is decided by its two cases -/
def decidableEvaluated {P : String → Prop} {Q : AdmissionResult → Prop} [DecidablePred P] [DecidablePred Q] :
    (result : Except String AdmissionResult) →
      Decidable (match result with
        | .error message => P message
        | .ok a => Q a)
  | .error message => inferInstanceAs (Decidable (P message))
  | .ok a => inferInstanceAs (Decidable (Q a))

namespace Overview

variable {cfg : Settings} {o : Overview} {r : UUID} {now : Time}

theorem timestamp_queuedReports (full : Prop) [Decidable full] (r : UUID) (now : Time) :
    ∀ report ∈ queuedReports full r now, report.timestamp = now := by
  unfold queuedReports
  split_ifs <;> simp

theorem timestamp_admissionReports (cfg : Settings) (o : Overview) (r : UUID)
    (result : Except String AdmissionResult) (now : Time) :
    ∀ report ∈ o.admissionReports cfg r result now, report.timestamp = now := by
  intro report hmem
  cases result with
  | error message =>
    rw [List.mem_singleton.1 hmem]
    rfl
  | ok a =>
    rcases List.mem_cons.1 hmem with rfl | hmem
    · rfl
    · split_ifs at hmem
      · exact timestamp_queuedReports _ r now report hmem
      · cases hmem

theorem timestamp_timeoutReports (o : Overview) (now : Time) :
    ∀ report ∈ o.timeoutReports cfg.queue now, report.timestamp = now := by
  intro report hmem
  obtain ⟨r, -, rfl⟩ := List.mem_map.1 hmem
  rfl

theorem timestamp_transitionReports (r : UUID) (toState : RequestState) (reason : Option FailureReason) (now : Time) :
    ∀ report ∈ transitionReports r toState reason now, report.timestamp = now := by
  unfold transitionReports
  cases transitionEvent toState with
  | none => simp
  | some p => simp

theorem forall_elim {P : Report → Prop} {f : Status → List Report} (h : ∀ st, ∀ report ∈ f st, P report) :
    ∀ report ∈ (o.status r).elim [] f, P report := by
  cases o.status r with
  | none => simp
  | some st => exact h st

/-- an operation that reads the clock once reports at that time -/
theorem timestamp_reports (cfg : Settings) (o : Overview) {op : Op} (h : op.times = [now]) :
    ∀ report ∈ o.reports cfg op, report.timestamp = now := by
  cases op with
  | register submit initialState now' =>
    cases h
    intro report hmem
    rw [reports] at hmem
    split_ifs at hmem
    · cases hmem
    · rw [List.mem_singleton.1 hmem]
      rfl
  | transition r toState now' batchId backendId =>
    cases h
    refine forall_elim fun st report hmem => ?_
    split_ifs at hmem
    · exact timestamp_transitionReports _ _ _ _ report hmem
    · cases hmem
  | runAdmission r checks now' =>
    cases h
    refine forall_elim fun st report hmem => ?_
    split_ifs at hmem
    · obtain ⟨a, -, rfl⟩ := List.mem_map.1 hmem
      rfl
    · cases hmem
  | enqueueFromAdmitted r now' =>
    cases h
    refine forall_elim fun st report hmem => ?_
    split_ifs at hmem
    · exact timestamp_queuedReports _ r now report hmem
    · cases hmem
  | processThroughQueued submit checks now' now'' => cases h
  | processTimeouts now' =>
    cases h
    exact timestamp_timeoutReports o now
  | markFailed r reason message now' batchId backendId =>
    cases h
    refine forall_elim fun st report hmem => ?_
    rw [List.mem_singleton.1 hmem]
    rfl
  | completeRequest r completion now' =>
    cases h
    refine forall_elim fun st report hmem => ?_
    split_ifs at hmem
    · rcases List.mem_cons.1 hmem with rfl | hmem
      · rfl
      · rw [List.mem_singleton.1 hmem]
    · cases hmem
  | dequeueNext now' =>
    cases h
    intro report hmem
    obtain ⟨p, -, rfl⟩ := Option.map_eq_some_iff.1 (Option.mem_toList.1 hmem)
    rfl
  | remove r now' =>
    cases h
    intro report hmem
    rw [reports] at hmem
    split_ifs at hmem
    · rw [List.mem_singleton.1 hmem]
    · cases hmem
  | cancel r now' => exact fun report hmem => absurd hmem List.not_mem_nil
  | peek now' => exact fun report hmem => absurd hmem List.not_mem_nil
  | listItems now' => exact fun report hmem => absurd hmem List.not_mem_nil
  | clear => exact fun report hmem => absurd hmem List.not_mem_nil
  | getQueueSnapshot queueName now' => exact fun report hmem => absurd hmem List.not_mem_nil
  | getQueueStatistics now' => exact fun report hmem => absurd hmem List.not_mem_nil
  | listQueuedRequests now' => exact fun report hmem => absurd hmem List.not_mem_nil
  | listQueueItems limit now' => exact fun report hmem => absurd hmem List.not_mem_nil

/-- what happens at one time is in the order of its times -/
theorem pairwise_at {α : Type} {time : α → Time} {l : List α} {now : Time} (h : ∀ a ∈ l, time a = now) :
    l.Pairwise fun a b => time a ≤ time b :=
  List.Pairwise.imp_of_mem (fun ha hb _ => ((h _ ha).trans (h _ hb).symm).le)
    (List.pairwise_of_forall (R := fun _ _ => True) fun _ _ => trivial)

/-- reports are in the order of their times, which are clock readings of the operation -/
theorem reports_timed (cfg : Settings) (o : Overview) {op : Op} (h : op.times.Pairwise (· ≤ ·)) :
    (o.reports cfg op).Pairwise (fun a b => a.timestamp ≤ b.timestamp) ∧
      ∀ report ∈ o.reports cfg op, report.timestamp ∈ op.times := by
  have hone : ∀ now, op.times = [now] → (o.reports cfg op).Pairwise (fun a b => a.timestamp ≤ b.timestamp) ∧
      ∀ report ∈ o.reports cfg op, report.timestamp ∈ op.times := by
    intro now hop
    have hall := timestamp_reports cfg o hop
    refine ⟨pairwise_at hall, fun report hmem => ?_⟩
    rw [hop, hall report hmem]
    exact List.mem_singleton_self now
  cases op with
  | processThroughQueued submit checks now now' =>
    have hle : now ≤ now' := by simpa [Op.times] using h
    set r := submit.inferenceRequest.requestId
    have hvalid : ∀ report ∈ validationReports r now, report.timestamp = now := by simp [validationReports]
    have hadmission := timestamp_admissionReports cfg (o.processTimeouts cfg.queue now) r (evaluate checks) now'
    rw [reports]
    split_ifs
    · rw [List.append_nil]
      refine ⟨pairwise_at (timestamp_timeoutReports o now), fun report hmem => ?_⟩
      rw [timestamp_timeoutReports o now report hmem]
      exact List.mem_cons_self
    · have hfirst : ∀ report ∈ o.timeoutReports cfg.queue now ++ validationReports r now, report.timestamp = now := by
        intro report hmem
        rcases List.mem_append.1 hmem with hmem | hmem
        · exact timestamp_timeoutReports o now report hmem
        · exact hvalid report hmem
      rw [← List.append_assoc]
      refine ⟨List.pairwise_append.2 ⟨pairwise_at hfirst, pairwise_at hadmission, fun a ha b hb => ?_⟩,
        fun report hmem => ?_⟩
      · rw [hfirst a ha, hadmission b hb]
        exact hle
      · rcases List.mem_append.1 hmem with hmem | hmem
        · rw [hfirst report hmem]
          exact List.mem_cons_self
        · rw [hadmission report hmem]
          exact List.mem_cons_of_mem _ List.mem_cons_self
  | clear => exact ⟨List.Pairwise.nil, fun report hmem => absurd hmem List.not_mem_nil⟩
  | _ => exact hone _ rfl

end Overview

end ControlPlane

namespace Observability

open ControlPlane

/-! ## What a trace gets of a notice -/

/-- the failure that is recorded with a notice, if any: its type and its reason -/
def noticeFailure : Notice → Option (String × String)
  | .lifecycle eventType _ reason =>
    if eventType = .requestFailed ∨ eventType = .requestRejected then
      reason.map fun reason => (eventType.value, reason.value)
    else none
  | .queue eventType reason =>
    if eventType = .queueFull ∨ eventType = .queueTimeout then
      some (eventType.value, reason.getD eventType.value)
    else none

/-- the `lifecycle_state` of the trace event of a notice -/
def noticeState : Notice → Option String
  | .lifecycle _ toState _ => some toState.value
  | .queue .. => none

/-- the `lifecycle_state` of the trace event of its failure -/
def failureState : Notice → String
  | .lifecycle _ toState _ => toState.value
  | .queue eventType _ => if eventType = .queueFull then "rejected" else "timed_out"

/-- the `lifecycle_state`s of the trace events of a notice -/
def noticeStates (notice : Notice) : List (Option String) :=
  noticeState notice :: (noticeFailure notice).toList.map fun _ => some (failureState notice)

def failureKey (failure : FailureRecord) : String × String := (failure.failureType, failure.failureReason)

variable (texts : Texts)

theorem requestState_value_ne (s : RequestState) : s.value ≠ "" := by
  cases s <;> decide

theorem map_failures (event : Event) :
    (event.failures texts).map failureKey = (noticeFailure event.report.notice).toList := by
  cases event with
  | lifecycle e =>
    simp only [Event.failures, Event.failureRecord, LifecycleEvent.failureRecord, Event.report, noticeFailure]
    split_ifs
    · cases e.failureReason <;> rfl
    · rfl
  | queue e =>
    simp only [Event.failures, Event.failureRecord, QueueEvent.failureRecord, Event.report, noticeFailure]
    split
    · rfl
    · rfl

theorem lifecycleState_traceEvent (event : Event) :
    (event.traceEvent texts).lifecycleState = noticeState event.report.notice := by
  cases event with
  | lifecycle e => exact orText_some (requestState_value_ne _) _
  | queue e => rfl

theorem failureState_of_record {event : Event} {record : FailureEventRecord}
    (h : event.failureRecord texts = some record) :
    record.failureState = failureState event.report.notice ∧ record.timestamp = event.report.timestamp ∧
      record.eventType = (event.traceEvent texts).eventType := by
  cases event with
  | lifecycle e =>
    simp only [Event.failureRecord, LifecycleEvent.failureRecord] at h
    split at h
    · obtain ⟨reason, -, rfl⟩ := Option.map_eq_some_iff.1 h
      exact ⟨rfl, rfl, rfl⟩
    · cases h
  | queue e =>
    simp only [Event.failureRecord, QueueEvent.failureRecord] at h
    split at h
    · cases h
      exact ⟨rfl, rfl, rfl⟩
    · cases h

/-- a failure is recorded exactly when the notice has one -/
theorem isSome_failureRecord (event : Event) :
    (event.failureRecord texts).isSome = (noticeFailure event.report.notice).isSome := by
  have h := congrArg List.length (map_failures texts event)
  rw [List.length_map, Event.failures, List.length_map] at h
  cases hrecord : event.failureRecord texts with
  | none =>
    cases hnotice : noticeFailure event.report.notice with
    | none => rfl
    | some p => simp [hrecord, hnotice] at h
  | some record =>
    cases hnotice : noticeFailure event.report.notice with
    | none => simp [hrecord, hnotice] at h
    | some p => rfl

theorem map_states (event : Event) :
    (event.traceEvents texts).map TraceEvent.lifecycleState = noticeStates event.report.notice := by
  rw [Event.traceEvents, List.map_cons, lifecycleState_traceEvent, noticeStates]
  have hsome := isSome_failureRecord texts event
  cases hrecord : event.failureRecord texts with
  | none =>
    rw [hrecord] at hsome
    cases hnotice : noticeFailure event.report.notice with
    | none => rfl
    | some p =>
      rw [hnotice] at hsome
      cases hsome
  | some record =>
    rw [hrecord] at hsome
    obtain ⟨p, hp⟩ := Option.isSome_iff_exists.1 hsome.symm
    rw [hp]
    simp [FailureEventRecord.traceEvent, (failureState_of_record texts hrecord).1]

theorem timestamp_traceEvents (event : Event) :
    ∀ e ∈ event.traceEvents texts, e.timestamp = event.report.timestamp := by
  intro e he
  rcases List.mem_cons.1 he with rfl | he
  · cases event <;> rfl
  · obtain ⟨record, hrecord, rfl⟩ := List.mem_map.1 he
    exact (failureState_of_record texts (Option.mem_toList.1 hrecord)).2.1

theorem timestamp_emission (store : RequestTraceStore) (emission : Emission) :
    ∀ e ∈ emission.traceEvents store, e.timestamp = emission.now := by
  intro e he
  rcases List.mem_cons.1 he with rfl | he
  · cases emission <;> rfl
  · obtain ⟨record, hrecord, rfl⟩ := List.mem_map.1 he
    have hrecord' := Option.mem_toList.1 hrecord
    unfold Emission.failureRecord at hrecord'
    split at hrecord'
    · cases hrecord'
      rfl
    · cases hrecord'

/-! ## The system -/

structure Platform where
  controlPlane : ControlPlaneApplication
  store : RequestTraceStore

def Platform.init : Platform := ⟨ControlPlaneApplication.init, Dict.empty⟩

inductive Move
  | controlPlane (op : ControlPlane.Op)
  | emission (e : Emission)

def Move.times : Move → List Time
  | .controlPlane op => op.times
  | .emission e => [e.now]

/-- the recorder is given each event as it is emitted -/
def Platform.step (cfg : Settings) (p : Platform) : Move → Platform
  | .controlPlane op =>
    let cp := p.controlPlane.step cfg op
    ⟨cp, (cp.events.drop p.controlPlane.events.length).foldl (RequestTraceStore.record texts) p.store⟩
  | .emission e => ⟨p.controlPlane, p.store.emit e⟩

def Move.Fresh (p : Platform) : Move → Prop
  | .controlPlane op => ControlPlane.Fresh p.controlPlane op
  | .emission _ => True

/-- no id is registered twice, and the clock does not run backwards -/
structure Orderly (p : Platform) (m : Move) : Prop where
  fresh : m.Fresh p
  times : m.times.Pairwise (· ≤ ·)
  later : ∀ trace ∈ p.store.values, ∀ e ∈ trace.events, ∀ t ∈ m.times, e.timestamp ≤ t

instance (p : Platform) (m : Move) : Decidable (Orderly p m) :=
  have : Decidable (m.Fresh p) :=
    match m with
    | .controlPlane op => inferInstanceAs (Decidable (ControlPlane.Fresh p.controlPlane op))
    | .emission _ => isTrue trivial
  decidable_of_iff (m.Fresh p ∧ m.times.Pairwise (· ≤ ·) ∧
    ∀ trace ∈ p.store.values, ∀ e ∈ trace.events, ∀ t ∈ m.times, e.timestamp ≤ t)
    ⟨fun ⟨hf, ht, hl⟩ => ⟨hf, ht, hl⟩, fun h => ⟨h.fresh, h.times, h.later⟩⟩

variable {cfg : Settings} {p : Platform} {m : Move} {r : UUID}

theorem Orderly.after (h : Orderly p m) {e : TraceEvent} (he : e ∈ p.store.eventsOf r) {t : Time} (ht : t ∈ m.times) :
    e.timestamp ≤ t := by
  unfold RequestTraceStore.eventsOf at he
  cases htrace : p.store.get? r with
  | none => simp [htrace] at he
  | some trace =>
    rw [htrace] at he
    exact h.later trace (Dict.mem_values.2 ⟨r, htrace⟩) e he t ht

/-! ## What a move adds to a trace -/

/-- the events of a request among those that are recorded -/
def eventsAbout (r : UUID) (events : List Event) : List Event := events.filter fun event => event.requestId = r

theorem record_all (store : RequestTraceStore) (events : List Event) (r : UUID) :
    RequestTraceStore.eventsOf (events.foldl (RequestTraceStore.record texts) store) r =
      store.eventsOf r ++ (eventsAbout r events).flatMap (Event.traceEvents texts) ∧
    RequestTraceStore.failuresOf (events.foldl (RequestTraceStore.record texts) store) r =
      store.failuresOf r ++ (eventsAbout r events).flatMap (Event.failures texts) := by
  induction events generalizing store with
  | nil => simp [eventsAbout]
  | cons event events ih =>
    obtain ⟨hevents, hfailures⟩ := ih (store.record texts event)
    have h := RequestTraceStore.record_recorded texts store event
    rw [List.foldl_cons, hevents, hfailures, h.events, h.failures]
    by_cases hr : event.requestId = r
    · simp [eventsAbout, hr]
    · simp [eventsAbout, hr]

theorem requestId_report (event : Event) : event.report.requestId = event.requestId := by
  cases event <;> rfl

theorem about_eventsAbout (r : UUID) (events : List Event) :
    (eventsAbout r events).map (fun event => event.report.notice) = about r (events.map Event.report) := by
  rw [about, List.filter_map, List.map_map, eventsAbout]
  have hpred : ((fun report : Report => decide (report.requestId = r)) ∘ Event.report) =
      fun event : Event => decide (event.requestId = r) := by
    funext event
    simp [requestId_report]
  rw [hpred]
  rfl

/-- what an operation of the control plane emits -/
def emitted (cfg : Settings) (cp : ControlPlaneApplication) (op : Op) : List Event :=
  (cp.step cfg op).events.drop cp.events.length

theorem reports_emitted (cfg : Settings) (h : ControlPlane.Inv p.controlPlane) {op : Op}
    (hf : ControlPlane.Fresh p.controlPlane op) :
    (emitted cfg p.controlPlane op).map Event.report = p.controlPlane.overview.reports cfg op := by
  have hreports := (step_recounts cfg h hf).reports
  rw [ControlPlaneApplication.reports, ControlPlaneApplication.reports] at hreports
  rw [emitted, List.map_drop, hreports]
  exact List.drop_left' (List.length_map _)

theorem step_events (cfg : Settings) (p : Platform) (op : Op) (r : UUID) :
    (p.step texts cfg (.controlPlane op)).store.eventsOf r =
      p.store.eventsOf r ++ (eventsAbout r (emitted cfg p.controlPlane op)).flatMap (Event.traceEvents texts) :=
  (record_all texts p.store _ r).1

/-- what a trace gets of an operation: its `lifecycle_state`s -/
theorem step_states (h : ControlPlane.Inv p.controlPlane) {op : Op}
    (hf : ControlPlane.Fresh p.controlPlane op) (r : UUID) :
    ((p.step texts cfg (.controlPlane op)).store.eventsOf r).map TraceEvent.lifecycleState =
      (p.store.eventsOf r).map TraceEvent.lifecycleState ++
        (about r (p.controlPlane.overview.reports cfg op)).flatMap noticeStates := by
  rw [step_events, List.map_append, ← reports_emitted cfg h hf, ← about_eventsAbout, List.flatMap_map,
    List.map_flatMap]
  simp only [map_states]

/-- and its failures -/
theorem step_failures (h : ControlPlane.Inv p.controlPlane) {op : Op} (hf : ControlPlane.Fresh p.controlPlane op)
    (r : UUID) :
    ((p.step texts cfg (.controlPlane op)).store.failuresOf r).map failureKey =
      (p.store.failuresOf r).map failureKey ++
        (about r (p.controlPlane.overview.reports cfg op)).filterMap noticeFailure := by
  have hall := (record_all texts p.store (emitted cfg p.controlPlane op) r).2
  have hstep : (p.step texts cfg (.controlPlane op)).store.failuresOf r = p.store.failuresOf r ++
      (eventsAbout r (emitted cfg p.controlPlane op)).flatMap (Event.failures texts) := hall
  rw [hstep, List.map_append, ← reports_emitted cfg h hf, ← about_eventsAbout, List.filterMap_map,
    List.map_flatMap, List.filterMap_eq_flatMap_toList]
  simp only [map_failures]
  rfl

/-! ## The invariant of every orderly run -/

structure Platform.Inv (p : Platform) : Prop where
  controlPlane : ControlPlane.Inv p.controlPlane
  pending : ∀ r st, p.controlPlane.overview.status r = some st → st.Pending
  sorted : ∀ r, (p.store.eventsOf r).Pairwise fun e e' => e.timestamp ≤ e'.timestamp

theorem Platform.inv_init : Platform.init.Inv :=
  ⟨ControlPlane.inv_init, fun r st hs => (by cases hs), fun r => List.Pairwise.nil⟩

/-- a timeline shows the events in the order they were recorded -/
theorem Platform.Inv.timeline (h : p.Inv) (r : UUID) :
    RequestTraceStore.sortedEvents (p.store.eventsOf r) = p.store.eventsOf r :=
  List.mergeSort_of_pairwise ((h.sorted r).imp decide_eq_true)

/-- later events after the recorded ones -/
theorem Orderly.sorted (h : Orderly p m) (hs : (p.store.eventsOf r).Pairwise fun e e' => e.timestamp ≤ e'.timestamp)
    {events : List TraceEvent} (hevents : events.Pairwise fun e e' => e.timestamp ≤ e'.timestamp)
    (htimes : ∀ e ∈ events, e.timestamp ∈ m.times) :
    (p.store.eventsOf r ++ events).Pairwise fun e e' => e.timestamp ≤ e'.timestamp :=
  List.pairwise_append.2 ⟨hs, hevents, fun _ he e' he' => h.after he (htimes e' he')⟩

/-- what an operation adds to a trace has the times of the reports -/
theorem traceEvents_timed (cfg : Settings) (h : p.Inv) {op : Op} (ho : Orderly p (.controlPlane op)) (r : UUID) :
    ((eventsAbout r (emitted cfg p.controlPlane op)).flatMap (Event.traceEvents texts)).Pairwise
      (fun e e' => e.timestamp ≤ e'.timestamp) ∧
    ∀ e ∈ (eventsAbout r (emitted cfg p.controlPlane op)).flatMap (Event.traceEvents texts),
      e.timestamp ∈ op.times := by
  obtain ⟨hsorted, hmem⟩ := Overview.reports_timed cfg p.controlPlane.overview ho.times
  rw [← reports_emitted cfg h.controlPlane ho.fresh, List.pairwise_map] at hsorted
  constructor
  · refine List.pairwise_flatMap.2 ⟨fun event _ => Overview.pairwise_at (timestamp_traceEvents texts event), ?_⟩
    refine (hsorted.sublist List.filter_sublist).imp fun {a b} hle e he e' he' => ?_
    rw [timestamp_traceEvents texts a e he, timestamp_traceEvents texts b e' he']
    exact hle
  · intro e he
    obtain ⟨event, hevent, he⟩ := List.mem_flatMap.1 he
    rw [timestamp_traceEvents texts event e he]
    refine hmem _ ?_
    rw [← reports_emitted cfg h.controlPlane ho.fresh]
    exact List.mem_map_of_mem (List.mem_of_mem_filter hevent)

theorem Platform.step_inv (h : p.Inv) (ho : Orderly p m) : (p.step texts cfg m).Inv := by
  cases m with
  | controlPlane op =>
    refine ⟨(step_refines cfg h.controlPlane ho.fresh).inv, fun r st' hs' => ?_, fun r => ?_⟩
    · cases hs : p.controlPlane.overview.status r with
      | none =>
        have hbirth := (step_birth cfg h.controlPlane ho.fresh hs hs').pending
        have hinv := (step_refines cfg h.controlPlane ho.fresh).inv
        rwa [hinv.chronicle_status hs'] at hbirth
      | some st =>
        obtain ⟨st₁, hs₁, hchange, -⟩ := step_change cfg h.controlPlane ho.fresh hs
        have hsame : st₁ = st' := Option.some.inj (hs₁.symm.trans hs')
        exact hsame ▸ hchange.pending (h.pending r st hs)
    · obtain ⟨hsorted, htimes⟩ := traceEvents_timed texts cfg h ho r
      rw [step_events]
      exact ho.sorted (h.sorted r) hsorted htimes
  | emission e =>
    refine ⟨h.controlPlane, h.pending, fun r => ?_⟩
    have hevents := (RequestTraceStore.emit_recorded p.store e).events r
    have hnow := timestamp_emission p.store e
    change (RequestTraceStore.eventsOf (p.store.emit e) r).Pairwise _
    rw [hevents]
    split_ifs
    · refine ho.sorted (h.sorted r) (Overview.pairwise_at hnow) fun e' he' => ?_
      rw [hnow e' he']
      exact List.mem_singleton_self _
    · rw [List.append_nil]
      exact h.sorted r

theorem Platform.run_inv {moves : List Move} (h : p.Inv) (ho : Meets (Platform.step texts cfg) Orderly p moves) :
    (Core.run (Platform.step texts cfg) p moves).Inv :=
  ho.run_inv (fun _ _ h ho => step_inv texts h ho) h

/-! ## A run -/

def tracedSettings : Settings := ⟨4, ⟨1, 1000⟩⟩

def tracedSubmit (requestId : UUID) : SubmitRequest := ⟨⟨requestId, "m", [], false, 8, none⟩, ⟨"trace", 0⟩⟩

/-- request 1 is received, queued, scheduled, batched and submitted -/
def servedMoves : List Move :=
  [.emission (.gatewayReceive 1 "trace" [] 0), .controlPlane (.processThroughQueued (tracedSubmit 1) [] 1 2),
    .controlPlane (.transition 1 .scheduled 3 none none), .controlPlane (.remove 1 3),
    .emission (.recorded (.scheduler .requestSelected) 1 (some "trace") none none none none [] 3),
    .controlPlane (.transition 1 .batched 4 (some 7) none),
    .controlPlane (.transition 1 .submitted 5 none (some "vllm"))]

end Observability

end InferencePlatform
