/-
The control plane refines a machine on overviews.

`Overview.step` says what every operation is for, in terms of statuses and of who waits. `step_refines`: on a run that
registers no id twice (`Fresh`), the objects of the control plane do exactly that, and their invariant is kept.
-/
import InferencePlatform.ControlPlane.Intake
import InferencePlatform.Core.Runs

namespace InferencePlatform.ControlPlane

open InferencePlatform.Core (Dict Meets run run_cons)

/-! ## The abstract machine -/

namespace Overview

variable (cfg : Settings)

/-- nothing happens to an unknown id -/
def onStatus (o : Overview) (r : UUID) (f : Status → Overview) : Overview :=
  match o.status r with
  | none => o
  | some st => f st

def judged (o : Overview) (r : UUID) (st : Status) : Except String AdmissionResult → Overview
  | .error _ => o
  | .ok a => if a.outcome = .accept then o.put r ⟨.admitted, st.reason⟩ else o.put r ⟨.rejected, some .queueFull⟩

def enqueue (o : Overview) (r : UUID) (reason : Option FailureReason) (now : Time) : Overview :=
  if (o.expire cfg.queue now).waits r then o.expire cfg.queue now
  else if cfg.queue.maxQueueSize ≤ (o.expire cfg.queue now).waiting.length then
    (o.expire cfg.queue now).put r ⟨.rejected, some .queueFull⟩
  else (o.expire cfg.queue now).enqueued r reason now

/-- an intake of a fresh id; with the registry full it only expires -/
def intake (o : Overview) (r : UUID) (result : Except String AdmissionResult) (now now' : Time) : Overview :=
  if cfg.registryMaxEntries ≤ o.registered then o.processTimeouts cfg.queue now
  else ((o.processTimeouts cfg.queue now).register r ⟨.validated, none⟩).admitted cfg.queue r none result now'

def step (o : Overview) : Op → Overview
  | .register submit initialState _ =>
    if (initialState ≠ .received ∧ initialState ≠ .validated) ∨ cfg.registryMaxEntries ≤ o.registered then o
    else o.register submit.inferenceRequest.requestId ⟨initialState, none⟩
  | .transition r toState _ _ _ =>
    o.onStatus r fun st => if isAllowedTransition st.state toState then o.put r ⟨toState, st.reason⟩ else o
  | .runAdmission r checks _ =>
    o.onStatus r fun st => if st.state = .validated then o.judged r st (evaluate checks) else o
  | .enqueueFromAdmitted r now =>
    o.onStatus r fun st => if st.state = .admitted then o.enqueue cfg r st.reason now else o
  | .processThroughQueued submit checks now now' =>
    o.intake cfg submit.inferenceRequest.requestId (evaluate checks) now now'
  | .processTimeouts now => o.processTimeouts cfg.queue now
  | .markFailed r reason _ _ _ _ => o.onStatus r fun _ => o.put r ⟨.failed, some reason⟩
  | .completeRequest r _ _ =>
    o.onStatus r fun st =>
      if st.state = .submitted ∨ st.state = .streaming then o.put r ⟨.completed, st.reason⟩ else o
  | .cancel r _ =>
    o.onStatus r fun st =>
      if st.state = .submitted ∨ st.state = .streaming then o.put r ⟨.cancelled, st.reason⟩ else o
  | .dequeueNext now => { o with waiting := (o.expire cfg.queue now).waiting.tail }
  | .remove r _ => { o with waiting := o.waiting.eraseP fun p => p.1 = r }
  | .clear => { o with waiting := [] }
  | .peek now | .listItems now | .getQueueSnapshot _ now | .getQueueStatistics now | .listQueuedRequests now
  | .listQueueItems _ now => o.expire cfg.queue now

end Overview

/-- the operation registers no id that is registered already -/
def Fresh (cp : ControlPlaneApplication) : Op → Prop
  | .register submit _ _ | .processThroughQueued submit _ _ _ =>
    cp.registry.get? submit.inferenceRequest.requestId = none
  | _ => True

instance (cp : ControlPlaneApplication) : (o : Op) → Decidable (Fresh cp o)
  | .register submit _ _ | .processThroughQueued submit _ _ _ =>
    inferInstanceAs (Decidable (cp.registry.get? submit.inferenceRequest.requestId = none))
  | .transition .. | .runAdmission .. | .enqueueFromAdmitted .. | .processTimeouts .. | .markFailed ..
  | .completeRequest .. | .cancel .. | .dequeueNext .. | .peek .. | .listItems .. | .remove .. | .clear
  | .getQueueSnapshot .. | .getQueueStatistics .. | .listQueuedRequests .. | .listQueueItems .. => isTrue trivial

/-! ## The refinement -/

variable {cfg : Settings} {cp cp' : ControlPlaneApplication} {r : UUID} {ref : Ref} {st : Status} {now : Time}

theorem final_ok {α : Type} {x : ControlPlaneM α} {a : α} (h : EStateM.run x cp = .ok a cp') : x.final cp = cp' := by
  simp [ControlPlaneM.final, h]

theorem final_error {α : Type} {x : ControlPlaneM α} {err : ControlPlaneError} (h : EStateM.run x cp = .error err cp') :
    x.final cp = cp' := by
  simp [ControlPlaneM.final, h]

/-- the objects are sound and show the overview `o` -/
structure Shows (cp : ControlPlaneApplication) (o : Overview) : Prop where
  inv : Inv cp
  overview : cp.overview = o

theorem Leaves.shows {o : Overview} (h : Leaves cp cp' o) : Shows cp' o := ⟨h.inv, h.overview⟩

theorem onStatus_some {o : Overview} (hs : o.status r = some st) (f : Status → Overview) : o.onStatus r f = f st := by
  simp [Overview.onStatus, hs]

theorem onStatus_none {o : Overview} (hs : o.status r = none) (f : Status → Overview) : o.onStatus r f = o := by
  simp [Overview.onStatus, hs]

theorem admitted_status {o : Overview} {r₁ : UUID} (reason : Option FailureReason)
    (result : Except String AdmissionResult)
    (now : Time) (hne : r ≠ r₁) : (o.admitted cfg.queue r₁ reason result now).status r = o.status r := by
  cases result with
  | error message => exact Overview.put_status_ne o _ hne
  | ok a =>
    simp only [Overview.admitted]
    split_ifs
    · exact Overview.put_status_ne _ _ hne
    · exact Overview.put_status_ne _ _ hne
    · exact Overview.put_status_ne o _ hne

/-- the intake of a fresh id does to every other request what `process_timeouts` does -/
theorem intake_status {o : Overview} {r₁ : UUID} (result : Except String AdmissionResult) (now now' : Time)
    (hne : r ≠ r₁) : (o.intake cfg r₁ result now now').status r = (o.processTimeouts cfg.queue now).status r := by
  unfold Overview.intake
  split_ifs with hfull
  · rfl
  · rw [admitted_status none result now' hne, Overview.register_status_ne _ _ hne]

/-- an operation on one id: it is unknown, and the operation fails without a change, or it has a status -/
theorem shows_onStatus {α : Type} (h : Inv cp) {x : ControlPlaneM α} {f : Status → Overview}
    (hunknown : cp.registry.get? r = none → EStateM.run x cp = .error (.requestNotFound r) cp)
    (hknown : ∀ st, cp.overview.status r = some st → Shows (x.final cp) (f st)) :
    Shows (x.final cp) (cp.overview.onStatus r f) := by
  cases hs : cp.overview.status r with
  | none =>
    rw [onStatus_none hs, final_error (hunknown ((overview_status_eq_none h).1 hs))]
    exact ⟨h, rfl⟩
  | some st =>
    rw [onStatus_some hs]
    exact hknown st hs

theorem shows_transition (h : Inv cp) (r : UUID) (toState : RequestState) (now : Time) (batchId : Option UUID)
    (backendId : Option String) :
    Shows ((transition r toState now batchId backendId).final cp) (cp.overview.onStatus r fun st =>
      if isAllowedTransition st.state toState then cp.overview.put r ⟨toState, st.reason⟩ else cp.overview) := by
  refine shows_onStatus h (fun hr => transition_unknown hr toState now batchId backendId) fun st hs => ?_
  obtain ⟨hok, herr⟩ := transition_spec h hs toState now batchId backendId
  by_cases hallowed : isAllowedTransition st.state toState = true
  · obtain ⟨ref, cp', hrun, hl⟩ := hok hallowed
    rw [if_pos hallowed, final_ok hrun]
    exact hl.shows
  · obtain ⟨cp', hrun, hl⟩ := herr (by simpa using hallowed)
    rw [if_neg hallowed, final_error hrun]
    exact hl.shows

theorem shows_runAdmission (h : Inv cp) (r : UUID) (checks : List (Except String AdmissionResult)) (now : Time) :
    Shows ((runAdmission r checks now).final cp) (cp.overview.onStatus r fun st =>
      if st.state = .validated then cp.overview.judged r st (evaluate checks) else cp.overview) := by
  refine shows_onStatus h (fun hr => runAdmission_unknown hr checks now) fun st hs => ?_
  obtain ⟨ref, hr, hstart⟩ := startAdmission_spec h hs
  by_cases hst : st.state = .validated
  · rw [if_pos hst] at hstart ⊢
    have hbind : ∀ res, EStateM.run (finishAdmission r ref (evaluate checks) now) cp = res →
        EStateM.run (runAdmission r checks now) cp = res := by
      intro res hres
      simp only [runAdmission, EStateM.run_bind, hstart, hres]
    rcases finishAdmission_spec h hr hs hst (evaluate checks) now with ⟨message, hres, hrun⟩
      | ⟨a, cp', hres, ha, hrun, hl⟩ |
      ⟨a, cp', hres, ha, hrun, hl⟩
    · rw [final_error (hbind _ hrun), hres]
      exact ⟨h, rfl⟩
    · rw [final_ok (hbind _ hrun), hres]
      simp only [Overview.judged, if_pos ha]
      exact hl.shows
    · rw [final_ok (hbind _ hrun), hres]
      simp only [Overview.judged, if_neg ha]
      exact hl.shows
  · rw [if_neg hst] at hstart ⊢
    have hrun : EStateM.run (runAdmission r checks now) cp = .error (.invalidTransition r st.state .admitted) cp := by
      simp only [runAdmission, EStateM.run_bind, hstart]
    rw [final_error hrun]
    exact ⟨h, rfl⟩

theorem shows_enqueueFromAdmitted (h : Inv cp) (r : UUID) (now : Time) :
    Shows ((enqueueFromAdmitted cfg.queue r now).final cp) (cp.overview.onStatus r fun st =>
      if st.state = .admitted then cp.overview.enqueue cfg r st.reason now else cp.overview) := by
  refine shows_onStatus h (fun hr => enqueueFromAdmitted_unknown hr now) fun st hs => ?_
  rcases enqueueFromAdmitted_spec cfg.queue h hs now with ⟨hst, message, hrun⟩
    | ⟨hst, ⟨hwaits, message, cp', hrun, hl⟩ |
    ⟨ref, cp', hrun, -, hwaits, hl⟩⟩
  · rw [if_neg hst, final_error hrun]
    exact ⟨h, rfl⟩
  · rw [if_pos hst, final_error hrun, Overview.enqueue, if_pos hwaits]
    exact hl.shows
  · rw [if_pos hst, final_ok hrun, Overview.enqueue, if_neg hwaits]
    exact hl.shows

theorem shows_processThroughQueued (h : Inv cp) (submit : SubmitRequest) (checks : List (Except String AdmissionResult))
    (now now' : Time) (hfresh : cp.registry.get? submit.inferenceRequest.requestId = none) :
    Shows ((processThroughQueued cfg submit checks now now').final cp)
      (cp.overview.intake cfg submit.inferenceRequest.requestId (evaluate checks) now now') := by
  set r := submit.inferenceRequest.requestId with hr
  have hs := (overview_status_eq_none h).2 hfresh
  have hw := not_waits_of_unregistered h hs
  rcases processUntilAdmission_spec cfg h submit now hs with ⟨cp', hrun, hfull, hl⟩ |
    ⟨ref, cp₁, hrun, hinv₁, hreg, hroom, hov⟩
  · have hrun' : EStateM.run (processThroughQueued cfg submit checks now now') cp =
        .error (.requestNotFound r) cp' := by
      simp only [processThroughQueued, EStateM.run_bind, hrun, hr]
    rw [final_error hrun', Overview.intake, if_pos hfull]
    exact hl.shows
  · have hr₁ : cp₁.registry.get? r = some ref := by rw [hreg]; exact Dict.get?_set_self _ _ _
    have hs₁ : cp₁.overview.status r = some ⟨.validated, none⟩ := by
      rw [hov]
      exact Overview.register_status_self _ _ _
    have hw₁ : ¬cp₁.overview.waits r := by
      rw [hov]
      exact Overview.processTimeouts_waits hw
    obtain ⟨cp₂, hrun₂, hl⟩ := processFromAdmission_spec cfg hinv₁ hr₁ hs₁ rfl hw₁ (evaluate checks) now'
    have hrun' : EStateM.run (processThroughQueued cfg submit checks now now') cp = .ok ref cp₂ := by
      simp only [processThroughQueued, EStateM.run_bind, hrun, ← hr, hrun₂]
    rw [final_ok hrun', Overview.intake, if_neg (not_le.2 hroom), ← hov]
    exact hl.shows

theorem shows_register (h : Inv cp) (submit : SubmitRequest) (initialState : RequestState) (now : Time)
    (hfresh : cp.registry.get? submit.inferenceRequest.requestId = none) :
    Shows ((register cfg submit initialState now).final cp)
      (if (initialState ≠ .received ∧ initialState ≠ .validated) ∨ cfg.registryMaxEntries ≤ cp.overview.registered then
        cp.overview
      else cp.overview.register submit.inferenceRequest.requestId ⟨initialState, none⟩) := by
  have hs := (overview_status_eq_none h).2 hfresh
  rcases register_spec cfg h submit initialState now hs with ⟨err, hrun, hbad⟩
    | ⟨ref, cp', hrun, hinv, -, hinit, hroom, hov⟩
  · rw [final_error hrun, if_pos (hbad.imp id And.left)]
    exact ⟨h, rfl⟩
  · rw [final_ok hrun, if_neg (not_or.2 ⟨hinit, not_le.2 hroom⟩)]
    exact ⟨hinv, hov⟩

theorem shows_markFailed (h : Inv cp) (r : UUID) (reason : FailureReason) (message : String) (now : Time)
    (batchId : Option UUID) (backendId : Option String) :
    Shows ((markFailed r reason message now batchId backendId).final cp)
      (cp.overview.onStatus r fun _ => cp.overview.put r ⟨.failed, some reason⟩) := by
  refine shows_onStatus h (fun hr => markFailed_unknown hr reason message now batchId backendId) fun st hs => ?_
  obtain ⟨ref, cp', hrun, -, hl⟩ := markFailed_spec h hs reason message now batchId backendId
  rw [final_ok hrun]
  exact hl.shows

theorem shows_completeRequest (h : Inv cp) (r : UUID) (completion : Option InferenceCompletionRecord) (now : Time) :
    Shows ((completeRequest r completion now).final cp) (cp.overview.onStatus r fun st =>
      if st.state = .submitted ∨ st.state = .streaming then cp.overview.put r ⟨.completed, st.reason⟩
      else cp.overview) := by
  refine shows_onStatus h (fun hr => completeRequest_unknown hr completion now) fun st hs => ?_
  obtain ⟨hok, herr⟩ := completeRequest_spec h hs completion now
  by_cases hst : st.state = .submitted ∨ st.state = .streaming
  · obtain ⟨ref, cp', hrun, hl⟩ := hok hst
    rw [if_pos hst, final_ok hrun]
    exact hl.shows
  · rw [if_neg hst, final_error (herr hst)]
    exact ⟨h, rfl⟩

theorem shows_cancel (h : Inv cp) (r : UUID) (now : Time) :
    Shows ((cancel r now).final cp) (cp.overview.onStatus r fun st =>
      if st.state = .submitted ∨ st.state = .streaming then cp.overview.put r ⟨.cancelled, st.reason⟩
      else cp.overview) := by
  refine shows_onStatus h (fun hr => cancel_unknown hr now) fun st hs => ?_
  obtain ⟨hok, hno⟩ := cancel_spec h hs now
  by_cases hst : st.state = .submitted ∨ st.state = .streaming
  · obtain ⟨ref, cp', hrun, hl⟩ := hok hst
    rw [if_pos hst, final_ok hrun]
    exact hl.shows
  · obtain ⟨ref, hrun⟩ := hno hst
    rw [if_neg hst, final_ok hrun]
    exact ⟨h, rfl⟩

theorem shows_processTimeouts (h : Inv cp) (now : Time) :
    Shows ((processTimeouts cfg.queue now).final cp) (cp.overview.processTimeouts cfg.queue now) := by
  obtain ⟨refs, cp', hrun, hl⟩ := processTimeouts_spec cfg.queue h now
  rw [final_ok hrun]
  exact hl.shows

/-! ### Looking at the queue, and taking items out -/

/-- an operation that lists the items and then changes nothing -/
theorem shows_looking {α : Type} {x : ControlPlaneM α} (h : Inv cp) (now : Time)
    (hx : ∀ cp', EStateM.run (listItems cfg.queue now) cp = .ok cp'.items cp' → ∃ a, EStateM.run x cp = .ok a cp') :
    Shows (x.final cp) (cp.overview.expire cfg.queue now) := by
  obtain ⟨cp', hrun, hl⟩ := listItems_spec cfg.queue h now
  obtain ⟨a, hrun'⟩ := hx cp' hrun
  rw [final_ok hrun']
  exact hl.shows

theorem shows_peek (h : Inv cp) (now : Time) :
    Shows ((peek cfg.queue now).final cp) (cp.overview.expire cfg.queue now) := by
  obtain ⟨cp', hrun, -, hl⟩ := expireTimeoutsLocked_spec cfg.queue h now
  have hpeek : EStateM.run (peek cfg.queue now) cp = .ok cp'.items.head? cp' := by
    simp only [peek, EStateM.run_bind, hrun, EStateM.run_get, EStateM.run_pure]
  rw [final_ok hpeek]
  exact hl.shows

theorem getQueueSnapshot_run (queueName : String) (now : Time) {cp' : ControlPlaneApplication}
    (hrun : EStateM.run (listItems cfg.queue now) cp = .ok cp'.items cp') :
    ∃ snapshot, EStateM.run (getQueueSnapshot cfg.queue queueName now) cp = .ok snapshot cp' :=
  ⟨_, by simp only [getQueueSnapshot, EStateM.run_bind, hrun, EStateM.run_get, EStateM.run_pure]; rfl⟩

theorem shows_getQueueSnapshot (h : Inv cp) (queueName : String) (now : Time) :
    Shows ((getQueueSnapshot cfg.queue queueName now).final cp) (cp.overview.expire cfg.queue now) :=
  shows_looking h now fun _ hrun => getQueueSnapshot_run queueName now hrun

theorem shows_listQueueItems (h : Inv cp) (limit : ℕ) (now : Time) :
    Shows ((listQueueItems cfg.queue limit now).final cp) (cp.overview.expire cfg.queue now) := by
  refine shows_looking h now fun cp' hrun => ?_
  obtain ⟨snapshot, hsnap⟩ := getQueueSnapshot_run "all" now hrun
  exact ⟨snapshot.items.take limit, by simp only [listQueueItems, EStateM.run_bind, hsnap, EStateM.run_pure]⟩

theorem shows_getQueueStatistics (h : Inv cp) (now : Time) :
    Shows ((getQueueStatistics cfg.queue now).final cp) (cp.overview.expire cfg.queue now) := by
  refine shows_looking h now fun cp' hrun => ?_
  simp only [getQueueStatistics, EStateM.run_bind, hrun, EStateM.run_pure]
  exact ⟨_, rfl⟩

theorem shows_listQueuedRequests (h : Inv cp) (now : Time) :
    Shows ((listQueuedRequests cfg.queue now).final cp) (cp.overview.expire cfg.queue now) := by
  refine shows_looking h now fun cp' hrun => ?_
  simp only [listQueuedRequests, EStateM.run_bind, hrun, EStateM.run_get, EStateM.run_pure]
  exact ⟨_, rfl⟩

theorem Leaves.queueLogged {o : Overview} (h : Leaves cp cp' o) {event : QueueEvent}
    (he : event.eventType ≠ .queueTimeout) : Leaves cp (cp'.queueLogged event) o :=
  ⟨h.inv.queueLogged event, h.registry, (overview_queueLogged cp' he).trans h.overview⟩

/-- the head of the queue leaves, and an event says so -/
theorem dequeueNext_run (cfg : Settings) (h : Inv cp) (now : Time) :
    ∃ cp₁, Requeued cp cp₁ ∧ Leaves cp cp₁
      { cp.overview with waiting := (cp.overview.expire cfg.queue now).waiting.tail } ∧
      (((cp.overview.expire cfg.queue now).waiting = [] ∧ EStateM.run (dequeueNext cfg.queue now) cp = .ok none cp₁) ∨
        ∃ (item : QueuedRequest) (e : RegisteredRequest),
          (cp.overview.expire cfg.queue now).waiting.head? = some item.waiting ∧
          e.requestId = item.requestId ∧
          EStateM.run (dequeueNext cfg.queue now) cp = .ok (some item.entry) (cp₁.queueLogged
            { queueEvent .requestDequeued e item.queuePosition now with
              queueWaitDuration := some (elapsed item.queueEnteredAt now)
              requestAge := some (elapsed e.createdAt now) })) := by
  obtain ⟨cp₁, hrun, hq₁, hl⟩ := expireTimeoutsLocked_spec cfg.queue h now
  have hwaiting : (cp.overview.expire cfg.queue now).waiting = cp₁.items.map QueuedRequest.waiting := by
    rw [← hl.overview]
    rfl
  rw [hwaiting]
  cases hitems : cp₁.items with
  | nil =>
    refine ⟨cp₁, hq₁, ⟨hl.inv, hl.registry, hl.overview.trans ?_⟩, Or.inl ⟨rfl, ?_⟩⟩
    · rw [Overview.expire, List.map_nil, List.tail_nil]
      congr 1
      rw [hitems] at hwaiting
      exact hwaiting
    · simp only [dequeueNext, dequeue, EStateM.run_bind, hrun, EStateM.run_get, hitems, EStateM.run_pure]
  | cons item rest =>
    obtain ⟨cp₂, hrun₂, hq, hitems₂⟩ := reindexPositions_spec { cp₁ with items := rest }
    have hq₂ : Requeued cp₁ cp₂ := ⟨hq.entries, hq.registry, hq.events⟩
    have hsub : rest.Sublist cp₁.items := hitems ▸ List.sublist_cons_self item rest
    have hl₂ := hq₂.leaves hl.inv hsub hitems₂
    have hreg : cp₂.registry.get? item.requestId = some item.entry := by
      rw [hl₂.registry]
      exact hl.inv.queued item (by simp [hitems])
    obtain ⟨e, he, hid⟩ := hl₂.inv.registered hreg
    have hdequeue : EStateM.run (dequeue cfg.queue now) cp = .ok (some item) cp₂ := by
      simp only [dequeue, EStateM.run_bind, hrun, EStateM.run_get, hitems, EStateM.run_modify, hrun₂, EStateM.run_pure]
    refine ⟨cp₂, hq₁.trans hq₂, ⟨hl₂.inv, hl₂.registry.trans hl.registry, ?_⟩, Or.inr ⟨item, e, rfl, hid, ?_⟩⟩
    · rw [hl₂.overview, hl.overview, List.map_cons, List.tail_cons]
      rfl
    · simp only [dequeueNext, EStateM.run_bind, hdequeue, derefEntry_run he, emitQueue_run, EStateM.run_pure]
      rfl

theorem shows_dequeueNext (h : Inv cp) (now : Time) :
    Shows ((dequeueNext cfg.queue now).final cp)
      { cp.overview with waiting := (cp.overview.expire cfg.queue now).waiting.tail } := by
  obtain ⟨cp₁, -, hl, ⟨-, hrun⟩ | ⟨item, e, -, -, hrun⟩⟩ := dequeueNext_run cfg h now
  · rw [final_ok hrun]
    exact hl.shows
  · rw [final_ok hrun]
    exact (hl.queueLogged (by simp [queueEvent])).shows

/-- the waiting item of a request leaves, and an event says so -/
theorem remove_run (h : Inv cp) (r : UUID) (now : Time) :
    ∃ cp₁, Requeued cp cp₁ ∧ Leaves cp cp₁ { cp.overview with waiting := cp.overview.waiting.eraseP fun p => p.1 = r } ∧
      ((¬cp.overview.waits r ∧ EStateM.run (remove r now) cp = .ok none cp₁) ∨
        cp.overview.waits r ∧ ∃ (item : QueuedRequest) (e : RegisteredRequest), e.requestId = r ∧
          EStateM.run (remove r now) cp =
          .ok (some item.entry) (cp₁.queueLogged (queueEvent .queueRemoved e item.queuePosition now))) := by
  have hmap : (cp.items.eraseP fun item => decide (item.requestId = r)).map QueuedRequest.waiting =
      cp.overview.waiting.eraseP fun p => decide (p.1 = r) := by
    rw [show cp.overview.waiting = cp.items.map QueuedRequest.waiting from rfl, List.eraseP_map]
    rfl
  cases hfind : cp.items.find? fun item => decide (item.requestId = r) with
  | none =>
    have hno : ∀ item ∈ cp.items, item.requestId ≠ r := by simpa using hfind
    have hnone : EStateM.run (remove r now) cp = .ok none cp := by
      simp only [remove, removeItem, EStateM.run_bind, EStateM.run_get, hfind, EStateM.run_pure]
    refine ⟨cp, ⟨rfl, rfl, rfl⟩, ⟨h, rfl, ?_⟩, Or.inl ⟨fun hw => ?_, hnone⟩⟩
    · rw [← hmap, List.eraseP_of_forall_not fun item hitem => List.find?_eq_none.1 hfind item hitem]
      rfl
    · obtain ⟨item, hitem, hid⟩ := waits_iff.1 hw
      exact hno item hitem hid
  | some item =>
    set items := cp.items.eraseP fun item => decide (item.requestId = r) with hitems
    obtain ⟨cp₁, hrun₁, hq, hitems₁⟩ := reindexPositions_spec { cp with items }
    have hq₁ : Requeued cp cp₁ := ⟨hq.entries, hq.registry, hq.events⟩
    have hl := hq₁.leaves h List.eraseP_sublist hitems₁
    have hmem := List.mem_of_find?_eq_some hfind
    have hitem : item.requestId = r := by simpa using List.find?_some hfind
    have hreg : cp₁.registry.get? item.requestId = some item.entry := by
      rw [hl.registry]
      exact h.queued item hmem
    obtain ⟨e, he, hid⟩ := hl.inv.registered hreg
    have hremove : EStateM.run (removeItem r) cp = .ok (some item) cp₁ := by
      simp only [removeItem, EStateM.run_bind, EStateM.run_get, hfind, EStateM.run_modify, ← hitems, hrun₁,
        EStateM.run_pure]
    refine ⟨cp₁, hq₁, ⟨hl.inv, hl.registry, hl.overview.trans (by rw [← hmap])⟩,
      Or.inr ⟨waits_iff.2 ⟨item, hmem, hitem⟩, item, e, hid.trans hitem, ?_⟩⟩
    simp only [remove, EStateM.run_bind, hremove, derefEntry_run he, emitQueue_run, EStateM.run_pure]
    rfl

theorem shows_remove (h : Inv cp) (r : UUID) (now : Time) :
    Shows ((remove r now).final cp) { cp.overview with waiting := cp.overview.waiting.eraseP fun p => p.1 = r } := by
  obtain ⟨cp₁, -, hl, ⟨-, hrun⟩ | ⟨-, item, e, -, hrun⟩⟩ := remove_run h r now
  · rw [final_ok hrun]
    exact hl.shows
  · rw [final_ok hrun]
    exact (hl.queueLogged (by simp [queueEvent])).shows

theorem shows_clear (h : Inv cp) : Shows (clear.final cp) { cp.overview with waiting := [] } := by
  have hrun : EStateM.run clear cp = .ok cp.items.length { cp with items := [] } := rfl
  rw [final_ok hrun]
  exact ⟨⟨h.registered, by simp, by simp, h.recorded⟩, rfl⟩

/-! ## Steps and runs -/

/-- an operation does to the objects what it does to the overview -/
theorem step_refines (cfg : Settings) (h : Inv cp) {o : Op} (hf : Fresh cp o) :
    Shows (cp.step cfg o) (cp.overview.step cfg o) := by
  cases o with
  | register submit initialState now => exact shows_register h submit initialState now hf
  | transition r toState now batchId backendId => exact shows_transition h r toState now batchId backendId
  | runAdmission r checks now => exact shows_runAdmission h r checks now
  | enqueueFromAdmitted r now => exact shows_enqueueFromAdmitted h r now
  | processThroughQueued submit checks now now' => exact shows_processThroughQueued h submit checks now now' hf
  | processTimeouts now => exact shows_processTimeouts h now
  | markFailed r reason message now batchId backendId => exact shows_markFailed h r reason message now batchId backendId
  | completeRequest r completion now => exact shows_completeRequest h r completion now
  | cancel r now => exact shows_cancel h r now
  | dequeueNext now => exact shows_dequeueNext h now
  | peek now => exact shows_peek h now
  | listItems now => exact shows_looking h now fun cp' hrun => ⟨cp'.items, hrun⟩
  | remove r now => exact shows_remove h r now
  | clear => exact shows_clear h
  | getQueueSnapshot queueName now => exact shows_getQueueSnapshot h queueName now
  | getQueueStatistics now => exact shows_getQueueStatistics h now
  | listQueuedRequests now => exact shows_listQueuedRequests h now
  | listQueueItems limit now => exact shows_listQueueItems h limit now

/-- a run of the objects that registers no id twice is a run of the overviews -/
theorem run_refines (cfg : Settings) {ops : List Op} (h : Inv cp)
    (hf : Meets (ControlPlaneApplication.step cfg) Fresh cp ops) :
    Shows (run (ControlPlaneApplication.step cfg) cp ops) (run (Overview.step cfg) cp.overview ops) := by
  induction ops generalizing cp with
  | nil => exact ⟨h, rfl⟩
  | cons o ops ih =>
    obtain ⟨hinv, hov⟩ := step_refines cfg h hf.1
    rw [run_cons, run_cons, ← hov]
    exact ih hinv hf.2

theorem run_inv_of_fresh (cfg : Settings) {ops : List Op} (h : Inv cp)
    (hf : Meets (ControlPlaneApplication.step cfg) Fresh cp ops) :
      Inv (run (ControlPlaneApplication.step cfg) cp ops) :=
  (run_refines cfg h hf).inv

end InferencePlatform.ControlPlane
