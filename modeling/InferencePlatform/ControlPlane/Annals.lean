/-
What the control plane reports about a request, beside what its entry has been through.

A `Report` is what an event says to whoever records it: whose it is, when, and the state or the queue event it
announces. An `Annal` is what the registered entry of a request went through: the states it has left, and its present
status.

The triples of the operations say what each of them adds to the reports (`T`) and makes of the annals (`H`).
-/
import InferencePlatform.ControlPlane.Metrics

namespace InferencePlatform.ControlPlane

open InferencePlatform.Core (Dict Keeps Yields)
open Std.Do

set_option mvcgen.warning false

/-! ## Reports -/

inductive Notice
  | lifecycle (eventType : LifecycleEventType) (toState : RequestState) (reason : Option FailureReason)
  | queue (eventType : QueueEventType) (reason : Option String)
  deriving DecidableEq, Repr

structure Report where
  requestId : UUID
  timestamp : Time
  notice : Notice
  deriving DecidableEq, Repr

def Event.report : Event → Report
  | .lifecycle event => ⟨event.requestId, event.timestamp, .lifecycle event.eventType event.toState event.failureReason⟩
  | .queue event => ⟨event.requestId, event.timestamp, .queue event.eventType event.reason⟩

def ControlPlaneApplication.reports (cp : ControlPlaneApplication) : List Report := cp.events.map Event.report

/-- the report of a transition that is carried out -/
def transitionReports (r : UUID) (toState : RequestState) (reason : Option FailureReason) (now : Time) : List Report :=
  match transitionEvent toState with
  | none => []
  | some (eventType, withReason) => [⟨r, now, .lifecycle eventType toState (if withReason then reason else none)⟩]

/-! ## Annals -/

structure Annal where
  /-- the states that were left -/
  past : List RequestState
  status : Status
  deriving DecidableEq, Repr

namespace Annal

/-- the states a request has entered, in order -/
def entered (a : Annal) : List RequestState := a.past ++ [a.status.state]

/-- a new status; the same state is not entered again -/
def become (a : Annal) (st : Status) : Annal :=
  ⟨if a.status.state = st.state then a.past else a.entered, st⟩

@[simp] theorem become_status (a : Annal) (st : Status) : (a.become st).status = st := rfl

@[simp] theorem become_self (a : Annal) : a.become a.status = a := by
  rw [become, if_pos rfl]

/-- one step to a state and another status in the same state -/
theorem become_become (a : Annal) {st st' : Status} (h : st.state = st'.state) :
    (a.become st).become st' = a.become st' := by
  simp [become, h]

theorem entered_become (a : Annal) (st : Status) :
    (a.become st).entered = if a.status.state = st.state then a.entered else a.entered ++ [st.state] := by
  by_cases h : a.status.state = st.state
  · simp [become, entered, h]
  · simp [become, entered, h]

end Annal

namespace RegisteredRequest

/-- the changes that lead out of a state, by the state they leave -/
def annal (e : RegisteredRequest) : Annal :=
  ⟨(e.changes.filter fun c => c.fromState ≠ c.toState).map StateChange.fromState, e.status⟩

@[simp] theorem annal_status (e : RegisteredRequest) : e.annal.status = e.status := rfl

theorem annal_enter (w : StateWriter) (s : RequestState) (e : RegisteredRequest) :
    (e.enter w s).annal = e.annal.become ⟨s, e.failureReason⟩ := by
  by_cases h : e.state = s
  · simp [annal, enter, Annal.become, status, h]
  · simp [annal, enter, Annal.become, Annal.entered, status, h]

/-- the annal depends on the recorded changes, the state and the failure reason -/
theorem annal_congr {e e' : RegisteredRequest} (hc : e'.changes = e.changes) (hs : e'.status = e.status) :
    e'.annal = e.annal := by
  rw [annal, annal, hc, hs]

theorem annal_applyFailure (w : StateWriter) (failure : ClassifiedFailure) (e : RegisteredRequest) :
    (e.applyFailure w failure).annal = e.annal.become ⟨targetState failure.category, some failure.reason⟩ := by
  have h := annal_enter w (targetState failure.category) e
  have hstep : (e.applyFailure w failure).annal = (e.enter w (targetState failure.category)).annal.become
      ⟨targetState failure.category, some failure.reason⟩ := by
    simp [annal, applyFailure, Annal.become, status]
  rw [hstep, h]
  exact Annal.become_become _ rfl

end RegisteredRequest

/-- what every request has been through -/
abbrev Chronicle := UUID → Annal

def Chronicle.become (H : Chronicle) (r : UUID) (st : Status) : Chronicle := Function.update H r ((H r).become st)

@[simp] theorem Chronicle.become_self (H : Chronicle) (r : UUID) (st : Status) : H.become r st r = (H r).become st := by
  simp [Chronicle.become]

theorem Chronicle.become_ne (H : Chronicle) {r r' : UUID} (st : Status) (h : r' ≠ r) : H.become r st r' = H r' := by
  simp [Chronicle.become, h]

theorem Chronicle.become_become (H : Chronicle) (r : UUID) {st st' : Status} (h : st.state = st'.state) :
    (H.become r st).become r st' = H.become r st' := by
  simp [Chronicle.become, Annal.become_become _ h]

/-- the registry and its entries stand as in `Linked`, the entries have been through `H`, and `T` has been reported -/
structure Annals (R : Dict UUID Ref) (H : Chronicle) (T : List Report) (cp : ControlPlaneApplication) : Prop where
  linked : Linked R cp
  annal : ∀ r ref e, R.get? r = some ref → cp.entries[ref]? = some e → e.annal = H r
  reports : cp.reports = T

variable {R : Dict UUID Ref} {H : Chronicle} {T : List Report} {cp cp' : ControlPlaneApplication} {r : UUID} {ref : Ref}

/-- what emits nothing, and leaves every entry's changes and status as they are -/
theorem Annals.silent (h : Annals R H T cp) (h' : Linked R cp') (hev : cp'.events = cp.events)
    (hent : cp'.entries.map RegisteredRequest.annal = cp.entries.map RegisteredRequest.annal) : Annals R H T cp' := by
  refine ⟨h', fun r ref e' hr he' => ?_, ?_⟩
  · have hget := congrArg (fun l => l[ref]?) hent
    simp only [List.getElem?_map, he', Option.map_some] at hget
    obtain ⟨e, he, hannal⟩ := Option.map_eq_some_iff.1 hget.symm
    exact hannal.symm.trans (h.annal r ref e hr he)
  · rw [ControlPlaneApplication.reports, hev]
    exact h.reports

theorem Annals.requestId (h : Annals R H T cp) (hr : R.get? r = some ref) {e : RegisteredRequest}
    (he : cp.entries[ref]? = some e) : e.requestId = r := by
  obtain ⟨e', he', hid⟩ := h.linked.registered r ref hr
  rw [he] at he'
  cases he'
  exact hid

theorem Annals.get? (h : Annals R H T cp) : cp.registry.get? r = some ref ↔ R.get? r = some ref := by
  rw [h.linked.registry]

/-- two ids never share an entry -/
theorem Annals.id_eq (h : Annals R H T cp) {r' : UUID} (hr : R.get? r = some ref)
    (hr' : R.get? r' = some ref) : r' = r := by
  obtain ⟨e, he, hid⟩ := h.linked.registered r ref hr
  exact (h.requestId hr' he).symm.trans hid

theorem Annals.status (h : Annals R H T cp) (hr : R.get? r = some ref) {e : RegisteredRequest}
    (he : cp.entries[ref]? = some e) : (H r).status = e.status := by
  rw [← h.annal r ref e hr he]
  rfl

/-- the registered entry shows what was written last -/
theorem Annals.written {st : Status} (h : Annals R (H.become r st) T cp) (hr : R.get? r = some ref)
    {e : RegisteredRequest} (he : cp.entries[ref]? = some e) : e.status = st := by
  have hst := h.status hr he
  rw [Chronicle.become_self] at hst
  exact hst.symm

/-- a registered id leads to an entry -/
theorem Annals.dangling {P : Prop} (h : Annals R H T cp) (hr : R.get? r = some ref) (hnone : cp.entries[ref]? = none) :
    P := by
  obtain ⟨e, he, -⟩ := h.linked.registered r ref hr
  rw [hnone] at he
  cases he

theorem Chronicle.become_same (H : Chronicle) (r : UUID) : H.become r (H r).status = H := by
  simp [Chronicle.become]

theorem Annals.entry (h : Annals R H T cp) (hr : R.get? r = some ref) :
    ∃ e, cp.entries[ref]? = some e ∧ e.requestId = r ∧ e.annal = H r := by
  obtain ⟨e, he, hid⟩ := h.linked.registered r ref hr
  exact ⟨e, he, hid, h.annal r ref e hr he⟩

theorem Linked.store (h : Linked R cp) {e e' : RegisteredRequest} (he : cp.entries[ref]? = some e)
    (hid : e'.requestId = e.requestId) : Linked R (cp.store ref e') := by
  refine h.congr rfl (fun item hitem => ⟨item, hitem, rfl, rfl⟩) fun ref' r' hh => ?_
  obtain ⟨x, hx, hxid⟩ := hh
  by_cases href : ref = ref'
  · subst href
    rw [he] at hx
    cases hx
    exact ⟨e', store_get he e', hid.trans hxid⟩
  · exact ⟨x, by simpa [ControlPlaneApplication.store, List.getElem?_set_ne href] using hx, hxid⟩

/-- the registered entry gets a new status -/
theorem Annals.write (h : Annals R H T cp) (hr : R.get? r = some ref) {e e' : RegisteredRequest} {st : Status}
    (he : cp.entries[ref]? = some e) (hannal : e'.annal = e.annal.become st) (hid : e'.requestId = e.requestId) :
    Annals R (H.become r st) T (cp.store ref e') := by
  refine ⟨h.linked.store he hid, fun r' ref' x hr' hx => ?_, h.reports⟩
  by_cases href : ref = ref'
  · subst href
    obtain rfl := h.id_eq hr hr'
    rw [store_get he] at hx
    cases hx
    rw [hannal, h.annal _ ref e hr he, Chronicle.become_self]
  · have hne : r' ≠ r := by
      intro heq
      rw [heq, hr] at hr'
      exact href (Option.some.inj hr')
    rw [ControlPlaneApplication.store, List.getElem?_set_ne href] at hx
    rw [h.annal r' ref' x hr' hx, Chronicle.become_ne H st hne]

/-- the second of two writes that put the request in the same state -/
theorem Annals.rewrite {st st' : Status} (h : Annals R (H.become r st) T cp) (hr : R.get? r = some ref)
    {e e' : RegisteredRequest} (he : cp.entries[ref]? = some e) (hannal : e'.annal = e.annal.become st')
    (hid : e'.requestId = e.requestId) (hsame : st.state = st'.state) :
    Annals R (H.become r st') T (cp.store ref e') := by
  have h' := h.write hr he hannal hid
  rwa [Chronicle.become_become H r hsame] at h'

/-- the registered entry is written without a new status -/
theorem Annals.store (h : Annals R H T cp) (hr : R.get? r = some ref) {e e' : RegisteredRequest}
    (he : cp.entries[ref]? = some e) (hannal : e'.annal = e.annal) (hid : e'.requestId = e.requestId) :
    Annals R H T (cp.store ref e') := by
  have h' := h.write hr he (hannal.trans e.annal.become_self.symm) hid
  rwa [e.annal_status, ← h.status hr he, Chronicle.become_same] at h'

/-! ## Elementary steps -/

theorem modifyEntry_annals (ref : Ref) (f : RegisteredRequest → RegisteredRequest)
    (hf : ∀ e, (f e).requestId = e.requestId ∧ (f e).annal = e.annal) :
    Yields (Annals R H T) (modifyEntry ref f) fun _ => Annals R H T := by
  mvcgen [modifyEntry]
  next cp h _ =>
    exact h.silent ((modifyEntry_linked ref f fun e => (hf e).1).ok h.linked rfl) rfl
      (map_modify _ _ _ fun e => (hf e).2)

theorem reports_emit (cp : ControlPlaneApplication) (event : Event) :
    ({ cp with events := cp.events ++ [event] } : ControlPlaneApplication).reports = cp.reports ++ [event.report] := by
  simp [ControlPlaneApplication.reports]

theorem emitLifecycle_annals (event : LifecycleEvent) :
    Yields (Annals R H T) (emitLifecycle event) fun _ => Annals R H (T ++ [(Event.lifecycle event).report]) := by
  mvcgen [emitLifecycle]
  next cp h _ => exact ⟨(emitLifecycle_linked event).ok h.linked rfl, h.annal, h.reports ▸ reports_emit cp _⟩

theorem emitQueue_annals (event : QueueEvent) :
    Yields (Annals R H T) (emitQueue event) fun _ => Annals R H (T ++ [(Event.queue event).report]) := by
  mvcgen [emitQueue]
  next cp h _ => exact ⟨(emitQueue_linked event).ok h.linked rfl, h.annal, h.reports ▸ reports_emit cp _⟩

attribute [local spec] modifyEntry_annals emitLifecycle_annals emitQueue_annals

theorem updateState_annals (w : StateWriter) (r : UUID) (s : RequestState) (now : Time) :
    ⦃fun cp => ⌜Annals R H T cp⌝⦄ updateState w r s now
    ⦃post⟨fun ref cp => ⌜R.get? r = some ref ∧ Annals R (H.become r ⟨s, (H r).status.reason⟩) T cp⌝,
      fun _ cp => ⌜Annals R H T cp⌝⟩⦄ := by
  refine Core.triple_iff.2 fun cp h => ?_
  cases hr : cp.registry.get? r with
  | none =>
    simp only [updateState, EStateM.run_bind, getRef_unknown hr]
    exact h
  | some ref =>
    have hr' := h.get?.1 hr
    obtain ⟨e, he, -, -⟩ := h.entry hr'
    rw [updateState_store hr he]
    rw [h.status hr' he]
    have hannal : ({ e.enter w s with updatedAt := now } : RegisteredRequest).annal =
        e.annal.become ⟨s, e.failureReason⟩ :=
      RegisteredRequest.annal_enter w s e
    exact ⟨hr', h.write hr' he hannal rfl⟩

theorem emitStateEvent_annals (eventType : LifecycleEventType) (entry : RegisteredRequest) (now : Time)
    (completion : Option InferenceCompletionRecord) :
    Yields (Annals R H T) (emitStateEvent eventType entry now completion) fun _ =>
      Annals R H (T ++ [⟨entry.requestId, now, .lifecycle eventType entry.state none⟩]) := by
  mvcgen [emitStateEvent]

theorem emitForTransition_annals (entry : RegisteredRequest) (fromState toState : RequestState) (now : Time) :
    Yields (Annals R H T) (emitForTransition entry fromState toState now) fun _ =>
      Annals R H (T ++ transitionReports entry.requestId toState entry.failureReason now) := by
  mvcgen [emitForTransition]
  next hnone cp h =>
    rw [transitionReports, hnone, List.append_nil]
    exact h
  next hsome _ _ _ _ =>
    rw [transitionReports, hsome]
    exact id

attribute [local spec] updateState_annals emitStateEvent_annals emitForTransition_annals

/-! ## Lifecycle operations -/

/-- what is returned is the registered entry -/
theorem transition_annals (r : UUID) (toState : RequestState) (now : Time) (batchId : Option UUID)
    (backendId : Option String) :
    ⦃fun cp => ⌜Annals R H T cp⌝⦄ transition r toState now batchId backendId
    ⦃post⟨fun ref cp => ⌜R.get? r = some ref ∧ Annals R (H.become r ⟨toState, (H r).status.reason⟩)
        (T ++ transitionReports r toState (H r).status.reason now) cp⌝,
      fun _ cp => ⌜Annals R H T cp⌝⟩⦄ := by
  mvcgen -trivial [transition, getRef, derefEntry]
  all_goals first
    | exact ‹Annals _ _ _ _›
    | exact And.right (by assumption)
    | exact fun e => ⟨rfl, RegisteredRequest.annal_congr rfl rfl⟩
    | skip
  next h _ x hr _ _ _ _ _ _ _ _ h₁ _ he _ _ h₂ =>
    have hreason : RegisteredRequest.failureReason _ = (H r).status.reason :=
      congrArg Status.reason (h₁.2.written h₁.1 he)
    rw [h₁.2.requestId h₁.1 he, hreason] at h₂
    exact ⟨h₁.1, h₂⟩
  next h hnone => exact h.2.dangling h.1 hnone

attribute [local spec] transition_annals

/-- the report of a failure: the transition carries the reason the entry had before it, the forced change carries
none -/
def failureReport (r : UUID) (st : Status) (now : Time) : Report :=
  ⟨r, now, .lifecycle .requestFailed .failed (if isAllowedTransition st.state .failed then st.reason else none)⟩

theorem markFailed_annals (r : UUID) (reason : FailureReason) (message : String) (now : Time) (batchId : Option UUID)
    (backendId : Option String) :
    ⦃fun cp => ⌜Annals R H T cp⌝⦄ markFailed r reason message now batchId backendId
    ⦃post⟨fun _ cp => ⌜Annals R (H.become r ⟨.failed, some reason⟩) (T ++ [failureReport r (H r).status now]) cp⌝,
      fun _ cp => ⌜Annals R H T cp⌝⟩⦄ := by
  refine Core.triple_iff.2 fun cp h => ?_
  cases hr : cp.registry.get? r with
  | none =>
    rw [markFailed_unknown hr]
    exact h
  | some ref =>
    have hr' := h.get?.1 hr
    obtain ⟨e, he, hid, hannal⟩ := h.entry hr'
    have hst : (H r).status = e.status := h.status hr' he
    set e₁ := e.assign batchId backendId with he₁
    have h₁ : Annals R H T (cp.store ref e₁) := h.store hr' he (RegisteredRequest.annal_congr rfl rfl) rfl
    have hget₁ : (cp.store ref e₁).entries[ref]? = some e₁ := store_get he e₁
    have hr₁ : (cp.store ref e₁).registry.get? r = some ref := hr
    set failure := internalFailure message reason with hfailure
    have htarget : targetState failure.category = .failed := rfl
    simp only [markFailed, EStateM.run_bind, getRef_run hr, modifyEntry_store he, ← he₁, derefEntry_run hget₁,
      ← hfailure, htarget]
    by_cases hallowed : isAllowedTransition e₁.state .failed = true
    · have htriple := Core.triple_iff.1 (transition_annals r .failed now none none) _ h₁
      obtain ⟨e₂, events, hrun, -⟩ := (transition_run hr₁ hget₁ .failed now none none).1 hallowed
      set cp₂ := ((cp.store ref e₁).store ref e₂).logged events with hcp₂
      have hget₂ : cp₂.entries[ref]? = some e₂ := store_get hget₁ e₂
      rw [hrun] at htriple
      have h₃ := htriple.2.rewrite hr' hget₂ (RegisteredRequest.annal_applyFailure .markFailed failure e₂) rfl rfl
      have hreport : transitionReports r .failed (H r).status.reason now = [failureReport r (H r).status now] := by
        rw [failureReport, hst, if_pos (show isAllowedTransition e.status.state .failed = true from hallowed)]
        rfl
      rw [hreport] at h₃
      simp only [if_pos hallowed, EStateM.run_bind, hrun, modifyEntry_store hget₂, EStateM.run_pure]
      exact h₃
    · set e₂ := e₁.applyFailure .markFailed failure with he₂
      have hget₂ : (cp.store ref e₂).entries[ref]? = some e₂ := store_get he e₂
      have hr₂ : (cp.store ref e₂).registry.get? r = some ref := hr
      set e₃ : RegisteredRequest := { e₂.enter .markFailed .failed with updatedAt := now } with he₃
      have hget₃ : (cp.store ref e₃).entries[ref]? = some e₃ := store_get he e₃
      have hupd := updateState_store hr₂ hget₂ .markFailed .failed now
      rw [store_store] at hupd
      have hannal₃ : e₃.annal = e.annal.become ⟨.failed, some reason⟩ := by
        have hannal₂ : e₂.annal = e.annal.become ⟨.failed, some reason⟩ :=
          RegisteredRequest.annal_applyFailure .markFailed failure e₁
        have henter : e₃.annal = e₂.annal.become ⟨.failed, some reason⟩ :=
          RegisteredRequest.annal_enter .markFailed .failed e₂
        rw [henter, hannal₂, Annal.become_become _ rfl]
      have h₃ := h.write hr' he hannal₃ rfl
      obtain ⟨_, cp₄, hrun, h₄⟩ := (emitStateEvent_annals .requestFailed e₃ now none).run h₃
      have hreport : (⟨e₃.requestId, now, .lifecycle .requestFailed e₃.state none⟩ : Report) =
          failureReport r (H r).status now := by
        rw [failureReport, hst, if_neg (show ¬isAllowedTransition e.status.state .failed = true from hallowed),
          show e₃.requestId = r from hid]
        rfl
      rw [hreport] at h₄
      simp only [if_neg hallowed, EStateM.run_bind, modifyEntry_store hget₁, ← he₂, store_store, hupd,
        derefEntry_run hget₃, ← he₃, hrun, EStateM.run_pure]
      exact h₄

/-- a request that completes is reported twice -/
def completionReports (r : UUID) (now : Time) : List Report :=
  [⟨r, now, .lifecycle .requestCompleted .completed none⟩, ⟨r, now, .lifecycle .requestCompleted .completed none⟩]

theorem completeRequest_annals (r : UUID) (completion : Option InferenceCompletionRecord) (now : Time) :
    ⦃fun cp => ⌜Annals R H T cp⌝⦄ completeRequest r completion now
    ⦃post⟨fun _ cp => ⌜Annals R (H.become r ⟨.completed, (H r).status.reason⟩) (T ++ completionReports r now) cp⌝,
      fun _ cp => ⌜Annals R H T cp⌝⟩⦄ := by
  mvcgen -trivial [completeRequest, getRef, derefEntry]
  all_goals first
    | exact ‹Annals _ _ _ _›
    | exact And.right (by assumption)
    | exact fun e => ⟨rfl, RegisteredRequest.annal_congr rfl rfl⟩
    | skip
  next h₁ _ he _ _ h₂ =>
    have hstate : RegisteredRequest.state _ = .completed := congrArg Status.state (h₁.2.written h₁.1 he)
    rw [h₁.2.requestId h₁.1 he, hstate, List.append_assoc] at h₂
    exact h₂
  next h hnone => exact h.2.dangling h.1 hnone

/-- cancellation reports nothing -/
theorem cancel_annals (r : UUID) (now : Time) :
    ⦃fun cp => ⌜Annals R H T cp⌝⦄ cancel r now
    ⦃post⟨fun _ cp => ⌜Annals R (if (H r).status.state = .streaming ∨ (H r).status.state = .submitted then
        H.become r ⟨.cancelled, (H r).status.reason⟩ else H) T cp⌝, fun _ cp => ⌜Annals R H T cp⌝⟩⦄ := by
  mvcgen -trivial [cancel, getRef, derefEntry]
  all_goals first
    | exact ‹Annals _ _ _ _›
    | skip
  next h _ hr _ he _ hst _ _ =>
    rw [h.status (h.get?.1 hr) he]
    intro _ h'
    split_ifs with hcancel
    · simpa [transitionReports, transitionEvent] using h'
    · exact absurd hst hcancel
  next h _ hr _ he _ hst =>
    rw [h.status (h.get?.1 hr) he]
    split_ifs with hcancel
    · exact absurd hcancel hst
    · exact h

theorem startAdmission_annals (r : UUID) : Keeps (Annals R H T) (startAdmission r) := by
  mvcgen [startAdmission, getRef, derefEntry]

/-- what an admission check makes of a request, and what it reports; an exception changes nothing -/
def judgedStatus (st : Status) (a : AdmissionResult) : Status :=
  if a.outcome = .accept then ⟨.admitted, st.reason⟩ else ⟨.rejected, some .queueFull⟩

def judgedReport (r : UUID) (a : AdmissionResult) (now : Time) : Report :=
  ⟨r, now, if a.outcome = .accept then .lifecycle .requestAdmitted .admitted none
    else .lifecycle .requestRejected .rejected none⟩

theorem finishAdmission_annals (hr : R.get? r = some ref) (a : AdmissionResult) (now : Time) :
    ⦃fun cp => ⌜Annals R H T cp⌝⦄ finishAdmission r ref (.ok a) now
    ⦃post⟨fun ref' cp => ⌜ref' = ref ∧ Annals R (H.become r (judgedStatus (H r).status a))
      (T ++ [judgedReport r a now]) cp⌝, fun _ cp => ⌜Annals R H T cp⌝⟩⦄ := by
  refine Core.triple_iff.2 fun cp h => ?_
  obtain ⟨e, he, hid, hannal⟩ := h.entry hr
  have hr₀ := h.get?.2 hr
  by_cases haccept : a.outcome = .accept
  · have htriple := Core.triple_iff.1 (transition_annals r .admitted now none none) _ h
    have hrun : EStateM.run (finishAdmission r ref (.ok a) now) cp = EStateM.run (transition r .admitted now) cp := by
      simp only [finishAdmission, if_pos haccept]
    rw [hrun, judgedStatus, judgedReport, if_pos haccept, if_pos haccept]
    cases hres : EStateM.run (transition r .admitted now) cp with
    | ok ref' cp' =>
      rw [hres] at htriple
      refine ⟨?_, htriple.2⟩
      have hret := htriple.1
      rw [hr] at hret
      exact (Option.some.inj hret).symm
    | error err cp' =>
      rw [hres] at htriple
      exact htriple
  · set failure := admissionFailure (if a.reason.getD "" = "" then "admission rejected" else a.reason.getD "") with hf
    set e₁ := e.applyFailure .runAdmission failure with he₁
    set e₂ := e₁.enter .runAdmission .rejected with he₂
    set e₃ : RegisteredRequest := { e₂.enter .runAdmission .rejected with updatedAt := now } with he₃
    have hget₁ : (cp.store ref e₁).entries[ref]? = some e₁ := store_get he e₁
    have hget₂ : (cp.store ref e₂).entries[ref]? = some e₂ := store_get he e₂
    have hget₃ : (cp.store ref e₃).entries[ref]? = some e₃ := store_get he e₃
    have hr₂ : (cp.store ref e₂).registry.get? r = some ref := hr₀
    have hupd := updateState_store hr₂ hget₂ .runAdmission .rejected now
    have hannal₁ : e₁.annal = e.annal.become ⟨.rejected, some .queueFull⟩ :=
      RegisteredRequest.annal_applyFailure .runAdmission failure e
    have hannal₂ : e₂.annal = e₁.annal.become ⟨.rejected, some .queueFull⟩ :=
      RegisteredRequest.annal_enter .runAdmission .rejected e₁
    have hannal₃ : e₃.annal = e₂.annal.become ⟨.rejected, some .queueFull⟩ :=
      RegisteredRequest.annal_enter .runAdmission .rejected e₂
    rw [hannal₂, hannal₁, Annal.become_become _ rfl, Annal.become_become _ rfl] at hannal₃
    obtain ⟨_, cp', hrun, h'⟩ := (emitStateEvent_annals .requestRejected e₃ now none).run (h.write hr he hannal₃ rfl)
    rw [show e₃.requestId = r from hid] at h'
    simp only [finishAdmission, if_neg haccept, EStateM.run_bind, ← hf, modifyEntry_store he, ← he₁,
      modifyEntry_store hget₁, store_store, ← he₂, hupd, ← he₃, derefEntry_run hget₃, hrun, EStateM.run_pure]
    rw [judgedStatus, judgedReport, if_neg haccept, if_neg haccept]
    exact ⟨trivial, h'⟩

attribute [local spec] startAdmission_annals

/-! ## Queue operations -/

theorem reindexPositions_annals : Keeps (Annals R H T) reindexPositions := by
  mvcgen [reindexPositions]
  next cp h _ =>
    exact h.silent (reindexPositions_linked.ok h.linked rfl) rfl
      (map_reposition RegisteredRequest.annal (fun _ _ => rfl) (numbered cp.items) cp.entries)

attribute [local spec] reindexPositions_annals

theorem expireTimeoutsLocked_annals (cfg : QueueCapacityConfig) (now : Time) :
    Keeps (Annals R H T) (expireTimeoutsLocked cfg now) := by
  mvcgen [expireTimeoutsLocked]
  next cp h _ _ => exact h.silent (h.linked.sublist rfl rfl List.filter_sublist) rfl rfl

attribute [local spec] expireTimeoutsLocked_annals

theorem peek_annals (cfg : QueueCapacityConfig) (now : Time) : Keeps (Annals R H T) (peek cfg now) := by
  mvcgen [peek]

theorem listItems_annals (cfg : QueueCapacityConfig) (now : Time) : Keeps (Annals R H T) (listItems cfg now) := by
  mvcgen [listItems]

attribute [local spec] listItems_annals

theorem getQueueSnapshot_annals (cfg : QueueCapacityConfig) (queueName : String) (now : Time) :
    Keeps (Annals R H T) (getQueueSnapshot cfg queueName now) := by
  mvcgen [getQueueSnapshot]

attribute [local spec] getQueueSnapshot_annals

theorem getQueueStatistics_annals (cfg : QueueCapacityConfig) (now : Time) :
    Keeps (Annals R H T) (getQueueStatistics cfg now) := by
  mvcgen [getQueueStatistics]

theorem listQueuedRequests_annals (cfg : QueueCapacityConfig) (now : Time) :
    Keeps (Annals R H T) (listQueuedRequests cfg now) := by
  mvcgen [listQueuedRequests]

theorem listQueueItems_annals (cfg : QueueCapacityConfig) (limit : ℕ) (now : Time) :
    Keeps (Annals R H T) (listQueueItems cfg limit now) := by
  mvcgen [listQueueItems]

theorem clear_annals : Keeps (Annals R H T) clear := by
  mvcgen [clear]
  next cp h _ => exact h.silent (h.linked.sublist rfl rfl (List.nil_sublist _)) rfl rfl

/-- what the queue writes into entries changes no annal -/
theorem Requeued.annals (hq : Requeued cp cp') (h : Annals R H T cp) (h' : Linked R cp') : Annals R H T cp' := by
  refine h.silent h' hq.events ?_
  have hmap : ∀ entries : List RegisteredRequest,
      entries.map RegisteredRequest.annal = (entries.map RegisteredRequest.unplaced).map RegisteredRequest.annal := by
    intro entries
    rw [List.map_map]
    rfl
  rw [hmap, hq.entries, ← hmap]

theorem Inv.linked_of (h : Inv cp) (hr : cp.registry = R) : Linked R cp := hr ▸ h.linked

theorem Annals.queueLogged (h : Annals R H T cp) (event : QueueEvent) :
    Annals R H (T ++ [(Event.queue event).report]) (cp.queueLogged event) := by
  obtain ⟨_, cp', hrun, h'⟩ := (emitQueue_annals event).run h
  cases hrun
  exact h'

theorem Annals.logged (h : Annals R H T cp) (event : LifecycleEvent) :
    Annals R H (T ++ [(Event.lifecycle event).report]) (cp.logged [event]) := by
  obtain ⟨_, cp', hrun, h'⟩ := (emitLifecycle_annals event).run h
  cases hrun
  exact h'

/-- what the queue makes of an ADMITTED request, and what it reports -/
def queuedStatus (full : Prop) [Decidable full] (st : Status) : Status :=
  if full then ⟨.rejected, some .queueFull⟩ else ⟨.queued, st.reason⟩

def queuedReports (full : Prop) [Decidable full] (r : UUID) (now : Time) : List Report :=
  if full then [⟨r, now, .queue .queueFull (some "queue_full")⟩]
  else [⟨r, now, .queue .requestEnqueued none⟩, ⟨r, now, .lifecycle .requestQueued .queued none⟩]

theorem enqueueFromAdmitted_annals (cfg : QueueCapacityConfig) (h : Inv cp) (ha : Annals R H T cp) {st : Status}
    (hs : cp.overview.status r = some st) (hst : st.state = .admitted) (now : Time)
    (hw : ¬(cp.overview.expire cfg now).waits r) :
    ∃ ref cp', EStateM.run (enqueueFromAdmitted cfg r now) cp = .ok ref cp' ∧
      Annals R (H.become r (queuedStatus (cfg.maxQueueSize ≤ (cp.overview.expire cfg now).waiting.length) st))
        (T ++ queuedReports (cfg.maxQueueSize ≤ (cp.overview.expire cfg now).waiting.length) r now) cp' := by
  obtain ⟨ref, e, hr, he, hid, rfl⟩ := h.entry hs
  have hr' := ha.get?.1 hr
  obtain ⟨cp₁, hq, hl, hcases⟩ := enqueue_spec cfg h hr he hid now
  have hlen : (cp.overview.expire cfg now).waiting.length = cp₁.items.length := by
    rw [← hl.overview]
    simp [ControlPlaneApplication.overview]
  have hstate : e.state = .admitted := hst
  rw [hlen]
  simp only [enqueueFromAdmitted, EStateM.run_bind, getRef_run hr, derefEntry_run he, ne_eq, hstate, not_true_eq_false,
    if_false]
  rcases hcases with ⟨hwaits, -⟩ | ⟨-, hfull, hrun⟩ | ⟨-, hroom, item, cp₂, hrun, hq₂, hinv₂, -⟩
  · exact absurd (hl.overview ▸ hwaits) hw
  · -- refused: the entry is rejected, after the event
    obtain ⟨e₁, he₁, hun⟩ := hq.get he
    have ha₁ : Annals R H T cp₁ := hq.annals ha (hl.inv.linked_of (hl.registry.trans ha.linked.registry))
    set event : QueueEvent := { queueEvent .queueFull e none now with
      reason := some "queue_full", queueDepth := some cp₁.items.length } with hevent
    set failure := admissionFailure "queue_full" .queueFull with hfailure
    set e₂ := e₁.applyFailure .enqueue failure with he₂
    set e₃ := e₂.enter .enqueue .rejected with he₃
    set e₄ : RegisteredRequest := { e₃.enter .enqueue .rejected with updatedAt := now } with he₄
    have hannal₂ : e₂.annal = e₁.annal.become ⟨.rejected, some .queueFull⟩ :=
      RegisteredRequest.annal_applyFailure .enqueue failure e₁
    have hannal₃ : e₃.annal = e₂.annal.become ⟨.rejected, some .queueFull⟩ :=
      RegisteredRequest.annal_enter .enqueue .rejected e₂
    have hannal₄ : e₄.annal = e₃.annal.become ⟨.rejected, some .queueFull⟩ :=
      RegisteredRequest.annal_enter .enqueue .rejected e₃
    rw [hannal₃, hannal₂, Annal.become_become _ rfl, Annal.become_become _ rfl] at hannal₄
    set cp₁' := cp₁.queueLogged event with hcp₁'
    have hget₁ : cp₁'.entries[ref]? = some e₁ := he₁
    have hget₂ : (cp₁'.store ref e₂).entries[ref]? = some e₂ := store_get hget₁ e₂
    have hget₃ : (cp₁'.store ref e₃).entries[ref]? = some e₃ := store_get hget₁ e₃
    have hr₃ : (cp₁'.store ref e₃).registry.get? r = some ref := hl.registry ▸ hr
    refine ⟨ref, cp₁'.store ref e₄, ?_, ?_⟩
    · have hlog : ({ cp₁ with events := cp₁.events ++ [.queue event] } : ControlPlaneApplication) = cp₁' := rfl
      simp only [hrun, EStateM.run_bind, EStateM.run_get, emitQueue_run, ← hevent, ← hfailure, hlog,
        modifyEntry_store hget₁, ← he₂, modifyEntry_store hget₂, store_store, ← he₃, updateState_store hr₃ hget₃, ← he₄,
        EStateM.run_pure]
    · have hfinal := (ha₁.queueLogged event).write hr' hget₁ hannal₄ rfl
      have hreport : (Event.queue event).report = ⟨r, now, .queue .queueFull (some "queue_full")⟩ := by
        rw [Event.report, show event.requestId = r from hid]
        rfl
      rw [queuedStatus, queuedReports, if_pos hfull, if_pos hfull, ← hreport]
      exact hfinal
  · -- accepted: the entry is queued, before the events
    obtain ⟨e₁, he₁, hun⟩ := hq₂.get he
    have ha₂ : Annals R H T cp₂ := hq₂.annals ha (hinv₂.linked_of (hq₂.registry.trans ha.linked.registry))
    have hreason : e₁.failureReason = e.failureReason := congrArg Status.reason (unplaced_congr hun).2.1
    set e₂ := e₁.enter .enqueue .queued with he₂
    set e₃ : RegisteredRequest := { e₂.enter .enqueue .queued with updatedAt := now } with he₃
    have hannal₂ : e₂.annal = e₁.annal.become ⟨.queued, e.failureReason⟩ :=
      hreason ▸ RegisteredRequest.annal_enter .enqueue .queued e₁
    have hannal₃ : e₃.annal = e₂.annal.become ⟨.queued, e.failureReason⟩ :=
      hreason ▸ RegisteredRequest.annal_enter .enqueue .queued e₂
    rw [hannal₂, Annal.become_become _ rfl] at hannal₃
    have hget₂ : (cp₂.store ref e₂).entries[ref]? = some e₂ := store_get he₁ e₂
    have hr₃ : (cp₂.store ref e₂).registry.get? r = some ref := hq₂.registry ▸ hr
    set event : QueueEvent := { queueEvent .requestEnqueued e item.queuePosition now with
      queueWaitDuration := some 0, requestAge := some (elapsed e.createdAt now), queueName := some item.queueName }
      with hevent
    set queuedEvent : LifecycleEvent :=
      { eventType := .requestQueued, requestId := e.requestId, correlationId := e.requestContext.traceId
        lifecycleState := .queued, timestamp := now, model := e.inferenceRequest.model, toState := .queued
        queuePosition := item.queuePosition } with hqueuedEvent
    refine ⟨ref, ((cp₂.store ref e₃).queueLogged event).logged [queuedEvent], ?_, ?_⟩
    · simp only [hrun, EStateM.run_bind, modifyEntry_store he₁, ← he₂, updateState_store hr₃ hget₂, store_store, ← he₃,
        emitQueue_run, ← hevent, emitLifecycle_run, EStateM.run_pure]
      rfl
    · have hfinal := ((ha₂.write hr' he₁ hannal₃ rfl).queueLogged event).logged queuedEvent
      have hreport : (Event.queue event).report = ⟨r, now, .queue .requestEnqueued none⟩ := by
        rw [Event.report, show event.requestId = r from hid]
        rfl
      have hreport' : (Event.lifecycle queuedEvent).report = ⟨r, now, .lifecycle .requestQueued .queued none⟩ := by
        rw [Event.report, show queuedEvent.requestId = r from hid]
      rw [hreport, hreport', List.append_assoc] at hfinal
      rw [queuedStatus, queuedReports, if_neg (not_le.2 hroom), if_neg (not_le.2 hroom)]
      exact hfinal

theorem dequeueNext_annals (cfg : Settings) (h : Inv cp) (ha : Annals R H T cp) (now : Time) :
    Annals R H (T ++ ((cp.overview.expire cfg.queue now).waiting.head?.map fun p =>
      (⟨p.1, now, .queue .requestDequeued none⟩ : Report)).toList) ((dequeueNext cfg.queue now).final cp) := by
  obtain ⟨cp₁, hq, hl, hcases⟩ := dequeueNext_run cfg h now
  have ha₁ := hq.annals ha (hl.inv.linked_of (hl.registry.trans ha.linked.registry))
  rcases hcases with ⟨hempty, hrun⟩ | ⟨item, e, hhead, hid, hrun⟩
  · rw [final_ok hrun, hempty]
    simpa using ha₁
  · rw [final_ok hrun, hhead]
    have hfinal := ha₁.queueLogged { queueEvent .requestDequeued e item.queuePosition now with
      queueWaitDuration := some (elapsed item.queueEnteredAt now), requestAge := some (elapsed e.createdAt now) }
    rw [Event.report, show (queueEvent .requestDequeued e item.queuePosition now).requestId = item.requestId from hid]
      at hfinal
    exact hfinal

theorem remove_annals (h : Inv cp) (ha : Annals R H T cp) (r : UUID) (now : Time) :
    Annals R H (T ++ if cp.overview.waits r then [⟨r, now, .queue .queueRemoved none⟩] else [])
      ((remove r now).final cp) := by
  obtain ⟨cp₁, hq, hl, hcases⟩ := remove_run h r now
  have ha₁ := hq.annals ha (hl.inv.linked_of (hl.registry.trans ha.linked.registry))
  rcases hcases with ⟨hno, hrun⟩ | ⟨hw, item, e, hid, hrun⟩
  · rw [final_ok hrun, if_neg hno, List.append_nil]
    exact ha₁
  · rw [final_ok hrun, if_pos hw]
    have hfinal := ha₁.queueLogged (queueEvent .queueRemoved e item.queuePosition now)
    rw [Event.report, show (queueEvent .queueRemoved e item.queuePosition now).requestId = r from hid] at hfinal
    exact hfinal

/-! ## Queue timeouts -/

theorem timeOut_annals (h : Inv cp) (ha : Annals R H T cp) {item : QueuedRequest}
    (hr : cp.registry.get? item.requestId = some item.entry) (now : Time) :
    ∃ cp', EStateM.run (timeOut now item) cp = .ok item.entry cp' ∧
      Annals R (H.become item.requestId ⟨.timedOut, some .queueTimeout⟩)
        (T ++ [⟨item.requestId, now, .queue .queueTimeout none⟩]) cp' := by
  obtain ⟨e, he, hid⟩ := h.registered hr
  have hr' := ha.get?.1 hr
  set e₁ : RegisteredRequest := { e.enter .processTimeouts .timedOut with
    failureReason := some .queueTimeout, failureMessage := some "queue wait timeout exceeded" } with he₁
  set e₂ : RegisteredRequest := { e₁.enter .processTimeouts .timedOut with updatedAt := now } with he₂
  have hannal₁ : e₁.annal = e.annal.become ⟨.timedOut, some .queueTimeout⟩ := by
    have henter := RegisteredRequest.annal_enter .processTimeouts .timedOut e
    have hstep : e₁.annal = (e.enter .processTimeouts .timedOut).annal.become ⟨.timedOut, some .queueTimeout⟩ := by
      simp [he₁, RegisteredRequest.annal, Annal.become, RegisteredRequest.status]
    rw [hstep, henter]
    exact Annal.become_become _ rfl
  have hannal₂ : e₂.annal = e₁.annal.become ⟨.timedOut, some .queueTimeout⟩ :=
    RegisteredRequest.annal_enter .processTimeouts .timedOut e₁
  rw [hannal₁, Annal.become_become _ rfl] at hannal₂
  have hget : (cp.store item.entry e₁).entries[item.entry]? = some e₁ := store_get he e₁
  have hid₁ : e₁.requestId = item.requestId := hid
  have hr₁ : (cp.store item.entry e₁).registry.get? e₁.requestId = some item.entry := hid₁ ▸ hr
  set event : QueueEvent := { queueEvent .queueTimeout e₁ item.queuePosition now with
    queueWaitDuration := some (elapsed item.queueEnteredAt now) } with hevent
  refine ⟨(cp.store item.entry e₂).queueLogged event, ?_, ?_⟩
  · simp only [timeOut, EStateM.run_bind, modifyEntry_store he, ← he₁, derefEntry_run hget,
      updateState_store hr₁ hget, store_store, ← he₂, emitQueue_run, ← hevent, EStateM.run_pure]
    rfl
  · have hfinal := (ha.write hr' he hannal₂ rfl).queueLogged event
    have hreport : (Event.queue event).report = ⟨item.requestId, now, .queue .queueTimeout none⟩ := by
      rw [Event.report, show event.requestId = item.requestId from hid]
      rfl
    rw [← hreport]
    exact hfinal

/-- some requests have timed out -/
def Chronicle.timedOut (H : Chronicle) (ids : List UUID) : Chronicle := fun r =>
  if r ∈ ids then (H r).become ⟨.timedOut, some .queueTimeout⟩ else H r

theorem timeOutAll_annals (h : Inv cp) (ha : Annals R H T cp) {items : List QueuedRequest}
    (hr : ∀ item ∈ items, cp.registry.get? item.requestId = some item.entry) (now : Time) :
    ∃ refs cp', EStateM.run (timeOutAll now items) cp = .ok refs cp' ∧
      Annals R (H.timedOut (items.map QueuedRequest.requestId))
        (T ++ (items.map QueuedRequest.requestId).map fun r => ⟨r, now, .queue .queueTimeout none⟩) cp' := by
  induction items generalizing cp H T with
  | nil =>
    refine ⟨[], cp, rfl, ?_⟩
    have hsame : H.timedOut [] = H := by
      funext r
      simp [Chronicle.timedOut]
    rw [List.map_nil, List.map_nil, List.append_nil, hsame]
    exact ha
  | cons item items ih =>
    obtain ⟨cp₁, hrun, ha₁⟩ := timeOut_annals h ha (hr item List.mem_cons_self) now
    obtain ⟨cp₁', hrun', hl⟩ := timeOut_spec h (hr item List.mem_cons_self) now
    rw [hrun] at hrun'
    cases hrun'
    obtain ⟨refs, cp₂, hrun₂, ha₂⟩ := ih hl.inv ha₁ fun x hx => hl.registry ▸ hr x (List.mem_cons_of_mem _ hx)
    refine ⟨item.entry :: refs, cp₂, by simp only [timeOutAll, EStateM.run_bind, hrun, hrun₂, EStateM.run_pure], ?_⟩
    have hchron : (H.become item.requestId ⟨.timedOut, some .queueTimeout⟩).timedOut
        (items.map QueuedRequest.requestId) = H.timedOut ((item :: items).map QueuedRequest.requestId) := by
      funext r
      by_cases hid : r = item.requestId
      · subst hid
        simp only [Chronicle.timedOut, Chronicle.become_self, List.map_cons, List.mem_cons, true_or, if_true]
        split_ifs
        · exact Annal.become_become _ rfl
        · rfl
      · simp [Chronicle.timedOut, Chronicle.become_ne _ _ hid, hid]
    rw [hchron, List.append_assoc] at ha₂
    exact ha₂

/-- what expiry reports: one timeout for every late request -/
def Overview.timeoutReports (cfg : QueueCapacityConfig) (o : Overview) (now : Time) : List Report :=
  (o.lateIds cfg now).map fun r => ⟨r, now, .queue .queueTimeout none⟩

theorem processTimeouts_annals (cfg : QueueCapacityConfig) (h : Inv cp) (ha : Annals R H T cp) (now : Time) :
    ∃ refs cp', EStateM.run (processTimeouts cfg now) cp = .ok refs cp' ∧
      Annals R (H.timedOut (cp.overview.lateIds cfg now)) (T ++ cp.overview.timeoutReports cfg now) cp' := by
  obtain ⟨cp₁, hrun, -, hl⟩ := expireTimeoutsLocked_spec cfg h now
  have ha₁ := (expireTimeoutsLocked_annals cfg now).ok ha hrun
  have hreg : ∀ item ∈ cp.items.filter (fun item => overdue cfg now item),
      cp₁.registry.get? item.requestId = some item.entry := by
    intro item hitem
    rw [hl.registry]
    exact h.queued item (List.mem_of_mem_filter hitem)
  obtain ⟨refs, cp₂, hrun₂, ha₂⟩ := timeOutAll_annals hl.inv ha₁ hreg now
  have hlate : (cp.items.filter fun item => overdue cfg now item).map QueuedRequest.requestId =
      cp.overview.lateIds cfg now := by
    simp only [Overview.lateIds, ControlPlaneApplication.overview, List.filter_map, List.map_map]
    rfl
  rw [hlate] at ha₂
  exact ⟨refs, cp₂, by simp only [processTimeouts, EStateM.run_bind, hrun, hrun₂], ha₂⟩

/-! ## Registration -/

def Chronicle.born (H : Chronicle) (r : UUID) (a : Annal) : Chronicle := Function.update H r a

def registrationReport (r : UUID) (initialState : RequestState) (now : Time) : Report :=
  ⟨r, now, .lifecycle (if initialState = .received then .requestReceived else .requestValidated) initialState none⟩

theorem register_annals (cfg : Settings) (ha : Annals R H T cp) (submit : SubmitRequest) (initialState : RequestState)
    (now : Time) {ref : Ref} (hrun : EStateM.run (register cfg submit initialState now) cp = .ok ref cp') :
    Annals (R.set submit.inferenceRequest.requestId ref)
      (H.born submit.inferenceRequest.requestId ⟨[], ⟨initialState, none⟩⟩)
      (T ++ [registrationReport submit.inferenceRequest.requestId initialState now]) cp' := by
  rcases register_run cfg ha.linked submit initialState now with ⟨-, -, hrun'⟩ | ⟨-, -, hrun'⟩ |
    ⟨-, -, ref', cp₁, hrun', hlinked, hnew⟩
  · rw [hrun] at hrun'
    cases hrun'
  · rw [hrun] at hrun'
    cases hrun'
  rw [hrun] at hrun'
  cases hrun'
  set e : RegisteredRequest := { submit, state := initialState, createdAt := now, updatedAt := now } with he
  have hexplicit : ref = cp.entries.length ∧ cp' = (cp.withEntry e).logged
      [{ eventType := if initialState = .received then .requestReceived else .requestValidated
         requestId := e.requestId, correlationId := e.requestContext.traceId, lifecycleState := e.state
         timestamp := now, model := e.inferenceRequest.model, toState := e.state, batchId := e.batchId
         backendId := e.backendId }] := by
    simp only [register] at hrun
    split at hrun
    · cases hrun
    · simp only [EStateM.run_bind, EStateM.run_get] at hrun
      split at hrun
      · cases hrun
      · cases hrun
        exact ⟨rfl, rfl⟩
  obtain ⟨rfl, rfl⟩ := hexplicit
  refine ⟨hlinked, fun r ref e' hr he' => ?_, ?_⟩
  · have he'' : (cp.entries ++ [e])[ref]? = some e' := he'
    rw [Dict.get?_set] at hr
    by_cases hid : r = submit.inferenceRequest.requestId
    · rw [if_pos hid] at hr
      cases hr
      rw [List.getElem?_concat_length] at he''
      cases he''
      rw [hid, Chronicle.born, Function.update_self]
      rfl
    · rw [if_neg hid] at hr
      obtain ⟨e₀, he₀, -, hannal⟩ := ha.entry hr
      rw [List.getElem?_append_left (List.getElem?_eq_some_iff.1 he₀).1, he₀] at he''
      cases he''
      rw [hannal, Chronicle.born, Function.update_of_ne hid]
  · have hreports : (cp.withEntry e).reports = T := ha.reports
    rw [← hreports]
    exact reports_emit (cp.withEntry e) _

end InferencePlatform.ControlPlane
