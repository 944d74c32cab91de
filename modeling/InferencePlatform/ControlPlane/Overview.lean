/-
The control plane without its objects: a status for each request, and who has been waiting since when.

An `Overview` is what the rest of the platform sees of the control plane. `Inv` says that the objects hang together (the
registry names entries of the right request, a queue item holds the registered entry, no request waits twice), and under
it each operation acts on the overview alone: `transition_spec`, `markFailed_spec`, `enqueueFromAdmitted_spec`,
`processTimeouts_spec` and so on are what later proofs use, and nothing after this file unfolds an operation.

`Inv` is kept by every operation but one: registering an id that is waiting gives its queue item another request's
entry.
-/
import InferencePlatform.ControlPlane.Spec

namespace InferencePlatform.ControlPlane

open InferencePlatform.Core (Dict)

/-! ## The abstract control plane -/

@[ext] structure Status where
  state : RequestState
  reason : Option FailureReason
  deriving DecidableEq, Repr

@[ext] structure Overview where
  status : UUID → Option Status
  /-- who waits, and since when, head first -/
  waiting : List (UUID × Time)
  /-- how many queue-timeout events the request has had -/
  timeouts : UUID → ℕ
  /-- how many ids are in the registry -/
  registered : ℕ

namespace Overview

def waits (o : Overview) (r : UUID) : Prop := ∃ p ∈ o.waiting, p.1 = r

instance (o : Overview) (r : UUID) : Decidable (o.waits r) := inferInstanceAs (Decidable (∃ p ∈ o.waiting, p.1 = r))

def put (o : Overview) (r : UUID) (st : Status) : Overview := { o with status := Function.update o.status r (some st) }

/-- a new id -/
def register (o : Overview) (r : UUID) (st : Status) : Overview := { o.put r st with registered := o.registered + 1 }

/-- the deadline of a waiting request has passed -/
def late (cfg : QueueCapacityConfig) (now : Time) (p : UUID × Time) : Bool :=
  p.2 + microseconds cfg.queueTimeoutMs < now

def expire (cfg : QueueCapacityConfig) (now : Time) (o : Overview) : Overview :=
  { o with waiting := o.waiting.filter fun p => !late cfg now p }

/-- the requests whose deadline has passed -/
def lateIds (cfg : QueueCapacityConfig) (now : Time) (o : Overview) : List UUID :=
  (o.waiting.filter fun p => late cfg now p).map Prod.fst

def timedOut (ids : List UUID) (o : Overview) : Overview :=
  { o with
    status := fun r => if r ∈ ids then some ⟨.timedOut, some .queueTimeout⟩ else o.status r
    timeouts := fun r => o.timeouts r + ids.count r }

def processTimeouts (cfg : QueueCapacityConfig) (now : Time) (o : Overview) : Overview :=
  (o.expire cfg now).timedOut (o.lateIds cfg now)

def enqueued (o : Overview) (r : UUID) (reason : Option FailureReason) (now : Time) : Overview :=
  { o.put r ⟨.queued, reason⟩ with waiting := o.waiting ++ [(r, now)] }

@[simp] theorem put_status_self (o : Overview) (r : UUID) (st : Status) : (o.put r st).status r = some st := by
  simp [put]

theorem put_status_ne (o : Overview) {r r' : UUID} (st : Status) (h : r' ≠ r) :
    (o.put r st).status r' = o.status r' := by
  simp [put, h]

@[simp] theorem register_status_self (o : Overview) (r : UUID) (st : Status) :
    (o.register r st).status r = some st := put_status_self o r st

theorem register_status_ne (o : Overview) {r r' : UUID} (st : Status) (h : r' ≠ r) :
    (o.register r st).status r' = o.status r' := put_status_ne o st h

@[simp] theorem put_waiting (o : Overview) (r : UUID) (st : Status) : (o.put r st).waiting = o.waiting := rfl

@[simp] theorem put_timeouts (o : Overview) (r : UUID) (st : Status) : (o.put r st).timeouts = o.timeouts := rfl

@[simp] theorem expire_status (cfg : QueueCapacityConfig) (now : Time) (o : Overview) :
    (o.expire cfg now).status = o.status := rfl

theorem put_self {o : Overview} {r : UUID} {st : Status} (h : o.status r = some st) : o.put r st = o := by
  ext1
  · funext r'
    by_cases hr : r' = r
    · simp [hr, h]
    · exact put_status_ne o st hr
  · rfl
  · rfl
  · rfl

end Overview

open Overview (late)

/-! ## The concrete one -/

def RegisteredRequest.status (e : RegisteredRequest) : Status := ⟨e.state, e.failureReason⟩

def QueuedRequest.waiting (item : QueuedRequest) : UUID × Time := (item.requestId, item.queueEnteredAt)

def isTimeoutOf (r : UUID) (event : QueueEvent) : Bool := event.eventType = .queueTimeout ∧ event.requestId = r

namespace ControlPlaneApplication

def overview (cp : ControlPlaneApplication) : Overview where
  status r := (cp.entry? r).map RegisteredRequest.status
  waiting := cp.items.map QueuedRequest.waiting
  timeouts r := cp.queueEvents.countP (isTimeoutOf r)
  registered := cp.registry.items.length

end ControlPlaneApplication

/-- the objects hang together -/
structure Inv (cp : ControlPlaneApplication) : Prop where
  registered : ∀ {r ref}, cp.registry.get? r = some ref → ∃ e, cp.entries[ref]? = some e ∧ e.requestId = r
  queued : ∀ item ∈ cp.items, cp.registry.get? item.requestId = some item.entry
  nodup : (cp.items.map QueuedRequest.requestId).Nodup
  recorded : ∀ e ∈ cp.entries, e.Recorded

theorem inv_init : Inv ControlPlaneApplication.init :=
  ⟨fun {r ref} h => (by simp [ControlPlaneApplication.init] at h), by simp [ControlPlaneApplication.init],
    by simp [ControlPlaneApplication.init], by simp [ControlPlaneApplication.init]⟩

variable {cfg : QueueCapacityConfig} {settings : Settings} {cp cp' : ControlPlaneApplication} {r : UUID} {ref : Ref}
  {e e' : RegisteredRequest} {st : Status} {now : Time}

theorem entry?_eq_some : cp.entry? r = some e ↔ ∃ ref, cp.registry.get? r = some ref ∧ cp.entries[ref]? = some e := by
  simp only [ControlPlaneApplication.entry?, Option.bind_eq_bind, Option.bind_eq_some_iff]

theorem Inv.nodup_waiting (h : Inv cp) : (cp.overview.waiting.map Prod.fst).Nodup := by
  simp only [ControlPlaneApplication.overview, List.map_map]
  exact h.nodup

/-- the entry behind a status -/
theorem Inv.entry (h : Inv cp) (hs : cp.overview.status r = some st) :
    ∃ ref e, cp.registry.get? r = some ref ∧ cp.entries[ref]? = some e ∧ e.requestId = r ∧ e.status = st := by
  obtain ⟨e, he, hst⟩ := Option.map_eq_some_iff.1 hs
  obtain ⟨ref, hr, hget⟩ := entry?_eq_some.1 he
  obtain ⟨e', he', hid⟩ := h.registered hr
  rw [hget] at he'
  cases he'
  exact ⟨ref, e, hr, hget, hid, hst⟩

theorem overview_status (hr : cp.registry.get? r = some ref) (he : cp.entries[ref]? = some e) :
    cp.overview.status r = some e.status := by
  have hget : cp.entry? r = some e := entry?_eq_some.2 ⟨ref, hr, he⟩
  simp [ControlPlaneApplication.overview, hget]

theorem overview_status_eq_none (h : Inv cp) : cp.overview.status r = none ↔ cp.registry.get? r = none := by
  constructor
  · intro hs
    by_contra hr
    obtain ⟨ref, hr⟩ := Option.ne_none_iff_exists'.1 hr
    obtain ⟨e, he, -⟩ := h.registered hr
    simp [overview_status hr he] at hs
  · intro hr
    simp [ControlPlaneApplication.overview, ControlPlaneApplication.entry?, hr]

@[simp] theorem overview_logged (cp : ControlPlaneApplication) (events : List LifecycleEvent) :
    (cp.logged events).overview = cp.overview := by
  simp [ControlPlaneApplication.overview, ControlPlaneApplication.entry?]

theorem Inv.logged (h : Inv cp) (events : List LifecycleEvent) : Inv (cp.logged events) :=
  ⟨h.registered, h.queued, h.nodup, h.recorded⟩

def ControlPlaneApplication.queueLogged (cp : ControlPlaneApplication) (event : QueueEvent) :
    ControlPlaneApplication := { cp with events := cp.events ++ [.queue event] }

@[simp] theorem queueEvents_queueLogged (cp : ControlPlaneApplication) (event : QueueEvent) :
    (cp.queueLogged event).queueEvents = cp.queueEvents ++ [event] := by
  simp [ControlPlaneApplication.queueEvents, ControlPlaneApplication.queueLogged, Event.queue?]

theorem Inv.queueLogged (h : Inv cp) (event : QueueEvent) : Inv (cp.queueLogged event) :=
  ⟨h.registered, h.queued, h.nodup, h.recorded⟩

theorem overview_queueLogged (cp : ControlPlaneApplication) {event : QueueEvent}
    (he : event.eventType ≠ .queueTimeout) :
    (cp.queueLogged event).overview = cp.overview := by
  ext1
  · rfl
  · rfl
  · funext r
    simp [ControlPlaneApplication.overview, isTimeoutOf, he]
  · rfl

theorem overview_timeoutLogged (cp : ControlPlaneApplication) {event : QueueEvent}
    (he : event.eventType = .queueTimeout) :
    (cp.queueLogged event).overview =
      { cp.overview with timeouts := fun r => cp.overview.timeouts r + if event.requestId = r then 1 else 0 } := by
  ext1
  · rfl
  · rfl
  · funext r
    by_cases hr : event.requestId = r
    · simp [ControlPlaneApplication.overview, isTimeoutOf, he, hr]
    · simp [ControlPlaneApplication.overview, isTimeoutOf, hr]
  · rfl

theorem Inv.store (h : Inv cp) (he : cp.entries[ref]? = some e) (hs : e'.submit = e.submit)
    (hrec : e.Recorded → e'.Recorded) : Inv (cp.store ref e') := by
  refine ⟨fun {r₁ ref₁} hr => ?_, h.queued, h.nodup, fun x hx => ?_⟩
  · obtain ⟨e₁, he₁, hid⟩ := h.registered hr
    by_cases href : ref₁ = ref
    · subst href
      rw [he] at he₁
      cases he₁
      refine ⟨e', store_get he e', ?_⟩
      rw [← hid, RegisteredRequest.requestId, RegisteredRequest.requestId, hs]
    · refine ⟨e₁, ?_, hid⟩
      simp only [ControlPlaneApplication.store]
      rw [List.getElem?_set_ne (Ne.symm href)]
      exact he₁
  · rcases List.mem_or_eq_of_mem_set hx with hx | rfl
    · exact h.recorded x hx
    · exact hrec (h.recorded e (List.mem_of_getElem? he))

theorem Inv.overview_store (h : Inv cp) (hr : cp.registry.get? r = some ref) (he : cp.entries[ref]? = some e)
    (e' : RegisteredRequest) : (cp.store ref e').overview = cp.overview.put r e'.status := by
  have hid : e.requestId = r := by
    obtain ⟨e₁, he₁, hid⟩ := h.registered hr
    rw [he] at he₁
    cases he₁
    exact hid
  ext1
  · funext r'
    by_cases hr' : r' = r
    · subst hr'
      rw [Overview.put_status_self]
      have hr₁ : (cp.store ref e').registry.get? r' = some ref := hr
      exact overview_status hr₁ (store_get he e')
    · rw [Overview.put_status_ne _ _ hr']
      cases hreg : cp.registry.get? r' with
      | none => simp [ControlPlaneApplication.overview, ControlPlaneApplication.entry?, hreg]
      | some ref' =>
        have hne : ref ≠ ref' := by
          rintro rfl
          obtain ⟨e₁, he₁, hid₁⟩ := h.registered hreg
          rw [he] at he₁
          cases he₁
          exact hr' (hid₁.symm.trans hid)
        simp only [ControlPlaneApplication.overview, ControlPlaneApplication.entry?,
          ControlPlaneApplication.store, hreg]
        simp [List.getElem?_set_ne hne]
  · rfl
  · rfl
  · rfl

/-- what an operation that goes well leaves: the objects, the registry's keys, and the overview -/
structure Leaves (cp cp' : ControlPlaneApplication) (o : Overview) : Prop where
  inv : Inv cp'
  registry : cp'.registry = cp.registry
  overview : cp'.overview = o

theorem Inv.leaves_becomes (h : Inv cp) (hr : cp.registry.get? r = some ref) (he : cp.entries[ref]? = some e)
    {state : RequestState} {reason : Option FailureReason} (hb : Becomes e e' state reason)
    (events : List LifecycleEvent) :
    Leaves cp ((cp.store ref e').logged events) (cp.overview.put r ⟨state, reason⟩) := by
  refine ⟨(h.store he hb.submit hb.recorded).logged events, rfl, ?_⟩
  rw [overview_logged, h.overview_store hr he, RegisteredRequest.status, hb.state, hb.reason]

/-! ## One request at a time -/

theorem transition_spec (h : Inv cp) (hs : cp.overview.status r = some st) (toState : RequestState) (now : Time)
    (batchId : Option UUID) (backendId : Option String) :
    (isAllowedTransition st.state toState = true → ∃ ref cp',
      EStateM.run (transition r toState now batchId backendId) cp = .ok ref cp' ∧
        Leaves cp cp' (cp.overview.put r ⟨toState, st.reason⟩)) ∧
    (isAllowedTransition st.state toState = false → ∃ cp',
      EStateM.run (transition r toState now batchId backendId) cp = .error (.invalidTransition r st.state toState) cp' ∧
        Leaves cp cp' cp.overview) := by
  obtain ⟨ref, e, hr, he, -, rfl⟩ := h.entry hs
  obtain ⟨hok, herr⟩ := transition_run hr he toState now batchId backendId
  constructor
  · intro hallowed
    obtain ⟨e', events, hrun, hb⟩ := hok hallowed
    exact ⟨ref, _, hrun, h.leaves_becomes hr he hb events⟩
  · intro hrefused
    obtain ⟨e', hrun, hb⟩ := herr hrefused
    refine ⟨_, hrun, ?_⟩
    have hl := h.leaves_becomes hr he hb []
    rw [logged_nil] at hl
    have hs' : cp.overview.status r = some ⟨e.state, e.failureReason⟩ := hs
    rw [Overview.put_self hs'] at hl
    exact hl

theorem markFailed_spec (h : Inv cp) (hs : cp.overview.status r = some st) (reason : FailureReason) (message : String)
    (now : Time) (batchId : Option UUID) (backendId : Option String) :
    ∃ ref cp', EStateM.run (markFailed r reason message now batchId backendId) cp = .ok ref cp' ∧
      cp.registry.get? r = some ref ∧ Leaves cp cp' (cp.overview.put r ⟨.failed, some reason⟩) := by
  obtain ⟨ref, e, hr, he, -, -⟩ := h.entry hs
  obtain ⟨e', events, hrun, hb⟩ := markFailed_run hr he reason message now batchId backendId
  exact ⟨ref, _, hrun, hr, h.leaves_becomes hr he hb events⟩

theorem completeRequest_spec (h : Inv cp) (hs : cp.overview.status r = some st)
    (completion : Option InferenceCompletionRecord) (now : Time) :
    (st.state = .submitted ∨ st.state = .streaming → ∃ ref cp',
      EStateM.run (completeRequest r completion now) cp = .ok ref cp' ∧
        Leaves cp cp' (cp.overview.put r ⟨.completed, st.reason⟩)) ∧
    (¬(st.state = .submitted ∨ st.state = .streaming) →
      EStateM.run (completeRequest r completion now) cp = .error (.invalidTransition r st.state .completed) cp) := by
  obtain ⟨ref, e, hr, he, -, rfl⟩ := h.entry hs
  obtain ⟨hok, herr⟩ := completeRequest_run hr he completion now
  refine ⟨fun hst => ?_, herr⟩
  obtain ⟨e', events, hrun, hb⟩ := hok hst
  exact ⟨ref, _, hrun, h.leaves_becomes hr he hb events⟩

theorem cancel_spec (h : Inv cp) (hs : cp.overview.status r = some st) (now : Time) :
    (st.state = .submitted ∨ st.state = .streaming → ∃ ref cp',
      EStateM.run (cancel r now) cp = .ok ref cp' ∧ Leaves cp cp' (cp.overview.put r ⟨.cancelled, st.reason⟩)) ∧
    (¬(st.state = .submitted ∨ st.state = .streaming) → ∃ ref, EStateM.run (cancel r now) cp = .ok ref cp) := by
  obtain ⟨ref, e, hr, he, -, rfl⟩ := h.entry hs
  obtain ⟨hok, hno⟩ := cancel_run hr he now
  refine ⟨fun hst => ?_, fun hst => ⟨ref, hno hst⟩⟩
  obtain ⟨e', events, hrun, hb⟩ := hok hst
  exact ⟨ref, _, hrun, h.leaves_becomes hr he hb events⟩

/-- the admission of a VALIDATED request, from the `await` on -/
theorem finishAdmission_spec (h : Inv cp) (hr : cp.registry.get? r = some ref) (hs : cp.overview.status r = some st)
    (hst : st.state = .validated) (result : Except String AdmissionResult) (now : Time) :
    (∃ message, result = .error message ∧
      EStateM.run (finishAdmission r ref result now) cp = .error (.checkRaised message) cp) ∨
    (∃ a cp', result = .ok a ∧ a.outcome = .accept ∧ EStateM.run (finishAdmission r ref result now) cp = .ok ref cp' ∧
      Leaves cp cp' (cp.overview.put r ⟨.admitted, st.reason⟩)) ∨
    ∃ a cp', result = .ok a ∧ a.outcome ≠ .accept ∧ EStateM.run (finishAdmission r ref result now) cp = .ok ref cp' ∧
      Leaves cp cp' (cp.overview.put r ⟨.rejected, some .queueFull⟩) := by
  obtain ⟨ref', e, hr', he, -, rfl⟩ := h.entry hs
  rw [hr] at hr'
  cases hr'
  rcases finishAdmission_run hr he hst result now with ⟨message, hres, hrun⟩ | ⟨a, e', events, hres, ha, hrun, hb⟩ |
    ⟨a, e', events, hres, ha, hrun, hb⟩
  · exact Or.inl ⟨message, hres, hrun⟩
  · exact Or.inr (Or.inl ⟨a, _, hres, ha, hrun, h.leaves_becomes hr he hb events⟩)
  · exact Or.inr (Or.inr ⟨a, _, hres, ha, hrun, h.leaves_becomes hr he hb events⟩)

theorem startAdmission_spec (h : Inv cp) (hs : cp.overview.status r = some st) :
    ∃ ref, cp.registry.get? r = some ref ∧ EStateM.run (startAdmission r) cp =
      if st.state = .validated then .ok ref cp else .error (.invalidTransition r st.state .admitted) cp := by
  obtain ⟨ref, e, hr, he, -, rfl⟩ := h.entry hs
  exact ⟨ref, hr, startAdmission_run hr he⟩

/-! ## Registration -/

theorem waits_iff : cp.overview.waits r ↔ ∃ item ∈ cp.items, item.requestId = r := by
  simp [Overview.waits, ControlPlaneApplication.overview, QueuedRequest.waiting]

/-- the state after a registration -/
def ControlPlaneApplication.withEntry (cp : ControlPlaneApplication) (e : RegisteredRequest) :
    ControlPlaneApplication :=
  { cp with entries := cp.entries ++ [e], registry := cp.registry.set e.requestId cp.entries.length }

theorem Inv.withEntry (h : Inv cp) (hrec : e.Recorded) (hfree : ¬cp.overview.waits e.requestId) :
    Inv (cp.withEntry e) := by
  refine ⟨fun {r₁ ref₁} hr => ?_, fun item hitem => ?_, h.nodup, fun x hx => ?_⟩
  · simp only [ControlPlaneApplication.withEntry, Dict.get?_set] at hr ⊢
    split_ifs at hr with hr₁
    · cases hr
      exact ⟨e, by simp, hr₁.symm⟩
    · obtain ⟨e₁, he₁, hid⟩ := h.registered hr
      have hlt : ref₁ < cp.entries.length := (List.getElem?_eq_some_iff.1 he₁).1
      exact ⟨e₁, by rw [List.getElem?_append_left hlt]; exact he₁, hid⟩
  · have hne : item.requestId ≠ e.requestId := fun hid => hfree (waits_iff.2 ⟨item, hitem, hid⟩)
    simp only [ControlPlaneApplication.withEntry]
    rw [Dict.get?_set_ne _ _ hne]
    exact h.queued item hitem
  · rcases List.mem_append.1 hx with hx | hx
    · exact h.recorded x hx
    · rw [List.mem_singleton.1 hx]
      exact hrec

theorem Inv.overview_withEntry (h : Inv cp) (hnone : cp.registry.get? e.requestId = none) :
    (cp.withEntry e).overview = cp.overview.register e.requestId e.status := by
  have hnew : (cp.withEntry e).entries[cp.entries.length]? = some e := by
    simp [ControlPlaneApplication.withEntry]
  ext1
  · funext r'
    by_cases hr' : r' = e.requestId
    · rw [hr', Overview.register_status_self]
      exact overview_status (Dict.get?_set_self _ _ _) hnew
    · rw [Overview.register_status_ne _ _ hr']
      have hreg : (cp.withEntry e).registry.get? r' = cp.registry.get? r' := Dict.get?_set_ne _ _ hr'
      cases hget : cp.registry.get? r' with
      | none => simp [ControlPlaneApplication.overview, ControlPlaneApplication.entry?, hreg, hget]
      | some ref' =>
        obtain ⟨e₁, he₁, -⟩ := h.registered hget
        have hlt : ref' < cp.entries.length := (List.getElem?_eq_some_iff.1 he₁).1
        have he₁' : (cp.withEntry e).entries[ref']? = some e₁ := by
          simp only [ControlPlaneApplication.withEntry]
          rw [List.getElem?_append_left hlt]
          exact he₁
        rw [overview_status (hreg.trans hget) he₁', overview_status hget he₁]
  · rfl
  · rfl
  · simp [ControlPlaneApplication.overview, ControlPlaneApplication.withEntry, Dict.items_set_of_none hnone,
      Overview.register]

theorem not_waits_of_unregistered (h : Inv cp) (hs : cp.overview.status r = none) : ¬cp.overview.waits r := by
  rw [waits_iff]
  rintro ⟨item, hitem, rfl⟩
  have hitem' := h.queued item hitem
  rw [(overview_status_eq_none h).1 hs] at hitem'
  cases hitem'

/-- registration under a fresh id -/
theorem register_spec (settings : Settings) (h : Inv cp) (submit : SubmitRequest)
    (initialState : RequestState) (now : Time) (hfresh : cp.overview.status submit.inferenceRequest.requestId = none) :
    (∃ err, EStateM.run (register settings submit initialState now) cp = .error err cp ∧
      ((initialState ≠ .received ∧ initialState ≠ .validated) ∨
        settings.registryMaxEntries ≤ cp.overview.registered ∧ err = .runtimeError "request registry at capacity")) ∨
    ∃ ref cp', EStateM.run (register settings submit initialState now) cp = .ok ref cp' ∧ Inv cp' ∧
      cp'.registry = cp.registry.set submit.inferenceRequest.requestId ref ∧
      ¬(initialState ≠ .received ∧ initialState ≠ .validated) ∧
      cp.overview.registered < settings.registryMaxEntries ∧
      cp'.overview = cp.overview.register submit.inferenceRequest.requestId ⟨initialState, none⟩ := by
  by_cases hinit : initialState ≠ .received ∧ initialState ≠ .validated
  · refine Or.inl ⟨.invalidTransition submit.inferenceRequest.requestId .received initialState, ?_, Or.inl hinit⟩
    simp only [register, if_pos hinit, run_throw]
  by_cases hfull : settings.registryMaxEntries ≤ cp.registry.items.length
  · refine Or.inl ⟨.runtimeError "request registry at capacity", ?_, Or.inr ⟨hfull, rfl⟩⟩
    simp only [register, if_neg hinit, EStateM.run_bind, EStateM.run_get, if_pos hfull, run_throw]
  · set entry : RegisteredRequest := { submit, state := initialState, createdAt := now, updatedAt := now } with hentry
    have hrec : entry.Recorded := ⟨⟨initialState, rfl⟩, by simp [hentry]⟩
    obtain ⟨events, hemit⟩ := emitStateEvent_run
      (if initialState = .received then .requestReceived else .requestValidated) entry now none (cp.withEntry entry)
    have hnone := (overview_status_eq_none h).1 hfresh
    refine Or.inr ⟨cp.entries.length, (cp.withEntry entry).logged events, ?_,
      (h.withEntry hrec (not_waits_of_unregistered h hfresh)).logged events, rfl, hinit, not_le.1 hfull,
      (overview_logged _ events).trans (h.overview_withEntry (e := entry) hnone)⟩
    simp only [register, if_neg hinit, EStateM.run_bind, EStateM.run_get, if_neg hfull, EStateM.run_modify, ← hentry,
      EStateM.run_pure]
    rw [show ({ cp with entries := cp.entries ++ [entry]
                        registry := cp.registry.set entry.requestId cp.entries.length } : ControlPlaneApplication) =
      cp.withEntry entry from rfl, hemit]

/-! ## The queue -/

/-- an entry without what the queue writes into it -/
def RegisteredRequest.unplaced (e : RegisteredRequest) : RegisteredRequest :=
  { e with queueEnteredAt := none, queuePosition := none }

/-- what `f` does not change in the entry it is applied to, it changes nowhere -/
theorem map_modify {β : Type} (g : RegisteredRequest → β) (entries : List RegisteredRequest) (ref : Ref)
    {f : RegisteredRequest → RegisteredRequest} (hf : ∀ e, g (f e) = g e) :
    (entries.modify ref f).map g = entries.map g := by
  refine List.ext_getElem? fun i => ?_
  rw [List.getElem?_map, List.getElem?_map, List.getElem?_modify]
  cases entries[i]? with
  | none => rfl
  | some e =>
    by_cases hi : ref = i
    · simp [hi, hf]
    · simp [hi]

/-- two states whose objects differ only in what the queue writes into entries, and in who waits -/
structure Requeued (cp cp' : ControlPlaneApplication) : Prop where
  entries : cp'.entries.map RegisteredRequest.unplaced = cp.entries.map RegisteredRequest.unplaced
  registry : cp'.registry = cp.registry
  events : cp'.events = cp.events

theorem Requeued.trans {cp cp' cp'' : ControlPlaneApplication} (h : Requeued cp cp') (h' : Requeued cp' cp'') :
    Requeued cp cp'' :=
  ⟨h'.entries.trans h.entries, h'.registry.trans h.registry, h'.events.trans h.events⟩

theorem Requeued.symm (h : Requeued cp cp') : Requeued cp' cp :=
  ⟨h.entries.symm, h.registry.symm, h.events.symm⟩

theorem Requeued.get (h : Requeued cp cp') (he : cp.entries[ref]? = some e) :
    ∃ e', cp'.entries[ref]? = some e' ∧ e'.unplaced = e.unplaced := by
  have hget := congrArg (fun l => l[ref]?) h.entries
  simp only [List.getElem?_map, he, Option.map_some] at hget
  exact Option.map_eq_some_iff.1 hget

theorem unplaced_congr {e e' : RegisteredRequest} (h : e'.unplaced = e.unplaced) :
    e'.submit = e.submit ∧ e'.status = e.status ∧ e'.state = e.state ∧ e'.changes = e.changes := by
  have hs := congrArg RegisteredRequest.submit h
  have hst := congrArg RegisteredRequest.state h
  have hr := congrArg RegisteredRequest.failureReason h
  have hc := congrArg RegisteredRequest.changes h
  exact ⟨hs, Status.ext hst hr, hst, hc⟩

theorem Requeued.inv (h : Inv cp) (hq : Requeued cp cp')
    (hitems : ∀ item ∈ cp'.items, cp.registry.get? item.requestId = some item.entry)
    (hnodup : (cp'.items.map QueuedRequest.requestId).Nodup) : Inv cp' := by
  refine ⟨fun {r₁ ref₁} hr => ?_, fun item hi => hq.registry ▸ hitems item hi, hnodup, fun e' he' => ?_⟩
  · rw [hq.registry] at hr
    obtain ⟨e, he, hid⟩ := h.registered hr
    obtain ⟨e', he', hun⟩ := hq.get he
    refine ⟨e', he', ?_⟩
    rw [← hid, RegisteredRequest.requestId, RegisteredRequest.requestId, (unplaced_congr hun).1]
  · obtain ⟨i, hi⟩ := List.getElem?_of_mem he'
    obtain ⟨e, he, hun⟩ := hq.symm.get hi
    obtain ⟨-, -, hst, hc⟩ := unplaced_congr hun
    exact (h.recorded e (List.mem_of_getElem? he)).congr hst.symm hc.symm

theorem Requeued.overview (hq : Requeued cp cp') :
    cp'.overview = { cp.overview with waiting := cp'.items.map QueuedRequest.waiting } := by
  ext1
  · funext r'
    simp only [ControlPlaneApplication.overview, ControlPlaneApplication.entry?, hq.registry, Option.bind_eq_bind]
    cases hr : cp.registry.get? r' with
    | none => rfl
    | some ref' =>
      simp only [Option.bind_some]
      cases he : cp.entries[ref']? with
      | some e =>
        obtain ⟨e', he', hun⟩ := hq.get he
        simp [he', (unplaced_congr hun).2.1]
      | none =>
        cases he' : cp'.entries[ref']? with
        | none => rfl
        | some e' =>
          obtain ⟨e, he'', -⟩ := hq.symm.get he'
          simp [he] at he''
  · rfl
  · simp only [ControlPlaneApplication.overview, ControlPlaneApplication.queueEvents, hq.events]
  · simp only [ControlPlaneApplication.overview, hq.registry]

/-- renumbering changes no more than positions -/
theorem map_numbered {α : Type} (f : QueuedRequest → α)
    (hf : ∀ item position, f { item with queuePosition := position } = f item) (items : List QueuedRequest) :
    (numbered items).map f = items.map f := by
  have key : ∀ n, (items.zipIdx n).map (fun p => f { p.1 with queuePosition := p.2 }) = items.map f := by
    induction items with
    | nil => intro n; rfl
    | cons item items ih =>
      intro n
      rw [List.zipIdx_cons, List.map_cons, List.map_cons, ih, hf]
  rw [numbered, List.map_map]
  exact key 1

theorem map_reposition {β : Type} (g : RegisteredRequest → β)
    (hg : ∀ e position, g { e with queuePosition := position } = g e) (items : List QueuedRequest)
    (entries : List RegisteredRequest) :
    (items.foldl (fun entries item =>
      entries.modify item.entry fun entry => { entry with queuePosition := some item.queuePosition }) entries).map g =
        entries.map g := by
  induction items generalizing entries with
  | nil => rfl
  | cons item items ih =>
    rw [List.foldl_cons, ih]
    exact map_modify g entries item.entry fun e => hg e _

theorem reindexPositions_spec (cp : ControlPlaneApplication) :
    ∃ cp', EStateM.run reindexPositions cp = .ok () cp' ∧ Requeued cp cp' ∧ cp'.items = numbered cp.items := by
  exact ⟨_, rfl, ⟨map_reposition _ (fun _ _ => rfl) _ _, rfl, rfl⟩, rfl⟩

/-- dropping items and renumbering the others -/
theorem Requeued.leaves (h : Inv cp) (hq : Requeued cp cp') {items : List QueuedRequest} (hsub : items.Sublist cp.items)
    (hitems : cp'.items = numbered items) :
    Leaves cp cp' { cp.overview with waiting := items.map QueuedRequest.waiting } := by
  refine ⟨hq.inv h ?_ ?_, hq.registry, ?_⟩
  · have hpair : ∀ p ∈ cp'.items.map fun item => (item.requestId, item.entry), cp.registry.get? p.1 = some p.2 := by
      rw [hitems, map_numbered _ (fun _ _ => rfl)]
      intro p hp
      obtain ⟨item, hitem, rfl⟩ := List.mem_map.1 hp
      exact h.queued item (hsub.subset hitem)
    exact fun item hitem => hpair _ (List.mem_map_of_mem hitem)
  · rw [hitems, map_numbered _ (fun _ _ => rfl)]
    exact h.nodup.sublist (hsub.map _)
  · rw [hq.overview, hitems, map_numbered _ (fun _ _ => rfl)]

/-- the queue after its overdue items have left: the others, in their order -/
theorem expireTimeoutsLocked_spec (cfg : QueueCapacityConfig) (h : Inv cp) (now : Time) :
    ∃ cp', EStateM.run (expireTimeoutsLocked cfg now) cp = .ok (cp.items.filter fun item => overdue cfg now item) cp' ∧
      Requeued cp cp' ∧ Leaves cp cp' (cp.overview.expire cfg now) := by
  set kept := cp.items.filter fun item => !overdue cfg now item with hkept
  obtain ⟨cp', hrun, hq, hitems⟩ := reindexPositions_spec { cp with items := kept }
  have hq' : Requeued cp cp' := ⟨hq.entries, hq.registry, hq.events⟩
  have hl := hq'.leaves h List.filter_sublist hitems
  refine ⟨cp', ?_, hq', hl.inv, hl.registry, hl.overview.trans ?_⟩
  · simp only [expireTimeoutsLocked, EStateM.run_bind, EStateM.run_get, EStateM.run_modify, ← hkept, hrun,
      EStateM.run_pure]
  · rw [Overview.expire]
    simp only [ControlPlaneApplication.overview, List.filter_map]
    rfl

theorem listItems_spec (cfg : QueueCapacityConfig) (h : Inv cp) (now : Time) :
    ∃ cp', EStateM.run (listItems cfg now) cp = .ok cp'.items cp' ∧ Leaves cp cp' (cp.overview.expire cfg now) := by
  obtain ⟨cp', hrun, -, hl⟩ := expireTimeoutsLocked_spec cfg h now
  exact ⟨cp', by simp only [listItems, EStateM.run_bind, hrun, EStateM.run_get, EStateM.run_pure], hl⟩

/-- `enqueue` of a registered request -/
theorem enqueue_spec (cfg : QueueCapacityConfig) (h : Inv cp) (hr : cp.registry.get? r = some ref)
    (he : cp.entries[ref]? = some e) (hid : e.requestId = r) (now : Time) :
    ∃ cp₁, Requeued cp cp₁ ∧ Leaves cp cp₁ (cp.overview.expire cfg now) ∧
      ((cp₁.overview.waits r ∧ ∃ message, EStateM.run (enqueue cfg ref now) cp = .error (.valueError message) cp₁) ∨
        (¬cp₁.overview.waits r ∧ cfg.maxQueueSize ≤ cp₁.items.length ∧
          EStateM.run (enqueue cfg ref now) cp = .ok (.error "queue_full") cp₁) ∨
        ¬cp₁.overview.waits r ∧ cp₁.items.length < cfg.maxQueueSize ∧ ∃ item cp₂,
          EStateM.run (enqueue cfg ref now) cp = .ok (.ok item) cp₂ ∧ Requeued cp cp₂ ∧ Inv cp₂ ∧
          cp₂.overview = { cp₁.overview with waiting := cp₁.overview.waiting ++ [(r, now)] }) := by
  obtain ⟨cp₁, hrun, hq, hl⟩ := expireTimeoutsLocked_spec cfg h now
  obtain ⟨e₁, he₁, hun⟩ := hq.get he
  have hid₁ : e₁.requestId = r := by rw [← hid, RegisteredRequest.requestId, (unplaced_congr hun).1]; rfl
  have hcontains : cp₁.contains r = true ↔ cp₁.overview.waits r := by
    simp [ControlPlaneApplication.contains, waits_iff]
  refine ⟨cp₁, hq, hl, ?_⟩
  simp only [enqueue, enqueueAt, EStateM.run_bind, hrun, derefEntry_run he₁, EStateM.run_get, hid₁]
  by_cases hwaits : cp₁.overview.waits r
  · exact Or.inl ⟨hwaits, s!"request already queued: {r}", by rw [if_pos (hcontains.2 hwaits), run_throw]⟩
  · have hno : ¬cp₁.contains r = true := fun hc => hwaits (hcontains.1 hc)
    by_cases hfull : cfg.maxQueueSize ≤ cp₁.items.length
    · refine Or.inr (Or.inl ⟨hwaits, hfull, ?_⟩)
      simp only [if_neg hno, EStateM.run_bind, EStateM.run_get, evaluateEnqueueCapacity, if_pos hfull, EStateM.run_pure]
    · refine Or.inr (Or.inr ⟨hwaits, not_le.1 hfull, ?_⟩)
      simp only [if_neg hno, EStateM.run_bind, EStateM.run_get, evaluateEnqueueCapacity, if_neg hfull,
        EStateM.run_modify, modifyEntry_run, EStateM.run_pure]
      refine ⟨_, _, rfl, ?_⟩
      set item : QueuedRequest :=
        { requestId := r, entry := ref, queueEnteredAt := now, queuePosition := cp₁.items.length + 1
          queueName := e₁.inferenceRequest.model ++ "/default"
          priorityClass := e₁.inferenceRequest.priorityClass.getD .default } with hitem
      have hq₂ : Requeued cp₁ { cp₁ with
          items := cp₁.items ++ [item]
          entries := cp₁.entries.modify ref fun entry =>
            { entry with queueEnteredAt := some now, queuePosition := some (cp₁.items.length + 1) } } :=
        ⟨map_modify _ _ _ fun _ => rfl, rfl, rfl⟩
      refine ⟨hq.trans hq₂, hq₂.inv hl.inv (fun x hx => ?_) ?_, ?_⟩
      · rcases List.mem_append.1 hx with hx | hx
        · exact hl.inv.queued x hx
        · rw [List.mem_singleton.1 hx, hl.registry]
          exact hr
      · rw [List.map_append, List.map_singleton]
        refine List.Nodup.append hl.inv.nodup (List.nodup_singleton _) (List.disjoint_singleton.2 fun hmem => hwaits ?_)
        obtain ⟨x, hx, hxid⟩ := List.mem_map.1 hmem
        exact waits_iff.2 ⟨x, hx, hxid⟩
      · rw [hq₂.overview]
        simp [ControlPlaneApplication.overview, QueuedRequest.waiting, hitem]

/-- ADMITTED to QUEUED, or to REJECTED when the queue is full -/
theorem enqueueFromAdmitted_spec (cfg : QueueCapacityConfig) (h : Inv cp)
    (hs : cp.overview.status r = some st) (now : Time) :
    (st.state ≠ .admitted ∧
      ∃ message, EStateM.run (enqueueFromAdmitted cfg r now) cp = .error (.valueError message) cp) ∨
    st.state = .admitted ∧
      (((cp.overview.expire cfg now).waits r ∧ ∃ message cp',
          EStateM.run (enqueueFromAdmitted cfg r now) cp = .error (.valueError message) cp' ∧
          Leaves cp cp' (cp.overview.expire cfg now)) ∨
        ∃ ref cp', EStateM.run (enqueueFromAdmitted cfg r now) cp = .ok ref cp' ∧ cp.registry.get? r = some ref ∧
          ¬(cp.overview.expire cfg now).waits r ∧
          Leaves cp cp' (if cfg.maxQueueSize ≤ (cp.overview.expire cfg now).waiting.length then
            (cp.overview.expire cfg now).put r ⟨.rejected, some .queueFull⟩
          else (cp.overview.expire cfg now).enqueued r st.reason now)) := by
  obtain ⟨ref, e, hr, he, hid, rfl⟩ := h.entry hs
  by_cases hst : e.state = .admitted
  swap
  · refine Or.inl ⟨hst, s!"request {r} must be ADMITTED before enqueue, got {e.state.value}", ?_⟩
    simp only [enqueueFromAdmitted, EStateM.run_bind, getRef_run hr, derefEntry_run he, ne_eq, hst, not_false_eq_true,
      if_true, run_throw]
  refine Or.inr ⟨hst, ?_⟩
  obtain ⟨cp₁, hq, hl, hcases⟩ := enqueue_spec cfg h hr he hid now
  have hlen : (cp.overview.expire cfg now).waiting.length = cp₁.items.length := by
    rw [← hl.overview]
    simp [ControlPlaneApplication.overview]
  rw [hlen]
  simp only [enqueueFromAdmitted, EStateM.run_bind, getRef_run hr, derefEntry_run he, ne_eq, hst, not_true_eq_false,
    if_false]
  rcases hcases with ⟨hwaits, message, hrun⟩ | ⟨hwaits, hfull, hrun⟩
    | ⟨hwaits, hroom, item, cp₂, hrun, hq₂, hinv₂, hov₂⟩
  · exact Or.inl ⟨hl.overview ▸ hwaits, message, cp₁, by simp only [hrun], hl⟩
  · -- refused: the entry is rejected
    obtain ⟨e₁, he₁, hun⟩ := hq.get he
    have hst₁ : e₁.state = .admitted := (unplaced_congr hun).2.2.1.trans hst
    set event : QueueEvent := { queueEvent .queueFull e none now with
      reason := some "queue_full", queueDepth := some cp₁.items.length } with hevent
    set failure := admissionFailure "queue_full" .queueFull with hfailure
    have hb₀ : Becomes e₁ e₁ .admitted e₁.failureReason := ⟨rfl, hst₁, rfl, id⟩
    have hb₁ := hb₀.applyFailure .enqueue failure (Or.inr rfl)
    have hb₂ := hb₁.enter .enqueue .rejected (Or.inl rfl)
    have hb₃ := (hb₂.enter .enqueue .rejected (Or.inl rfl)).touched now
    set e₂ := e₁.applyFailure .enqueue failure with he₂
    set e₃ := e₂.enter .enqueue .rejected with he₃
    set cp₁' := cp₁.queueLogged event with hcp₁'
    have hr₁ : cp₁'.registry.get? r = some ref := hl.registry ▸ hr
    have hget₁ : cp₁'.entries[ref]? = some e₁ := he₁
    have hget₂ : (cp₁'.store ref e₂).entries[ref]? = some e₂ := store_get hget₁ e₂
    have hget₃ : (cp₁'.store ref e₃).entries[ref]? = some e₃ := store_get hget₁ e₃
    have hr₃ : (cp₁'.store ref e₃).registry.get? r = some ref := hr₁
    set e₄ : RegisteredRequest := { e₃.enter .enqueue .rejected with updatedAt := now } with he₄
    have hl₃ := (hl.inv.queueLogged event).leaves_becomes hr₁ hget₁ hb₃ []
    have hev : event.eventType ≠ .queueTimeout := by simp [hevent, queueEvent]
    rw [logged_nil, overview_queueLogged cp₁ hev, hl.overview] at hl₃
    refine Or.inr ⟨ref, cp₁'.store ref e₄, ?_, hr, hl.overview ▸ hwaits, ?_⟩
    · have hlog : ({ cp₁ with events := cp₁.events ++ [.queue event] } : ControlPlaneApplication) = cp₁' := rfl
      simp only [hrun, EStateM.run_bind, EStateM.run_get, emitQueue_run, ← hevent, ← hfailure, hlog,
        modifyEntry_store hget₁, ← he₂, modifyEntry_store hget₂, store_store, ← he₃, updateState_store hr₃ hget₃, ← he₄,
        EStateM.run_pure]
    · rw [if_pos hfull]
      exact ⟨hl₃.inv, hl₃.registry.trans hl.registry, hl₃.overview⟩
  · -- accepted: the entry is queued
    obtain ⟨e₁, he₁, hun⟩ := hq₂.get he
    have hst₁ : e₁.state = .admitted := (unplaced_congr hun).2.2.1.trans hst
    have hreason : e₁.failureReason = e.failureReason := congrArg Status.reason (unplaced_congr hun).2.1
    have hb₀ : Becomes e₁ e₁ .admitted e.failureReason := ⟨rfl, hst₁, hreason, id⟩
    have hb₁ := hb₀.enter .enqueue .queued (Or.inr rfl)
    have hb₂ := (hb₁.enter .enqueue .queued (Or.inl rfl)).touched now
    set e₂ := e₁.enter .enqueue .queued with he₂
    have hr₂ : cp₂.registry.get? r = some ref := hq₂.registry ▸ hr
    have hget₂ : (cp₂.store ref e₂).entries[ref]? = some e₂ := store_get he₁ e₂
    have hr₃ : (cp₂.store ref e₂).registry.get? r = some ref := hr₂
    set e₃ : RegisteredRequest := { e₂.enter .enqueue .queued with updatedAt := now } with he₃
    set event : QueueEvent := { queueEvent .requestEnqueued e item.queuePosition now with
      queueWaitDuration := some 0, requestAge := some (elapsed e.createdAt now), queueName := some item.queueName }
      with hevent
    have hev : event.eventType ≠ .queueTimeout := by simp [hevent, queueEvent]
    set queuedEvent : LifecycleEvent :=
      { eventType := .requestQueued, requestId := e.requestId, correlationId := e.requestContext.traceId
        lifecycleState := .queued, timestamp := now, model := e.inferenceRequest.model, toState := .queued
        queuePosition := item.queuePosition } with hqueuedEvent
    have hl₃ := hinv₂.leaves_becomes hr₂ he₁ hb₂ []
    rw [logged_nil] at hl₃
    refine Or.inr ⟨ref, ((cp₂.store ref e₃).queueLogged event).logged [queuedEvent], ?_, hr,
      hl.overview ▸ hwaits, ?_⟩
    rotate_left
    · rw [if_neg (not_le.2 hroom)]
      refine ⟨(hl₃.inv.queueLogged event).logged _, hl₃.registry.trans hq₂.registry, ?_⟩
      rw [overview_logged, overview_queueLogged _ hev, hl₃.overview, hov₂, hl.overview]
      rfl
    · simp only [hrun, EStateM.run_bind, modifyEntry_store he₁, ← he₂, updateState_store hr₃ hget₂, store_store, ← he₃,
        emitQueue_run, ← hevent, emitLifecycle_run, EStateM.run_pure]
      rfl

/-! ## Queue timeouts -/

theorem timeOut_spec (h : Inv cp) {item : QueuedRequest} (hr : cp.registry.get? item.requestId = some item.entry)
    (now : Time) :
    ∃ cp', EStateM.run (timeOut now item) cp = .ok item.entry cp' ∧
      Leaves cp cp' (cp.overview.timedOut [item.requestId]) := by
  obtain ⟨e, he, hid⟩ := h.registered hr
  set e₁ : RegisteredRequest := { e.enter .processTimeouts .timedOut with
    failureReason := some .queueTimeout, failureMessage := some "queue wait timeout exceeded" } with he₁
  set e₂ : RegisteredRequest := { e₁.enter .processTimeouts .timedOut with updatedAt := now } with he₂
  have hb₁ : Becomes e e₁ .timedOut (some .queueTimeout) :=
    ⟨rfl, rfl, rfl, fun hrec => (hrec.enter (legal_timedOut e.state)).congr rfl rfl⟩
  have hb₂ : Becomes e e₂ .timedOut (some .queueTimeout) :=
    (hb₁.enter .processTimeouts .timedOut (legal_timedOut _)).touched now
  have hget : (cp.store item.entry e₁).entries[item.entry]? = some e₁ := store_get he e₁
  have hid₁ : e₁.requestId = item.requestId := hid
  have hr₁ : (cp.store item.entry e₁).registry.get? e₁.requestId = some item.entry := hid₁ ▸ hr
  set event : QueueEvent := { queueEvent .queueTimeout e₁ item.queuePosition now with
    queueWaitDuration := some (elapsed item.queueEnteredAt now) } with hevent
  have hl := h.leaves_becomes hr he hb₂ []
  rw [logged_nil] at hl
  refine ⟨(cp.store item.entry e₂).queueLogged event, ?_, ⟨hl.inv.queueLogged event, hl.registry, ?_⟩⟩
  · simp only [timeOut, EStateM.run_bind, modifyEntry_store he, ← he₁, derefEntry_run hget,
      updateState_store hr₁ hget, store_store, ← he₂, emitQueue_run, ← hevent, EStateM.run_pure]
    rfl
  · have hov : (cp.store item.entry e₂).overview = cp.overview.put item.requestId ⟨.timedOut, some .queueTimeout⟩ :=
      hl.overview
    have hev : event.eventType = .queueTimeout := rfl
    rw [overview_timeoutLogged _ hev, hov]
    ext1
    · funext r'
      by_cases hr' : r' = item.requestId
      · simp [Overview.timedOut, hr']
      · simp [Overview.timedOut, hr', Overview.put_status_ne]
    · rfl
    · funext r'
      rw [show event.requestId = item.requestId from hid]
      simp [Overview.timedOut, List.count_singleton]
    · rfl

theorem Overview.timedOut_timedOut (o : Overview) (ids ids' : List UUID) :
    (o.timedOut ids).timedOut ids' = o.timedOut (ids ++ ids') := by
  ext1
  · funext r'
    by_cases h : r' ∈ ids
    · simp [Overview.timedOut, h]
    · simp [Overview.timedOut, h]
  · rfl
  · funext r'
    simp [Overview.timedOut, Nat.add_assoc]
  · rfl

theorem timeOutAll_spec (h : Inv cp) {items : List QueuedRequest}
    (hr : ∀ item ∈ items, cp.registry.get? item.requestId = some item.entry) (now : Time) :
    ∃ refs cp', EStateM.run (timeOutAll now items) cp = .ok refs cp' ∧
      Leaves cp cp' (cp.overview.timedOut (items.map QueuedRequest.requestId)) := by
  induction items generalizing cp with
  | nil => exact ⟨[], cp, rfl, h, rfl, by ext1 <;> simp [Overview.timedOut]⟩
  | cons item items ih =>
    obtain ⟨cp₁, hrun, hl⟩ := timeOut_spec h (hr item List.mem_cons_self) now
    obtain ⟨refs, cp₂, hrun₂, hl₂⟩ := ih hl.inv fun x hx => hl.registry ▸ hr x (List.mem_cons_of_mem _ hx)
    refine ⟨item.entry :: refs, cp₂, ?_, hl₂.inv, hl₂.registry.trans hl.registry, ?_⟩
    · simp only [timeOutAll, EStateM.run_bind, hrun, hrun₂, EStateM.run_pure]
    · rw [hl₂.overview, hl.overview, Overview.timedOut_timedOut]
      rfl

/-- every overdue item leaves the queue and its request is timed out -/
theorem processTimeouts_spec (cfg : QueueCapacityConfig) (h : Inv cp) (now : Time) :
    ∃ refs cp', EStateM.run (processTimeouts cfg now) cp = .ok refs cp' ∧
      Leaves cp cp' (cp.overview.processTimeouts cfg now) := by
  obtain ⟨cp₁, hrun, -, hl⟩ := expireTimeoutsLocked_spec cfg h now
  have hreg : ∀ item ∈ cp.items.filter (fun item => overdue cfg now item),
      cp₁.registry.get? item.requestId = some item.entry := by
    intro item hitem
    rw [hl.registry]
    exact h.queued item (List.mem_of_mem_filter hitem)
  obtain ⟨refs, cp₂, hrun₂, hl₂⟩ := timeOutAll_spec hl.inv hreg now
  refine ⟨refs, cp₂, ?_, hl₂.inv, hl₂.registry.trans hl.registry, ?_⟩
  · simp only [processTimeouts, EStateM.run_bind, hrun, hrun₂]
  · rw [hl₂.overview, hl.overview, Overview.processTimeouts]
    congr 1
    simp only [Overview.lateIds, ControlPlaneApplication.overview, List.filter_map, List.map_map]
    rfl

end InferencePlatform.ControlPlane
