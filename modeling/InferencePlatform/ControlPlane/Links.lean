/-
What holds in every run of the control plane, with duplicate submissions and all.

Registering an id again overwrites its entry, while a waiting item may keep the old one, so a run with duplicates has no
picture of the kind `Overview` gives. What it keeps is `Linked`: the entries in the registry and of the waiting items
are entries of the ids they stand under, and every waiting id is registered. Only a registration changes the registry.

Every operation is a program over a few elementary steps, so its triple comes from theirs.
- `Linked`, and its step for each operation;
- `processTimeouts_run`: expiry returns, and touches the entries of expired requests only;
- `run_linked`: every run leaves a linked state.
-/
import InferencePlatform.ControlPlane.Refinement
import InferencePlatform.Core.Triples

namespace InferencePlatform.ControlPlane

open InferencePlatform.Core (Dict Keeps)
open Std.Do

set_option mvcgen.warning false

variable {R : Dict UUID Ref} {cp cp' : ControlPlaneApplication} {r : UUID} {ref : Ref}

/-! ## Entries under their ids -/

/-- the entry at `ref` is one of the request `r` -/
def ControlPlaneApplication.Holds (cp : ControlPlaneApplication) (ref : Ref) (r : UUID) : Prop :=
  ∃ e, cp.entries[ref]? = some e ∧ e.requestId = r

/-- the registry is `R`; its entries and the waiting items' are entries of the ids they stand under -/
structure Linked (R : Dict UUID Ref) (cp : ControlPlaneApplication) : Prop where
  registry : cp.registry = R
  registered : ∀ r ref, R.get? r = some ref → cp.Holds ref r
  waiting : ∀ item ∈ cp.items, cp.Holds item.entry item.requestId ∧ ∃ ref, R.get? item.requestId = some ref

theorem linked_init : Linked Dict.empty .init :=
  ⟨rfl, fun r ref h => by simp at h, fun item h => by simp [ControlPlaneApplication.init] at h⟩

theorem Inv.linked (h : Inv cp) : Linked cp.registry cp := by
  refine ⟨rfl, fun r ref hr => h.registered hr, fun item hitem => ?_⟩
  have hr := h.queued item hitem
  exact ⟨h.registered hr, item.entry, hr⟩

/-- `Linked` depends on the ids of the entries, and on the waiting items only up to their places in the queue -/
theorem Linked.congr (h : Linked R cp) (hreg : cp'.registry = cp.registry)
    (hitems : ∀ item ∈ cp'.items, ∃ item' ∈ cp.items, item'.requestId = item.requestId ∧ item'.entry = item.entry)
    (hholds : ∀ ref r, cp.Holds ref r → cp'.Holds ref r) : Linked R cp' := by
  refine ⟨hreg.trans h.registry, fun r ref hr => hholds ref r (h.registered r ref hr), fun item hitem => ?_⟩
  obtain ⟨item', hmem, hid, hentry⟩ := hitems item hitem
  obtain ⟨hentry', hknown⟩ := h.waiting item' hmem
  rw [hid, hentry] at hentry'
  exact ⟨hholds _ _ hentry', hid ▸ hknown⟩

theorem Linked.sublist (h : Linked R cp) (hreg : cp'.registry = cp.registry) (hent : cp'.entries = cp.entries)
    (hitems : cp'.items.Sublist cp.items) : Linked R cp' := by
  refine h.congr hreg (fun item hitem => ⟨item, hitems.mem hitem, rfl, rfl⟩) fun ref r hholds => ?_
  obtain ⟨e, he, hid⟩ := hholds
  exact ⟨e, hent ▸ he, hid⟩

theorem ControlPlaneApplication.Holds.modify (h : cp.Holds ref r) (ref' : Ref)
    {f : RegisteredRequest → RegisteredRequest} (hf : ∀ e, (f e).requestId = e.requestId) :
    ({ cp with entries := cp.entries.modify ref' f } : ControlPlaneApplication).Holds ref r := by
  obtain ⟨e, he, hid⟩ := h
  by_cases heq : ref' = ref
  · subst heq
    exact ⟨f e, by simp [he], (hf e).trans hid⟩
  · exact ⟨e, by simp [heq, he], hid⟩

/-! ## Elementary steps -/

@[local spec] theorem modifyEntry_linked (ref : Ref) (f : RegisteredRequest → RegisteredRequest)
    (hf : ∀ e, (f e).requestId = e.requestId) : Keeps (Linked R) (modifyEntry ref f) := by
  mvcgen [modifyEntry]
  next cp h _ => exact h.congr rfl (fun item hitem => ⟨item, hitem, rfl, rfl⟩) fun _ _ hholds => hholds.modify ref hf

@[local spec] theorem emitLifecycle_linked (event : LifecycleEvent) : Keeps (Linked R) (emitLifecycle event) := by
  mvcgen [emitLifecycle]
  next cp h _ => exact h.sublist rfl rfl (List.Sublist.refl _)

@[local spec] theorem emitQueue_linked (event : QueueEvent) : Keeps (Linked R) (emitQueue event) := by
  mvcgen [emitQueue]
  next cp h _ => exact h.sublist rfl rfl (List.Sublist.refl _)

/-- an entry's id survives the renumbering of the queue -/
theorem ControlPlaneApplication.Holds.reposition (h : cp.Holds ref r) (items : List QueuedRequest) :
    ({ cp with entries := items.foldl (fun entries item => entries.modify item.entry fun entry =>
      { entry with queuePosition := some item.queuePosition }) cp.entries } : ControlPlaneApplication).Holds ref r := by
  induction items generalizing cp with
  | nil => exact h
  | cons item items ih =>
    have hstep := h.modify item.entry (f := fun entry => { entry with queuePosition := some item.queuePosition })
      fun _ => rfl
    exact ih hstep

@[local spec] theorem reindexPositions_linked : Keeps (Linked R) reindexPositions := by
  mvcgen [reindexPositions]
  next cp h _ =>
    refine h.congr rfl (fun item hitem => ?_) fun ref r hholds => hholds.reposition (numbered cp.items)
    obtain ⟨p, hp, rfl⟩ := List.mem_map.1 hitem
    exact ⟨p.1, (List.mem_zipIdx hp).2.2 ▸ List.getElem_mem _, rfl, rfl⟩

@[local spec] theorem expireTimeoutsLocked_linked (cfg : QueueCapacityConfig) (now : Time) :
    Keeps (Linked R) (expireTimeoutsLocked cfg now) := by
  mvcgen [expireTimeoutsLocked]
  next cp h _ _ => exact h.sublist rfl rfl List.filter_sublist

/-! ## Lifecycle operations -/

@[local spec] theorem transition_linked (r : UUID) (toState : RequestState) (now : Time) (batchId : Option UUID)
    (backendId : Option String) : Keeps (Linked R) (transition r toState now batchId backendId) := by
  mvcgen [transition, getRef, derefEntry, updateState, emitForTransition]
  all_goals intro e; rfl

@[local spec] theorem markFailed_linked (r : UUID) (reason : FailureReason) (message : String) (now : Time)
    (batchId : Option UUID) (backendId : Option String) :
    Keeps (Linked R) (markFailed r reason message now batchId backendId) := by
  mvcgen [markFailed, getRef, derefEntry, updateState, emitStateEvent]
  all_goals intro e; rfl

theorem completeRequest_linked (r : UUID) (completion : Option InferenceCompletionRecord) (now : Time) :
    Keeps (Linked R) (completeRequest r completion now) := by
  mvcgen [completeRequest, getRef, derefEntry, emitStateEvent]
  all_goals intro e; rfl

theorem cancel_linked (r : UUID) (now : Time) : Keeps (Linked R) (cancel r now) := by
  mvcgen [cancel, getRef, derefEntry]

@[local spec] theorem startAdmission_linked (r : UUID) : Keeps (Linked R) (startAdmission r) := by
  mvcgen [startAdmission, getRef, derefEntry]

@[local spec] theorem finishAdmission_linked (r : UUID) (ref : Ref)
    (result : Except String AdmissionResult) (now : Time) :
    Keeps (Linked R) (finishAdmission r ref result now) := by
  mvcgen [finishAdmission, getRef, derefEntry, emitStateEvent, updateState]
  all_goals intro e; rfl

theorem runAdmission_linked (r : UUID) (checks : List (Except String AdmissionResult)) (now : Time) :
    Keeps (Linked R) (runAdmission r checks now) := by
  mvcgen [runAdmission]

/-! ## Queue operations -/

theorem peek_linked (cfg : QueueCapacityConfig) (now : Time) : Keeps (Linked R) (peek cfg now) := by
  mvcgen [peek]

@[local spec] theorem listItems_linked (cfg : QueueCapacityConfig) (now : Time) :
    Keeps (Linked R) (listItems cfg now) := by
  mvcgen [listItems]

@[local spec] theorem getQueueSnapshot_linked (cfg : QueueCapacityConfig) (queueName : String) (now : Time) :
    Keeps (Linked R) (getQueueSnapshot cfg queueName now) := by
  mvcgen [getQueueSnapshot]

theorem getQueueStatistics_linked (cfg : QueueCapacityConfig) (now : Time) :
    Keeps (Linked R) (getQueueStatistics cfg now) := by
  mvcgen [getQueueStatistics]

theorem listQueuedRequests_linked (cfg : QueueCapacityConfig) (now : Time) :
    Keeps (Linked R) (listQueuedRequests cfg now) := by
  mvcgen [listQueuedRequests]

theorem listQueueItems_linked (cfg : QueueCapacityConfig) (limit : ℕ) (now : Time) :
    Keeps (Linked R) (listQueueItems cfg limit now) := by
  mvcgen [listQueueItems]

theorem clear_linked : Keeps (Linked R) clear := by
  mvcgen [clear]
  next cp h _ => exact h.sublist rfl rfl (List.nil_sublist _)

theorem dequeueNext_linked (cfg : QueueCapacityConfig) (now : Time) : Keeps (Linked R) (dequeueNext cfg now) := by
  mvcgen [dequeueNext, dequeue, derefEntry]
  next cp h item rest hitems _ => exact h.sublist rfl rfl (hitems ▸ List.sublist_cons_self item rest)

theorem remove_linked (r : UUID) (now : Time) : Keeps (Linked R) (remove r now) := by
  mvcgen [remove, removeItem, derefEntry]
  next cp h item hfind _ => exact h.sublist rfl rfl List.eraseP_sublist

/-- the item that enters the queue is one of the registered id -/
theorem Linked.append (h : Linked R cp) {e : RegisteredRequest} (hr : R.get? r = some ref)
    (he : cp.entries[ref]? = some e) {item : QueuedRequest} (hitem : item.requestId = e.requestId)
    (hentry : item.entry = ref) : Linked R { cp with items := cp.items ++ [item] } := by
  obtain ⟨e', he', hid⟩ := h.registered r ref hr
  rw [he] at he'
  cases he'
  refine ⟨h.registry, h.registered, fun item' hmem => ?_⟩
  rcases List.mem_append.1 hmem with hmem | hmem
  · exact h.waiting item' hmem
  · rw [List.mem_singleton.1 hmem, hitem, hentry, hid]
    exact ⟨⟨e, he, hid⟩, ref, hr⟩

@[local spec] theorem enqueueFromAdmitted_linked (cfg : QueueCapacityConfig) (r : UUID) (now : Time) :
    Keeps (Linked R) (enqueueFromAdmitted cfg r now) := by
  mvcgen [enqueueFromAdmitted, enqueue, enqueueAt, derefEntry, getRef, updateState]
  all_goals try (intro e; rfl)
  next cp₀ h₀ ref hr e₀ he₀ _ _ cp h e he _ _ _ _ _ =>
    exact h.append (h₀.registry ▸ hr) he rfl rfl

/-! ## Expiry -/

theorem requestId_of_content {e e' : RegisteredRequest} (h : e'.content = e.content) : e'.requestId = e.requestId := by
  have hid : e'.content.requestId = e.content.requestId := congrArg RegisteredRequest.requestId h
  exact hid

/-- entries keep their ids, and those of the request `r` what they say -/
structure Spares (r : UUID) (cp cp' : ControlPlaneApplication) : Prop where
  registry : cp'.registry = cp.registry
  holds : ∀ {ref : Ref} {r' : UUID}, cp.Holds ref r' → cp'.Holds ref r'
  content : ∀ {ref : Ref} {e : RegisteredRequest}, cp.entries[ref]? = some e → e.requestId = r →
    ∃ e' : RegisteredRequest, cp'.entries[ref]? = some e' ∧ e'.content = e.content

theorem Spares.refl (r : UUID) (cp : ControlPlaneApplication) : Spares r cp cp :=
  ⟨rfl, id, fun he _ => ⟨_, he, rfl⟩⟩

theorem Spares.trans {cp'' : ControlPlaneApplication} (h : Spares r cp cp') (h' : Spares r cp' cp'') :
    Spares r cp cp'' := by
  refine ⟨h'.registry.trans h.registry, fun hh => h'.holds (h.holds hh), fun he hid => ?_⟩
  obtain ⟨e', he', hc⟩ := h.content he hid
  obtain ⟨e'', he'', hc'⟩ := h'.content he' ((requestId_of_content hc).trans hid)
  exact ⟨e'', he'', hc'.trans hc⟩

/-- writing an entry of another request -/
theorem spares_modify (h : cp.Holds ref r) {r' : UUID} (hne : r' ≠ r) {f : RegisteredRequest → RegisteredRequest}
    (hf : ∀ e, (f e).requestId = e.requestId) : Spares r' cp { cp with entries := cp.entries.modify ref f } := by
  refine ⟨rfl, fun hh => hh.modify ref hf, fun {ref' e} he hid => ⟨e, ?_, rfl⟩⟩
  obtain ⟨e₀, he₀, hid₀⟩ := h
  have href : ref ≠ ref' := by
    rintro rfl
    rw [he₀] at he
    cases he
    exact hne (hid.symm.trans hid₀)
  simp [href, he]

theorem spares_reindexed (r : UUID) (cp : ControlPlaneApplication) :
    ∃ cp', EStateM.run reindexPositions cp = .ok () cp' ∧ Spares r cp cp' ∧ cp'.items = numbered cp.items := by
  refine ⟨_, rfl, ⟨rfl, fun hh => hh.reposition _, fun {ref e} he _ => ?_⟩, rfl⟩
  have hcontent := map_reposition RegisteredRequest.content (fun _ _ => rfl) (numbered cp.items) cp.entries
  have hget := congrArg (fun l => l[ref]?) hcontent
  simp only [List.getElem?_map, he, Option.map_some] at hget
  exact Option.map_eq_some_iff.1 hget

theorem lifecycleEvents_queueLogged (cp : ControlPlaneApplication) (event : QueueEvent) :
    (cp.queueLogged event).lifecycleEvents = cp.lifecycleEvents := by
  simp [ControlPlaneApplication.lifecycleEvents, ControlPlaneApplication.queueLogged, Event.lifecycle?]

/-- between the two states stand the queue-timeout events of the given requests, and no other event -/
structure Announces (ids : List UUID) (cp cp' : ControlPlaneApplication) : Prop where
  lifecycleEvents : cp'.lifecycleEvents = cp.lifecycleEvents
  queueEvents : ∃ events : List QueueEvent, cp'.queueEvents = cp.queueEvents ++ events ∧
    events.map QueueEvent.requestId = ids ∧ ∀ event ∈ events, event.eventType = .queueTimeout

theorem Announces.refl (cp : ControlPlaneApplication) : Announces [] cp cp := ⟨rfl, [], by simp⟩

theorem Announces.trans {cp'' : ControlPlaneApplication} {ids ids' : List UUID} (h : Announces ids cp cp')
    (h' : Announces ids' cp' cp'') : Announces (ids ++ ids') cp cp'' := by
  obtain ⟨events, hq, hids, htype⟩ := h.queueEvents
  obtain ⟨events', hq', hids', htype'⟩ := h'.queueEvents
  refine ⟨h'.lifecycleEvents.trans h.lifecycleEvents, events ++ events', ?_, ?_, fun event hmem => ?_⟩
  · rw [hq', hq, List.append_assoc]
  · rw [List.map_append, hids, hids']
  · rcases List.mem_append.1 hmem with hmem | hmem
    · exact htype event hmem
    · exact htype' event hmem

/-- an item whose request is registered times out, and no other request is touched -/
theorem timeOut_run (now : Time) {item : QueuedRequest} (hentry : cp.Holds item.entry item.requestId)
    (hr : cp.registry.get? item.requestId = some ref) (href : cp.Holds ref item.requestId) :
    ∃ cp', EStateM.run (timeOut now item) cp = .ok item.entry cp' ∧ cp'.items = cp.items ∧
      cp'.registry = cp.registry ∧ Announces [item.requestId] cp cp' ∧
      (∀ {ref r}, cp.Holds ref r → cp'.Holds ref r) ∧ ∀ r, r ≠ item.requestId → Spares r cp cp' := by
  set f₁ : RegisteredRequest → RegisteredRequest := fun entry =>
    { entry.enter .processTimeouts .timedOut with
      failureReason := some .queueTimeout, failureMessage := some "queue wait timeout exceeded" } with hf₁
  set f₂ : RegisteredRequest → RegisteredRequest := fun entry =>
    { entry.enter .processTimeouts .timedOut with updatedAt := now } with hf₂
  set cp₁ : ControlPlaneApplication := { cp with entries := cp.entries.modify item.entry f₁ } with hcp₁
  set cp₂ : ControlPlaneApplication := { cp₁ with entries := cp₁.entries.modify ref f₂ } with hcp₂
  have hkeep₁ : ∀ e, (f₁ e).requestId = e.requestId := fun _ => rfl
  have hkeep₂ : ∀ e, (f₂ e).requestId = e.requestId := fun _ => rfl
  have hh₁ : ∀ {ref r}, cp.Holds ref r → cp₁.Holds ref r := fun hh => hh.modify item.entry hkeep₁
  have hh₂ : ∀ {ref r}, cp₁.Holds ref r → cp₂.Holds ref r := fun {ref' r} hh => hh.modify ref hkeep₂
  have hs : ∀ r, r ≠ item.requestId → Spares r cp cp₂ := fun r hne =>
    (spares_modify hentry hne hkeep₁).trans (spares_modify (hh₁ href) hne hkeep₂)
  obtain ⟨e, he, hid⟩ := hentry
  have he₁ : cp₁.entries[item.entry]? = some (f₁ e) := by simp [hcp₁, he]
  have hid₁ : (f₁ e).requestId = item.requestId := (hkeep₁ e).trans hid
  have hr₁ : cp₁.registry.get? item.requestId = some ref := hr
  have hupd : EStateM.run (updateState .processTimeouts item.requestId .timedOut now) cp₁ = .ok ref cp₂ := by
    simp only [updateState, EStateM.run_bind, getRef_run hr₁, modifyEntry_run, EStateM.run_pure, hcp₂, hf₂]
  have hrun : ∃ event : QueueEvent, event.eventType = .queueTimeout ∧ event.requestId = item.requestId ∧
      EStateM.run (timeOut now item) cp = .ok item.entry (cp₂.queueLogged event) := by
    simp only [timeOut, EStateM.run_bind, modifyEntry_run, ← hf₁, ← hcp₁, derefEntry_run he₁, hid₁, hupd, emitQueue_run,
      EStateM.run_pure]
    exact ⟨_, rfl, hid₁, rfl⟩
  obtain ⟨event, htype, hevent, hrun⟩ := hrun
  have hann : Announces [item.requestId] cp (cp₂.queueLogged event) :=
    ⟨lifecycleEvents_queueLogged cp₂ event, [event], queueEvents_queueLogged cp₂ event,
      congrArg (fun r => [r]) hevent, fun event' hmem => List.mem_singleton.1 hmem ▸ htype⟩
  exact ⟨_, hrun, rfl, rfl, hann, fun hh => hh₂ (hh₁ hh), fun r hne => ⟨rfl, (hs r hne).holds, (hs r hne).content⟩⟩

/-- every one of the items, whose requests are registered, times out -/
theorem timeOutAll_run (cp : ControlPlaneApplication) (now : Time) (items : List QueuedRequest)
    (hitems : ∀ item ∈ items, cp.Holds item.entry item.requestId ∧
      ∃ ref, cp.registry.get? item.requestId = some ref ∧ cp.Holds ref item.requestId) :
    ∃ refs cp', EStateM.run (timeOutAll now items) cp = .ok refs cp' ∧ cp'.items = cp.items ∧
      cp'.registry = cp.registry ∧ Announces (items.map QueuedRequest.requestId) cp cp' ∧
      (∀ {ref r}, cp.Holds ref r → cp'.Holds ref r) ∧ ∀ r, (∀ item ∈ items, item.requestId ≠ r) → Spares r cp cp' := by
  induction items generalizing cp with
  | nil => exact ⟨[], cp, rfl, rfl, rfl, Announces.refl cp, id, fun r _ => Spares.refl r cp⟩
  | cons item items ih =>
    obtain ⟨hentry, ref, hr, href⟩ := hitems item List.mem_cons_self
    obtain ⟨cp₁, hrun₁, hi₁, hreg₁, hann₁, hh₁, hs₁⟩ := timeOut_run now hentry hr href
    obtain ⟨refs, cp₂, hrun₂, hi₂, hreg₂, hann₂, hh₂, hs₂⟩ := ih cp₁ fun item' hmem => by
      obtain ⟨hentry', ref', hr', href'⟩ := hitems item' (List.mem_cons_of_mem _ hmem)
      exact ⟨hh₁ hentry', ref', hreg₁ ▸ hr', hh₁ href'⟩
    refine ⟨item.entry :: refs, cp₂, ?_, hi₂.trans hi₁, hreg₂.trans hreg₁, hann₁.trans hann₂, fun hh => hh₂ (hh₁ hh),
      fun r hne => ?_⟩
    · simp only [timeOutAll, EStateM.run_bind, hrun₁, hrun₂, EStateM.run_pure]
    · exact (hs₁ r (Ne.symm (hne item List.mem_cons_self))).trans
        (hs₂ r fun item' hmem => hne item' (List.mem_cons_of_mem _ hmem))

/-- expiry returns; it takes the overdue items out, renumbers the others, and spares every request that is not
overdue -/
theorem processTimeouts_run (cfg : QueueCapacityConfig) (h : Linked R cp) (now : Time) :
    ∃ refs cp', EStateM.run (processTimeouts cfg now) cp = .ok refs cp' ∧ Linked R cp' ∧
      cp'.items = numbered (cp.items.filter fun item => !overdue cfg now item) ∧
      Announces ((cp.items.filter fun item => overdue cfg now item).map QueuedRequest.requestId) cp cp' ∧
      ∀ r, (∀ item ∈ cp.items, overdue cfg now item → item.requestId ≠ r) → Spares r cp cp' := by
  set kept := cp.items.filter fun item => !overdue cfg now item with hkept
  set late := cp.items.filter fun item => overdue cfg now item with hlate
  obtain ⟨cp₁, hrun₁, hs₁, hann₁, hi₁⟩ : ∃ cp', EStateM.run reindexPositions { cp with items := kept } = .ok () cp' ∧
      (∀ r, Spares r cp cp') ∧ Announces [] cp cp' ∧ cp'.items = numbered kept := by
    refine ⟨_, rfl, fun r => ?_, ⟨rfl, [], (List.append_nil _).symm, rfl, by simp⟩, rfl⟩
    obtain ⟨cp', hrun, hs, -⟩ := spares_reindexed r { cp with items := kept }
    cases hrun
    exact ⟨hs.registry, hs.holds, hs.content⟩
  have hlocked : EStateM.run (expireTimeoutsLocked cfg now) cp = .ok late cp₁ := by
    simp only [expireTimeoutsLocked, EStateM.run_bind, EStateM.run_get, EStateM.run_modify, ← hkept, ← hlate, hrun₁,
      EStateM.run_pure]
  obtain ⟨refs, cp₂, hrun₂, hi₂, hreg₂, hann₂, hh₂, hs₂⟩ := timeOutAll_run cp₁ now late fun item hmem => by
    obtain ⟨hentry, ref, hr⟩ := h.waiting item (List.mem_of_mem_filter hmem)
    exact ⟨(hs₁ 0).holds hentry, ref, (hs₁ 0).registry ▸ h.registry ▸ hr, (hs₁ 0).holds (h.registered _ _ hr)⟩
  refine ⟨refs, cp₂, ?_, ?_, hi₂.trans hi₁, hann₁.trans hann₂, fun r hne => (hs₁ r).trans (hs₂ r fun item hmem => ?_)⟩
  · simp only [processTimeouts, EStateM.run_bind, hlocked, hrun₂]
  · refine h.congr (hreg₂.trans (hs₁ 0).registry) (fun item hitem => ?_) fun _ _ hh => hh₂ ((hs₁ 0).holds hh)
    rw [hi₂, hi₁] at hitem
    obtain ⟨p, hp, rfl⟩ := List.mem_map.1 hitem
    have hmem : p.1 ∈ kept := (List.mem_zipIdx hp).2.2 ▸ List.getElem_mem _
    exact ⟨p.1, List.mem_of_mem_filter hmem, rfl, rfl⟩
  · obtain ⟨hmem, hover⟩ := List.mem_filter.1 hmem
    exact hne item hmem hover

/-! ## Registration -/

/-- a registration is refused for its first state or for want of room, or it puts a new entry under the id -/
theorem register_run (cfg : Settings) (h : Linked R cp) (submit : SubmitRequest) (initialState : RequestState)
    (now : Time) :
    (initialState ≠ .received ∧ initialState ≠ .validated ∧
      EStateM.run (register cfg submit initialState now) cp =
        .error (.invalidTransition submit.inferenceRequest.requestId .received initialState) cp) ∨
    ((initialState = .received ∨ initialState = .validated) ∧ cfg.registryMaxEntries ≤ R.items.length ∧
      EStateM.run (register cfg submit initialState now) cp =
        .error (.runtimeError "request registry at capacity") cp) ∨
    ((initialState = .received ∨ initialState = .validated) ∧ R.items.length < cfg.registryMaxEntries ∧ ∃ ref cp',
      EStateM.run (register cfg submit initialState now) cp = .ok ref cp' ∧
      Linked (R.set submit.inferenceRequest.requestId ref) cp' ∧ ∀ r, R.get? r ≠ some ref) := by
  by_cases hinit : initialState ≠ .received ∧ initialState ≠ .validated
  · refine Or.inl ⟨hinit.1, hinit.2, ?_⟩
    simp only [register, if_pos hinit, run_throw]
  have hok : initialState = .received ∨ initialState = .validated := by tauto
  refine Or.inr ?_
  by_cases hfull : cfg.registryMaxEntries ≤ cp.registry.items.length
  · refine Or.inl ⟨hok, h.registry ▸ hfull, ?_⟩
    simp only [register, if_neg hinit, EStateM.run_bind, EStateM.run_get, if_pos hfull, run_throw]
  · have hlt : cp.registry.items.length < cfg.registryMaxEntries := Nat.lt_of_not_le hfull
    refine Or.inr ⟨hok, h.registry ▸ hlt, cp.entries.length, ?_⟩
    set e : RegisteredRequest := { submit, state := initialState, createdAt := now, updatedAt := now } with he
    set cp₁ : ControlPlaneApplication := cp.withEntry e with hcp₁
    obtain ⟨events, hemit⟩ := emitStateEvent_run
      (if initialState = .received then LifecycleEventType.requestReceived else .requestValidated) e now none cp₁
    refine ⟨cp₁.logged events, ?_, ?_, fun r hr => ?_⟩
    · simp only [register, if_neg hinit, EStateM.run_bind, EStateM.run_get, if_neg hfull, EStateM.run_modify, ← he]
      change EStateM.run (do
        emitStateEvent (if initialState = .received then .requestReceived else .requestValidated) e now
        return cp.entries.length) cp₁ = _
      simp only [EStateM.run_bind, hemit, EStateM.run_pure]
    · have hold : ∀ {ref r}, cp.Holds ref r → cp₁.Holds ref r := by
        rintro ref r ⟨e', he', hid⟩
        exact ⟨e', List.getElem?_append_left (List.getElem?_eq_some_iff.1 he').1 ▸ he', hid⟩
      have hnew : cp₁.Holds cp.entries.length submit.inferenceRequest.requestId :=
        ⟨e, by simp [hcp₁, ControlPlaneApplication.withEntry], rfl⟩
      refine ⟨?_, fun r ref hr => ?_, fun item hitem => ?_⟩
      · exact h.registry ▸ rfl
      · rw [Dict.get?_set] at hr
        by_cases heq : r = submit.inferenceRequest.requestId
        · rw [if_pos heq, Option.some.injEq] at hr
          rw [heq, ← hr]
          exact hnew
        · rw [if_neg heq] at hr
          exact hold (h.registered r ref hr)
      · obtain ⟨hentry, ref, hr⟩ := h.waiting item hitem
        refine ⟨hold hentry, ?_⟩
        rw [Dict.get?_set]
        by_cases heq : item.requestId = submit.inferenceRequest.requestId
        · exact ⟨_, if_pos heq⟩
        · exact ⟨ref, (if_neg heq).trans hr⟩
    · obtain ⟨e', he', -⟩ := h.registered r _ hr
      simp at he'

/-! ## From RECEIVED to QUEUED -/

section Final

variable {α β : Type} {I : ControlPlaneApplication → Prop} {x : ControlPlaneM α}

theorem final_keeps (h : Keeps I x) (hI : I cp) : I (x.final cp) := by
  cases hrun : EStateM.run x cp with
  | ok a cp' => exact final_ok hrun ▸ h.ok hI hrun
  | error err cp' => exact final_error hrun ▸ h.error hI hrun

/-- what `x` leaves, the rest of the program keeps -/
theorem final_bind (h : I (x.final cp)) {f : α → ControlPlaneM β} (hf : ∀ a, Keeps I (f a)) :
    I ((x >>= f).final cp) := by
  cases hrun : EStateM.run x cp with
  | ok a cp' =>
    rw [final_ok hrun] at h
    have hrest : (x >>= f).final cp = (f a).final cp' := by simp only [ControlPlaneM.final, EStateM.run_bind, hrun]
    exact hrest ▸ final_keeps (hf a) h
  | error err cp' =>
    rw [final_error hrun] at h
    have hrest : (x >>= f).final cp = cp' := by simp only [ControlPlaneM.final, EStateM.run_bind, hrun]
    exact hrest ▸ h

theorem final_congr {y : ControlPlaneM α} (h : EStateM.run x cp = EStateM.run y cp') : x.final cp = y.final cp' := by
  simp only [ControlPlaneM.final, h]

theorem final_bind_ok {a : α} (hrun : EStateM.run x cp = .ok a cp') (f : α → ControlPlaneM β) :
    (x >>= f).final cp = (f a).final cp' := by
  simp only [ControlPlaneM.final, EStateM.run_bind, hrun]

theorem guarded_final (h : I (x.final cp)) (r : UUID) (now : Time) (returned : Ref → α)
    (hfail : ∀ message, Keeps I (markFailed r .internalError message now)) :
    I ((guarded r now returned x).final cp) := by
  cases hrun : EStateM.run x cp with
  | ok a cp' => exact final_ok (guarded_ok hrun r now returned) ▸ final_ok hrun ▸ h
  | error err cp' =>
    rw [final_error hrun] at h
    have hhandled : Keeps I (do
        let failed ← markFailed r .internalError s!"control plane error: {err.message}" now
        return returned failed) := (hfail _).bind fun _ => Keeps.pure _
    by_cases hself : (∃ r s t, err = .invalidTransition r s t) ∨ ∃ message, err = .internalFailure message
    · have hsame : EStateM.run (guarded r now returned x) cp = .error err cp' := by
        simp only [EStateM.run] at hrun
        rcases hself with ⟨r, s, t, rfl⟩ | ⟨message, rfl⟩ <;> simp only [EStateM.run, guarded, hrun]
      exact final_error hsame ▸ h
    · have hrun' := guarded_error err cp' hrun (fun r s t he => hself (Or.inl ⟨r, s, t, he⟩))
        (fun message he => hself (Or.inr ⟨message, he⟩)) r now returned
      have hfinal : (guarded r now returned x).final cp = ControlPlaneM.final (do
          let failed ← markFailed r .internalError s!"control plane error: {err.message}" now
          return returned failed) cp' := by
        simp only [ControlPlaneM.final, hrun']
      exact hfinal ▸ final_keeps hhandled h

end Final

theorem processFromAdmission_linked (cfg : Settings) (r : UUID) (ref : Ref) (result : Except String AdmissionResult)
    (now : Time) (h : Linked R cp) : Linked R ((processFromAdmission cfg r ref result now).final cp) := by
  refine guarded_final (final_keeps ?_ h) r now id fun message =>
    markFailed_linked r .internalError message now none none
  mvcgen [derefEntry]

/-- from registration on, the new entry stays the registered one -/
theorem registered_linked (cfg : Settings) (submit : SubmitRequest) (checks : List (Except String AdmissionResult))
    (now now' : Time) (h : Linked R cp) (hroom : R.items.length < cfg.registryMaxEntries) :
    ∃ ref, (∀ r, R.get? r ≠ some ref) ∧
      Linked (R.set submit.inferenceRequest.requestId ref)
        ((processThroughQueued cfg submit checks now now').final cp) := by
  obtain ⟨refs, cp₁, hrun₁, h₁, -, -, -⟩ := processTimeouts_run cfg.queue h now
  rcases register_run cfg h₁ submit .received now with ⟨hno, -⟩ | ⟨-, hfull, -⟩ | ⟨-, -, ref, cp₂, hrun₂, h₂, hnew⟩
  · exact absurd rfl hno
  · omega
  refine ⟨ref, hnew, final_bind (guarded_final ?_ _ now _ fun message =>
    markFailed_linked _ .internalError message now none none) fun intake => ?_⟩
  · rw [final_bind_ok hrun₁, final_bind_ok hrun₂]
    refine final_keeps ?_ h₂
    mvcgen
  · cases intake with
    | returned ref' => mvcgen
    | admitting ref' =>
      refine Core.triple_iff.2 fun cp' hcp' => ?_
      have hfrom := processFromAdmission_linked cfg submit.inferenceRequest.requestId ref' (evaluate checks) now' hcp'
      simp only [ControlPlaneM.final] at hfrom
      split at hfrom <;> next hrun => simpa only [hrun] using hfrom

/-- what the failure handler writes for a refused registration -/
def capacityMessage : String := "control plane error: request registry at capacity"

/-- at capacity the call expires overdue items and fails the request that is registered under the id, if there is one -/
theorem refused_run (cfg : Settings) (submit : SubmitRequest) (checks : List (Except String AdmissionResult))
    (now now' : Time) (hfull : cfg.registryMaxEntries ≤ R.items.length) {refs : List Ref}
    (hrun : EStateM.run (processTimeouts cfg.queue now) cp = .ok refs cp') (h' : Linked R cp') :
    EStateM.run (register cfg submit .received now) cp' = .error (.runtimeError "request registry at capacity") cp' ∧
    EStateM.run (processThroughQueued cfg submit checks now now') cp =
      EStateM.run (markFailed submit.inferenceRequest.requestId .internalError capacityMessage now) cp' := by
  rcases register_run cfg h' submit .received now with ⟨hno, -⟩ | ⟨-, -, hrefused⟩ | ⟨-, hroom, -⟩
  · exact absurd rfl hno
  · refine ⟨hrefused, ?_⟩
    have huntil : EStateM.run (processUntilAdmission cfg submit now) cp =
        EStateM.run (do
          let failed ← markFailed submit.inferenceRequest.requestId .internalError capacityMessage now
          return Intake.returned failed) cp' := by
      refine guarded_error (.runtimeError "request registry at capacity") cp' ?_ (by simp) (by simp) _ _ _
      simp only [EStateM.run_bind, hrun, hrefused]
    simp only [processThroughQueued, EStateM.run_bind, huntil]
    cases EStateM.run (markFailed submit.inferenceRequest.requestId .internalError capacityMessage now) cp' with
    | ok ref cp'' => rfl
    | error err cp'' => rfl
  · omega

/-! ## Runs -/

/-- the id an operation may register -/
def Op.registers : Op → Option UUID
  | .register submit _ _ | .processThroughQueued submit _ _ _ => some submit.inferenceRequest.requestId
  | _ => none

/-- an operation registers its id or leaves the registry as it is -/
theorem step_registry (cfg : Settings) (o : Op) (h : Linked R cp) :
    ∃ R', Linked R' (cp.step cfg o) ∧ (R' = R ∨ ∃ r ref, o.registers = some r ∧ R' = R.set r ref) := by
  cases o with
  | register submit initialState now =>
    rcases register_run cfg h submit initialState now with ⟨-, -, hrun⟩ | ⟨-, -, hrun⟩ | ⟨-, -, ref, cp', hrun, h', -⟩
    · refine ⟨R, ?_, Or.inl rfl⟩
      change Linked R ((register cfg submit initialState now).final cp)
      rwa [final_error hrun]
    · refine ⟨R, ?_, Or.inl rfl⟩
      change Linked R ((register cfg submit initialState now).final cp)
      rwa [final_error hrun]
    · refine ⟨R.set submit.inferenceRequest.requestId ref, ?_, Or.inr ⟨_, ref, rfl, rfl⟩⟩
      change Linked _ ((register cfg submit initialState now).final cp)
      rw [final_ok hrun]
      exact h'
  | processThroughQueued submit checks now now' =>
    by_cases hroom : R.items.length < cfg.registryMaxEntries
    · obtain ⟨ref, -, h'⟩ := registered_linked cfg submit checks now now' h hroom
      exact ⟨_, h', Or.inr ⟨_, ref, rfl, rfl⟩⟩
    · obtain ⟨refs, cp', hrun, h', -, -, -⟩ := processTimeouts_run cfg.queue h now
      obtain ⟨-, hrefused⟩ := refused_run cfg submit checks now now' (Nat.le_of_not_lt hroom) hrun h'
      refine ⟨R, ?_, Or.inl rfl⟩
      change Linked R ((processThroughQueued cfg submit checks now now').final cp)
      rw [final_congr hrefused]
      exact final_keeps (markFailed_linked _ _ _ now none none) h'
  | processTimeouts now =>
    obtain ⟨refs, cp', hrun, h', -, -, -⟩ := processTimeouts_run cfg.queue h now
    refine ⟨R, ?_, Or.inl rfl⟩
    change Linked R ((processTimeouts cfg.queue now).final cp)
    rwa [final_ok hrun]
  | transition r toState now batchId backendId =>
    exact ⟨R, final_keeps (transition_linked r toState now batchId backendId) h, Or.inl rfl⟩
  | runAdmission r checks now => exact ⟨R, final_keeps (runAdmission_linked r checks now) h, Or.inl rfl⟩
  | enqueueFromAdmitted r now => exact ⟨R, final_keeps (enqueueFromAdmitted_linked cfg.queue r now) h, Or.inl rfl⟩
  | markFailed r reason message now batchId backendId =>
    exact ⟨R, final_keeps (markFailed_linked r reason message now batchId backendId) h, Or.inl rfl⟩
  | completeRequest r completion now => exact ⟨R, final_keeps (completeRequest_linked r completion now) h, Or.inl rfl⟩
  | cancel r now => exact ⟨R, final_keeps (cancel_linked r now) h, Or.inl rfl⟩
  | dequeueNext now => exact ⟨R, final_keeps (dequeueNext_linked cfg.queue now) h, Or.inl rfl⟩
  | peek now => exact ⟨R, final_keeps (peek_linked cfg.queue now) h, Or.inl rfl⟩
  | listItems now => exact ⟨R, final_keeps (listItems_linked cfg.queue now) h, Or.inl rfl⟩
  | remove r now => exact ⟨R, final_keeps (remove_linked r now) h, Or.inl rfl⟩
  | clear => exact ⟨R, final_keeps clear_linked h, Or.inl rfl⟩
  | getQueueSnapshot queueName now => exact ⟨R,
      final_keeps (getQueueSnapshot_linked cfg.queue queueName now) h, Or.inl rfl⟩
  | getQueueStatistics now => exact ⟨R, final_keeps (getQueueStatistics_linked cfg.queue now) h, Or.inl rfl⟩
  | listQueuedRequests now => exact ⟨R, final_keeps (listQueuedRequests_linked cfg.queue now) h, Or.inl rfl⟩
  | listQueueItems limit now => exact ⟨R, final_keeps (listQueueItems_linked cfg.queue limit now) h, Or.inl rfl⟩

theorem step_linked (cfg : Settings) (o : Op) (h : ∃ R, Linked R cp) : ∃ R, Linked R (cp.step cfg o) := by
  obtain ⟨R, h⟩ := h
  obtain ⟨R', h', -⟩ := step_registry cfg o h
  exact ⟨R', h'⟩

theorem run_linked (cfg : Settings) (ops : List Op) :
    ∃ R, Linked R (Core.run (ControlPlaneApplication.step cfg) .init ops) :=
  Core.run_inv (I := fun cp => ∃ R, Linked R cp) (fun _ o => step_linked cfg o) ops ⟨_, linked_init⟩

/-! ## A request in the registry -/

/-- an entry is registered under the id -/
def Serves (r : UUID) (cp : ControlPlaneApplication) : Prop := ∃ R, Linked R cp ∧ ∃ ref, R.get? r = some ref

theorem Serves.linked (h : Serves r cp) : ∃ R, Linked R cp := by
  obtain ⟨R, h, -⟩ := h
  exact ⟨R, h⟩

/-- a registered request stays registered -/
theorem Serves.run (cfg : Settings) (ops : List Op) (h : Serves r cp) :
    Serves r (Core.run (ControlPlaneApplication.step cfg) cp ops) := by
  refine Core.run_inv (I := Serves r) (fun cp o h => ?_) ops h
  obtain ⟨R, hlinked, ref, hr⟩ := h
  obtain ⟨R', hlinked', rfl | ⟨r', ref', -, rfl⟩⟩ := step_registry cfg o hlinked
  · exact ⟨R', hlinked', ref, hr⟩
  · refine ⟨_, hlinked', ?_⟩
    rw [Dict.get?_set]
    split_ifs
    · exact ⟨ref', rfl⟩
    · exact ⟨ref, hr⟩

theorem Serves.entry (h : Serves r cp) :
    ∃ ref e, cp.registry.get? r = some ref ∧ cp.entries[ref]? = some e ∧ cp.state? r = some e.state := by
  obtain ⟨R, hlinked, ref, hr⟩ := h
  obtain ⟨e, he, -⟩ := hlinked.registered r ref hr
  have hreg : cp.registry.get? r = some ref := hlinked.registry ▸ hr
  refine ⟨ref, e, hreg, he, ?_⟩
  rw [ControlPlaneApplication.state?, ControlPlaneApplication.entry?, hreg]
  exact congrArg (Option.map RegisteredRequest.state) he

theorem serves_or_unknown (h : ∃ R, Linked R cp) (r : UUID) : Serves r cp ∨ cp.registry.get? r = none := by
  obtain ⟨R, h⟩ := h
  cases hr : R.get? r with
  | none => exact Or.inr (h.registry ▸ hr)
  | some ref => exact Or.inl ⟨R, h, ref, hr⟩

theorem Serves.final {α : Type} {x : ControlPlaneM α} (h : Serves r cp) (hx : ∀ R, Keeps (Linked R) x) :
    Serves r (x.final cp) := by
  obtain ⟨R, hlinked, hr⟩ := h
  exact ⟨R, final_keeps (hx R) hlinked, hr⟩

theorem state?_unknown (hr : cp.registry.get? r = none) : cp.state? r = none := by
  rw [ControlPlaneApplication.state?, ControlPlaneApplication.entry?, hr]
  rfl

end InferencePlatform.ControlPlane
