/-
How an intake ends.

`process_through_queued` stops at the admission checks, and other coroutines run while it waits for them. As long as
these leave its own request alone, the request is VALIDATED and does not wait when the call goes on. From there each way
out ends in a state that says what happened: an accepted request is enqueued or finds the queue full, one that is not
accepted is rejected, and a check that raises fails it.

- `Op.concerns`, `step_apart`, `run_apart`: what operations on other requests do to one that does not wait;
- `intake_outcome`: an intake of a fresh id with room in the registry always returns the registered entry, `Concluded`.
-/
import InferencePlatform.ControlPlane.Links
import InferencePlatform.ControlPlane.Safety

namespace InferencePlatform.ControlPlane

open InferencePlatform.Core (Dict Meets run run_cons)

variable {cfg : Settings} {cp cp' : ControlPlaneApplication} {r : UUID} {ref : Ref} {st : Status} {now : Time}

/-! ## Operations on other requests -/

/-- the id an operation is called with -/
def Op.concerns : Op → Option UUID
  | .register submit _ _ | .processThroughQueued submit _ _ _ => some submit.inferenceRequest.requestId
  | .transition r _ _ _ _ | .runAdmission r _ _ | .enqueueFromAdmitted r _ | .markFailed r _ _ _ _ _
  | .completeRequest r _ _ | .cancel r _ | .remove r _ => some r
  | .processTimeouts _ | .dequeueNext _ | .peek _ | .listItems _ | .clear | .getQueueSnapshot _ _
  | .getQueueStatistics _ | .listQueuedRequests _ | .listQueueItems _ _ => none

/-- the request has the status it had, and still does not wait -/
structure Overview.Apart (r : UUID) (o o' : Overview) : Prop where
  status : o'.status r = o.status r
  waits : ¬o'.waits r

variable {o : Overview}

theorem Overview.Apart.of_sublist {o' : Overview} (hw : ¬o.waits r) (hs : o'.status r = o.status r)
    (hsub : o'.waiting.Sublist o.waiting) : Overview.Apart r o o' :=
  ⟨hs, fun ⟨p, hp, hpr⟩ => hw ⟨p, hsub.mem hp, hpr⟩⟩

theorem Overview.Apart.put (hw : ¬o.waits r) {r₁ : UUID} (hne : r ≠ r₁) (st : Status) :
    Overview.Apart r o (o.put r₁ st) :=
  .of_sublist hw (Overview.put_status_ne o st hne) (List.Sublist.refl _)

theorem Overview.Apart.onStatus (hw : ¬o.waits r) {r₁ : UUID} {f : Status → Overview}
    (h : ∀ st, o.status r₁ = some st → Overview.Apart r o (f st)) : Overview.Apart r o (o.onStatus r₁ f) := by
  cases hs : o.status r₁ with
  | none =>
    rw [onStatus_none hs]
    exact ⟨rfl, hw⟩
  | some st =>
    rw [onStatus_some hs]
    exact h st hs

theorem Overview.expire_waits (hw : ¬o.waits r) (queue : QueueCapacityConfig) (now : Time) :
    ¬(o.expire queue now).waits r :=
  fun ⟨p, hp, hpr⟩ => hw ⟨p, List.mem_of_mem_filter hp, hpr⟩

theorem Overview.Apart.enqueue (hw : ¬o.waits r) {r₁ : UUID} (hne : r ≠ r₁)
    (reason : Option FailureReason) (now : Time) :
    Overview.Apart r o (o.enqueue cfg r₁ reason now) := by
  have hw' := Overview.expire_waits hw cfg.queue now
  unfold Overview.enqueue
  split_ifs
  · exact ⟨rfl, hw'⟩
  · exact ⟨Overview.put_status_ne _ _ hne, hw'⟩
  · refine ⟨Overview.put_status_ne _ _ hne, ?_⟩
    rintro ⟨p, hp, hpr⟩
    rcases List.mem_append.1 hp with hp | hp
    · exact hw' ⟨p, hp, hpr⟩
    · rw [List.mem_singleton.1 hp] at hpr
      exact hne hpr.symm

theorem Overview.Apart.admitted (cfg : Settings) (hw : ¬o.waits r) {r₁ : UUID} (hne : r ≠ r₁)
    (reason : Option FailureReason) (result : Except String AdmissionResult) (now : Time) :
    Overview.Apart r o (o.admitted cfg.queue r₁ reason result now) := by
  refine ⟨admitted_status reason result now hne, ?_⟩
  have hw' := Overview.expire_waits hw cfg.queue now
  cases result with
  | error message => exact hw
  | ok a =>
    simp only [Overview.admitted]
    split_ifs
    · exact hw'
    · rintro ⟨p, hp, hpr⟩
      rcases List.mem_append.1 hp with hp | hp
      · exact hw' ⟨p, hp, hpr⟩
      · rw [List.mem_singleton.1 hp] at hpr
        exact hne hpr.symm
    · exact hw

/-- one case for each operation: it writes the status of its own request, or only lets waiting requests go -/
theorem Overview.step_apart (cfg : Settings) (hw : ¬o.waits r) {op : Op} (hne : op.concerns ≠ some r) :
    Overview.Apart r o (o.step cfg op) := by
  have hsame : Overview.Apart r o o := ⟨rfl, hw⟩
  have hexpire : ∀ now, Overview.Apart r o (o.expire cfg.queue now) := fun now =>
    .of_sublist hw rfl List.filter_sublist
  cases op with
  | register submit initialState now =>
    have hr : r ≠ submit.inferenceRequest.requestId := fun h => hne (congrArg some h.symm)
    simp only [Overview.step]
    split_ifs
    · exact hsame
    · exact .of_sublist hw (Overview.register_status_ne o _ hr) (List.Sublist.refl _)
  | transition r₁ toState now batchId backendId =>
    have hr : r ≠ r₁ := fun h => hne (congrArg some h.symm)
    refine .onStatus hw fun st _ => ?_
    split_ifs
    · exact .put hw hr _
    · exact hsame
  | runAdmission r₁ checks now =>
    have hr : r ≠ r₁ := fun h => hne (congrArg some h.symm)
    refine .onStatus hw fun st _ => ?_
    split_ifs
    · cases evaluate checks with
      | error message => exact hsame
      | ok a =>
        simp only [Overview.judged]
        split_ifs
        · exact .put hw hr _
        · exact .put hw hr _
    · exact hsame
  | enqueueFromAdmitted r₁ now =>
    have hr : r ≠ r₁ := fun h => hne (congrArg some h.symm)
    refine .onStatus hw fun st _ => ?_
    split_ifs
    · exact .enqueue hw hr _ now
    · exact hsame
  | processThroughQueued submit checks now now' =>
    have hr : r ≠ submit.inferenceRequest.requestId := fun h => hne (congrArg some h.symm)
    have htimeouts : Overview.Apart r o (o.processTimeouts cfg.queue now) :=
      ⟨Overview.processTimeouts_status hw, Overview.processTimeouts_waits hw⟩
    simp only [Overview.step, Overview.intake]
    split_ifs
    · exact htimeouts
    · have hregistered : Overview.Apart r o ((o.processTimeouts cfg.queue now).register
          submit.inferenceRequest.requestId ⟨.validated, none⟩) :=
        ⟨(Overview.register_status_ne _ _ hr).trans htimeouts.status, htimeouts.waits⟩
      have hadmitted := Overview.Apart.admitted cfg hregistered.waits hr none (evaluate checks) now'
      exact ⟨hadmitted.status.trans hregistered.status, hadmitted.waits⟩
  | processTimeouts now => exact ⟨Overview.processTimeouts_status hw, Overview.processTimeouts_waits hw⟩
  | markFailed r₁ reason message now batchId backendId =>
    have hr : r ≠ r₁ := fun h => hne (congrArg some h.symm)
    exact .onStatus hw fun st _ => .put hw hr _
  | completeRequest r₁ completion now =>
    have hr : r ≠ r₁ := fun h => hne (congrArg some h.symm)
    refine .onStatus hw fun st _ => ?_
    split_ifs
    · exact .put hw hr _
    · exact hsame
  | cancel r₁ now =>
    have hr : r ≠ r₁ := fun h => hne (congrArg some h.symm)
    refine .onStatus hw fun st _ => ?_
    split_ifs
    · exact .put hw hr _
    · exact hsame
  | dequeueNext now => exact .of_sublist hw rfl ((List.tail_sublist _).trans List.filter_sublist)
  | remove r₁ now => exact .of_sublist hw rfl List.eraseP_sublist
  | clear => exact .of_sublist hw rfl (List.nil_sublist _)
  | peek now => exact hexpire now
  | listItems now => exact hexpire now
  | getQueueSnapshot queueName now => exact hexpire now
  | getQueueStatistics now => exact hexpire now
  | listQueuedRequests now => exact hexpire now
  | listQueueItems limit now => exact hexpire now

/-- the objects hang together, and the request has its entry and its status and does not wait -/
structure Held (cp : ControlPlaneApplication) (r : UUID) (ref : Ref) (st : Status) : Prop where
  inv : Inv cp
  registered : cp.registry.get? r = some ref
  status : cp.overview.status r = some st
  waits : ¬cp.overview.waits r

/-- an operation on another request that registers no id twice -/
def OpApart (r : UUID) (cp : ControlPlaneApplication) (op : Op) : Prop := Fresh cp op ∧ op.concerns ≠ some r

theorem Held.step (h : Held cp r ref st) {op : Op} (hop : OpApart r cp op) : Held (cp.step cfg op) r ref st := by
  obtain ⟨hfresh, hne⟩ := hop
  have hshows := step_refines cfg h.inv hfresh
  have hapart := Overview.step_apart cfg h.waits hne
  obtain ⟨R', hlinked, hR⟩ := step_registry cfg op h.inv.linked
  have hreg : (cp.step cfg op).registry = R' := hlinked.registry
  refine ⟨hshows.inv, ?_, ?_, ?_⟩
  · rw [hreg]
    rcases hR with rfl | ⟨r', ref', hr', rfl⟩
    · exact h.registered
    · have hother : r ≠ r' := by
        rintro rfl
        cases op with
        | register submit initialState now => exact hne hr'
        | processThroughQueued submit checks now now' => exact hne hr'
        | _ => cases hr'
      rw [Dict.get?_set, if_neg hother]
      exact h.registered
  · rw [hshows.overview, hapart.status]
    exact h.status
  · rw [hshows.overview]
    exact hapart.waits

theorem Held.run_others (h : Held cp r ref st) {others : List Op}
    (ho : Meets (ControlPlaneApplication.step cfg) (OpApart r) cp others) :
    Held (run (ControlPlaneApplication.step cfg) cp others) r ref st := by
  induction others generalizing cp with
  | nil => exact h
  | cons op others ih =>
    rw [run_cons]
    exact ih (h.step ho.1) ho.2

/-! ## The outcome -/

/-- the registered entry of a request that an intake has brought to its end -/
structure Concluded (cp : ControlPlaneApplication) (r : UUID) (ref : Ref) (e : RegisteredRequest) : Prop where
  registered : cp.registry.get? r = some ref
  entry : cp.entries[ref]? = some e
  state : e.state = .queued ∨ e.state = .rejected ∨ e.state = .failed
  queued : e.state = .queued ↔ ∃ item ∈ cp.items, item.requestId = r
  explained : e.state ≠ .queued → ∃ reason, e.failureReason = some reason

/-- what the overview says of a request that the checks and the queue have judged -/
structure Overview.Judged (o : Overview) (r : UUID) (st : Status) : Prop where
  status : o.status r = some st
  state : st.state = .queued ∨ st.state = .rejected ∨ st.state = .failed
  queued : st.state = .queued ↔ o.waits r
  explained : st.state ≠ .queued → ∃ reason, st.reason = some reason

theorem Overview.admitted_judged (cfg : Settings) (hw : ¬o.waits r) (reason : Option FailureReason)
    (result : Except String AdmissionResult) (now : Time) :
      ∃ st, (o.admitted cfg.queue r reason result now).Judged r st := by
  have hw' := Overview.expire_waits hw cfg.queue now
  cases result with
  | error message =>
    exact ⟨_, Overview.put_status_self o r _, Or.inr (Or.inr rfl), iff_of_false (by simp) hw, fun _ => ⟨_, rfl⟩⟩
  | ok a =>
    simp only [Overview.admitted]
    split_ifs
    · exact ⟨_, Overview.put_status_self _ r _, Or.inr (Or.inl rfl), iff_of_false (by simp) hw', fun _ => ⟨_, rfl⟩⟩
    · refine ⟨⟨.queued, reason⟩, Overview.put_status_self _ r _, Or.inl rfl, iff_of_true rfl ?_, fun h => absurd rfl h⟩
      exact ⟨(r, now), List.mem_append_right _ (List.mem_singleton_self _), rfl⟩
    · exact ⟨_, Overview.put_status_self o r _, Or.inr (Or.inl rfl), iff_of_false (by simp) hw, fun _ => ⟨_, rfl⟩⟩

theorem Overview.Judged.settled (hjudged : o.Judged r st) (hinv : Inv cp) (ho : cp.overview = o)
    (hr : cp.registry.get? r = some ref) : ∃ e, Concluded cp r ref e := by
  obtain ⟨ref', e, hr', he, -, hst⟩ := hinv.entry (ho ▸ hjudged.status)
  obtain rfl : ref = ref' := Option.some.inj (hr.symm.trans hr')
  have hstate : e.state = st.state := congrArg Status.state hst
  have hreason : e.failureReason = st.reason := congrArg Status.reason hst
  refine ⟨e, hr, he, hstate ▸ hjudged.state, ?_, ?_⟩
  · rw [hstate, hjudged.queued, ← ho, waits_iff]
  · rw [hstate, hreason]
    exact hjudged.explained

/-- an intake of a fresh id with room in the registry always returns the registered entry, whatever the checks do, and
whatever happens to other requests while it waits for them -/
theorem intake_outcome (cfg : Settings) (ops : List Op)
    (hf : Meets (ControlPlaneApplication.step cfg) Fresh .init ops) (submit : SubmitRequest)
    (hfresh : (run (ControlPlaneApplication.step cfg) .init ops).registry.get? submit.inferenceRequest.requestId = none)
    (hroom : (run (ControlPlaneApplication.step cfg) .init ops).registry.items.length < cfg.registryMaxEntries)
    (checks : List (Except String AdmissionResult)) (now now' : Time) :
    let cp := run (ControlPlaneApplication.step cfg) .init ops
    let r := submit.inferenceRequest.requestId
    (∃ ref cp' e, EStateM.run (processThroughQueued cfg submit checks now now') cp = .ok ref cp' ∧
      Concluded cp' r ref e) ∧
      ∃ ref cp₁, EStateM.run (processUntilAdmission cfg submit now) cp = .ok (.admitting ref) cp₁ ∧
        ∀ others, Meets (ControlPlaneApplication.step cfg) (OpApart r) cp₁ others → ∃ cp' e,
          EStateM.run (processFromAdmission cfg r ref (evaluate checks) now')
            (run (ControlPlaneApplication.step cfg) cp₁ others) = .ok ref cp' ∧ Concluded cp' r ref e := by
  intro cp r
  have h : Inv cp := run_inv_of_fresh cfg inv_init hf
  have hnone : cp.overview.status r = none := (overview_status_eq_none h).2 hfresh
  rcases processUntilAdmission_spec cfg h submit now hnone with
    ⟨cp₁, -, hfull, -⟩ | ⟨ref, cp₁, huntil, hinv₁, hreg₁, -, hov₁⟩
  · exact absurd hfull (not_le.2 hroom)
  have hw : ¬cp.overview.waits r := not_waits_of_unregistered h hnone
  have hheld : Held cp₁ r ref ⟨.validated, none⟩ := by
    refine ⟨hinv₁, ?_, ?_, ?_⟩
    · rw [hreg₁]
      exact Dict.get?_set_self _ _ _
    · rw [hov₁]
      exact Overview.register_status_self _ _ _
    · rw [hov₁]
      exact Overview.processTimeouts_waits hw
  have hrest : ∀ others, Meets (ControlPlaneApplication.step cfg) (OpApart r) cp₁ others → ∃ cp' e,
      EStateM.run (processFromAdmission cfg r ref (evaluate checks) now')
        (run (ControlPlaneApplication.step cfg) cp₁ others) = .ok ref cp' ∧ Concluded cp' r ref e := by
    intro others ho
    have hheld₂ := hheld.run_others ho
    obtain ⟨cp', hrun, hl⟩ := processFromAdmission_spec cfg hheld₂.inv hheld₂.registered hheld₂.status rfl hheld₂.waits
      (evaluate checks) now'
    obtain ⟨st, hjudged⟩ := Overview.admitted_judged cfg hheld₂.waits none (evaluate checks) now'
    obtain ⟨e, hsettled⟩ := hjudged.settled hl.inv hl.overview (hl.registry ▸ hheld₂.registered)
    exact ⟨cp', e, hrun, hsettled⟩
  refine ⟨?_, ref, cp₁, huntil, hrest⟩
  obtain ⟨cp', e, hrun, hsettled⟩ := hrest [] trivial
  refine ⟨ref, cp', e, ?_, hsettled⟩
  simp only [processThroughQueued, EStateM.run_bind, huntil]
  exact hrun

/-- a check that raises, after another request has been enqueued -/
theorem intake_outcome_raised :
    let cp := run (ControlPlaneApplication.step sampleSettings) .init [.processThroughQueued (sampleSubmit 1) [] 0 0]
    (∃ ref cp' e,
      EStateM.run (processThroughQueued sampleSettings (sampleSubmit 2) [.error "policy store down"] 5 6) cp =
        .ok ref cp' ∧ Concluded cp' 2 ref e) ∧
      ∃ ref cp₁, EStateM.run (processUntilAdmission sampleSettings (sampleSubmit 2) 5) cp = .ok (.admitting ref) cp₁ ∧
        ∀ others, Meets (ControlPlaneApplication.step sampleSettings) (OpApart 2) cp₁ others → ∃ cp' e,
          EStateM.run (processFromAdmission sampleSettings 2 ref (evaluate [.error "policy store down"]) 6)
            (run (ControlPlaneApplication.step sampleSettings) cp₁ others) = .ok ref cp' ∧ Concluded cp' 2 ref e :=
  intake_outcome sampleSettings [.processThroughQueued (sampleSubmit 1) [] 0 0] (by decide) (sampleSubmit 2) (by decide)
    (by decide) [.error "policy store down"] 5 6

end InferencePlatform.ControlPlane
