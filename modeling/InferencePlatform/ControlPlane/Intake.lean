/-
From RECEIVED to QUEUED: the two halves of `process_through_queued` on a fresh id.

Up to the admission checks the request becomes VALIDATED; from their answer on it becomes ADMITTED and QUEUED, or it is
rejected, or it fails. The failure handler does not find a request that the full registry has refused.
-/
import InferencePlatform.ControlPlane.Overview

namespace InferencePlatform.ControlPlane

open InferencePlatform.Core (Dict)

variable {cfg : QueueCapacityConfig} {settings : Settings} {cp cp' : ControlPlaneApplication} {r : UUID} {ref : Ref}
  {st : Status} {now : Time}

/-! ## Unknown ids -/

theorem transition_unknown (hr : cp.registry.get? r = none) (toState : RequestState) (now : Time)
    (batchId : Option UUID) (backendId : Option String) :
    EStateM.run (transition r toState now batchId backendId) cp = .error (.requestNotFound r) cp := by
  simp only [transition, EStateM.run_bind, getRef_unknown hr]

theorem markFailed_unknown (hr : cp.registry.get? r = none) (reason : FailureReason) (message : String) (now : Time)
    (batchId : Option UUID) (backendId : Option String) :
    EStateM.run (markFailed r reason message now batchId backendId) cp = .error (.requestNotFound r) cp := by
  simp only [markFailed, EStateM.run_bind, getRef_unknown hr]

theorem completeRequest_unknown (hr : cp.registry.get? r = none) (completion : Option InferenceCompletionRecord)
    (now : Time) : EStateM.run (completeRequest r completion now) cp = .error (.requestNotFound r) cp := by
  simp only [completeRequest, EStateM.run_bind, getRef_unknown hr]

theorem cancel_unknown (hr : cp.registry.get? r = none) (now : Time) :
    EStateM.run (cancel r now) cp = .error (.requestNotFound r) cp := by
  simp only [cancel, EStateM.run_bind, getRef_unknown hr]

theorem runAdmission_unknown (hr : cp.registry.get? r = none) (checks : List (Except String AdmissionResult))
    (now : Time) : EStateM.run (runAdmission r checks now) cp = .error (.requestNotFound r) cp := by
  simp only [runAdmission, startAdmission, EStateM.run_bind, getRef_unknown hr]

theorem enqueueFromAdmitted_unknown (hr : cp.registry.get? r = none) (now : Time) :
    EStateM.run (enqueueFromAdmitted cfg r now) cp = .error (.requestNotFound r) cp := by
  simp only [enqueueFromAdmitted, EStateM.run_bind, getRef_unknown hr]

/-! ## The two halves of `process_through_queued` -/

theorem guarded_ok {α : Type} {x : ControlPlaneM α} {a : α} (h : EStateM.run x cp = .ok a cp') (r : UUID) (now : Time)
    (returned : Ref → α) : EStateM.run (guarded r now returned x) cp = .ok a cp' := by
  simp only [EStateM.run] at h
  simp only [EStateM.run, guarded, h]

/-- what is neither an illegal transition nor an internal failure is turned into a failed request -/
theorem guarded_error {α : Type} {x : ControlPlaneM α} (err : ControlPlaneError) (cp' : ControlPlaneApplication)
    (h : EStateM.run x cp = .error err cp') (ht : ∀ r s t, err ≠ .invalidTransition r s t)
    (hi : ∀ message, err ≠ .internalFailure message) (r : UUID) (now : Time) (returned : Ref → α) :
    EStateM.run (guarded r now returned x) cp =
      EStateM.run (do
        let failed ← markFailed r .internalError s!"control plane error: {err.message}" now
        return returned failed) cp' := by
  simp only [EStateM.run] at h
  cases err with
  | invalidTransition r s t => exact absurd rfl (ht r s t)
  | internalFailure message => exact absurd rfl (hi message)
  | _ => simp only [EStateM.run, guarded, h]

theorem Overview.put_put (o : Overview) (r : UUID) (st st' : Status) : (o.put r st).put r st' = o.put r st' := by
  simp [Overview.put]

theorem Overview.register_put (o : Overview) (r : UUID) (st st' : Status) :
    (o.register r st).put r st' = o.register r st' := by
  simp [Overview.put, Overview.register]

theorem Overview.put_expire (o : Overview) (r : UUID) (st : Status) (now : Time) :
    (o.put r st).expire cfg now = (o.expire cfg now).put r st := rfl

theorem Overview.processTimeouts_status {o : Overview} (hw : ¬o.waits r) :
    (o.processTimeouts cfg now).status r = o.status r := by
  have hlate : r ∉ o.lateIds cfg now := by
    intro hmem
    obtain ⟨p, hp, hpr⟩ := List.mem_map.1 hmem
    exact hw ⟨p, List.mem_of_mem_filter hp, hpr⟩
  simp [Overview.processTimeouts, Overview.timedOut, hlate]

theorem Overview.processTimeouts_waits {o : Overview} (hw : ¬o.waits r) : ¬(o.processTimeouts cfg now).waits r :=
  fun ⟨p, hp, hpr⟩ => hw ⟨p, List.mem_of_mem_filter hp, hpr⟩

/-- the steps up to the `await`: expiry, and then the registration fails or the request becomes VALIDATED -/
theorem processUntilAdmission_steps (settings : Settings) (h : Inv cp) (submit : SubmitRequest) (now : Time)
    (hfresh : cp.overview.status submit.inferenceRequest.requestId = none) :
    ∃ refs cp₁, EStateM.run (processTimeouts settings.queue now) cp = .ok refs cp₁ ∧
      Leaves cp cp₁ (cp.overview.processTimeouts settings.queue now) ∧
      ((settings.registryMaxEntries ≤ cp.overview.registered ∧
        EStateM.run (processUntilAdmission settings submit now) cp =
          .error (.requestNotFound submit.inferenceRequest.requestId) cp₁) ∨
      cp.overview.registered < settings.registryMaxEntries ∧ ∃ ref cp₂ cp₃,
        EStateM.run (register settings submit .received now) cp₁ = .ok ref cp₂ ∧ Inv cp₂ ∧
        cp₂.registry = cp.registry.set submit.inferenceRequest.requestId ref ∧
        (∃ ref', EStateM.run (transition submit.inferenceRequest.requestId .validated now) cp₂ = .ok ref' cp₃) ∧
        Leaves cp₂ cp₃ ((cp.overview.processTimeouts settings.queue now).register submit.inferenceRequest.requestId
          ⟨.validated, none⟩) ∧
        EStateM.run (processUntilAdmission settings submit now) cp = .ok (.admitting ref) cp₃) := by
  set r := submit.inferenceRequest.requestId with hrdef
  have hw := not_waits_of_unregistered h hfresh
  obtain ⟨refs, cp₁, hrun₁, hl₁⟩ := processTimeouts_spec settings.queue h now
  refine ⟨refs, cp₁, hrun₁, hl₁, ?_⟩
  have hs₁ : cp₁.overview.status r = none := by
    rw [hl₁.overview, Overview.processTimeouts_status hw]
    exact hfresh
  have hcount : cp₁.overview.registered = cp.overview.registered := by rw [hl₁.overview]; rfl
  rcases register_spec settings hl₁.inv submit .received now hs₁ with
    ⟨err, hrun₂, hinit | ⟨hfull, rfl⟩⟩ | ⟨ref, cp₂, hrun₂, hinv₂, hreg₂, -, hroom, hov₂⟩
  · exact absurd rfl hinit.1
  · refine Or.inl ⟨hcount ▸ hfull, ?_⟩
    have hunk := fun message =>
      markFailed_unknown ((overview_status_eq_none hl₁.inv).1 hs₁) .internalError message now none none
    unfold processUntilAdmission
    rw [guarded_error (.runtimeError "request registry at capacity") cp₁ ?_ (by simp) (by simp),
      EStateM.run_bind, hunk]
    simp only [EStateM.run_bind, hrun₁, hrun₂]
  · have hs₂ : cp₂.overview.status r = some ⟨.received, none⟩ := by rw [hov₂]; exact Overview.register_status_self _ _ _
    obtain ⟨ref', cp₃, hrun₃, hl₃⟩ := (transition_spec hinv₂ hs₂ .validated now none none).1 rfl
    have hs₃ : cp₃.overview.status r = some ⟨.validated, none⟩ := by
      rw [hl₃.overview]; exact Overview.put_status_self _ _ _
    obtain ⟨ref'', hreg₃, hrun₄⟩ := startAdmission_spec hl₃.inv hs₃
    have href : ref'' = ref := by
      rw [hl₃.registry, hreg₂, Dict.get?_set_self] at hreg₃
      exact (Option.some.inj hreg₃).symm
    rw [if_pos rfl, href] at hrun₄
    have hov₃ : cp₃.overview = (cp.overview.processTimeouts settings.queue now).register r ⟨.validated, none⟩ := by
      rw [hl₃.overview, hov₂, Overview.register_put, hl₁.overview]
    refine Or.inr ⟨hcount ▸ hroom, ref, cp₂, cp₃, hrun₂, hinv₂, by rw [hreg₂, hl₁.registry], ⟨ref', hrun₃⟩,
      ⟨hl₃.inv, hl₃.registry, hov₃⟩, guarded_ok ?_ r now Intake.returned⟩
    simp only [EStateM.run_bind, hrun₁, hrun₂, ← hrdef, hrun₃, hrun₄, EStateM.run_pure]

/-- up to the `await`: the request is VALIDATED, or the registry is full and the failure handler does not find it -/
theorem processUntilAdmission_spec (settings : Settings) (h : Inv cp) (submit : SubmitRequest) (now : Time)
    (hfresh : cp.overview.status submit.inferenceRequest.requestId = none) :
    (∃ cp', EStateM.run (processUntilAdmission settings submit now) cp =
        .error (.requestNotFound submit.inferenceRequest.requestId) cp' ∧
      settings.registryMaxEntries ≤ cp.overview.registered ∧
      Leaves cp cp' (cp.overview.processTimeouts settings.queue now)) ∨
    ∃ ref cp', EStateM.run (processUntilAdmission settings submit now) cp = .ok (.admitting ref) cp' ∧ Inv cp' ∧
      cp'.registry = cp.registry.set submit.inferenceRequest.requestId ref ∧
      cp.overview.registered < settings.registryMaxEntries ∧
      cp'.overview = (cp.overview.processTimeouts settings.queue now).register submit.inferenceRequest.requestId
        ⟨.validated, none⟩ := by
  obtain ⟨refs, cp₁, -, hl₁, ⟨hfull, hrun⟩ | ⟨hroom, ref, cp₂, cp₃, -, -, hreg, -, hl₃, hrun⟩⟩ :=
    processUntilAdmission_steps settings h submit now hfresh
  · exact Or.inl ⟨cp₁, hrun, hfull, hl₁⟩
  · exact Or.inr ⟨ref, cp₃, hrun, hl₃.inv, hl₃.registry.trans hreg, hroom, hl₃.overview⟩

theorem Inv.deref (h : Inv cp) (hr : cp.registry.get? r = some ref) (hs : cp.overview.status r = some st) :
    ∃ e, EStateM.run (derefEntry ref) cp = .ok e cp ∧ e.state = st.state := by
  obtain ⟨ref', e, hr', he, -, hst⟩ := h.entry hs
  rw [hr] at hr'
  cases hr'
  exact ⟨e, derefEntry_run he, congrArg Status.state hst⟩

/-- what the admission checks and the queue make of a VALIDATED request that does not wait yet -/
def Overview.admitted (cfg : QueueCapacityConfig) (o : Overview) (r : UUID) (reason : Option FailureReason)
    (result : Except String AdmissionResult) (now : Time) : Overview :=
  match result with
  | .error _ => o.put r ⟨.failed, some .internalError⟩
  | .ok a =>
    if a.outcome = .accept then
      if cfg.maxQueueSize ≤ (o.expire cfg now).waiting.length then (o.expire cfg now).put r ⟨.rejected, some .queueFull⟩
      else (o.expire cfg now).enqueued r reason now
    else o.put r ⟨.rejected, some .queueFull⟩

/-- what stands in the `try` of the second half -/
def fromAdmission (cfg : Settings) (requestId : UUID) (ref : Ref)
    (result : Except String AdmissionResult) (now : Time) :
    ControlPlaneM Ref := do
  let entry ← finishAdmission requestId ref result now
  let state := (← derefEntry entry).state
  if state = .rejected then return entry
  else if state ≠ .admitted then throw (.internalFailure s!"unexpected state after admission: {state.value}")
  else enqueueFromAdmitted cfg.queue requestId now

theorem processFromAdmission_eq (cfg : Settings) (requestId : UUID) (ref : Ref) (result : Except String AdmissionResult)
    (now : Time) :
    processFromAdmission cfg requestId ref result now =
      guarded requestId now id (fromAdmission cfg requestId ref result now) :=
  rfl

/-- a request that the checks accept goes on to the queue; one that they do not accept is done -/
theorem fromAdmission_steps (settings : Settings) (h : Inv cp) (hr : cp.registry.get? r = some ref)
    (hs : cp.overview.status r = some st) (hst : st.state = .validated) (a : AdmissionResult) (now : Time) :
    ∃ cp₁, EStateM.run (finishAdmission r ref (.ok a) now) cp = .ok ref cp₁ ∧
      ((a.outcome = .accept ∧ Leaves cp cp₁ (cp.overview.put r ⟨.admitted, st.reason⟩) ∧
        EStateM.run (fromAdmission settings r ref (.ok a) now) cp =
          EStateM.run (enqueueFromAdmitted settings.queue r now) cp₁) ∨
      a.outcome ≠ .accept ∧ Leaves cp cp₁ (cp.overview.put r ⟨.rejected, some .queueFull⟩) ∧
        EStateM.run (fromAdmission settings r ref (.ok a) now) cp = .ok ref cp₁) := by
  rcases finishAdmission_spec h hr hs hst (.ok a) now with ⟨message, hres, -⟩ | ⟨a', cp₁, hres, ha, hrun, hl⟩ |
    ⟨a', cp₁, hres, ha, hrun, hl⟩
  · cases hres
  · cases hres
    have hs₁ : cp₁.overview.status r = some ⟨.admitted, st.reason⟩ := by
      rw [hl.overview]
      exact Overview.put_status_self _ _ _
    obtain ⟨e, hderef, hest⟩ := hl.inv.deref (hl.registry ▸ hr) hs₁
    refine ⟨cp₁, hrun, Or.inl ⟨ha, hl, ?_⟩⟩
    simp only [fromAdmission, EStateM.run_bind, hrun, hderef, hest, reduceCtorEq, ne_eq, not_true_eq_false, if_false]
  · cases hres
    have hs₁ : cp₁.overview.status r = some ⟨.rejected, some .queueFull⟩ := by
      rw [hl.overview]
      exact Overview.put_status_self _ _ _
    obtain ⟨e, hderef, hest⟩ := hl.inv.deref (hl.registry ▸ hr) hs₁
    refine ⟨cp₁, hrun, Or.inr ⟨ha, hl, ?_⟩⟩
    simp only [fromAdmission, EStateM.run_bind, hrun, hderef, hest, if_true, EStateM.run_pure]

/-- the request that the checks accept is enqueued or, if the queue is full, rejected like the ones they do not
accept -/
theorem fromAdmission_spec (settings : Settings) (h : Inv cp) (hr : cp.registry.get? r = some ref)
    (hs : cp.overview.status r = some st) (hst : st.state = .validated) (hw : ¬cp.overview.waits r)
    (a : AdmissionResult) (now : Time) :
    ∃ cp', EStateM.run (fromAdmission settings r ref (.ok a) now) cp = .ok ref cp' ∧
      Leaves cp cp' (cp.overview.admitted settings.queue r st.reason (.ok a) now) := by
  obtain ⟨cp₁, -, ⟨ha, hl, hrun⟩ | ⟨ha, hl, hrun⟩⟩ := fromAdmission_steps settings h hr hs hst a now
  · have hr₁ : cp₁.registry.get? r = some ref := hl.registry ▸ hr
    have hs₁ : cp₁.overview.status r = some ⟨.admitted, st.reason⟩ := by
      rw [hl.overview]
      exact Overview.put_status_self _ _ _
    have hw₁ : ¬(cp₁.overview.expire settings.queue now).waits r := by
      rw [hl.overview]
      exact fun ⟨p, hp, hpr⟩ => hw ⟨p, List.mem_of_mem_filter hp, hpr⟩
    rcases enqueueFromAdmitted_spec settings.queue hl.inv hs₁ now with ⟨hno, -⟩ | ⟨-, ⟨hwaits, -⟩ |
      ⟨ref', cp₂, hrun₂, hr₂, -, hl₂⟩⟩
    · exact absurd rfl hno
    · exact absurd hwaits hw₁
    · rw [hr₁] at hr₂
      cases hr₂
      refine ⟨cp₂, hrun.trans hrun₂, hl₂.inv, hl₂.registry.trans hl.registry, ?_⟩
      rw [hl₂.overview, hl.overview, Overview.put_expire]
      simp only [Overview.admitted, if_pos ha, Overview.put_waiting, Overview.put_put, Overview.enqueued]
  · refine ⟨cp₁, hrun, hl.inv, hl.registry, ?_⟩
    rw [hl.overview]
    simp only [Overview.admitted, if_neg ha]

/-- from the `await` on: the call always returns the request's entry -/
theorem processFromAdmission_spec (settings : Settings) (h : Inv cp) (hr : cp.registry.get? r = some ref)
    (hs : cp.overview.status r = some st) (hst : st.state = .validated) (hw : ¬cp.overview.waits r)
    (result : Except String AdmissionResult) (now : Time) :
    ∃ cp', EStateM.run (processFromAdmission settings r ref result now) cp = .ok ref cp' ∧
      Leaves cp cp' (cp.overview.admitted settings.queue r st.reason result now) := by
  rw [processFromAdmission_eq]
  cases result with
  | error message =>
    obtain ⟨ref', cp', hfail, hr', hl⟩ := markFailed_spec h hs .internalError
      s!"control plane error: {(ControlPlaneError.checkRaised message).message}" now none none
    rw [hr] at hr'
    cases hr'
    have hraised : EStateM.run (fromAdmission settings r ref (.error message) now) cp =
        .error (.checkRaised message) cp :=
      rfl
    refine ⟨cp', ?_, hl⟩
    rw [guarded_error (.checkRaised message) cp hraised (by simp) (by simp), EStateM.run_bind, hfail]
    rfl
  | ok a =>
    obtain ⟨cp', hrun, hl⟩ := fromAdmission_spec settings h hr hs hst hw a now
    exact ⟨cp', guarded_ok hrun r now id, hl⟩

end InferencePlatform.ControlPlane
