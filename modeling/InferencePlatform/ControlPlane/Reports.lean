/-
What each operation reports, in one table.

`Overview.reports` is the table. `step_recounts`: an operation that registers no id twice reports what the table says,
writes each registered request once at most, and registers what `Op.Born` says. So what has been reported about a
request and what it has been through can be compared in terms of the overview alone.
-/
import InferencePlatform.ControlPlane.Annals

namespace InferencePlatform.ControlPlane

open InferencePlatform.Core (Dict Keeps)

variable {R : Dict UUID Ref} {H : Chronicle} {T : List Report} {cp cp' : ControlPlaneApplication} {r : UUID} {ref : Ref}

/-! ## The table -/

namespace Overview

variable (cfg : Settings)

/-- the queue is full once the late items are gone -/
def full (o : Overview) (now : Time) : Prop := cfg.queue.maxQueueSize ≤ (o.expire cfg.queue now).waiting.length

instance (o : Overview) (now : Time) : Decidable (o.full cfg now) := Nat.decLe _ _

/-- the second half of an intake -/
def admissionReports (o : Overview) (r : UUID) (result : Except String AdmissionResult) (now : Time) : List Report :=
  match result with
  | .error _ => [failureReport r ⟨.validated, none⟩ now]
  | .ok a => judgedReport r a now :: if a.outcome = .accept then queuedReports (o.full cfg now) r now else []

/-- a registration and the transition to VALIDATED -/
def validationReports (r : UUID) (now : Time) : List Report :=
  [⟨r, now, .lifecycle .requestReceived .received none⟩, ⟨r, now, .lifecycle .requestValidated .validated none⟩]

/-- what an operation reports, in order -/
def reports (o : Overview) : Op → List Report
  | .register submit initialState now =>
    if (initialState ≠ .received ∧ initialState ≠ .validated) ∨ cfg.registryMaxEntries ≤ o.registered then []
    else [registrationReport submit.inferenceRequest.requestId initialState now]
  | .transition r toState now _ _ =>
    (o.status r).elim [] fun st =>
      if isAllowedTransition st.state toState then transitionReports r toState st.reason now else []
  | .runAdmission r checks now =>
    (o.status r).elim [] fun st =>
      if st.state = .validated then (evaluate checks).toOption.toList.map fun a => judgedReport r a now else []
  | .enqueueFromAdmitted r now =>
    (o.status r).elim [] fun st =>
      if st.state = .admitted ∧ ¬(o.expire cfg.queue now).waits r then queuedReports (o.full cfg now) r now else []
  | .processThroughQueued submit checks now now' =>
    o.timeoutReports cfg.queue now ++
      if cfg.registryMaxEntries ≤ o.registered then []
      else validationReports submit.inferenceRequest.requestId now ++
        (o.processTimeouts cfg.queue now).admissionReports cfg submit.inferenceRequest.requestId (evaluate checks) now'
  | .processTimeouts now => o.timeoutReports cfg.queue now
  | .markFailed r _ _ now _ _ => (o.status r).elim [] fun st => [failureReport r st now]
  | .completeRequest r _ now =>
    (o.status r).elim [] fun st => if st.state = .submitted ∨ st.state = .streaming then completionReports r now else []
  | .dequeueNext now =>
    ((o.expire cfg.queue now).waiting.head?.map fun p => (⟨p.1, now, .queue .requestDequeued none⟩ : Report)).toList
  | .remove r now => if o.waits r then [⟨r, now, .queue .queueRemoved none⟩] else []
  | .cancel .. | .peek .. | .listItems .. | .clear | .getQueueSnapshot .. | .getQueueStatistics ..
  | .listQueuedRequests .. | .listQueueItems .. => []

/-- what a request has been through when its intake comes to an end -/
def intakeAnnal (result : Except String AdmissionResult) (st : Status) : Annal :=
  match result with
  | .error _ => (⟨[.received], ⟨.validated, none⟩⟩ : Annal).become st
  | .ok a => ((⟨[.received], ⟨.validated, none⟩⟩ : Annal).become (judgedStatus ⟨.validated, none⟩ a)).become st

end Overview

/-! ## The table is right -/

/-- a request that is not registered yet, once the operation has registered it -/
def Op.Born (o : Op) (r : UUID) (a : Annal) : Prop :=
  match o with
  | .register submit initialState _ => submit.inferenceRequest.requestId = r ∧ a = ⟨[], ⟨initialState, none⟩⟩
  | .processThroughQueued submit checks _ _ =>
    submit.inferenceRequest.requestId = r ∧ ∃ st, a = Overview.intakeAnnal (evaluate checks) st
  | _ => False

/-- what the entries have been through; an id that is not registered counts for nothing -/
def ControlPlaneApplication.chronicle (cp : ControlPlaneApplication) : Chronicle := fun r =>
  ((cp.entry? r).map RegisteredRequest.annal).getD ⟨[], ⟨.received, none⟩⟩

theorem chronicle_eq (hr : cp.registry.get? r = some ref) {e : RegisteredRequest} (he : cp.entries[ref]? = some e) :
    cp.chronicle r = e.annal := by
  have hentry : cp.entry? r = some e := entry?_eq_some.2 ⟨ref, hr, he⟩
  simp [ControlPlaneApplication.chronicle, hentry]

theorem Inv.annals (h : Inv cp) : Annals cp.registry cp.chronicle cp.reports cp :=
  ⟨h.linked, fun _ _ _ hr he => (chronicle_eq hr he).symm, rfl⟩

/-- the operation writes each registered request once at most, registers what it says, and reports what it says -/
structure Recounts (cfg : Settings) (cp : ControlPlaneApplication) (o : Op) (cp' : ControlPlaneApplication) : Prop where
  reports : cp'.reports = cp.reports ++ cp.overview.reports cfg o
  annals : ∃ R H, Annals R H cp'.reports cp' ∧
    (∀ r ref, cp.registry.get? r = some ref → ∃ st, H r = (cp.chronicle r).become st) ∧
    ∀ r, cp.registry.get? r = none → (∃ ref, R.get? r = some ref) → o.Born r (H r)

theorem Annals.recounts (cfg : Settings) {o : Op} {H : Chronicle}
    (h : Annals cp.registry H (cp.reports ++ cp.overview.reports cfg o) cp')
    (hstep : ∀ r, ∃ st, H r = (cp.chronicle r).become st) : Recounts cfg cp o cp' := by
  refine ⟨h.reports, cp.registry, H, h.reports ▸ h, fun r _ _ => hstep r, fun r hr hr' => ?_⟩
  obtain ⟨ref, hr'⟩ := hr'
  rw [hr] at hr'
  cases hr'

theorem Chronicle.become_steps (H : Chronicle) (r : UUID) (st : Status) (r' : UUID) :
    ∃ st', H.become r st r' = (H r').become st' := by
  by_cases hid : r' = r
  · subst hid
    exact ⟨st, Chronicle.become_self H r' st⟩
  · exact ⟨(H r').status, (Chronicle.become_ne H st hid).trans (Annal.become_self _).symm⟩

theorem Chronicle.same_steps (H : Chronicle) (r : UUID) : ∃ st, H r = (H r).become st :=
  ⟨(H r).status, (Annal.become_self _).symm⟩

theorem Chronicle.timedOut_steps (H : Chronicle) (ids : List UUID) (r : UUID) :
    ∃ st, H.timedOut ids r = (H r).become st := by
  by_cases hid : r ∈ ids
  · exact ⟨⟨.timedOut, some .queueTimeout⟩, if_pos hid⟩
  · exact ⟨(H r).status, (if_neg hid).trans (Annal.become_self _).symm⟩

/-- nothing is reported and no status changes -/
theorem Inv.recounts_silent (cfg : Settings) (h : Inv cp) {α : Type} {x : ControlPlaneM α} {o : Op}
    (hx : ∀ R H T, Keeps (Annals R H T) x) (hnone : cp.overview.reports cfg o = []) :
      Recounts cfg cp o (x.final cp) := by
  refine Annals.recounts cfg ?_ cp.chronicle.same_steps
  rw [hnone, List.append_nil]
  exact final_keeps (hx _ _ _) h.annals

/-- an operation on one id, which is not registered, or has a status -/
theorem Inv.recounts_onStatus (cfg : Settings) (h : Inv cp) {α : Type} {x : ControlPlaneM α} {o : Op}
    {f : Status → List Report} (hreports : cp.overview.reports cfg o = (cp.overview.status r).elim [] f)
    (hunknown : cp.registry.get? r = none → EStateM.run x cp = .error (.requestNotFound r) cp)
    (hknown : ∀ st, cp.overview.status r = some st →
      ∃ H, Annals cp.registry H (cp.reports ++ f st) (x.final cp) ∧ ∀ r', ∃ st', H r' = (cp.chronicle r').become st') :
    Recounts cfg cp o (x.final cp) := by
  cases hs : cp.overview.status r with
  | none =>
    rw [final_error (hunknown ((overview_status_eq_none h).1 hs))]
    refine Annals.recounts cfg ?_ cp.chronicle.same_steps
    rw [hreports, hs, Option.elim_none, List.append_nil]
    exact h.annals
  | some st =>
    obtain ⟨H, hH, hstep⟩ := hknown st hs
    refine Annals.recounts cfg ?_ hstep
    rw [hreports, hs]
    exact hH

theorem Inv.chronicle_status (h : Inv cp) {st : Status} (hs : cp.overview.status r = some st) :
    (cp.chronicle r).status = st := by
  obtain ⟨ref, e, hr, he, -, hst⟩ := h.entry hs
  rw [chronicle_eq hr he]
  exact hst

theorem recounts_transition (cfg : Settings) (h : Inv cp) (r : UUID) (toState : RequestState) (now : Time)
    (batchId : Option UUID) (backendId : Option String) :
    Recounts cfg cp (.transition r toState now batchId backendId)
      ((transition r toState now batchId backendId).final cp) := by
  refine h.recounts_onStatus cfg rfl (fun hr => transition_unknown hr toState now batchId backendId) fun st hs => ?_
  have htriple := Core.triple_iff.1 (transition_annals r toState now batchId backendId) _ h.annals
  obtain ⟨hok, herr⟩ := transition_spec h hs toState now batchId backendId
  by_cases hallowed : isAllowedTransition st.state toState = true
  · obtain ⟨ref, cp', hrun, -⟩ := hok hallowed
    rw [hrun, h.chronicle_status hs] at htriple
    rw [final_ok hrun, if_pos hallowed]
    exact ⟨_, htriple.2, cp.chronicle.become_steps r _⟩
  · obtain ⟨cp', hrun, -⟩ := herr (by simpa using hallowed)
    rw [hrun] at htriple
    rw [final_error hrun, if_neg hallowed, List.append_nil]
    exact ⟨_, htriple, cp.chronicle.same_steps⟩

theorem recounts_markFailed (cfg : Settings) (h : Inv cp) (r : UUID) (reason : FailureReason) (message : String)
    (now : Time) (batchId : Option UUID) (backendId : Option String) :
    Recounts cfg cp (.markFailed r reason message now batchId backendId)
      ((markFailed r reason message now batchId backendId).final cp) := by
  refine h.recounts_onStatus cfg rfl (fun hr => markFailed_unknown hr reason message now batchId backendId)
    fun st hs => ?_
  have htriple := Core.triple_iff.1 (markFailed_annals r reason message now batchId backendId) _ h.annals
  obtain ⟨ref, cp', hrun, -, -⟩ := markFailed_spec h hs reason message now batchId backendId
  rw [hrun, h.chronicle_status hs] at htriple
  rw [final_ok hrun]
  exact ⟨_, htriple, cp.chronicle.become_steps r _⟩

theorem recounts_completeRequest (cfg : Settings) (h : Inv cp) (r : UUID)
    (completion : Option InferenceCompletionRecord)
    (now : Time) : Recounts cfg cp (.completeRequest r completion now)
      ((completeRequest r completion now).final cp) := by
  refine h.recounts_onStatus cfg rfl (fun hr => completeRequest_unknown hr completion now) fun st hs => ?_
  have htriple := Core.triple_iff.1 (completeRequest_annals r completion now) _ h.annals
  obtain ⟨hok, herr⟩ := completeRequest_spec h hs completion now
  by_cases hst : st.state = .submitted ∨ st.state = .streaming
  · obtain ⟨ref, cp', hrun, -⟩ := hok hst
    rw [hrun] at htriple
    rw [final_ok hrun, if_pos hst]
    exact ⟨_, htriple, cp.chronicle.become_steps r _⟩
  · have hrun := herr hst
    rw [hrun] at htriple
    rw [final_error hrun, if_neg hst, List.append_nil]
    exact ⟨_, htriple, cp.chronicle.same_steps⟩

theorem recounts_cancel (cfg : Settings) (h : Inv cp) (r : UUID) (now : Time) :
    Recounts cfg cp (.cancel r now) ((cancel r now).final cp) := by
  have hreports : cp.overview.reports cfg (.cancel r now) = (cp.overview.status r).elim [] fun _ => [] := by
    cases cp.overview.status r <;> rfl
  refine h.recounts_onStatus cfg hreports (fun hr => cancel_unknown hr now) fun st hs => ?_
  have htriple := Core.triple_iff.1 (cancel_annals r now) _ h.annals
  obtain ⟨hok, hno⟩ := cancel_spec h hs now
  rw [List.append_nil]
  by_cases hst : st.state = .submitted ∨ st.state = .streaming
  · obtain ⟨ref, cp', hrun, -⟩ := hok hst
    rw [hrun] at htriple
    rw [final_ok hrun]
    refine ⟨_, htriple, fun r' => ?_⟩
    split_ifs
    · exact cp.chronicle.become_steps r _ r'
    · exact cp.chronicle.same_steps r'
  · obtain ⟨ref, hrun⟩ := hno hst
    rw [hrun] at htriple
    rw [final_ok hrun]
    refine ⟨_, htriple, fun r' => ?_⟩
    split_ifs
    · exact cp.chronicle.become_steps r _ r'
    · exact cp.chronicle.same_steps r'

theorem recounts_runAdmission (cfg : Settings) (h : Inv cp) (r : UUID) (checks : List (Except String AdmissionResult))
    (now : Time) : Recounts cfg cp (.runAdmission r checks now) ((runAdmission r checks now).final cp) := by
  refine h.recounts_onStatus cfg rfl (fun hr => runAdmission_unknown hr checks now) fun st hs => ?_
  obtain ⟨ref, hr, hstart⟩ := startAdmission_spec h hs
  by_cases hst : st.state = .validated
  · rw [if_pos hst] at hstart
    have hrun : (runAdmission r checks now).final cp = (finishAdmission r ref (evaluate checks) now).final cp := by
      simp only [ControlPlaneM.final, runAdmission, EStateM.run_bind, hstart]
    rw [hrun, if_pos hst]
    cases hres : evaluate checks with
    | error message =>
      have hraised : EStateM.run (finishAdmission r ref (.error message) now) cp =
          .error (.checkRaised message) cp := rfl
      rw [final_error hraised]
      refine ⟨_, ?_, cp.chronicle.same_steps⟩
      simpa [Except.toOption] using h.annals
    | ok a =>
      have htriple := Core.triple_iff.1 (finishAdmission_annals hr a now) _ h.annals
      rcases finishAdmission_spec h hr hs hst (.ok a) now with ⟨message, hbad, -⟩ | ⟨a', cp', -, -, hrun', -⟩ |
        ⟨a', cp', -, -, hrun', -⟩
      · cases hbad
      · rw [hrun'] at htriple
        rw [final_ok hrun']
        exact ⟨_, htriple.2, cp.chronicle.become_steps r _⟩
      · rw [hrun'] at htriple
        rw [final_ok hrun']
        exact ⟨_, htriple.2, cp.chronicle.become_steps r _⟩
  · rw [if_neg hst] at hstart
    have hrun : EStateM.run (runAdmission r checks now) cp = .error (.invalidTransition r st.state .admitted) cp := by
      simp only [runAdmission, EStateM.run_bind, hstart]
    rw [final_error hrun, if_neg hst, List.append_nil]
    exact ⟨_, h.annals, cp.chronicle.same_steps⟩

theorem recounts_enqueueFromAdmitted (cfg : Settings) (h : Inv cp) (r : UUID) (now : Time) :
    Recounts cfg cp (.enqueueFromAdmitted r now) ((enqueueFromAdmitted cfg.queue r now).final cp) := by
  refine h.recounts_onStatus cfg rfl (fun hr => enqueueFromAdmitted_unknown hr now) fun st hs => ?_
  rcases enqueueFromAdmitted_spec cfg.queue h hs now with ⟨hst, message, hrun⟩ | ⟨hst, ⟨hwaits, message, cp', hrun, -⟩ |
    ⟨ref, cp', hrun, -, hw, -⟩⟩
  · rw [final_error hrun, if_neg fun hc => hst hc.1, List.append_nil]
    exact ⟨_, h.annals, cp.chronicle.same_steps⟩
  · -- it waits already: the late items have left
    obtain ⟨ref, e, hr, he, hid, hest⟩ := h.entry hs
    obtain ⟨cp₁, hq, hl, hcases⟩ := enqueue_spec cfg.queue h hr he hid now
    have hstate : e.state = .admitted := (congrArg Status.state hest).trans hst
    rcases hcases with ⟨-, message', hrun'⟩ | ⟨hno, -⟩ | ⟨hno, -⟩
    · have hrun₁ : EStateM.run (enqueueFromAdmitted cfg.queue r now) cp = .error (.valueError message') cp₁ := by
        simp only [enqueueFromAdmitted, EStateM.run_bind, getRef_run hr, derefEntry_run he, ne_eq, hstate,
          not_true_eq_false, if_false, hrun']
      rw [final_error hrun₁, if_neg fun hc => hc.2 hwaits, List.append_nil]
      exact ⟨_, hq.annals h.annals (hl.inv.linked_of hl.registry), cp.chronicle.same_steps⟩
    · exact absurd (hl.overview ▸ hwaits) hno
    · exact absurd (hl.overview ▸ hwaits) hno
  · obtain ⟨ref', cp₁, hrun', ha⟩ := enqueueFromAdmitted_annals cfg.queue h h.annals hs hst now hw
    rw [final_ok hrun', if_pos ⟨hst, hw⟩]
    exact ⟨_, ha, cp.chronicle.become_steps r _⟩

theorem recounts_processTimeouts (cfg : Settings) (h : Inv cp) (now : Time) :
    Recounts cfg cp (.processTimeouts now) ((processTimeouts cfg.queue now).final cp) := by
  obtain ⟨refs, cp', hrun, ha⟩ := processTimeouts_annals cfg.queue h h.annals now
  rw [final_ok hrun]
  exact Annals.recounts cfg ha (cp.chronicle.timedOut_steps _)

theorem recounts_register (cfg : Settings) (h : Inv cp) (submit : SubmitRequest)
    (initialState : RequestState) (now : Time) (hfresh : cp.registry.get? submit.inferenceRequest.requestId = none) :
    Recounts cfg cp (.register submit initialState now) ((register cfg submit initialState now).final cp) := by
  have hs := (overview_status_eq_none h).2 hfresh
  rcases register_spec cfg h submit initialState now hs with ⟨err, hrun, hcases⟩
    | ⟨ref, cp', hrun, -, -, hinit, hroom, -⟩
  · rw [final_error hrun]
    refine Annals.recounts cfg ?_ cp.chronicle.same_steps
    have hrefused : (initialState ≠ .received ∧ initialState ≠ .validated) ∨
        cfg.registryMaxEntries ≤ cp.overview.registered :=
      hcases.imp id And.left
    rw [Overview.reports, if_pos hrefused, List.append_nil]
    exact h.annals
  · rw [final_ok hrun]
    have ha := register_annals cfg h.annals submit initialState now hrun
    have hreports : cp.overview.reports cfg (.register submit initialState now) =
        [registrationReport submit.inferenceRequest.requestId initialState now] :=
      if_neg fun hc => hc.elim hinit fun hfull => absurd hroom (not_lt.2 hfull)
    refine ⟨hreports ▸ ha.reports, _, _, ha.reports ▸ ha, fun r ref₁ hr => ?_, fun r hr hnew => ?_⟩
    · have hne : r ≠ submit.inferenceRequest.requestId := by
        rintro rfl
        rw [hfresh] at hr
        cases hr
      rw [Chronicle.born, Function.update_of_ne hne]
      exact cp.chronicle.same_steps r
    · obtain ⟨ref₁, hnew⟩ := hnew
      rw [Dict.get?_set] at hnew
      split_ifs at hnew with hid
      · refine ⟨hid.symm, ?_⟩
        rw [hid, Chronicle.born, Function.update_self]
      · rw [hr] at hnew
        cases hnew

/-- the second half of an intake -/
theorem processFromAdmission_annals (cfg : Settings) (h : Inv cp) (ha : Annals R H T cp)
    (hr : cp.registry.get? r = some ref)
    {st : Status} (hs : cp.overview.status r = some st) (hst : st = ⟨.validated, none⟩) (hw : ¬cp.overview.waits r)
    (result : Except String AdmissionResult) (now : Time) :
    ∃ cp' st', EStateM.run (processFromAdmission cfg r ref result now) cp = .ok ref cp' ∧
      Annals R (match result with
        | .error _ => H.become r st'
        | .ok a => (H.become r (judgedStatus st a)).become r st')
            (T ++ cp.overview.admissionReports cfg r result now) cp' := by
  rw [processFromAdmission_eq]
  have hr' := ha.get?.1 hr
  have hstH : (H r).status = st := by
    obtain ⟨ref', e, hre, he, -, hest⟩ := h.entry hs
    rw [hr] at hre
    cases hre
    exact (ha.status hr' he).trans hest
  cases result with
  | error message =>
    have hraised : EStateM.run (fromAdmission cfg r ref (.error message) now) cp =
        .error (.checkRaised message) cp := rfl
    have htriple := Core.triple_iff.1 (markFailed_annals r .internalError
      s!"control plane error: {(ControlPlaneError.checkRaised message).message}" now none none) _ ha
    obtain ⟨ref', cp', hrun, hr₁, -⟩ := markFailed_spec h hs .internalError
      s!"control plane error: {(ControlPlaneError.checkRaised message).message}" now none none
    rw [hr] at hr₁
    cases hr₁
    rw [hrun, hstH, hst] at htriple
    refine ⟨cp', ⟨.failed, some .internalError⟩, ?_, htriple⟩
    rw [guarded_error (.checkRaised message) cp hraised (by simp) (by simp), EStateM.run_bind, hrun]
    rfl
  | ok a =>
    obtain ⟨cp₁, hfinish, hcases⟩ := fromAdmission_steps cfg h hr hs (congrArg Status.state hst) a now
    have htriple := Core.triple_iff.1 (finishAdmission_annals hr' a now) _ ha
    rw [hfinish, hstH] at htriple
    have ha₁ := htriple.2
    rcases hcases with ⟨haccept, hl, hsame⟩ | ⟨hdecline, -, hsame⟩
    · have hs₁ : cp₁.overview.status r = some ⟨.admitted, st.reason⟩ := by
        rw [hl.overview]
        exact Overview.put_status_self _ _ _
      have hexpire : (cp₁.overview.expire cfg.queue now).waiting = (cp.overview.expire cfg.queue now).waiting := by
        rw [hl.overview]
        rfl
      have hw₁ : ¬(cp₁.overview.expire cfg.queue now).waits r := by
        rw [Overview.waits, hexpire]
        rintro ⟨p, hp, hpr⟩
        exact hw ⟨p, List.mem_of_mem_filter hp, hpr⟩
      obtain ⟨ref', cp₂, hrun₂, ha₂⟩ := enqueueFromAdmitted_annals cfg.queue hl.inv ha₁ hs₁ rfl now hw₁
      obtain ⟨cp₃, hfrom, -⟩ := fromAdmission_spec cfg h hr hs (congrArg Status.state hst) hw a now
      rw [hsame, hrun₂] at hfrom
      cases hfrom
      refine ⟨cp₂, queuedStatus (cp.overview.full cfg now) ⟨.admitted, st.reason⟩, ?_, ?_⟩
      · exact guarded_ok (hsame.trans hrun₂) r now id
      · simp only [hexpire, List.append_assoc] at ha₂
        rw [Overview.admissionReports, if_pos haccept]
        exact ha₂
    · refine ⟨cp₁, judgedStatus st a, guarded_ok hsame r now id, ?_⟩
      rw [Overview.admissionReports, if_neg hdecline]
      change Annals R ((H.become r (judgedStatus st a)).become r (judgedStatus st a)) _ cp₁
      rw [Chronicle.become_become _ _ rfl]
      exact ha₁

theorem recounts_processThroughQueued (cfg : Settings) (h : Inv cp) (submit : SubmitRequest)
    (checks : List (Except String AdmissionResult)) (now now' : Time)
    (hfresh : cp.registry.get? submit.inferenceRequest.requestId = none) :
    Recounts cfg cp (.processThroughQueued submit checks now now')
      ((processThroughQueued cfg submit checks now now').final cp) := by
  set r := submit.inferenceRequest.requestId with hrdef
  have hs := (overview_status_eq_none h).2 hfresh
  have hw := not_waits_of_unregistered h hs
  obtain ⟨refs, cp₁, hrun₁, hl₁, hcases⟩ := processUntilAdmission_steps cfg h submit now hs
  obtain ⟨refs', cp₁', hrun₁', ha₁⟩ := processTimeouts_annals cfg.queue h h.annals now
  rw [hrun₁] at hrun₁'
  cases hrun₁'
  rcases hcases with ⟨hfull, hrun⟩ | ⟨hroom, ref, cp₂, cp₃, hrun₂, hinv₂, hreg₂, ⟨ref', hrun₃⟩, hl₃, hrun⟩
  · have hrun' : EStateM.run (processThroughQueued cfg submit checks now now') cp =
        .error (.requestNotFound r) cp₁ := by
      simp only [processThroughQueued, EStateM.run_bind, hrun, hrdef]
    rw [final_error hrun']
    refine Annals.recounts cfg ?_ (cp.chronicle.timedOut_steps (cp.overview.lateIds cfg.queue now))
    rw [Overview.reports, if_pos hfull, List.append_nil]
    exact ha₁
  · have hr₃ : cp₃.registry.get? r = some ref := by
      rw [hl₃.registry, hreg₂]
      exact Dict.get?_set_self _ _ _
    have hs₃ : cp₃.overview.status r = some ⟨.validated, none⟩ := by
      rw [hl₃.overview]
      exact Overview.register_status_self _ _ _
    have hw₃ : ¬cp₃.overview.waits r := by
      rw [hl₃.overview]
      exact Overview.processTimeouts_waits hw
    have ha₂ := register_annals cfg ha₁ submit .received now hrun₂
    rw [← hrdef] at ha₂
    have htriple := Core.triple_iff.1 (transition_annals r .validated now none none) _ ha₂
    rw [hrun₃] at htriple
    obtain ⟨cp₄, st', hrun₄, ha₄⟩ := processFromAdmission_annals cfg hl₃.inv htriple.2 hr₃ hs₃ rfl hw₃
        (evaluate checks) now'
    have hrun' : EStateM.run (processThroughQueued cfg submit checks now now') cp = .ok ref cp₄ := by
      simp only [processThroughQueued, EStateM.run_bind, hrun, ← hrdef, hrun₄]
    rw [final_ok hrun']
    have hfull : ¬cfg.registryMaxEntries ≤ cp.overview.registered := not_le.2 hroom
    have hreports : cp₄.reports = cp.reports ++
        cp.overview.reports cfg (.processThroughQueued submit checks now now') := by
      have hpart : cp₃.overview.admissionReports cfg r (evaluate checks) now' =
          (cp.overview.processTimeouts cfg.queue now).admissionReports cfg r (evaluate checks) now' := by
        rw [hl₃.overview]
        rfl
      rw [ha₄.reports, hpart, Overview.reports, if_neg hfull]
      simp only [List.append_assoc]
      rfl
    refine ⟨hreports, _, _, ha₄.reports ▸ ha₄, fun r₁ ref₁ hr₁ => ?_, fun r₁ hr₁ hnew => ?_⟩
    · have hne : r₁ ≠ r := by
        rintro rfl
        rw [hfresh] at hr₁
        cases hr₁
      obtain ⟨st₁, hst₁⟩ := cp.chronicle.timedOut_steps (cp.overview.lateIds cfg.queue now) r₁
      refine ⟨st₁, ?_⟩
      have hborn : ((cp.chronicle.timedOut (cp.overview.lateIds cfg.queue now)).born r ⟨[], ⟨.received, none⟩⟩) r₁ =
          (cp.chronicle r₁).become st₁ := (Function.update_of_ne hne _ _).trans hst₁
      cases evaluate checks with
      | error message =>
        simp only [Chronicle.become_ne _ _ hne]
        exact hborn
      | ok a =>
        simp only [Chronicle.become_ne _ _ hne]
        exact hborn
    · obtain ⟨ref₁, hnew⟩ := hnew
      rw [Dict.get?_set] at hnew
      split_ifs at hnew with hid
      · refine ⟨hid.symm, st', ?_⟩
        rw [hid]
        cases evaluate checks with
        | error message =>
          simp only [Chronicle.become_self, Chronicle.born, Function.update_self, Overview.intakeAnnal]
          rfl
        | ok a =>
          simp only [Chronicle.become_self, Chronicle.born, Function.update_self, Overview.intakeAnnal]
          rfl
      · rw [hr₁] at hnew
        cases hnew

/-- every operation on a fresh id, or on a registered one, recounts -/
theorem step_recounts (cfg : Settings) (h : Inv cp) {o : Op} (hf : Fresh cp o) : Recounts cfg cp o (cp.step cfg o) := by
  cases o with
  | register submit initialState now => exact recounts_register cfg h submit initialState now hf
  | transition r toState now batchId backendId => exact recounts_transition cfg h r toState now batchId backendId
  | runAdmission r checks now => exact recounts_runAdmission cfg h r checks now
  | enqueueFromAdmitted r now => exact recounts_enqueueFromAdmitted cfg h r now
  | processThroughQueued submit checks now now' => exact recounts_processThroughQueued cfg h submit checks now now' hf
  | processTimeouts now => exact recounts_processTimeouts cfg h now
  | markFailed r reason message now batchId backendId =>
    exact recounts_markFailed cfg h r reason message now batchId backendId
  | completeRequest r completion now => exact recounts_completeRequest cfg h r completion now
  | cancel r now => exact recounts_cancel cfg h r now
  | dequeueNext now => exact Annals.recounts cfg (dequeueNext_annals cfg h h.annals now) cp.chronicle.same_steps
  | remove r now => exact Annals.recounts cfg (remove_annals h h.annals r now) cp.chronicle.same_steps
  | peek now => exact h.recounts_silent cfg (fun _ _ _ => peek_annals cfg.queue now) rfl
  | listItems now => exact h.recounts_silent cfg (fun _ _ _ => listItems_annals cfg.queue now) rfl
  | clear => exact h.recounts_silent cfg (fun _ _ _ => clear_annals) rfl
  | getQueueSnapshot queueName now =>
    exact h.recounts_silent cfg (fun _ _ _ => getQueueSnapshot_annals cfg.queue queueName now) rfl
  | getQueueStatistics now => exact h.recounts_silent cfg (fun _ _ _ => getQueueStatistics_annals cfg.queue now) rfl
  | listQueuedRequests now => exact h.recounts_silent cfg (fun _ _ _ => listQueuedRequests_annals cfg.queue now) rfl
  | listQueueItems limit now => exact h.recounts_silent cfg (fun _ _ _ => listQueueItems_annals cfg.queue limit now) rfl

end InferencePlatform.ControlPlane
