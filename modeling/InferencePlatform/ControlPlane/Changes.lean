/-
What one operation does to one request, and what it reports about it.

`Change` lists what an operation can do to a registered request, with the notices about the request and its new status;
`Birth` what it can do to a request that it registers. An operation says nothing about a request that stays
unregistered.
- `step_change`, `step_birth`, `step_unborn`: every operation that registers no id twice is on these lists.
Whatever holds of what is reported, compared with what the registry holds, is proved by cases on the two lists.
-/
import InferencePlatform.ControlPlane.Reports

namespace InferencePlatform.ControlPlane

open InferencePlatform.Core (Dict)

variable {cfg : Settings} {o : Overview} {cp : ControlPlaneApplication} {r r' : UUID} {st : Status}

/-! ## Notices about one request -/

/-- what a list of reports says about a request -/
def about (r : UUID) (reports : List Report) : List Notice :=
  (reports.filter fun report => report.requestId = r).map Report.notice

@[simp] theorem about_nil (r : UUID) : about r [] = [] := rfl

@[simp] theorem about_append (r : UUID) (reports reports' : List Report) :
    about r (reports ++ reports') = about r reports ++ about r reports' := by
  simp [about]

theorem about_cons_self (now : Time) (notice : Notice) (reports : List Report) :
    about r (⟨r, now, notice⟩ :: reports) = notice :: about r reports := by
  simp [about]

theorem about_eq_nil {reports : List Report} (h : ∀ report ∈ reports, report.requestId ≠ r) : about r reports = [] := by
  rw [about, List.filter_eq_nil_iff.2 fun report hmem => by simpa using h report hmem, List.map_nil]

/-- an event of the queue that concerns no state -/
def Notice.Quiet : Notice → Prop
  | .queue eventType _ => eventType = .requestEnqueued ∨ eventType = .requestDequeued ∨ eventType = .queueRemoved
  | .lifecycle .. => False

def transitionNotices (toState : RequestState) (reason : Option FailureReason) : List Notice :=
  match transitionEvent toState with
  | none => []
  | some (eventType, withReason) => [.lifecycle eventType toState (if withReason then reason else none)]

theorem about_transitionReports (r : UUID) (toState : RequestState) (reason : Option FailureReason) (now : Time) :
    about r (transitionReports r toState reason now) = transitionNotices toState reason := by
  unfold transitionReports transitionNotices
  cases transitionEvent toState with
  | none => rfl
  | some p => exact about_cons_self now _ []

theorem requestId_transitionReports (r : UUID) (toState : RequestState) (reason : Option FailureReason) (now : Time) :
    ∀ report ∈ transitionReports r toState reason now, report.requestId = r := by
  unfold transitionReports
  cases transitionEvent toState with
  | none => simp
  | some p => simp

/-- the notice of a failure that reaches a request in this status -/
def failureNotice (st : Status) : Notice :=
  .lifecycle .requestFailed .failed (if isAllowedTransition st.state .failed then st.reason else none)

def validationNotices : List Notice :=
  [.lifecycle .requestReceived .received none, .lifecycle .requestValidated .validated none]

/-- the operations that time requests out, and when -/
def Op.expiring : Op → Option Time
  | .processTimeouts now => some now
  | .processThroughQueued _ _ now _ => some now
  | _ => none

/-! ## The two lists -/

/-- what an operation can do to a registered request: what is said about it, and its new status -/
inductive Change (cfg : Settings) (o : Overview) (r : UUID) (st : Status) : Op → List Notice → Status → Prop
  | kept {op : Op} {notices : List Notice} (h : ∀ n ∈ notices, n.Quiet) : Change cfg o r st op notices st
  | moved {toState : RequestState} {now : Time} {batchId : Option UUID} {backendId : Option String}
      (h : isAllowedTransition st.state toState = true) :
      Change cfg o r st (.transition r toState now batchId backendId) (transitionNotices toState st.reason)
        ⟨toState, st.reason⟩
  | admitted {checks : List (Except String AdmissionResult)} {now : Time} {a : AdmissionResult}
      (hst : st.state = .validated) (hres : evaluate checks = .ok a) (h : a.outcome = .accept) :
      Change cfg o r st (.runAdmission r checks now) [.lifecycle .requestAdmitted .admitted none] ⟨.admitted, st.reason⟩
  | declined {checks : List (Except String AdmissionResult)} {now : Time} {a : AdmissionResult}
      (hst : st.state = .validated) (hres : evaluate checks = .ok a) (h : a.outcome ≠ .accept) :
      Change cfg o r st (.runAdmission r checks now) [.lifecycle .requestRejected .rejected none]
        ⟨.rejected, some .queueFull⟩
  | queued {now : Time} (hst : st.state = .admitted) :
      Change cfg o r st (.enqueueFromAdmitted r now)
        [.queue .requestEnqueued none, .lifecycle .requestQueued .queued none] ⟨.queued, st.reason⟩
  | refused {now : Time} (hst : st.state = .admitted) (hw : ¬(o.expire cfg.queue now).waits r) (h : o.full cfg now) :
      Change cfg o r st (.enqueueFromAdmitted r now) [.queue .queueFull (some "queue_full")]
        ⟨.rejected, some .queueFull⟩
  | timedOut {op : Op} {now : Time} (hop : op.expiring = some now) (h : r ∈ o.lateIds cfg.queue now) :
      Change cfg o r st op [.queue .queueTimeout none] ⟨.timedOut, some .queueTimeout⟩
  | failed {reason : FailureReason} {message : String} {now : Time} {batchId : Option UUID}
    {backendId : Option String} :
      Change cfg o r st (.markFailed r reason message now batchId backendId) [failureNotice st] ⟨.failed, some reason⟩
  | completed {completion : Option InferenceCompletionRecord} {now : Time}
      (hst : st.state = .submitted ∨ st.state = .streaming) :
      Change cfg o r st (.completeRequest r completion now)
        [.lifecycle .requestCompleted .completed none, .lifecycle .requestCompleted .completed none]
        ⟨.completed, st.reason⟩
  | cancelled {now : Time} (hst : st.state = .submitted ∨ st.state = .streaming) :
      Change cfg o r st (.cancel r now) [] ⟨.cancelled, st.reason⟩

/-- what an operation can do to a request that it registers: what is said about it, and what it has been through -/
inductive Birth (cfg : Settings) (o : Overview) (r : UUID) : Op → List Notice → Annal → Prop
  | registered {submit : SubmitRequest} {initialState : RequestState} {now : Time}
      (hid : submit.inferenceRequest.requestId = r) (h : initialState = .received ∨ initialState = .validated) :
      Birth cfg o r (.register submit initialState now)
        [.lifecycle (if initialState = .received then .requestReceived else .requestValidated) initialState none]
        ⟨[], ⟨initialState, none⟩⟩
  | raised {submit : SubmitRequest} {checks : List (Except String AdmissionResult)} {now now' : Time} {message : String}
      (hid : submit.inferenceRequest.requestId = r) (hroom : o.registered < cfg.registryMaxEntries)
      (hres : evaluate checks = .error message) :
      Birth cfg o r (.processThroughQueued submit checks now now')
        (validationNotices ++ [.lifecycle .requestFailed .failed none])
        ⟨[.received, .validated], ⟨.failed, some .internalError⟩⟩
  | declined {submit : SubmitRequest} {checks : List (Except String AdmissionResult)} {now now' : Time}
      {a : AdmissionResult} (hid : submit.inferenceRequest.requestId = r)
      (hroom : o.registered < cfg.registryMaxEntries)
      (hres : evaluate checks = .ok a) (h : a.outcome ≠ .accept) :
      Birth cfg o r (.processThroughQueued submit checks now now')
        (validationNotices ++ [.lifecycle .requestRejected .rejected none])
        ⟨[.received, .validated], ⟨.rejected, some .queueFull⟩⟩
  | refused {submit : SubmitRequest} {checks : List (Except String AdmissionResult)} {now now' : Time}
      {a : AdmissionResult} (hid : submit.inferenceRequest.requestId = r)
      (hroom : o.registered < cfg.registryMaxEntries)
      (hres : evaluate checks = .ok a) (h : a.outcome = .accept)
      (hfull : (o.processTimeouts cfg.queue now).full cfg now') :
      Birth cfg o r (.processThroughQueued submit checks now now')
        (validationNotices ++ [.lifecycle .requestAdmitted .admitted none, .queue .queueFull (some "queue_full")])
        ⟨[.received, .validated, .admitted], ⟨.rejected, some .queueFull⟩⟩
  | queued {submit : SubmitRequest} {checks : List (Except String AdmissionResult)} {now now' : Time}
      {a : AdmissionResult} (hid : submit.inferenceRequest.requestId = r)
      (hroom : o.registered < cfg.registryMaxEntries)
      (hres : evaluate checks = .ok a) (h : a.outcome = .accept) :
      Birth cfg o r (.processThroughQueued submit checks now now')
        (validationNotices ++ [.lifecycle .requestAdmitted .admitted none, .queue .requestEnqueued none,
          .lifecycle .requestQueued .queued none])
        ⟨[.received, .validated, .admitted], ⟨.queued, none⟩⟩

/-! ## The lists are complete -/

/-- whoever waits is registered, and waits once -/
structure Overview.Sound (o : Overview) : Prop where
  waits : ∀ r, o.waits r → o.status r ≠ none
  nodup : (o.waiting.map Prod.fst).Nodup

theorem Inv.sound (h : Inv cp) : cp.overview.Sound where
  waits _ hw hs := not_waits_of_unregistered h hs hw
  nodup := h.nodup_waiting

namespace Overview

theorem mem_waiting_of_late {now : Time} (h : r ∈ o.lateIds cfg.queue now) : o.waits r := by
  obtain ⟨p, hp, rfl⟩ := List.mem_map.1 h
  exact ⟨p, List.mem_of_mem_filter hp, rfl⟩

theorem about_timeoutReports (h : o.Sound) (r : UUID) (now : Time) :
    about r (o.timeoutReports cfg.queue now) =
      if r ∈ o.lateIds cfg.queue now then [.queue .queueTimeout none] else [] := by
  have hnodup : (o.lateIds cfg.queue now).Nodup := h.nodup.sublist (List.filter_sublist.map Prod.fst)
  have habout : ∀ ids : List UUID, about r (ids.map fun r => (⟨r, now, .queue .queueTimeout none⟩ : Report)) =
      List.replicate (ids.count r) (.queue .queueTimeout none) := by
    intro ids
    induction ids with
    | nil => rfl
    | cons r' ids ih =>
      by_cases hr : r' = r
      · subst hr
        rw [List.map_cons, about_cons_self, ih, List.count_cons_self, List.replicate_succ]
      · have hskip : about r ((⟨r', now, .queue .queueTimeout none⟩ : Report) :: ids.map fun r =>
            ⟨r, now, .queue .queueTimeout none⟩) =
            about r (ids.map fun r => (⟨r, now, .queue .queueTimeout none⟩ : Report)) := by
          simp [about, hr]
        rw [List.map_cons, hskip, ih, List.count_cons_of_ne hr]
  rw [timeoutReports, habout]
  split_ifs with hmem
  · rw [List.count_eq_one_of_mem hnodup hmem]
    rfl
  · rw [List.count_eq_zero_of_not_mem hmem]
    rfl

/-- expiry, for a request that is registered already -/
theorem change_expiry (cfg : Settings) (h : o.Sound) (hs : o.status r = some st) {op : Op} {now : Time}
    (hop : op.expiring = some now) :
    ∃ st', (o.processTimeouts cfg.queue now).status r = some st' ∧
      Change cfg o r st op (about r (o.timeoutReports cfg.queue now)) st' := by
  rw [about_timeoutReports h]
  split_ifs with hmem
  · exact ⟨_, if_pos hmem, .timedOut hop hmem⟩
  · exact ⟨st, (if_neg hmem).trans hs, .kept (by simp)⟩

/-- nothing is said about the request, and its status stays -/
theorem change_none {op : Op} (hs : o.status r = some st) (hstatus : (o.step cfg op).status r = o.status r)
    (habout : about r (o.reports cfg op) = []) :
    ∃ st', (o.step cfg op).status r = some st' ∧ Change cfg o r st op (about r (o.reports cfg op)) st' := by
  refine ⟨st, hstatus.trans hs, ?_⟩
  rw [habout]
  exact .kept (by simp)

theorem onStatus_status {f : Status → Overview} (h : ∀ st, o.status r' = some st → (f st).status r = o.status r) :
    (o.onStatus r' f).status r = o.status r := by
  unfold onStatus
  cases hs : o.status r' with
  | none => rfl
  | some st => exact h st hs

theorem about_elim {f : Status → List Report} (h : ∀ st, ∀ report ∈ f st, report.requestId ≠ r) :
    about r ((o.status r').elim [] f) = [] := by
  cases o.status r' with
  | none => rfl
  | some st => exact about_eq_nil (h st)

/-- an operation on another id -/
theorem change_other {op : Op} {f : Status → Overview} {g : Status → List Report} (hs : o.status r = some st)
    (hstep : o.step cfg op = o.onStatus r' f) (hreports : o.reports cfg op = (o.status r').elim [] g)
    (hf : ∀ st, (f st).status r = o.status r) (hg : ∀ st, ∀ report ∈ g st, report.requestId ≠ r) :
    ∃ st', (o.step cfg op).status r = some st' ∧ Change cfg o r st op (about r (o.reports cfg op)) st' := by
  refine change_none hs ?_ ?_
  · rw [hstep]
    exact onStatus_status fun st _ => hf st
  · rw [hreports]
    exact about_elim hg

/-- an operation on the request itself -/
theorem change_own {op : Op} {f : Status → Overview} {g : Status → List Report} (st' : Status)
    (hs : o.status r = some st)
    (hstep : o.step cfg op = o.onStatus r f) (hreports : o.reports cfg op = (o.status r).elim [] g)
    (hf : (f st).status r = some st') (hg : Change cfg o r st op (about r (g st)) st') :
    ∃ st', (o.step cfg op).status r = some st' ∧ Change cfg o r st op (about r (o.reports cfg op)) st' := by
  refine ⟨st', ?_, ?_⟩
  · rw [hstep, onStatus_some hs]
    exact hf
  · rw [hreports, hs]
    exact hg

theorem change_transition (hs : o.status r = some st) (r' : UUID) (toState : RequestState) (now : Time)
    (batchId : Option UUID) (backendId : Option String) :
    ∃ st', (o.step cfg (.transition r' toState now batchId backendId)).status r = some st' ∧
      Change cfg o r st (.transition r' toState now batchId backendId)
        (about r (o.reports cfg (.transition r' toState now batchId backendId))) st' := by
  by_cases hid : r' = r
  · subst hid
    by_cases hallowed : isAllowedTransition st.state toState = true
    · refine change_own ⟨toState, st.reason⟩ hs rfl rfl ?_ ?_
      · rw [if_pos hallowed]
        exact put_status_self _ _ _
      · rw [if_pos hallowed, about_transitionReports]
        exact .moved hallowed
    · refine change_own st hs rfl rfl ?_ ?_
      · rw [if_neg hallowed]
        exact hs
      · rw [if_neg hallowed]
        exact .kept (by simp)
  · refine change_other hs rfl rfl (fun st => ?_) fun st report hmem => ?_
    · split_ifs
      · exact put_status_ne o _ (Ne.symm hid)
      · rfl
    · split_ifs at hmem
      · exact (requestId_transitionReports _ _ _ _ report hmem).trans_ne hid
      · cases hmem

theorem change_runAdmission (hs : o.status r = some st) (r' : UUID) (checks : List (Except String AdmissionResult))
    (now : Time) :
    ∃ st', (o.step cfg (.runAdmission r' checks now)).status r = some st' ∧
      Change cfg o r st (.runAdmission r' checks now) (about r (o.reports cfg (.runAdmission r' checks now))) st' := by
  by_cases hid : r' = r
  · subst hid
    by_cases hst : st.state = .validated
    · cases hres : evaluate checks with
      | error message =>
        refine change_own st hs rfl rfl ?_ ?_
        · rw [if_pos hst, hres]
          exact hs
        · rw [if_pos hst, hres]
          exact .kept (by simp [Except.toOption])
      | ok a =>
        by_cases ha : a.outcome = .accept
        · refine change_own ⟨.admitted, st.reason⟩ hs rfl rfl ?_ ?_
          · rw [if_pos hst, hres, judged, if_pos ha]
            exact put_status_self _ _ _
          · rw [if_pos hst, hres]
            have habout : about r' ((Except.ok a : Except String AdmissionResult).toOption.toList.map fun a =>
                judgedReport r' a now) =
                [.lifecycle .requestAdmitted .admitted none] := by
              simp [Except.toOption, about, judgedReport, ha]
            rw [habout]
            exact .admitted hst hres ha
        · refine change_own ⟨.rejected, some .queueFull⟩ hs rfl rfl ?_ ?_
          · rw [if_pos hst, hres, judged, if_neg ha]
            exact put_status_self _ _ _
          · rw [if_pos hst, hres]
            have habout : about r' ((Except.ok a : Except String AdmissionResult).toOption.toList.map fun a =>
                judgedReport r' a now) =
                [.lifecycle .requestRejected .rejected none] := by
              simp [Except.toOption, about, judgedReport, ha]
            rw [habout]
            exact .declined hst hres ha
    · refine change_own st hs rfl rfl ?_ ?_
      · rw [if_neg hst]
        exact hs
      · rw [if_neg hst]
        exact .kept (by simp)
  · refine change_other hs rfl rfl (fun st => ?_) fun st report hmem => ?_
    · split_ifs
      · unfold judged
        split
        · rfl
        · split_ifs <;> exact put_status_ne o _ (Ne.symm hid)
      · rfl
    · split_ifs at hmem
      · obtain ⟨a, -, rfl⟩ := List.mem_map.1 hmem
        exact hid
      · cases hmem

theorem change_enqueueFromAdmitted (hs : o.status r = some st) (r' : UUID) (now : Time) :
    ∃ st', (o.step cfg (.enqueueFromAdmitted r' now)).status r = some st' ∧
      Change cfg o r st (.enqueueFromAdmitted r' now) (about r (o.reports cfg (.enqueueFromAdmitted r' now))) st' := by
  by_cases hid : r' = r
  · subst hid
    by_cases hst : st.state = .admitted
    · by_cases hw : (o.expire cfg.queue now).waits r'
      · refine change_own st hs rfl rfl ?_ ?_
        · rw [if_pos hst, enqueue, if_pos hw]
          exact hs
        · rw [if_neg fun hc => hc.2 hw]
          exact .kept (by simp)
      · by_cases hfull : o.full cfg now
        · refine change_own ⟨.rejected, some .queueFull⟩ hs rfl rfl ?_ ?_
          · rw [if_pos hst, enqueue, if_neg hw, if_pos (show cfg.queue.maxQueueSize ≤ _ from hfull)]
            exact put_status_self _ _ _
          · rw [if_pos ⟨hst, hw⟩, queuedReports, if_pos hfull, about_cons_self]
            exact .refused hst hw hfull
        · refine change_own ⟨.queued, st.reason⟩ hs rfl rfl ?_ ?_
          · rw [if_pos hst, enqueue, if_neg hw, if_neg (show ¬cfg.queue.maxQueueSize ≤ _ from hfull)]
            exact put_status_self _ _ _
          · rw [if_pos ⟨hst, hw⟩, queuedReports, if_neg hfull, about_cons_self, about_cons_self]
            exact .queued hst
    · refine change_own st hs rfl rfl ?_ ?_
      · rw [if_neg hst]
        exact hs
      · rw [if_neg fun hc => hst hc.1]
        exact .kept (by simp)
  · refine change_other hs rfl rfl (fun st => ?_) fun st report hmem => ?_
    · unfold enqueue
      split_ifs
      · rfl
      · exact put_status_ne _ _ (Ne.symm hid)
      · exact put_status_ne _ _ (Ne.symm hid)
      · rfl
    · unfold queuedReports at hmem
      split_ifs at hmem
      · rw [List.mem_singleton.1 hmem]
        exact hid
      · rcases List.mem_cons.1 hmem with rfl | hmem
        · exact hid
        · rw [List.mem_singleton.1 hmem]
          exact hid
      · cases hmem

theorem change_markFailed (hs : o.status r = some st) (r' : UUID) (reason : FailureReason)
    (message : String) (now : Time) (batchId : Option UUID) (backendId : Option String) :
    ∃ st', (o.step cfg (.markFailed r' reason message now batchId backendId)).status r = some st' ∧
      Change cfg o r st (.markFailed r' reason message now batchId backendId)
        (about r (o.reports cfg (.markFailed r' reason message now batchId backendId))) st' := by
  by_cases hid : r' = r
  · subst hid
    refine change_own ⟨.failed, some reason⟩ hs rfl rfl (put_status_self _ _ _) ?_
    rw [failureReport, about_cons_self]
    exact .failed
  · refine change_other hs rfl rfl (fun st => put_status_ne o _ (Ne.symm hid)) fun st report hmem => ?_
    rw [List.mem_singleton.1 hmem]
    exact hid

theorem change_completeRequest (hs : o.status r = some st) (r' : UUID) (completion : Option InferenceCompletionRecord)
    (now : Time) :
    ∃ st', (o.step cfg (.completeRequest r' completion now)).status r = some st' ∧
      Change cfg o r st (.completeRequest r' completion now)
        (about r (o.reports cfg (.completeRequest r' completion now))) st' := by
  by_cases hid : r' = r
  · subst hid
    by_cases hst : st.state = .submitted ∨ st.state = .streaming
    · refine change_own ⟨.completed, st.reason⟩ hs rfl rfl ?_ ?_
      · rw [if_pos hst]
        exact put_status_self _ _ _
      · rw [if_pos hst, completionReports, about_cons_self, about_cons_self]
        exact .completed hst
    · refine change_own st hs rfl rfl ?_ ?_
      · rw [if_neg hst]
        exact hs
      · rw [if_neg hst]
        exact .kept (by simp)
  · refine change_other hs rfl rfl (fun st => ?_) fun st report hmem => ?_
    · split_ifs
      · exact put_status_ne o _ (Ne.symm hid)
      · rfl
    · split_ifs at hmem
      · rcases List.mem_cons.1 hmem with rfl | hmem
        · exact hid
        · rw [List.mem_singleton.1 hmem]
          exact hid
      · cases hmem

theorem change_cancel (hs : o.status r = some st) (r' : UUID) (now : Time) :
    ∃ st', (o.step cfg (.cancel r' now)).status r = some st' ∧
      Change cfg o r st (.cancel r' now) (about r (o.reports cfg (.cancel r' now))) st' := by
  by_cases hid : r' = r ∧ (st.state = .submitted ∨ st.state = .streaming)
  · obtain ⟨rfl, hst⟩ := hid
    refine ⟨⟨.cancelled, st.reason⟩, ?_, .cancelled hst⟩
    rw [step, onStatus_some hs, if_pos hst]
    exact put_status_self _ _ _
  · refine change_none hs (onStatus_status fun st' hs' => ?_) rfl
    split_ifs with hst
    · have hne : r ≠ r' := by
        rintro rfl
        rw [hs] at hs'
        cases hs'
        exact hid ⟨rfl, hst⟩
      exact put_status_ne o _ hne
    · rfl

/-! ### Intake -/

theorem requestId_queuedReports (full : Prop) [Decidable full] (r : UUID) (now : Time) :
    ∀ report ∈ queuedReports full r now, report.requestId = r := by
  unfold queuedReports
  split_ifs <;> simp

theorem requestId_admissionReports (o : Overview) (r : UUID) (result : Except String AdmissionResult) (now : Time) :
    ∀ report ∈ o.admissionReports cfg r result now, report.requestId = r := by
  intro report hmem
  cases result with
  | error message =>
    rw [List.mem_singleton.1 hmem]
    rfl
  | ok a =>
    rcases List.mem_cons.1 hmem with rfl | hmem
    · rfl
    · split_ifs at hmem
      · exact requestId_queuedReports _ r now report hmem
      · cases hmem

theorem requestId_validationReports (r : UUID) (now : Time) :
    ∀ report ∈ validationReports r now, report.requestId = r := by
  simp [validationReports]

theorem about_validationReports (r : UUID) (now : Time) : about r (validationReports r now) = validationNotices := by
  rw [validationReports, about_cons_self, about_cons_self]
  rfl

/-- an intake of another request times this one out at most -/
theorem change_intake (h : o.Sound) (hs : o.status r = some st) {submit : SubmitRequest}
    (hid : r ≠ submit.inferenceRequest.requestId) (checks : List (Except String AdmissionResult)) (now now' : Time) :
    ∃ st', (o.step cfg (.processThroughQueued submit checks now now')).status r = some st' ∧
      Change cfg o r st (.processThroughQueued submit checks now now')
        (about r (o.reports cfg (.processThroughQueued submit checks now now'))) st' := by
  have hop : (Op.processThroughQueued submit checks now now').expiring = some now := rfl
  obtain ⟨st', hst', hchange⟩ := change_expiry cfg h hs hop
  have hstatus : (o.step cfg (.processThroughQueued submit checks now now')).status r =
      (o.processTimeouts cfg.queue now).status r := intake_status _ now now' hid
  have habout : about r (o.reports cfg (.processThroughQueued submit checks now now')) =
      about r (o.timeoutReports cfg.queue now) := by
    rw [reports, about_append]
    split_ifs
    · rw [about_nil, List.append_nil]
    · rw [about_append,
        about_eq_nil fun report hmem => (requestId_validationReports _ _ report hmem).trans_ne (Ne.symm hid),
        about_eq_nil fun report hmem => (requestId_admissionReports _ _ _ _ report hmem).trans_ne (Ne.symm hid),
        List.append_nil, List.append_nil]
  rw [hstatus, habout]
  exact ⟨st', hst', hchange⟩

/-- what is said about a request that an intake registers, and its status -/
theorem birth_intake (h : o.Sound) {submit : SubmitRequest} (hs : o.status submit.inferenceRequest.requestId = none)
    (checks : List (Except String AdmissionResult)) (now now' : Time) (hroom : ¬cfg.registryMaxEntries ≤ o.registered) :
    ∃ st, (o.step cfg (.processThroughQueued submit checks now now')).status
      submit.inferenceRequest.requestId = some st ∧
      Birth cfg o submit.inferenceRequest.requestId (.processThroughQueued submit checks now now')
        (about submit.inferenceRequest.requestId (o.reports cfg (.processThroughQueued submit checks now now')))
        (intakeAnnal (evaluate checks) st) := by
  set r := submit.inferenceRequest.requestId with hr
  have hw : ¬o.waits r := fun hw => h.waits r hw hs
  have hlate : r ∉ o.lateIds cfg.queue now := fun hmem => hw (mem_waiting_of_late hmem)
  have habout : about r (o.reports cfg (.processThroughQueued submit checks now now')) =
      validationNotices ++ about r ((o.processTimeouts cfg.queue now).admissionReports cfg r
        (evaluate checks) now') := by
    rw [reports, about_append, about_timeoutReports h, if_neg hlate, if_neg hroom, about_append,
      about_validationReports]
    rfl
  have hstep : o.step cfg (.processThroughQueued submit checks now now') =
      ((o.processTimeouts cfg.queue now).register r ⟨.validated, none⟩).admitted cfg.queue r none
        (evaluate checks) now' := by
    change o.intake cfg r (evaluate checks) now now' = _
    rw [intake, if_neg hroom]
  rw [habout, hstep]
  cases hres : evaluate checks with
  | error message =>
    refine ⟨⟨.failed, some .internalError⟩, put_status_self _ _ _, ?_⟩
    rw [admissionReports, failureReport, about_cons_self]
    exact Birth.raised rfl (not_le.1 hroom) hres
  | ok a =>
    by_cases ha : a.outcome = .accept
    · by_cases hfull : (o.processTimeouts cfg.queue now).full cfg now'
      · refine ⟨⟨.rejected, some .queueFull⟩, ?_, ?_⟩
        · have hfull' : cfg.queue.maxQueueSize ≤
              ((((o.processTimeouts cfg.queue now).register r ⟨.validated, none⟩).expire
              cfg.queue now').waiting).length := hfull
          simp only [admitted, if_pos ha, if_pos hfull']
          exact put_status_self _ _ _
        · rw [admissionReports, if_pos ha, queuedReports, if_pos hfull, judgedReport, about_cons_self, if_pos ha,
            about_cons_self]
          have hannal : intakeAnnal (.ok a) ⟨.rejected, some .queueFull⟩ =
              ⟨[.received, .validated, .admitted], ⟨.rejected, some .queueFull⟩⟩ := by
            simp [intakeAnnal, judgedStatus, ha, Annal.become, Annal.entered]
          rw [hannal]
          exact Birth.refused rfl (not_le.1 hroom) hres ha hfull
      · refine ⟨⟨.queued, none⟩, ?_, ?_⟩
        · have hfull' : ¬cfg.queue.maxQueueSize ≤
              ((((o.processTimeouts cfg.queue now).register r ⟨.validated, none⟩).expire
              cfg.queue now').waiting).length := hfull
          simp only [admitted, if_pos ha, if_neg hfull']
          exact put_status_self _ _ _
        · rw [admissionReports, if_pos ha, queuedReports, if_neg hfull, judgedReport, about_cons_self, if_pos ha,
            about_cons_self, about_cons_self]
          have hannal : intakeAnnal (.ok a) ⟨.queued, none⟩ =
              ⟨[.received, .validated, .admitted], ⟨.queued, none⟩⟩ := by
            simp [intakeAnnal, judgedStatus, ha, Annal.become, Annal.entered]
          rw [hannal]
          exact Birth.queued rfl (not_le.1 hroom) hres ha
    · refine ⟨⟨.rejected, some .queueFull⟩, ?_, ?_⟩
      · simp only [admitted, if_neg ha]
        exact put_status_self _ _ _
      · rw [admissionReports, if_neg ha, judgedReport, about_cons_self, if_neg ha]
        have hannal : intakeAnnal (.ok a) ⟨.rejected, some .queueFull⟩ =
            ⟨[.received, .validated], ⟨.rejected, some .queueFull⟩⟩ := by
          simp [intakeAnnal, judgedStatus, ha, Annal.become, Annal.entered]
        rw [hannal]
        exact Birth.declined rfl (not_le.1 hroom) hres ha

/-! ### The other operations -/

theorem change_register (hs : o.status r = some st) {submit : SubmitRequest}
    (hid : r ≠ submit.inferenceRequest.requestId) (initialState : RequestState) (now : Time) :
    ∃ st', (o.step cfg (.register submit initialState now)).status r = some st' ∧
      Change cfg o r st (.register submit initialState now)
        (about r (o.reports cfg (.register submit initialState now)))
        st' := by
  refine change_none hs ?_ ?_
  · rw [step]
    split_ifs
    · rfl
    · exact register_status_ne o _ hid
  · rw [reports]
    split_ifs
    · rfl
    · exact about_eq_nil fun report hmem => by
        rw [List.mem_singleton.1 hmem]
        exact Ne.symm hid

/-- one quiet event at most -/
theorem change_quiet {op : Op} (hs : o.status r = some st) (hstatus : (o.step cfg op).status = o.status)
    (h : ∀ report ∈ o.reports cfg op, report.notice.Quiet) :
    ∃ st', (o.step cfg op).status r = some st' ∧ Change cfg o r st op (about r (o.reports cfg op)) st' := by
  refine ⟨st, by rw [hstatus, hs], .kept fun n hn => ?_⟩
  obtain ⟨report, hmem, rfl⟩ := List.mem_map.1 hn
  exact h report (List.mem_of_mem_filter hmem)

theorem quiet_dequeueNext (o : Overview) (now : Time) :
    ∀ report ∈ o.reports cfg (.dequeueNext now), report.notice.Quiet := by
  intro report hmem
  obtain ⟨p, -, rfl⟩ := Option.map_eq_some_iff.1 (Option.mem_toList.1 hmem)
  exact Or.inr (Or.inl rfl)

theorem quiet_remove (o : Overview) (r : UUID) (now : Time) :
    ∀ report ∈ o.reports cfg (.remove r now), report.notice.Quiet := by
  intro report hmem
  rw [reports] at hmem
  split_ifs at hmem
  · rw [List.mem_singleton.1 hmem]
    exact Or.inr (Or.inr rfl)
  · cases hmem

end Overview

/-! ## Steps -/

theorem overview_change (cfg : Settings) (h : Inv cp) {op : Op} (hf : Fresh cp op)
    (hs : cp.overview.status r = some st) :
    ∃ st', (cp.overview.step cfg op).status r = some st' ∧
      Change cfg cp.overview r st op (about r (cp.overview.reports cfg op)) st' := by
  have hother : ∀ id, cp.registry.get? id = none → r ≠ id := by
    rintro id hid rfl
    rw [(overview_status_eq_none h).2 hid] at hs
    cases hs
  cases op with
  | register submit initialState now => exact Overview.change_register hs (hother _ hf) initialState now
  | transition r' toState now batchId backendId => exact Overview.change_transition hs r' toState now batchId backendId
  | runAdmission r' checks now => exact Overview.change_runAdmission hs r' checks now
  | enqueueFromAdmitted r' now => exact Overview.change_enqueueFromAdmitted hs r' now
  | processThroughQueued submit checks now now' =>
    exact Overview.change_intake h.sound hs (hother _ hf) checks now now'
  | processTimeouts now =>
    have hop : (Op.processTimeouts now).expiring = some now := rfl
    exact Overview.change_expiry cfg h.sound hs hop
  | markFailed r' reason message now batchId backendId =>
    exact Overview.change_markFailed hs r' reason message now batchId backendId
  | completeRequest r' completion now => exact Overview.change_completeRequest hs r' completion now
  | cancel r' now => exact Overview.change_cancel hs r' now
  | dequeueNext now => exact Overview.change_quiet hs rfl (Overview.quiet_dequeueNext _ now)
  | remove r' now => exact Overview.change_quiet hs rfl (Overview.quiet_remove _ r' now)
  | peek now => exact Overview.change_none hs rfl rfl
  | listItems now => exact Overview.change_none hs rfl rfl
  | clear => exact Overview.change_none hs rfl rfl
  | getQueueSnapshot queueName now => exact Overview.change_none hs rfl rfl
  | getQueueStatistics now => exact Overview.change_none hs rfl rfl
  | listQueuedRequests now => exact Overview.change_none hs rfl rfl
  | listQueueItems limit now => exact Overview.change_none hs rfl rfl

theorem Annals.chronicle_eq {R : Dict UUID Ref} {H : Chronicle} {T : List Report}
    {cp : ControlPlaneApplication} {r : UUID}
    (h : Annals R H T cp) {st : Status} (hs : cp.overview.status r = some st) :
    cp.chronicle r = H r ∧ (H r).status = st ∧ ∃ ref, R.get? r = some ref := by
  obtain ⟨e, he, hst⟩ := Option.map_eq_some_iff.1 hs
  obtain ⟨ref, hr, hget⟩ := entry?_eq_some.1 he
  have hR := h.get?.1 hr
  exact ⟨(ControlPlane.chronicle_eq hr hget).trans (h.annal r ref e hR hget), (h.status hR hget).trans hst, ref, hR⟩

/-- what an operation does to a registered request -/
theorem step_change (cfg : Settings) (h : Inv cp) {op : Op} (hf : Fresh cp op) (hs : cp.overview.status r = some st) :
    ∃ st', (cp.step cfg op).overview.status r = some st' ∧
      Change cfg cp.overview r st op (about r (cp.overview.reports cfg op)) st' ∧
      (cp.step cfg op).chronicle r = (cp.chronicle r).become st' := by
  obtain ⟨st', hs', hchange⟩ := overview_change cfg h hf hs
  rw [← (step_refines cfg h hf).overview] at hs'
  obtain ⟨R, H, hannals, hold, -⟩ := (step_recounts cfg h hf).annals
  obtain ⟨heq, hstatus, -⟩ := hannals.chronicle_eq hs'
  obtain ⟨ref, hr⟩ : ∃ ref, cp.registry.get? r = some ref := by
    obtain ⟨ref, -, hr, -⟩ := h.entry hs
    exact ⟨ref, hr⟩
  obtain ⟨st'', hst''⟩ := hold r ref hr
  refine ⟨st', hs', hchange, ?_⟩
  rw [heq, hst'']
  rw [hst'', Annal.become_status] at hstatus
  rw [hstatus]

/-- what an operation does to a request that it registers -/
theorem step_birth (cfg : Settings) (h : Inv cp) {op : Op} (hf : Fresh cp op) (hs : cp.overview.status r = none)
    (hs' : (cp.step cfg op).overview.status r = some st) :
    Birth cfg cp.overview r op (about r (cp.overview.reports cfg op)) ((cp.step cfg op).chronicle r) := by
  obtain ⟨R, H, hannals, -, hborn⟩ := (step_recounts cfg h hf).annals
  obtain ⟨heq, hstatus, hR⟩ := hannals.chronicle_eq hs'
  have hb := hborn r ((overview_status_eq_none h).1 hs) hR
  rw [heq]
  rw [(step_refines cfg h hf).overview] at hs'
  cases op with
  | register submit initialState now =>
    obtain ⟨rfl, hannal⟩ := hb
    rw [hannal, Overview.reports]
    rw [Overview.step] at hs'
    split_ifs with hno
    · rw [if_pos hno, hs] at hs'
      cases hs'
    · rw [registrationReport, about_cons_self]
      have hinit : initialState = .received ∨ initialState = .validated := by
        by_contra hinit
        rw [not_or] at hinit
        exact hno (Or.inl hinit)
      exact Birth.registered rfl hinit
  | processThroughQueued submit checks now now' =>
    obtain ⟨rfl, st', hannal⟩ := hb
    have hroom : ¬cfg.registryMaxEntries ≤ cp.overview.registered := by
      intro hfull
      rw [Overview.step, Overview.intake, if_pos hfull,
        Overview.processTimeouts_status fun hw => h.sound.waits _ hw hs, hs] at hs'
      cases hs'
    obtain ⟨st₁, hst₁, hbirth⟩ := Overview.birth_intake h.sound hs checks now now' hroom
    rw [hst₁] at hs'
    cases hs'
    have hlast : st' = st := by
      rw [← hstatus, hannal]
      cases evaluate checks <;> rfl
    rw [hannal, hlast]
    exact hbirth
  | _ => exact hb.elim

/-- nothing is said about a request that is not registered afterwards -/
theorem step_unborn (cfg : Settings) (h : Inv cp) {op : Op} (hf : Fresh cp op)
    (hs' : (cp.step cfg op).overview.status r = none) : about r (cp.overview.reports cfg op) = [] := by
  have hs : cp.overview.status r = none := by
    cases hs : cp.overview.status r with
    | none => rfl
    | some st =>
      obtain ⟨st', hst', -⟩ := step_change cfg h hf hs
      rw [hs'] at hst'
      cases hst'
  have hw : ¬cp.overview.waits r := fun hw => h.sound.waits r hw hs
  have hids : ∀ r', cp.overview.status r' ≠ none → r' ≠ r := by
    rintro r' hr' rfl
    exact hr' hs
  have helim : ∀ (r' : UUID) (f : Status → List Report), (∀ st, ∀ report ∈ f st, report.requestId = r') →
      about r ((cp.overview.status r').elim [] f) = [] := by
    intro r' f hf
    cases hr' : cp.overview.status r' with
    | none => rfl
    | some st => exact about_eq_nil fun report hmem => (hf st report hmem).trans_ne (hids r' (by simp [hr']))
  rw [(step_refines cfg h hf).overview] at hs'
  cases op with
  | register submit initialState now =>
    rw [Overview.reports]
    rw [Overview.step] at hs'
    split_ifs with hno
    · rfl
    · rw [if_neg hno] at hs'
      refine about_eq_nil fun report hmem => ?_
      rw [List.mem_singleton.1 hmem]
      rintro rfl
      rw [registrationReport, Overview.register_status_self] at hs'
      cases hs'
  | transition r' toState now batchId backendId =>
    refine helim r' _ fun st report hmem => ?_
    split_ifs at hmem
    · exact requestId_transitionReports _ _ _ _ report hmem
    · cases hmem
  | runAdmission r' checks now =>
    refine helim r' _ fun st report hmem => ?_
    split_ifs at hmem
    · obtain ⟨a, -, rfl⟩ := List.mem_map.1 hmem
      rfl
    · cases hmem
  | enqueueFromAdmitted r' now =>
    refine helim r' _ fun st report hmem => ?_
    split_ifs at hmem
    · exact Overview.requestId_queuedReports _ r' now report hmem
    · cases hmem
  | processThroughQueued submit checks now now' =>
    have hlate : r ∉ cp.overview.lateIds cfg.queue now := fun hmem => hw (Overview.mem_waiting_of_late hmem)
    rw [Overview.reports, about_append, Overview.about_timeoutReports h.sound, if_neg hlate, List.nil_append]
    split_ifs with hfull
    · rfl
    · have hid : r ≠ submit.inferenceRequest.requestId := by
        rintro rfl
        obtain ⟨st, hst, -⟩ := Overview.birth_intake h.sound hs checks now now' hfull
        rw [hs'] at hst
        cases hst
      refine about_eq_nil fun report hmem => ?_
      rcases List.mem_append.1 hmem with hmem | hmem
      · exact (Overview.requestId_validationReports _ _ report hmem).trans_ne (Ne.symm hid)
      · exact (Overview.requestId_admissionReports _ _ _ _ report hmem).trans_ne (Ne.symm hid)
  | processTimeouts now =>
    rw [Overview.reports, Overview.about_timeoutReports h.sound]
    exact if_neg fun hmem => hw (Overview.mem_waiting_of_late hmem)
  | markFailed r' reason message now batchId backendId =>
    refine helim r' _ fun st report hmem => ?_
    rw [List.mem_singleton.1 hmem]
    rfl
  | completeRequest r' completion now =>
    refine helim r' _ fun st report hmem => ?_
    split_ifs at hmem
    · rcases List.mem_cons.1 hmem with rfl | hmem
      · rfl
      · rw [List.mem_singleton.1 hmem]
    · cases hmem
  | dequeueNext now =>
    refine about_eq_nil fun report hmem => ?_
    obtain ⟨p, hp, rfl⟩ := Option.map_eq_some_iff.1 (Option.mem_toList.1 hmem)
    refine hids p.1 (h.sound.waits _ ⟨p, ?_, rfl⟩)
    exact List.mem_of_mem_filter (List.mem_of_mem_head? hp)
  | remove r' now =>
    refine about_eq_nil fun report hmem => ?_
    rw [Overview.reports] at hmem
    split_ifs at hmem with hr'
    · rw [List.mem_singleton.1 hmem]
      exact hids r' (h.sound.waits _ hr')
    · cases hmem
  | cancel r' now => rfl
  | peek now => rfl
  | listItems now => rfl
  | clear => rfl
  | getQueueSnapshot queueName now => rfl
  | getQueueStatistics now => rfl
  | listQueuedRequests now => rfl
  | listQueueItems limit now => rfl

/-! ## What follows from the lists -/

/-- a request that has not ended has no failure reason -/
def Status.Pending (st : Status) : Prop := isTerminalRequestState st.state = false → st.reason = none

theorem not_terminal_of_allowed {s t : RequestState} (h : isAllowedTransition s t = true) :
    isTerminalRequestState s = false := by
  cases hs : isTerminalRequestState s with
  | false => rfl
  | true =>
    rw [isAllowedTransition_of_terminal hs] at h
    cases h

theorem Change.pending {op : Op} {notices : List Notice} {st' : Status} (h : Change cfg o r st op notices st')
    (hp : st.Pending) : st'.Pending := by
  cases h with
  | kept => exact hp
  | moved hallowed => exact fun _ => hp (not_terminal_of_allowed hallowed)
  | admitted hst => exact fun _ => hp (by rw [hst]; rfl)
  | queued hst => exact fun _ => hp (by rw [hst]; rfl)
  | declined => exact fun hno => by cases hno
  | refused => exact fun hno => by cases hno
  | timedOut => exact fun hno => by cases hno
  | failed => exact fun hno => by cases hno
  | completed => exact fun hno => by cases hno
  | cancelled => exact fun hno => by cases hno

theorem Birth.pending {op : Op} {notices : List Notice} {a : Annal} (h : Birth cfg o r op notices a) :
    a.status.Pending := by
  cases h with
  | registered => exact fun _ => rfl
  | queued => exact fun _ => rfl
  | raised => exact fun hno => by cases hno
  | declined => exact fun hno => by cases hno
  | refused => exact fun hno => by cases hno

/-- of a pending request, a transition is announced without a reason -/
theorem transitionNotices_pending {toState : RequestState} (hp : st.Pending)
    (hallowed : isAllowedTransition st.state toState = true) :
    transitionNotices toState st.reason = transitionNotices toState none := by
  rw [hp (not_terminal_of_allowed hallowed)]

theorem failureNotice_pending (hp : st.Pending) : failureNotice st = .lifecycle .requestFailed .failed none := by
  unfold failureNotice
  split_ifs with hallowed
  · rw [hp (not_terminal_of_allowed hallowed)]
  · rfl

end InferencePlatform.ControlPlane
