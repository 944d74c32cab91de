/-
Queue timeouts that nobody hears of.

Nearly every queue operation drops overdue items, but only `process_timeouts` goes on to time their requests out. An
item dropped by any other operation (`NoSilentExpiry` fails) leaves its request QUEUED for ever: the next
`process_timeouts` does not find the item any more. `snapshot_loses_expiry` is the read-only inspection doing so.

`expiry_reported`: in a run with no such drop, a QUEUED request whose item expires is TIMED_OUT, with its reason and one
queue-timeout event, as soon as the operation returns. The event count rests on an invariant (`Untimed`): a request that
waits, or may still be enqueued, has had no queue-timeout event.
-/
import InferencePlatform.ControlPlane.Safety

namespace InferencePlatform.ControlPlane

open InferencePlatform.Core (Dict Meets meets_append run)

variable {cfg : Settings} {cp : ControlPlaneApplication} {r : UUID} {o : Op} {now : Time}

/-! ## Expiry -/

/-- when the operation drops overdue items without timing their requests out -/
def Op.silentExpiry (cfg : Settings) (cp : ControlPlaneApplication) : Op → Option Time
  | .enqueueFromAdmitted r now => if cp.state? r = some .admitted then some now else none
  | .processThroughQueued _ checks _ now' =>
    -- the second expiry of an intake, when the request is admitted
    if cfg.registryMaxEntries ≤ cp.registry.items.length then none
    else
      match evaluate checks with
      | .ok a => if a.outcome = .accept then some now' else none
      | .error _ => none
  | .dequeueNext now | .peek now | .listItems now | .getQueueSnapshot _ now | .getQueueStatistics now
  | .listQueuedRequests now | .listQueueItems _ now => some now
  | .register .. | .transition .. | .runAdmission .. | .processTimeouts .. | .markFailed .. | .completeRequest ..
  | .cancel .. | .remove .. | .clear => none

/-- the request's item is overdue when the operation drops overdue items -/
def Op.Expires (cfg : Settings) (cp : ControlPlaneApplication) (r : UUID) (o : Op) : Prop :=
  o.TimesOut cfg cp r ∨
    ∃ now, o.silentExpiry cfg cp = some now ∧ ∃ item ∈ cp.items, item.requestId = r ∧ overdue cfg.queue now item = true

instance : (o : Op) → Decidable (o.TimesOut cfg cp r)
  | .processTimeouts now | .processThroughQueued _ _ now _ =>
    inferInstanceAs (Decidable (∃ item ∈ cp.items, item.requestId = r ∧ overdue cfg.queue now item = true))
  | .register .. | .transition .. | .runAdmission .. | .enqueueFromAdmitted .. | .markFailed .. | .completeRequest ..
  | .cancel .. | .dequeueNext .. | .peek .. | .listItems .. | .remove .. | .clear | .getQueueSnapshot ..
  | .getQueueStatistics .. | .listQueuedRequests .. | .listQueueItems .. => isFalse id

/-- no QUEUED request is dropped from the queue but by `process_timeouts` -/
def NoSilentExpiry (cfg : Settings) (cp : ControlPlaneApplication) (o : Op) : Prop :=
  ∀ item ∈ cp.items, cp.state? item.requestId = some .queued →
    (o.silentExpiry cfg cp).any (fun now => overdue cfg.queue now item) = true → o.TimesOut cfg cp item.requestId

instance : Decidable (NoSilentExpiry cfg cp o) := by
  unfold NoSilentExpiry
  infer_instance

/-! ## Who waits after an operation -/

namespace Overview

variable {o : Overview}

/-- the request is not registered, or it is on its way to the queue -/
def early (o : Overview) (r : UUID) : Prop :=
  ∀ st, o.status r = some st → st.state = .received ∨ st.state = .validated ∨ st.state = .admitted

/-- those who wait did so before, but for one request that has just been enqueued -/
structure Queued (o o' : Overview) : Prop where
  waits : ∀ r, o'.waits r → o.waits r ∨ o.early r
  timeouts : o'.timeouts = o.timeouts

theorem Queued.of_sublist {o' : Overview} (hw : o'.waiting.Sublist o.waiting) (ht : o'.timeouts = o.timeouts) :
    o.Queued o' :=
  ⟨fun _ ⟨p, hp, hpr⟩ => Or.inl ⟨p, hw.subset hp, hpr⟩, ht⟩

theorem Queued.refl (o : Overview) : o.Queued o := Queued.of_sublist (List.Sublist.refl _) rfl

theorem Queued.put (o : Overview) (r : UUID) (st : Status) : o.Queued (o.put r st) :=
  Queued.of_sublist (List.Sublist.refl _) rfl

theorem Queued.expire (cfg : QueueCapacityConfig) (now : Time) (o : Overview) : o.Queued (o.expire cfg now) :=
  Queued.of_sublist List.filter_sublist rfl

theorem Queued.enqueued (h : o.early r) (reason : Option FailureReason) (now : Time) :
    o.Queued (o.enqueued r reason now) := by
  refine ⟨fun r' hw => ?_, rfl⟩
  obtain ⟨p, hp, hpr⟩ := hw
  rcases List.mem_append.1 hp with hp | hp
  · exact Or.inl ⟨p, hp, hpr⟩
  · rw [List.mem_singleton.1 hp] at hpr
    exact Or.inr (hpr ▸ h)

/-- an enqueued request behind a queue that has lost its overdue items -/
theorem Queued.expire_enqueued (cfg : QueueCapacityConfig) (h : o.early r)
    (reason : Option FailureReason) (now : Time) :
    o.Queued ((o.expire cfg now).enqueued r reason now) := by
  have hearly : (o.expire cfg now).early r := h
  refine ⟨fun r' hw => ?_, rfl⟩
  rcases (Queued.enqueued hearly reason now).waits r' hw with hw | hw
  · exact (Queued.expire cfg now o).waits r' hw
  · exact Or.inr hw

theorem Queued.onStatus {r₁ : UUID} {f : Status → Overview} (h : ∀ st, o.status r₁ = some st → o.Queued (f st)) :
    o.Queued (o.onStatus r₁ f) := by
  cases hs : o.status r₁ with
  | none =>
    rw [onStatus_none hs]
    exact Queued.refl o
  | some st =>
    rw [onStatus_some hs]
    exact h st hs

theorem Queued.ite_put {r₁ : UUID} {st : Status} {p : Prop} [Decidable p] :
    o.Queued (if p then o.put r₁ st else o) := by
  by_cases hp : p
  · rw [if_pos hp]
    exact Queued.put o r₁ st
  · rw [if_neg hp]
    exact Queued.refl o

theorem Queued.admitted (cfg : Settings) (h : o.early r) (reason : Option FailureReason)
    (result : Except String AdmissionResult) (now : Time) : o.Queued (o.admitted cfg.queue r reason result now) := by
  cases result with
  | error message => exact Queued.put o r _
  | ok a =>
    simp only [Overview.admitted]
    split_ifs
    · exact Queued.of_sublist List.filter_sublist rfl
    · exact Queued.expire_enqueued cfg.queue h reason now
    · exact Queued.put o r _

theorem Queued.enqueue (h : o.early r) (reason : Option FailureReason) (now : Time) :
    o.Queued (o.enqueue cfg r reason now) := by
  unfold Overview.enqueue
  split_ifs
  · exact Queued.expire cfg.queue now o
  · exact Queued.of_sublist List.filter_sublist rfl
  · exact Queued.expire_enqueued cfg.queue h reason now

end Overview

/-- what runs `process_timeouts` over the queue first, and when -/
def Op.reportsAt : Op → Option Time
  | .processTimeouts now | .processThroughQueued _ _ now _ => some now
  | _ => none

theorem timesOut_iff_reportsAt : o.TimesOut cfg cp r ↔ ∃ now, o.reportsAt = some now ∧
    r ∈ cp.overview.lateIds cfg.queue now := by
  cases o with
  | processTimeouts now => simp [Op.TimesOut, Op.reportsAt, timesOut_iff]
  | processThroughQueued submit checks now now' => simp [Op.TimesOut, Op.reportsAt, timesOut_iff]
  | _ => simp [Op.TimesOut, Op.reportsAt]

theorem early_of_status_none {ov : Overview} (h : ov.status r = none) : ov.early r := by
  intro st hs
  rw [h] at hs
  cases hs

theorem early_of_admitted {ov : Overview} {st : Status} (hs : ov.status r = some st) (hst : st.state = .admitted) :
    ov.early r := by
  intro st' hs'
  rw [hs] at hs'
  cases hs'
  exact Or.inr (Or.inr hst)

/-- an operation acts on a queue whose overdue items have been timed out, if it runs `process_timeouts` at all -/
theorem step_queued (cfg : Settings) (h : Inv cp) (hf : Fresh cp o) :
    (match o.reportsAt with
      | some now => cp.overview.processTimeouts cfg.queue now
      | none => cp.overview).Queued (cp.overview.step cfg o) := by
  cases o with
  | register submit initialState now =>
    simp only [Op.reportsAt, Overview.step]
    split_ifs
    · exact Overview.Queued.refl _
    · exact Overview.Queued.of_sublist (List.Sublist.refl _) rfl
  | transition r₁ toState now batchId backendId =>
    exact Overview.Queued.onStatus fun st _ => Overview.Queued.ite_put
  | runAdmission r₁ checks now =>
    refine Overview.Queued.onStatus fun st _ => ?_
    split_ifs
    · unfold Overview.judged
      cases evaluate checks with
      | error message => exact Overview.Queued.refl _
      | ok a =>
        dsimp only
        split_ifs
        · exact Overview.Queued.put _ _ _
        · exact Overview.Queued.put _ _ _
    · exact Overview.Queued.refl _
  | enqueueFromAdmitted r₁ now =>
    refine Overview.Queued.onStatus fun st hs => ?_
    split_ifs with hst
    · exact Overview.Queued.enqueue (early_of_admitted hs hst) st.reason now
    · exact Overview.Queued.refl _
  | processThroughQueued submit checks now now' =>
    simp only [Op.reportsAt, Overview.step, Overview.intake]
    split_ifs
    · exact Overview.Queued.refl _
    · have hs := (overview_status_eq_none h).2 hf
      have hearly : ((cp.overview.processTimeouts cfg.queue now).register submit.inferenceRequest.requestId
          ⟨.validated, none⟩).early submit.inferenceRequest.requestId := by
        intro st hst
        rw [Overview.register_status_self] at hst
        cases hst
        exact Or.inr (Or.inl rfl)
      have hq := Overview.Queued.admitted cfg hearly none (evaluate checks) now'
      refine ⟨fun r hw => ?_, hq.timeouts⟩
      rcases hq.waits r hw with hw | hearly
      · exact Or.inl hw
      · by_cases hr : r = submit.inferenceRequest.requestId
        · rw [hr]
          refine Or.inr (early_of_status_none ?_)
          rw [Overview.processTimeouts_status (not_waits_of_unregistered h hs), hs]
        · refine Or.inr fun st hst => hearly st ?_
          rw [Overview.register_status_ne _ _ hr, hst]
  | processTimeouts now => exact Overview.Queued.refl _
  | markFailed r₁ reason message now batchId backendId =>
    exact Overview.Queued.onStatus fun st _ => Overview.Queued.put _ _ _
  | completeRequest r₁ completion now => exact Overview.Queued.onStatus fun st _ => Overview.Queued.ite_put
  | cancel r₁ now => exact Overview.Queued.onStatus fun st _ => Overview.Queued.ite_put
  | dequeueNext now =>
    exact Overview.Queued.of_sublist ((List.tail_sublist _).trans List.filter_sublist) rfl
  | remove r₁ now => exact Overview.Queued.of_sublist List.eraseP_sublist rfl
  | clear => exact Overview.Queued.of_sublist (List.nil_sublist _) rfl
  | peek now => exact Overview.Queued.expire _ _ _
  | listItems now => exact Overview.Queued.expire _ _ _
  | getQueueSnapshot queueName now => exact Overview.Queued.expire _ _ _
  | getQueueStatistics now => exact Overview.Queued.expire _ _ _
  | listQueuedRequests now => exact Overview.Queued.expire _ _ _
  | listQueueItems limit now => exact Overview.Queued.expire _ _ _

/-! ## One queue-timeout event -/

/-- a request that waits, or that may still be enqueued, has had no queue-timeout event -/
def Untimed (cp : ControlPlaneApplication) : Prop :=
  ∀ r, cp.overview.waits r ∨ cp.overview.early r → cp.overview.timeouts r = 0

theorem untimed_init : Untimed .init := fun _ _ => rfl

theorem lateIds_nodup (cfg : Settings) (h : Inv cp) (now : Time) : (cp.overview.lateIds cfg.queue now).Nodup := by
  have hsub : (cp.overview.lateIds cfg.queue now).Sublist (cp.overview.waiting.map Prod.fst) :=
    List.filter_sublist.map Prod.fst
  exact h.nodup_waiting.sublist hsub

/-- a late request waits no longer: it has one item only -/
theorem not_waits_of_late (h : Inv cp) (hr : r ∈ cp.overview.lateIds cfg.queue now) :
    ¬(cp.overview.expire cfg.queue now).waits r := by
  rintro ⟨p, hp, hpr⟩
  obtain ⟨q, hq, hqr⟩ := List.mem_map.1 hr
  obtain ⟨hpw, hplate⟩ := List.mem_filter.1 hp
  obtain ⟨hqw, hqlate⟩ := List.mem_filter.1 hq
  have hpq : p = q := List.inj_on_of_nodup_map h.nodup_waiting hpw hqw (hpr.trans hqr.symm)
  rw [hpq, hqlate] at hplate
  cases hplate

theorem early_of_allowed {s t : RequestState} (h : isAllowedTransition s t = true)
    (ht : t = .received ∨ t = .validated ∨ t = .admitted) : s = .received ∨ s = .validated ∨ s = .admitted := by
  rw [isAllowedTransition_eq] at h
  rcases ht with rfl | rfl | rfl
  · cases s <;> simp [allowedRequestTransitions] at h
  · cases s <;> simp [allowedRequestTransitions] at h ⊢
  · cases s <;> simp [allowedRequestTransitions] at h ⊢

/-- no request comes back to the states before the queue -/
theorem early_of_step (cfg : Settings) (h : Inv cp) (hf : Fresh cp o) (he : (cp.overview.step cfg o).early r) :
    cp.overview.early r := by
  intro st hs
  by_cases hto : o.TimesOut cfg cp r
  · have hlate := he _ (step_timesOut cfg h hf hs hto)
    simp at hlate
  · obtain ⟨st', hs', hsame | hallowed | ⟨-, hfailed⟩⟩ := step_follows cfg h hf hto st hs
    · rw [← hsame]
      exact he st' hs'
    · exact early_of_allowed hallowed (he st' hs')
    · have hearly := he st' hs'
      rw [hfailed] at hearly
      simp at hearly

theorem step_timeouts_of_not_timesOut (cfg : Settings) (h : Inv cp) (hf : Fresh cp o) (hto : ¬o.TimesOut cfg cp r) :
    (cp.overview.step cfg o).timeouts r = cp.overview.timeouts r := by
  have hq := congrFun (step_queued cfg h hf).timeouts r
  rw [hq]
  cases hat : o.reportsAt with
  | none => rfl
  | some now =>
    have hlate : r ∉ cp.overview.lateIds cfg.queue now := fun hmem => hto (timesOut_iff_reportsAt.2 ⟨now, hat, hmem⟩)
    simp only [Overview.processTimeouts, Overview.timedOut, List.count_eq_zero_of_not_mem hlate]
    rfl

theorem step_timeouts_of_timesOut (cfg : Settings) (h : Inv cp) (hf : Fresh cp o) (hto : o.TimesOut cfg cp r) :
    (cp.overview.step cfg o).timeouts r = cp.overview.timeouts r + 1 := by
  have hq := congrFun (step_queued cfg h hf).timeouts r
  obtain ⟨now, hat, hlate⟩ := timesOut_iff_reportsAt.1 hto
  rw [hq, hat]
  simp only [Overview.processTimeouts, Overview.timedOut, List.count_eq_one_of_mem (lateIds_nodup cfg h now) hlate]
  rfl

/-- a request that is timed out leaves the queue -/
theorem step_timesOut_waits (cfg : Settings) (h : Inv cp) (hf : Fresh cp o) (hto : o.TimesOut cfg cp r) :
    ¬(cp.overview.step cfg o).waits r := by
  intro hw
  obtain ⟨now, hat, hlate⟩ := timesOut_iff_reportsAt.1 hto
  have hq := (step_queued cfg h hf).waits r hw
  rw [hat] at hq
  rcases hq with hw | hearly
  · exact not_waits_of_late h hlate hw
  · have hst := hearly _ (processTimeouts_status_of_late cfg hlate)
    simp at hst

theorem step_untimed (cfg : Settings) (h : Inv cp) (hu : Untimed cp) (hf : Fresh cp o) : Untimed (cp.step cfg o) := by
  intro r hr
  rw [(step_refines cfg h hf).overview] at hr ⊢
  by_cases hto : o.TimesOut cfg cp r
  · rcases hr with hw | hearly
    · exact absurd hw (step_timesOut_waits cfg h hf hto)
    · cases hs : cp.overview.status r with
      | none =>
        obtain ⟨now, -, hlate⟩ := timesOut_iff_reportsAt.1 hto
        obtain ⟨p, hp, hpr⟩ := List.mem_map.1 hlate
        exact absurd ⟨p, List.mem_of_mem_filter hp, hpr⟩ (not_waits_of_unregistered h hs)
      | some st =>
        have hst := hearly _ (step_timesOut cfg h hf hs hto)
        simp at hst
  · rw [step_timeouts_of_not_timesOut cfg h hf hto]
    refine hu r ?_
    rcases hr with hw | hearly
    · have hq := (step_queued cfg h hf).waits r hw
      cases hat : o.reportsAt with
      | none =>
        rw [hat] at hq
        exact hq
      | some now =>
        rw [hat] at hq
        rcases hq with hw | hearly
        · obtain ⟨p, hp, hpr⟩ := hw
          exact Or.inl ⟨p, List.mem_of_mem_filter hp, hpr⟩
        · refine Or.inr fun st hs => hearly st ?_
          have hlate : r ∉ cp.overview.lateIds cfg.queue now :=
            fun hmem => hto (timesOut_iff_reportsAt.2 ⟨now, hat, hmem⟩)
          rw [processTimeouts_status_of_not_late cfg hlate, hs]
    · exact Or.inr (early_of_step cfg h hf hearly)

theorem run_untimed (cfg : Settings) (h : Inv cp) (hu : Untimed cp) {ops : List Op}
    (hf : Meets (ControlPlaneApplication.step cfg) Fresh cp ops) :
    Untimed (run (ControlPlaneApplication.step cfg) cp ops) := by
  induction ops generalizing cp with
  | nil => exact hu
  | cons o ops ih => exact ih (step_refines cfg h hf.1).inv (step_untimed cfg h hu hf.1) hf.2

/-! ## Reported expiry -/

/-- what every step of a run must meet for no expiry to be lost -/
def Reports (cfg : Settings) (cp : ControlPlaneApplication) (o : Op) : Prop := Fresh cp o ∧ NoSilentExpiry cfg cp o

instance : Decidable (Reports cfg cp o) := inferInstanceAs (Decidable (_ ∧ _))

theorem NoSilentExpiry.timesOut (hn : NoSilentExpiry cfg cp o) (hs : cp.state? r = some .queued)
    (he : o.Expires cfg cp r) : o.TimesOut cfg cp r := by
  rcases he with hto | ⟨now, hat, item, hitem, rfl, hlate⟩
  · exact hto
  · exact hn item hitem hs (by rw [hat]; exact hlate)

/-- In every run whose steps all meet the condition, a QUEUED request whose item expires is TIMED_OUT when the operation
returns, with reason QUEUE_TIMEOUT and one queue-timeout event, and is QUEUED in no later state. -/
theorem expiry_reported (cfg : Settings) (ops : List Op)
    (hc : Meets (ControlPlaneApplication.step cfg) (Reports cfg) .init ops) :
    ∀ pre o post, ops = pre ++ o :: post →
      let cp := run (ControlPlaneApplication.step cfg) .init pre
      let cp' := cp.step cfg o
      ∀ r, cp.state? r = some .queued → o.Expires cfg cp r →
        (cp'.entry? r).map RegisteredRequest.status = some ⟨.timedOut, some .queueTimeout⟩ ∧
        cp'.queueEvents.countP (isTimeoutOf r) = 1 ∧
        ∀ mid, mid <+: post → (run (ControlPlaneApplication.step cfg) cp' mid).state? r ≠ some .queued := by
  intro pre o post hops
  subst hops
  have hf : Meets (ControlPlaneApplication.step cfg) Fresh .init (pre ++ o :: post) := hc.mono fun _ _ h => h.1
  have hfpre := hf.of_prefix (List.prefix_append _ _)
  have hinv : Inv (run (ControlPlaneApplication.step cfg) .init pre) := run_inv_of_fresh cfg inv_init hfpre
  have hu : Untimed (run (ControlPlaneApplication.step cfg) .init pre) := run_untimed cfg inv_init untimed_init hfpre
  intro cp cp' r hs he
  have hfo : Fresh cp o := hf.at
  have hto : o.TimesOut cfg cp r := hc.at.2.timesOut hs he
  obtain ⟨hinv', hov'⟩ := step_refines cfg hinv hfo
  obtain ⟨st, hst, -⟩ := Option.map_eq_some_iff.1 ((state?_eq cp r).symm.trans hs)
  have hstatus : cp'.overview.status r = some ⟨.timedOut, some .queueTimeout⟩ := by
    rw [hov']
    exact step_timesOut cfg hinv hfo hst hto
  refine ⟨hstatus, ?_, fun mid hmid hqueued => ?_⟩
  · have hcount : cp'.overview.timeouts r = 1 := by
      obtain ⟨now, -, hlate⟩ := timesOut_iff_reportsAt.1 hto
      obtain ⟨p, hp, hpr⟩ := List.mem_map.1 hlate
      have hzero := hu r (Or.inl ⟨p, List.mem_of_mem_filter hp, hpr⟩)
      rw [hov', step_timeouts_of_timesOut cfg hinv hfo hto, hzero]
    exact hcount
  · have hfpost : Meets (ControlPlaneApplication.step cfg) Fresh cp' post := (meets_append.1 hf).2.2
    have hs' : cp'.state? r = some .timedOut := by rw [state?_eq, hstatus]; rfl
    obtain ⟨t, ht, hterminal⟩ := run_terminal cfg hinv' (hfpost.of_prefix hmid) hs' rfl
    rw [ht] at hqueued
    cases hqueued
    cases hterminal

/-! ### An expiry that is lost -/

/-- a request that waits past its deadline -/
def lateOps : List Op := [.processThroughQueued (sampleSubmit 1) [] 0 0]

theorem expiry_reported_late :
    let cp := run (ControlPlaneApplication.step sampleSettings) .init lateOps
    let cp' := cp.step sampleSettings (.processTimeouts 40000000)
    (cp'.entry? 1).map RegisteredRequest.status = some ⟨.timedOut, some .queueTimeout⟩ ∧
      cp'.queueEvents.countP (isTimeoutOf 1) = 1 ∧ ∀ mid, mid <+: [] →
        (run (ControlPlaneApplication.step sampleSettings) cp' mid).state? 1 ≠ some .queued :=
  expiry_reported sampleSettings (lateOps ++ [.processTimeouts 40000000]) (by decide) lateOps
    (.processTimeouts 40000000) [] rfl 1 (by decide) (Or.inl (by decide))

/-- a look at the queue after the deadline: the item is gone, and the next `process_timeouts` leaves its request
QUEUED -/
theorem snapshot_loses_expiry :
    let cp := run (ControlPlaneApplication.step sampleSettings) .init lateOps
    let look : Op := .getQueueSnapshot "all" 40000000
    let cp' := (cp.step sampleSettings look).step sampleSettings (.processTimeouts 40000000)
    cp.state? 1 = some .queued ∧ look.silentExpiry sampleSettings cp = some 40000000 ∧
      (∃ item ∈ cp.items, item.requestId = 1 ∧ overdue sampleSettings.queue 40000000 item = true) ∧
      (cp.step sampleSettings look).items = [] ∧ cp'.state? 1 = some .queued ∧
      cp'.queueEvents.countP (isTimeoutOf 1) = 0 := by
  decide

end InferencePlatform.ControlPlane
