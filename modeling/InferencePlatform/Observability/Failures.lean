/-
Failures in the registry and failures in the trace.

`FailuresExplained`: a request that is FAILED, TIMED_OUT or REJECTED has its reason in the registry, and a failure
record in its trace that carries it. The queue service records a failure for a full queue and for a timeout. Nobody else
does:
- `mark_failed` emits the event before it applies the reason, or with no reason;
- a request that admission does not accept, or whose admission raises, is rejected or failed by an event with no reason;
- a transition into such a state carries the reason of the entry, which has none.
`OpExplained` says that a move does none of these, unless the trace holds a record with the reason already.
- `run_failures_explained`: then every state reached explains its failures.
- `marked_unexplained`: a request that is marked as failed has no failure record.
-/
import InferencePlatform.Observability.Platform

namespace InferencePlatform.Observability

open InferencePlatform.Core (Dict Meets run)
open InferencePlatform.Persistence (Texts)
open InferencePlatform.ControlPlane

/-- the states that need a reason -/
def failureStates : List RequestState := [.failed, .timedOut, .rejected]

/-- the trace holds a failure of the request with this reason -/
def Recounted (p : Platform) (r : UUID) (reason : FailureReason) : Prop :=
  ∃ f ∈ p.store.failuresOf r, f.failureReason = reason.value

instance (p : Platform) (r : UUID) (reason : FailureReason) : Decidable (Recounted p r reason) :=
  inferInstanceAs (Decidable (∃ f ∈ p.store.failuresOf r, f.failureReason = reason.value))

def FailuresExplained (p : Platform) : Prop :=
  ∀ r e, p.controlPlane.entry? r = some e → e.state ∈ failureStates →
    ∃ reason, e.failureReason = some reason ∧ Recounted p r reason

/-! ## The condition -/

/-- no request gets into a failure state by an event without its reason, unless the reason has been recorded before -/
def OpExplained (cfg : Settings) (p : Platform) : Op → Prop
  | .transition r toState _ _ _ =>
    ∀ st ∈ p.controlPlane.overview.status r, isAllowedTransition st.state toState = true → toState ∉ failureStates
  | .runAdmission r checks _ =>
    ∀ st ∈ p.controlPlane.overview.status r, st.state = .validated →
      ∀ a ∈ (evaluate checks).toOption, a.outcome ≠ .accept → Recounted p r .queueFull
  | .markFailed r reason _ _ _ _ => ∀ _st ∈ p.controlPlane.overview.status r, Recounted p r reason
  | .processThroughQueued submit checks _ _ =>
    p.controlPlane.overview.registered < cfg.registryMaxEntries →
      match evaluate checks with
      | .error _ => Recounted p submit.inferenceRequest.requestId .internalError
      | .ok a => a.outcome ≠ .accept → Recounted p submit.inferenceRequest.requestId .queueFull
  | _ => True

instance (cfg : Settings) (p : Platform) : (op : Op) → Decidable (OpExplained cfg p op)
  | .transition r toState _ _ _ =>
    inferInstanceAs (Decidable (∀ st ∈ p.controlPlane.overview.status r, isAllowedTransition st.state toState = true →
      toState ∉ failureStates))
  | .runAdmission r checks _ =>
    inferInstanceAs (Decidable (∀ st ∈ p.controlPlane.overview.status r, st.state = .validated →
      ∀ a ∈ (evaluate checks).toOption, a.outcome ≠ .accept → Recounted p r .queueFull))
  | .markFailed r reason _ _ _ _ =>
    inferInstanceAs (Decidable (∀ _st ∈ p.controlPlane.overview.status r, Recounted p r reason))
  | .processThroughQueued _ checks _ _ =>
    @instDecidableForall _ _ inferInstance (decidableEvaluated (evaluate checks))
  | .register .. | .enqueueFromAdmitted .. | .processTimeouts _ | .completeRequest .. | .cancel .. | .dequeueNext _
  | .peek _ | .listItems _ | .remove .. | .clear | .getQueueSnapshot .. | .getQueueStatistics _
  | .listQueuedRequests _ | .listQueueItems .. => isTrue trivial

def Explained (cfg : Settings) (p : Platform) : Move → Prop
  | .controlPlane op => OpExplained cfg p op
  | .emission _ => True

instance (cfg : Settings) (p : Platform) : (m : Move) → Decidable (Explained cfg p m)
  | .controlPlane op => inferInstanceAs (Decidable (OpExplained cfg p op))
  | .emission _ => isTrue trivial

instance (p : Platform) : (m : Move) → Decidable (m.Fresh p)
  | .controlPlane op => inferInstanceAs (Decidable (ControlPlane.Fresh p.controlPlane op))
  | .emission _ => isTrue trivial

/-! ## One step -/

variable (texts : Texts) {cfg : Settings} {p : Platform} {m : Move} {r : UUID} {st st' : Status} {op : Op}
  {notices : List Notice} {a : Annal}

/-- the control plane hangs together, and whoever has failed is explained -/
structure Accounted (p : Platform) : Prop where
  controlPlane : ControlPlane.Inv p.controlPlane
  explained : ∀ r st, p.controlPlane.overview.status r = some st → st.state ∈ failureStates →
    ∃ reason, st.reason = some reason ∧ Recounted p r reason

theorem recounted_iff {reason : FailureReason} :
    Recounted p r reason ↔ reason.value ∈ ((p.store.failuresOf r).map failureKey).map Prod.snd := by
  simp [Recounted, failureKey]

/-- what has been recorded stays -/
theorem Recounted.step (h : ControlPlane.Inv p.controlPlane) (hf : m.Fresh p) {reason : FailureReason}
    (hr : Recounted p r reason) : Recounted (p.step texts cfg m) r reason := by
  cases m with
  | controlPlane op =>
    rw [recounted_iff] at hr ⊢
    rw [step_failures texts h hf, List.map_append]
    exact List.mem_append_left _ hr
  | emission e =>
    obtain ⟨f, hmem, hreason⟩ := hr
    refine ⟨f, ?_, hreason⟩
    change f ∈ RequestTraceStore.failuresOf (p.store.emit e) r
    rw [(RequestTraceStore.emit_recorded p.store e).failures r]
    exact List.mem_append_left _ hmem

/-- a notice that is recorded as a failure explains the request -/
theorem recounted_of_notice (h : ControlPlane.Inv p.controlPlane) (hf : ControlPlane.Fresh p.controlPlane op)
    {notice : Notice} {reason : FailureReason} {failureType : String}
    (hmem : notice ∈ about r (p.controlPlane.overview.reports cfg op))
    (hnotice : noticeFailure notice = some (failureType, reason.value)) :
    Recounted (p.step texts cfg (.controlPlane op)) r reason := by
  rw [recounted_iff, step_failures texts h hf, List.map_append]
  refine List.mem_append_right _ (List.mem_map.2 ⟨_, List.mem_filterMap.2 ⟨notice, hmem, hnotice⟩, rfl⟩)

/-- an explained change leaves the request explained: by what was recorded before, or by one of the notices -/
theorem Change.explained (hchange : Change cfg p.controlPlane.overview r st op notices st')
    (hs : p.controlPlane.overview.status r = some st) (hx : OpExplained cfg p op)
    (hold : st.state ∈ failureStates → ∃ reason, st.reason = some reason ∧ Recounted p r reason)
    (hfail : st'.state ∈ failureStates) :
    ∃ reason, st'.reason = some reason ∧ (Recounted p r reason ∨
      ∃ notice ∈ notices, ∃ failureType, noticeFailure notice = some (failureType, reason.value)) := by
  cases hchange with
  | kept =>
    obtain ⟨reason, hreason, hrec⟩ := hold hfail
    exact ⟨reason, hreason, Or.inl hrec⟩
  | moved hallowed => exact absurd hfail (hx st hs hallowed)
  | admitted => cases (of_decide_eq_true rfl : RequestState.admitted ∉ failureStates) hfail
  | declined hst hres hdecline =>
    refine ⟨.queueFull, rfl, Or.inl (hx st hs hst _ ?_ hdecline)⟩
    rw [hres]
    rfl
  | queued => cases (of_decide_eq_true rfl : RequestState.queued ∉ failureStates) hfail
  | refused => exact ⟨.queueFull, rfl, Or.inr ⟨_, List.mem_singleton_self _, "queue_full", rfl⟩⟩
  | timedOut => exact ⟨.queueTimeout, rfl, Or.inr ⟨_, List.mem_singleton_self _, "queue_timeout", rfl⟩⟩
  | failed => exact ⟨_, rfl, Or.inl (hx st hs)⟩
  | completed => cases (of_decide_eq_true rfl : RequestState.completed ∉ failureStates) hfail
  | cancelled => cases (of_decide_eq_true rfl : RequestState.cancelled ∉ failureStates) hfail

theorem Birth.explained (hbirth : Birth cfg p.controlPlane.overview r op notices a) (hx : OpExplained cfg p op)
    (hfail : a.status.state ∈ failureStates) :
    ∃ reason, a.status.reason = some reason ∧ (Recounted p r reason ∨
      ∃ notice ∈ notices, ∃ failureType, noticeFailure notice = some (failureType, reason.value)) := by
  cases hbirth with
  | registered hid hinit =>
    rcases hinit with rfl | rfl
    · cases (of_decide_eq_true rfl : RequestState.received ∉ failureStates) hfail
    · cases (of_decide_eq_true rfl : RequestState.validated ∉ failureStates) hfail
  | raised hid hroom hres =>
    have hrec := hx hroom
    rw [hres, hid] at hrec
    exact ⟨.internalError, rfl, Or.inl hrec⟩
  | declined hid hroom hres hdecline =>
    have hrec := hx hroom
    rw [hres, hid] at hrec
    exact ⟨.queueFull, rfl, Or.inl (hrec hdecline)⟩
  | refused hid hroom hres haccept hfull =>
    refine ⟨.queueFull, rfl, Or.inr ⟨.queue .queueFull (some "queue_full"), ?_, "queue_full", rfl⟩⟩
    exact List.mem_append_right _ (List.mem_cons_of_mem _ List.mem_cons_self)
  | queued => cases (of_decide_eq_true rfl : RequestState.queued ∉ failureStates) hfail

theorem accounted_init : Accounted Platform.init := ⟨ControlPlane.inv_init, fun _ _ hs => by cases hs⟩

theorem accounted_step (h : Accounted p) (hf : m.Fresh p) (hx : Explained cfg p m) :
    Accounted (p.step texts cfg m) := by
  cases m with
  | emission e =>
    refine ⟨h.controlPlane, fun r st hs hfail => ?_⟩
    obtain ⟨reason, hreason, hrec⟩ := h.explained r st hs hfail
    exact ⟨reason, hreason, hrec.step texts h.controlPlane hf⟩
  | controlPlane op =>
    have hinv := (step_refines cfg h.controlPlane hf).inv
    refine ⟨hinv, fun r st' hs' hfail => ?_⟩
    -- what explains the request afterwards: an older record, or a notice of this operation
    have hcases : ∃ reason, st'.reason = some reason ∧ (Recounted p r reason ∨
        ∃ notice ∈ about r (p.controlPlane.overview.reports cfg op), ∃ failureType,
          noticeFailure notice = some (failureType, reason.value)) := by
      cases hs : p.controlPlane.overview.status r with
      | none =>
        have hbirth := step_birth cfg h.controlPlane hf hs hs'
        have hstatus := hinv.chronicle_status hs'
        rw [← hstatus] at hfail ⊢
        exact Birth.explained hbirth hx hfail
      | some st =>
        obtain ⟨st₁, hs₁, hchange, -⟩ := step_change cfg h.controlPlane hf hs
        have hsame : st₁ = st' := Option.some.inj (hs₁.symm.trans hs')
        rw [hsame] at hchange
        exact Change.explained hchange hs hx (h.explained r st hs) hfail
    obtain ⟨reason, hreason, hrec | ⟨notice, hmem, failureType, hnotice⟩⟩ := hcases
    · exact ⟨reason, hreason, hrec.step texts (m := .controlPlane op) h.controlPlane hf⟩
    · exact ⟨reason, hreason, recounted_of_notice texts h.controlPlane hf hmem hnotice⟩

theorem Accounted.failuresExplained (h : Accounted p) : FailuresExplained p := by
  intro r e he hfail
  obtain ⟨ref, hr, hget⟩ := entry?_eq_some.1 he
  exact h.explained r e.status (overview_status hr hget) hfail

/-! ## Runs -/

/-- a run that registers no id twice and whose moves are explained explains its failures in every state it reaches -/
theorem run_failures_explained (texts : Texts) (cfg : Settings) (moves : List Move)
    (hf : Meets (Platform.step texts cfg) (fun p m => m.Fresh p) Platform.init moves)
    (hx : Meets (Platform.step texts cfg) (Explained cfg) Platform.init moves) :
    ∀ pre, pre <+: moves → FailuresExplained (run (Platform.step texts cfg) Platform.init pre) := by
  intro pre hpre
  have hboth := (hf.of_prefix hpre).and (hx.of_prefix hpre)
  have hacc := hboth.run_inv (I := Accounted) (fun p m h hm => accounted_step texts h hm.1 hm.2) accounted_init
  exact hacc.failuresExplained

/-- two requests for a queue of one: the second is rejected, the first times out -/
theorem run_failures_explained_queue :
    FailuresExplained (run (Platform.step Persistence.sampleTexts tracedSettings) Platform.init
      [.controlPlane (.processThroughQueued (tracedSubmit 1) [] 1 2),
        .controlPlane (.processThroughQueued (tracedSubmit 2) [] 3 4), .controlPlane (.processTimeouts 2000000)]) :=
  run_failures_explained Persistence.sampleTexts tracedSettings _ (by decide +kernel) (by decide +kernel) _
    (List.prefix_refl _)

/-- a served request is marked as failed: its trace holds no failure -/
theorem marked_unexplained :
    let moves := servedMoves ++ [.controlPlane (.markFailed 1 .adapterError "dispatch rejected" 6 none none)]
    let p := run (Platform.step Persistence.sampleTexts tracedSettings) Platform.init moves
    Meets (Platform.step Persistence.sampleTexts tracedSettings) Orderly Platform.init moves ∧
      p.controlPlane.state? 1 = some .failed ∧ p.store.failuresOf 1 = [] ∧ ¬FailuresExplained p := by
  intro moves p
  have hstate : p.controlPlane.state? 1 = some .failed := by decide +kernel
  have hnone : p.store.failuresOf 1 = [] := by decide +kernel
  refine ⟨by decide +kernel, hstate, hnone, fun h => ?_⟩
  obtain ⟨e, he, hfailed⟩ := Option.map_eq_some_iff.1 hstate
  obtain ⟨reason, -, f, hmem, -⟩ := h 1 e he (by rw [hfailed]; decide)
  rw [hnone] at hmem
  cases hmem

end InferencePlatform.Observability
