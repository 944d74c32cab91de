/-
Lifecycle safety over whole runs.

`ALLOWED_REQUEST_TRANSITIONS` is checked in `transition` alone, yet the other writers keep to it as well, with two
exceptions. `mark_failed` has a branch of its own for a state with no edge to FAILED, terminal states included, and
moves the request to FAILED all the same: `completed_request_fails`. And `process_timeouts` never looks at the state of
a request whose queue item has expired.

`lifecycle_safety` is about the rest: over every run that registers no id twice, every other change follows the table,
so nothing but these two ever moves a request out of a terminal state. It is said of every assignment to an entry's
state (`changes`), and of what the registry shows before and after each operation.
-/
import InferencePlatform.ControlPlane.Refinement

namespace InferencePlatform.ControlPlane

open InferencePlatform.Core (Dict Meets run run_append run_cons run_nil)

variable {cfg : Settings} {cp : ControlPlaneApplication} {r : UUID}

/-! ## What an operation does to one request's state -/

namespace Overview

/-- the request stays registered, in its state or in one it is led to by `R` -/
def Follows (o o' : Overview) (r : UUID) (R : RequestState → RequestState → Prop) : Prop :=
  ∀ st, o.status r = some st → ∃ st', o'.status r = some st' ∧ (st'.state = st.state ∨ R st.state st'.state)

variable {o o' : Overview} {R : RequestState → RequestState → Prop}

theorem Follows.of_status (h : o'.status r = o.status r) : Follows o o' r R := by
  intro st hs
  exact ⟨st, h.trans hs, Or.inl rfl⟩

theorem Follows.put {r₁ : UUID} {st₁ : Status} (h : ∀ st, o.status r = some st → r = r₁ → R st.state st₁.state) :
    Follows o (o.put r₁ st₁) r R := by
  intro st hs
  by_cases hr : r = r₁
  · subst hr
    exact ⟨st₁, put_status_self o r st₁, Or.inr (h st hs rfl)⟩
  · exact ⟨st, (put_status_ne o st₁ hr).trans hs, Or.inl rfl⟩

theorem Follows.onStatus {r₁ : UUID} {f : Status → Overview}
    (h : ∀ st₁, o.status r₁ = some st₁ → Follows o (f st₁) r R) :
    Follows o (o.onStatus r₁ f) r R := by
  cases hs : o.status r₁ with
  | none =>
    rw [onStatus_none hs]
    exact Follows.of_status rfl
  | some st₁ =>
    rw [onStatus_some hs]
    exact h st₁ hs

/-- a guarded assignment to one request, which stands in the state the guard has seen -/
theorem Follows.ite_put {r₁ : UUID} {st₁ st₂ : Status} {p : Prop} [Decidable p] (hs₁ : o.status r₁ = some st₁)
    (h : p → R st₁.state st₂.state) : Follows o (if p then o.put r₁ st₂ else o) r R := by
  by_cases hp : p
  · rw [if_pos hp]
    refine Follows.put fun st hs hr => ?_
    rw [hr, hs₁] at hs
    cases hs
    exact h hp
  · rw [if_neg hp]
    exact Follows.of_status rfl

end Overview

/-- the operation expires a queue item of the request through `process_timeouts` -/
def Op.TimesOut (cfg : Settings) (cp : ControlPlaneApplication) (r : UUID) : Op → Prop
  | .processTimeouts now | .processThroughQueued _ _ now _ =>
    ∃ item ∈ cp.items, item.requestId = r ∧ overdue cfg.queue now item = true
  | _ => False

def Op.Fails (r : UUID) : Op → Prop
  | .markFailed r' _ _ _ _ _ => r' = r
  | _ => False

theorem timesOut_iff {now : Time} :
    (∃ item ∈ cp.items, item.requestId = r ∧ overdue cfg.queue now item = true) ↔
      r ∈ cp.overview.lateIds cfg.queue now := by
  simp only [Overview.lateIds, ControlPlaneApplication.overview, List.mem_map, List.mem_filter]
  constructor
  · rintro ⟨item, hitem, hid, hlate⟩
    exact ⟨item.waiting, ⟨⟨item, hitem, rfl⟩, hlate⟩, hid⟩
  · rintro ⟨_, ⟨⟨item, hitem, rfl⟩, hlate⟩, hid⟩
    exact ⟨item, hitem, hid, hlate⟩

theorem processTimeouts_status_of_not_late (cfg : Settings) {o : Overview} {now : Time}
    (h : r ∉ o.lateIds cfg.queue now) :
    (o.processTimeouts cfg.queue now).status r = o.status r := by
  simp [Overview.processTimeouts, Overview.timedOut, h]

/-- an edge of the table, or the forced failure of `mark_failed` -/
def Moves (o : Op) (r : UUID) (s t : RequestState) : Prop :=
  isAllowedTransition s t = true ∨ o.Fails r ∧ t = .failed

theorem enqueue_follows {o : Op} {ov : Overview} {r₁ : UUID} {st₁ : Status} (hs₁ : ov.status r₁ = some st₁)
    (hst₁ : st₁.state = .admitted) (reason : Option FailureReason) (now : Time) :
    ov.Follows (ov.enqueue cfg r₁ reason now) r (Moves o r) := by
  have hput : ∀ st₂ : Status, isAllowedTransition .admitted st₂.state = true →
      ov.Follows (ov.put r₁ st₂) r (Moves o r) := by
    intro st₂ hallowed
    refine Overview.Follows.put fun st hs hr => Or.inl ?_
    rw [hr, hs₁] at hs
    cases hs
    rw [hst₁]
    exact hallowed
  unfold Overview.enqueue
  split_ifs
  · exact Overview.Follows.of_status rfl
  · exact hput ⟨.rejected, some .queueFull⟩ rfl
  · exact hput ⟨.queued, reason⟩ rfl

/-- an id that is registered is not a fresh one -/
theorem ne_of_fresh (h : Inv cp) {r₁ : UUID} {st : Status} (hnone : cp.registry.get? r₁ = none)
    (hs : cp.overview.status r = some st) : r ≠ r₁ := by
  intro hr
  rw [hr, (overview_status_eq_none h).2 hnone] at hs
  cases hs

theorem step_follows (cfg : Settings) (h : Inv cp) {o : Op} (hf : Fresh cp o) (hto : ¬o.TimesOut cfg cp r) :
    cp.overview.Follows (cp.overview.step cfg o) r (Moves o r) := by
  cases o with
  | register submit initialState now =>
    simp only [Overview.step]
    split_ifs
    · exact Overview.Follows.of_status rfl
    · intro st hs
      exact ⟨st, (Overview.register_status_ne _ _ (ne_of_fresh h hf hs)).trans hs, Or.inl rfl⟩
  | transition r₁ toState now batchId backendId =>
    exact Overview.Follows.onStatus fun st₁ hs₁ => Overview.Follows.ite_put hs₁ Or.inl
  | runAdmission r₁ checks now =>
    refine Overview.Follows.onStatus fun st₁ hs₁ => ?_
    by_cases hst : st₁.state = .validated
    · rw [if_pos hst, Overview.judged.eq_def]
      cases evaluate checks with
      | error message => exact Overview.Follows.of_status rfl
      | ok a =>
        dsimp only
        split_ifs
        · refine Overview.Follows.put fun st hs hr => Or.inl ?_
          rw [hr, hs₁] at hs
          cases hs
          rw [hst]
          rfl
        · refine Overview.Follows.put fun st hs hr => Or.inl ?_
          rw [hr, hs₁] at hs
          cases hs
          rw [hst]
          rfl
    · rw [if_neg hst]
      exact Overview.Follows.of_status rfl
  | enqueueFromAdmitted r₁ now =>
    refine Overview.Follows.onStatus fun st₁ hs₁ => ?_
    by_cases hst : st₁.state = .admitted
    · rw [if_pos hst]
      exact enqueue_follows hs₁ hst st₁.reason now
    · rw [if_neg hst]
      exact Overview.Follows.of_status rfl
  | processThroughQueued submit checks now now' =>
    intro st hs
    have hlate := processTimeouts_status_of_not_late cfg (timesOut_iff.not.1 hto)
    exact ⟨st, ((intake_status _ now now' (ne_of_fresh h hf hs)).trans hlate).trans hs, Or.inl rfl⟩
  | processTimeouts now =>
    exact Overview.Follows.of_status (processTimeouts_status_of_not_late cfg (timesOut_iff.not.1 hto))
  | markFailed r₁ reason message now batchId backendId =>
    exact Overview.Follows.onStatus fun st₁ _ => Overview.Follows.put fun st _ hr => Or.inr ⟨hr.symm, rfl⟩
  | completeRequest r₁ completion now =>
    refine Overview.Follows.onStatus fun st₁ hs₁ => Overview.Follows.ite_put hs₁ fun hst => Or.inl ?_
    rcases hst with hst | hst
    · rw [hst]
      rfl
    · rw [hst]
      rfl
  | cancel r₁ now =>
    refine Overview.Follows.onStatus fun st₁ hs₁ => Overview.Follows.ite_put hs₁ fun hst => Or.inl ?_
    rcases hst with hst | hst
    · rw [hst]
      rfl
    · rw [hst]
      rfl
  | dequeueNext now => exact Overview.Follows.of_status rfl
  | peek now => exact Overview.Follows.of_status rfl
  | listItems now => exact Overview.Follows.of_status rfl
  | remove r₁ now => exact Overview.Follows.of_status rfl
  | clear => exact Overview.Follows.of_status rfl
  | getQueueSnapshot queueName now => exact Overview.Follows.of_status rfl
  | getQueueStatistics now => exact Overview.Follows.of_status rfl
  | listQueuedRequests now => exact Overview.Follows.of_status rfl
  | listQueueItems limit now => exact Overview.Follows.of_status rfl

theorem processTimeouts_status_of_late (cfg : Settings) {o : Overview} {now : Time} (h : r ∈ o.lateIds cfg.queue now) :
    (o.processTimeouts cfg.queue now).status r = some ⟨.timedOut, some .queueTimeout⟩ := by
  simp [Overview.processTimeouts, Overview.timedOut, h]

theorem step_timesOut (cfg : Settings) (h : Inv cp) {o : Op} (hf : Fresh cp o) {st : Status}
    (hs : cp.overview.status r = some st) (hto : o.TimesOut cfg cp r) :
    (cp.overview.step cfg o).status r = some ⟨.timedOut, some .queueTimeout⟩ := by
  cases o with
  | processTimeouts now => exact processTimeouts_status_of_late cfg (timesOut_iff.1 hto)
  | processThroughQueued submit checks now now' =>
    have hlate := processTimeouts_status_of_late cfg (timesOut_iff.1 hto)
    exact (intake_status _ now now' (ne_of_fresh h hf hs)).trans hlate
  | _ => exact absurd hto id

/-! ## Runs -/

theorem state?_eq (cp : ControlPlaneApplication) (r : UUID) :
    cp.state? r = (cp.overview.status r).map Status.state := by
  simp only [ControlPlaneApplication.state?, ControlPlaneApplication.overview, Option.map_map]
  rfl

/-- what the registry shows of a request before and after one operation -/
theorem step_state (cfg : Settings) (h : Inv cp) {o : Op} (hf : Fresh cp o) {s : RequestState}
    (hs : cp.state? r = some s) (hto : o.TimesOut cfg cp r → isAllowedTransition s .timedOut = true) :
    ∃ t, (cp.step cfg o).state? r = some t ∧ (t = s ∨ Moves o r s t) := by
  rw [state?_eq] at hs
  obtain ⟨st, hst, rfl⟩ := Option.map_eq_some_iff.1 hs
  rw [state?_eq, (step_refines cfg h hf).overview]
  by_cases hlate : o.TimesOut cfg cp r
  · rw [step_timesOut cfg h hf hst hlate]
    exact ⟨.timedOut, rfl, Or.inr (Or.inl (hto hlate))⟩
  · obtain ⟨st', hst', hmove⟩ := step_follows cfg h hf hlate st hst
    rw [hst']
    exact ⟨st'.state, rfl, hmove⟩

/-- no operation moves a request out of the terminal states -/
theorem step_terminal (cfg : Settings) (h : Inv cp) {o : Op} (hf : Fresh cp o) {s : RequestState}
    (hs : cp.state? r = some s) (hterminal : isTerminalRequestState s = true) :
    ∃ t, (cp.step cfg o).state? r = some t ∧ isTerminalRequestState t = true := by
  rw [state?_eq] at hs
  obtain ⟨st, hst, rfl⟩ := Option.map_eq_some_iff.1 hs
  rw [state?_eq, (step_refines cfg h hf).overview]
  by_cases hlate : o.TimesOut cfg cp r
  · rw [step_timesOut cfg h hf hst hlate]
    exact ⟨.timedOut, rfl, rfl⟩
  · obtain ⟨st', hst', hmove⟩ := step_follows cfg h hf hlate st hst
    rw [hst']
    refine ⟨st'.state, rfl, ?_⟩
    rcases hmove with hsame | hallowed | ⟨-, hfailed⟩
    · rw [hsame]
      exact hterminal
    · rw [isAllowedTransition_of_terminal hterminal] at hallowed
      cases hallowed
    · rw [hfailed]
      rfl

theorem run_terminal (cfg : Settings) (h : Inv cp) {ops : List Op}
    (hf : Meets (ControlPlaneApplication.step cfg) Fresh cp ops) {s : RequestState} (hs : cp.state? r = some s)
    (hterminal : isTerminalRequestState s = true) :
    ∃ t, (run (ControlPlaneApplication.step cfg) cp ops).state? r = some t ∧ isTerminalRequestState t = true := by
  induction ops generalizing cp s with
  | nil => exact ⟨s, hs, hterminal⟩
  | cons o ops ih =>
    obtain ⟨t, ht, hterminal'⟩ := step_terminal cfg h hf.1 hs hterminal
    exact ih (step_refines cfg h hf.1).inv hf.2 ht hterminal'

/-- an assignment of `process_timeouts` follows the table when the request may time out -/
theorem StateChange.Legal.follows {c : StateChange} (h : c.Legal)
    (hto : c.writer = .processTimeouts → isAllowedTransition c.fromState .timedOut = true) :
    c.fromState = c.toState ∨ isAllowedTransition c.fromState c.toState = true ∨
      c.writer = .markFailed ∧ c.toState = .failed := by
  unfold StateChange.Legal at h
  cases hc : c.writer with
  | markFailed =>
    rw [hc] at h
    exact Or.inr (Or.inr ⟨rfl, h⟩)
  | processTimeouts =>
    rw [hc] at h
    rw [show c.toState = .timedOut from h]
    exact Or.inr (Or.inl (hto hc))
  | transition =>
    rw [hc] at h
    exact h.imp id Or.inl
  | runAdmission =>
    rw [hc] at h
    exact h.imp id Or.inl
  | enqueue =>
    rw [hc] at h
    exact h.imp id Or.inl

/-- Over every run that registers no id twice, a queue timeout of a request that has no edge to TIMED_OUT apart:
* the assignments to an entry's state lead from its first state to its present one, and each leaves the state as it is,
  follows an edge of the table, or is a failure set by `mark_failed`;
* an operation leaves a request in its state, moves it along an edge, or is a `mark_failed` of it; so in a terminal
state
  the request stays, whatever operation but `mark_failed` comes. -/
theorem lifecycle_safety (cfg : Settings) (ops : List Op)
    (hf : Meets (ControlPlaneApplication.step cfg) Fresh .init ops) :
    (∀ e ∈ (run (ControlPlaneApplication.step cfg) .init ops).entries,
      (∃ s, e.changes.map StateChange.fromState ++ [e.state] = s :: e.changes.map StateChange.toState) ∧
      ∀ c ∈ e.changes, (c.writer = .processTimeouts → isAllowedTransition c.fromState .timedOut = true) →
        c.fromState = c.toState ∨ isAllowedTransition c.fromState c.toState = true ∨
          c.writer = .markFailed ∧ c.toState = .failed) ∧
    ∀ pre o post, ops = pre ++ o :: post →
      let cp := run (ControlPlaneApplication.step cfg) .init pre
      ∀ r s, cp.state? r = some s → (o.TimesOut cfg cp r → isAllowedTransition s .timedOut = true) →
        ∃ t, (cp.step cfg o).state? r = some t ∧
          (t = s ∨ isAllowedTransition s t = true ∨ o.Fails r ∧ t = .failed) ∧
          (isTerminalRequestState s = true → ¬o.Fails r → t = s) := by
  constructor
  · intro e he
    have hrec := (run_inv_of_fresh cfg inv_init hf).recorded e he
    exact ⟨hrec.path, fun c hc hto => (hrec.legal c hc).follows hto⟩
  · intro pre o post hops
    subst hops
    have hinv : Inv (run (ControlPlaneApplication.step cfg) .init pre) :=
      run_inv_of_fresh cfg inv_init (hf.of_prefix (List.prefix_append _ _))
    intro cp r s hs hto
    obtain ⟨t, ht, hmove⟩ := step_state cfg hinv hf.at hs hto
    refine ⟨t, ht, hmove, fun hterminal hfails => ?_⟩
    rcases hmove with hsame | hallowed | ⟨hof, -⟩
    · exact hsame
    · rw [isAllowedTransition_of_terminal hterminal t] at hallowed
      cases hallowed
    · exact absurd hof hfails

/-! ### A completed request that fails -/

def sampleSettings : Settings := { registryMaxEntries := 10, queue := { maxQueueSize := 10, queueTimeoutMs := 30000 } }

def sampleSubmit (requestId : UUID) : SubmitRequest :=
  { inferenceRequest :=
      { requestId, model := "m", messages := [], stream := false, maxTokens := 1, priorityClass := none }
    requestContext := { traceId := "t", arrivalTime := 0 } }

/-- a request registered, enqueued and executed to its end -/
def completedOps : List Op :=
  [.processThroughQueued (sampleSubmit 1) [] 0 0, .transition 1 .scheduled 0 none none,
    .transition 1 .batched 0 none none, .transition 1 .submitted 0 none none, .completeRequest 1 none 0]

theorem lifecycle_safety_completed :
    (∀ e ∈ (run (ControlPlaneApplication.step sampleSettings) .init completedOps).entries,
      (∃ s, e.changes.map StateChange.fromState ++ [e.state] = s :: e.changes.map StateChange.toState) ∧
      ∀ c ∈ e.changes, (c.writer = .processTimeouts → isAllowedTransition c.fromState .timedOut = true) →
        c.fromState = c.toState ∨ isAllowedTransition c.fromState c.toState = true ∨
          c.writer = .markFailed ∧ c.toState = .failed) ∧
    ∀ pre o post, completedOps = pre ++ o :: post →
      let cp := run (ControlPlaneApplication.step sampleSettings) .init pre
      ∀ r s, cp.state? r = some s → (o.TimesOut sampleSettings cp r → isAllowedTransition s .timedOut = true) →
        ∃ t, (cp.step sampleSettings o).state? r = some t ∧
          (t = s ∨ isAllowedTransition s t = true ∨ o.Fails r ∧ t = .failed) ∧
          (isTerminalRequestState s = true → ¬o.Fails r → t = s) :=
  lifecycle_safety sampleSettings completedOps (by decide)

/-- COMPLETED has no edge to FAILED, and `mark_failed` takes the request there -/
theorem completed_request_fails :
    let cp := run (ControlPlaneApplication.step sampleSettings) .init completedOps
    Meets (ControlPlaneApplication.step sampleSettings) Fresh .init
        (completedOps ++ [.markFailed 1 .internalError "already terminal" 0 none none]) ∧
      cp.state? 1 = some .completed ∧ isAllowedTransition .completed .failed = false ∧
      (cp.step sampleSettings (.markFailed 1 .internalError "already terminal" 0 none none)).state? 1 =
        some .failed := by
  decide

end InferencePlatform.ControlPlane
