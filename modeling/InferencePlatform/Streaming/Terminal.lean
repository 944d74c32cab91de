/-
The outcome of a stream.

A run counts a completed stream at every chunk with a finish reason, a cancelled one when it handles a cancellation and
a failed one when an exception reaches its handler, which also closes the stream and fails the request. So the outcome
is right exactly when these do not meet: `ClosesOnce`.

- `terminal_law_iff`: a run records one outcome, closes the stream at most once and never fails a COMPLETED request
  exactly when `ClosesOnce` holds of what happens to it;
- `streams_balance`: over any number of such runs the streams created are the streams ended.
-/
import InferencePlatform.ControlPlane.Safety
import InferencePlatform.Streaming.Spec

namespace InferencePlatform.Streaming

open ControlPlane (ControlPlaneApplication Op Linked Serves)

variable {cfg : ControlPlane.Settings} {submit : SubmitRequest} {env : Environment} {s₀ s s' : StreamState} {k : ℕ}

/-! ## The law -/

/-- nothing follows a closing frame, so there is one at most -/
def ClosedOnce (frames : List String) : Prop := ∀ before after, frames = before ++ formatSseDone :: after → after = []

/-- what a run that starts in `s` and ends in `s'` has recorded, sent and failed -/
structure Lawful (s s' : StreamState) : Prop where
  created : s'.metrics.created = s.metrics.created + 1
  ended : s'.metrics.ended = s.metrics.ended + 1
  closed : ClosedOnce s'.frames
  marked : some .completed ∉ s'.marked

/-! ## When it holds -/

section Condition

variable (cfg : ControlPlane.Settings) (submit : SubmitRequest) (env : Environment)

/-- the request is not COMPLETED when the failure of its stream is stored -/
def Storable (cp : ControlPlaneApplication) : Prop :=
  (afterOthers cfg env.afterFailure cp).state? submit.inferenceRequest.requestId ≠ some .completed

/-- the backend's stream ends, and the batch engine and the lifecycle complete the request -/
def Completes (cp : ControlPlaneApplication) : Prop :=
  env.ending.answer = .ok () ∧ env.batch = none ∧
    ((afterOthers cfg env.ending.meanwhile cp).state? submit.inferenceRequest.requestId = some .submitted ∨
      (afterOthers cfg env.ending.meanwhile cp).state? submit.inferenceRequest.requestId = some .streaming)

/-- after the last chunk, when `k` of the chunks had a finish reason -/
def ClosesAtEnd (k : ℕ) (cp : ControlPlaneApplication) : Prop :=
  (Completes cfg submit env cp → k = 1 ∧ env.capture = none) ∧
    (¬Completes cfg submit env cp → k = 0 ∧ Storable cfg submit env (afterOthers cfg env.ending.meanwhile cp))

/-- before a chunk, when `k` of the chunks before it had a finish reason -/
def Closes (k : ℕ) (cp : ControlPlaneApplication) : List Delivery → Prop
  | [] => ClosesAtEnd cfg submit env k cp
  | d :: rest =>
    match d.incident with
    | .passes => Closes (k + if d.chunk.finishes then 1 else 0) (d.reached cfg cp) rest
    | .cancels => k = 0 ∧ CancelReturns env
    | .raises _ => k = 0 ∧ Storable cfg submit env (d.reached cfg cp)

/-- - the path to the backend's stream refuses no COMPLETED request, and raises for none;
- a stream that is cancelled or raises has had no chunk with a finish reason; cancelling it raises nothing, and the
  request of one that raises is not COMPLETED when the failure is stored;
- a stream that ends has had one such chunk, and storing its result raises nothing. -/
def ClosesOnce (s : StreamState) : Prop :=
  (Refused env → (afterOthers cfg env.opening.meanwhile s.controlPlane).state? submit.inferenceRequest.requestId ≠
    some .completed) ∧
  match EStateM.run (openStream cfg submit env) s with
  | .ok _ s' => Closes cfg submit env 0 s'.controlPlane env.deliveries
  | .error _ s' => Storable cfg submit env s'.controlPlane

end Condition

/-! ## Frames -/

theorem closedOnce_of_not_mem {frames : List String} (h : formatSseDone ∉ frames) : ClosedOnce frames := by
  intro before after heq
  exact absurd (heq ▸ List.mem_append_right _ List.mem_cons_self) h

theorem closedOnce_append_done {frames : List String} :
    ClosedOnce (frames ++ [formatSseDone]) ↔ formatSseDone ∉ frames := by
  constructor
  · intro h hmem
    obtain ⟨before, after, rfl⟩ := List.append_of_mem hmem
    have hnil := h before (after ++ [formatSseDone]) (by simp)
    simp at hnil
  · intro h before after heq
    rcases List.eq_nil_or_concat after with rfl | ⟨after', last, rfl⟩
    · rfl
    · have hfront : frames = before ++ formatSseDone :: after' := by
        rw [List.concat_eq_append, ← List.cons_append, ← List.append_assoc] at heq
        exact (List.append_inj' heq rfl).1
      exact absurd (hfront ▸ List.mem_append_right _ List.mem_cons_self) h

/-! ## While a run goes on -/

/-- the run has counted `k` ended streams, and neither closed its own nor failed a COMPLETED request -/
structure Running (k : ℕ) (s₀ s : StreamState) : Prop where
  created : s.metrics.created = s₀.metrics.created + 1
  ended : s.metrics.ended = s₀.metrics.ended + k
  open_ : formatSseDone ∉ s.frames
  marked : some .completed ∉ s.marked

theorem Running.cancels (h : Running k s₀ s) (hc : Cancels s s') : Running (k + 1) s₀ s' where
  created := by rw [hc.metrics, h.created]
  ended := by
    have hended := h.ended
    rw [StreamMetrics.ended] at hended
    rw [hc.metrics, StreamMetrics.ended]
    dsimp only
    omega
  open_ := hc.frames ▸ h.open_
  marked := hc.marked ▸ h.marked

theorem Running.opens {r : UUID} (h : Running k s₀ s) (ho : Opens r s s') : Running k s₀ s' where
  created := by rw [ho.metrics, h.created]
  ended := by rw [ho.metrics, h.ended]
  open_ := ho.frames ▸ h.open_
  marked := ho.marked ▸ h.marked

/-- a run that stops where it is has one outcome when it has counted one -/
theorem Running.lawful_iff (h : Running k s₀ s) : Lawful s₀ s ↔ k = 1 := by
  constructor
  · intro hlaw
    have hended := hlaw.ended
    rw [h.ended] at hended
    omega
  · intro hk
    exact ⟨h.created, hk ▸ h.ended, closedOnce_of_not_mem h.open_, h.marked⟩

/-- an exception ends the run with one more outcome and a closing frame -/
theorem Running.fails (h : Running k s₀ s) (hlinked : ∃ R, Linked R s.controlPlane) (message : String) :
    Lawful s₀ ((failStream cfg submit env message).final s) ↔ k = 0 ∧ Storable cfg submit env s.controlPlane := by
  obtain ⟨s', frame, hfinal, hframes, hframe, hmetrics, hmarked⟩ :=
    failStream_final cfg submit env hlinked message
  have hcreated : s'.metrics.created = s.metrics.created := by rw [hmetrics]
  have hended : s'.metrics.ended = s.metrics.ended + 1 := by
    rw [hmetrics, StreamMetrics.ended, StreamMetrics.ended]
    dsimp only
    omega
  have hopen : formatSseDone ∉ s.frames ++ [frame] := by
    intro hmem
    rcases List.mem_append.1 hmem with hmem | hmem
    · exact h.open_ hmem
    · exact hframe (List.mem_singleton.1 hmem).symm
  rw [hfinal]
  constructor
  · intro hlaw
    have hk := hlaw.ended
    rw [hended, h.ended] at hk
    exact ⟨by omega, fun hstate => hlaw.marked (hmarked.2 (Or.inr hstate))⟩
  · rintro ⟨rfl, hstorable⟩
    refine ⟨hcreated.trans h.created, by rw [hended, h.ended], ?_, fun hmem => ?_⟩
    · rw [hframes]
      exact closedOnce_append_done.2 hopen
    · exact (hmarked.1 hmem).elim h.marked hstorable

/-! ## The end of a run -/

/-- the `try` block from a chunk on -/
def continueStream (cfg : ControlPlane.Settings) (submit : SubmitRequest) (env : Environment)
    (created : ℕ) (roleSent : Bool) (previous : Option Time) (deliveries : List Delivery) : StreamM Unit := do
  if ← deliver cfg submit env created roleSent previous deliveries then
    finishStream cfg submit env
    send formatSseDone
    others cfg env.afterDone
    persistStreamMetrics submit env

/-- the state a run is left in -/
def endOf (cfg : ControlPlane.Settings) (submit : SubmitRequest) (env : Environment) (x : StreamM Unit)
    (s : StreamState) :
    StreamState :=
  (tryCatch x (failStream cfg submit env)).final s

theorem endOf_ok {x : StreamM Unit} (h : EStateM.run x s = .ok () s') : endOf cfg submit env x s = s' := by
  rw [endOf, StreamM.final_tryCatch, h]

theorem endOf_error {x : StreamM Unit} {message : String} (h : EStateM.run x s = .error message s') :
    endOf cfg submit env x s = (failStream cfg submit env message).final s' := by
  rw [endOf, StreamM.final_tryCatch, h]

theorem endOf_congr {x y : StreamM Unit} (h : EStateM.run x s = EStateM.run y s') :
    endOf cfg submit env x s = endOf cfg submit env y s' := by
  rw [endOf, endOf, StreamM.final_tryCatch, StreamM.final_tryCatch, h]

variable (cfg env) in
theorem finishStream_run (h : Serves submit.inferenceRequest.requestId s.controlPlane) :
    (Completes cfg submit env s.controlPlane → ∃ cp', EStateM.run (finishStream cfg submit env) s =
      .ok () { s with controlPlane := cp' } ∧ Serves submit.inferenceRequest.requestId cp') ∧
    (¬Completes cfg submit env s.controlPlane → ∃ message, EStateM.run (finishStream cfg submit env) s =
      .error message { s with controlPlane := afterOthers cfg env.ending.meanwhile s.controlPlane }) := by
  have hserves : Serves submit.inferenceRequest.requestId (afterOthers cfg env.ending.meanwhile s.controlPlane) :=
    h.run cfg env.ending.meanwhile
  obtain ⟨hok, herror⟩ := completeRequest_serves hserves env.ending.now
  constructor
  · rintro ⟨hanswer, hbatch, hrunning⟩
    obtain ⟨ref, cp', hrun, hserves'⟩ := hok hrunning
    have hlift := onControlPlane_ok
      (s := { s with controlPlane := afterOthers cfg env.ending.meanwhile s.controlPlane }) hrun
    refine ⟨cp', ?_, hserves'⟩
    rw [finishStream, StreamM.bind_run_ok (awaiting_ok _ hanswer s), hbatch, StreamM.bind_run_ok (orRaise_none_run _),
      StreamM.bind_run_ok hlift]
    rfl
  · intro hno
    cases hanswer : env.ending.answer with
    | error message => exact ⟨message, StreamM.bind_run_error (awaiting_error hanswer s) _⟩
    | ok u =>
      cases hbatch : env.batch with
      | some message =>
        refine ⟨message, ?_⟩
        rw [finishStream, StreamM.bind_run_ok (awaiting_ok _ hanswer s), hbatch]
        exact StreamM.bind_run_error (orRaise_some_run message _) _
      | none =>
        obtain ⟨err, hrun⟩ := herror fun hrunning => hno ⟨hanswer, hbatch, hrunning⟩
        have hlift := onControlPlane_error
          (s := { s with controlPlane := afterOthers cfg env.ending.meanwhile s.controlPlane }) hrun
        refine ⟨err.message, ?_⟩
        rw [finishStream, StreamM.bind_run_ok (awaiting_ok _ hanswer s), hbatch,
          StreamM.bind_run_ok (orRaise_none_run _)]
        exact StreamM.bind_run_error hlift _

section Continue

variable (created : ℕ) (roleSent : Bool) (previous : Option Time)

theorem continueStream_nil (s : StreamState) :
    EStateM.run (continueStream cfg submit env created roleSent previous []) s = EStateM.run (do
      finishStream cfg submit env
      send formatSseDone
      others cfg env.afterDone
      persistStreamMetrics submit env) s := by
  rw [continueStream, deliver, StreamM.bind_run_ok (EStateM.run_pure _ _), if_pos rfl]

/-- all chunks are delivered -/
theorem Running.atEnd (h : Running k s₀ s) (hserves : Serves submit.inferenceRequest.requestId s.controlPlane) :
    Lawful s₀ (endOf cfg submit env (continueStream cfg submit env created roleSent previous []) s) ↔
      ClosesAtEnd cfg submit env k s.controlPlane := by
  obtain ⟨hok, herror⟩ := finishStream_run cfg env hserves
  rw [endOf_congr (continueStream_nil created roleSent previous s)]
  by_cases hcompletes : Completes cfg submit env s.controlPlane
  · have hcond : ClosesAtEnd cfg submit env k s.controlPlane ↔ k = 1 ∧ env.capture = none := by
      simp only [ClosesAtEnd, hcompletes, not_true_eq_false, true_imp_iff, false_imp_iff, and_true]
    obtain ⟨cp', hrun, hserves'⟩ := hok hcompletes
    set s₁ : StreamState :=
      { s with
        controlPlane := afterOthers cfg env.afterDone cp'
        frames := s.frames ++ [formatSseDone] } with hs₁
    have hpersist := persistStreamMetrics_run env (s := s₁) (hserves'.run cfg env.afterDone)
    have hall : EStateM.run (do
        finishStream cfg submit env
        send formatSseDone
        others cfg env.afterDone
        persistStreamMetrics submit env) s = EStateM.run (persistStreamMetrics submit env) s₁ := by
      rw [StreamM.bind_run_ok hrun, StreamM.bind_run_ok (send_run _ _), StreamM.bind_run_ok (others_run _ _)]
    rw [hcond]
    cases hcapture : env.capture with
    | none =>
      rw [hcapture] at hpersist
      rw [endOf_ok (hall.trans hpersist)]
      constructor
      · intro hlaw
        have hk := hlaw.ended
        have hended : (persisted submit.inferenceRequest.requestId s₁).metrics.ended = s₀.metrics.ended + k := h.ended
        exact ⟨by omega, rfl⟩
      · rintro ⟨rfl, -⟩
        exact ⟨h.created, h.ended, closedOnce_append_done.2 h.open_, h.marked⟩
    | some message =>
      rw [hcapture] at hpersist
      -- the stream is closed already: its failure closes it again
      obtain ⟨s', frame, hfinal, hframes, -, -, -⟩ := failStream_final cfg submit env
        (s := persisted submit.inferenceRequest.requestId s₁) (hserves'.run cfg env.afterDone).linked message
      rw [endOf_error (hall.trans hpersist), hfinal]
      constructor
      · intro hlaw
        have hclosed := hlaw.closed
        rw [hframes, closedOnce_append_done] at hclosed
        exact absurd (List.mem_append_left _ (List.mem_append_right _ List.mem_cons_self)) hclosed
      · rintro ⟨-, hnone⟩
        cases hnone
  · have hcond : ClosesAtEnd cfg submit env k s.controlPlane ↔
        k = 0 ∧ Storable cfg submit env (afterOthers cfg env.ending.meanwhile s.controlPlane) := by
      simp only [ClosesAtEnd, hcompletes, not_false_eq_true, true_imp_iff, false_imp_iff, true_and]
    obtain ⟨message, hrun⟩ := herror hcompletes
    rw [hcond, endOf_error (StreamM.bind_run_error hrun _)]
    have hrunning : Running k s₀ { s with controlPlane := afterOthers cfg env.ending.meanwhile s.controlPlane } :=
      ⟨h.created, h.ended, h.open_, h.marked⟩
    exact hrunning.fails (hserves.run cfg env.ending.meanwhile).linked message

/-! ## The loop -/

theorem Running.delivers (deliveries : List Delivery) (h : Running k s₀ s)
    (hserves : Serves submit.inferenceRequest.requestId s.controlPlane) (hbackend : s.session.backendId.isSome) :
    Lawful s₀ (endOf cfg submit env (continueStream cfg submit env created roleSent previous deliveries) s) ↔
      Closes cfg submit env k s.controlPlane deliveries := by
  induction deliveries generalizing k s roleSent previous with
  | nil => exact h.atEnd created roleSent previous hserves
  | cons d rest ih =>
    rw [Closes]
    cases hincident : d.incident with
    | passes =>
      obtain ⟨previous', s', hrun, haccounts⟩ :=
        deliver_passes cfg submit env created roleSent previous d rest hincident s
      have hcontinue : EStateM.run (continueStream cfg submit env created roleSent previous (d :: rest)) s =
          EStateM.run (continueStream cfg submit env created
            (roleSent || includesRole roleSent d.chunk) previous' rest) s' := by
        simp only [continueStream, EStateM.run_bind, hrun]
      have hrunning : Running (k + if d.chunk.finishes then 1 else 0) s₀ s' := by
        refine ⟨haccounts.created.trans h.created, ?_, ?_, haccounts.marked ▸ h.marked⟩
        · have hended := h.ended
          rw [StreamMetrics.ended] at hended ⊢
          rw [haccounts.completed, haccounts.failed, haccounts.cancelled]
          dsimp only
          omega
        · rw [haccounts.frames]
          intro hmem
          rcases List.mem_append.1 hmem with hmem | hmem
          · exact h.open_ hmem
          · exact formatSseData_obj_ne _ (List.mem_singleton.1 hmem).symm
      rw [endOf_congr hcontinue]
      have hcp : s'.controlPlane = d.reached cfg s.controlPlane := haccounts.controlPlane
      rw [← hcp]
      refine ih _ previous' hrunning ?_ ?_
      · rw [hcp]
        exact Delivery.reached_serves hserves d
      · rw [haccounts.backendId]
        exact hbackend
    | cancels =>
      obtain ⟨ops, hrun⟩ :=
        deliver_cancels cfg submit env created roleSent previous d rest hincident s
      set s₁ : StreamState := { s with controlPlane := afterOthers cfg ops s.controlPlane } with hs₁
      have hrunning : Running k s₀ s₁ := ⟨h.created, h.ended, h.open_, h.marked⟩
      obtain ⟨hok, herror⟩ := handleCancel_run cfg submit env (s := s₁)
        (hserves.run cfg ops) hbackend d.now
      by_cases hreturns : CancelReturns env
      · obtain ⟨u, s', hcancel, hcancels⟩ := hok hreturns
        have hcontinue : EStateM.run (continueStream cfg submit env created roleSent previous (d :: rest)) s =
            .ok () s' := by
          simp only [continueStream, EStateM.run_bind, hrun, hcancel]
          rfl
        rw [endOf_ok hcontinue, (hrunning.cancels hcancels).lawful_iff]
        simp [hreturns]
      · obtain ⟨message, s', hcancel, hcancels, hlinked⟩ := herror hreturns
        have hcontinue : EStateM.run (continueStream cfg submit env created roleSent previous (d :: rest)) s =
            .error message s' := by
          simp only [continueStream, EStateM.run_bind, hrun, hcancel]
        rw [endOf_error hcontinue, (hrunning.cancels hcancels).fails hlinked]
        simp [hreturns]
    | raises message =>
      have hrun := deliver_raises cfg submit env created roleSent previous d rest hincident s
      have hcontinue : EStateM.run (continueStream cfg submit env created roleSent previous (d :: rest)) s =
          .error message { s with controlPlane := d.reached cfg s.controlPlane } := StreamM.bind_run_error hrun _
      have hrunning : Running k s₀ { s with controlPlane := d.reached cfg s.controlPlane } :=
        ⟨h.created, h.ended, h.open_, h.marked⟩
      rw [endOf_error hcontinue]
      exact hrunning.fails (Delivery.reached_serves hserves d).linked message

end Continue

/-! ## Runs -/

/-- the state in which the `try` block is entered -/
def begun (s : StreamState) : StreamState :=
  { s with
    metrics := { s.metrics with created := s.metrics.created + 1 }
    events := s.events ++ [{ eventType := .streamCreated }]
    session := { s.session with state := .streamCreated } }

theorem streamSse_final (s : StreamState) : (streamSse cfg submit env).final s =
    endOf cfg submit env (runStream cfg submit env (seconds s.session.timing.requestReceivedTime)) (begun s) := by
  simp only [streamSse, StreamM.final, endOf, EStateM.run_bind, modifyMetrics_run, emit_run, modifySession_run,
    EStateM.run_get]
  rfl

/-- **The terminal law.** In every control plane that can be reached, a stream that meets whatever chunks, exceptions,
cancellations and operations of other tasks records one outcome, closes its stream at most once and fails no COMPLETED
request exactly when `ClosesOnce` holds of them. -/
theorem terminal_law_iff (cfg : ControlPlane.Settings) (ops : List Op) (submit : SubmitRequest) (env : Environment)
    (streamId : UUID) (receivedAt : Time) (metrics : StreamMetrics) :
    let s := StreamState.start (Core.run (ControlPlaneApplication.step cfg) .init ops) streamId receivedAt metrics
    Lawful s ((streamSse cfg submit env).final s) ↔ ClosesOnce cfg submit env (begun s) := by
  intro s
  have hlinked : ∃ R, Linked R (begun s).controlPlane := ControlPlane.run_linked cfg ops
  have hbegun : Running 0 s (begun s) := ⟨rfl, rfl, List.not_mem_nil, List.not_mem_nil⟩
  have hopen := openStream_run cfg submit env hlinked
  rw [streamSse_final, ClosesOnce]
  set created := seconds s.session.timing.requestReceivedTime with hcreated
  cases hrun : EStateM.run (openStream cfg submit env) (begun s) with
  | ok u s' =>
    rw [hrun] at hopen
    have hcontinue : EStateM.run (runStream cfg submit env created) (begun s) =
        EStateM.run (continueStream cfg submit env created false none env.deliveries) s' := StreamM.bind_run_ok hrun _
    -- the path refuses a request only by raising
    have hrefused : Refused env → (afterOthers cfg env.opening.meanwhile (begun s).controlPlane).state?
        submit.inferenceRequest.requestId ≠ some .completed := by
      intro hrefused
      exact absurd hrun (refused_raises hrefused u s')
    rw [endOf_congr hcontinue,
      (hbegun.opens hopen).delivers created false none env.deliveries hopen.serves hopen.backendId]
    exact (and_iff_right hrefused).symm
  | error message s' =>
    rw [hrun] at hopen
    have hcontinue : EStateM.run (runStream cfg submit env created) (begun s) = .error message s' :=
      StreamM.bind_run_error hrun _
    rw [endOf_error hcontinue]
    dsimp only
    by_cases hfound : Refused env ∧ (afterOthers cfg env.opening.meanwhile (begun s).controlPlane).state?
        submit.inferenceRequest.requestId = some .completed
    · have hmarked : some .completed ∈ s'.marked := hopen.marked.2 (Or.inr hfound)
      obtain ⟨s'', frame, hfinal, -, -, -, hiff⟩ := failStream_final cfg submit env
        hopen.linked message
      rw [hfinal]
      constructor
      · intro hlaw
        exact absurd (hiff.2 (Or.inl hmarked)) hlaw.marked
      · intro hcond
        exact absurd hfound.2 (hcond.1 hfound.1)
    · have hrunning : Running 0 s s' := by
        refine ⟨?_, ?_, ?_, ?_⟩
        · rw [hopen.metrics]
          rfl
        · rw [hopen.metrics]
          rfl
        · rw [hopen.frames]
          exact List.not_mem_nil
        · rw [hopen.marked]
          rintro (hmem | hfound')
          · cases hmem
          · exact hfound hfound'
      rw [hrunning.fails hopen.linked message]
      constructor
      · rintro ⟨-, hstorable⟩
        exact ⟨fun hrefused hstate => hfound ⟨hrefused, hstate⟩, hstorable⟩
      · rintro ⟨-, hstorable⟩
        exact ⟨rfl, hstorable⟩

/-- streams created by lawful runs are streams ended by them -/
theorem streams_balance (runs : List (StreamState × StreamState)) (h : ∀ p ∈ runs, Lawful p.1 p.2) :
    (runs.map fun p => p.2.metrics.created - p.1.metrics.created).sum =
      (runs.map fun p => p.2.metrics.ended - p.1.metrics.ended).sum := by
  refine congrArg List.sum (List.map_congr_left fun p hp => ?_)
  have hlaw := h p hp
  rw [hlaw.created, hlaw.ended]
  omega

/-! ### A failure after the end -/

def samplePlacement : Batching.BatchPlacementDecision :=
  { requestId := 1, batchId := 7, assignment := ⟨1, 0, (ControlPlane.sampleSubmit 1).inferenceRequest⟩
    decisionReason := "fifo", correlationId := "t" }

/-- one chunk with a text and a finish reason; what storing the result raises is a parameter -/
def sampleEnvironment (capture : Option String) : Environment where
  opening :=
    { meanwhile := [.processThroughQueued (ControlPlane.sampleSubmit 1) [] 0 0]
      answer := .ok (.dispatched samplePlacement ⟨7, "mock", true, "accepted"⟩)
      now := 1 }
  hasBackend := fun _ => true
  deliveries :=
    [{ chunk := { requestId := 1, index := 0, deltaText := "a", finishReason := "stop", timestamp := 2,
                  isFirst := true }
       now := 2 }]
  ending := { answer := .ok (), now := 3 }
  cancelRequest := { answer := .ok (), now := 3 }
  capture
  failedAt := 4

def sampleStart : StreamState := .start .init 9 0 {}

/-- the store raises after the stream has been completed and closed: the stream is failed as well and closed again, and
the request goes from COMPLETED to FAILED -/
theorem late_failure_closes_twice :
    let s' := (streamSse ControlPlane.sampleSettings (ControlPlane.sampleSubmit 1)
      (sampleEnvironment "disk full")).final
      sampleStart
    s'.metrics.completed = 1 ∧ s'.metrics.failed = 1 ∧ s'.frames.count formatSseDone = 2 ∧
      s'.marked = [some .completed] ∧
      s'.controlPlane.state? 1 = some .failed ∧ ¬Lawful sampleStart s' := by
  intro s'
  have hmarked : s'.marked = [some .completed] := by decide +kernel
  refine ⟨by decide +kernel, by decide +kernel, by decide +kernel, hmarked, by decide +kernel, fun hlaw => ?_⟩
  exact hlaw.marked (hmarked ▸ List.mem_cons_self)

end InferencePlatform.Streaming
