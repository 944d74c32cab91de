/-
The two reconstructions of a terminal request: from the record captured of it, and from its live trace.

Both read the same timeline, so their histories agree always. The terminal state and the failure reason do not come from
the same place: a record holds what the registry held; from a live trace they are inferred, the state as the last
`lifecycle_state` of a kind that ends a request, the reason as the type of the last failure. The inferred ones are those
of the registry
- after a full queue and after a queue timeout, whose failures have the reason as their type;
- after a completion, a failure or a rejection that leaves no reason, if no failure has been recorded before.
They are not after a cancellation, which no event announces, after a failure marked with a reason, which no failure
record carries, after a rejection by admission, or when a batch of a terminal request is rejected later. `Settled` says
that a move does none of these.
- `run_reconstructions_agree`: in a run whose moves are orderly and settled, the two agree in every state reached.
- `marked_reconstructed`: a request that is marked as failed is reconstructed without its reason.
-/
import InferencePlatform.Observability.Platform
import InferencePlatform.Replay.Capture

namespace InferencePlatform.Replay

open InferencePlatform.Core (Dict Meets run)
open InferencePlatform.Persistence (Texts)
open InferencePlatform.ControlPlane
open InferencePlatform.Observability

/-! ## What agrees -/

/-- the same histories -/
structure Alike (x y : ReconstructedExecution) : Prop where
  lifecycle : x.lifecycleHistory = y.lifecycleHistory
  scheduler : x.schedulerDecisions = y.schedulerDecisions
  batch : x.batchHistory = y.batchHistory
  backend : x.backendInteractions = y.backendInteractions
  queue : x.queueEvents = y.queueEvents
  failures : x.failures = y.failures

/-- it ends as the entry does: in its state, for its reason -/
def EndsAs (x : ReconstructedExecution) (e : RegisteredRequest) : Prop :=
  x.terminalOutcome.map (fun outcome => (outcome.state, outcome.failureReason)) =
    some (e.state.value, e.failureReason.map FailureReason.value)

/-- whatever else has been stored, and whatever is given beside the stored record -/
def ReconstructionsAgree (texts : Texts) (fromSubmit : InferencePlatform.SubmitRequest → RequestPayloadSnapshot)
    (p : Platform) : Prop :=
  ∀ r e, p.controlPlane.entry? r = some e → isTerminalRequestState e.state = true →
    ∀ (executionStore : ExecutionRecordStore) (inspector : Option RequestTraceStore)
      (streamMetrics : Option StreamingMetricsRecord) (now : Time),
      ∃ stored live,
        reconstructRequest texts r
          (some (executionStore.put (captureFromEntry texts fromSubmit e p.store streamMetrics now)))
          inspector = some stored ∧
        reconstructRequest texts r none (some p.store) = some live ∧
        Alike stored live ∧ EndsAs stored e ∧ EndsAs live e

/-! ## What is inferred -/

/-- the states that reconstruction takes a trace with these `lifecycle_state`s to have ended in -/
def endings (states : List (Option String)) : List String := states.reduceOption.filter (· ∈ inferredTerminalStates)

/-- the type of the last failure -/
def lastFailure (p : Platform) (r : UUID) : Option String :=
  (p.store.failuresOf r).getLast?.map FailureRecord.failureType

theorem endings_append (states states' : List (Option String)) :
    endings (states ++ states') = endings states ++ endings states' := by
  rw [endings, List.reduceOption_append, List.filter_append]
  rfl

/-- what comes later decides -/
theorem endings_last {more : List (Option String)} {s : String} (h : (endings more).getLast? = some s)
    (states : List (Option String)) : (endings (states ++ more)).getLast? = some s := by
  rw [endings_append, List.getLast?_append, h]
  rfl

theorem endings_none {more : List (Option String)} (h : endings more = []) (states : List (Option String)) :
    endings (states ++ more) = endings states := by
  rw [endings_append, h, List.append_nil]

theorem inferred_state (events : List TraceEvent) (failures : List FailureRecord) :
    (inferTerminalOutcome events failures).map TerminalOutcome.state =
      (endings (events.map TraceEvent.lifecycleState)).getLast? := by
  rw [inferTerminalOutcome, Option.map_map]
  induction events using List.reverseRecOn with
  | nil => rfl
  | append_singleton events event ih =>
    rw [List.reverse_append, List.reverse_singleton, List.singleton_append, List.find?_cons, List.map_append]
    cases hstate : event.lifecycleState with
    | none =>
      have hno : isTerminalEvent event = false := by simp [isTerminalEvent, hstate]
      have hnone : endings ([event].map TraceEvent.lifecycleState) = [] := by simp [endings, hstate]
      rw [hno, endings_none hnone]
      exact ih
    | some s =>
      by_cases hs : s ∈ inferredTerminalStates
      · have hyes : isTerminalEvent event = true := by simp [isTerminalEvent, hstate, hs]
        have hone : (endings ([event].map TraceEvent.lifecycleState)).getLast? = some s := by simp [endings, hstate, hs]
        rw [hyes, endings_last hone]
        simp [hstate]
      · have hno : isTerminalEvent event = false := by simp [isTerminalEvent, hstate, hs]
        have hnone : endings ([event].map TraceEvent.lifecycleState) = [] := by simp [endings, hstate, hs]
        rw [hno, endings_none hnone]
        exact ih

/-- an inferred outcome has the type of the last failure as its reason -/
theorem inferred_reason {events : List TraceEvent} {failures : List FailureRecord} {outcome : TerminalOutcome}
    (h : inferTerminalOutcome events failures = some outcome) :
    outcome.failureReason = failures.getLast?.map FailureRecord.failureType := by
  obtain ⟨event, -, rfl⟩ := Option.map_eq_some_iff.1 h
  rfl

/-- what is reconstructed from a live trace ends as is inferred from it -/
theorem outcome_live {texts : Texts} {r : UUID} {store : RequestTraceStore} {live : ReconstructedExecution}
    (h : reconstructRequest texts r none (some store) = some live) :
    live.terminalOutcome = inferTerminalOutcome (timelineEvents store r) (store.failuresOf r) := by
  obtain ⟨trace, -, rfl⟩ := Option.map_eq_some_iff.1 h
  rfl

/-! ## The condition -/

/-- a state that ends a request is announced, and nobody gets into one with another reason than the last failure has as
its type -/
def OpSettled (cfg : Settings) (p : Platform) : Op → Prop
  | .transition r toState _ _ _ =>
    ∀ st ∈ p.controlPlane.overview.status r, isAllowedTransition st.state toState = true →
      isTerminalRequestState toState = true → (transitionEvent toState).isSome ∧ lastFailure p r = none
  | .runAdmission r checks _ =>
    ∀ st ∈ p.controlPlane.overview.status r, st.state = .validated →
      ∀ a ∈ (evaluate checks).toOption, a.outcome ≠ .accept → lastFailure p r = some FailureReason.queueFull.value
  | .markFailed r reason _ _ _ _ => ∀ _st ∈ p.controlPlane.overview.status r, lastFailure p r = some reason.value
  | .completeRequest r _ _ =>
    ∀ st ∈ p.controlPlane.overview.status r, st.state = .submitted ∨ st.state = .streaming → lastFailure p r = none
  | .cancel r _ => ∀ st ∈ p.controlPlane.overview.status r, st.state ≠ .submitted ∧ st.state ≠ .streaming
  | .processThroughQueued submit checks _ _ =>
    p.controlPlane.overview.registered < cfg.registryMaxEntries →
      match evaluate checks with
      | .error _ => lastFailure p submit.inferenceRequest.requestId = some FailureReason.internalError.value
      | .ok a =>
        a.outcome ≠ .accept → lastFailure p submit.inferenceRequest.requestId = some FailureReason.queueFull.value
  | _ => True

instance (cfg : Settings) (p : Platform) : (op : Op) → Decidable (OpSettled cfg p op)
  | .transition r toState _ _ _ =>
    inferInstanceAs (Decidable (∀ st ∈ p.controlPlane.overview.status r, isAllowedTransition st.state toState = true →
      isTerminalRequestState toState = true → (transitionEvent toState).isSome ∧ lastFailure p r = none))
  | .runAdmission r checks _ =>
    inferInstanceAs (Decidable (∀ st ∈ p.controlPlane.overview.status r, st.state = .validated →
      ∀ a ∈ (evaluate checks).toOption, a.outcome ≠ .accept → lastFailure p r = some FailureReason.queueFull.value))
  | .markFailed r reason _ _ _ _ =>
    inferInstanceAs (Decidable (∀ _st ∈ p.controlPlane.overview.status r, lastFailure p r = some reason.value))
  | .completeRequest r _ _ =>
    inferInstanceAs (Decidable (∀ st ∈ p.controlPlane.overview.status r, st.state = .submitted ∨ st.state = .streaming →
      lastFailure p r = none))
  | .cancel r _ =>
    inferInstanceAs (Decidable (∀ st ∈ p.controlPlane.overview.status r, st.state ≠ .submitted ∧ st.state ≠ .streaming))
  | .processThroughQueued _ checks _ _ =>
    @instDecidableForall _ _ inferInstance (decidableEvaluated (evaluate checks))
  | .register .. | .enqueueFromAdmitted .. | .processTimeouts _ | .dequeueNext _ | .peek _ | .listItems _ | .remove ..
  | .clear | .getQueueSnapshot .. | .getQueueStatistics _ | .listQueuedRequests _ | .listQueueItems .. => isTrue trivial

/-- no failure is recorded for a request that has ended -/
def Settled (cfg : Settings) (p : Platform) : Move → Prop
  | .controlPlane op => OpSettled cfg p op
  | .emission e =>
    ∀ st ∈ p.controlPlane.overview.status e.requestId, isTerminalRequestState st.state = true →
      (e.failureRecord p.store).isNone

instance (cfg : Settings) (p : Platform) : (m : Move) → Decidable (Settled cfg p m)
  | .controlPlane op => inferInstanceAs (Decidable (OpSettled cfg p op))
  | .emission e =>
    inferInstanceAs (Decidable (∀ st ∈ p.controlPlane.overview.status e.requestId,
      isTerminalRequestState st.state = true →
      (e.failureRecord p.store).isNone))

/-! ## One step -/

variable (texts : Texts) {cfg : Settings} {p : Platform} {m : Move} {r : UUID} {st st' : Status} {op : Op}
  {notices : List Notice} {a : Annal}

/-- a trace with these states and failures ends in the status -/
structure Tally (states : List (Option String)) (failures : List (String × String)) (st : Status) : Prop where
  state : (endings states).getLast? = some st.state.value
  reason : failures.getLast?.map Prod.fst = st.reason.map FailureReason.value

/-- the trace of every request that has ended ends in its status -/
def Concluded (p : Platform) : Prop :=
  ∀ r st, p.controlPlane.overview.status r = some st → isTerminalRequestState st.state = true →
    Tally ((p.store.eventsOf r).map TraceEvent.lifecycleState) ((p.store.failuresOf r).map failureKey) st

theorem lastFailure_eq (p : Platform) (r : UUID) :
    lastFailure p r = ((p.store.failuresOf r).map failureKey).getLast?.map Prod.fst := by
  rw [lastFailure, List.getLast?_map, Option.map_map]
  rfl

/-- notices that end a trace and record no failure: the last failure before them is the reason -/
theorem tally_unfailed {states more : List (Option String)} (h : (endings more).getLast? = some st.state.value)
    (hfailures : notices.filterMap noticeFailure = []) (hlast : lastFailure p r = st.reason.map FailureReason.value) :
    Tally (states ++ more) ((p.store.failuresOf r).map failureKey ++ notices.filterMap noticeFailure) st := by
  refine ⟨endings_last h states, ?_⟩
  rw [hfailures, List.append_nil, ← lastFailure_eq]
  exact hlast

/-- notices that end a trace with a failure: its type is the reason -/
theorem tally_failed {states more : List (Option String)} {failures : List (String × String)}
    {failure : String × String}
    (h : (endings more).getLast? = some st.state.value) (hfailures : notices.filterMap noticeFailure = [failure])
    (hreason : some failure.1 = st.reason.map FailureReason.value) :
    Tally (states ++ more) (failures ++ notices.filterMap noticeFailure) st := by
  refine ⟨endings_last h states, ?_⟩
  rw [hfailures, List.getLast?_concat]
  exact hreason

theorem quiet_tally {states : List (Option String)} {failures : List (String × String)} (h : ∀ n ∈ notices, n.Quiet)
    (ht : Tally states failures st) :
    Tally (states ++ notices.flatMap noticeStates) (failures ++ notices.filterMap noticeFailure) st := by
  have hquiet : ∀ n : Notice, n.Quiet → noticeStates n = [none] ∧ noticeFailure n = none := by
    intro n hn
    cases n with
    | lifecycle => exact hn.elim
    | queue eventType reason =>
      rcases hn with rfl | rfl | rfl
      · exact ⟨rfl, rfl⟩
      · exact ⟨rfl, rfl⟩
      · exact ⟨rfl, rfl⟩
  have hstates : endings (notices.flatMap noticeStates) = [] := by
    rw [List.flatMap_congr fun n hn => (hquiet n (h n hn)).1]
    induction notices with
    | nil => rfl
    | cons n notices ih => exact ih (fun n hn => h n (List.mem_cons_of_mem _ hn))
  have hfailures : notices.filterMap noticeFailure = [] :=
    List.filterMap_eq_nil_iff.2 fun n hn => (hquiet n (h n hn)).2
  rw [hfailures, List.append_nil]
  exact ⟨(congrArg List.getLast? (endings_none hstates states)).trans ht.state, ht.reason⟩

/-- a state that is announced and ends a request shows as the last one -/
theorem transition_ends {toState : RequestState} (h : isTerminalRequestState toState = true)
    (hevent : (transitionEvent toState).isSome) :
    (endings ((transitionNotices toState none).flatMap noticeStates)).getLast? = some toState.value ∧
      (transitionNotices toState none).filterMap noticeFailure = [] := by
  cases toState with
  | completed => exact ⟨rfl, rfl⟩
  | failed => exact ⟨rfl, rfl⟩
  | timedOut => exact ⟨rfl, rfl⟩
  | rejected => exact ⟨rfl, rfl⟩
  | cancelled => cases hevent
  | _ => cases h

theorem Change.settled {states : List (Option String)}
    (hchange : Change cfg p.controlPlane.overview r st op notices st')
    (hs : p.controlPlane.overview.status r = some st) (hx : OpSettled cfg p op) (hp : st.Pending)
    (hold : isTerminalRequestState st.state = true → Tally states ((p.store.failuresOf r).map failureKey) st)
    (hend : isTerminalRequestState st'.state = true) :
    Tally (states ++ notices.flatMap noticeStates)
      ((p.store.failuresOf r).map failureKey ++ notices.filterMap noticeFailure) st' := by
  cases hchange with
  | kept hquiet => exact quiet_tally hquiet (hold hend)
  | @moved toState now batchId backendId hallowed =>
    obtain ⟨hevent, hnone⟩ := hx st hs hallowed hend
    obtain ⟨hstates, hfailures⟩ := transition_ends hend hevent
    have hreason : st.reason = none := hp (not_terminal_of_allowed hallowed)
    rw [transitionNotices_pending hp hallowed]
    refine tally_unfailed hstates hfailures (hnone.trans ?_)
    rw [hreason]
    rfl
  | admitted => cases hend
  | declined hst hres hdecline =>
    refine tally_unfailed rfl rfl (hx st hs hst _ ?_ hdecline)
    rw [hres]
    rfl
  | queued => cases hend
  | refused => exact tally_failed rfl rfl rfl
  | timedOut => exact tally_failed rfl rfl rfl
  | failed =>
    rw [failureNotice_pending hp]
    exact tally_unfailed rfl rfl (hx st hs)
  | completed hst =>
    have hreason : st.reason = none := hp (by rcases hst with hst | hst <;> rw [hst] <;> rfl)
    refine tally_unfailed rfl rfl ((hx st hs hst).trans ?_)
    rw [hreason]
    rfl
  | cancelled hst => exact absurd hst (not_or.2 (hx st hs))

theorem Birth.settled {states : List (Option String)} (hbirth : Birth cfg p.controlPlane.overview r op notices a)
    (hx : OpSettled cfg p op) (hend : isTerminalRequestState a.status.state = true) :
    Tally (states ++ notices.flatMap noticeStates)
      ((p.store.failuresOf r).map failureKey ++ notices.filterMap noticeFailure) a.status := by
  cases hbirth with
  | registered hid hinit =>
    rcases hinit with rfl | rfl
    · cases hend
    · cases hend
  | raised hid hroom hres =>
    have hlast := hx hroom
    rw [hres, hid] at hlast
    exact tally_unfailed rfl rfl hlast
  | declined hid hroom hres hdecline =>
    have hlast := hx hroom
    rw [hres, hid] at hlast
    exact tally_unfailed rfl rfl (hlast hdecline)
  | refused => exact tally_failed rfl rfl rfl
  | queued => cases hend

/-- an emission that records no failure ends no trace -/
theorem emission_ends {store : RequestTraceStore} {e : Emission} (h : e.failureRecord store = none) :
    endings ((e.traceEvents store).map TraceEvent.lifecycleState) = [] ∧ e.failures store = [] := by
  rw [Emission.traceEvents, Emission.failures, h]
  refine ⟨?_, rfl⟩
  cases e with
  | gatewayReceive => rfl
  | recorded => rfl
  | appended => rfl

theorem concluded_init : Concluded Platform.init := fun _ _ hs => by cases hs

theorem concluded_step (h : p.Inv) (hf : m.Fresh p) (hx : Settled cfg p m) (hp : Concluded p) :
    Concluded (p.step texts cfg m) := by
  intro r st' hs' hend
  cases m with
  | emission e =>
    have hrecorded := RequestTraceStore.emit_recorded p.store e
    have hs : p.controlPlane.overview.status r = some st' := hs'
    have htally := hp r st' hs hend
    change Tally ((RequestTraceStore.eventsOf (p.store.emit e) r).map _)
      ((RequestTraceStore.failuresOf (p.store.emit e) r).map _) st'
    rw [hrecorded.events, hrecorded.failures]
    split_ifs with hid
    · obtain ⟨hstates, hfailures⟩ := emission_ends (Option.isNone_iff_eq_none.1 (hx st' (hid ▸ hs) hend))
      rw [hfailures, List.append_nil, List.map_append]
      exact ⟨(congrArg List.getLast? (endings_none hstates _)).trans htally.state, htally.reason⟩
    · rw [List.append_nil, List.append_nil]
      exact htally
  | controlPlane op =>
    rw [step_states texts h.controlPlane hf, step_failures texts h.controlPlane hf]
    cases hs : p.controlPlane.overview.status r with
    | none =>
      have hbirth := step_birth cfg h.controlPlane hf hs hs'
      have hstatus := (step_refines cfg h.controlPlane hf).inv.chronicle_status hs'
      rw [← hstatus] at hend ⊢
      exact Birth.settled hbirth hx hend
    | some st =>
      obtain ⟨st₁, hs₁, hchange, -⟩ := step_change cfg h.controlPlane hf hs
      have hsame : st₁ = st' := Option.some.inj (hs₁.symm.trans hs')
      rw [hsame] at hchange
      exact Change.settled hchange hs hx (h.pending r st hs) (hp r st hs) hend

/-- a trace in the order of its times that ends in the status of its request reconstructs it -/
theorem Concluded.reconstructionsAgree (fromSubmit : InferencePlatform.SubmitRequest → RequestPayloadSnapshot)
    (h : p.Inv) (hp : Concluded p) : ReconstructionsAgree texts fromSubmit p := by
  intro r e he hend executionStore inspector streamMetrics now
  obtain ⟨ref, hr, hget⟩ := entry?_eq_some.1 he
  have hs := overview_status hr hget
  have htally := hp r e.status hs hend
  have hid : e.requestId = r := by
    obtain ⟨ref', e', hr', hget', hid, -⟩ := h.controlPlane.entry hs
    rw [hr] at hr'
    cases hr'
    rw [hget] at hget'
    cases hget'
    exact hid
  set record := captureFromEntry texts fromSubmit e p.store streamMetrics now
  have hstored : reconstructRequest texts r (some (executionStore.put record)) inspector =
      some record.reconstructed := by
    have hfound : (executionStore.put record).get? r = some record := by
      rw [ExecutionRecordStore.put, Dict.get?_set]
      exact if_pos hid.symm
    rw [reconstructRequest, Option.bind_some, hfound]
  -- the trace exists: it has an event that ends it
  obtain ⟨trace, htrace⟩ : ∃ trace, p.store.get? r = some trace := by
    cases htrace : p.store.get? r with
    | some trace => exact ⟨trace, rfl⟩
    | none =>
      have hempty : p.store.eventsOf r = [] := by simp [RequestTraceStore.eventsOf, htrace]
      have hstate := htally.state
      rw [hempty] at hstate
      cases hstate
  obtain ⟨outcome, houtcome, hstate⟩ : ∃ outcome,
      inferTerminalOutcome (timelineEvents p.store r) (p.store.failuresOf r) = some outcome ∧
        outcome.state = e.state.value := by
    have hinferred := inferred_state (timelineEvents p.store r) (p.store.failuresOf r)
    rw [timelineEvents, h.timeline, htally.state] at hinferred
    rw [timelineEvents, h.timeline]
    exact Option.map_eq_some_iff.1 hinferred
  have hreason : outcome.failureReason = e.failureReason.map FailureReason.value := by
    rw [inferred_reason houtcome]
    exact (lastFailure_eq p r).trans htally.reason
  have hevents : ((p.store.timeline e.requestId now).map TraceTimeline.events).getD [] = timelineEvents p.store r := by
    rw [hid, timeline_events]
  refine ⟨_, _, hstored, congrArg (Option.map _) htrace, ?_, rfl, ?_⟩
  · have hfilter := fun allowed => congrArg (fun events => filterEventsByType events allowed) hevents
    exact ⟨congrArg extractLifecycleTransitions hevents, hfilter _, hfilter _, hfilter _, hfilter _,
      congrArg p.store.failuresOf hid⟩
  · change (inferTerminalOutcome (timelineEvents p.store r) (p.store.failuresOf r)).map _ = _
    rw [houtcome, Option.map_some, hstate, hreason]

/-! ## Runs -/

/-- in a run whose moves are orderly and settled, the reconstructions agree in every state it reaches -/
theorem run_reconstructions_agree (texts : Texts)
    (fromSubmit : InferencePlatform.SubmitRequest → RequestPayloadSnapshot) (cfg : Settings) (moves : List Move)
    (ho : Meets (Platform.step texts cfg) Orderly Platform.init moves)
    (hx : Meets (Platform.step texts cfg) (Settled cfg) Platform.init moves) :
    ∀ pre, pre <+: moves → ReconstructionsAgree texts fromSubmit (run (Platform.step texts cfg) Platform.init pre) := by
  intro pre hpre
  have hboth := (ho.of_prefix hpre).and (hx.of_prefix hpre)
  have hinv := hboth.run_inv (I := fun p => p.Inv ∧ Concluded p)
    (fun p m hp hm => ⟨p.step_inv texts hp.1 hm.1, concluded_step texts hp.1 hm.1.fresh hm.2 hp.2⟩)
    ⟨Platform.inv_init, concluded_init⟩
  exact hinv.2.reconstructionsAgree texts fromSubmit hinv.1

/-- a queue of one: the second request is rejected, the first is served and completes -/
theorem run_reconstructions_agree_served :
    ReconstructionsAgree Persistence.sampleTexts
      (fun submit => emptyPayload Persistence.sampleTexts submit.inferenceRequest.requestId
        submit.requestContext.traceId)
      (run (Platform.step Persistence.sampleTexts tracedSettings) Platform.init
        ([.controlPlane (.processThroughQueued (tracedSubmit 1) [] 1 2),
          .controlPlane (.processThroughQueued (tracedSubmit 2) [] 3 4),
          .controlPlane (.transition 1 .scheduled 5 none none),
          .controlPlane (.transition 1 .batched 5 (some 7) none),
          .controlPlane (.transition 1 .submitted 6 none (some "vllm")),
          .controlPlane (.completeRequest 1 none 7)])) :=
  run_reconstructions_agree Persistence.sampleTexts _ tracedSettings _ (by decide +kernel) (by decide +kernel) _
    (List.prefix_refl _)

/-- a served request is marked as failed: its live trace does not have the reason -/
theorem marked_reconstructed :
    let moves := servedMoves ++ [.controlPlane (.markFailed 1 .adapterError "dispatch rejected" 6 none none)]
    let p := run (Platform.step Persistence.sampleTexts tracedSettings) Platform.init moves
    Meets (Platform.step Persistence.sampleTexts tracedSettings) Orderly Platform.init moves ∧
      p.controlPlane.state? 1 = some .failed ∧
      ∀ fromSubmit, ¬ReconstructionsAgree Persistence.sampleTexts fromSubmit p := by
  intro moves p
  have hstate : (p.controlPlane.entry? 1).map (fun e => (e.state, e.failureReason)) =
      some (.failed, some .adapterError) := by
    decide +kernel
  have hnone : p.store.failuresOf 1 = [] := by decide +kernel
  refine ⟨by decide +kernel, by decide +kernel, fun fromSubmit h => ?_⟩
  obtain ⟨e, he, hpair⟩ := Option.map_eq_some_iff.1 hstate
  obtain ⟨hfailed, hreason⟩ := Prod.mk.inj hpair
  obtain ⟨stored, live, -, hlive, -, -, hends⟩ := h 1 e he (by rw [hfailed]; rfl) Dict.empty none none 0
  obtain ⟨outcome, houtcome, hboth⟩ := Option.map_eq_some_iff.1 hends
  rw [outcome_live hlive] at houtcome
  have hinferred := inferred_reason houtcome
  rw [hnone] at hinferred
  rw [hreason] at hboth
  cases hinferred.symm.trans (Prod.mk.inj hboth).2

end InferencePlatform.Replay
