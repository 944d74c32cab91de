/-
The lifecycle history that capture reads off a trace, beside the states the registered request went through.

`TracesHistory` is the comparison: for every request the captured states are the states its entry entered, in order, and
consecutive ones are joined by an edge of the transition table. It is lost by
- a transition to a state that is announced by no event (`transitionEvent`), and a cancellation;
- a completion, which is announced twice;
- a full queue and a queue timeout, announced by queue events that capture does not read as transitions;
- a failure that reaches a request where the table has no edge to FAILED, also one that is FAILED already.
`Told` says that a move does none of these.
- `run_traces_history`: in a run whose moves are orderly and told, every state reached traces its history.
- `completed_twice`: a request that is served and completes is captured as completed twice.
-/
import InferencePlatform.Observability.Platform
import InferencePlatform.Replay.Capture

namespace InferencePlatform.Replay

open InferencePlatform.Core (Dict Meets run)
open InferencePlatform.Persistence (PyValue PyDict Texts)
open InferencePlatform.ControlPlane
open InferencePlatform.Observability

/-! ## What is captured -/

/-- the states that capture reads off a request's trace -/
def capturedStates (p : Platform) (r : UUID) : List (Option String) :=
  (extractLifecycleTransitions (timelineEvents p.store r)).map LifecycleTransitionSnapshot.toState

/-- the states that capture reads off events in this order -/
def statesOf (events : List TraceEvent) : List (Option String) :=
  (extractLifecycleTransitions events).map LifecycleTransitionSnapshot.toState

/-- a state as capture shows it -/
def shown (s : RequestState) : Option String := some s.value

/-- two captured states joined by an edge of the table -/
def Joined (a b : Option String) : Prop := ∃ s t, a = shown s ∧ b = shown t ∧ t ∈ allowedRequestTransitions s

/-- the trace of every request tells what its entry has been through -/
def TracesHistory (p : Platform) : Prop :=
  ∀ r e, p.controlPlane.entry? r = some e →
    capturedStates p r = e.annal.entered.map shown ∧ (capturedStates p r).IsChain Joined

/-! ## Events and notices -/

theorem statesOf_append (events events' : List TraceEvent) :
    statesOf (events ++ events') = statesOf events ++ statesOf events' := by
  simp [statesOf, extractLifecycleTransitions]

theorem statesOf_cons_of_mem {event : TraceEvent} (h : event.eventType ∈ lifecycleEventTypes)
    (events : List TraceEvent) :
    statesOf (event :: events) =
      orText (textOf (PyDict.get event.extra "to_state")) event.lifecycleState :: statesOf events := by
  simp [statesOf, extractLifecycleTransitions, h, snapshotOf]

theorem statesOf_eq_nil {events : List TraceEvent} (h : ∀ event ∈ events, event.eventType ∉ lifecycleEventTypes) :
    statesOf events = [] := by
  rw [statesOf, extractLifecycleTransitions, List.filter_eq_nil_iff.2 fun event hmem => by simpa using h event hmem]
  rfl

theorem lifecycleEventType_mem (t : LifecycleEventType) : t.value ∈ lifecycleEventTypes := by
  cases t <;> decide

theorem queueEventType_not_mem (t : QueueEventType) : t.value ∉ lifecycleEventTypes := by
  cases t <;> decide

theorem recordedEventType_not_mem (t : RecordedEventType) : t.value ∉ lifecycleEventTypes := by
  cases t with
  | scheduler t => cases t <;> decide
  | batch t => cases t <;> decide
  | backend t => cases t <;> decide

theorem appendedEventType_not_mem (t : AppendedEventType) : t.value ∉ lifecycleEventTypes := by
  cases t with
  | routing t => cases t <;> decide
  | stream t => cases t <;> decide
  | capacity t => cases t <;> decide
  | persistence t => cases t <;> decide
  | replay t => cases t <;> decide

/-- no other service uses an event type of the lifecycle -/
theorem emission_not_mem (e : Emission) : e.eventType ∉ lifecycleEventTypes := by
  cases e with
  | gatewayReceive =>
    change "gateway_request_received" ∉ _
    decide
  | recorded eventType => exact recordedEventType_not_mem eventType
  | appended eventType => exact appendedEventType_not_mem eventType

theorem eventType_traceEvents (store : RequestTraceStore) (emission : Emission) :
    ∀ e ∈ emission.traceEvents store, e.eventType = emission.eventType := by
  intro e he
  rcases List.mem_cons.1 he with rfl | he
  · cases emission <;> rfl
  · obtain ⟨record, hrecord, rfl⟩ := List.mem_map.1 he
    have hrecord' := Option.mem_toList.1 hrecord
    unfold Emission.failureRecord at hrecord'
    split at hrecord'
    · cases hrecord'
      rfl
    · cases hrecord'

theorem statesOf_emission (store : RequestTraceStore) (e : Emission) : statesOf (e.traceEvents store) = [] :=
  statesOf_eq_nil fun event hmem => by
    rw [eventType_traceEvents store e event hmem]
    exact emission_not_mem e

/-- what capture reads off a notice -/
def noticePath (notice : Notice) : List (Option String) :=
  match notice with
  | .lifecycle _ toState _ => shown toState :: (noticeFailure notice).toList.map fun _ => shown toState
  | .queue .. => []

variable (texts : Texts)

theorem mem_keys_merge {k : String} {data more : PyDict} (h : k ∈ (merge data more).map Prod.fst) :
    k ∈ data.map Prod.fst ∨ k ∈ more.map Prod.fst := by
  induction more generalizing data with
  | nil => exact Or.inl h
  | cons p more ih =>
    rcases ih h with hk | hk
    · rw [Dict.fst_setItems] at hk
      split_ifs at hk
      · exact Or.inl hk
      · rcases List.mem_append.1 hk with hk | hk
        · exact Or.inl hk
        · exact Or.inr (by simp [List.mem_singleton.1 hk])
    · exact Or.inr (List.mem_cons_of_mem _ hk)

theorem mem_keys_optField {α : Type} {k key : String} {dump : α → PyValue} {a : Option α}
    (h : k ∈ (ControlPlane.optField key dump a).map Prod.fst) : k = key := by
  cases a with
  | none => cases h
  | some a => exact List.mem_singleton.1 h

/-- the control plane puts no target state into the extra fields of its events -/
theorem toState_not_mem_extra (event : LifecycleEvent) : "to_state" ∉ (event.extra texts).map Prod.fst := by
  intro h
  simp only [LifecycleEvent.extra, List.map_append, List.mem_append] at h
  rcases h with ((h | h) | h) | h
  · exact absurd (mem_keys_optField h) (by decide)
  · exact absurd (mem_keys_optField h) (by decide)
  · cases hc : event.completion with
    | none => simp [hc] at h
    | some completion => simp [hc] at h
  · exact absurd (mem_keys_optField h) (by decide)

theorem toState_traceEvent (event : LifecycleEvent) :
    PyDict.get ((event.traceRecord texts).traceEvent).extra "to_state" = .none := by
  have hnone : PyDict.get? (merge (event.extra texts) (textField "from_state" (event.fromState.map RequestState.value)))
      "to_state" = none := by
    refine Dict.getItems_eq_none.2 fun h => ?_
    rcases mem_keys_merge h with h | h
    · exact toState_not_mem_extra texts event h
    · unfold textField at h
      split_ifs at h
      · cases h
      · have heq : "to_state" = "from_state" := List.mem_singleton.1 h
        exact absurd heq (by decide)
  exact congrArg (fun v => v.getD .none) hnone

theorem statesOf_traceEvents (event : Event) : statesOf (event.traceEvents texts) = noticePath event.report.notice := by
  cases event with
  | lifecycle e =>
    have hmem : ((Event.lifecycle e).traceEvent texts).eventType ∈ lifecycleEventTypes := lifecycleEventType_mem _
    have hstate : ((Event.lifecycle e).traceEvent texts).lifecycleState = shown e.toState :=
      lifecycleState_traceEvent texts (.lifecycle e)
    have hget : PyDict.get ((Event.lifecycle e).traceEvent texts).extra "to_state" = .none := toState_traceEvent texts e
    rw [Event.traceEvents, statesOf_cons_of_mem hmem, hget, hstate]
    have hsome := isSome_failureRecord texts (.lifecycle e)
    cases hrecord : (Event.lifecycle e).failureRecord texts with
    | none =>
      rw [hrecord] at hsome
      have hnotice : noticeFailure (Event.lifecycle e).report.notice = none := by
        cases hn : noticeFailure (Event.lifecycle e).report.notice with
        | none => rfl
        | some p =>
          rw [hn] at hsome
          cases hsome
      simp only [Event.report] at hnotice
      simp only [Event.report, noticePath, hnotice]
      rfl
    | some record =>
      rw [hrecord] at hsome
      obtain ⟨q, hq⟩ := Option.isSome_iff_exists.1 hsome.symm
      obtain ⟨hfailure, -, htype⟩ := failureState_of_record texts hrecord
      have hmem' : record.traceEvent.eventType ∈ lifecycleEventTypes := by
        change record.eventType ∈ _
        rw [htype]
        exact hmem
      simp only [Event.report] at hq
      simp only [Option.toList_some, List.map_cons, List.map_nil, Event.report, noticePath, hq]
      rw [statesOf_cons_of_mem hmem']
      change [_, some record.failureState] = _
      rw [hfailure]
      rfl
  | queue e =>
    refine statesOf_eq_nil fun event hmem => ?_
    rcases List.mem_cons.1 hmem with rfl | hmem
    · exact queueEventType_not_mem e.eventType
    · obtain ⟨record, hrecord, rfl⟩ := List.mem_map.1 hmem
      change record.eventType ∉ _
      rw [(failureState_of_record texts (Option.mem_toList.1 hrecord)).2.2]
      exact queueEventType_not_mem e.eventType

/-! ## The condition -/

/-- whoever is timed out is TIMED_OUT already -/
def TimedOutAlready (cfg : Settings) (o : Overview) (now : Time) : Prop :=
  ∀ r ∈ o.lateIds cfg.queue now, ∀ st ∈ o.status r, st.state = .timedOut

/-- the operation announces each state that a request enters once, and enters none against the table -/
def OpTold (cfg : Settings) (o : Overview) : Op → Prop
  | .transition r toState _ _ _ =>
    ∀ st ∈ o.status r, isAllowedTransition st.state toState = true → (transitionEvent toState).isSome
  | .enqueueFromAdmitted r now =>
    ∀ st ∈ o.status r, st.state = .admitted → ¬(o.expire cfg.queue now).waits r → ¬o.full cfg now
  | .processTimeouts now => TimedOutAlready cfg o now
  | .processThroughQueued _ checks now now' =>
    TimedOutAlready cfg o now ∧ (o.registered < cfg.registryMaxEntries →
      match evaluate checks with
      | .error _ => False
      | .ok a => a.outcome = .accept → ¬(o.processTimeouts cfg.queue now).full cfg now')
  | .markFailed r _ _ _ _ _ => ∀ st ∈ o.status r, isAllowedTransition st.state .failed = true
  | .completeRequest r _ _ | .cancel r _ => ∀ st ∈ o.status r, st.state ≠ .submitted ∧ st.state ≠ .streaming
  | _ => True

instance (cfg : Settings) (o : Overview) (now : Time) : Decidable (TimedOutAlready cfg o now) :=
  inferInstanceAs (Decidable (∀ r ∈ o.lateIds cfg.queue now, ∀ st ∈ o.status r, st.state = .timedOut))

instance (cfg : Settings) (o : Overview) : (op : Op) → Decidable (OpTold cfg o op)
  | .transition r toState _ _ _ =>
    inferInstanceAs (Decidable (∀ st ∈ o.status r, isAllowedTransition st.state toState = true →
      (transitionEvent toState).isSome))
  | .enqueueFromAdmitted r now =>
    inferInstanceAs (Decidable (∀ st ∈ o.status r, st.state = .admitted → ¬(o.expire cfg.queue now).waits r →
      ¬o.full cfg now))
  | .processTimeouts now => inferInstanceAs (Decidable (TimedOutAlready cfg o now))
  | .processThroughQueued _ checks _ _ =>
    @instDecidableAnd _ _ inferInstance (@instDecidableForall _ _ inferInstance (decidableEvaluated (evaluate checks)))
  | .markFailed r _ _ _ _ _ =>
    inferInstanceAs (Decidable (∀ st ∈ o.status r, isAllowedTransition st.state .failed = true))
  | .completeRequest r _ _ | .cancel r _ =>
    inferInstanceAs (Decidable (∀ st ∈ o.status r, st.state ≠ .submitted ∧ st.state ≠ .streaming))
  | .register .. | .runAdmission .. | .dequeueNext _ | .peek _ | .listItems _ | .remove .. | .clear
  | .getQueueSnapshot .. | .getQueueStatistics _ | .listQueuedRequests _ | .listQueueItems .. => isTrue trivial

def Told (cfg : Settings) (p : Platform) : Move → Prop
  | .controlPlane op => OpTold cfg p.controlPlane.overview op
  | .emission _ => True

instance (cfg : Settings) (p : Platform) : (m : Move) → Decidable (Told cfg p m)
  | .controlPlane op => inferInstanceAs (Decidable (OpTold cfg p.controlPlane.overview op))
  | .emission _ => isTrue trivial

/-! ## One step -/

variable {cfg : Settings} {p : Platform} {r : UUID} {st st' : Status} {op : Op} {notices : List Notice} {a : Annal}

/-- the trace of a registered request tells its annal, and that of another request nothing -/
def TraceTells (p : Platform) : Prop :=
  ∀ r, statesOf (p.store.eventsOf r) =
      (p.controlPlane.overview.status r).elim [] (fun _ => (p.controlPlane.chronicle r).entered.map shown) ∧
    (p.controlPlane.overview.status r).elim True fun _ =>
      (p.controlPlane.chronicle r).entered.IsChain fun s t => t ∈ allowedRequestTransitions s

theorem statesOf_step (h : ControlPlane.Inv p.controlPlane) (hf : ControlPlane.Fresh p.controlPlane op) (r : UUID) :
    statesOf ((p.step texts cfg (.controlPlane op)).store.eventsOf r) =
      statesOf (p.store.eventsOf r) ++ (about r (p.controlPlane.overview.reports cfg op)).flatMap noticePath := by
  rw [step_events, statesOf_append, ← reports_emitted cfg h hf, ← about_eventsAbout, List.flatMap_map]
  congr 1
  generalize eventsAbout r (emitted cfg p.controlPlane op) = events
  induction events with
  | nil => rfl
  | cons event events ih =>
    rw [List.flatMap_cons, List.flatMap_cons, statesOf_append, ih, statesOf_traceEvents]

theorem quiet_path (h : ∀ n ∈ notices, n.Quiet) : notices.flatMap noticePath = [] := by
  refine List.flatMap_eq_nil_iff.2 fun n hn => ?_
  cases n with
  | lifecycle => exact (h _ hn).elim
  | queue => rfl

theorem mem_allowed {s t : RequestState} (h : isAllowedTransition s t = true) : t ∈ allowedRequestTransitions s := by
  rw [isAllowedTransition_eq] at h
  exact of_decide_eq_true h

theorem ne_of_allowed {s t : RequestState} (h : isAllowedTransition s t = true) : s ≠ t := by
  rintro rfl
  revert h
  cases s <;> decide

/-- a state entered along an edge is one more entry at the end -/
theorem entered_along (hst : a.status = st) (hallowed : isAllowedTransition st.state st'.state = true) :
    (a.become st').entered = a.entered ++ [st'.state] ∧
      (a.entered.IsChain (fun s t => t ∈ allowedRequestTransitions s) →
        (a.become st').entered.IsChain fun s t => t ∈ allowedRequestTransitions s) := by
  have hne : a.status.state ≠ st'.state := hst ▸ ne_of_allowed hallowed
  rw [Annal.entered_become, if_neg hne]
  refine ⟨rfl, fun hchain => hchain.append (List.isChain_singleton _) fun s hs t ht => ?_⟩
  rw [Annal.entered, List.getLast?_concat, Option.mem_some_iff] at hs
  rw [List.head?_singleton, Option.mem_some_iff] at ht
  rw [← hs, ← ht, hst]
  exact mem_allowed hallowed

/-- what a told change adds to a trace is what it adds to the annal -/
theorem Change.told (hchange : Change cfg p.controlPlane.overview r st op notices st')
    (hs : p.controlPlane.overview.status r = some st) (ht : OpTold cfg p.controlPlane.overview op) (hp : st.Pending)
    (hst : a.status = st) :
    (a.become st').entered.map shown = a.entered.map shown ++ notices.flatMap noticePath ∧
      (a.entered.IsChain (fun s t => t ∈ allowedRequestTransitions s) →
        (a.become st').entered.IsChain fun s t => t ∈ allowedRequestTransitions s) := by
  have hsame : ∀ st', st'.state = st.state → (a.become st').entered = a.entered := by
    intro st' hstate
    rw [Annal.entered_become, if_pos (by rw [hst, hstate])]
  have halong : ∀ st', isAllowedTransition st.state st'.state = true → notices.flatMap noticePath = [shown st'.state] →
      (a.become st').entered.map shown = a.entered.map shown ++ notices.flatMap noticePath ∧
      (a.entered.IsChain (fun s t => t ∈ allowedRequestTransitions s) →
        (a.become st').entered.IsChain fun s t => t ∈ allowedRequestTransitions s) := by
    intro st' hallowed hpath
    obtain ⟨hentered, hchain⟩ := entered_along hst hallowed
    rw [hpath, hentered, List.map_append]
    exact ⟨rfl, fun h => hentered ▸ hchain h⟩
  cases hchange with
  | kept hquiet =>
    rw [quiet_path hquiet, List.append_nil, hsame st rfl]
    exact ⟨rfl, id⟩
  | moved hallowed =>
    refine halong _ hallowed ?_
    have hsome := ht st hs hallowed
    obtain ⟨⟨eventType, withReason⟩, hevent⟩ := Option.isSome_iff_exists.1 hsome
    rw [transitionNotices_pending hp hallowed, transitionNotices, hevent]
    simp [noticePath, noticeFailure]
  | admitted hstate =>
    refine halong _ ?_ rfl
    rw [hstate]
    rfl
  | declined hstate =>
    refine halong _ ?_ rfl
    rw [hstate]
    rfl
  | queued hstate =>
    refine halong _ ?_ rfl
    rw [hstate]
    rfl
  | refused hstate hw hfull => exact absurd hfull (ht st hs hstate hw)
  | timedOut hop hlate =>
    have hstate : st.state = .timedOut := by
      cases op with
      | processTimeouts now =>
        cases hop
        exact ht r hlate st hs
      | processThroughQueued submit checks now now' =>
        cases hop
        exact ht.1 r hlate st hs
      | _ => cases hop
    rw [hsame _ hstate.symm]
    exact ⟨(List.append_nil _).symm, id⟩
  | failed =>
    refine halong _ (ht st hs) ?_
    rw [failureNotice_pending hp]
    rfl
  | completed hstate => exact absurd hstate (not_or.2 (ht st hs))
  | cancelled hstate => exact absurd hstate (not_or.2 (ht st hs))

/-- what a told birth says is what the request has been through -/
theorem Birth.told (hbirth : Birth cfg p.controlPlane.overview r op notices a)
    (ht : OpTold cfg p.controlPlane.overview op) :
    notices.flatMap noticePath = a.entered.map shown ∧
      a.entered.IsChain fun s t => t ∈ allowedRequestTransitions s := by
  cases hbirth with
  | registered hid hinit =>
    rcases hinit with rfl | rfl
    · exact ⟨rfl, List.isChain_singleton _⟩
    · exact ⟨rfl, List.isChain_singleton _⟩
  | raised hid hroom hres =>
    have hno := ht.2 hroom
    rw [hres] at hno
    exact hno.elim
  | declined => exact ⟨rfl, by simp [Annal.entered, allowedRequestTransitions]⟩
  | refused hid hroom hres haccept hfull =>
    have hno := ht.2 hroom
    rw [hres] at hno
    exact absurd hfull (hno haccept)
  | queued => exact ⟨rfl, by simp [Annal.entered, allowedRequestTransitions]⟩

theorem traceTells_init : TraceTells Platform.init := fun _ => ⟨rfl, trivial⟩

theorem traceTells_step {m : Move} (h : p.Inv) (ho : Orderly p m) (ht : Told cfg p m) (hp : TraceTells p) :
    TraceTells (p.step texts cfg m) := by
  intro r
  obtain ⟨hstates, hchain⟩ := hp r
  cases m with
  | emission e =>
    refine ⟨?_, hchain⟩
    have hevents := (RequestTraceStore.emit_recorded p.store e).events r
    change statesOf (RequestTraceStore.eventsOf (p.store.emit e) r) = _
    rw [hevents, statesOf_append]
    split_ifs
    · rw [statesOf_emission, List.append_nil]
      exact hstates
    · exact (List.append_nil _).trans hstates
  | controlPlane op =>
    rw [statesOf_step texts h.controlPlane ho.fresh, hstates]
    change _ = ((p.controlPlane.step cfg op).overview.status r).elim _ _ ∧
      ((p.controlPlane.step cfg op).overview.status r).elim _ _
    cases hs' : (p.controlPlane.step cfg op).overview.status r with
    | none =>
      rw [step_unborn cfg h.controlPlane ho.fresh hs']
      cases hs : p.controlPlane.overview.status r with
      | none => exact ⟨rfl, trivial⟩
      | some st =>
        obtain ⟨st', hst', -⟩ := step_change cfg h.controlPlane ho.fresh hs
        rw [hs'] at hst'
        cases hst'
    | some st' =>
      cases hs : p.controlPlane.overview.status r with
      | none =>
        obtain ⟨hpath, hchain'⟩ := Birth.told (step_birth cfg h.controlPlane ho.fresh hs hs') ht
        exact ⟨hpath, hchain'⟩
      | some st =>
        obtain ⟨st₁, hst₁, hchange, hannal⟩ := step_change cfg h.controlPlane ho.fresh hs
        rw [hs'] at hst₁
        cases hst₁
        rw [hs] at hchain
        obtain ⟨hentered, hchain'⟩ :=
          Change.told hchange hs ht (h.pending r st hs) (h.controlPlane.chronicle_status hs)
        refine ⟨?_, ?_⟩
        · change _ = ((p.controlPlane.step cfg op).chronicle r).entered.map shown
          rw [hannal, hentered]
          rfl
        · change ((p.controlPlane.step cfg op).chronicle r).entered.IsChain _
          rw [hannal]
          exact hchain' hchain

theorem TraceTells.tracesHistory (h : p.Inv) (hp : TraceTells p) : TracesHistory p := by
  intro r e he
  obtain ⟨ref, hr, hget⟩ := entry?_eq_some.1 he
  have hs := overview_status hr hget
  obtain ⟨hstates, hchain⟩ := hp r
  rw [hs] at hstates hchain
  have hcaptured : capturedStates p r = e.annal.entered.map shown := by
    rw [capturedStates, timelineEvents, h.timeline, ← chronicle_eq hr hget]
    exact hstates
  refine ⟨hcaptured, ?_⟩
  rw [hcaptured, List.isChain_map, ← chronicle_eq hr hget]
  exact hchain.imp fun s t hst => ⟨s, t, rfl, rfl, hst⟩

/-! ## Runs -/

/-- a run whose moves are orderly and told traces its history in every state it reaches -/
theorem run_traces_history (texts : Texts) (cfg : Settings) (moves : List Move)
    (ho : Meets (Platform.step texts cfg) Orderly Platform.init moves)
    (ht : Meets (Platform.step texts cfg) (Told cfg) Platform.init moves) :
    ∀ pre, pre <+: moves → TracesHistory (run (Platform.step texts cfg) Platform.init pre) := by
  intro pre hpre
  have hboth : Meets (Platform.step texts cfg) (fun p m => Orderly p m ∧ Told cfg p m) Platform.init pre :=
    (ho.of_prefix hpre).and (ht.of_prefix hpre)
  have hinv := hboth.run_inv (I := fun p => p.Inv ∧ TraceTells p)
    (fun p m hp hm => ⟨p.step_inv texts hp.1 hm.1, traceTells_step texts hp.1 hm.1 hm.2 hp.2⟩)
      ⟨Platform.inv_init, traceTells_init⟩
  exact hinv.2.tracesHistory hinv.1

theorem run_traces_history_served :
    TracesHistory (run (Platform.step Persistence.sampleTexts tracedSettings) Platform.init servedMoves) :=
  run_traces_history Persistence.sampleTexts tracedSettings servedMoves (by decide +kernel) (by decide +kernel)
    servedMoves (List.prefix_refl _)

/-- the completion of a request that is being served is captured twice -/
theorem completed_twice :
    let moves := servedMoves ++ [.controlPlane (.completeRequest 1 none 6)]
    let p := run (Platform.step Persistence.sampleTexts tracedSettings) Platform.init moves
    Meets (Platform.step Persistence.sampleTexts tracedSettings) Orderly Platform.init moves ∧
      capturedStates p 1 = [RequestState.received, .validated, .admitted, .queued, .scheduled, .batched, .submitted,
        .completed, .completed].map shown ∧ ¬TracesHistory p := by
  intro moves p
  have ho : Meets (Platform.step Persistence.sampleTexts tracedSettings) Orderly Platform.init moves := by
    decide +kernel
  have hcaptured : capturedStates p 1 = [RequestState.received, .validated, .admitted, .queued, .scheduled, .batched,
      .submitted, .completed, .completed].map shown := by
    have hrecorded : statesOf (p.store.eventsOf 1) = [RequestState.received, .validated, .admitted, .queued, .scheduled,
        .batched, .submitted, .completed, .completed].map shown := by decide +kernel
    rw [capturedStates, timelineEvents, (Platform.run_inv Persistence.sampleTexts Platform.inv_init ho).timeline]
    exact hrecorded
  refine ⟨ho, hcaptured, fun h => ?_⟩
  have hentered : (p.controlPlane.entry? 1).map (fun e => e.annal.entered.length) = some 8 := by decide +kernel
  obtain ⟨e, he, hlength⟩ := Option.map_eq_some_iff.1 hentered
  have heq := congrArg List.length (hcaptured.symm.trans (h 1 e he).1)
  rw [List.length_map, List.length_map, hlength] at heq
  cases heq

end InferencePlatform.Replay
