/-
No full path loses its request, unless another call or the background loop gets in its way.

The platform runs a cycle for every call, and each cycle and each dispatch is over what all calls share. A cycle that
comes first places the requests of other calls too, and their own cycles then report them as rejected: those calls mark
them FAILED (`placed_request_fails`). A dispatch that passes over a batch, because another call has submitted it, does
the same.

`no_request_lost`: in favourable circumstances, a run of up to `n` full paths in which every call attends to its request
loses none. A call that is over has its request COMPLETED; any other can go on, and every step it takes brings it nearer
to its end.
-/
import InferencePlatform.Gateway.Progress

namespace InferencePlatform.Gateway

open InferencePlatform.Core (run Meets)
open ControlPlane (ControlPlaneApplication Overview Status)
open Batching (Silent Room Lacks)
open Dispatch (BatchDispatchService SubmitTask Attempt)
open Scheduling (SchedulingResult Places)

variable {cfg : Settings} {n : ℕ} {s s' : PlatformStack} {p p' : Platform} {op : PlatformOp} {r : UUID} {path : Path}
  {phase phase' : Phase} {event : Event} {now : Time} {result : SchedulingResult} {view : AdapterView}
  {svc : BatchDispatchService} {task : SubmitTask}

/-! ## The invariant -/

/-- the requests of the calls made so far -/
def Platform.owners (p : Platform) : List UUID := (p.calls.map Call.path).filterMap Path.requestId?

theorem mem_owners : r ∈ p.owners ↔ ∃ (i : ℕ) (call : Call), p.calls[i]? = some call ∧
    call.path.requestId? = some r := by
  rw [Platform.owners, List.mem_filterMap]
  constructor
  · rintro ⟨path, hpath, hr⟩
    obtain ⟨call, hcall, rfl⟩ := List.mem_map.1 hpath
    obtain ⟨i, hi⟩ := List.mem_iff_getElem?.1 hcall
    exact ⟨i, call, hi, hr⟩
  · rintro ⟨i, call, hi, hr⟩
    exact ⟨call.path, List.mem_map_of_mem (List.mem_of_getElem? hi), hr⟩

/-- what holds while `n` full paths at most are under way -/
structure Going (cfg : Settings) (n : ℕ) (p : Platform) : Prop where
  sound : Sound cfg p
  few : p.calls.length ≤ n
  registered : p.stack.controlPlane.overview.registered ≤ p.calls.length
  full : ∀ {i : ℕ} {call : Call}, p.calls[i]? = some call → ∃ submit, call.path = .executeFullPath submit
  alone : ∀ {i j : ℕ} {call call' : Call}, p.calls[i]? = some call → p.calls[j]? = some call' →
    call.path.requestId? = call'.path.requestId? → i = j
  owned : ∀ {r st}, p.stack.controlPlane.overview.status r = some st → r ∈ p.owners
  tracks : ∀ {i : ℕ} {call : Call} {r : UUID}, p.calls[i]? = some call → call.path.requestId? = some r →
    Tracks p.stack r call.phase

theorem going_init (cfg : Settings) (n : ℕ) (policy : Scheduling.SchedulerPolicy) :
    Going cfg n (Platform.init policy) where
  sound := sound_init cfg policy
  few := Nat.zero_le n
  registered := le_rfl
  full h := by cases h
  alone h := by cases h
  owned h := by cases h
  tracks h := by cases h

/-! ## Room -/

theorem Going.length_owners (h : Going cfg n p) : p.owners.length ≤ n := by
  have hlen := List.length_filterMap_le Path.requestId? (p.calls.map Call.path)
  rw [List.length_map] at hlen
  exact hlen.trans h.few

theorem Going.owned_of_past (h : Going cfg n p) (hp : Past p.stack.controlPlane.overview r) : r ∈ p.owners := by
  obtain ⟨st, hst, -⟩ := hp
  exact h.owned hst

theorem Going.room (h : Going cfg n p) (hroom : Roomy cfg n) (htimely : Timely cfg n p op) :
    Room cfg.scheduler.batch op.time p.owners p.stack.engine :=
  ⟨h.length_owners.trans hroom.batch, h.length_owners.trans hroom.active, htimely.windows⟩

theorem Going.lacks (h : Going cfg n p) (hr : r ∈ p.owners) (hnone : p.stack.engine.requestToBatch.get? r = none) :
    Lacks p.stack.engine p.owners r :=
  ⟨fun hid => h.owned_of_past (h.sound.batched hid), hr, hnone⟩

/-- everybody who waits is an owner, and `r` does not wait yet -/
theorem Going.waiting_lt (h : Going cfg n p) (hroom : Roomy cfg n) (hr : r ∈ p.owners)
    (hnot : ¬p.stack.controlPlane.overview.waits r) :
    p.stack.controlPlane.overview.waiting.length < cfg.controlPlane.queue.maxQueueSize := by
  have hlt : (p.stack.controlPlane.overview.waiting.map Prod.fst).length < p.owners.length := by
    refine Batching.length_lt_of_missing h.sound.controlPlane.nodup_waiting (fun r' hr' => ?_) hr fun hmem => hnot ?_
    · obtain ⟨item, hitem, rfl⟩ := List.mem_map.1 hr'
      exact h.owned_of_past (h.sound.waiting ⟨item, hitem, rfl⟩)
    · obtain ⟨item, hitem, hid⟩ := List.mem_map.1 hmem
      exact ⟨item, hitem, hid⟩
  rw [List.length_map] at hlt
  have hlen := h.length_owners
  have hmax := hroom.queue
  omega

/-! ## The call that takes the step -/

/-- a call finds its request in its cycle's report -/
theorem Going.placed (h : Going cfg n p) (hroom : Roomy cfg n) (htimely : Timely cfg n p op)
    {inj : FailureInjectionConfig} (hinj : Silent inj) (hr : r ∈ p.owners) (hwaiting : Waiting p.stack r)
    (hnone : p.stack.engine.requestToBatch.get? r = none) :
    Held (p.stack.cycled cfg inj op.time).1 r (p.stack.cycled cfg inj op.time).2 := by
  obtain ⟨hqueued, item, hitem, hid⟩ := hwaiting
  have hkept : (p.stack.controlPlane.overview.expire cfg.controlPlane.queue op.time).waits r := by
    refine ⟨item, mem_expire.2 ⟨hitem, ?_⟩, hid⟩
    by_contra hlate
    have hmem : item.1 ∈ p.stack.controlPlane.overview.lateIds cfg.controlPlane.queue op.time :=
      List.mem_map_of_mem (List.mem_filter.2 ⟨hitem, by simpa using hlate⟩)
    rw [htimely.queue] at hmem
    cases hmem
  refine ⟨(congrFun (cycled_status h.sound.controlPlane inj op.time) r).trans hqueued, ?_⟩
  exact Scheduling.runCycle_places cfg.scheduler cfg.controlPlane.queue hinj
    (s := ⟨p.stack.controlPlane, p.stack.policy, p.stack.engine⟩) h.sound.controlPlane h.sound.engine
      (h.room hroom htimely)
    (h.lacks hr hnone) (fun r' hw => h.owned_of_past (h.sound.waiting hw)) hkept (h.length_owners.trans hroom.scan)
    (h.length_owners.trans hroom.candidates)

/-- inside dispatch, the batch that holds the request stays on its way -/
theorem Submits.sent (he : Batching.Inv cfg.scheduler.batch s.engine) (hhealthy : event.Healthy cfg)
    (hattends : Attends cfg s r phase event) (htracks : Tracks s r phase)
    (hsub : Submits cfg s phase event view result svc task) : Held s r result ∧ Sent s r task := by
  cases hsub with
  | disabled hd =>
    have henabled := hattends.enabled rfl
    rw [hd] at henabled
    cases henabled
  | start hd =>
    refine ⟨htracks, fun id hid => ?_⟩
    obtain ⟨set, m, hset, -⟩ := (he.request r id).1 hid
    obtain ⟨b, hb⟩ := he.set hset
    exact Dispatch.submitPending_underway he hhealthy hb (hattends.visited id hid)
  | @resume _ task a _ outcome ha =>
    obtain ⟨hheld, -, hsent⟩ := htracks
    refine ⟨hheld, fun id hid => ?_⟩
    have hvisited := hattends.visited id hid
    simp only [passes, ha, Option.elim_some] at hvisited
    exact Dispatch.resumeWith_underway he hhealthy.1 ha hhealthy.2 (hsent id hid) hvisited

/-- a call that goes on waiting for the adapter has fewer batches left -/
theorem Submits.nearer (hhealthy : event.Healthy cfg)
    (hsub : Submits cfg s phase event view result svc task) {a : Attempt}
    (ha : task.attempt = some a) : (Phase.submitting result task).rank < phase.rank := by
  cases hsub with
  | disabled hd => cases ha
  | start hd => exact Prod.Lex.left _ _ (by decide)
  | resume hattempt => exact Prod.Lex.right _ (Dispatch.resumeWith_shorter hhealthy.2 ha)

/-- the result of a call that returns from dispatch names an accepted dispatch of its request -/
theorem verdict_of_held (hheld : Held s r result) (hsent : Sent s r task) (hattempt : task.attempt = none) :
    ∃ placement dispatch, verdict { result with dispatchResults := task.results } r =
      .dispatched placement dispatch := by
  obtain ⟨-, ⟨x, hfind, hid⟩, hnot⟩ := hheld
  obtain ⟨d, hd, haccepted⟩ := (hsent _ hid).accepted hattempt
  refine ⟨x, d, ?_⟩
  simp only [verdict, findBatchRejection, findPlacement, findDispatch, hnot, hfind, hd, haccepted, if_true]

/-- **A step of a call.** It moves on to a phase nearer its end, and its request with it. -/
theorem Going.turn (h : Going cfg n p) (hroom : Roomy cfg n) {i : ℕ} (hcall : p.calls[i]? = some ⟨path, phase⟩)
    (hr : path.requestId? = some r) (hfavourable : Favourable cfg n p (.resume i event now))
    (hattends : Attends cfg p.stack r phase event) (hturn : Turn cfg p.stack path now phase event s' phase') :
    Tracks s' r phase' ∧ phase'.rank < phase.rank := by
  have howner : r ∈ p.owners := mem_owners.2 ⟨i, _, hcall, hr⟩
  have htracks : Tracks p.stack r phase := h.tracks hcall hr
  have hhealthy : event.Healthy cfg := hfavourable.healthy
  obtain ⟨submit, rfl⟩ := h.full hcall
  obtain rfl : submit.inferenceRequest.requestId = r := Option.some.inj hr
  set r := submit.inferenceRequest.requestId with hid
  cases hturn with
  | @admitted r₁ ref result cp st hr₁ hs hcp =>
    obtain rfl : r = r₁ := Option.some.inj hr₁
    obtain ⟨a, rfl, haccept⟩ := hhealthy
    obtain ⟨r₂, hadm, -⟩ := h.sound.admitting hcall rfl
    obtain rfl : r = r₂ := Option.some.inj hadm.id
    have hspace : ¬cfg.controlPlane.queue.maxQueueSize ≤
        (p.stack.controlPlane.overview.expire cfg.controlPlane.queue now).waiting.length := by
      have hlt := h.waiting_lt hroom howner hadm.unqueued
      have hle := List.length_filter_le (fun item => !Overview.late cfg.controlPlane.queue now item)
        p.stack.controlPlane.overview.waiting
      exact not_le.2 (hle.trans_lt hlt)
    have ho : cp.overview = (p.stack.controlPlane.overview.expire cfg.controlPlane.queue now).enqueued r none now := by
      rw [hcp.overview]
      simp only [Overview.admitted, if_pos haccept, if_neg hspace]
    have hqueued : cp.overview.status r = some ⟨.queued, none⟩ := by
      rw [ho]
      exact Overview.put_status_self _ r _
    rw [hqueued] at hs
    cases hs
    refine ⟨⟨hqueued, (r, now), ?_, rfl⟩, Prod.Lex.left _ _ (by decide)⟩
    change (r, now) ∈ cp.overview.waiting
    rw [ho]
    exact List.mem_append_right _ (List.mem_singleton.2 rfl)
  | @cycled inj =>
    refine ⟨?_, Prod.Lex.left _ _ (by decide)⟩
    exact h.placed hroom hfavourable.timely hhealthy howner htracks (hattends.unplaced rfl)
  | submitting hsub ha =>
    obtain ⟨hheld, hsent⟩ := hsub.sent h.sound.engine hhealthy hattends htracks
    refine ⟨⟨hheld, ?_, hsent⟩, hsub.nearer hhealthy ha⟩
    rw [ha]
    exact Option.some_ne_none _
  | @concluded _ _ view result svc task cp hsub ha hcp =>
    obtain ⟨hheld, hsent⟩ := hsub.sent h.sound.engine hhealthy hattends htracks
    obtain ⟨placement, dispatch, hverdict⟩ := verdict_of_held hheld hsent ha
    have hconcluded : concluded (.executeFullPath submit) p.stack.controlPlane.overview
        { result with dispatchResults := task.results } view =
          (p.stack.controlPlane.overview.put r ⟨.submitted, none⟩, .executing dispatch.backendId) := by
      simp only [concluded, ← hid, hheld.1, Option.elim_some, finalized, hverdict]
      rfl
    rw [hconcluded] at hcp ⊢
    refine ⟨⟨⟨.submitted, none⟩, ?_, rfl⟩, ?_⟩
    · change cp.overview.status r = _
      rw [hcp.overview]
      exact Overview.put_status_self _ r _
    · cases hsub with
      | disabled => exact Prod.Lex.left _ _ (by decide)
      | start => exact Prod.Lex.left _ _ (by decide)
      | resume => exact Prod.Lex.left _ _ (by decide)
  | @completed _ _ _ r₁ st cp hends hr₁ hs hst hcp =>
    obtain rfl : r = r₁ := Option.some.inj hr₁
    cases hends with
    | executing =>
      refine ⟨⟨⟨.completed, st.reason⟩, ?_, rfl⟩, Prod.Lex.left _ _ (by decide)⟩
      change cp.overview.status r = _
      rw [hcp.overview]
      exact Overview.put_status_self _ r _
    | streaming => cases htracks
  | @refused _ _ _ r₁ err hends hr₁ hno =>
    obtain rfl : r = r₁ := Option.some.inj hr₁
    cases hends with
    | executing =>
      -- the request has been submitted, so it completes
      obtain ⟨st, hst, hsubmitted⟩ := htracks
      have hrunning := hno st hst
      rw [hsubmitted] at hrunning
      cases hrunning
    | streaming => cases htracks
  | cancelled => cases htracks
  | failureStored => cases htracks
  | rests hrests =>
    cases hrests with
    | completion =>
      obtain ⟨completion, hok⟩ := hhealthy
      cases hok
    | _ => cases htracks

/-! ## Steps of the platform -/

theorem Turn.registered (h : ControlPlane.Inv s.controlPlane) (hturn : Turn cfg s path now phase event s' phase') :
    s'.controlPlane.overview.registered = s.controlPlane.overview.registered := by
  cases hturn with
  | @admitted r ref result cp st hr hs hcp =>
    change cp.overview.registered = _
    rw [hcp.overview]
    cases result with
    | error message => rfl
    | ok a =>
      simp only [Overview.admitted]
      split_ifs <;> rfl
  | @cycled inj =>
    rcases cycled_overview h inj now with hsame | hexpired
    · rw [hsame]
    · rw [hexpired]
      rfl
  | @concluded _ _ view result svc task cp hsub ha hcp =>
    change cp.overview.registered = _
    rw [hcp.overview]
    rcases concluded_cases path s.controlPlane.overview { result with dispatchResults := task.results } view with
      hsame | ⟨r, reason, -, hput⟩ | ⟨r, st, placement, dispatch, state, -, -, -, -, -, hput⟩
    · rw [hsame]
    · rw [hput]
      rfl
    · rw [hput]
      rfl
  | completed hends hr hs hst hcp => exact (congrArg Overview.registered hcp.overview).trans rfl
  | cancelled hr hs hst hfinishes hcp => exact (congrArg Overview.registered hcp.overview).trans rfl
  | failureStored hr hs hfailed hcancelled hcp => exact (congrArg Overview.registered hcp.overview).trans rfl
  | submitting => rfl
  | refused => rfl
  | rests => rfl

/-- a call registers one request at most -/
theorem Platform.Steps.registered (h : Sound cfg p) (hsteps : Platform.Steps cfg p op p')
    (hle : p.stack.controlPlane.overview.registered ≤ p.calls.length) :
    p'.stack.controlPlane.overview.registered ≤ p'.calls.length := by
  cases hsteps with
  | @call path now s phase hbegins =>
    rw [List.length_append, List.length_singleton]
    refine le_trans ?_ (Nat.succ_le_succ hle)
    cases hbegins with
    | refused hr hnew hfull hcp => exact (congrArg Overview.registered hcp.overview).le.trans (Nat.le_succ _)
    | admits hr hnew href hcp => exact (congrArg Overview.registered hcp.overview).le
    | found hs hst => exact Nat.le_succ _
    | cycle => exact Nat.le_succ _
  | resume hcall hturn =>
    rw [List.length_set]
    exact (hturn.registered h.controlPlane).le.trans hle
  | idle => exact hle
  | @tick inj now =>
    rcases cycled_overview h.controlPlane inj now with hsame | hexpired
    · exact (congrArg Overview.registered hsame).le.trans hle
    · exact (congrArg Overview.registered hexpired).le.trans hle
  | processTimeouts hcp => exact (congrArg Overview.registered hcp.overview).le.trans hle

/-- a new call registers its request -/
theorem Going.begins (h : Going cfg n p) (hroom : Roomy cfg n) (hlt : p.calls.length < n) {submit : SubmitRequest}
    (hbegins : Begins cfg p.stack now (.executeFullPath submit) s' phase) : ∃ ref, phase = .admitting ref := by
  cases hbegins with
  | refused hr hnew hfull hcp =>
    have hregistered := h.registered
    have hmax := hroom.registry
    omega
  | admits hr hnew href hcp => exact ⟨_, rfl⟩

/-- the statuses after a step are those of owners -/
theorem Going.status_owned (h : Going cfg n p) (htimely : Timely cfg n p op) (hsteps : Platform.Steps cfg p op p')
    {st : Status} (hst : p'.stack.controlPlane.overview.status r = some st) : p.actor op = some r ∨ r ∈ p.owners := by
  by_cases hactor : p.actor op = some r
  · exact Or.inl hactor
  · rw [hsteps.status h.sound htimely hactor] at hst
    exact Or.inr (h.owned hst)

/-- a step that makes no call and resumes none -/
theorem Going.of_stack (h : Going cfg n p) (htimely : Timely cfg n p op)
    (hsteps : Platform.Steps cfg p op { p with stack := s }) (hactor : p.actor op = none)
    (hsound : Sound cfg { p with stack := s }) : Going cfg n { p with stack := s } where
  sound := hsound
  few := h.few
  registered := hsteps.registered h.sound h.registered
  full := h.full
  alone := h.alone
  owned hst := by
    rcases h.status_owned htimely hsteps hst with hown | howner
    · rw [hactor] at hown
      cases hown
    · exact howner
  tracks hcall hr := hsteps.tracks h.sound htimely (by simp [hactor]) (h.tracks hcall hr)

theorem going_call (h : Going cfg n p) (hroom : Roomy cfg n) (hfavourable : Favourable cfg n p (.call path now))
    (hbegins : Begins cfg p.stack now path s phase) :
      Going cfg n { stack := s, calls := p.calls ++ [⟨path, phase⟩] } := by
  have hsteps : Platform.Steps cfg p (.call path now) _ := .call hbegins
  have hlt := hfavourable.timely.few rfl
  have hfresh := hfavourable.distinct
  obtain ⟨submit, rfl⟩ := hfavourable.healthy
  set r₁ := submit.inferenceRequest.requestId with hr₁
  have hnew : ∀ {i : ℕ} {call : Call}, p.calls[i]? = some call → call.path.requestId? ≠ some r₁ :=
    fun hi => hfresh.2 _ (List.mem_of_getElem? hi)
  refine ⟨sound_call h.sound hfresh hbegins, ?_, hsteps.registered h.sound h.registered, ?_, ?_, ?_, ?_⟩
  · rw [List.length_append, List.length_singleton]
    exact hlt
  · intro i call hi
    rcases called_cases hi with hold | ⟨-, rfl⟩
    · exact h.full hold
    · exact ⟨submit, rfl⟩
  · intro i j call call' hi hj hsame
    rcases called_cases hi with hold | ⟨hlast, rfl⟩
    · rcases called_cases hj with hold' | ⟨-, rfl⟩
      · exact h.alone hold hold' hsame
      · exact absurd hsame (hnew hold)
    · rcases called_cases hj with hold' | ⟨hlast', -⟩
      · exact absurd hsame.symm (hnew hold')
      · exact hlast.trans hlast'.symm
  · intro r st hst
    rw [Platform.owners, List.map_append, List.filterMap_append, List.mem_append]
    rcases h.status_owned hfavourable.timely hsteps hst with hown | howner
    · exact Or.inr (List.mem_filterMap.2 ⟨_, List.mem_singleton.2 rfl, hown⟩)
    · exact Or.inl howner
  · intro i call r hi hr
    rcases called_cases hi with hold | ⟨-, rfl⟩
    · refine hsteps.tracks h.sound hfavourable.timely (fun hown => hnew hold ?_) (h.tracks hold hr)
      rw [hr]
      exact hown.symm
    · obtain ⟨ref, rfl⟩ := h.begins hroom hlt hbegins
      trivial

theorem going_resume (h : Going cfg n p) (hroom : Roomy cfg n) {i : ℕ} {call : Call}
    (hfavourable : Favourable cfg n p (.resume i event now)) (hattended : Attended cfg p (.resume i event now))
    (hcall : p.calls[i]? = some call) (hturn : Turn cfg p.stack call.path now call.phase event s phase) :
    Going cfg n { stack := s, calls := p.calls.set i { call with phase } } := by
  have hsteps : Platform.Steps cfg p (.resume i event now) _ := .resume hcall hturn
  have hactor : p.actor (.resume i event now) = call.path.requestId? := by
    simp only [Platform.actor, hcall, Option.bind_some]
  -- the paths of the calls are as before
  have hpath : ∀ {j : ℕ} {call' : Call}, (p.calls.set i { call with phase })[j]? = some call' →
      ∃ call'', p.calls[j]? = some call'' ∧ call''.path = call'.path := by
    intro j call' hj
    rcases resumed_cases hcall hj with ⟨rfl, rfl⟩ | ⟨-, hold⟩
    · exact ⟨call, hcall, rfl⟩
    · exact ⟨call', hold, rfl⟩
  have howners : Platform.owners { stack := s, calls := p.calls.set i { call with phase } } = p.owners := by
    obtain ⟨hi, hget⟩ := List.getElem?_eq_some_iff.1 hcall
    have hi' : i < (p.calls.map Call.path).length := by simpa using hi
    have hself : call.path = (p.calls.map Call.path)[i] := by rw [List.getElem_map, hget]
    unfold Platform.owners
    dsimp only
    rw [List.map_set, hself, List.set_getElem_self]
  refine ⟨sound_resume h.sound hcall hturn, ?_, hsteps.registered h.sound h.registered, ?_, ?_, ?_, ?_⟩
  · rw [List.length_set]
    exact h.few
  · intro j call' hj
    obtain ⟨call'', hj', hsame⟩ := hpath hj
    rw [← hsame]
    exact h.full hj'
  · intro j k call' call'' hj hk hsame
    obtain ⟨call₁, hj', hpath₁⟩ := hpath hj
    obtain ⟨call₂, hk', hpath₂⟩ := hpath hk
    exact h.alone hj' hk' (by rw [hpath₁, hpath₂, hsame])
  · intro r st hst
    rw [howners]
    rcases h.status_owned hfavourable.timely hsteps hst with hown | howner
    · exact mem_owners.2 ⟨i, call, hcall, hactor.symm.trans hown⟩
    · exact howner
  · intro j call' r hj hr
    rcases resumed_cases hcall hj with ⟨-, rfl⟩ | ⟨hji, hold⟩
    · exact (h.turn hroom hcall hr hfavourable (hattended call hcall r hr) hturn).1
    · refine hsteps.tracks h.sound hfavourable.timely (fun hown => hji ?_) (h.tracks hold hr)
      exact h.alone hold hcall (hr.trans (hown.symm.trans hactor))

theorem going_step (h : Going cfg n p) (hroom : Roomy cfg n) (hfavourable : Favourable cfg n p op)
    (hattended : Attended cfg p op) : Going cfg n (p.step cfg op) := by
  have hsteps := step_steps h.sound hfavourable.distinct
  have hsound := sound_step h.sound hfavourable.distinct
  generalize p.step cfg op = p' at hsteps hsound ⊢
  cases hsteps with
  | call hbegins => exact going_call h hroom hfavourable hbegins
  | resume hcall hturn => exact going_resume h hroom hfavourable hattended hcall hturn
  | idle hidle => exact h
  | tick => exact h.of_stack hfavourable.timely .tick rfl hsound
  | processTimeouts hcp => exact h.of_stack hfavourable.timely (.processTimeouts hcp) rfl hsound

/-! ## Runs -/

def Phase.isOver : Phase → Bool
  | .returned | .raised _ => true
  | .admitting _ | .scheduling | .scheduled _ | .submitting .. | .executing _ | .streaming _ | .cancelling | .persisting
  | .streamFailed _ => false

/-- no request of a full path is lost -/
structure NoneLost (cfg : Settings) (n : ℕ) (p : Platform) : Prop where
  /-- the request of a call that is over is COMPLETED -/
  completed : ∀ call ∈ p.calls, call.phase.isOver = true → ∀ r ∈ call.path.requestId?,
    ∃ st, p.stack.controlPlane.overview.status r = some st ∧ st.state = .completed
  /-- any other call waits for something that is in order -/
  goesOn : ∀ (i : ℕ) (call : Call), p.calls[i]? = some call → call.phase.isOver = false →
    ∃ event : Event, event.Healthy cfg ∧ ∀ now, p.resumption cfg i event now ≠ none
  /-- when it is resumed, it comes nearer to its end -/
  nearer : ∀ (i : ℕ) (call : Call) (event : Event) (now : Time), p.calls[i]? = some call →
    Favourable cfg n p (.resume i event now) → Attended cfg p (.resume i event now) →
      p.resumption cfg i event now ≠ none →
        ∃ call', (p.step cfg (.resume i event now)).calls[i]? = some call' ∧ call'.phase.rank < call.phase.rank

theorem Going.completed (h : Going cfg n p) {i : ℕ} {call : Call} (hcall : p.calls[i]? = some call)
    (hover : call.phase.isOver = true) (hr : call.path.requestId? = some r) :
    ∃ st, p.stack.controlPlane.overview.status r = some st ∧ st.state = .completed := by
  have htracks := h.tracks hcall hr
  obtain ⟨path, phase⟩ := call
  cases phase with
  | returned => exact htracks
  | raised err => cases htracks
  | _ => cases hover

theorem Going.goesOn (h : Going cfg n p) {i : ℕ} {call : Call} (hcall : p.calls[i]? = some call)
    (hover : call.phase.isOver = false) :
    ∃ event : Event, event.Healthy cfg ∧ ∀ now, p.resumption cfg i event now ≠ none := by
  obtain ⟨path, phase⟩ := call
  obtain ⟨submit, rfl⟩ := h.full hcall
  have htracks := h.tracks hcall rfl
  let view : AdapterView := ⟨Dispatch.found fun _ _ _ => cfg.dispatch.defaultBackendId, fun _ => true⟩
  have hfinds : Dispatch.Finds cfg.dispatch view.route := Dispatch.found_finds _
  have hresumed : ∀ {event now x}, advance cfg ⟨.executeFullPath submit, phase⟩ now event = some x →
      p.resumption cfg i event now ≠ none := by
    intro event now x hx
    simp [Platform.resumption, hcall, hx]
  cases phase with
  | admitting ref => exact ⟨.admission (.ok { outcome := .accept }), ⟨_, rfl, rfl⟩, fun now => hresumed rfl⟩
  | scheduling => exact ⟨.cycle {}, FailureInjectionConfig.isActive_default, fun now => hresumed rfl⟩
  | scheduled result => exact ⟨.dispatch view, hfinds, fun now => hresumed rfl⟩
  | submitting result task =>
    obtain ⟨-, hattempt, -⟩ := htracks
    obtain ⟨a, ha⟩ := Option.ne_none_iff_exists'.1 hattempt
    refine ⟨.adapter view (.result true a.backendId "accepted"), ⟨hfinds, rfl⟩, fun now => ?_⟩
    exact hresumed (Option.map_eq_some_iff.2 ⟨a, ha, rfl⟩)
  | executing backendId => exact ⟨.completion (.ok none), ⟨none, rfl⟩, fun now => hresumed rfl⟩
  | returned => cases hover
  | raised err => cases hover
  | _ => cases htracks

theorem Going.nearer (h : Going cfg n p) (hroom : Roomy cfg n) {i : ℕ} {call : Call} (hcall : p.calls[i]? = some call)
    (hfavourable : Favourable cfg n p (.resume i event now)) (hattended : Attended cfg p (.resume i event now))
    (hresumed : p.resumption cfg i event now ≠ none) :
    ∃ call', (p.step cfg (.resume i event now)).calls[i]? = some call' ∧ call'.phase.rank < call.phase.rank := by
  have hsteps := step_steps h.sound hfavourable.distinct
  generalize p.step cfg (.resume i event now) = p' at hsteps ⊢
  cases hsteps with
  | @resume _ call₁ _ _ s phase hcall₁ hturn =>
    obtain rfl : call = call₁ := Option.some.inj (hcall.symm.trans hcall₁)
    obtain ⟨submit, hpath⟩ := h.full hcall
    have hr : call.path.requestId? = some submit.inferenceRequest.requestId := by
      rw [hpath]
      rfl
    refine ⟨{ call with phase }, ?_, (h.turn hroom hcall hr hfavourable (hattended call hcall _ hr) hturn).2⟩
    rw [List.getElem?_set_self', hcall]
    rfl
  | idle hidle => exact absurd hidle hresumed

/-- **No request is lost.** Over every interleaving of up to `n` full paths for distinct requests, with any number of
cycles of the background loop, as long as the circumstances are favourable and every call attends to its request. -/
theorem no_request_lost (cfg : Settings) (policy : Scheduling.SchedulerPolicy) {n : ℕ} (hroom : Roomy cfg n)
    {ops : List PlatformOp}
    (hc : Meets (Platform.step cfg) (fun p op => Favourable cfg n p op ∧ Attended cfg p op)
      (Platform.init policy) ops) :
    NoneLost cfg n (run (Platform.step cfg) (Platform.init policy) ops) := by
  have h : Going cfg n (run (Platform.step cfg) (Platform.init policy) ops) :=
    hc.run_inv (I := Going cfg n) (fun _ _ hgoing hc => going_step hgoing hroom hc.1 hc.2) (going_init cfg n policy)
  refine ⟨fun call hcall hover r hr => ?_, fun i call => h.goesOn, fun i call event now => h.nearer hroom⟩
  obtain ⟨i, hi⟩ := List.mem_iff_getElem?.1 hcall
  exact h.completed hi hover hr

def accepts : Event := .admission (.ok { outcome := .accept })

def delivers : Event := .adapter sampleView (.result true "mock" "accepted")

/-- two full paths that wait for their cycles -/
def twoQueued : List PlatformOp :=
  [.call (.executeFullPath (ControlPlane.sampleSubmit 1)) 0, .call (.executeFullPath (ControlPlane.sampleSubmit 2)) 0,
   .resume 0 accepts 0, .resume 1 accepts 0]

/-- the cycle of the first places both requests; the second finds its own placed already -/
def overtakenOps : List PlatformOp := twoQueued ++
  [.resume 0 (.cycle {}) 0, .resume 1 (.cycle {}) 0, .resume 0 (.dispatch sampleView) 0, .resume 0 delivers 0,
   .resume 0 (.completion (.ok none)) 0, .resume 1 (.dispatch sampleView) 0]

/-- the second is admitted after the first one's cycle, and both dispatch their batch before it is accepted -/
def attendedOps : List PlatformOp :=
  [.call (.executeFullPath (ControlPlane.sampleSubmit 1)) 0, .call (.executeFullPath (ControlPlane.sampleSubmit 2)) 0,
   .resume 0 accepts 0, .resume 0 (.cycle {}) 0, .resume 1 accepts 0, .resume 1 (.cycle {}) 0,
   .resume 1 (.dispatch sampleView) 0, .resume 0 (.dispatch sampleView) 0, .resume 0 delivers 0, .tick {} 0,
   .resume 0 (.completion (.ok none)) 0, .resume 1 delivers 0, .resume 1 (.completion (.ok none)) 0]

theorem silent_default : Silent {} := FailureInjectionConfig.isActive_default

/-- without routing, the default backend is found -/
theorem sampleView_finds : Dispatch.Finds sampleSettings.dispatch sampleView.route := fun hrouted => by cases hrouted

theorem overtakenOps_healthy : ∀ op ∈ overtakenOps, op.Healthy sampleSettings := by
  simp [overtakenOps, twoQueued, accepts, delivers, PlatformOp.Healthy, Event.Healthy, silent_default, sampleView_finds,
    Dispatch.AdapterOutcome.accepted]

theorem attendedOps_healthy : ∀ op ∈ attendedOps, op.Healthy sampleSettings := by
  simp [attendedOps, accepts, delivers, PlatformOp.Healthy, Event.Healthy, silent_default, sampleView_finds,
    Dispatch.AdapterOutcome.accepted]

/-- **A placed request fails.** The circumstances are favourable for two full paths, and both calls have returned; the
request of the first is COMPLETED, and that of the second is FAILED. -/
theorem placed_request_fails :
    Roomy sampleSettings 2 ∧
      Meets (Platform.step sampleSettings) (Favourable sampleSettings 2) (Platform.init .fifo) overtakenOps ∧
      (platformAfter overtakenOps).calls.map Call.phase = [.returned, .returned] ∧
      (platformAfter overtakenOps).stack.controlPlane.overview.status 1 = some ⟨.completed, none⟩ ∧
      (platformAfter overtakenOps).stack.controlPlane.overview.status 2 = some ⟨.failed, some .adapterError⟩ ∧
      ¬NoneLost sampleSettings 2 (platformAfter overtakenOps) := by
  have hfailed : (platformAfter overtakenOps).stack.controlPlane.overview.status 2 =
      some ⟨.failed, some .adapterError⟩ := by
    decide +kernel
  have hcall : ⟨.executeFullPath (ControlPlane.sampleSubmit 2), .returned⟩ ∈ (platformAfter overtakenOps).calls := by
    decide +kernel
  refine ⟨by decide, ?_, ?_, ?_, hfailed, fun h => ?_⟩
  · have hrest : Meets (Platform.step sampleSettings) (fun p op => Distinct p op ∧ Timely sampleSettings 2 p op)
        (Platform.init .fifo) overtakenOps := by decide +kernel
    exact ((Meets.of_mem overtakenOps_healthy _).and hrest).mono fun p op hc => ⟨hc.1, hc.2.1, hc.2.2⟩
  · decide +kernel
  · decide +kernel
  · obtain ⟨st, hst, hcompleted⟩ := h.completed _ hcall rfl 2 rfl
    rw [hfailed] at hst
    cases hst
    cases hcompleted

/-- two full paths and a cycle of the background loop, one step after the other in turns -/
theorem no_request_lost_two : NoneLost sampleSettings 2 (platformAfter attendedOps) := by
  have hrest : Meets (Platform.step sampleSettings)
      (fun p op => (Distinct p op ∧ Timely sampleSettings 2 p op) ∧ Attended sampleSettings p op) (Platform.init .fifo)
      attendedOps := by decide +kernel
  refine no_request_lost sampleSettings .fifo (by decide) ?_
  exact ((Meets.of_mem attendedOps_healthy _).and hrest).mono fun p op hc => ⟨⟨hc.1, hc.2.1.1, hc.2.1.2⟩, hc.2.2⟩

-- the second request joins the batch of the first when it has been submitted already: its dispatch passes the batch
-- over
example : (platformAfter (fullPath 0 1 (.result true "mock" "accepted") 0 ++
    fullPath 1 2 (.result true "mock" "accepted") 0)).stack.controlPlane.overview.status 2 =
      some ⟨.failed, some .adapterError⟩ := by decide +kernel

end InferencePlatform.Gateway
