/-
How long a request stays in the waiting queue.

The scheduler reads the queue and does not dequeue, and no request path removes an item. An item leaves the queue when
it has expired, at the next access to the queue (`Platform.readsAt`), whatever has become of its request meanwhile: one
that has completed waits on, counts against the capacity and is selected again (`completed_request_waits`).

`queue_items`: a REJECTED or TIMED_OUT request does not wait; an item stays through a run exactly as long as no step
reads the queue after its deadline; and no cycle puts a COMPLETED or CANCELLED request into a batch, for it is in one
already.
-/
import InferencePlatform.Gateway.Executed
import InferencePlatform.Gateway.SlotRelease

namespace InferencePlatform.Gateway

open InferencePlatform.Core (run Meets)
open ControlPlane (ControlPlaneApplication Ref AdmissionResult Overview Status)
open ControlPlane.Overview (late)
open Scheduling (SchedulingResult)

variable {cfg : Settings} {s s' : PlatformStack} {p p' : Platform} {op : PlatformOp} {r : UUID}
  {st : Status} {path : Path} {now : Time} {o o' o'' : Overview} {reads : Option Time} {item : UUID × Time}

/-! ## Reading the queue -/

/-- a cycle that gets as far as the queue reads it -/
def cycleReads (inj : FailureInjectionConfig) (now : Time) : Option Time :=
  if inj.isActive .schedulerCrash none ∨ inj.isActive .schedulerTimeout none then none else some now

def Call.readsAt (call : Call) (event : Event) (now : Time) : Option Time :=
  match call.phase, event with
  | .admitting _, .admission (.ok a) => if a.outcome = .accept then some now else none
  | .scheduling, .cycle inj => cycleReads inj now
  | _, _ => none

/-- when the step reads the queue, if it does; the overdue items are dropped -/
def Platform.readsAt (p : Platform) : PlatformOp → Option Time
  | .call path now =>
    if path.requestId?.any fun r => (p.stack.controlPlane.overview.status r).isNone then some now else none
  | .resume i event now => p.calls[i]?.bind fun call => call.readsAt event now
  | .tick inj now => cycleReads inj now
  | .processTimeouts now => some now

/-- the item is not overdue when the step reads the queue -/
def Platform.Spares (cfg : Settings) (item : UUID × Time) (p : Platform) (op : PlatformOp) : Prop :=
  ∀ now ∈ p.readsAt op, late cfg.controlPlane.queue now item = false

instance (cfg : Settings) (item : UUID × Time) (p : Platform) (op : PlatformOp) : Decidable (p.Spares cfg item op) :=
  inferInstanceAs (Decidable (∀ now ∈ p.readsAt op, _))

/-! ## What a step does to the queue -/

/-- the states no waiting request is in -/
def leftQueue (state : RequestState) : Bool := state = .rejected ∨ state = .timedOut

/-- what a step that reads the queue at `reads` does to the items, and to the states of those that wait -/
structure Queues (cfg : Settings) (reads : Option Time) (o o' : Overview) : Prop where
  items : ∀ {item : UUID × Time}, Past o item.1 →
    (item ∈ o'.waiting ↔ item ∈ o.waiting ∧ ∀ now ∈ reads, late cfg.controlPlane.queue now item = false)
  states : ∀ {r st}, o'.waits r → o'.status r = some st → leftQueue st.state = true → o.waits r ∧ o.status r = some st

theorem mem_expire : item ∈ (o.expire cfg.controlPlane.queue now).waiting ↔
    item ∈ o.waiting ∧ late cfg.controlPlane.queue now item = false := by
  simp only [Overview.expire, List.mem_filter, Bool.not_eq_true']

theorem Queues.expire (cfg : Settings) (now : Time) (o : Overview) :
    Queues cfg (some now) o (o.expire cfg.controlPlane.queue now) := by
  refine ⟨fun {item} _ => ?_, fun {r st} hw hs _ => ⟨waits_of_expire hw, hs⟩⟩
  rw [mem_expire]
  simp

theorem Queues.of_same (cfg : Settings) (hw : o'.waiting = o.waiting) (hs : o'.status = o.status) :
    Queues cfg none o o' := by
  refine ⟨fun {item} _ => ?_, fun {r st} hwaits hstatus _ => ⟨?_, ?_⟩⟩
  · rw [hw]
    simp
  · unfold Overview.waits at hwaits
    rw [hw] at hwaits
    exact hwaits
  · rw [← hs]
    exact hstatus

theorem Queues.put (cfg : Settings) (o : Overview) (r : UUID) (hst : leftQueue st.state = false) :
    Queues cfg none o (o.put r st) := by
  refine ⟨fun {item} _ => by simp, fun {r' st'} hw hs hleft => ?_⟩
  by_cases hr' : r' = r
  · rw [hr', Overview.put_status_self] at hs
    cases hs
    rw [hst] at hleft
    cases hleft
  · exact ⟨hw, by rw [← Overview.put_status_ne o st hr']; exact hs⟩

/-- the request does not wait -/
theorem Queues.put_unqueued (cfg : Settings) (o : Overview) {r : UUID} (hr : ¬o.waits r) (st : Status) :
    Queues cfg none o (o.put r st) := by
  refine ⟨fun {item} _ => by simp, fun {r' st'} hw hs _ => ⟨hw, ?_⟩⟩
  have hne : r' ≠ r := by
    rintro rfl
    exact hr hw
  rw [← Overview.put_status_ne o st hne]
  exact hs

/-- a step that reads the queue, and one that does not -/
theorem Queues.trans (h : Queues cfg reads o o') (hpast : ∀ {r}, Past o r → Past o' r) (h' : Queues cfg none o' o'') :
    Queues cfg reads o o'' := by
  refine ⟨fun {item} hp => ?_, fun {r st} hw hs hleft => ?_⟩
  · rw [h'.items (hpast hp), h.items hp]
    simp
  · obtain ⟨hw', hs'⟩ := h'.states hw hs hleft
    exact h.states hw' hs' hleft

theorem Queues.processTimeouts (cfg : Settings) (now : Time) (h : (o.waiting.map Prod.fst).Nodup) :
    Queues cfg (some now) o (o.processTimeouts cfg.controlPlane.queue now) := by
  refine ⟨(Queues.expire cfg now o).items, fun {r st} hw hs _ => ⟨waits_of_expire hw, ?_⟩⟩
  rw [← hs]
  refine (ControlPlane.processTimeouts_status_of_not_late cfg.controlPlane fun hlate => ?_).symm
  -- a late request has one item only, and it is dropped
  obtain ⟨item, hitem, hid⟩ := hw
  obtain ⟨item', hitem', hid'⟩ := List.mem_map.1 hlate
  obtain ⟨hmem, hlate⟩ := List.mem_filter.1 hitem'
  obtain ⟨hkept, hkeptLate⟩ := mem_expire.1 hitem
  have hsame : item = item' := List.inj_on_of_nodup_map h hkept hmem (hid.trans hid'.symm)
  rw [hsame, hlate] at hkeptLate
  cases hkeptLate

theorem Queues.register (cfg : Settings) (now : Time) (h : (o.waiting.map Prod.fst).Nodup) {r : UUID} (hr : ¬o.waits r)
    (st : Status) :
    Queues cfg (some now) o ((o.processTimeouts cfg.controlPlane.queue now).register r st) := by
  have htimeouts := Queues.processTimeouts cfg now h
  refine ⟨htimeouts.items, fun {r' st'} hw hs hleft => htimeouts.states hw ?_ hleft⟩
  rw [← hs]
  refine (Overview.register_status_ne _ st ?_).symm
  rintro rfl
  exact hr (waits_of_expire hw)

/-- the end of the intake of a request that does not wait yet -/
theorem Queues.admitted (cfg : Settings) (now : Time) (hs : o.status r = some ⟨.validated, none⟩) (hr : ¬o.waits r)
    (ref : Ref) (result : Except String AdmissionResult) :
    Queues cfg (Call.readsAt ⟨path, .admitting ref⟩ (.admission result) now) o
      (o.admitted cfg.controlPlane.queue r none result now) := by
  cases result with
  | error message => exact Queues.put_unqueued cfg o hr _
  | ok a =>
    simp only [Call.readsAt, Overview.admitted]
    split_ifs with haccept hfull
    · refine (Queues.expire cfg now o).trans id ?_
      exact Queues.put_unqueued cfg _ (fun hw => hr (waits_of_expire hw)) _
    · refine ⟨fun {item} hp => ?_, fun {r' st'} hw hs' hleft => ?_⟩
      · have hne : item ≠ (r, now) := by
          rintro rfl
          exact not_past_of_validated hs hp
        change item ∈ (o.expire cfg.controlPlane.queue now).waiting ++ [(r, now)] ↔ _
        rw [List.mem_append, List.mem_singleton, or_iff_left hne, mem_expire]
        simp
      · by_cases hr' : r' = r
        · have hqueued : ((o.expire cfg.controlPlane.queue now).put r ⟨.queued, none⟩).status r' = some st' := hs'
          rw [hr', Overview.put_status_self] at hqueued
          cases hqueued
          cases hleft
        · obtain ⟨item, hitem, hid⟩ := hw
          rcases List.mem_append.1 hitem with hitem | hitem
          · refine ⟨waits_of_expire ⟨item, hitem, hid⟩, ?_⟩
            rw [← hs']
            exact (Overview.put_status_ne (o.expire cfg.controlPlane.queue now) _ hr').symm
          · rw [List.mem_singleton.1 hitem] at hid
            exact absurd hid.symm hr'
    · exact Queues.put_unqueued cfg o hr _

/-- a cycle drops what is overdue when it reads the queue -/
theorem Queues.cycled (h : ControlPlane.Inv s.controlPlane) (inj : FailureInjectionConfig) (now : Time) :
    Queues cfg (cycleReads inj now) s.controlPlane.overview (s.cycled cfg inj now).1.controlPlane.overview := by
  unfold cycleReads PlatformStack.cycled Scheduling.runCycle
  by_cases hcrash : inj.isActive .schedulerCrash none = true
  · simp only [hcrash, true_or, if_true]
    exact Queues.of_same cfg rfl rfl
  by_cases htimeout : inj.isActive .schedulerTimeout none = true
  · simp only [hcrash, htimeout, or_true, if_true, Bool.false_eq_true, if_false]
    exact Queues.of_same cfg rfl rfl
  obtain ⟨items, cp, hrun, hl, -⟩ :=
    Scheduling.listQueueItems_spec cfg.controlPlane.queue h cfg.scheduler.queueScanLimit now
  have hcp : (Scheduling.scheduleItems cfg.scheduler inj now items
      ⟨cp, s.policy, s.engine⟩).1.controlPlane = cp := by
    unfold Scheduling.scheduleItems
    dsimp only
    split <;> rfl
  simp only [hcrash, htimeout, or_self, Bool.false_eq_true, if_false, hrun, hcp]
  rw [hl.overview]
  exact Queues.expire cfg now _

theorem Turn.queues (h : ControlPlane.Inv s.controlPlane) {phase phase' : Phase} {event : Event}
    (hadmitting : ∀ ref, phase = .admitting ref → ∃ r, Admitting s.controlPlane path ref r)
    (hturn : Turn cfg s path now phase event s' phase') :
    Queues cfg (Call.readsAt ⟨path, phase⟩ event now) s.controlPlane.overview s'.controlPlane.overview := by
  cases hturn with
  | @admitted r ref result cp st hr hs hcp =>
    obtain ⟨r', hadm⟩ := hadmitting ref rfl
    have hid := hadm.id
    rw [hr] at hid
    cases hid
    change Queues cfg _ _ cp.overview
    rw [hcp.overview]
    exact Queues.admitted cfg now hadm.validated hadm.unqueued ref result
  | cycled => exact Queues.cycled h _ now
  | submitting hsub ha => cases hsub <;> exact Queues.of_same cfg rfl rfl
  | @concluded _ _ view result svc task cp hsub ha hcp =>
    have hreads : Call.readsAt ⟨path, phase⟩ event now = none := by cases hsub <;> rfl
    rw [hreads]
    change Queues cfg none _ cp.overview
    rw [hcp.overview]
    rcases concluded_cases path s.controlPlane.overview { result with dispatchResults := task.results } view with
      hsame | ⟨r, reason, -, hput⟩ | ⟨r, st, placement, dispatch, state, -, -, -, -, hstate, hput⟩
    · rw [hsame]
      exact Queues.of_same cfg rfl rfl
    · rw [hput]
      exact Queues.put cfg _ r rfl
    · rw [hput]
      refine Queues.put cfg _ r ?_
      rcases hstate with rfl | rfl
      · rfl
      · rfl
  | @completed _ _ _ r st cp hends hr hs hst hcp =>
    have hreads : Call.readsAt ⟨path, phase⟩ event now = none := by cases hends <;> rfl
    rw [hreads]
    change Queues cfg none _ cp.overview
    rw [hcp.overview]
    exact Queues.put cfg _ r rfl
  | refused hends hr hno => cases hends <;> exact Queues.of_same cfg rfl rfl
  | @cancelled _ _ r st cp hr hs hst hfinishes hcp =>
    change Queues cfg none _ cp.overview
    rw [hcp.overview]
    exact Queues.put cfg _ r rfl
  | @failureStored err r st cp hr hs hfailed hcancelled hcp =>
    change Queues cfg none _ cp.overview
    rw [hcp.overview]
    exact Queues.put cfg _ r rfl
  | rests hrests => cases hrests <;> exact Queues.of_same cfg rfl rfl

theorem Begins.queues (h : Sound cfg p) {phase : Phase} (hbegins : Begins cfg p.stack now path s' phase) :
    Queues cfg (p.readsAt (.call path now)) p.stack.controlPlane.overview s'.controlPlane.overview := by
  have hreads : ∀ {r}, path.requestId? = some r → p.stack.controlPlane.overview.status r = none →
      p.readsAt (.call path now) = some now := by
    intro r hr hnew
    simp only [Platform.readsAt, hr, Option.any_some, hnew, Option.isNone_none, if_true]
  have hnodup := h.controlPlane.nodup_waiting
  cases hbegins with
  | @refused _ r cp hr hnew hfull hcp =>
    rw [hreads hr hnew]
    change Queues cfg _ _ cp.overview
    rw [hcp.overview]
    exact Queues.processTimeouts cfg now hnodup
  | @admits _ r ref cp hr hnew href hcp =>
    rw [hreads hr hnew]
    change Queues cfg _ _ cp.overview
    rw [hcp.overview]
    refine Queues.register cfg now hnodup (fun hw => ?_) _
    obtain ⟨st, hst, -⟩ := h.waiting hw
    rw [hnew] at hst
    cases hst
  | @found submit st hs hst =>
    have hnone : p.readsAt (.call (.streamSse submit) now) = none := by
      simp only [Platform.readsAt, Path.requestId?, Option.any_some, hs, Option.isNone_some,
        Bool.false_eq_true, if_false]
    rw [hnone]
    exact Queues.of_same cfg rfl rfl
  | cycle => exact Queues.of_same cfg rfl rfl

/-- a call that reads the queue is resumed -/
theorem Sound.readsAt_of_idle (h : Sound cfg p) {i : ℕ} {event : Event} (hidle : p.resumption cfg i event now = none) :
    p.readsAt (.resume i event now) = none := by
  cases hcall : p.calls[i]? with
  | none => simp only [Platform.readsAt, hcall, Option.bind_none]
  | some call =>
    simp only [Platform.readsAt, hcall, Option.bind_some]
    unfold Call.readsAt
    split
    · rename_i ref a hphase
      obtain ⟨r, hadm, -⟩ := h.admitting hcall hphase
      simp [Platform.resumption, hcall, advance, hphase, hadm.id] at hidle
    · rename_i inj hphase
      simp [Platform.resumption, hcall, advance, hphase] at hidle
    · rfl

theorem Platform.Steps.queues (h : Sound cfg p) (hsteps : Platform.Steps cfg p op p') :
    Queues cfg (p.readsAt op) p.stack.controlPlane.overview p'.stack.controlPlane.overview := by
  cases hsteps with
  | call hbegins => exact hbegins.queues h
  | @resume i call event now s phase hcall hturn =>
    have hreads : p.readsAt (.resume i event now) = call.readsAt event now := by
      simp only [Platform.readsAt, hcall, Option.bind_some]
    rw [hreads]
    refine hturn.queues h.controlPlane fun ref hphase => ?_
    obtain ⟨r, hadm, -⟩ := h.admitting hcall hphase
    exact ⟨r, hadm⟩
  | idle hidle =>
    rw [h.readsAt_of_idle hidle]
    exact Queues.of_same cfg rfl rfl
  | tick => exact Queues.cycled h.controlPlane _ _
  | @processTimeouts now cp hcp =>
    change Queues cfg _ _ cp.overview
    rw [hcp.overview]
    exact Queues.processTimeouts cfg now h.controlPlane.nodup_waiting

theorem Platform.Steps.past (h : Sound cfg p) (hsteps : Platform.Steps cfg p op p')
    (hp : Past p.stack.controlPlane.overview r) : Past p'.stack.controlPlane.overview r :=
  (hsteps.reaches h).evolves.past hp

/-- an item stays as long as it is spared, and does not come back, by induction on the steps -/
theorem items_run (h : Sound cfg p) {ops : List PlatformOp} (hd : Meets (Platform.step cfg) Distinct p ops)
    (hp : Past p.stack.controlPlane.overview item.1) :
    item ∈ (run (Platform.step cfg) p ops).stack.controlPlane.overview.waiting ↔
      item ∈ p.stack.controlPlane.overview.waiting ∧ Meets (Platform.step cfg) (Platform.Spares cfg item) p ops := by
  induction ops generalizing p with
  | nil => simp [Meets]
  | cons op ops ih =>
    have hsteps := step_steps h hd.1
    have hrest := ih (sound_step h hd.1) hd.2 (hsteps.past h hp)
    rw [Core.run_cons, hrest, (hsteps.queues h).items hp, and_assoc]
    rfl

/-- whoever waits is neither REJECTED nor TIMED_OUT -/
def Present (p : Platform) : Prop :=
  ∀ r st, p.stack.controlPlane.overview.waits r → p.stack.controlPlane.overview.status r = some st →
    leftQueue st.state = false

theorem present_step (h : Sound cfg p) (hd : Distinct p op) (hpresent : Present p) : Present (p.step cfg op) := by
  intro r st hw hs
  by_contra hleft
  obtain ⟨hw', hs'⟩ := ((step_steps h hd).queues h).states hw hs (by simpa using hleft)
  exact hleft (hpresent r st hw' hs')

/-! ## Runs -/

/-- what the queue keeps of the requests of `p` while the steps `ops` go on -/
structure QueueKeeps (cfg : Settings) (p : Platform) (ops : List PlatformOp) : Prop where
  left : ∀ r st, p.stack.controlPlane.overview.status r = some st → st.state = .rejected ∨ st.state = .timedOut →
    ¬p.stack.controlPlane.overview.waits r
  /-- whatever its request has come to, an item stays exactly until it is overdue when the queue is read -/
  items : ∀ item ∈ p.stack.controlPlane.overview.waiting,
    item ∈ (run (Platform.step cfg) p ops).stack.controlPlane.overview.waiting ↔
      Meets (Platform.step cfg) (Platform.Spares cfg item) p ops
  again : ∀ r st, p.stack.controlPlane.overview.status r = some st → st.state = .completed ∨ st.state = .cancelled →
    ∀ op, r ∉ p.entering cfg op

theorem entering_unbatched (h : Sound cfg p) (hr : r ∈ p.entering cfg op) : ¬Batched p.stack r := by
  rintro ⟨id, hid⟩
  have hcycle : ∀ {inj now}, r ∈ p.stack.entering cfg inj now → False := by
    intro inj now hentering
    have hnone := Scheduling.cycleEntries_unbatched
      (s := ⟨p.stack.controlPlane, p.stack.policy, p.stack.engine⟩) h.engine hentering
    rw [hid] at hnone
    cases hnone
  unfold Platform.entering at hr
  split at hr
  · rename_i i inj now
    cases hcall : p.calls[i]? with
    | none =>
      rw [hcall] at hr
      cases hr
    | some call =>
      rw [hcall, Option.elim_some] at hr
      split_ifs at hr
      · exact hcycle hr
      · cases hr
  · exact hcycle hr
  · cases hr

/-- **What stays in the queue.** Over every interleaving of any number of full paths, streams, cancellations, cycles and
timeouts, in every state reached and from there on. -/
theorem queue_items (cfg : Settings) (policy : Scheduling.SchedulerPolicy) {pre post : List PlatformOp}
    (hd : Meets (Platform.step cfg) Distinct (Platform.init policy) (pre ++ post)) :
    QueueKeeps cfg (run (Platform.step cfg) (Platform.init policy) pre) post := by
  obtain ⟨hpre, hpost⟩ := Core.meets_append.1 hd
  have h := run_sound cfg policy hpre
  have hpresent : Present (run (Platform.step cfg) (Platform.init policy) pre) := by
    have hboth := hpre.run_inv (I := fun p => Sound cfg p ∧ Present p)
      (fun _ _ hs hd => ⟨sound_step hs.1 hd, present_step hs.1 hd hs.2⟩)
        ⟨sound_init cfg policy, fun _ _ _ hs => by cases hs⟩
    exact hboth.2
  have hran : Ran (run (Platform.step cfg) (Platform.init policy) pre) := by
    have hboth := hpre.run_inv (I := fun p => Sound cfg p ∧ Ran p)
      (fun _ _ hs hd => ⟨sound_step hs.1 hd, ran_step hs.1 hd hs.2⟩) ⟨sound_init cfg policy, ran_init policy⟩
    exact hboth.2
  refine ⟨fun r st hs hst hw => ?_, fun item hitem => ?_, fun r st hs hst op hentering => ?_⟩
  · have hleft := hpresent r st hw hs
    rcases hst with hst | hst
    · rw [hst] at hleft
      cases hleft
    · rw [hst] at hleft
      cases hleft
  · rw [items_run h hpost (h.waiting ⟨item, hitem, rfl⟩)]
    exact and_iff_right hitem
  · refine entering_unbatched h hentering (hran.executed hs ?_)
    rcases hst with hst | hst
    · rw [hst]
      rfl
    · rw [hst]
      rfl

/-- **A completed request waits.** The call has returned, the request is COMPLETED, its item takes a place in the queue,
and the next cycle selects it. -/
theorem completed_request_waits :
    let p := platformAfter completedOps
    p.calls.map Call.phase = [.returned] ∧ p.stack.controlPlane.overview.status 1 = some ⟨.completed, none⟩ ∧
      p.stack.controlPlane.overview.waiting = [(1, 0)] ∧
      Scheduling.selectedIds sampleSettings.scheduler sampleSettings.controlPlane.queue 1
        ⟨p.stack.controlPlane, p.stack.policy, p.stack.engine⟩ = [1] := by
  refine ⟨?_, ?_, ?_, ?_⟩
  · decide +kernel
  · decide +kernel
  · decide +kernel
  · decide +kernel

/-- its item is still there after a cycle, and gone after one past its deadline -/
theorem queue_items_completed :
    QueueKeeps sampleSettings (platformAfter completedOps) [.tick {} 1, .tick {} 30000001] ∧
      (platformAfter (completedOps ++ [.tick {} 1])).stack.controlPlane.overview.waiting = [(1, 0)] ∧
      (platformAfter (completedOps ++ [.tick {} 1, .tick {} 30000001])).stack.controlPlane.overview.waiting = [] := by
  refine ⟨queue_items sampleSettings .fifo (by decide +kernel), ?_, ?_⟩
  · decide +kernel
  · decide +kernel

end InferencePlatform.Gateway
