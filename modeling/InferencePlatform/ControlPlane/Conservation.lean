/-
Do the counters and the gauge agree with the registry?

`Conserved` is the law: the gauge shows the live requests, received requests are the live ones and those of each
terminal state, and every request that ends is counted once, by the counter for its end. It comes down to one equation
for each request (`Settled`), and so does every step.

The law breaks in five ways. A rejection by an admission check is not counted, for its event does not name the state it
comes from; a cancellation has neither an event nor a counter; a request registered as VALIDATED is never received; and
a failure or a queue timeout of a request that is over already counts it twice. `conserved_iff`: there are no others.
-/
import InferencePlatform.ControlPlane.Metrics
import InferencePlatform.ControlPlane.Capacity
import InferencePlatform.ControlPlane.Expiry

namespace InferencePlatform.ControlPlane

open InferencePlatform.Core (Dict Meets run)

variable {cfg : Settings} {cp : ControlPlaneApplication} {r : UUID}

/-! ## The law -/

namespace ControlPlaneApplication

/-- `registry.list_by_state` -/
def listByState (cp : ControlPlaneApplication) (state : RequestState) : List RegisteredRequest :=
  (cp.registry.values.filterMap fun ref => cp.entries[ref]?).filter fun e => e.state = state

end ControlPlaneApplication

structure Conserved (cp : ControlPlaneApplication) : Prop where
  active : cp.metrics.activeRequests = cp.listActive.length
  received : (cp.metrics.requestsReceivedTotal : ℤ) = cp.metrics.activeRequests + (cp.listByState .completed).length +
    (cp.listByState .failed).length + (cp.listByState .timedOut).length + (cp.listByState .rejected).length +
    (cp.listByState .cancelled).length
  /-- each terminal counter is incremented once for a request that ends in one of its states, and otherwise not at
  all -/
  ended : ∀ r c, c ≠ .received → cp.tally r c = if (cp.state? r).bind endCounter = some c then 1 else 0

/-! ## What the recorder shows -/

def MetricsRegistry.count (m : MetricsRegistry) : Option Counter → MetricsRegistry
  | none => m
  | some .received => m.recordRequestReceived
  | some .completed => m.recordRequestCompleted
  | some .failed => m.recordRequestFailed
  | some .rejected => m.recordRequestRejected

theorem LifecycleEvent.record_eq (m : MetricsRegistry) (event : LifecycleEvent) :
    event.record m = m.count event.counter := by
  unfold LifecycleEvent.record LifecycleEvent.counter
  split_ifs <;> rfl

theorem QueueEvent.record_eq (m : MetricsRegistry) (event : QueueEvent) : event.record m = m.count event.counter := by
  unfold QueueEvent.record QueueEvent.counter
  split_ifs <;> rfl

/-- the increments, with the requests they are for -/
def ControlPlaneApplication.increments (cp : ControlPlaneApplication) : List (UUID × Option Counter) :=
  cp.lifecycleEvents.map (fun event => (event.requestId, event.counter)) ++
    cp.queueEvents.map fun event => (event.requestId, event.counter)

theorem tally_eq (cp : ControlPlaneApplication) :
    cp.tally = (cp.increments.map fun p => Tally.of p.1 p.2).sum := by
  simp only [ControlPlaneApplication.increments, List.map_append, List.sum_append, List.map_map]
  rfl

theorem metrics_eq (cp : ControlPlaneApplication) :
    cp.metrics = (cp.increments.map Prod.snd).foldl MetricsRegistry.count {} := by
  have hl : LifecycleEvent.record = fun m event => m.count event.counter := by
    funext m event
    exact event.record_eq m
  have hq : QueueEvent.record = fun m event => m.count event.counter := by
    funext m event
    exact event.record_eq m
  simp only [ControlPlaneApplication.metrics, ControlPlaneApplication.increments, hl, hq, List.map_append, List.map_map,
    List.foldl_append, List.foldl_map]
  rfl

theorem foldl_count (counters : List (Option Counter)) (m : MetricsRegistry) :
    (counters.foldl MetricsRegistry.count m).requestsReceivedTotal =
      m.requestsReceivedTotal + counters.count (some .received) ∧
    (counters.foldl MetricsRegistry.count m).activeRequests =
      m.activeRequests + counters.count (some .received) - counters.count (some .completed) -
        counters.count (some .failed) - counters.count (some .rejected) := by
  induction counters generalizing m with
  | nil => simp
  | cons o counters ih =>
    obtain ⟨hreceived, hactive⟩ := ih (m.count o)
    rw [List.foldl_cons, hreceived, hactive]
    rcases o with _ | _ | _ | _ | _
    all_goals
      simp [MetricsRegistry.count, MetricsRegistry.recordRequestReceived, MetricsRegistry.recordRequestCompleted,
        MetricsRegistry.recordRequestFailed, MetricsRegistry.recordRequestRejected, MetricsRegistry.finishRequest]
      try omega

/-! ## Sums over the registered requests -/

theorem sum_map_ite (p : UUID → Bool) (ids : List UUID) :
    (ids.map fun r => if p r = true then 1 else 0).sum = ids.countP p := by
  induction ids with
  | nil => rfl
  | cons r ids ih =>
    rw [List.map_cons, List.sum_cons, ih, List.countP_cons]
    exact Nat.add_comm _ _

/-- what was counted for some requests together -/
def Tally.total (ids : List UUID) (c : Counter) (T : Tally) : ℕ := (ids.map fun r => T r c).sum

theorem Tally.total_of {ids : List UUID} (hn : ids.Nodup) {o : Option Counter} (hr : o ≠ none → r ∈ ids) (c : Counter) :
    Tally.total ids c (Tally.of r o) = if o = some c then 1 else 0 := by
  cases o with
  | none => simp [Tally.total]
  | some c' =>
    by_cases hc : c = c'
    · subst hc
      have hcount : ids.countP (fun r' => decide (r' = r)) = 1 := List.count_eq_one_of_mem hn (hr (by simp))
      rw [if_pos rfl, ← hcount, ← sum_map_ite]
      simp [Tally.total, Tally.of_some]
    · simp [Tally.total, Tally.of_some, hc, Ne.symm hc]

theorem Tally.total_add (ids : List UUID) (c : Counter) (T T' : Tally) :
    Tally.total ids c (T + T') = Tally.total ids c T + Tally.total ids c T' := List.sum_map_add

/-- the increments of a counter, summed up request by request -/
theorem total_increments {ids : List UUID} (hn : ids.Nodup) (c : Counter) (increments : List (UUID × Option Counter))
    (hids : ∀ p ∈ increments, p.2 ≠ none → p.1 ∈ ids) :
    Tally.total ids c (increments.map fun p => Tally.of p.1 p.2).sum = (increments.map Prod.snd).count (some c) := by
  induction increments with
  | nil => simp [Tally.total]
  | cons p increments ih =>
    have hrest := ih fun p' hmem => hids p' (List.mem_cons_of_mem _ hmem)
    rw [List.map_cons, List.sum_cons, Tally.total_add, hrest,
      Tally.total_of hn (hids p List.mem_cons_self), List.map_cons, List.count_cons, Nat.add_comm]
    simp

/-- the registered ids -/
abbrev ControlPlaneApplication.ids (cp : ControlPlaneApplication) : List UUID := cp.registry.keys

/-- what has been counted was counted for registered requests, and each was received once at most -/
structure Filed (cp : ControlPlaneApplication) : Prop where
  unknown : ∀ r, cp.overview.status r = none → cp.tally r = 0
  received : ∀ r, cp.tally r .received ≤ 1

theorem increments_le (increments : List (UUID × Option Counter)) {p : UUID × Option Counter} (hp : p ∈ increments)
    {c : Counter} (hc : p.2 = some c) : 1 ≤ (increments.map fun p => Tally.of p.1 p.2).sum p.1 c := by
  induction increments with
  | nil => cases hp
  | cons p' increments ih =>
    rw [List.map_cons, List.sum_cons]
    rcases List.mem_cons.1 hp with rfl | hp
    · have hone : Tally.of p.1 p.2 p.1 c = 1 := by rw [hc, Tally.of_some, if_pos ⟨rfl, rfl⟩]
      exact hone ▸ Nat.le_add_right _ _
    · exact (ih hp).trans (Nat.le_add_left _ _)

theorem total_counted (h : Inv cp) (hfiled : Filed cp) (c : Counter) :
    Tally.total cp.ids c cp.tally = (cp.increments.map Prod.snd).count (some c) := by
  rw [tally_eq]
  refine total_increments cp.registry.nodup c cp.increments fun p hp hcounter => ?_
  obtain ⟨c', hc'⟩ := Option.ne_none_iff_exists'.1 hcounter
  by_contra hunknown
  have hnone : cp.registry.get? p.1 = none := Core.Dict.getItems_eq_none.2 hunknown
  have hle := increments_le cp.increments hp hc'
  rw [← tally_eq, hfiled.unknown p.1 ((overview_status_eq_none h).2 hnone)] at hle
  simp at hle

/-- how many registered requests are in one of the states -/
def ControlPlaneApplication.numberIn (cp : ControlPlaneApplication) (p : RequestState → Bool) : ℕ :=
  (cp.ids.map fun r => if (cp.state? r).any p = true then 1 else 0).sum

theorem length_registered (h : Inv cp) (p : RequestState → Bool) :
    ((cp.registry.values.filterMap fun ref => cp.entries[ref]?).filter fun e => p e.state).length = cp.numberIn p := by
  have hitems : ∀ items : List (UUID × Ref), items ⊆ cp.registry.items →
      (((items.map Prod.snd).filterMap fun ref => cp.entries[ref]?).filter fun e => p e.state).length =
        (items.map Prod.fst).countP fun r => (cp.state? r).any p := by
    intro items hsub
    induction items with
    | nil => rfl
    | cons q items ih =>
      have hget : cp.registry.get? q.1 = some q.2 := Core.Dict.mem_items.1 (hsub List.mem_cons_self)
      obtain ⟨e, he, -⟩ := h.registered hget
      have hstate : cp.state? q.1 = some e.state := by
        rw [ControlPlaneApplication.state?, entry?_eq_some.2 ⟨q.2, hget, he⟩, Option.map_some]
      have hrest := ih fun q' hmem => hsub (List.mem_cons_of_mem _ hmem)
      simp only [List.map_cons, List.filterMap_cons, he, List.countP_cons, hstate, Option.any_some]
      by_cases hp : p e.state = true
      · rw [if_pos hp, ← hrest]
        simp only [List.filter_cons, hp, if_true, List.length_cons]
      · rw [if_neg hp, ← hrest]
        simp only [List.filter_cons, hp, Bool.false_eq_true, if_false, Nat.add_zero]
  rw [ControlPlaneApplication.numberIn, sum_map_ite]
  exact hitems cp.registry.items (List.Subset.refl _)

/-! ## One request at a time -/

/-- what a request in this state should have counted -/
def owed : Option RequestState → Counter → ℕ
  | none, _ => 0
  | some s, c => (if c = .received then 1 else 0) + if endCounter s = some c then 1 else 0

/-- the request has counted what it owes, and it is not CANCELLED -/
structure Settled (cp : ControlPlaneApplication) (r : UUID) : Prop where
  tally : cp.tally r = owed (cp.state? r)
  cancelled : cp.state? r ≠ some .cancelled

theorem state?_of_mem_ids (h : Inv cp) (hr : r ∈ cp.ids) : ∃ s, cp.state? r = some s := by
  obtain ⟨ref, href⟩ := Core.Dict.mem_keys.1 hr
  obtain ⟨e, he, -⟩ := h.registered href
  exact ⟨e.state, by rw [ControlPlaneApplication.state?, entry?_eq_some.2 ⟨ref, href, he⟩, Option.map_some]⟩

theorem state?_eq_none (h : Inv cp) (hr : r ∉ cp.ids) : cp.state? r = none ∧ cp.overview.status r = none := by
  have hnone : cp.overview.status r = none := (overview_status_eq_none h).2 (Core.Dict.getItems_eq_none.2 hr)
  exact ⟨by rw [state?_eq, hnone, Option.map_none], hnone⟩

/-- a sum over the registered requests, from an equation for each of them -/
theorem sum_ids_congr {f g : UUID → ℕ} (h : ∀ r ∈ cp.ids, f r = g r) : (cp.ids.map f).sum = (cp.ids.map g).sum := by
  rw [List.map_congr_left h]

/-- every registered request is live or in one terminal state -/
theorem length_ids (h : Inv cp) :
    cp.ids.length = cp.numberIn (fun s => !isTerminalRequestState s) + cp.numberIn (· = .completed) +
      cp.numberIn (· = .failed) + cp.numberIn (· = .timedOut) + cp.numberIn (· = .rejected) +
      cp.numberIn (· = .cancelled) := by
  have hone : (cp.ids.map fun _ => 1).sum = cp.ids.length := by simp
  rw [← hone]
  simp only [ControlPlaneApplication.numberIn, ← List.sum_map_add]
  refine sum_ids_congr fun r hr => ?_
  obtain ⟨s, hs⟩ := state?_of_mem_ids h hr
  rw [hs]
  cases s <;> rfl

/-- if the terminal counters are right for every request, they add up to the requests in their states -/
theorem total_ended
    (hended : ∀ r c, c ≠ .received → cp.tally r c = if (cp.state? r).bind endCounter = some c then 1 else 0) :
    Tally.total cp.ids .completed cp.tally = cp.numberIn (· = .completed) ∧
    Tally.total cp.ids .failed cp.tally = cp.numberIn (· = .failed) + cp.numberIn (· = .timedOut) ∧
    Tally.total cp.ids .rejected cp.tally = cp.numberIn (· = .rejected) := by
  simp only [ControlPlaneApplication.numberIn, Tally.total, ← List.sum_map_add]
  refine ⟨sum_ids_congr fun r _ => ?_, sum_ids_congr fun r _ => ?_, sum_ids_congr fun r _ => ?_⟩
  all_goals
    rw [hended r _ (by simp)]
    cases cp.state? r with
    | none => rfl
    | some s => cases s <;> rfl

theorem listActive_length (h : Inv cp) : cp.listActive.length = cp.numberIn fun s => !isTerminalRequestState s :=
  length_registered h fun s => !isTerminalRequestState s

theorem listByState_length (h : Inv cp) (state : RequestState) :
    (cp.listByState state).length = cp.numberIn fun s => s = state :=
  length_registered h fun s => decide (s = state)

/-- numbers of at most one that add up to how many there are -/
theorem eq_one_of_sum_eq_length {f : UUID → ℕ} {ids : List UUID} (hle : ∀ r ∈ ids, f r ≤ 1)
    (hsum : (ids.map f).sum = ids.length) : ∀ r ∈ ids, f r = 1 := by
  induction ids with
  | nil => simp
  | cons r ids ih =>
    have hrest : (ids.map f).sum ≤ ids.length := by
      have hbound := List.sum_le_card_nsmul (ids.map f) 1 fun x hx => by
        obtain ⟨r', hr', rfl⟩ := List.mem_map.1 hx
        exact hle r' (List.mem_cons_of_mem _ hr')
      simpa using hbound
    have hhead := hle r List.mem_cons_self
    rw [List.map_cons, List.sum_cons, List.length_cons] at hsum
    intro r' hr'
    rcases List.mem_cons.1 hr' with rfl | hr'
    · omega
    · exact ih (fun r hr => hle r (List.mem_cons_of_mem _ hr)) (by omega) r' hr'

theorem metrics_totals (h : Inv cp) (hfiled : Filed cp) :
    cp.metrics.requestsReceivedTotal = Tally.total cp.ids .received cp.tally ∧
    cp.metrics.activeRequests = Tally.total cp.ids .received cp.tally - Tally.total cp.ids .completed cp.tally -
      Tally.total cp.ids .failed cp.tally - Tally.total cp.ids .rejected cp.tally := by
  obtain ⟨hreceived, hactive⟩ := foldl_count (cp.increments.map Prod.snd) {}
  rw [← metrics_eq] at hreceived hactive
  simp only [← total_counted h hfiled] at hreceived hactive
  exact ⟨hreceived.trans (Nat.zero_add _), by rw [hactive, zero_add]⟩

theorem conserved_iff_settled (h : Inv cp) (hfiled : Filed cp) : Conserved cp ↔ ∀ r, Settled cp r := by
  obtain ⟨hreceived, hactive⟩ := metrics_totals h hfiled
  have hlength := length_ids h
  constructor
  · intro hc
    obtain ⟨hcompleted, hfailed, hrejected⟩ := total_ended hc.ended
    have ha := hc.active
    have hr := hc.received
    simp only [listActive_length h, listByState_length h] at ha hr
    -- every registered request has been received, and none is cancelled
    have htotal : Tally.total cp.ids .received cp.tally = cp.ids.length := by omega
    have hcancelled : cp.numberIn (· = .cancelled) = 0 := by omega
    have hone := eq_one_of_sum_eq_length (fun r _ => hfiled.received r) htotal
    intro r
    by_cases hmem : r ∈ cp.ids
    · obtain ⟨s, hs⟩ := state?_of_mem_ids h hmem
      refine ⟨?_, fun hcancel => ?_⟩
      · funext c
        rw [hs]
        by_cases hcr : c = .received
        · rw [hcr, hone r hmem]
          cases s <;> rfl
        · rw [hc.ended r c hcr, hs, owed, if_neg hcr, Nat.zero_add]
          rfl
      · have hzero := List.sum_eq_zero_iff.1 hcancelled _ (List.mem_map.2 ⟨r, hmem, rfl⟩)
        rw [hcancel] at hzero
        simp at hzero
    · obtain ⟨hstate, hnone⟩ := state?_eq_none h hmem
      exact ⟨by rw [hfiled.unknown r hnone, hstate]; rfl, by simp [hstate]⟩
  · intro hsettled
    have hended : ∀ r c, c ≠ .received → cp.tally r c = if (cp.state? r).bind endCounter = some c then 1 else 0 := by
      intro r c hcr
      rw [(hsettled r).tally]
      cases cp.state? r with
      | none => rfl
      | some s =>
        rw [owed, if_neg hcr, Nat.zero_add]
        rfl
    obtain ⟨hcompleted, hfailed, hrejected⟩ := total_ended hended
    have htotal : Tally.total cp.ids .received cp.tally = cp.ids.length := by
      have hone : (cp.ids.map fun _ => 1).sum = cp.ids.length := by simp
      rw [← hone]
      refine sum_ids_congr fun r hr => ?_
      obtain ⟨s, hs⟩ := state?_of_mem_ids h hr
      rw [(hsettled r).tally, hs]
      cases s <;> rfl
    have hcancelled : cp.numberIn (· = .cancelled) = 0 := by
      refine List.sum_eq_zero_iff.2 fun x hx => ?_
      obtain ⟨r, -, rfl⟩ := List.mem_map.1 hx
      have hno := (hsettled r).cancelled
      cases hs : cp.state? r with
      | none => rfl
      | some s =>
        rw [hs, ne_eq, Option.some.injEq] at hno
        simp [hno]
    refine ⟨?_, ?_, hended⟩
    · rw [listActive_length h]
      omega
    · simp only [listByState_length h]
      omega

/-! ## One operation at a time -/

theorem Tally.of_self (r : UUID) (o : Option Counter) (c : Counter) :
    Tally.of r o r c = if o = some c then 1 else 0 := by
  cases o with
  | none => rfl
  | some c' => simp [Tally.of_some, eq_comm]

theorem Tally.of_ne {r' : UUID} (h : r' ≠ r) (o : Option Counter) : Tally.of r o r' = 0 := by
  cases o with
  | none => rfl
  | some c =>
    funext c'
    simp [Tally.of_some, h]

/-- a request that owed what it had counted does so again after these increments -/
def Squares (before after : Option RequestState) (bill : Counter → ℕ) : Prop :=
  owed before + bill = owed after ∧ after ≠ some .cancelled

/-- the same for a registered request and at most one increment -/
def Balanced (before after : RequestState) (bill : Option Counter) : Prop :=
  (∀ c, (if endCounter before = some c then 1 else 0) + (if bill = some c then 1 else 0) =
    if endCounter after = some c then 1 else 0) ∧ after ≠ .cancelled

instance (before after : RequestState) (bill : Option Counter) : Decidable (Balanced before after bill) :=
  inferInstanceAs (Decidable (_ ∧ _))

theorem squares_some (r : UUID) (s t : RequestState) (bill : Option Counter) :
    Squares (some s) (some t) (Tally.of r bill r) ↔ Balanced s t bill := by
  have hrow : owed (some s) + Tally.of r bill r = owed (some t) ↔
      ∀ c, (if endCounter s = some c then 1 else 0) + (if bill = some c then 1 else 0) =
        if endCounter t = some c then 1 else 0 := by
    rw [funext_iff]
    refine forall_congr' fun c => ?_
    simp only [Pi.add_apply, owed, Tally.of_self]
    omega
  rw [Squares, Balanced, hrow, ne_eq, Option.some.injEq]

/-- a queue timeout is counted right for a live request -/
theorem balanced_timedOut {s : RequestState} (hs : s ≠ .cancelled) :
    Balanced s .timedOut (some .failed) ↔ isTerminalRequestState s = false := by
  revert hs
  cases s <;> decide

/-- and so is a failure -/
theorem balanced_failed {s : RequestState} (hs : s ≠ .cancelled) :
    Balanced s .failed (some .failed) ↔ isTerminalRequestState s = false := by
  revert hs
  cases s <;> decide

/-- a transition is counted right unless it is a cancellation -/
theorem balanced_transition {s t : RequestState} (h : isAllowedTransition s t = true) :
    Balanced s t (endCounter t) ↔ t ≠ .cancelled := by
  have hlive : endCounter s = none := by
    cases s <;> first | rfl | (rw [isAllowedTransition_of_terminal rfl] at h; cases h)
  simp [Balanced, hlive]

theorem squares_same {s : Option RequestState} (h : s ≠ some .cancelled) : Squares s s 0 := ⟨add_zero _, h⟩

/-- the states of the requests -/
def Overview.state (o : Overview) (r : UUID) : Option RequestState := (o.status r).map Status.state

theorem settled_step_iff (cfg : Settings) (h : Inv cp) {o : Op} (hf : Fresh cp o) (hs : Settled cp r) :
    Settled (cp.step cfg o) r ↔
      Squares (cp.overview.state r) ((cp.overview.step cfg o).state r) (cp.overview.bill cfg o r) := by
  have htally : (cp.step cfg o).tally r = owed (cp.overview.state r) + cp.overview.bill cfg o r := by
    rw [step_tally cfg h hf, Pi.add_apply, hs.tally, state?_eq]
    rfl
  have hstate : (cp.step cfg o).state? r = (cp.overview.step cfg o).state r := by
    rw [state?_eq, (step_refines cfg h hf).overview]
    rfl
  rw [Squares, ← htally, ← hstate]
  exact ⟨fun h' => ⟨h'.tally, h'.cancelled⟩, fun h' => ⟨h'.1, h'.2⟩⟩

section Squares

variable {ov ov' : Overview} (hno : ∀ r, ov.state r ≠ some .cancelled)
include hno

/-- an operation that changes the status of one request at most, and counts for this one at most -/
theorem squares_one {r₁ : UUID} {st st' : Status} (hs : ov.status r₁ = some st) (hs' : ov'.status r₁ = some st')
    (hrest : ∀ r, r ≠ r₁ → ov'.status r = ov.status r) (bill : Option Counter) :
    (∀ r, Squares (ov.state r) (ov'.state r) (Tally.of r₁ bill r)) ↔ Balanced st.state st'.state bill := by
  have hbefore : ov.state r₁ = some st.state := congrArg (Option.map Status.state) hs
  have hafter : ov'.state r₁ = some st'.state := congrArg (Option.map Status.state) hs'
  rw [← squares_some r₁, ← hbefore, ← hafter]
  refine ⟨fun h => h r₁, fun h r => ?_⟩
  by_cases hr : r = r₁
  · exact hr ▸ h
  · have hsame : ov'.state r = ov.state r := congrArg (Option.map Status.state) (hrest r hr)
    rw [hsame, Tally.of_ne hr]
    exact squares_same (hno r)

theorem squares_of_status (hsame : ∀ r, ov'.status r = ov.status r) {bill : Tally} (hbill : bill = 0) :
    ∀ r, Squares (ov.state r) (ov'.state r) (bill r) := by
  intro r
  have hstate : ov'.state r = ov.state r := congrArg (Option.map Status.state) (hsame r)
  rw [hstate, hbill]
  exact squares_same (hno r)

/-- an operation on the status of one id -/
theorem squares_onStatus (r₁ : UUID) {f : Status → Overview} {g : Status → Option Counter} {C : RequestState → Prop}
    (hC : ∀ st, ov.status r₁ = some st →
      ((∀ r, Squares (ov.state r) ((f st).state r) (Tally.of r₁ (g st) r)) ↔ C st.state)) :
    (∀ r, Squares (ov.state r) ((ov.onStatus r₁ f).state r) (Tally.of r₁ ((ov.status r₁).bind g) r)) ↔
      ∀ s, ov.state r₁ = some s → C s := by
  cases hs : ov.status r₁ with
  | none =>
    have hstate : ov.state r₁ = none := congrArg (Option.map Status.state) hs
    rw [onStatus_none hs, hstate]
    exact ⟨fun _ s h => (by cases h), fun _ => squares_of_status hno (fun _ => rfl) rfl⟩
  | some st =>
    have hstate : ov.state r₁ = some st.state := congrArg (Option.map Status.state) hs
    rw [onStatus_some hs, hstate, Option.bind_some, hC st hs]
    exact ⟨fun h s hss => Option.some.inj hss ▸ h, fun h => h _ rfl⟩

theorem squares_onStatus_silent (r₁ : UUID) {f : Status → Overview} {C : RequestState → Prop}
    (hC : ∀ st, ov.status r₁ = some st →
      ((∀ r, Squares (ov.state r) ((f st).state r) (Tally.of r₁ none r)) ↔ C st.state)) :
    (∀ r, Squares (ov.state r) ((ov.onStatus r₁ f).state r) ((0 : Tally) r)) ↔ ∀ s, ov.state r₁ = some s → C s := by
  have hnone : (0 : Tally) = Tally.of r₁ ((ov.status r₁).bind fun _ => none) := by
    cases ov.status r₁ <;> rfl
  rw [hnone]
  exact squares_onStatus hno r₁ hC

variable (ov) in
theorem squares_put {r₁ : UUID} {st : Status} (hs : ov.status r₁ = some st) (st' : Status) (bill : Option Counter) :
    (∀ r, Squares (ov.state r) ((ov.put r₁ st').state r) (Tally.of r₁ bill r)) ↔ Balanced st.state st'.state bill :=
  squares_one hno hs (Overview.put_status_self ov r₁ st') (fun _ hr => Overview.put_status_ne ov st' hr) bill

end Squares

/-- in a state where every request has counted what it owes, `process_timeouts` squares unless it comes upon one that is
over -/
theorem squares_processTimeouts (h : Inv cp) (hno : ∀ r, cp.overview.state r ≠ some .cancelled) (now : Time) :
    (∀ r, Squares (cp.overview.state r) ((cp.overview.processTimeouts cfg.queue now).state r)
        (Tally.failed (cp.overview.lateIds cfg.queue now) r)) ↔
      ∀ r ∈ cp.overview.lateIds cfg.queue now, ∀ s, cp.overview.state r = some s →
        isTerminalRequestState s = false := by
  have hlate : ∀ r ∈ cp.overview.lateIds cfg.queue now, ∀ s, cp.overview.state r = some s →
      (Squares (cp.overview.state r) ((cp.overview.processTimeouts cfg.queue now).state r)
        (Tally.failed (cp.overview.lateIds cfg.queue now) r) ↔ isTerminalRequestState s = false) := by
    intro r hr s hs
    have hafter : (cp.overview.processTimeouts cfg.queue now).state r = some .timedOut :=
      congrArg (Option.map Status.state) (processTimeouts_status_of_late cfg hr)
    have hbill : Tally.failed (cp.overview.lateIds cfg.queue now) r = Tally.of r (some .failed) r := by
      funext c
      simp [Tally.failed, List.count_eq_one_of_mem (lateIds_nodup cfg h now) hr, Tally.of_some]
    rw [hafter, hbill, hs, squares_some]
    exact balanced_timedOut fun hc => hno r (hc ▸ hs)
  constructor
  · intro hall r hr s hs
    exact (hlate r hr s hs).1 (hall r)
  · intro hlive r
    by_cases hr : r ∈ cp.overview.lateIds cfg.queue now
    · cases hs : cp.overview.state r with
      | none =>
        obtain ⟨p, hp, hpr⟩ := List.mem_map.1 hr
        refine absurd ⟨p, List.mem_of_mem_filter hp, hpr⟩ (not_waits_of_unregistered h ?_)
        exact Option.map_eq_none_iff.1 hs
      | some s => exact hs ▸ (hlate r hr s hs).2 (hlive r hr s hs)
    · have hsame : (cp.overview.processTimeouts cfg.queue now).state r = cp.overview.state r :=
        congrArg (Option.map Status.state) (processTimeouts_status_of_not_late cfg hr)
      have hbill : Tally.failed (cp.overview.lateIds cfg.queue now) r = 0 := by
        funext c
        simp [Tally.failed, List.count_eq_zero_of_not_mem hr]
      rw [hsame, hbill]
      exact squares_same (hno r)

/-- no overdue item is one of a request that is over -/
def NoneOverLate (cfg : Settings) (cp : ControlPlaneApplication) (now : Time) : Prop :=
  ∀ item ∈ cp.items, overdue cfg.queue now item = true → ∀ s, cp.state? item.requestId = some s →
    isTerminalRequestState s = false

/-- the checks accept the request, or one of them raises an exception -/
def NotDeclined (checks : List (Except String AdmissionResult)) : Prop :=
  ∀ a, evaluate checks = .ok a → a.outcome = .accept

/-- the steps that keep the law -/
def Conserves (cfg : Settings) (cp : ControlPlaneApplication) : Op → Prop
  | .register _ initialState _ => ¬(initialState = .validated ∧ cp.count < cfg.registryMaxEntries)
  | .transition r toState _ _ _ =>
    ∀ s, cp.state? r = some s → ¬(toState = .cancelled ∧ isAllowedTransition s .cancelled = true)
  | .runAdmission r checks _ => ∀ s, cp.state? r = some s → s = .validated → NotDeclined checks
  | .processThroughQueued _ checks now _ =>
    NoneOverLate cfg cp now ∧ (cp.count < cfg.registryMaxEntries → NotDeclined checks)
  | .processTimeouts now => NoneOverLate cfg cp now
  | .markFailed r _ _ _ _ _ => ∀ s, cp.state? r = some s → isTerminalRequestState s = false
  | .cancel r _ => ∀ s, cp.state? r = some s → s ≠ .submitted ∧ s ≠ .streaming
  | .enqueueFromAdmitted .. | .completeRequest .. | .dequeueNext .. | .remove .. | .clear | .peek .. | .listItems ..
  | .getQueueSnapshot .. | .getQueueStatistics .. | .listQueuedRequests .. | .listQueueItems .. => True

theorem noneOverLate_iff (now : Time) :
    NoneOverLate cfg cp now ↔
      ∀ r ∈ cp.overview.lateIds cfg.queue now, ∀ s, cp.overview.state r = some s →
        isTerminalRequestState s = false := by
  have hstate : ∀ r, cp.overview.state r = cp.state? r := fun r => (state?_eq cp r).symm
  constructor
  · intro hlive r hr s hs
    obtain ⟨item, hitem, hid, hlate⟩ := timesOut_iff.2 hr
    rw [hstate, ← hid] at hs
    exact hlive item hitem hlate s hs
  · intro hlive item hitem hlate s hs
    rw [← hstate] at hs
    exact hlive _ (timesOut_iff.1 ⟨item, hitem, rfl, hlate⟩) s hs

theorem squares_enqueueFromAdmitted (hno : ∀ r, cp.overview.state r ≠ some .cancelled) (r₁ : UUID) (now : Time) :
    ∀ r, Squares (cp.overview.state r) ((cp.overview.step cfg (.enqueueFromAdmitted r₁ now)).state r)
      (cp.overview.bill cfg (.enqueueFromAdmitted r₁ now) r) := by
  refine (squares_onStatus hno r₁ (C := fun _ => True) fun st hs => ?_).2 fun _ _ => trivial
  refine ⟨fun _ => trivial, fun _ => ?_⟩
  by_cases hst : st.state = .admitted
  · rw [if_pos hst, Overview.enqueue]
    by_cases hwaits : (cp.overview.expire cfg.queue now).waits r₁
    · rw [if_pos hwaits, if_neg fun hc : _ ∧ ¬_ ∧ _ => hc.2.1 hwaits]
      exact squares_of_status hno (fun _ => rfl) rfl
    · by_cases hfull : cfg.queue.maxQueueSize ≤ (cp.overview.expire cfg.queue now).waiting.length
      · have hb : Balanced st.state .rejected (some .rejected) := by rw [hst]; decide
        rw [if_neg hwaits, if_pos hfull, if_pos ⟨hst, hwaits, hfull⟩]
        exact (squares_put (cp.overview.expire cfg.queue now) hno hs ⟨.rejected, some .queueFull⟩ _).2 hb
      · have hb : Balanced st.state .queued none := by rw [hst]; decide
        rw [if_neg hwaits, if_neg hfull, if_neg fun hc : _ ∧ _ ∧ _ => hfull hc.2.2]
        exact (squares_put (cp.overview.expire cfg.queue now) hno hs ⟨.queued, st.reason⟩ _).2 hb
  · rw [if_neg hst, if_neg fun hc : _ ∧ _ ∧ _ => hst hc.1]
    exact squares_of_status hno (fun _ => rfl) rfl

/-- a RECEIVED request that is counted as received, with what becomes of it at once -/
theorem squares_new (r : UUID) (t : RequestState) (bill : Option Counter) :
    Squares none (some t) (Tally.of r (some .received) r + Tally.of r bill r) ↔ Balanced .received t bill := by
  rw [← squares_some r, Squares, Squares]
  have hrow : owed none + (Tally.of r (some .received) r + Tally.of r bill r) =
      owed (some .received) + Tally.of r bill r := by
    funext c
    simp [owed, Tally.of_self, endCounter, eq_comm]
  rw [hrow]

variable (cfg) in
/-- what becomes of a fresh request is counted right unless the checks decline it -/
theorem intake_own {o : Overview} (hroom : o.registered < cfg.registryMaxEntries) (r₁ : UUID)
    (result : Except String AdmissionResult) (now now' : Time) :
    ∃ t, (o.intake cfg r₁ result now now').state r₁ = some t ∧
      (Balanced .received t ((o.processTimeouts cfg.queue now).admittedCounter cfg result now') ↔
        ∀ a, result = .ok a → a.outcome = .accept) := by
  unfold Overview.intake
  rw [if_neg (not_le.2 hroom)]
  set o' := (o.processTimeouts cfg.queue now).register r₁ ⟨.validated, none⟩ with ho'
  have hwaiting : (o'.expire cfg.queue now').waiting =
      ((o.processTimeouts cfg.queue now).expire cfg.queue now').waiting := rfl
  have hput : ∀ (o₁ : Overview) (st : Status), (o₁.put r₁ st).state r₁ = some st.state := fun o₁ st =>
    congrArg (Option.map Status.state) (Overview.put_status_self o₁ r₁ st)
  cases result with
  | error message =>
    refine ⟨.failed, hput _ _, fun _ a ha => ?_, fun _ => (by decide : Balanced .received .failed (some .failed))⟩
    cases ha
  | ok a =>
    simp only [Overview.admitted, Overview.admittedCounter, hwaiting, Except.ok.injEq, forall_eq']
    by_cases ha : a.outcome = .accept
    · by_cases hfull : cfg.queue.maxQueueSize ≤ ((o.processTimeouts cfg.queue now).expire cfg.queue now').waiting.length
      · rw [if_pos ha, if_pos hfull, if_pos ⟨ha, hfull⟩]
        exact ⟨.rejected, hput _ _, fun _ => ha, fun _ => by decide⟩
      · rw [if_pos ha, if_neg hfull, if_neg fun hc : _ ∧ _ => hfull hc.2]
        exact ⟨.queued, hput _ _, fun _ => ha, fun _ => by decide⟩
    · rw [if_neg ha, if_neg fun hc : _ ∧ _ => ha hc.1]
      exact ⟨.rejected, hput _ _, fun hb => absurd hb (by decide), fun hc => absurd hc ha⟩

/-- the intake of a fresh id, while there is room: the late requests first, then its own -/
theorem squares_intake (h : Inv cp) (hno : ∀ r, cp.overview.state r ≠ some .cancelled) {r₁ : UUID}
    (hfresh : cp.overview.status r₁ = none) (hroom : cp.overview.registered < cfg.registryMaxEntries)
    (result : Except String AdmissionResult) (now now' : Time) :
    (∀ r, Squares (cp.overview.state r) ((cp.overview.intake cfg r₁ result now now').state r)
        ((Tally.failed (cp.overview.lateIds cfg.queue now) + (Tally.of r₁ (some .received) + Tally.of r₁
          ((cp.overview.processTimeouts cfg.queue now).admittedCounter cfg result now'))) r)) ↔
      (∀ r ∈ cp.overview.lateIds cfg.queue now, ∀ s, cp.overview.state r = some s → isTerminalRequestState s = false) ∧
        ∀ a, result = .ok a → a.outcome = .accept := by
  have hw := not_waits_of_unregistered h hfresh
  have hbefore : cp.overview.state r₁ = none := congrArg (Option.map Status.state) hfresh
  have hlate : Tally.failed (cp.overview.lateIds cfg.queue now) r₁ = 0 := by
    have hnot : r₁ ∉ cp.overview.lateIds cfg.queue now := by
      intro hmem
      obtain ⟨p, hp, hpr⟩ := List.mem_map.1 hmem
      exact hw ⟨p, List.mem_of_mem_filter hp, hpr⟩
    funext c
    simp [Tally.failed, List.count_eq_zero_of_not_mem hnot]
  obtain ⟨t, hafter, hown⟩ := intake_own cfg hroom r₁ result now now'
  have hself : Squares (cp.overview.state r₁) ((cp.overview.intake cfg r₁ result now now').state r₁)
      ((Tally.failed (cp.overview.lateIds cfg.queue now) + (Tally.of r₁ (some .received) + Tally.of r₁
        ((cp.overview.processTimeouts cfg.queue now).admittedCounter cfg result now'))) r₁) ↔
      ∀ a, result = .ok a → a.outcome = .accept := by
    rw [hbefore, hafter, Pi.add_apply, hlate, zero_add, Pi.add_apply, squares_new, hown]
  have hother : ∀ r, r ≠ r₁ → (Squares (cp.overview.state r) ((cp.overview.intake cfg r₁ result now now').state r)
      ((Tally.failed (cp.overview.lateIds cfg.queue now) + (Tally.of r₁ (some .received) + Tally.of r₁
        ((cp.overview.processTimeouts cfg.queue now).admittedCounter cfg result now'))) r) ↔
      Squares (cp.overview.state r) ((cp.overview.processTimeouts cfg.queue now).state r)
        (Tally.failed (cp.overview.lateIds cfg.queue now) r)) := by
    intro r hr
    have hsame : (cp.overview.intake cfg r₁ result now now').state r =
        (cp.overview.processTimeouts cfg.queue now).state r :=
      congrArg (Option.map Status.state) (intake_status result now now' hr)
    rw [hsame, Pi.add_apply, Pi.add_apply, Tally.of_ne hr, Tally.of_ne hr, add_zero, add_zero]
  rw [← squares_processTimeouts h hno now]
  constructor
  · intro hall
    refine ⟨fun r => ?_, hself.1 (hall r₁)⟩
    by_cases hr : r = r₁
    · have hsame : (cp.overview.processTimeouts cfg.queue now).state r₁ = cp.overview.state r₁ :=
        congrArg (Option.map Status.state) (Overview.processTimeouts_status hw)
      rw [hr, hlate, hsame]
      exact squares_same (hno r₁)
    · exact (hother r hr).1 (hall r)
  · rintro ⟨htimeouts, hdecided⟩ r
    by_cases hr : r = r₁
    · exact hr ▸ hself.2 hdecided
    · exact (hother r hr).2 (htimeouts r)

/-- a registration is counted right unless the request is VALIDATED from the start -/
theorem squares_register (hno : ∀ r, cp.overview.state r ≠ some .cancelled) {submit : SubmitRequest}
    (hfresh : cp.overview.status submit.inferenceRequest.requestId = none) (initialState : RequestState) (now : Time) :
    (∀ r, Squares (cp.overview.state r) ((cp.overview.step cfg (.register submit initialState now)).state r)
        (cp.overview.bill cfg (.register submit initialState now) r)) ↔
      ¬(initialState = .validated ∧ cp.count < cfg.registryMaxEntries) := by
  have hcount : cp.count = cp.overview.registered := rfl
  have hbefore : cp.overview.state submit.inferenceRequest.requestId = none := congrArg (Option.map Status.state) hfresh
  rw [hcount, Overview.step, Overview.bill]
  by_cases hroom : cp.overview.registered < cfg.registryMaxEntries
  swap
  · rw [if_pos (Or.inr (not_lt.1 hroom)), if_neg fun hc : _ ∧ _ => hroom hc.2]
    exact ⟨fun _ hc => hroom hc.2, fun _ => squares_of_status hno (fun _ => rfl) rfl⟩
  by_cases hinit : initialState ≠ .received ∧ initialState ≠ .validated
  · rw [if_pos (Or.inl hinit), if_neg fun hc : _ ∧ _ => hinit.1 hc.1]
    exact ⟨fun _ hc => hinit.2 hc.1, fun _ => squares_of_status hno (fun _ => rfl) rfl⟩
  rw [if_neg (not_or.2 ⟨hinit, not_le.2 hroom⟩)]
  set ov' := cp.overview.register submit.inferenceRequest.requestId ⟨initialState, none⟩ with hov'
  have hafter : ov'.state submit.inferenceRequest.requestId = some initialState :=
    congrArg (Option.map Status.state) (Overview.register_status_self _ _ _)
  have hother : ∀ r, r ≠ submit.inferenceRequest.requestId → ov'.state r = cp.overview.state r := fun r hr =>
    congrArg (Option.map Status.state) (Overview.register_status_ne _ _ hr)
  rcases not_and_or.1 hinit with hrec | hval
  · obtain rfl := not_not.1 hrec
    rw [if_pos ⟨rfl, hroom⟩]
    refine ⟨fun _ hc => (by cases hc.1), fun _ r => ?_⟩
    by_cases hr : r = submit.inferenceRequest.requestId
    · rw [hr, hbefore, hafter]
      exact (squares_new _ .received none).2 (by decide)
    · rw [hother r hr, Tally.of_ne hr]
      exact squares_same (hno r)
  · obtain rfl := not_not.1 hval
    rw [if_neg fun hc : _ ∧ _ => (by cases hc.1)]
    refine ⟨fun hall => ?_, fun hc => absurd ⟨rfl, hroom⟩ hc⟩
    have hself := (hall submit.inferenceRequest.requestId).1
    rw [hbefore, hafter] at hself
    have hrow : 0 = 1 + _ := congrFun hself .received
    omega

/-- an operation keeps the law exactly when it meets `Conserves` -/
theorem squares_iff (cfg : Settings) (h : Inv cp) {o : Op} (hf : Fresh cp o)
    (hno : ∀ r, cp.overview.state r ≠ some .cancelled) :
    (∀ r, Squares (cp.overview.state r) ((cp.overview.step cfg o).state r) (cp.overview.bill cfg o r)) ↔
      Conserves cfg cp o := by
  have hstate : ∀ r, cp.overview.state r = cp.state? r := fun r => (state?_eq cp r).symm
  have hsilent : ∀ {ov' : Overview}, (∀ r, ov'.status r = cp.overview.status r) →
      ((∀ r, Squares (cp.overview.state r) (ov'.state r) ((0 : Tally) r)) ↔ True) :=
    fun hsame => ⟨fun _ => trivial, fun _ => squares_of_status hno hsame rfl⟩
  cases o with
  | register submit initialState now => exact squares_register hno ((overview_status_eq_none h).2 hf) initialState now
  | transition r₁ toState now batchId backendId =>
    simp only [Conserves, ← hstate]
    refine squares_onStatus hno r₁ fun st hs => ?_
    by_cases hallowed : isAllowedTransition st.state toState = true
    · rw [if_pos hallowed, if_pos hallowed, squares_put _ hno hs, balanced_transition hallowed]
      constructor
      · intro hne hcancel
        exact hne hcancel.1
      · intro hcancel hto
        exact hcancel ⟨hto, hto ▸ hallowed⟩
    · rw [if_neg hallowed, if_neg hallowed]
      refine ⟨fun _ hcancel => hallowed (hcancel.1 ▸ hcancel.2), fun _ => squares_of_status hno (fun _ => rfl) rfl⟩
  | runAdmission r₁ checks now =>
    simp only [Conserves, ← hstate]
    refine squares_onStatus_silent hno r₁ fun st hs => ?_
    by_cases hst : st.state = .validated
    · rw [if_pos hst, hst, Overview.judged.eq_def, NotDeclined]
      cases evaluate checks with
      | error message => exact ⟨fun _ _ a ha => (by cases ha), fun _ => squares_of_status hno (fun _ => rfl) rfl⟩
      | ok a =>
        simp only [Except.ok.injEq, forall_eq', true_imp_iff]
        by_cases ha : a.outcome = .accept
        · rw [if_pos ha, squares_put _ hno hs, hst]
          exact ⟨fun _ => ha, fun _ => (by decide : Balanced .validated .admitted none)⟩
        · rw [if_neg ha, squares_put _ hno hs, hst]
          exact ⟨fun hb => absurd hb (by decide : ¬Balanced .validated .rejected none), fun hc => absurd hc ha⟩
    · rw [if_neg hst]
      exact ⟨fun _ hv => absurd hv hst, fun _ => squares_of_status hno (fun _ => rfl) rfl⟩
  | enqueueFromAdmitted r₁ now => exact ⟨fun _ => trivial, fun _ => squares_enqueueFromAdmitted hno r₁ now⟩
  | processThroughQueued submit checks now now' =>
    have hfresh : cp.overview.status submit.inferenceRequest.requestId = none := (overview_status_eq_none h).2 hf
    have hcount : cp.count = cp.overview.registered := rfl
    rw [Conserves, noneOverLate_iff, hcount, Overview.bill, Overview.step]
    by_cases hroom : cp.overview.registered < cfg.registryMaxEntries
    · simp only [hroom, if_true, true_imp_iff]
      exact squares_intake h hno hfresh hroom (evaluate checks) now now'
    · simp only [hroom, if_false, false_imp_iff, and_true, add_zero, Overview.intake, if_pos (not_lt.1 hroom)]
      exact squares_processTimeouts h hno now
  | processTimeouts now =>
    rw [Conserves, noneOverLate_iff]
    exact squares_processTimeouts h hno now
  | markFailed r₁ reason message now batchId backendId =>
    simp only [Conserves, ← hstate]
    rw [Overview.bill, Option.map_eq_bind]
    refine squares_onStatus hno r₁ fun st hs => ?_
    have hcancelled : st.state ≠ .cancelled := fun hc => hno r₁ (hc ▸ congrArg (Option.map Status.state) hs)
    exact (squares_put _ hno hs _ _).trans (balanced_failed hcancelled)
  | completeRequest r₁ completion now =>
    refine ⟨fun _ => trivial, fun _ => ?_⟩
    refine (squares_onStatus hno r₁ (C := fun _ => True) fun st hs => ?_).2 fun _ _ => trivial
    refine ⟨fun _ => trivial, fun _ => ?_⟩
    by_cases hst : st.state = .submitted ∨ st.state = .streaming
    · rw [if_pos hst, if_pos hst, squares_put _ hno hs]
      rcases hst with hst | hst
      · rw [hst]
        exact (by decide : Balanced .submitted .completed (some .completed))
      · rw [hst]
        exact (by decide : Balanced .streaming .completed (some .completed))
    · rw [if_neg hst, if_neg hst]
      exact squares_of_status hno (fun _ => rfl) rfl
  | cancel r₁ now =>
    simp only [Conserves, ← hstate]
    refine squares_onStatus_silent hno r₁ fun st hs => ?_
    by_cases hst : st.state = .submitted ∨ st.state = .streaming
    · rw [if_pos hst, squares_put _ hno hs]
      refine ⟨fun hb => absurd rfl hb.2, fun hc => ?_⟩
      rcases hst with hst | hst
      · exact absurd hst hc.1
      · exact absurd hst hc.2
    · rw [if_neg hst]
      exact ⟨fun _ => not_or.1 hst, fun _ => squares_of_status hno (fun _ => rfl) rfl⟩
  | dequeueNext now => exact hsilent fun _ => rfl
  | peek now => exact hsilent fun _ => rfl
  | listItems now => exact hsilent fun _ => rfl
  | remove r₁ now => exact hsilent fun _ => rfl
  | clear => exact hsilent fun _ => rfl
  | getQueueSnapshot queueName now => exact hsilent fun _ => rfl
  | getQueueStatistics now => exact hsilent fun _ => rfl
  | listQueuedRequests now => exact hsilent fun _ => rfl
  | listQueueItems limit now => exact hsilent fun _ => rfl

/-! ## What is counted is counted for registered requests -/

/-- a registered id stays registered -/
theorem step_known (cfg : Settings) (h : Inv cp) {o : Op} (hf : Fresh cp o)
    (hs : (cp.overview.step cfg o).status r = none) :
    cp.overview.status r = none := by
  cases hst : cp.overview.status r with
  | none => rfl
  | some st =>
    by_cases hto : o.TimesOut cfg cp r
    · rw [step_timesOut cfg h hf hst hto] at hs
      cases hs
    · obtain ⟨st', hst', -⟩ := step_follows cfg h hf hto st hst
      rw [hst'] at hs
      cases hs

/-- what an operation counts: never a second RECEIVED, and nothing for an id that is unknown afterwards -/
structure Billed (o o' : Overview) (bill : Tally) : Prop where
  registered : ∀ r, o.status r ≠ none → bill r .received = 0
  once : ∀ r, bill r .received ≤ 1
  unknown : ∀ r, o'.status r = none → bill r = 0

theorem billed_zero (o o' : Overview) : Billed o o' 0 := ⟨fun _ _ => rfl, fun _ => Nat.zero_le 1, fun _ _ => rfl⟩

theorem billed_onStatus {o o' : Overview} (hknown : ∀ r, o'.status r = none → o.status r = none) (r₁ : UUID)
    {f : Status → Option Counter} (hf : ∀ st, f st ≠ some .received) :
    Billed o o' (Tally.of r₁ ((o.status r₁).bind f)) := by
  have hzero : ∀ r, Tally.of r₁ ((o.status r₁).bind f) r .received = 0 := by
    intro r
    by_cases hr : r = r₁
    · rw [hr, Tally.of_self]
      cases hs : o.status r₁ with
      | none => rfl
      | some st => rw [Option.bind_some, if_neg (hf st)]
    · rw [Tally.of_ne hr]
      rfl
  refine ⟨fun r _ => hzero r, fun r => (hzero r).symm ▸ Nat.zero_le 1, fun r hs => ?_⟩
  by_cases hr : r = r₁
  · rw [hr, ← hr, hknown r hs]
    rfl
  · exact Tally.of_ne hr _

theorem failed_received (ids : List UUID) (r : UUID) : Tally.failed ids r .received = 0 := rfl

/-- a request that is timed out is registered -/
theorem failed_unknown {o' : Overview} {now : Time}
    (hlate : ∀ r ∈ cp.overview.lateIds cfg.queue now, o'.status r ≠ none) (hs : o'.status r = none) :
    Tally.failed (cp.overview.lateIds cfg.queue now) r = 0 := by
  have hnot : r ∉ cp.overview.lateIds cfg.queue now := fun hmem => hlate r hmem hs
  funext c
  simp [Tally.failed, List.count_eq_zero_of_not_mem hnot]

/-- the increments of a registration that succeeds -/
theorem billed_new {o : Overview} (o' : Overview) (bill : Option Counter) {r₁ : UUID} (hfresh : o.status r₁ = none)
    (hafter : o'.status r₁ ≠ none) (hbill : bill ≠ some .received) :
    Billed o o' (Tally.of r₁ (some .received) + Tally.of r₁ bill) := by
  have hself : (Tally.of r₁ (some .received) + Tally.of r₁ bill) r₁ .received = 1 := by
    rw [Pi.add_apply, Pi.add_apply, Tally.of_self, Tally.of_self, if_pos rfl, if_neg hbill]
  have hother : ∀ r, r ≠ r₁ → (Tally.of r₁ (some .received) + Tally.of r₁ bill) r = 0 := fun r hr => by
    rw [Pi.add_apply, Tally.of_ne hr, Tally.of_ne hr, add_zero]
  refine ⟨fun r hs => ?_, fun r => ?_, fun r hs => ?_⟩
  · rw [hother r fun hr => hs (hr ▸ hfresh)]
    rfl
  · by_cases hr : r = r₁
    · rw [hr, hself]
    · rw [hother r hr]
      exact Nat.zero_le 1
  · exact hother r fun hr => hafter (hr ▸ hs)

theorem billed_failed {o' : Overview} {now : Time}
    (hlate : ∀ r ∈ cp.overview.lateIds cfg.queue now, o'.status r ≠ none) :
    Billed cp.overview o' (Tally.failed (cp.overview.lateIds cfg.queue now)) := by
  refine ⟨fun r _ => failed_received _ r, fun r => ?_, fun r hs => failed_unknown hlate hs⟩
  rw [failed_received]
  exact Nat.zero_le 1

theorem step_billed (cfg : Settings) (h : Inv cp) {o : Op} (hf : Fresh cp o) :
    Billed cp.overview (cp.overview.step cfg o) (cp.overview.bill cfg o) := by
  have hknown : ∀ r, (cp.overview.step cfg o).status r = none → cp.overview.status r = none :=
    fun r hs => step_known cfg h hf hs
  have hlate : ∀ {now : Time}, ∀ r ∈ cp.overview.lateIds cfg.queue now, cp.overview.status r ≠ none := by
    intro now r hr hs
    obtain ⟨p, hp, hpr⟩ := List.mem_map.1 hr
    exact not_waits_of_unregistered h hs ⟨p, List.mem_of_mem_filter hp, hpr⟩
  cases o with
  | register submit initialState now =>
    have hfresh : cp.overview.status submit.inferenceRequest.requestId = none := (overview_status_eq_none h).2 hf
    rw [Overview.bill]
    by_cases hc : initialState = .received ∧ cp.overview.registered < cfg.registryMaxEntries
    · have hafter : (cp.overview.step cfg (.register submit initialState now)).status
          submit.inferenceRequest.requestId ≠
          none := by
        rw [Overview.step, if_neg, Overview.register_status_self]
        · simp
        · rintro (hbad | hfull)
          · exact hbad.1 hc.1
          · exact absurd hc.2 (not_lt.2 hfull)
      rw [if_pos hc]
      exact billed_new _ none hfresh hafter (by simp)
    · rw [if_neg hc]
      exact billed_zero _ _
  | transition r₁ toState now batchId backendId =>
    refine billed_onStatus hknown r₁ fun st => ?_
    split_ifs
    · cases toState <;> simp [endCounter]
    · simp
  | enqueueFromAdmitted r₁ now =>
    refine billed_onStatus hknown r₁ fun st => ?_
    split_ifs <;> simp
  | processThroughQueued submit checks now now' =>
    have hfresh : cp.overview.status submit.inferenceRequest.requestId = none := (overview_status_eq_none h).2 hf
    have hfailed : Billed cp.overview (cp.overview.step cfg (.processThroughQueued submit checks now now'))
        (Tally.failed (cp.overview.lateIds cfg.queue now)) := billed_failed fun r hr hs => hlate r hr (hknown r hs)
    rw [Overview.bill]
    by_cases hroom : cp.overview.registered < cfg.registryMaxEntries
    · obtain ⟨t, hafter, -⟩ := intake_own cfg hroom submit.inferenceRequest.requestId (evaluate checks) now now'
      have hnew := billed_new (cp.overview.step cfg (.processThroughQueued submit checks now now'))
        ((cp.overview.processTimeouts cfg.queue now).admittedCounter cfg (evaluate checks) now') hfresh
        (fun hs => by rw [Overview.step, Overview.state.eq_def] at *; rw [hs] at hafter; cases hafter)
        (by unfold Overview.admittedCounter; split <;> (try split_ifs) <;> simp)
      rw [if_pos hroom]
      refine ⟨fun r hs => ?_, fun r => ?_, fun r hs => ?_⟩
      · rw [Pi.add_apply, Pi.add_apply, failed_received, hnew.registered r hs]
      · rw [Pi.add_apply, Pi.add_apply, failed_received, Nat.zero_add]
        exact hnew.once r
      · rw [Pi.add_apply, hfailed.unknown r hs, hnew.unknown r hs, add_zero]
    · rw [if_neg hroom, add_zero]
      exact hfailed
  | processTimeouts now => exact billed_failed fun r hr hs => hlate r hr (hknown r hs)
  | markFailed r₁ reason message now batchId backendId =>
    rw [Overview.bill, Option.map_eq_bind]
    exact billed_onStatus hknown r₁ fun st => by simp
  | completeRequest r₁ completion now =>
    refine billed_onStatus hknown r₁ fun st => ?_
    split_ifs <;> simp
  | _ => exact billed_zero _ _

theorem filed_init : Filed .init := ⟨fun _ _ => rfl, fun _ => Nat.zero_le 1⟩

theorem step_filed (cfg : Settings) (h : Inv cp) (hfiled : Filed cp) {o : Op} (hf : Fresh cp o) :
    Filed (cp.step cfg o) := by
  have hbilled := step_billed cfg h hf
  refine ⟨fun r hs => ?_, fun r => ?_⟩
  · rw [(step_refines cfg h hf).overview] at hs
    rw [step_tally cfg h hf, Pi.add_apply, hfiled.unknown r (step_known cfg h hf hs), hbilled.unknown r hs, add_zero]
  · rw [step_tally cfg h hf, Pi.add_apply, Pi.add_apply]
    cases hs : cp.overview.status r with
    | none =>
      rw [hfiled.unknown r hs]
      exact (Nat.zero_add _).symm ▸ hbilled.once r
    | some st =>
      rw [hbilled.registered r (by simp [hs])]
      exact hfiled.received r

/-! ## Runs -/

theorem conserved_init : Conserved .init :=
  (conserved_iff_settled inv_init filed_init).2 fun _ => ⟨rfl, by simp [state?_eq, ControlPlaneApplication.init,
    ControlPlaneApplication.overview, ControlPlaneApplication.entry?]⟩

/-- **When the metrics agree with the registry.** A run that registers no id twice keeps the law in every state it
reaches exactly when each of its steps meets `Conserves`: no VALIDATED registration, no cancellation, no request
declined by an admission check, and no failure or queue timeout of a request that is over. -/
theorem conserved_iff (cfg : Settings) (ops : List Op) (hf : Meets (ControlPlaneApplication.step cfg) Fresh .init ops) :
    (∀ pre, pre <+: ops → Conserved (run (ControlPlaneApplication.step cfg) .init pre)) ↔
      Meets (ControlPlaneApplication.step cfg) (Conserves cfg) .init ops := by
  refine Meets.forall_prefix_iff (I := fun cp => Inv cp ∧ Filed cp) (fun cp o hI hfo => ?_) (fun cp o hI hfo hc => ?_)
    ⟨inv_init, filed_init⟩ conserved_init hf
  · exact ⟨(step_refines cfg hI.1 hfo).inv, step_filed cfg hI.1 hI.2 hfo⟩
  · have hsettled := (conserved_iff_settled hI.1 hI.2).1 hc
    have hno : ∀ r, cp.overview.state r ≠ some .cancelled := by
      intro r
      rw [Overview.state, ← state?_eq]
      exact (hsettled r).cancelled
    rw [conserved_iff_settled (step_refines cfg hI.1 hfo).inv (step_filed cfg hI.1 hI.2 hfo),
      ← squares_iff cfg hI.1 hfo hno]
    exact forall_congr' fun r => settled_step_iff cfg hI.1 hfo (hsettled r)

theorem conserved_iff_completed :
    (∀ pre, pre <+: completedOps → Conserved (run (ControlPlaneApplication.step sampleSettings) .init pre)) ↔
      Meets (ControlPlaneApplication.step sampleSettings) (Conserves sampleSettings) .init completedOps :=
  conserved_iff sampleSettings completedOps (by decide)

/-- **A rejection is not counted.** An admission check declines the only request: it is REJECTED, and the gauge shows
one active request. -/
theorem declined_stays_active :
    let cp := run (ControlPlaneApplication.step sampleSettings) .init
      [.processThroughQueued (sampleSubmit 1) [.ok { outcome := .reject }] 0 0]
    cp.state? 1 = some .rejected ∧ cp.listActive = [] ∧ cp.metrics.activeRequests = 1 ∧
      cp.metrics.requestsRejectedTotal = 0 ∧ ¬Conserved cp := by
  intro cp
  have hactive : cp.metrics.activeRequests = 1 := by decide +kernel
  have hlive : cp.listActive = [] := by decide +kernel
  refine ⟨by decide +kernel, hlive, hactive, by decide +kernel, fun hc => ?_⟩
  have h := hc.active
  rw [hactive, hlive] at h
  cases h

end InferencePlatform.ControlPlane
