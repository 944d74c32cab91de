/-
When a model can be scheduled again.

A request that keeps being offered to the engine (`attempts`) is placed at its first offer or never: a refused placement
changes nothing but the log, and what refuses it (below the global bound, with no full batch) is an admission window
that has ended, which no later offer finds open again. The pointer branch of `find_admittable_batch` returns a FILLING
batch whose window is over, so no new batch is opened beside it, and only a placement could have activated it.

`schedulable_iff`: a model below the bound and without a full batch is schedulable from time `t` exactly when no FILLING
batch of it has a window that ended before `t`; and whenever the offers start, exactly when it has no FILLING batch at
all.
-/
import InferencePlatform.Batching.Invariant

namespace InferencePlatform.Batching

open InferencePlatform.Core (Dict run)

variable {cfg : EngineConfig} {e : ContinuousBatchEngine}

/-! ## Offering a request again and again -/

/-- the engine after the first `n` offers of the item, the `i`-th at `times i` -/
def attempts (cfg : BatchAdmissionConfig) (item : QueueItem) (times : ℕ → Time) (e : ContinuousBatchEngine) :
    ℕ → ContinuousBatchEngine
  | 0 => e
  | n + 1 => (placeSelected cfg {} (times n) item).final (attempts cfg item times e n)

/-- the `i`-th offer returns a placement decision -/
def PlacesAt (cfg : BatchAdmissionConfig) (item : QueueItem) (times : ℕ → Time) (e : ContinuousBatchEngine) (i : ℕ) :
    Prop :=
  ∃ d, (placeSelected cfg {} (times i) item).value? (attempts cfg item times e i) = some (.placed d)

/-- some number of offers, the first at time `t` and the others at any times after it, contains a placement -/
def SchedulableFrom (cfg : BatchAdmissionConfig) (item : QueueItem) (e : ContinuousBatchEngine) (t : Time) : Prop :=
  ∃ n, ∀ times : ℕ → Time, Monotone times → times 0 = t → ∃ i < n, PlacesAt cfg item times e i

/-- the same, with one number of offers for every time at which they can start -/
def Schedulable (cfg : BatchAdmissionConfig) (item : QueueItem) (e : ContinuousBatchEngine) (clock : Time) : Prop :=
  ∃ n, ∀ times : ℕ → Time, Monotone times → clock ≤ times 0 → ∃ i < n, PlacesAt cfg item times e i

/-- no FILLING batch of the model has a window that ended before `t` -/
def WindowOpen (e : ContinuousBatchEngine) (model : String) (t : Time) : Prop :=
  ∀ b ∈ e.batches.values, b.context.model = model → b.state = .filling → t ≤ b.context.admissionWindowEnd

instance (e : ContinuousBatchEngine) (model : String) (t : Time) : Decidable (WindowOpen e model t) :=
  inferInstanceAs (Decidable (∀ b ∈ e.batches.values, _ → _ → _))

def NoFilling (e : ContinuousBatchEngine) (model : String) : Prop :=
  ∀ b ∈ e.batches.values, b.context.model = model → b.state ≠ .filling

/-- what the engine owes a model: below the global bound, and no open batch of the model is full -/
structure HasRoom (cfg : BatchAdmissionConfig) (item : QueueItem) (e : ContinuousBatchEngine) : Prop where
  unbatched : e.requestToBatch.get? item.requestId = none
  bound : e.globalActiveRequestCount < cfg.maxActiveRequests
  notFull : ∀ b ∈ e.batches.values, b.context.model = item.inferenceRequest.model → b.isOpen →
    b.activeMemberCount < cfg.maxBatchSize

/-! ## One offer -/

theorem EngineM.value?_ok {α : Type} {x : EngineM α} {a : α} {e' : ContinuousBatchEngine}
    (h : EStateM.run x e = .ok a e') : x.value? e = some a := by
  simp [EngineM.value?, h]

/-- an offer to a model with room is admitted exactly when the window is open -/
theorem Inv.admits_iff (h : Inv cfg e) {item : QueueItem} (hr : HasRoom cfg item e) (t : Time) :
    (∃ batch, Admits cfg {} t item e batch) ↔ WindowOpen e item.inferenceRequest.model t := by
  constructor
  · rintro ⟨batch, ha⟩ b hb hmodel hst
    obtain ⟨id, hb⟩ := Dict.mem_values.1 hb
    have hopen : b.isOpen := Or.inl hst
    have hfind := (h.findAdmittableBatch_eq_some t).2
      ⟨id, hb, hmodel, hopen, hr.notFull b (Dict.mem_values.2 ⟨id, hb⟩) hmodel hopen⟩
    have hacc := evaluateBatchAdmission_accept.1 ha.accept
    rw [ha.found] at hfind
    have hwin := (hacc.2 b hfind).2.2
    simp only [hst, true_and, not_lt] at hwin
    exact hwin
  · intro hw
    set batch := e.findAdmittableBatch cfg item.inferenceRequest.model t with hbatch
    have hacc : (evaluateBatchAdmission batch e.globalActiveRequestCount cfg t).decision = .accept := by
      refine evaluateBatchAdmission_accept.2 ⟨hr.bound, fun b hb => ?_⟩
      obtain ⟨id, hget, hmodel, hopen, hroom⟩ := (h.findAdmittableBatch_eq_some t).1 hb
      obtain ⟨s, -, hbi⟩ := h.batch hget
      refine ⟨hbi.isOpen_iff_not_terminal.1 hopen, hroom, fun hc => ?_⟩
      exact absurd (hw b (Dict.mem_values.2 ⟨id, hget⟩) hmodel hc.1) (not_le.2 hc.2)
    refine ⟨batch, rfl, hr.unbatched, rfl, fun _ => ?_, hacc⟩
    rw [Option.eq_none_iff_forall_not_mem]
    intro b hb
    simp only [ContinuousBatchEngine.activeFullBatch, Option.bind_eq_bind, Option.mem_def,
      Option.bind_eq_some_iff] at hb
    obtain ⟨id, hid, b', hb', hc⟩ := hb
    obtain ⟨b'', hb'', hmodel, hopen⟩ := (h.pointer _ _).1 hid
    rw [hb'] at hb''
    cases hb''
    have hroom := hr.notFull b' (Dict.mem_values.2 ⟨id, hb'⟩) hmodel hopen
    rw [if_neg (by omega)] at hc
    cases hc

/-- an offer to a model with room: placed if the window is open, else refused with only the log changed -/
theorem Inv.offer (h : Inv cfg e) {item : QueueItem} (hr : HasRoom cfg item e) (t : Time) :
    (WindowOpen e item.inferenceRequest.model t ∧ ∃ d, (placeSelected cfg {} t item).value? e = some (.placed d)) ∨
      (¬WindowOpen e item.inferenceRequest.model t ∧ (∀ d, (placeSelected cfg {} t item).value? e ≠ some (.placed d)) ∧
        ∃ events, (placeSelected cfg {} t item).final e = e.logged events) := by
  rcases placeSelected_cases h {} t item with ⟨d, events, hrun, hno, -⟩ | ⟨err, events, -, hinj, -⟩ |
    ⟨batch, e₀, id, b, s, reason, events, ⟨ha, -⟩, -, -, hrun⟩
  · refine Or.inr ⟨?_, fun d' => ?_, events, EngineM.final_ok hrun⟩
    · rw [← h.admits_iff hr]
      rintro ⟨batch, ha⟩
      exact hno batch ha
    · rw [EngineM.value?_ok hrun]
      simp
  · cases hinj
  · exact Or.inl ⟨(h.admits_iff hr t).1 ⟨batch, ha⟩, _, EngineM.value?_ok hrun⟩

/-! ## Every later offer -/

/-- while no offer is placed, nothing but the log changes -/
theorem attempts_logged (h : Inv cfg e) {item : QueueItem} (hr : HasRoom cfg item e) {times : ℕ → Time} {n : ℕ}
    (hno : ∀ i < n, ¬WindowOpen e item.inferenceRequest.model (times i)) :
    ∃ events, attempts cfg item times e n = e.logged events := by
  induction n with
  | zero => exact ⟨e.events, rfl⟩
  | succ n ih =>
    obtain ⟨events, hn⟩ := ih fun i hi => hno i (Nat.lt_succ_of_lt hi)
    have hr' : HasRoom cfg item (e.logged events) := ⟨hr.unbatched, hr.bound, hr.notFull⟩
    rcases (h.logged events).offer hr' (times n) with ⟨hw, -⟩ | ⟨-, -, events', hfin⟩
    · exact absurd hw (hno n (Nat.lt_succ_self n))
    · exact ⟨events', by rw [attempts, hn, hfin]; rfl⟩

/-- an offer that comes before any placement is placed exactly when the window is open at its time -/
theorem placesAt_iff (h : Inv cfg e) {item : QueueItem} (hr : HasRoom cfg item e) {times : ℕ → Time} {n : ℕ}
    (hno : ∀ i < n, ¬WindowOpen e item.inferenceRequest.model (times i)) :
    PlacesAt cfg item times e n ↔ WindowOpen e item.inferenceRequest.model (times n) := by
  obtain ⟨events, hn⟩ := attempts_logged h hr hno
  have hr' : HasRoom cfg item (e.logged events) := ⟨hr.unbatched, hr.bound, hr.notFull⟩
  unfold PlacesAt
  rw [hn]
  rcases (h.logged events).offer hr' (times n) with ⟨hw, hd⟩ | ⟨hw, hd, -⟩
  · exact iff_of_true hd hw
  · exact iff_of_false (fun ⟨d, hd'⟩ => hd d hd') hw

/-- once the window has ended, no later offer is placed either -/
theorem not_placesAt_of_closed (h : Inv cfg e) {item : QueueItem} (hr : HasRoom cfg item e) (times : ℕ → Time)
    (hmono : Monotone times) (hclosed : ¬WindowOpen e item.inferenceRequest.model (times 0)) (n : ℕ) :
    ¬PlacesAt cfg item times e n := by
  have hno : ∀ i, ¬WindowOpen e item.inferenceRequest.model (times i) := fun i hw =>
    hclosed fun b hb hmodel hst => (hmono (Nat.zero_le i)).trans (hw b hb hmodel hst)
  rw [placesAt_iff h hr fun i _ => hno i]
  exact hno n

theorem Inv.placesAt_first (h : Inv cfg e) {item : QueueItem} (hr : HasRoom cfg item e) {times : ℕ → Time}
    (hw : WindowOpen e item.inferenceRequest.model (times 0)) : PlacesAt cfg item times e 0 :=
  (placesAt_iff h hr (by simp)).2 hw

theorem Inv.schedulableFrom_iff (h : Inv cfg e) {item : QueueItem} (hr : HasRoom cfg item e) (t : Time) :
    SchedulableFrom cfg item e t ↔ WindowOpen e item.inferenceRequest.model t := by
  constructor
  · rintro ⟨n, hn⟩
    obtain ⟨i, -, hi⟩ := hn (fun _ => t) monotone_const rfl
    by_contra hclosed
    exact not_placesAt_of_closed h hr (fun _ => t) monotone_const hclosed i hi
  · intro hw
    exact ⟨1, fun times _ ht => ⟨0, Nat.one_pos, h.placesAt_first hr (ht.symm ▸ hw)⟩⟩

theorem Inv.schedulable_iff_noFilling (h : Inv cfg e) {item : QueueItem} (hr : HasRoom cfg item e) (clock : Time) :
    Schedulable cfg item e clock ↔ NoFilling e item.inferenceRequest.model := by
  constructor
  · rintro ⟨n, hn⟩ b hb hmodel hst
    -- the offers may start after both the clock and the batch's window
    set t := max clock (b.context.admissionWindowEnd + 1) with ht
    obtain ⟨i, -, hi⟩ := hn (fun _ => t) monotone_const (le_max_left _ _)
    have hclosed : ¬WindowOpen e item.inferenceRequest.model t := fun hw =>
      absurd (hw b hb hmodel hst) (not_le.2 (le_max_right clock (b.context.admissionWindowEnd + 1)))
    exact not_placesAt_of_closed h hr (fun _ => t) monotone_const hclosed i hi
  · intro hno
    exact ⟨1, fun times _ _ => ⟨0, Nat.one_pos,
      h.placesAt_first hr fun b hb hmodel hst => absurd hst (hno b hb hmodel)⟩⟩

/-! ## Runs -/

/-- **Which models are blocked for ever.** In every state a run of the engine reaches, for every request that is not yet
batched, below the global bound and with no open batch of its model full: from any time `t` on, some number of offers
contains a placement if and only if no FILLING batch of the model has a window that ended before `t`. One number serves
for all starting times if and only if the model has no FILLING batch. -/
theorem schedulable_iff (cfg : EngineConfig) (ops : List EngineOp) (item : QueueItem)
    (hr : HasRoom cfg item (run (ContinuousBatchEngine.step cfg) ContinuousBatchEngine.init ops)) :
    let e := run (ContinuousBatchEngine.step cfg) ContinuousBatchEngine.init ops
    (∀ t, SchedulableFrom cfg item e t ↔ WindowOpen e item.inferenceRequest.model t) ∧
      ∀ clock, Schedulable cfg item e clock ↔ NoFilling e item.inferenceRequest.model :=
  ⟨(run_inv cfg ops).schedulableFrom_iff hr, (run_inv cfg ops).schedulable_iff_noFilling hr⟩

/-- the engine after one request has been placed at time 0: its batch takes members until time 1000 -/
def placedOne : ContinuousBatchEngine :=
  run (ContinuousBatchEngine.step smallConfig) ContinuousBatchEngine.init [.placeSelected {} 0 (plainItem 1 "m")]

theorem hasRoom_placedOne : HasRoom smallConfig (plainItem 2 "m") placedOne := ⟨by decide, by decide, by decide⟩

/-- within the window the second request is placed -/
theorem schedulable_in_window : SchedulableFrom smallConfig (plainItem 2 "m") placedOne 1000 :=
  ((schedulable_iff smallConfig [.placeSelected {} 0 (plainItem 1 "m")] (plainItem 2 "m") hasRoom_placedOne).1 1000).2
    (by decide)

/-- **A model blocked for ever.** One slot of two is free and the global bound is far away, but the window has ended:
no offer of the second request is ever placed. -/
theorem blocked_after_window :
    HasRoom smallConfig (plainItem 2 "m") placedOne ∧ ¬Schedulable smallConfig (plainItem 2 "m") placedOne 0 ∧
      ∀ times : ℕ → Time, Monotone times → 1001 ≤ times 0 →
        ∀ n, ¬PlacesAt smallConfig (plainItem 2 "m") times placedOne n := by
  have hinv : Inv smallConfig placedOne := run_inv smallConfig _
  have hblocked : ∀ times : ℕ → Time, Monotone times → 1001 ≤ times 0 →
      ∀ n, ¬PlacesAt smallConfig (plainItem 2 "m") times placedOne n := by
    intro times hmono hstart n
    refine not_placesAt_of_closed hinv hasRoom_placedOne times hmono (fun hw => ?_) n
    have hend : ∃ b ∈ placedOne.batches.values, b.context.model = "m" ∧ b.state = .filling ∧
        b.context.admissionWindowEnd = 1000 := by decide
    obtain ⟨b, hb, hmodel, hst, hwin⟩ := hend
    exact absurd (hstart.trans (hw b hb hmodel hst)) (by rw [hwin]; decide)
  refine ⟨hasRoom_placedOne, ?_, hblocked⟩
  rintro ⟨n, hn⟩
  obtain ⟨i, -, hi⟩ := hn (fun _ => 1001) monotone_const (by decide)
  exact hblocked (fun _ => 1001) monotone_const le_rfl i hi

end InferencePlatform.Batching
