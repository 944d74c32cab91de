/-
What placements do to the request index and to the ACTIVE members.

A placement enters one request that no batch holds yet, or leaves the index and the members as they are (`Placed`). The
relation composes, so it describes the placements of a whole scheduling cycle as well. `placeSelected_reports` sets what
happens to a request's membership beside what the caller is told.
-/
import InferencePlatform.Batching.Invariant

namespace InferencePlatform.Batching

open InferencePlatform.Core (Dict run)

variable {cfg : EngineConfig} {e e' e'' : ContinuousBatchEngine} {P : UUID → Prop}

/-- the requests placed on the way from `e` to `e'` are all in `P`, and none of them was in a batch -/
structure Placed (P : UUID → Prop) (e e' : ContinuousBatchEngine) : Prop where
  kept : ∀ {r id}, e.requestToBatch.get? r = some id → e'.requestToBatch.get? r = some id
  entered : ∀ {r id}, e'.requestToBatch.get? r = some id →
    e.requestToBatch.get? r = some id ∨ P r ∧ e.requestToBatch.get? r = none
  keptActive : ∀ {r}, e.isActive r → e'.isActive r
  enteredActive : ∀ {r}, e'.isActive r → e.isActive r ∨ P r ∧ e.requestToBatch.get? r = none

theorem Placed.logged (P : UUID → Prop) (e : ContinuousBatchEngine) (events : List BatchEvent) :
    Placed P e (e.logged events) := ⟨id, Or.inl, id, Or.inl⟩

theorem Placed.unbatched (h : Placed P e e') {r : UUID} (hr : e'.requestToBatch.get? r = none) :
    e.requestToBatch.get? r = none := by
  cases hid : e.requestToBatch.get? r with
  | none => rfl
  | some id =>
    rw [h.kept hid] at hr
    cases hr

theorem Placed.trans (h : Placed P e e') (h' : Placed P e' e'') : Placed P e e'' where
  kept hr := h'.kept (h.kept hr)
  entered hr := by
    rcases h'.entered hr with hr | ⟨hp, hr⟩
    · exact h.entered hr
    · exact Or.inr ⟨hp, h.unbatched hr⟩
  keptActive ha := h'.keptActive (h.keptActive ha)
  enteredActive ha := by
    rcases h'.enteredActive ha with ha | ⟨hp, hr⟩
    · exact h.enteredActive ha
    · exact Or.inr ⟨hp, h.unbatched hr⟩

theorem placed_placeSelected (h : Inv cfg e) (inj : FailureInjectionConfig) (now : Time) {item : QueueItem}
    (hP : P item.requestId) : Placed P e ((placeSelected cfg inj now item).final e) := by
  rcases placeSelected_cases h inj now item with ⟨d, events, hrun, -⟩ | ⟨err, events, hrun, -⟩ |
    ⟨batch, e₀, id, b, s, reason, events, ⟨hadmits, -⟩, ht, hj, hrun⟩
  · rw [EngineM.final_ok hrun]
    exact Placed.logged P e events
  · rw [EngineM.final_error hrun]
    exact Placed.logged P e events
  · rw [EngineM.final_ok hrun]
    have hindex : (e₀.joined cfg id b s item now events).requestToBatch = e.requestToBatch.set item.requestId id := by
      cases ht with
      | existing => rfl
      | fresh _ => rfl
    have hactive := fun r => (isActive_joined (ht.inv h) hj events r).trans (or_congr_right (ht.isActive h r))
    refine ⟨fun {r id'} hr => ?_, fun {r id'} hr => ?_, fun ha => (hactive _).2 (Or.inr ha), fun {r} ha => ?_⟩
    · rw [hindex, Dict.get?_set_ne]
      · exact hr
      · intro hreq
        rw [hreq, hadmits.unbatched] at hr
        cases hr
    · rw [hindex, Dict.get?_set] at hr
      split_ifs at hr with hreq
      · rw [hreq]
        exact Or.inr ⟨hP, hadmits.unbatched⟩
      · exact Or.inl hr
    · rcases (hactive r).1 ha with rfl | ha
      · exact Or.inr ⟨hP, hadmits.unbatched⟩
      · exact Or.inl ha

/-- the placements of one cycle -/
theorem placed_run (h : Inv cfg e) {inj : FailureInjectionConfig} {now : Time} {ops : List EngineOp}
    (hops : ∀ o ∈ ops, ∃ item, o = .placeSelected inj now item ∧ P item.requestId) :
    Inv cfg (run (ContinuousBatchEngine.step cfg) e ops) ∧ Placed P e (run (ContinuousBatchEngine.step cfg) e ops) := by
  induction ops generalizing e with
  | nil => exact ⟨h, Placed.logged P e e.events⟩
  | cons o ops ih =>
    obtain ⟨item, rfl, hP⟩ := hops o List.mem_cons_self
    have hstep := step_inv h (.placeSelected inj now item)
    obtain ⟨hinv, hplaced⟩ := ih hstep fun o ho => hops o (List.mem_cons_of_mem _ ho)
    exact ⟨hinv, (placed_placeSelected h inj now hP).trans hplaced⟩

/-- a retirement leaves the index as it is -/
theorem requestToBatch_retireRequest (h : Inv cfg e) (rid : UUID) (status : MemberStatus)
    (reason : String) (now : Time) :
    ((retireRequest rid status reason now).final e).requestToBatch = e.requestToBatch := by
  rcases retireRequest_cases h rid status reason now with ⟨-, res, hrun⟩ | ⟨id, b, s, m, res, events, -, hrun⟩
  · rw [EngineM.final_ok hrun]
  · rw [EngineM.final_ok hrun]
    rfl

/-! ## Membership and what is reported -/

/-- the batch that holds the request, and its record there -/
def ContinuousBatchEngine.membership (e : ContinuousBatchEngine) (rid : UUID) : Option (UUID × BatchMember) := do
  let batchId ← e.requestToBatch.get? rid
  let requestSet ← e.sets.get? batchId
  let member ← requestSet.byId.get? rid
  return (batchId, member)

theorem membership_eq_some {rid id : UUID} {m : BatchMember} :
    e.membership rid = some (id, m) ↔
      e.requestToBatch.get? rid = some id ∧ ∃ s, e.sets.get? id = some s ∧ s.byId.get? rid = some m := by
  simp only [ContinuousBatchEngine.membership, Option.bind_eq_bind, Option.bind_eq_some_iff, Option.pure_def,
    Option.some.injEq, Prod.mk.injEq]
  constructor
  · rintro ⟨id', hid, s, hs, m', hm, rfl, rfl⟩
    exact ⟨hid, s, hs, hm⟩
  · rintro ⟨hid, s, hs, hm⟩
    exact ⟨id, hid, s, hs, m, hm, rfl, rfl⟩

theorem membership_of_unbatched {rid : UUID} (h : e.requestToBatch.get? rid = none) : e.membership rid = none := by
  simp [ContinuousBatchEngine.membership, h]

theorem membership_congr {rid : UUID} (hid : e'.requestToBatch.get? rid = e.requestToBatch.get? rid)
    (hs : ∀ id, e.requestToBatch.get? rid = some id →
      (e'.sets.get? id).bind (fun s => s.byId.get? rid) = (e.sets.get? id).bind fun s => s.byId.get? rid) :
    e'.membership rid = e.membership rid := by
  have hbind : ∀ e : ContinuousBatchEngine, e.membership rid = (e.requestToBatch.get? rid).bind fun id =>
      ((e.sets.get? id).bind fun s => s.byId.get? rid).map fun m => (id, m) := by
    intro e
    simp only [ContinuousBatchEngine.membership, Option.bind_eq_bind, Option.pure_def]
    cases e.requestToBatch.get? rid with
    | none => rfl
    | some id =>
      simp only [Option.bind_some]
      cases e.sets.get? id with
      | none => rfl
      | some s =>
        simp only [Option.bind_some]
        cases s.byId.get? rid with
        | none => rfl
        | some m => rfl
  rw [hbind, hbind, hid]
  cases hr : e.requestToBatch.get? rid with
  | none => rfl
  | some id => rw [Option.bind_some, Option.bind_some, hs id hr]

theorem Inv.isActive_iff_membership (h : Inv cfg e) {rid : UUID} :
    e.isActive rid ↔ ∃ id m, e.membership rid = some (id, m) ∧ m.status = .active := by
  rw [isActive_iff]
  constructor
  · rintro ⟨id, b, hb, m, hm, rfl⟩
    obtain ⟨s, hs, hbi⟩ := h.batch hb
    obtain ⟨hget, hst⟩ := hbi.mem_activeMembers.1 hm
    exact ⟨id, m, membership_eq_some.2 ⟨(h.request _ _).2 ⟨s, m, hs, hget⟩, s, hs, hget⟩, hst⟩
  · rintro ⟨id, m, hm, hst⟩
    obtain ⟨-, s, hs, hget⟩ := membership_eq_some.1 hm
    obtain ⟨b, hb⟩ := h.set hs
    have hbi := h.setOf hb hs
    obtain rfl := (hbi.keyed _ m hget).1
    exact ⟨id, b, hb, m, hbi.mem_activeMembers.2 ⟨hget, hst⟩, rfl⟩

theorem membership_joined {now : Time} {item : QueueItem} {id : UUID} {b : Batch} {s : ActiveRequestSet}
    (hj : Joins cfg now item e id b s) (events : List BatchEvent) {rid : UUID} (hne : rid ≠ item.requestId) :
    (e.joined cfg id b s item now events).membership rid = e.membership rid := by
  refine membership_congr (Dict.get?_set_ne _ _ hne) fun id' _ => ?_
  simp only [ContinuousBatchEngine.joined, Dict.get?_set]
  split_ifs with hid
  · rw [hid, hj.set, Option.bind_some, Option.bind_some]
    exact Dict.get?_set_ne _ _ hne
  · rfl

theorem Target.membership {model : String} {now : Time} {batch : Option Batch} {e₀ : ContinuousBatchEngine} {id : UUID}
    {b : Batch} (h : Inv cfg e) (ht : Target cfg e model now batch e₀ id b) (rid : UUID) :
    e₀.membership rid = e.membership rid := by
  cases ht with
  | existing => rfl
  | fresh _ =>
    refine membership_congr rfl fun id' hid' => ?_
    obtain ⟨s, m, hs, -⟩ := (h.request rid id').1 hid'
    obtain ⟨b', hb'⟩ := h.set hs
    simp only [ContinuousBatchEngine.opened, Dict.get?_set_ne _ _ (h.fresh hb').ne]

/-- the engine would admit the request -/
def Admitted (cfg : BatchAdmissionConfig) (inj : FailureInjectionConfig) (now : Time) (item : QueueItem)
    (e : ContinuousBatchEngine) : Prop :=
  Admits cfg inj now item e (e.findAdmittableBatch cfg item.inferenceRequest.model now)

instance (cfg : BatchAdmissionConfig) (inj : FailureInjectionConfig) (now : Time) (item : QueueItem)
    (e : ContinuousBatchEngine) : Decidable (Admitted cfg inj now item e) := inferInstanceAs (Decidable (Admits ..))

theorem Admits.admitted {inj : FailureInjectionConfig} {now : Time} {item : QueueItem} {batch : Option Batch}
    (h : Admits cfg inj now item e batch) : Admitted cfg inj now item e := by
  unfold Admitted
  rw [h.found]
  exact h

/-- what a placement does and what it reports: a refusal that changes no membership, an exception that changes none, or
a new ACTIVE member, reported as placed unless the injected fault reports a refusal -/
theorem placeSelected_reports (h : Inv cfg e) (inj : FailureInjectionConfig) (now : Time) (item : QueueItem) :
    (∃ d e', EStateM.run (placeSelected cfg inj now item) e = .ok (.rejected d) e' ∧ d.requestId = item.requestId ∧
      (∀ batch, ¬Admits cfg inj now item e batch) ∧ ∀ rid, e'.membership rid = e.membership rid) ∨
    (∃ err e', EStateM.run (placeSelected cfg inj now item) e = .error err e' ∧ Admits cfg inj now item e none ∧
      inj.isActive .batchCreationFailure (some item.requestId) = true ∧ ∀ rid, e'.membership rid = e.membership rid) ∨
    ∃ batch outcome e', EStateM.run (placeSelected cfg inj now item) e = .ok outcome e' ∧
      Admits cfg inj now item e batch ∧
      (batch = none → inj.isActive .batchCreationFailure (some item.requestId) = false) ∧
      (if inj.isActive .schedulerInvalidBatchAssignment (some item.requestId) then
        ∃ d, outcome = .rejected d ∧ d.requestId = item.requestId
      else ∃ d, outcome = .placed d ∧ d.requestId = item.requestId) ∧
      e.membership item.requestId = none ∧ e'.isActive item.requestId ∧
      ∀ rid, rid ≠ item.requestId → e'.membership rid = e.membership rid := by
  rcases placeSelected_cases h inj now item with ⟨d, events, hrun, hno, hid⟩ |
    ⟨err, events, hrun, hcreation, -, hadmits⟩ | ⟨batch, e₀, id, b, s, reason, events, ⟨hadmits, hnot⟩, ht, hj, hrun⟩
  · exact Or.inl ⟨d, _, hrun, hid, hno, fun _ => rfl⟩
  · exact Or.inr (Or.inl ⟨err, _, hrun, hadmits, hcreation, fun _ => rfl⟩)
  · refine Or.inr (Or.inr ⟨batch, _, _, hrun, hadmits, hnot, ?_, membership_of_unbatched hadmits.unbatched, ?_, ?_⟩)
    · unfold addOutcome
      split_ifs
      · exact ⟨_, rfl, rfl⟩
      · exact ⟨_, rfl, rfl⟩
    · exact (isActive_joined (ht.inv h) hj events _).2 (Or.inl rfl)
    · intro rid hne
      rw [membership_joined hj events hne]
      exact ht.membership h rid

end InferencePlatform.Batching
