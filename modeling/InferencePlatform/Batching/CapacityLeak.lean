/-
When the capacity held by a terminal batch leaks.

Failing a member fails its whole batch (`failBatch`), but only that member's status is overwritten: the siblings stay
ACTIVE in a batch that no placement and no dispatch looks at again, and `global_active_request_count` goes on counting
them. Every other way into a terminal state needs the batch to be empty.

`no_capacity_leak_iff`: a run never holds capacity through a terminal batch, in any state it reaches, exactly when each
of its failures concerns a request that is unbatched, or whose batch is terminal already, or that is its batch's last
ACTIVE member.
-/
import InferencePlatform.Batching.Invariant

namespace InferencePlatform.Batching

open InferencePlatform.Core (Dict Meets run)

variable {cfg : EngineConfig} {e : ContinuousBatchEngine}

/-! ## The property -/

def NoTerminalActive (e : ContinuousBatchEngine) : Prop :=
  ∀ id b, e.batches.get? id = some b → b.state ∈ batchTerminalStates → b.activeMembers = []

def ContinuousBatchEngine.openActiveCount (e : ContinuousBatchEngine) : ℕ :=
  ((e.batches.values.filter fun b => b.isOpen).map Batch.activeMemberCount).sum

/-- the request an operation retires, if it is a retirement -/
def EngineOp.retires : EngineOp → Option UUID
  | .placeSelected .. => none
  | .completeRequest _ rid => some rid
  | .failRequest _ rid _ => some rid
  | .cancelRequest _ rid => some rid

structure NoCapacityLeak (cfg : BatchAdmissionConfig) (e : ContinuousBatchEngine) : Prop where
  terminal : NoTerminalActive e
  counted : e.globalActiveRequestCount = e.openActiveCount
  /-- any retirements that cover the members of the open batches bring the count to zero -/
  drains : ∀ ops : List EngineOp, (∀ o ∈ ops, o.retires ≠ none) →
    (∀ b ∈ e.batches.values, b.isOpen → ∀ m ∈ b.members, ∃ o ∈ ops, o.retires = some m.requestId) →
    (run (ContinuousBatchEngine.step cfg) e ops).globalActiveRequestCount = 0

/-! ## The condition -/

/-- failing `rid` leaves no ACTIVE sibling behind in a batch it closes -/
def FailsAlone (e : ContinuousBatchEngine) (rid : UUID) : Prop :=
  ∀ b ∈ (e.requestToBatch.get? rid).bind e.batches.get?,
    b.state ∈ batchTerminalStates ∨ ∀ m ∈ b.activeMembers, m.requestId = rid

instance (e : ContinuousBatchEngine) (rid : UUID) : Decidable (FailsAlone e rid) :=
  inferInstanceAs (Decidable (∀ b ∈ (e.requestToBatch.get? rid).bind e.batches.get?, _ ∨ _))

def RetiresCleanly (e : ContinuousBatchEngine) : EngineOp → Prop
  | .failRequest _ rid _ => FailsAlone e rid
  | _ => True

instance (e : ContinuousBatchEngine) : (o : EngineOp) → Decidable (RetiresCleanly e o)
  | .failRequest _ rid _ => inferInstanceAs (Decidable (FailsAlone e rid))
  | .placeSelected .. | .completeRequest .. | .cancelRequest .. => isTrue trivial

/-! ## One step -/

theorem NoTerminalActive.joined (h : Inv cfg e) {now : Time} {item : QueueItem} {id : UUID} {b : Batch}
    {s : ActiveRequestSet} (hj : Joins cfg now item e id b s) (events : List BatchEvent) :
    NoTerminalActive (e.joined cfg id b s item now events) ↔ NoTerminalActive e := by
  have hbi := h.setOf hj.batch hj.set
  have hbi' := hbi.joined now (hj.notMember h) hj.model hj.room
  have hopen' : ((b.withMembers (s.insert (newMember b item now))).afterAdmission cfg now).state ∉
      batchTerminalStates := by
    rw [← hbi'.isOpen_iff_not_terminal, Batch.afterAdmission_isOpen]
    exact hj.isOpen
  simp only [NoTerminalActive, ContinuousBatchEngine.joined, Dict.get?_set]
  refine ⟨fun hn id' b' hb' hterm => ?_, fun hn id' b' hb' hterm => ?_⟩
  · by_cases hid : id' = id
    · subst hid
      rw [hj.batch] at hb'
      cases hb'
      exact absurd hterm (hbi.isOpen_iff_not_terminal.1 hj.isOpen)
    · exact hn id' b' (by rw [if_neg hid]; exact hb') hterm
  · split_ifs at hb' with hid
    · cases hb'
      exact absurd hterm hopen'
    · exact hn id' b' hb' hterm

theorem NoTerminalActive.target (h : Inv cfg e) {model : String} {now : Time} {batch : Option Batch}
    {e₀ : ContinuousBatchEngine} {id : UUID} {b : Batch} (ht : Target cfg e model now batch e₀ id b) :
    NoTerminalActive e₀ ↔ NoTerminalActive e := by
  cases ht with
  | existing => rfl
  | fresh _ =>
    simp only [NoTerminalActive, ContinuousBatchEngine.opened, Dict.get?_set]
    refine ⟨fun hn id b hb => hn id b ?_, fun hn id b hb hterm => ?_⟩
    · rw [if_neg (h.fresh hb).ne]
      exact hb
    · split_ifs at hb with hid
      · cases hb
        simp [freshBatch, Batch.activeMembers]
      · exact hn id b hb hterm

theorem noTerminalActive_retired (h : Inv cfg e) (hn : NoTerminalActive e) {rid id : UUID} {b : Batch}
    {s : ActiveRequestSet} {m : BatchMember} (hh : Holds e rid id b s m) {status : MemberStatus}
    (hst : status ≠ .active)
    (reason : String) (now : Time) (events : List BatchEvent) :
    NoTerminalActive (e.retired id b (s.withStatus m rid status) status reason now events) ↔
      (status = .failed → FailsAlone e rid) := by
  have hbi := h.setOf hh.batch hh.set
  have hmem := fun x => mem_activeMembers_withStatus hbi rid m x hst
  have hbind : (e.requestToBatch.get? rid).bind e.batches.get? = some b := by rw [hh.request]; exact hh.batch
  set s' := s.withStatus m rid status with hs'
  set b' := (b.withMembers s').afterRetirement s' status reason now with hb'
  have hact : b'.activeMembers = (b.withMembers s').activeMembers := Batch.afterRetirement_activeMembers ..
  have hstate : b'.state = if b.closes s' status then (if status = .failed then .failed else .completed) else b.state :=
    Batch.afterRetirement_state ..
  -- only the batch concerned matters
  have hloc : NoTerminalActive (e.retired id b s' status reason now events) ↔
      (b'.state ∈ batchTerminalStates → b'.activeMembers = []) := by
    simp only [NoTerminalActive, ContinuousBatchEngine.retired, Dict.get?_set]
    refine ⟨fun hn' => hn' id b' (if_pos rfl), fun hb₁ id' b₁ hget hterm => ?_⟩
    split_ifs at hget with hid
    · cases hget
      exact hb₁ hterm
    · exact hn id' b₁ hget hterm
  have hempty : b'.activeMembers = [] ↔ ∀ x ∈ b.activeMembers, x.requestId = rid := by
    rw [hact, List.eq_nil_iff_forall_not_mem]
    exact forall_congr' fun x => by rw [hmem x]; tauto
  rw [hloc]
  by_cases hf : status = .failed
  · rw [hempty]
    simp only [hf, forall_const, FailsAlone, hbind, Option.mem_def, Option.some.injEq, forall_eq']
    by_cases hterm : b.state ∈ batchTerminalStates
    · refine iff_of_true (fun _ x hx => ?_) (Or.inl hterm)
      simp [hn id b hh.batch hterm] at hx
    · have hcl : b.closes s' status := by simpa [Batch.closes, hf] using hterm
      have : b'.state ∈ batchTerminalStates := by rw [hstate, if_pos hcl, if_pos hf]; decide
      simp [this, hterm]
  · refine iff_of_true (fun hterm => ?_) (fun h => absurd h hf)
    rw [hstate] at hterm
    split_ifs at hterm with hcl
    · have h0 : s'.activeCount = 0 := by
        unfold Batch.closes at hcl
        rw [if_neg hf] at hcl
        exact hcl.1
      rw [hact, ← List.length_eq_zero_iff, Batch.length_activeMembers, activeMemberCount_withMembers]
      exact h0
    · rw [hempty]
      intro x hx
      simp [hn id b hh.batch hterm] at hx

/-- **One step.** From a state without a leak, a step leaks exactly when it does not retire cleanly. -/
theorem noTerminalActive_step (h : Inv cfg e) (hn : NoTerminalActive e) (o : EngineOp) :
    NoTerminalActive (e.step cfg o) ↔ RetiresCleanly e o := by
  have hret : ∀ rid status reason now, status ≠ MemberStatus.active →
      (NoTerminalActive ((retireRequest rid status reason now).final e) ↔ (status = .failed → FailsAlone e rid)) := by
    intro rid status reason now hst
    rcases retireRequest_cases h rid status reason now with ⟨hnone, r, hrun⟩ | ⟨id, b, s, m, r, events, hh, hrun⟩
    · rw [EngineM.final_ok hrun]
      exact iff_of_true hn fun _ => by simp [FailsAlone, hnone]
    · rw [EngineM.final_ok hrun]
      exact noTerminalActive_retired h hn hh hst reason now events
  cases o with
  | placeSelected inj now item =>
    refine iff_of_true ?_ trivial
    rcases placeSelected_cases h inj now item with ⟨d, events, hrun, -⟩ | ⟨err, events, hrun, -⟩ |
      ⟨batch, e₀, id, b, s, reason, events, -, ht, hj, hrun⟩
    · rw [ContinuousBatchEngine.step, EngineM.final_ok hrun]
      exact hn
    · rw [ContinuousBatchEngine.step, EngineM.final_error hrun]
      exact hn
    · rw [ContinuousBatchEngine.step, EngineM.final_ok hrun, NoTerminalActive.joined (ht.inv h) hj]
      exact (NoTerminalActive.target h ht).2 hn
  | completeRequest now rid => exact (hret rid .completed _ now (by decide)).trans (by simp [RetiresCleanly])
  | failRequest now rid reason => exact (hret rid .failed reason now (by decide)).trans (by simp [RetiresCleanly])
  | cancelRequest now rid => exact (hret rid .cancelled _ now (by decide)).trans (by simp [RetiresCleanly])

/-! ## What follows for the count -/

theorem sum_filter_of_zero {α : Type*} {p : α → Prop} [DecidablePred p] {f : α → ℕ} {l : List α}
    (h : ∀ x ∈ l, ¬p x → f x = 0) : ((l.filter fun x => p x).map f).sum = (l.map f).sum := by
  induction l with
  | nil => rfl
  | cons x l ih =>
    have ih' := ih fun y hy => h y (List.mem_cons_of_mem _ hy)
    by_cases hp : p x
    · simp [hp, ih']
    · simp [hp, ih', h x List.mem_cons_self hp]

theorem Inv.counted (h : Inv cfg e) (hn : NoTerminalActive e) : e.globalActiveRequestCount = e.openActiveCount := by
  have hzero : ∀ b ∈ e.batches.values, ¬b.isOpen → b.activeMemberCount = 0 := by
    intro b hb hno
    obtain ⟨id, hb⟩ := Dict.mem_values.1 hb
    obtain ⟨s, -, hbi⟩ := h.batch hb
    rw [hbi.isOpen_iff_not_terminal, not_not] at hno
    rw [← b.length_activeMembers, hn id b hb hno, List.length_nil]
  calc e.globalActiveRequestCount = (e.batches.values.map Batch.activeMemberCount).sum := by
        refine Dict.sum_values_congr fun id => ?_
        cases hs : e.sets.get? id with
        | none =>
          cases hb : e.batches.get? id with
          | none => rfl
          | some b =>
            obtain ⟨s, hs', -⟩ := h.batch hb
            simp [hs] at hs'
        | some s =>
          obtain ⟨b, hb⟩ := h.set hs
          simp [hb, (h.setOf hb hs).activeCount]
    _ = e.openActiveCount := (sum_filter_of_zero hzero).symm

theorem isActive_step_of_retires (h : Inv cfg e) {o : EngineOp} {rid : UUID} (ho : o.retires = some rid) (r : UUID) :
    (e.step cfg o).isActive r ↔ e.isActive r ∧ r ≠ rid := by
  cases o with
  | placeSelected inj now item => simp [EngineOp.retires] at ho
  | completeRequest now rid' =>
    obtain rfl : rid' = rid := by simpa [EngineOp.retires] using ho
    exact isActive_retireRequest h rid' (by decide) _ now r
  | failRequest now rid' reason =>
    obtain rfl : rid' = rid := by simpa [EngineOp.retires] using ho
    exact isActive_retireRequest h rid' (by decide) reason now r
  | cancelRequest now rid' =>
    obtain rfl : rid' = rid := by simpa [EngineOp.retires] using ho
    exact isActive_retireRequest h rid' (by decide) _ now r

/-- after a run of retirements, the requests still ACTIVE are those ACTIVE before that none of them concerned -/
theorem isActive_run_of_retires (h : Inv cfg e) {ops : List EngineOp} (hops : ∀ o ∈ ops, o.retires ≠ none) {r : UUID}
    (ha : (run (ContinuousBatchEngine.step cfg) e ops).isActive r) :
    e.isActive r ∧ ∀ o ∈ ops, o.retires ≠ some r := by
  induction ops generalizing e with
  | nil => exact ⟨ha, by simp⟩
  | cons o ops ih =>
    obtain ⟨rid, ho⟩ := Option.ne_none_iff_exists'.1 (hops o List.mem_cons_self)
    obtain ⟨ha', hops'⟩ := ih (step_inv h o) (fun o' ho' => hops o' (List.mem_cons_of_mem _ ho')) ha
    obtain ⟨hact, hne⟩ := (isActive_step_of_retires h ho r).1 ha'
    refine ⟨hact, fun o' ho' => ?_⟩
    rcases List.mem_cons.1 ho' with rfl | ho'
    · rw [ho]
      exact fun hc => hne (Option.some.inj hc).symm
    · exact hops' o' ho'

theorem Inv.noCapacityLeak (h : Inv cfg e) (hn : NoTerminalActive e) : NoCapacityLeak cfg e := by
  refine ⟨hn, h.counted hn, fun ops hops hcover => ?_⟩
  rw [(Core.run_inv (I := Inv cfg) (fun _ o h => step_inv h o) ops h).globalActiveRequestCount_eq_zero]
  intro r ha
  obtain ⟨hact, hnone⟩ := isActive_run_of_retires h hops ha
  obtain ⟨id, b, hb, m, hm, rfl⟩ := isActive_iff.1 hact
  obtain ⟨s, -, hbi⟩ := h.batch hb
  have hopen : b.isOpen := by
    rw [hbi.isOpen_iff_not_terminal]
    intro hterm
    simp [hn id b hb hterm] at hm
  obtain ⟨o, ho, hret⟩ := hcover b (Dict.mem_values.2 ⟨id, hb⟩) hopen m (List.mem_filter.1 hm).1
  exact hnone o ho hret

/-! ## Runs -/

/-- **No capacity leak, exactly when every failure is clean.** For every valid configuration and every run of
placements and retirements: no state the run reaches holds capacity through a terminal batch if and only if each of its
`fail_request` calls leaves no ACTIVE sibling behind in a batch that it closes. -/
theorem no_capacity_leak_iff (cfg : EngineConfig) (ops : List EngineOp) :
    (∀ pre, pre <+: ops → NoCapacityLeak cfg (run (ContinuousBatchEngine.step cfg) ContinuousBatchEngine.init pre)) ↔
      Meets (ContinuousBatchEngine.step cfg) RetiresCleanly ContinuousBatchEngine.init ops := by
  rw [← Core.forall_prefix_iff_meets (I := Inv cfg) (P := NoTerminalActive) (fun _ o h => step_inv h o)
    (fun _ o h hn => noTerminalActive_step h hn o) (inv_init cfg)
    (fun id b hb => by simp [ContinuousBatchEngine.init] at hb) ops]
  exact forall₂_congr fun pre _ => ⟨fun hl => hl.terminal, (run_inv cfg pre).noCapacityLeak⟩

/-- two requests share a batch, and the first of them fails -/
def failOneOfTwo : List EngineOp :=
  [.placeSelected {} 0 (plainItem 1 "m"), .placeSelected {} 1 (plainItem 2 "m"), .failRequest 2 1 "request_failed"]

/-- **The leak.** The sibling of a failed member is counted for ever in a batch that is closed. -/
theorem fail_leaks_sibling :
    ¬NoCapacityLeak smallConfig
      (run (ContinuousBatchEngine.step smallConfig) ContinuousBatchEngine.init failOneOfTwo) :=
  fun h => absurd h.counted (by decide)

end InferencePlatform.Batching
