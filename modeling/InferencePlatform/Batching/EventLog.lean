/-
The event log of the batching engine, read without the engine.

`BatchLog.read` takes an event into what has been read so far: the batches with their members, and which batches were
announced full. `Allowed` says which events can come after it.

- `log_tells`: after every run the log is a sequence of allowed events, and what is read of it are the engine's batches;
- `statistics_read`: the batch statistics can be read off the log, but for the FILLING batches: they are open and not
  announced full, and two runs with the same events can differ in them;
- `request_story`: what is announced of one request are refusals, then at most one admission, then retirements from its
  batch.
-/
import InferencePlatform.Batching.Invariant

namespace InferencePlatform.Batching

open InferencePlatform.Core (Dict Meets firstFree run run_append run_cons run_log run_nil meets_append)

/-! ## Reading -/

/-- a member as its events tell of it -/
structure LoggedMember where
  requestId : UUID
  slotIndex : ℕ
  model : String
  correlationId : String
  status : MemberStatus := .active
  deriving DecidableEq, Repr

inductive LoggedOutcome
  | completed
  | failed (reason : String)
  deriving DecidableEq, Repr

structure LoggedBatch where
  model : String
  members : List LoggedMember := []
  /-- `none` while it is open -/
  outcome : Option LoggedOutcome := none
  deriving DecidableEq, Repr

namespace LoggedBatch

def activeMembers (r : LoggedBatch) : List LoggedMember := r.members.filter fun m => m.status = .active

def active (r : LoggedBatch) : ℕ := r.activeMembers.length

def add (r : LoggedBatch) (m : LoggedMember) : LoggedBatch := { r with members := r.members ++ [m] }

def retire (r : LoggedBatch) (requestId : UUID) (status : MemberStatus) : LoggedBatch :=
  { r with members := r.members.map fun m => if m.requestId = requestId then { m with status } else m }

def close (outcome : LoggedOutcome) (r : LoggedBatch) : LoggedBatch := { r with outcome := some outcome }

end LoggedBatch

structure BatchLog where
  batches : Dict UUID LoggedBatch
  /-- the batches that were announced full -/
  full : List UUID

namespace BatchLog

def empty : BatchLog := ⟨Dict.empty, []⟩

def update (l : BatchLog) (id : UUID) (f : LoggedBatch → LoggedBatch) : BatchLog :=
  { l with batches := l.batches.update id f }

def read (l : BatchLog) : BatchEvent → BatchLog
  | { eventType := .batchCreated, batchId := some id, model := some model, .. } =>
    { l with batches := l.batches.set id { model } }
  | { eventType := .requestAddedToBatch, batchId := some id, requestId := some requestId, model := some model,
      correlationId := some correlationId, extra := some (.slotIndex slotIndex), .. } =>
    l.update id fun r => r.add { requestId, slotIndex, model, correlationId }
  | { eventType := .requestRemovedFromBatch, batchId := some id, requestId := some requestId,
      extra := some (.memberStatus status), .. } => l.update id fun r => r.retire requestId status
  | { eventType := .batchFull, batchId := some id, .. } => { l with full := id :: l.full }
  | { eventType := .batchCompleted, batchId := some id, .. } => l.update id (LoggedBatch.close .completed)
  | { eventType := .batchFailed, batchId := some id, decisionReason := some reason, .. } =>
    l.update id (LoggedBatch.close (.failed reason))
  | _ => l

/-- how many members are ACTIVE in all -/
def active (l : BatchLog) : ℕ := (l.batches.values.map LoggedBatch.active).sum

structure IsOpen (l : BatchLog) (model : String) (id : UUID) (r : LoggedBatch) : Prop where
  batch : l.batches.get? id = some r
  model : r.model = model
  isOpen : r.outcome = none

/-- the request has been announced a member of a batch -/
def Placed (l : BatchLog) (requestId id : UUID) : Prop :=
  ∃ r, l.batches.get? id = some r ∧ ∃ m ∈ r.members, m.requestId = requestId

end BatchLog

/-! ## What can be announced -/

def createdEvent (id : UUID) (model : String) : BatchEvent :=
  { eventType := .batchCreated, batchId := id, model, decisionReason := "new_batch" }

def openedEvent (id : UUID) (model : String) : BatchEvent :=
  { eventType := .batchAdmission, batchId := id, model, decisionReason := "batch_opened" }

def refusedEvent (batchId : Option UUID) (requestId : UUID) (correlationId model reason : String) : BatchEvent :=
  { eventType := .batchAdmission, batchId, requestId, correlationId, model, decisionReason := reason }

inductive Allowed (cfg : BatchAdmissionConfig) (l : BatchLog) : BatchEvent → Prop
  | created {id : UUID} {model : String} (hnew : l.batches.get? id = none) (hmodel : ∀ id' r, ¬l.IsOpen model id' r) :
    Allowed cfg l (createdEvent id model)
  | opened {id : UUID} {model : String} (hfresh : l.batches.get? id = some { model }) :
    Allowed cfg l (openedEvent id model)
  | added {id requestId : UUID} {model correlationId reason : String} {slotIndex : ℕ} {r : LoggedBatch}
    (hopen : l.IsOpen model id r) (hnew : ∀ id', ¬l.Placed requestId id')
    (hslot : slotIndex = firstFree (r.activeMembers.map LoggedMember.slotIndex)) (hroom : r.active < cfg.maxBatchSize)
    (htotal : l.active < cfg.maxActiveRequests)
    (hreason : reason = if r.members = [] then "new_batch" else "batch_has_capacity") :
    Allowed cfg l { eventType := .requestAddedToBatch, batchId := id, requestId, correlationId, model
                    decisionReason := reason, extra := some (.slotIndex slotIndex) }
  | full {id : UUID} {model : String} {r : LoggedBatch} (hopen : l.IsOpen model id r)
    (hfull : r.active = cfg.maxBatchSize) (honce : id ∉ l.full) :
    Allowed cfg l { eventType := .batchFull, batchId := id, model, decisionReason := "max_batch_size_reached" }
  | noSlots {id requestId : UUID} {model correlationId : String} {r : LoggedBatch} (hopen : l.IsOpen model id r)
    (hnew : ∀ id', ¬l.Placed requestId id') (hfull : r.active = cfg.maxBatchSize) :
    Allowed cfg l (refusedEvent id requestId correlationId model "batch_full_no_slots")
  /-- the batch it names is the open batch of the model, if there is one -/
  | bound {batchId : Option UUID} {requestId : UUID} {model correlationId : String}
    (hbatch : ∀ id, batchId = some id ↔ ∃ r, l.IsOpen model id r) (hnew : ∀ id', ¬l.Placed requestId id')
    (htotal : l.active = cfg.maxActiveRequests) :
    Allowed cfg l (refusedEvent batchId requestId correlationId model "max_active_requests_reached")
  | late {id requestId : UUID} {model correlationId : String} {r : LoggedBatch} (hopen : l.IsOpen model id r)
    (hnew : ∀ id', ¬l.Placed requestId id') (hroom : r.active < cfg.maxBatchSize) (honce : id ∉ l.full) :
    Allowed cfg l (refusedEvent id requestId correlationId model "admission_window_closed")
  /-- a member can be retired again -/
  | removed {id : UUID} {reason : String} {status : MemberStatus} {r : LoggedBatch} {m : LoggedMember}
    (hbatch : l.batches.get? id = some r) (hmember : m ∈ r.members) (hmodel : m.model = r.model)
    (hstatus : status ≠ .active) :
    Allowed cfg l { eventType := .requestRemovedFromBatch, batchId := id, requestId := m.requestId
                    correlationId := m.correlationId, model := m.model, decisionReason := reason
                    extra := some (.memberStatus status) }
  | completed {id : UUID} {model : String} {r : LoggedBatch} (hopen : l.IsOpen model id r) (hempty : r.active = 0) :
    Allowed cfg l { eventType := .batchCompleted, batchId := id, model, decisionReason := "all_members_retired"
                    extra := some (.previousState .active) }
  | failed {id : UUID} {model reason : String} {previous : BatchState} {r : LoggedBatch} (hopen : l.IsOpen model id r)
    (hfailed : ∃ m ∈ r.members, m.status = .failed)
    (hprevious : previous = .filling ∧ id ∉ l.full ∨ previous = .active) :
    Allowed cfg l { eventType := .batchFailed, batchId := id, model, decisionReason := reason
                    extra := some (.previousState previous) }

/-! ## What the engine has -/

def BatchMember.logged (m : BatchMember) : LoggedMember :=
  { requestId := m.requestId, slotIndex := m.slotIndex, model := m.model, correlationId := m.correlationId
    status := m.status }

def Batch.logged (b : Batch) : LoggedBatch where
  model := b.context.model
  members := b.members.map BatchMember.logged
  outcome :=
    match b.state with
    | .completed => some .completed
    | .failed => some (.failed (b.context.failureReason.getD ""))
    | _ => none

/-- what has been read are the batches of the engine, and what was announced full is no longer FILLING -/
structure Read (l : BatchLog) (e : ContinuousBatchEngine) : Prop where
  batches : ∀ id, l.batches.get? id = (e.batches.get? id).map Batch.logged
  full : ∀ id ∈ l.full, ∃ b, e.batches.get? id = some b ∧ b.state ≠ .filling

variable {cfg : EngineConfig} {e : ContinuousBatchEngine} {l : BatchLog} {id : UUID} {b : Batch} {s : ActiveRequestSet}
  {item : QueueItem} {now : Time}

theorem logged_activeMembers (b : Batch) : b.logged.activeMembers = b.activeMembers.map BatchMember.logged := by
  rw [LoggedBatch.activeMembers, Batch.logged, List.filter_map]
  rfl

theorem logged_slots (b : Batch) :
    b.logged.activeMembers.map LoggedMember.slotIndex = b.activeMembers.map BatchMember.slotIndex := by
  rw [logged_activeMembers, List.map_map]
  rfl

theorem logged_active (b : Batch) : b.logged.active = b.activeMemberCount := by
  rw [LoggedBatch.active, logged_activeMembers, List.length_map, b.length_activeMembers]

theorem logged_open (h : BatchInv cfg id b s) : b.logged.outcome = none ↔ b.isOpen := by
  rw [h.isOpen_iff]
  have hst := h.state
  unfold Batch.logged
  cases hb : b.state <;> simp_all

theorem logged_withMember (hb : BatchInv cfg id b s) (hnew : s.byId.get? item.requestId = none) :
    (b.withMembers (s.insert (newMember b item now))).logged = b.logged.add (newMember b item now).logged := by
  have hmembers := allMembers_insert (m := newMember b item now) hnew
  rw [← hb.members] at hmembers
  simp only [Batch.logged, Batch.withMembers, hmembers, List.map_append]
  rfl

/-- to become ACTIVE is not announced -/
theorem logged_afterAdmission (cfg : BatchAdmissionConfig) (b : Batch) (now : Time) :
    (b.afterAdmission cfg now).logged = b.logged := by
  unfold Batch.afterAdmission
  split_ifs with ha
  · have hst : b.context.state = .filling := ha.1
    simp [Batch.logged, Batch.state, hst]
  · rfl

theorem allMembers_withStatus (hb : BatchInv cfg id b s) {m : BatchMember} {rid : UUID} (hm : s.byId.get? rid = some m)
    (status : MemberStatus) : (s.withStatus m rid status).allMembers =
      s.allMembers.map fun m' => if m'.requestId = rid then { m' with status } else m' := by
  obtain ⟨l₁, l₂, hitems, hset⟩ := Dict.items_split hm
  have hkey : ∀ k m', (k, m') ∈ s.byId.items → m'.requestId = k :=
    fun k m' hmem => (hb.keyed k m' (Dict.mem_items.1 hmem)).1
  have hnodup := s.byId.nodup
  rw [hitems, List.map_append, List.map_cons, List.nodup_middle, List.nodup_cons, List.mem_append, not_or] at hnodup
  rw [hitems] at hkey
  have hother : ∀ p ∈ l₁ ++ l₂, (if p.2.requestId = rid then { p.2 with status } else p.2) = p.2 := by
    intro p hp
    have hmem : p ∈ l₁ ++ (rid, m) :: l₂ := by
      rcases List.mem_append.1 hp with hp | hp
      · exact List.mem_append_left _ hp
      · exact List.mem_append_right _ (List.mem_cons_of_mem _ hp)
    refine if_neg fun heq => ?_
    rw [hkey p.1 p.2 hmem] at heq
    rcases List.mem_append.1 hp with hp | hp
    · exact hnodup.1.1 (List.mem_map.2 ⟨p, hp, heq⟩)
    · exact hnodup.1.2 (List.mem_map.2 ⟨p, hp, heq⟩)
  have hmine : m.requestId = rid := hkey rid m (List.mem_append_right _ List.mem_cons_self)
  simp only [ActiveRequestSet.withStatus, ActiveRequestSet.allMembers, Dict.values, hitems, hset, List.map_append,
    List.map_cons, List.map_map, if_pos hmine]
  congr 1
  · exact List.map_congr_left fun p hp => (hother p (List.mem_append_left _ hp)).symm
  · congr 1
    exact List.map_congr_left fun p hp => (hother p (List.mem_append_right _ hp)).symm

theorem logged_withStatus (hb : BatchInv cfg id b s) {m : BatchMember} {rid : UUID} (hm : s.byId.get? rid = some m)
    (status : MemberStatus) : (b.withMembers (s.withStatus m rid status)).logged = b.logged.retire rid status := by
  simp only [Batch.logged, Batch.withMembers, allMembers_withStatus hb hm, hb.members, LoggedBatch.retire, List.map_map]
  refine congrArg (fun members => LoggedBatch.mk b.context.model members _) (List.map_congr_left fun m' _ => ?_)
  by_cases hid : m'.requestId = rid
  · simp [BatchMember.logged, hid]
  · simp [BatchMember.logged, hid]

theorem logged_afterRetirement (b : Batch) (s : ActiveRequestSet) (status : MemberStatus)
    (reason : String) (now : Time) :
    (b.afterRetirement s status reason now).logged =
      if b.closes s status then b.logged.close (if status = .failed then .failed reason else .completed)
      else b.logged := by
  unfold Batch.afterRetirement
  split_ifs <;> rfl

namespace Read

theorem isOpen_iff (h : Inv cfg e) (hr : Read l e) {model : String} {r : LoggedBatch} :
    l.IsOpen model id r ↔ ∃ b, e.batches.get? id = some b ∧ b.context.model = model ∧ b.isOpen ∧ b.logged = r := by
  constructor
  · rintro ⟨hbatch, hmodel, hopen⟩
    rw [hr.batches, Option.map_eq_some_iff] at hbatch
    obtain ⟨b, hb, rfl⟩ := hbatch
    obtain ⟨s, -, hi⟩ := h.batch hb
    exact ⟨b, hb, hmodel, (logged_open hi).1 hopen, rfl⟩
  · rintro ⟨b, hb, hmodel, hopen, rfl⟩
    obtain ⟨s, -, hi⟩ := h.batch hb
    exact ⟨by rw [hr.batches, hb]; rfl, hmodel, (logged_open hi).2 hopen⟩

theorem placed_iff (h : Inv cfg e) (hr : Read l e) {rid : UUID} :
    l.Placed rid id ↔ e.requestToBatch.get? rid = some id := by
  rw [h.request]
  constructor
  · rintro ⟨r, hbatch, m, hm, hid⟩
    rw [hr.batches, Option.map_eq_some_iff] at hbatch
    obtain ⟨b, hb, rfl⟩ := hbatch
    obtain ⟨s, hs, hi⟩ := h.batch hb
    obtain ⟨m', hm', rfl⟩ := List.mem_map.1 hm
    rw [hi.members] at hm'
    obtain ⟨k, hk⟩ := Dict.mem_values.1 hm'
    exact ⟨s, m', hs, by rwa [← hid, show m'.logged.requestId = k from (hi.keyed k m' hk).1]⟩
  · rintro ⟨s, m, hs, hm⟩
    obtain ⟨b, hb⟩ := h.set hs
    have hi := h.setOf hb hs
    have hmem : m ∈ b.members := hi.members ▸ Dict.mem_values.2 ⟨rid, hm⟩
    exact ⟨b.logged, by rw [hr.batches, hb]; rfl, m.logged, List.mem_map_of_mem hmem, (hi.keyed rid m hm).1⟩

theorem active_eq (h : Inv cfg e) (hr : Read l e) : l.active = e.globalActiveRequestCount := by
  refine Dict.sum_values_congr fun id => ?_
  rw [hr.batches]
  cases hb : e.batches.get? id with
  | none =>
    cases hs : e.sets.get? id with
    | none => rfl
    | some s =>
      obtain ⟨b, hb'⟩ := h.set hs
      rw [hb] at hb'
      cases hb'
  | some b =>
    obtain ⟨s, hs, hi⟩ := h.batch hb
    rw [hs, Option.map_some, Option.map_some, Option.map_some, logged_active, hi.activeCount]

/-- a new batch is announced, and that it is open -/
theorem opened (h : Inv cfg e) (hr : Read l e) {model : String}
    (hfree : e.activeBatchByModel.get? model = none) (now : Time) :
    let new := [createdEvent e.uuids model, openedEvent e.uuids model]
    Meets BatchLog.read (Allowed cfg) l new ∧ Read (run BatchLog.read l new) (e.opened cfg model now) := by
  intro new
  have hread : run BatchLog.read l new = { l with batches := l.batches.set e.uuids { model } } := rfl
  have hnone : l.batches.get? e.uuids = none := by rw [hr.batches, h.unused.1]; rfl
  refine ⟨⟨.created hnone fun id' r hopen => ?_, .opened (Dict.get?_set_self _ _ _), trivial⟩, ?_⟩
  · obtain ⟨b, hb, hmodel, hopen, -⟩ := (hr.isOpen_iff h).1 hopen
    rw [(h.pointer model id').2 ⟨b, hb, hmodel, hopen⟩] at hfree
    cases hfree
  · rw [hread]
    constructor
    · intro id
      simp only [ContinuousBatchEngine.opened, Dict.get?_set]
      split_ifs
      · rfl
      · exact hr.batches id
    · intro id hfull
      obtain ⟨b, hb, hst⟩ := hr.full id hfull
      have hne : id ≠ e.uuids := by
        rintro rfl
        rw [h.unused.1] at hb
        cases hb
      exact ⟨b, by rw [ContinuousBatchEngine.opened, Dict.get?_set_ne _ _ hne, hb], hst⟩

/-- a batch that is FILLING was not announced full -/
theorem not_full (hr : Read l e) (hb : e.batches.get? id = some b) (hst : b.state = .filling) : id ∉ l.full := by
  intro hfull
  obtain ⟨b', hb', hst'⟩ := hr.full id hfull
  rw [hb] at hb'
  cases hb'
  exact hst' hst

/-- the request is announced a member, and the batch as full if it is full now -/
theorem joined (h : Inv cfg e) (hr : Read l e) (hj : Joins cfg now item e id b s) {reason : String}
    (hreason : reason = if b.members = [] then "new_batch" else "batch_has_capacity") (events : List BatchEvent) :
    let new := joinEvents cfg id b s item now reason
    Meets BatchLog.read (Allowed cfg) l new ∧ Read (run BatchLog.read l new) (e.joined cfg id b s item now events) := by
  intro new
  have hi := h.setOf hj.batch hj.set
  have hnew := hj.notMember h
  set b' := b.withMembers (s.insert (newMember b item now)) with hb'
  have hopen : l.IsOpen item.inferenceRequest.model id b.logged :=
    (hr.isOpen_iff h).2 ⟨b, hj.batch, hj.model, hj.isOpen, rfl⟩
  have hlogged : b'.logged = b.logged.add (newMember b item now).logged := logged_withMember hi hnew
  have hcount : b'.activeMemberCount = b.activeMemberCount + 1 := activeMemberCount_withMember hi now hnew
  have hadded : Allowed cfg l (addedEvent b item id reason) := by
    refine .added hopen (fun id' hplaced => ?_) (logged_slots b ▸ rfl) (logged_active b ▸ hj.room)
      (hr.active_eq h ▸ hj.total) ?_
    · have hbatched := (hr.placed_iff h).1 hplaced
      rw [hj.unbatched] at hbatched
      cases hbatched
    · rw [hreason]
      simp [Batch.logged]
  set l₁ := BatchLog.read l (addedEvent b item id reason) with hl₁
  have hbatches : ∀ id', l₁.batches.get? id' =
      ((e.batches.set id (b'.afterAdmission cfg now)).get? id').map Batch.logged := by
    intro id'
    have hread : l₁ = l.update id fun r => r.add (newMember b item now).logged := rfl
    rw [hread, BatchLog.update, Dict.get?_update, Dict.get?_set]
    split_ifs with hid
    · rw [hr.batches, hj.batch, Option.map_some, Option.map_some, Option.map_some, logged_afterAdmission, hlogged]
    · exact hr.batches id'
  have hstate : b'.state ≠ .filling ∨ cfg.maxBatchSize ≤ b'.activeMemberCount →
      (b'.afterAdmission cfg now).state ≠ .filling := by
    intro hor
    rw [Batch.afterAdmission_state]
    split_ifs with ha
    · decide
    · exact fun hst => ha ⟨hst, Or.inl (hor.resolve_left fun hne => hne hst)⟩
  have hfull : ∀ id' ∈ l.full, ∃ b₁, (e.batches.set id (b'.afterAdmission cfg now)).get? id' = some b₁ ∧
      b₁.state ≠ .filling := by
    intro id' hid'
    obtain ⟨b₁, hb₁, hst⟩ := hr.full id' hid'
    rw [Dict.get?_set]
    split_ifs with hid
    · rw [hid, hj.batch] at hb₁
      cases hb₁
      exact ⟨_, rfl, hstate (Or.inl hst)⟩
    · exact ⟨b₁, hb₁, hst⟩
  by_cases hfills : b'.state = .filling ∧ cfg.maxBatchSize ≤ b'.activeMemberCount
  · have hnews : new = [addedEvent b item id reason, { eventType := .batchFull, batchId := id, model := b.context.model
                                                       decisionReason := "max_batch_size_reached" }] :=
      congrArg (addedEvent b item id reason :: ·) (if_pos hfills)
    have hopen₁ : l₁.IsOpen b.context.model id b'.logged := by
      refine ⟨?_, rfl, hlogged ▸ hopen.isOpen⟩
      rw [hbatches, Dict.get?_set_self, Option.map_some, logged_afterAdmission]
    have hsize : b'.logged.active = cfg.maxBatchSize := by
      rw [logged_active]
      exact le_antisymm (hcount ▸ hj.room) hfills.2
    rw [hnews]
    refine ⟨⟨hadded, .full hopen₁ hsize (hr.not_full hj.batch hfills.1), trivial⟩, hbatches, ?_⟩
    intro id' hid'
    rcases List.mem_cons.1 hid' with rfl | hid'
    · exact ⟨_, Dict.get?_set_self _ _ _, hstate (Or.inr hfills.2)⟩
    · exact hfull id' hid'
  · have hnews : new = [addedEvent b item id reason] := congrArg (addedEvent b item id reason :: ·) (if_neg hfills)
    rw [hnews]
    exact ⟨⟨hadded, trivial⟩, hbatches, hfull⟩

/-- the member is announced as retired, and the batch as closed if that closes it -/
theorem retired (h : Inv cfg e) (hr : Read l e) {rid : UUID} {m : BatchMember} (hh : Holds e rid id b s m)
    {status : MemberStatus} (hst : status ≠ .active) (reason : String) (now : Time) (events : List BatchEvent) :
    let new := retireEvents id b (s.withStatus m rid status) m rid status reason
    Meets BatchLog.read (Allowed cfg) l new ∧
      Read (run BatchLog.read l new) (e.retired id b (s.withStatus m rid status) status reason now events) := by
  intro new
  have hi := h.setOf hh.batch hh.set
  set s' := s.withStatus m rid status with hs'
  set b' := b.withMembers s' with hb'
  have hlogged : b'.logged = b.logged.retire rid status := logged_withStatus hi hh.member status
  have hrid : m.requestId = rid := (hi.keyed rid m hh.member).1
  have hbatch : l.batches.get? id = some b.logged := by rw [hr.batches, hh.batch]; rfl
  have hmember : m.logged ∈ b.logged.members :=
    List.mem_map_of_mem (hi.members ▸ Dict.mem_values.2 ⟨rid, hh.member⟩)
  have hremoved : Allowed cfg l (removedEvent m id rid status reason) :=
    hrid ▸ .removed hbatch hmember (hi.keyed rid m hh.member).2 hst
  set l₁ := BatchLog.read l (removedEvent m id rid status reason) with hl₁
  have hread : l₁ = l.update id fun r => r.retire rid status := rfl
  have hbatch₁ : l₁.batches.get? id = some b'.logged := by
    rw [hread, BatchLog.update, Dict.get?_update, if_pos rfl, hbatch, Option.map_some, hlogged]
  have hother : ∀ id' ≠ id, l₁.batches.get? id' = (e.batches.get? id').map Batch.logged := by
    intro id' hid
    rw [hread, BatchLog.update, Dict.get?_update, if_neg hid, hr.batches]
  have hfull : ∀ id' ∈ l.full, ∃ b₁, (e.batches.set id (b'.afterRetirement s' status reason now)).get? id' = some b₁ ∧
      b₁.state ≠ .filling := by
    intro id' hid'
    obtain ⟨b₁, hb₁, hst₁⟩ := hr.full id' hid'
    rw [Dict.get?_set]
    split_ifs with hid
    · rw [hid, hh.batch] at hb₁
      cases hb₁
      refine ⟨_, rfl, ?_⟩
      rw [Batch.afterRetirement_state]
      split_ifs
      · decide
      · decide
      · exact hst₁
    · exact ⟨b₁, hb₁, hst₁⟩
  by_cases hcl : b'.closes s' status
  · have hopen : b.isOpen := by
      rw [hi.isOpen_iff_not_terminal]
      unfold Batch.closes at hcl
      split_ifs at hcl
      · exact hcl
      · rw [show b.state = .active from hcl.2]
        decide
    have hopen₁ : l₁.IsOpen b.context.model id b'.logged := ⟨hbatch₁, rfl, (logged_open hi).2 hopen⟩
    have hclosed : ∀ outcome, (if status = .failed then LoggedOutcome.failed reason else .completed) = outcome →
        Read (l₁.update id (LoggedBatch.close outcome)) (e.retired id b s' status reason now events) := by
      rintro outcome rfl
      refine ⟨fun id' => ?_, hfull⟩
      rw [BatchLog.update, ContinuousBatchEngine.retired, Dict.get?_update, Dict.get?_set]
      by_cases hid : id' = id
      · rw [if_pos hid, if_pos hid, hbatch₁, Option.map_some, Option.map_some, ← hb',
          logged_afterRetirement, if_pos hcl]
      · rw [if_neg hid, if_neg hid, hother id' hid]
    by_cases hf : status = .failed
    · have hnews : new = [removedEvent m id rid status reason,
          { eventType := .batchFailed, batchId := id, model := b.context.model, decisionReason := reason
            extra := some (.previousState b.state) }] := by
        refine congrArg (removedEvent m id rid status reason :: ·) ?_
        rw [closeEvents, if_pos hcl, if_pos hf]
        rfl
      have hfailed : ∃ m' ∈ b'.logged.members, m'.status = .failed := by
        rw [hlogged]
        refine ⟨{ m.logged with status }, List.mem_map.2 ⟨m.logged, hmember, ?_⟩, hf⟩
        rw [if_pos (show m.logged.requestId = rid from hrid)]
      have hprevious : b.state = .filling ∧ id ∉ l₁.full ∨ b.state = .active := by
        rcases hi.isOpen_iff.1 hopen with hfilling | hactive
        · exact Or.inl ⟨hfilling, hr.not_full hh.batch hfilling⟩
        · exact Or.inr hactive
      rw [hnews]
      exact ⟨⟨hremoved, .failed hopen₁ hfailed hprevious, trivial⟩, hclosed _ (if_pos hf)⟩
    · have hempty : s'.activeCount = 0 ∧ b'.state = .active := by simpa [Batch.closes, hf] using hcl
      have hnews : new = [removedEvent m id rid status reason,
          { eventType := .batchCompleted, batchId := id, model := b.context.model,
            decisionReason := "all_members_retired"
            extra := some (.previousState .active) }] := by
        refine congrArg (removedEvent m id rid status reason :: ·) ?_
        rw [closeEvents, if_pos hcl, if_neg hf, hempty.2]
        rfl
      have hnone : b'.logged.active = 0 := by rw [logged_active, hb', activeMemberCount_withMembers, hempty.1]
      rw [hnews]
      exact ⟨⟨hremoved, .completed hopen₁ hnone, trivial⟩, hclosed _ (if_neg hf)⟩
  · have hnews : new = [removedEvent m id rid status reason] :=
      congrArg (removedEvent m id rid status reason :: ·) (if_neg hcl)
    rw [hnews]
    refine ⟨⟨hremoved, trivial⟩, fun id' => ?_, hfull⟩
    simp only [ContinuousBatchEngine.retired, Dict.get?_set, run_cons, run_nil]
    split_ifs with hid
    · rw [hid, ← hl₁, hbatch₁, Option.map_some, ← hb', logged_afterRetirement, if_neg hcl]
    · exact hother id' hid


end Read

/-! ## What an operation announces -/

/-- what is announced of a request that is not admitted -/
inductive Refusal (cfg : BatchAdmissionConfig) (item : QueueItem) (now : Time) (e : ContinuousBatchEngine) :
    List BatchEvent → Prop
  | silent : Refusal cfg item now e []
  | full {b : Batch} (hfind : e.findAdmittableBatch cfg item.inferenceRequest.model now = none)
    (hfull : e.activeFullBatch cfg item.inferenceRequest.model = some b) :
    Refusal cfg item now e
      [refusedEvent b.batchId item.requestId item.requestContext.traceId item.inferenceRequest.model
      "batch_full_no_slots"]
  | rejected {batch : Option Batch} (hfind : e.findAdmittableBatch cfg item.inferenceRequest.model now = batch)
    (hfull : batch = none → e.activeFullBatch cfg item.inferenceRequest.model = none)
    (hreject : (evaluateBatchAdmission batch e.globalActiveRequestCount cfg now).decision = .reject) :
    Refusal cfg item now e [refusedEvent (batch.map Batch.batchId) item.requestId item.requestContext.traceId
      item.inferenceRequest.model (evaluateBatchAdmission batch e.globalActiveRequestCount cfg now).reason]

/-- before the tables change -/
theorem checkSelected_emits (cfg : BatchAdmissionConfig) (inj : FailureInjectionConfig) (now : Time) (item : QueueItem)
    (e : ContinuousBatchEngine) :
    (∃ d new, EStateM.run (checkSelected cfg inj now item) e = .ok (.error d) (e.logged (e.events ++ new)) ∧
      Refusal cfg item now e new ∧ (new ≠ [] → e.requestToBatch.get? item.requestId = none)) ∨
    ∃ batch, EStateM.run (checkSelected cfg inj now item) e =
      .ok (.ok (batch, (evaluateBatchAdmission batch e.globalActiveRequestCount cfg now).reason)) e ∧
      Admits cfg inj now item e batch := by
  simp only [checkSelected, EStateM.run_bind, EStateM.run_get]
  by_cases hinj : inj.isActive .batchAdmissionFailure (some item.requestId) = true
  · simp only [if_pos hinj, EStateM.run_pure]
    exact Or.inl ⟨_, [], by rw [List.append_nil]; rfl, .silent, fun h => absurd rfl h⟩
  simp only [if_neg hinj]
  by_cases hin : e.requestToBatch.contains item.requestId = true
  · simp only [if_pos hin, EStateM.run_pure]
    exact Or.inl ⟨_, [], by rw [List.append_nil]; rfl, .silent, fun h => absurd rfl h⟩
  have hnone : e.requestToBatch.get? item.requestId = none := by simpa [Dict.contains] using hin
  simp only [if_neg hin]
  cases hfull : (if (e.findAdmittableBatch cfg item.inferenceRequest.model now).isNone then
      e.activeFullBatch cfg item.inferenceRequest.model else none) with
  | some full =>
    simp only [EStateM.run_bind, emit_run, EStateM.run_pure]
    split_ifs at hfull with hfind
    exact Or.inl ⟨_, _, rfl, .full (Option.isNone_iff_eq_none.1 hfind) hfull, fun _ => hnone⟩
  | none =>
    have hnotFull : e.findAdmittableBatch cfg item.inferenceRequest.model now = none →
        e.activeFullBatch cfg item.inferenceRequest.model = none := by
      intro hfind
      simpa [hfind] using hfull
    simp only
    split_ifs with hreject
    · simp only [EStateM.run_bind, emit_run, EStateM.run_pure]
      exact Or.inl ⟨_, _, rfl, .rejected rfl hnotFull hreject, fun _ => hnone⟩
    · refine Or.inr ⟨_, rfl, by simpa using hinj, hnone, rfl, hnotFull, ?_⟩
      generalize (evaluateBatchAdmission _ _ _ _).decision = d at hreject
      cases d with
      | accept => rfl
      | reject => exact absurd rfl hreject

theorem Inv.activeFullBatch_eq_some (h : Inv cfg e) {model : String} (hfull : e.activeFullBatch cfg model = some b) :
    ∃ id, e.batches.get? id = some b ∧ b.context.model = model ∧ b.isOpen ∧ b.activeMemberCount = cfg.maxBatchSize := by
  simp only [ContinuousBatchEngine.activeFullBatch, Option.bind_eq_bind, Option.bind_eq_some_iff] at hfull
  obtain ⟨id, hid, b', hb', hfull⟩ := hfull
  split_ifs at hfull with hc
  cases hfull
  obtain ⟨b'', hb'', hmodel, hopen⟩ := (h.pointer _ _).1 hid
  rw [hb'] at hb''
  cases hb''
  obtain ⟨s, -, hi⟩ := h.batch hb'
  exact ⟨id, hb', hmodel, hopen, le_antisymm hi.cap hc.2⟩

/-- the batch found is the open batch of the model, if none was found full -/
theorem Inv.findAdmittableBatch_open (h : Inv cfg e) (hr : Read l e) {model : String} {batch : Option Batch}
    (hfind : e.findAdmittableBatch cfg model now = batch) (hfull : batch = none → e.activeFullBatch cfg model = none)
    (id : UUID) : batch.map Batch.batchId = some id ↔ ∃ r, l.IsOpen model id r := by
  constructor
  · intro hid
    obtain ⟨b, rfl, hbid⟩ := Option.map_eq_some_iff.1 hid
    obtain ⟨id', hb, hmodel, hopen, -⟩ := (h.findAdmittableBatch_eq_some now).1 hfind
    obtain ⟨s, -, hi⟩ := h.batch hb
    obtain rfl : id' = id := hi.id.symm.trans hbid
    exact ⟨b.logged, (hr.isOpen_iff h).2 ⟨b, hb, hmodel, hopen, rfl⟩⟩
  · rintro ⟨r, hopen⟩
    obtain ⟨b, hb, hmodel, hopen, -⟩ := (hr.isOpen_iff h).1 hopen
    have hpointer := (h.pointer model id).2 ⟨b, hb, hmodel, hopen⟩
    cases batch with
    | none =>
      rw [h.pointer_eq_none hfind (hfull rfl)] at hpointer
      cases hpointer
    | some b' =>
      obtain ⟨id', hb', hmodel', hopen', -⟩ := (h.findAdmittableBatch_eq_some now).1 hfind
      rw [(h.pointer model id').2 ⟨b', hb', hmodel', hopen'⟩] at hpointer
      obtain ⟨s, -, hi⟩ := h.batch hb'
      rw [Option.map_some, show b'.batchId = id' from hi.id, hpointer]

/-- an announced refusal tells the truth, and takes nothing into what was read -/
theorem Read.refused (h : Inv cfg e) (hr : Read l e) {new : List BatchEvent} (href : Refusal cfg item now e new)
    (hnone : new ≠ [] → e.requestToBatch.get? item.requestId = none) :
    Meets BatchLog.read (Allowed cfg) l new ∧ run BatchLog.read l new = l := by
  have hunplaced : new ≠ [] → ∀ id', ¬l.Placed item.requestId id' := by
    intro hne id' hplaced
    rw [(hr.placed_iff h).1 hplaced] at hnone
    cases hnone hne
  cases href with
  | silent => exact ⟨trivial, rfl⟩
  | @full b hfind hfull =>
    obtain ⟨id, hb, hmodel, hopen, hsize⟩ := h.activeFullBatch_eq_some hfull
    obtain ⟨s, hs, hi⟩ := h.batch hb
    have hid : b.batchId = id := hi.id
    refine ⟨⟨?_, trivial⟩, rfl⟩
    rw [hid]
    exact .noSlots ((hr.isOpen_iff h).2 ⟨b, hb, hmodel, hopen, rfl⟩) (hunplaced (List.cons_ne_nil _ _))
      (logged_active b ▸ hsize)
  | @rejected batch hfind hfull hreject =>
    have hnew := hunplaced (List.cons_ne_nil _ _)
    refine ⟨⟨?_, trivial⟩, rfl⟩
    by_cases htotal : cfg.maxActiveRequests ≤ e.globalActiveRequestCount
    · have hreason : (evaluateBatchAdmission batch e.globalActiveRequestCount cfg now).reason =
          "max_active_requests_reached" := by
        unfold evaluateBatchAdmission
        rw [if_pos htotal]
      rw [hreason]
      exact .bound (h.findAdmittableBatch_open hr hfind hfull) hnew
        ((hr.active_eq h).trans (le_antisymm h.total htotal))
    · cases batch with
      | none => simp [evaluateBatchAdmission, htotal] at hreject
      | some b =>
        obtain ⟨id, hb, hmodel, hopen, hroom⟩ := (h.findAdmittableBatch_eq_some now).1 hfind
        obtain ⟨s, hs, hi⟩ := h.batch hb
        have hid : b.batchId = id := hi.id
        have hlate : b.state = .filling ∧ b.context.admissionWindowEnd < now := by
          by_contra hopenWindow
          simp [evaluateBatchAdmission, htotal, hi.isOpen_iff_not_terminal.1 hopen, not_le.2 hroom,
            hopenWindow] at hreject
        have hreason : (evaluateBatchAdmission (some b) e.globalActiveRequestCount cfg now).reason =
            "admission_window_closed" := by
          simp [evaluateBatchAdmission, batchTerminalStates, htotal, not_le.2 hroom, hlate]
        rw [hreason, Option.map_some, hid]
        exact .late ((hr.isOpen_iff h).2 ⟨b, hb, hmodel, hopen, rfl⟩) hnew (logged_active b ▸ hroom)
          (hr.not_full hb hlate.1)

theorem evaluateBatchAdmission_reason {batch : Option Batch} {n : ℕ}
    (h : (evaluateBatchAdmission batch n cfg now).decision = .accept) :
    (evaluateBatchAdmission batch n cfg now).reason = if batch = none then "new_batch" else "batch_has_capacity" := by
  cases batch with
  | none =>
    rw [if_pos rfl]
    unfold evaluateBatchAdmission at h ⊢
    split_ifs at h ⊢
    · rfl
  | some b =>
    rw [if_neg (Option.some_ne_none b)]
    unfold evaluateBatchAdmission at h ⊢
    dsimp only at h ⊢
    split_ifs at h ⊢
    · rfl

/-- what a placement announces: a refusal, nothing before it raises, or that the request has joined a batch -/
theorem placeSelected_emits (h : Inv cfg e) (inj : FailureInjectionConfig) (now : Time) (item : QueueItem) :
    (∃ d new, EStateM.run (placeSelected cfg inj now item) e = .ok (.rejected d) (e.logged (e.events ++ new)) ∧
      Refusal cfg item now e new ∧ (new ≠ [] → e.requestToBatch.get? item.requestId = none)) ∨
    (∃ err, EStateM.run (placeSelected cfg inj now item) e = .error err e) ∨
    ∃ batch e₀ id b s reason, Target cfg e item.inferenceRequest.model now batch e₀ id b ∧
      Joins cfg now item e₀ id b s ∧
      reason = (if batch = none then "new_batch" else "batch_has_capacity") ∧
      EStateM.run (placeSelected cfg inj now item) e = .ok (addOutcome inj b item id reason)
        (e₀.joined cfg id b s item now (e₀.events ++ joinEvents cfg id b s item now reason)) := by
  rcases checkSelected_emits cfg inj now item e with ⟨d, new, hrun, href, hnone⟩ | ⟨batch, hrun, ha⟩
  · refine Or.inl ⟨d, new, ?_, href, hnone⟩
    simp only [placeSelected, EStateM.run_bind, hrun, EStateM.run_pure]
  · refine Or.inr ?_
    have hreason := evaluateBatchAdmission_reason ha.accept
    simp only [placeSelected, EStateM.run_bind, hrun]
    cases batch with
    | none =>
      by_cases hinj : inj.isActive .batchCreationFailure (some item.requestId) = true
      · refine Or.inl ⟨.injectedFailure .batchCreationFailure inj.message, ?_⟩
        simp only [EStateM.run_bind, maybeRaise, if_pos hinj, EngineM.run_throw]
      · have hfree := h.pointer_eq_none ha.found (ha.notFull rfl)
        have hacc := evaluateBatchAdmission_accept.1 ha.accept
        have hb : (e.opened cfg item.inferenceRequest.model now).batches.get? e.uuids = some _ :=
          Dict.get?_set_self _ _ _
        have hs : (e.opened cfg item.inferenceRequest.model now).sets.get? e.uuids = some _ := Dict.get?_set_self _ _ _
        have htotal := h.globalActiveRequestCount_opened item.inferenceRequest.model now
        refine Or.inr ⟨none, _, _, _, _, _, .fresh hfree, ⟨hb, hs, ha.unbatched, rfl, Or.inl rfl, cfg.maxBatchSize_pos,
          htotal ▸ hacc.1, fun _ => Nat.le_add_right _ _⟩, hreason, ?_⟩
        simp only [EStateM.run_bind, maybeRaise, if_neg hinj, EStateM.run_pure, createBatch_run]
        exact addSelected_emits cfg inj now item _ hb hs rfl (Or.inl rfl)
    | some b =>
      obtain ⟨id, hb, hmodel, hopen, hroom⟩ := (h.findAdmittableBatch_eq_some now).1 ha.found
      obtain ⟨s, hs, hi⟩ := h.batch hb
      have hacc := evaluateBatchAdmission_accept.1 ha.accept
      have hj : Joins cfg now item e id b s := ⟨hb, hs, ha.unbatched, hmodel, hopen, hroom, hacc.1, fun hf => by
        have hwindow := (hacc.2 b rfl).2.2
        simpa [hf] using hwindow⟩
      have hid : b.batchId = id := hi.id
      refine Or.inr ⟨some b, e, id, b, s, _, .existing, hj, hreason, ?_⟩
      simp only [hid]
      exact addSelected_emits cfg inj now item _ hb hs (hj.notMember h) (hi.isOpen_iff.1 hopen)

/-- every batch has had a member -/
def Occupied (e : ContinuousBatchEngine) : Prop := ∀ id b, e.batches.get? id = some b → b.members ≠ []

theorem Occupied.joined (ho : Occupied e) {model : String} {batch : Option Batch} {e₀ : ContinuousBatchEngine}
    (ht : Target cfg e model now batch e₀ id b) (hj : Joins cfg now item e₀ id b s) (h : Inv cfg e)
    (events : List BatchEvent) :
    Occupied (e₀.joined cfg id b s item now events) := by
  intro id' b₁ hb₁
  rw [ContinuousBatchEngine.joined, Dict.get?_set] at hb₁
  split_ifs at hb₁ with hid
  · cases hb₁
    have hnew := hj.notMember (ht.inv h)
    rw [Batch.afterAdmission_members, Batch.withMembers, allMembers_insert (m := newMember b item now) hnew]
    exact List.append_ne_nil_of_right_ne_nil _ (List.cons_ne_nil _ _)
  · cases ht with
    | existing => exact ho id' b₁ hb₁
    | fresh hfree =>
      rw [ContinuousBatchEngine.opened, Dict.get?_set_ne _ _ hid] at hb₁
      exact ho id' b₁ hb₁

theorem Occupied.retired (ho : Occupied e) (h : Inv cfg e) {rid : UUID} {m : BatchMember} (hh : Holds e rid id b s m)
    (status : MemberStatus) (reason : String) (now : Time) (events : List BatchEvent) :
    Occupied (e.retired id b (s.withStatus m rid status) status reason now events) := by
  intro id' b₁ hb₁
  rw [ContinuousBatchEngine.retired, Dict.get?_set] at hb₁
  split_ifs at hb₁ with hid
  · cases hb₁
    have hi := h.setOf hh.batch hh.set
    rw [Batch.afterRetirement_members, Batch.withMembers, allMembers_withStatus hi hh.member, ← hi.members]
    simpa using ho id b hh.batch
  · exact ho id' b₁ hb₁

/-- an operation appends events that are allowed, and that tell of what it has done -/
def Logs (cfg : BatchAdmissionConfig) (l : BatchLog) (e e' : ContinuousBatchEngine) : Prop :=
  ∃ new, e'.events = e.events ++ new ∧ Meets BatchLog.read (Allowed cfg) l new ∧
    Read (run BatchLog.read l new) e' ∧ Occupied e'

theorem placeSelected_log (h : Inv cfg e) (ho : Occupied e) (hr : Read l e) (inj : FailureInjectionConfig) (now : Time)
    (item : QueueItem) : Logs cfg l e ((placeSelected cfg inj now item).final e) := by
  rcases placeSelected_emits h inj now item with ⟨d, new, hrun, href, hnone⟩ | ⟨err, hrun⟩ |
    ⟨batch, e₀, id, b, s, reason, ht, hj, hreason, hrun⟩
  · rw [EngineM.final_ok hrun]
    obtain ⟨hallowed, hread⟩ := hr.refused h href hnone
    refine ⟨new, rfl, hallowed, ?_, ho⟩
    rw [hread]
    exact ⟨hr.batches, hr.full⟩
  · rw [EngineM.final_error hrun]
    exact ⟨[], (List.append_nil _).symm, trivial, hr, ho⟩
  · rw [EngineM.final_ok hrun]
    have hoccupied := ho.joined ht hj h (e₀.events ++ joinEvents cfg id b s item now reason)
    cases ht with
    | existing =>
      have hmembers : reason = if b.members = [] then "new_batch" else "batch_has_capacity" := by
        rw [hreason, if_neg (Option.some_ne_none b), if_neg (ho id b hj.batch)]
      obtain ⟨hallowed, hread⟩ := hr.joined h hj hmembers _
      exact ⟨_, rfl, hallowed, hread, hoccupied⟩
    | fresh hfree =>
      obtain ⟨hopened, hread⟩ := hr.opened h hfree now
      have hmembers : reason = if (freshBatch cfg e.uuids item.inferenceRequest.model now).members = [] then "new_batch"
          else "batch_has_capacity" := hreason
      obtain ⟨hjoined, hread'⟩ := hread.joined (h.opened now hfree) hj hmembers _
      refine ⟨_, List.append_assoc _ _ _, meets_append.2 ⟨hopened, hjoined⟩, ?_, hoccupied⟩
      rw [run_append]
      exact hread'

theorem retireRequest_log (h : Inv cfg e) (ho : Occupied e) (hr : Read l e) (rid : UUID) {status : MemberStatus}
    (hst : status ≠ .active) (reason : String) (now : Time) :
    Logs cfg l e ((retireRequest rid status reason now).final e) := by
  cases hbatched : e.requestToBatch.get? rid with
  | none =>
    rw [EngineM.final_ok (retireRequest_unbatched status reason now hbatched)]
    exact ⟨[], (List.append_nil _).symm, trivial, ⟨hr.batches, hr.full⟩, ho⟩
  | some id =>
    obtain ⟨b, s, m, hh⟩ := h.holds hbatched
    obtain ⟨result, -, hrun⟩ := retireRequest_emits status reason now hh.request hh.batch hh.set hh.member
      (h.setOf hh.batch hh.set).notCreated
    rw [EngineM.final_ok hrun]
    obtain ⟨hallowed, hread⟩ := hr.retired h hh hst reason now _
    exact ⟨_, rfl, hallowed, hread, ho.retired h hh status reason now _⟩

theorem step_log (h : Inv cfg e) (ho : Occupied e) (hr : Read l e) (o : EngineOp) : Logs cfg l e (e.step cfg o) := by
  cases o with
  | placeSelected inj now item => exact placeSelected_log h ho hr inj now item
  | completeRequest now rid => exact retireRequest_log h ho hr rid (by decide) _ now
  | failRequest now rid reason => exact retireRequest_log h ho hr rid (by decide) reason now
  | cancelRequest now rid => exact retireRequest_log h ho hr rid (by decide) _ now

/-- what is read of the log of an engine -/
def ContinuousBatchEngine.readLog (e : ContinuousBatchEngine) : BatchLog := run BatchLog.read .empty e.events

theorem run_read (cfg : EngineConfig) (ops : List EngineOp) :
    let e := run (ContinuousBatchEngine.step cfg) ContinuousBatchEngine.init ops
    Meets BatchLog.read (Allowed cfg) .empty e.events ∧ Read e.readLog e := by
  have hread : Read .empty .init := ⟨fun id => rfl, fun id h => by cases h⟩
  have hoccupied : Occupied .init := fun id b h => by cases h
  obtain ⟨hallowed, hread, -⟩ := run_log (I := Inv cfg) (T := fun l e => Read l e ∧ Occupied e) (A := Allowed cfg)
    (L := ContinuousBatchEngine.events) (fun e o h => step_inv h o) (fun e o l h ht => step_log h ht.2 ht.1 o)
    (inv_init cfg) trivial ⟨hread, hoccupied⟩ ops
  exact ⟨hallowed, hread⟩

/-- after any run the log is a sequence of allowed events, and what is read of it are the batches of the engine -/
theorem log_tells (cfg : EngineConfig) (ops : List EngineOp) :
    let e := run (ContinuousBatchEngine.step cfg) ContinuousBatchEngine.init ops
    (∀ pre event post, e.events = pre ++ event :: post → Allowed cfg (run BatchLog.read .empty pre) event) ∧
      ∀ id, e.readLog.batches.get? id = (e.batches.get? id).map Batch.logged := by
  obtain ⟨hallowed, hread⟩ := run_read cfg ops
  refine ⟨fun pre event post hevents => ?_, hread.batches⟩
  rw [hevents] at hallowed
  exact hallowed.at

-- the second member fills the batch, and the failure of the first closes it
example : (run (ContinuousBatchEngine.step smallConfig) .init [.placeSelected {} 0 (plainItem 1 "m"),
      .placeSelected {} 1 (plainItem 2 "m"), .failRequest 2 1 "backend_error"]).events.map BatchEvent.eventType =
    [.batchCreated, .batchAdmission, .requestAddedToBatch, .requestAddedToBatch, .batchFull, .requestRemovedFromBatch,
      .batchFailed] := by decide

/-! ## Statistics -/

structure BatchStatistics where
  totalBatches : ℕ
  activeBatches : ℕ
  fillingBatches : ℕ
  totalActiveRequests : ℕ
  totalCompletedRequests : ℕ
  totalFailedRequests : ℕ
  totalCancelledRequests : ℕ
  capturedAt : Time
  deriving DecidableEq, Repr

/-- how many members of the batches have a status -/
def countMembers (batches : List Batch) (status : MemberStatus) : ℕ :=
  (batches.map fun b => b.members.countP fun m => m.status = status).sum

def ContinuousBatchEngine.getBatchStatistics (e : ContinuousBatchEngine) (now : Time) : BatchStatistics where
  totalBatches := e.listBatches.length
  activeBatches := e.listBatches.countP fun b => b.state = .filling ∨ b.state = .active
  fillingBatches := e.listBatches.countP fun b => b.state = .filling
  totalActiveRequests := countMembers e.listBatches .active
  totalCompletedRequests := countMembers e.listBatches .completed
  totalFailedRequests := countMembers e.listBatches .failed
  totalCancelledRequests := countMembers e.listBatches .cancelled
  capturedAt := now

namespace BatchLog

/-- how many members have a status -/
def count (l : BatchLog) (status : MemberStatus) : ℕ :=
  (l.batches.values.map fun r => r.members.countP fun m => m.status = status).sum

def openBatches (l : BatchLog) : List (UUID × LoggedBatch) := l.batches.items.filter fun p => p.2.outcome = none

end BatchLog

theorem Read.items_perm (hr : Read l e) : l.batches.items.Perm (e.batches.items.map fun p => (p.1, p.2.logged)) := by
  have hperm := Dict.items_perm (f := id) (g := Batch.logged) (fun id => (by rw [Option.map_id]; exact hr.batches id))
  rwa [show (fun p : UUID × LoggedBatch => (p.1, id p.2)) = id from rfl, List.map_id] at hperm

theorem Read.values_perm (hr : Read l e) : l.batches.values.Perm (e.listBatches.map Batch.logged) := by
  have hperm := hr.items_perm.map Prod.snd
  rw [List.map_map] at hperm
  rw [ContinuousBatchEngine.listBatches, Dict.values, Dict.values, List.map_map]
  exact hperm

theorem Read.count_eq (hr : Read l e) (status : MemberStatus) : countMembers e.listBatches status = l.count status := by
  rw [BatchLog.count, (hr.values_perm.map _).sum_eq, List.map_map]
  refine congrArg List.sum (List.map_congr_left fun b _ => ?_)
  rw [Function.comp_apply, Batch.logged, List.countP_map]
  rfl

/-- the statistics of an engine and what its log says; of the FILLING batches it says only where they are -/
structure StatisticsRead (l : BatchLog) (e : ContinuousBatchEngine) (stats : BatchStatistics) : Prop where
  totalBatches : stats.totalBatches = l.batches.values.length
  activeBatches : stats.activeBatches = l.openBatches.length
  filling : ∀ id b, e.batches.get? id = some b → b.state = .filling → (id, b.logged) ∈ l.openBatches ∧ id ∉ l.full
  fillingBatches : stats.fillingBatches ≤ (l.openBatches.filter fun p => p.1 ∉ l.full).length
  totalActiveRequests : stats.totalActiveRequests = l.count .active
  totalCompletedRequests : stats.totalCompletedRequests = l.count .completed
  totalFailedRequests : stats.totalFailedRequests = l.count .failed
  totalCancelledRequests : stats.totalCancelledRequests = l.count .cancelled

theorem Read.filling (h : Inv cfg e) (hr : Read l e) (hb : e.batches.get? id = some b) (hst : b.state = .filling) :
    (id, b.logged) ∈ l.openBatches ∧ id ∉ l.full := by
  obtain ⟨s, -, hi⟩ := h.batch hb
  have hlogged : l.batches.get? id = some b.logged := by rw [hr.batches, hb, Option.map_some]
  have hopen : b.logged.outcome = none := (logged_open hi).2 (Or.inl hst)
  exact ⟨List.mem_filter.2 ⟨Dict.mem_items.2 hlogged, decide_eq_true hopen⟩, hr.not_full hb hst⟩

theorem Read.statistics (h : Inv cfg e) (hr : Read l e) (now : Time) :
    StatisticsRead l e (e.getBatchStatistics now) := by
  have hopen : ∀ p ∈ e.batches.items, (p.2.logged.outcome = none ↔ p.2.state = .filling ∨ p.2.state = .active) := by
    intro p hp
    obtain ⟨s, -, hi⟩ := h.batch (Dict.mem_items.1 hp)
    rw [logged_open hi, hi.isOpen_iff]
  refine ⟨?_, ?_, fun _ _ => hr.filling h, ?_, hr.count_eq .active, hr.count_eq .completed, hr.count_eq .failed,
    hr.count_eq .cancelled⟩
  · rw [hr.values_perm.length_eq, List.length_map]
    rfl
  · have hperm := hr.items_perm.countP_eq fun p => p.2.outcome = none
    rw [BatchLog.openBatches, ← List.countP_eq_length_filter, hperm, List.countP_map]
    rw [ContinuousBatchEngine.getBatchStatistics, ContinuousBatchEngine.listBatches, Dict.values, List.countP_map]
    exact List.countP_congr fun p hp => by simpa using (hopen p hp).symm
  · have hperm := hr.items_perm.countP_eq fun p => decide (p.1 ∉ l.full) && decide (p.2.outcome = none)
    rw [BatchLog.openBatches, List.filter_filter, ← List.countP_eq_length_filter, hperm, List.countP_map]
    have hcount : (e.getBatchStatistics now).fillingBatches = e.batches.items.countP fun p => p.2.state = .filling := by
      rw [ContinuousBatchEngine.getBatchStatistics, ContinuousBatchEngine.listBatches, Dict.values]
      exact List.countP_map
    rw [hcount]
    refine List.countP_mono_left fun p hp hfilling => ?_
    have hst : p.2.state = .filling := by simpa using hfilling
    simp only [Function.comp_apply, Bool.and_eq_true, decide_eq_true_eq]
    exact ⟨hr.not_full (Dict.mem_items.1 hp) hst, (hopen p hp).2 (Or.inl hst)⟩

/-- room for three, and two requests, the second at a given time -/
def threeConfig : EngineConfig := ⟨⟨3, 4, 1⟩, rfl⟩

def secondAt (now : Time) : ContinuousBatchEngine :=
  run (ContinuousBatchEngine.step threeConfig) ContinuousBatchEngine.init
    [.placeSelected {} 0 (plainItem 1 "m"), .placeSelected {} now (plainItem 2 "m")]

/-- at the end of the window the batch becomes ACTIVE, which no event says -/
theorem secondAt_events : (secondAt 0).events = (secondAt 1000).events := by decide +kernel

theorem secondAt_filling (now : Time) : ((secondAt 0).getBatchStatistics now).fillingBatches = 1 ∧
    ((secondAt 1000).getBatchStatistics now).fillingBatches = 0 := by
  have hcounts : (secondAt 0).listBatches.countP (fun b => b.state = .filling) = 1 ∧
      (secondAt 1000).listBatches.countP (fun b => b.state = .filling) = 0 := by decide +kernel
  exact hcounts

/-- after any run, what the inspection interface counts can be read off the log, but for the FILLING batches: of two
runs with the same events one can have more of them -/
theorem statistics_read :
    (∀ (cfg : EngineConfig) (ops : List EngineOp) (now : Time),
      let e := run (ContinuousBatchEngine.step cfg) ContinuousBatchEngine.init ops
      StatisticsRead e.readLog e (e.getBatchStatistics now)) ∧
    ∃ (cfg : EngineConfig) (ops ops' : List EngineOp),
      let e := run (ContinuousBatchEngine.step cfg) ContinuousBatchEngine.init ops
      let e' := run (ContinuousBatchEngine.step cfg) ContinuousBatchEngine.init ops'
      e.events = e'.events ∧
        ∀ now, (e.getBatchStatistics now).fillingBatches ≠ (e'.getBatchStatistics now).fillingBatches := by
  refine ⟨fun cfg ops now => (run_read cfg ops).2.statistics (run_inv cfg ops) now, threeConfig, _, _,
    secondAt_events, ?_⟩
  intro now heq
  obtain ⟨hearly, hlate⟩ := secondAt_filling now
  exact one_ne_zero (hearly.symm.trans (heq.trans hlate))

/-! ## What is announced of one request -/

/-- the recorder is told of the events that name a request -/
def storyOf (requestId : UUID) (events : List BatchEvent) : List BatchEvent :=
  events.filter fun event => event.requestId = some requestId

def Refusals (events : List BatchEvent) : Prop := ∀ event ∈ events, event.eventType = .batchAdmission

def Admission (id : UUID) (event : BatchEvent) : Prop :=
  event.eventType = .requestAddedToBatch ∧ event.batchId = some id

def Retirements (id : UUID) (events : List BatchEvent) : Prop :=
  ∀ event ∈ events, event.eventType = .requestRemovedFromBatch ∧ event.batchId = some id

/-- refusals, until the request is placed in a batch; then only retirements from it -/
inductive Story (l : BatchLog) (requestId : UUID) : List BatchEvent → Prop
  | waiting {refusals : List BatchEvent} (hrefusals : Refusals refusals) (hplaced : ∀ id, ¬l.Placed requestId id) :
    Story l requestId refusals
  | placed {refusals retirements : List BatchEvent} {added : BatchEvent} {id : UUID} (hrefusals : Refusals refusals)
    (hadded : Admission id added) (hretirements : Retirements id retirements)
    (hplaced : ∀ id', l.Placed requestId id' ↔ id' = id) : Story l requestId (refusals ++ added :: retirements)

theorem BatchLog.placed_iff_of_get? {l' : BatchLog} {rid id' : UUID}
    (h : (l'.batches.get? id').map (fun r => ∃ m ∈ r.members, m.requestId = rid) =
      (l.batches.get? id').map fun r => ∃ m ∈ r.members, m.requestId = rid) : l'.Placed rid id' ↔ l.Placed rid id' := by
  unfold BatchLog.Placed
  cases hl' : l'.batches.get? id' <;> cases hl : l.batches.get? id' <;> simp_all

theorem BatchLog.placed_update {f : LoggedBatch → LoggedBatch} {rid : UUID}
    (hf : ∀ r, (∃ m ∈ (f r).members, m.requestId = rid) ↔ ∃ m ∈ r.members, m.requestId = rid) (id' : UUID) :
    (l.update id f).Placed rid id' ↔ l.Placed rid id' := by
  refine BatchLog.placed_iff_of_get? ?_
  rw [BatchLog.update, Dict.get?_update]
  by_cases hid : id' = id
  · rw [if_pos hid, hid, Option.map_map]
    exact congrArg (Option.map · _) (funext fun r => propext (hf r))
  · rw [if_neg hid]

/-- only an admission places a request -/
theorem Allowed.placed_iff {event : BatchEvent} (h : Allowed cfg l event) (rid id' : UUID) :
    (l.read event).Placed rid id' ↔
      l.Placed rid id' ∨ event.requestId = some rid ∧ Admission id' event := by
  cases h with
  | @created id model hnew hmodel =>
    have hplaced : (l.read (createdEvent id model)).Placed rid id' ↔ l.Placed rid id' := by
      unfold BatchLog.Placed
      rw [show (l.read (createdEvent id model)).batches = l.batches.set id { model } from rfl, Dict.get?_set]
      by_cases hid : id' = id
      · simp [hid, hnew]
      · rw [if_neg hid]
    simpa [Admission, createdEvent] using hplaced
  | @added id requestId model correlationId reason slotIndex r hopen hnew hslot hroom htotal hreason =>
    simp only [Admission, Option.some.injEq, true_and]
    unfold BatchLog.Placed
    rw [show (l.read _).batches = l.batches.update id (fun r =>
      r.add { requestId, slotIndex, model, correlationId }) from rfl, Dict.get?_update]
    by_cases hid : id' = id
    · subst hid
      simp [hopen.batch, LoggedBatch.add, or_and_right, exists_or]
    · simp [hid, Ne.symm hid]
  | @removed id reason status r m hbatch hmember hmodel hstatus =>
    have hretire : ∀ r' : LoggedBatch, (∃ m' ∈ (r'.retire m.requestId status).members, m'.requestId = rid) ↔
        ∃ m' ∈ r'.members, m'.requestId = rid := by
      intro r'
      simp only [LoggedBatch.retire, List.mem_map, exists_exists_and_eq_and]
      refine exists_congr fun m' => and_congr_right fun _ => ?_
      split_ifs <;> rfl
    refine (BatchLog.placed_update hretire id').trans ?_
    simp [Admission]
  | completed hopen hempty =>
    refine (BatchLog.placed_update (f := LoggedBatch.close _) (fun r => Iff.rfl) id').trans ?_
    simp [Admission]
  | failed hopen hfailed hprevious =>
    refine (BatchLog.placed_update (f := LoggedBatch.close _) (fun r => Iff.rfl) id').trans ?_
    simp [Admission]
  | _ => simp [Admission, BatchLog.read, BatchLog.Placed, refusedEvent, openedEvent]

/-- an event that names a request: a refusal or an admission of one that is not placed, or a retirement from where it is
placed -/
theorem Allowed.named {event : BatchEvent} (h : Allowed cfg l event) {rid : UUID} (hid : event.requestId = some rid) :
    (∀ id, ¬l.Placed rid id) ∧ (event.eventType = .batchAdmission ∨ ∃ id, Admission id event) ∨
      ∃ id, l.Placed rid id ∧ event.eventType = .requestRemovedFromBatch ∧ event.batchId = some id := by
  cases h with
  | added hopen hnew hslot hroom htotal hreason =>
    cases hid
    exact Or.inl ⟨hnew, Or.inr ⟨_, rfl, rfl⟩⟩
  | noSlots hopen hnew hfull =>
    cases hid
    exact Or.inl ⟨hnew, Or.inl rfl⟩
  | bound hbatch hnew htotal =>
    cases hid
    exact Or.inl ⟨hnew, Or.inl rfl⟩
  | late hopen hnew hroom honce =>
    cases hid
    exact Or.inl ⟨hnew, Or.inl rfl⟩
  | @removed id reason status r m hbatch hmember hmodel hstatus =>
    cases hid
    exact Or.inr ⟨id, ⟨r, hbatch, m, hmember, rfl⟩, rfl, rfl⟩
  | _ => cases hid

theorem storyOf_append {event : BatchEvent} {rid : UUID} (hid : event.requestId = some rid) (events : List BatchEvent) :
    storyOf rid (events ++ [event]) = storyOf rid events ++ [event] := by
  rw [storyOf, List.filter_append, List.filter_cons_of_pos (by simpa using hid), List.filter_nil]
  rfl

theorem storyOf_append_other {event : BatchEvent} {rid : UUID} (hid : event.requestId ≠ some rid)
    (events : List BatchEvent) :
    storyOf rid (events ++ [event]) = storyOf rid events := by
  rw [storyOf, List.filter_append, List.filter_cons_of_neg (by simpa using hid), List.filter_nil, List.append_nil]
  rfl

theorem Story.step {event : BatchEvent} (h : Allowed cfg l event) {rid : UUID} {events : List BatchEvent}
    (hs : Story l rid (storyOf rid events)) : Story (l.read event) rid (storyOf rid (events ++ [event])) := by
  have hplaced := h.placed_iff rid
  by_cases hid : event.requestId = some rid
  · rw [storyOf_append hid]
    generalize storyOf rid events = story at hs
    cases hs with
    | waiting hrefusals hnone =>
      rcases h.named hid with ⟨-, hrefused | ⟨id, hadmitted⟩⟩ | ⟨id, hid', -⟩
      · refine .waiting (fun event' hevent' => ?_) fun id hc => ?_
        · rcases List.mem_append.1 hevent' with hevent' | hevent'
          · exact hrefusals event' hevent'
          · rw [List.mem_singleton.1 hevent', hrefused]
        · rcases (hplaced id).1 hc with hc | ⟨-, hc, -⟩
          · exact hnone id hc
          · rw [hrefused] at hc
            cases hc
      · refine .placed hrefusals hadmitted (fun event' hevent' => by cases hevent') fun id' => ?_
        rw [hplaced, or_iff_right (hnone id'), and_iff_right hid]
        constructor
        · intro hadmitted'
          exact Option.some.inj (hadmitted'.2.symm.trans hadmitted.2)
        · rintro rfl
          exact hadmitted
      · exact absurd hid' (hnone id)
    | @placed refusals retirements added id hrefusals hadded hretirements hone =>
      rcases h.named hid with ⟨hnone, -⟩ | ⟨id', hid', hremoved⟩
      · exact absurd ((hone id).2 rfl) (hnone id)
      · rw [List.append_assoc, List.cons_append]
        obtain rfl : id' = id := (hone id').1 hid'
        refine .placed hrefusals hadded (fun event' hevent' => ?_) fun id => ?_
        · rcases List.mem_append.1 hevent' with hevent' | hevent'
          · exact hretirements event' hevent'
          · rw [List.mem_singleton.1 hevent']
            exact hremoved
        · refine (hplaced id).trans ((or_iff_left ?_).trans (hone id))
          rintro ⟨-, hc, -⟩
          rw [hremoved.1] at hc
          cases hc
  · have hsame : ∀ id, (l.read event).Placed rid id ↔ l.Placed rid id := by
      intro id
      rw [hplaced, or_iff_left fun hc => hid hc.1]
    rw [storyOf_append_other hid]
    generalize storyOf rid events = story at hs
    cases hs with
    | waiting hrefusals hnone => exact .waiting hrefusals fun id hc => hnone id ((hsame id).1 hc)
    | placed hrefusals hadded hretirements hone =>
      exact .placed hrefusals hadded hretirements fun id => (hsame id).trans (hone id)

theorem story_of_meets {events : List BatchEvent} (h : Meets BatchLog.read (Allowed cfg) .empty events) (rid : UUID) :
    Story (run BatchLog.read .empty events) rid (storyOf rid events) := by
  induction events using List.reverseRecOn with
  | nil =>
    refine .waiting (fun event hevent => by cases hevent) fun id hc => ?_
    obtain ⟨r, hr, -⟩ := hc
    cases hr
  | append_singleton events event ih =>
    obtain ⟨hevents, hevent, -⟩ := meets_append.1 h
    rw [run_append]
    exact (ih hevents).step hevent

/-- after any run, for every request: refusals, then at most one admission, then retirements from its batch -/
theorem request_story (cfg : EngineConfig) (ops : List EngineOp) (rid : UUID) :
    let e := run (ContinuousBatchEngine.step cfg) ContinuousBatchEngine.init ops
    Refusals (storyOf rid e.events) ∧ e.requestToBatch.get? rid = none ∨
      ∃ refusals added retirements id, storyOf rid e.events = refusals ++ added :: retirements ∧ Refusals refusals ∧
        Admission id added ∧ Retirements id retirements ∧ e.requestToBatch.get? rid = some id := by
  intro e
  obtain ⟨hallowed, hread⟩ := run_read cfg ops
  have hbatched : ∀ id, e.readLog.Placed rid id ↔ e.requestToBatch.get? rid = some id := fun id =>
    hread.placed_iff (run_inv cfg ops)
  have hstory := story_of_meets hallowed rid
  generalize hevents : storyOf rid e.events = story at hstory ⊢
  cases hstory with
  | waiting hrefusals hnone =>
    refine Or.inl ⟨hrefusals, Option.eq_none_iff_forall_ne_some.2 fun id hid => ?_⟩
    exact hnone id ((hbatched id).2 hid)
  | @placed refusals retirements added id hrefusals hadded hretirements hone =>
    exact Or.inr ⟨refusals, added, retirements, id, rfl, hrefusals, hadded, hretirements,
      (hbatched id).1 ((hone id).2 rfl)⟩

end InferencePlatform.Batching
