/-
The waiting queue by itself: what any sequence of its operations keeps, and the order it serves in.

The abstract queue is a `Ledger`: one ticket for each successful enqueue, in order, which waits until it is dequeued,
removed, cleared or overdue. `fifo_queue`: with a nondecreasing clock the queue holds the waiting tickets of the ledger
and nothing else, in their order, numbered from 1 on the items and on their entries, within the capacity, and a dequeue
hands out the first of them. An item's age decides whether it is overdue, so the overdue items are a prefix of the
queue.
-/
import InferencePlatform.ControlPlane.Links

namespace InferencePlatform.ControlPlane

open InferencePlatform.Core (run run_append)

variable {cfg : QueueCapacityConfig} {cp cp' : ControlPlaneApplication} {now now' : Time} {ref : Ref}

/-! ## Operations -/

/-- an operation of the queue, with the clock readings it makes -/
inductive QueueCall
  | enqueue (ref : Ref) (now now' : Time)
  | dequeue (now : Time)
  | peek (now : Time)
  | remove (requestId : UUID)
  | expireTimeouts (now : Time)
  | clear
  | listItems (now : Time)
  deriving DecidableEq, Repr

namespace QueueCall

def readings : QueueCall → List Time
  | .enqueue _ now now' => [now, now']
  | .dequeue now | .peek now | .expireTimeouts now | .listItems now => [now]
  | .remove _ | .clear => []

/-- the state after the operation, whether it returns or raises -/
def step (cfg : QueueCapacityConfig) (cp : ControlPlaneApplication) : QueueCall → ControlPlaneApplication
  | .enqueue ref now now' => (enqueueAt cfg ref now now').final cp
  | .dequeue now => (ControlPlane.dequeue cfg now).final cp
  | .peek now => (ControlPlane.peek cfg now).final cp
  | .remove requestId => (removeItem requestId).final cp
  | .expireTimeouts now => (expireTimeoutsLocked cfg now).final cp
  | .clear => ControlPlane.clear.final cp
  | .listItems now => (ControlPlane.listItems cfg now).final cp

end QueueCall

/-- the clock never goes back -/
def Clocked (calls : List QueueCall) : Prop := (calls.flatMap QueueCall.readings).Pairwise (· ≤ ·)

/-- an empty queue, and the entries there are -/
def emptyQueue (entries : List RegisteredRequest) : ControlPlaneApplication :=
  { ControlPlaneApplication.init with entries }

/-! ## The abstract queue -/

/-- a successful enqueue: which request, when, and whether it still waits -/
structure Ticket where
  item : UUID × Time
  waiting : Bool
  deriving DecidableEq, Repr

abbrev Ledger := List Ticket

namespace Ledger

def waitingItems (ledger : Ledger) : List (UUID × Time) := (ledger.filter Ticket.waiting).map Ticket.item

/-- the tickets of the given items wait no longer -/
def leave (p : UUID × Time → Bool) (ledger : Ledger) : Ledger :=
  ledger.map fun ticket => { ticket with waiting := ticket.waiting && !p ticket.item }

def late (cfg : QueueCapacityConfig) (now : Time) (item : UUID × Time) : Bool :=
  item.2 + microseconds cfg.queueTimeoutMs < now

def expire (cfg : QueueCapacityConfig) (now : Time) (ledger : Ledger) : Ledger := ledger.leave (late cfg now)

/-- a request that waits already, and any request at a full queue, gets no ticket -/
def enqueue (cfg : QueueCapacityConfig) (r : UUID) (now' : Time) (ledger : Ledger) : Ledger :=
  if r ∈ ledger.waitingItems.map Prod.fst ∨ cfg.maxQueueSize ≤ ledger.waitingItems.length then ledger
  else ledger ++ [⟨(r, now'), true⟩]

/-- the first waiting ticket leaves -/
def dequeue (ledger : Ledger) : Ledger :=
  match ledger.waitingItems with
  | [] => ledger
  | item :: _ => ledger.leave fun other => other.1 = item.1

def step (cfg : QueueCapacityConfig) (entries : List RegisteredRequest) (ledger : Ledger) : QueueCall → Ledger
  | .enqueue ref now now' =>
    match entries[ref]? with
    | none => ledger.expire cfg now
    | some entry => (ledger.expire cfg now).enqueue cfg entry.requestId now'
  | .dequeue now => (ledger.expire cfg now).dequeue
  | .remove requestId => ledger.leave fun item => item.1 = requestId
  | .clear => ledger.leave fun _ => true
  | .peek now | .expireTimeouts now | .listItems now => ledger.expire cfg now

theorem waitingItems_leave (p : UUID × Time → Bool) (ledger : Ledger) :
    (ledger.leave p).waitingItems = ledger.waitingItems.filter fun item => !p item := by
  induction ledger with
  | nil => rfl
  | cons ticket ledger ih =>
    obtain ⟨item, waiting⟩ := ticket
    simp only [leave, waitingItems, List.map_cons] at ih ⊢
    cases waiting with
    | false => simpa using ih
    | true =>
      cases hp : p item with
      | true => simpa [hp] using ih
      | false => simpa [hp] using ih

theorem waitingItems_append (ledger : Ledger) (item : UUID × Time) :
    (ledger ++ [⟨item, true⟩] : Ledger).waitingItems = ledger.waitingItems ++ [item] := by
  simp [waitingItems]

end Ledger

/-! ## What each operation leaves -/

/-- the entries after each item has written its position to its own -/
def positioned (items : List QueuedRequest) (entries : List RegisteredRequest) : List RegisteredRequest :=
  items.foldl (fun entries item =>
    entries.modify item.entry fun entry => { entry with queuePosition := some item.queuePosition }) entries

namespace ControlPlaneApplication

/-- the queue holds the given items, renumbered -/
def requeued (cp : ControlPlaneApplication) (items : List QueuedRequest) : ControlPlaneApplication :=
  { cp with items := numbered items, entries := positioned (numbered items) cp.entries }

def expired (cfg : QueueCapacityConfig) (now : Time) (cp : ControlPlaneApplication) : ControlPlaneApplication :=
  cp.requeued (cp.items.filter fun item => !overdue cfg now item)

/-- the item that `enqueue` builds for an entry -/
def itemFor (cp : ControlPlaneApplication) (ref : Ref) (entry : RegisteredRequest) (now : Time) : QueuedRequest :=
  { requestId := entry.requestId, entry := ref, queueEnteredAt := now, queuePosition := cp.items.length + 1
    queueName := entry.inferenceRequest.model ++ "/default"
    priorityClass := entry.inferenceRequest.priorityClass.getD .default }

def enqueued (cp : ControlPlaneApplication) (ref : Ref) (entry : RegisteredRequest) (now : Time) :
    ControlPlaneApplication :=
  { cp with
    items := cp.items ++ [cp.itemFor ref entry now]
    entries := cp.entries.modify ref fun entry =>
      { entry with queueEnteredAt := some now, queuePosition := some (cp.items.length + 1) } }

end ControlPlaneApplication

theorem expire_run (cfg : QueueCapacityConfig) (now : Time) (cp : ControlPlaneApplication) :
    EStateM.run (expireTimeoutsLocked cfg now) cp =
      .ok (cp.items.filter fun item => overdue cfg now item) (cp.expired cfg now) := rfl

theorem peek_run (cfg : QueueCapacityConfig) (now : Time) (cp : ControlPlaneApplication) :
    EStateM.run (peek cfg now) cp = .ok (cp.expired cfg now).items.head? (cp.expired cfg now) := rfl

theorem listItems_run (cfg : QueueCapacityConfig) (now : Time) (cp : ControlPlaneApplication) :
    EStateM.run (listItems cfg now) cp = .ok (cp.expired cfg now).items (cp.expired cfg now) := rfl

theorem clear_run (cp : ControlPlaneApplication) :
    EStateM.run clear cp = .ok cp.items.length { cp with items := [] } := rfl

theorem dequeue_run (cfg : QueueCapacityConfig) (now : Time) (cp : ControlPlaneApplication) :
    ((cp.expired cfg now).items = [] ∧ EStateM.run (dequeue cfg now) cp = .ok none (cp.expired cfg now)) ∨
    ∃ item rest, (cp.expired cfg now).items = item :: rest ∧
      EStateM.run (dequeue cfg now) cp = .ok (some item) ((cp.expired cfg now).requeued rest) := by
  cases hitems : (cp.expired cfg now).items with
  | nil =>
    refine Or.inl ⟨rfl, ?_⟩
    simp only [dequeue, EStateM.run_bind, expire_run, EStateM.run_get, hitems, EStateM.run_pure]
  | cons item rest =>
    refine Or.inr ⟨item, rest, rfl, ?_⟩
    simp only [dequeue, EStateM.run_bind, expire_run, EStateM.run_get, hitems]
    rfl

theorem removeItem_run (r : UUID) (cp : ControlPlaneApplication) :
    (cp.items.find? (fun item => item.requestId = r) = none ∧ EStateM.run (removeItem r) cp = .ok none cp) ∨
    ∃ item, cp.items.find? (fun item => item.requestId = r) = some item ∧
      EStateM.run (removeItem r) cp =
        .ok (some item) (cp.requeued (cp.items.eraseP fun item => item.requestId = r)) := by
  cases hfind : cp.items.find? fun item => item.requestId = r with
  | none =>
    refine Or.inl ⟨rfl, ?_⟩
    simp only [removeItem, EStateM.run_bind, EStateM.run_get, hfind, EStateM.run_pure]
  | some item =>
    refine Or.inr ⟨item, rfl, ?_⟩
    simp only [removeItem, EStateM.run_bind, EStateM.run_get, hfind]
    rfl

/-- an enqueue raises and leaves what the expiry leaves, or puts the entry of a request that does not wait at the end of
a queue with room -/
theorem enqueueAt_run (cfg : QueueCapacityConfig) (ref : Ref) (now now' : Time) (cp : ControlPlaneApplication) :
    ((∀ entry, (cp.expired cfg now).entries[ref]? = some entry →
        (cp.expired cfg now).contains entry.requestId = true ∨ cfg.maxQueueSize ≤ (cp.expired cfg now).items.length) ∧
      ((∃ err, EStateM.run (enqueueAt cfg ref now now') cp = .error err (cp.expired cfg now)) ∨
        ∃ reason, EStateM.run (enqueueAt cfg ref now now') cp = .ok (.error reason) (cp.expired cfg now))) ∨
    ∃ entry, (cp.expired cfg now).entries[ref]? = some entry ∧ (cp.expired cfg now).contains entry.requestId = false ∧
      (cp.expired cfg now).items.length < cfg.maxQueueSize ∧
      EStateM.run (enqueueAt cfg ref now now') cp =
        .ok (.ok ((cp.expired cfg now).itemFor ref entry now')) ((cp.expired cfg now).enqueued ref entry now') := by
  cases hentry : (cp.expired cfg now).entries[ref]? with
  | none =>
    have hdangling : EStateM.run (derefEntry ref) (cp.expired cfg now) =
        .error (.runtimeError "dangling reference") (cp.expired cfg now) := by
      simp only [derefEntry, EStateM.run_bind, EStateM.run_get, hentry, run_throw]
    refine Or.inl ⟨fun entry h => (by simp at h), Or.inl ⟨.runtimeError "dangling reference", ?_⟩⟩
    simp only [enqueueAt, EStateM.run_bind, expire_run, hdangling]
  | some entry =>
    by_cases hwaits : (cp.expired cfg now).contains entry.requestId = true
    · refine Or.inl ⟨fun entry' h => ?_, Or.inl ⟨.valueError s!"request already queued: {entry.requestId}", ?_⟩⟩
      · cases h
        exact Or.inl hwaits
      · simp only [enqueueAt, EStateM.run_bind, expire_run, derefEntry_run hentry, EStateM.run_get,
          if_pos hwaits, run_throw]
    · by_cases hfull : cfg.maxQueueSize ≤ (cp.expired cfg now).items.length
      · refine Or.inl ⟨fun _ _ => Or.inr hfull, Or.inr ⟨"queue_full", ?_⟩⟩
        simp only [enqueueAt, EStateM.run_bind, expire_run, derefEntry_run hentry, EStateM.run_get, if_neg hwaits,
          evaluateEnqueueCapacity, if_pos hfull, EStateM.run_pure]
      · refine Or.inr ⟨entry, rfl, by simpa using hwaits, Nat.lt_of_not_le hfull, ?_⟩
        simp only [enqueueAt, EStateM.run_bind, expire_run, derefEntry_run hentry, EStateM.run_get, if_neg hwaits,
          evaluateEnqueueCapacity, if_neg hfull, EStateM.run_modify, modifyEntry_run, EStateM.run_pure]
        rfl

/-! ## Positions -/

theorem positioned_of_notMem {items : List QueuedRequest} (h : ref ∉ items.map QueuedRequest.entry)
    (entries : List RegisteredRequest) : (positioned items entries)[ref]? = entries[ref]? := by
  induction items generalizing entries with
  | nil => rfl
  | cons item items ih =>
    rw [List.map_cons, List.mem_cons, not_or] at h
    calc (positioned (item :: items) entries)[ref]?
        = (entries.modify item.entry fun entry => { entry with queuePosition := some item.queuePosition })[ref]? :=
          ih h.2 _
      _ = entries[ref]? := by simp [Ne.symm h.1]

/-- items with entries of their own: each entry gets its item's position -/
theorem positioned_getElem? {items : List QueuedRequest} (hnodup : (items.map QueuedRequest.entry).Nodup)
    {item : QueuedRequest} (hitem : item ∈ items) (entries : List RegisteredRequest) :
    (positioned items entries)[item.entry]? =
      entries[item.entry]?.map fun entry => { entry with queuePosition := some item.queuePosition } := by
  induction items generalizing entries with
  | nil => simp at hitem
  | cons first items ih =>
    rw [List.map_cons, List.nodup_cons] at hnodup
    rcases List.mem_cons.1 hitem with rfl | hitem
    · calc (positioned (item :: items) entries)[item.entry]?
          = (entries.modify item.entry fun entry =>
            { entry with queuePosition := some item.queuePosition })[item.entry]? :=
            positioned_of_notMem hnodup.1 _
        _ = _ := by simp
    · have hne : first.entry ≠ item.entry := fun heq => hnodup.1 (heq ▸ List.mem_map_of_mem hitem)
      calc (positioned (first :: items) entries)[item.entry]?
          = (entries.modify first.entry fun entry =>
              { entry with queuePosition := some first.queuePosition })[item.entry]?.map
                fun entry => { entry with queuePosition := some item.queuePosition } := ih hnodup.2 hitem _
        _ = _ := by simp [hne]

theorem numbered_getElem? (items : List QueuedRequest) (i : ℕ) :
    (numbered items)[i]? = items[i]?.map fun item => { item with queuePosition := i + 1 } := by
  simp only [numbered, List.getElem?_map, List.getElem?_zipIdx, Option.map_map]
  cases items[i]? with
  | none => rfl
  | some item => simp [Nat.add_comm]

/-! ## The law of the queue -/

/-- the queue is numbered from 1, on its items and on their entries, within the capacity, and holds the waiting tickets
in their order -/
structure QueueLaw (cfg : QueueCapacityConfig) (cp : ControlPlaneApplication) (ledger : Ledger) : Prop where
  distinct : (cp.items.map QueuedRequest.requestId).Nodup
  bounded : cp.items.length ≤ cfg.maxQueueSize
  places : ∀ i item, cp.items[i]? = some item → item.queuePosition = i + 1 ∧
    ∃ entry, cp.entries[item.entry]? = some entry ∧ entry.requestId = item.requestId ∧
      entry.queuePosition = some (i + 1)
  ordered : cp.items.Pairwise fun item item' => item.queueEnteredAt ≤ item'.queueEnteredAt
  served : cp.items.map QueuedRequest.waiting = ledger.waitingItems

/-- and the entries are still those of the same requests, and every item is stamped with a reading made so far -/
structure QueueInv (cfg : QueueCapacityConfig) (entries : List RegisteredRequest) (readings : List Time)
    (cp : ControlPlaneApplication) (ledger : Ledger) : Prop extends QueueLaw cfg cp ledger where
  ids : cp.entries.map RegisteredRequest.requestId = entries.map RegisteredRequest.requestId
  stamped : ∀ item ∈ cp.items, item.queueEnteredAt ∈ readings

variable {entries : List RegisteredRequest} {readings : List Time} {ledger ledger' : Ledger}
  {items : List QueuedRequest}

theorem queueInv_empty (cfg : QueueCapacityConfig) (entries : List RegisteredRequest) :
    QueueInv cfg entries [] (emptyQueue entries) [] where
  distinct := List.nodup_nil
  bounded := Nat.zero_le _
  places := fun i item h => by simp [emptyQueue, ControlPlaneApplication.init] at h
  ordered := List.Pairwise.nil
  served := rfl
  ids := rfl
  stamped := fun item h => by simp [emptyQueue, ControlPlaneApplication.init] at h

theorem QueueLaw.holds (h : QueueLaw cfg cp ledger) {item : QueuedRequest} (hitem : item ∈ cp.items) :
    cp.Holds item.entry item.requestId := by
  obtain ⟨i, hi⟩ := List.getElem?_of_mem hitem
  obtain ⟨-, entry, hentry, hid, -⟩ := h.places i item hi
  exact ⟨entry, hentry, hid⟩

/-- two waiting items have two entries, since they have two ids -/
theorem QueueLaw.entries_nodup (h : QueueLaw cfg cp ledger) : (cp.items.map QueuedRequest.entry).Nodup := by
  have hitems : cp.items.Nodup := List.Nodup.of_map _ h.distinct
  refine List.Nodup.map_on (fun item hitem item' hitem' heq => ?_) hitems
  obtain ⟨entry, hentry, hid⟩ := h.holds hitem
  obtain ⟨entry', hentry', hid'⟩ := h.holds hitem'
  rw [heq, hentry', Option.some.injEq] at hentry
  exact List.inj_on_of_nodup_map h.distinct hitem hitem' (by rw [← hid, ← hid', hentry])

/-- items leave and the others are renumbered -/
theorem QueueInv.requeued (h : QueueInv cfg entries readings cp ledger) (hsub : items.Sublist cp.items)
    (hserved : items.map QueuedRequest.waiting = ledger'.waitingItems) :
    QueueInv cfg entries readings (cp.requeued items) ledger' where
  distinct := by
    change ((numbered items).map QueuedRequest.requestId).Nodup
    rw [map_numbered _ fun _ _ => rfl]
    exact h.distinct.sublist (hsub.map _)
  bounded := by
    have hlen : (numbered items).length = items.length := by simp [numbered]
    exact hlen.le.trans (hsub.length_le.trans h.bounded)
  places := by
    intro i item hi
    change (numbered items)[i]? = some item at hi
    have hmem : item ∈ numbered items := List.mem_of_getElem? hi
    rw [numbered_getElem?] at hi
    obtain ⟨item₀, hi₀, rfl⟩ := Option.map_eq_some_iff.1 hi
    obtain ⟨entry, hentry, hid⟩ := h.holds (hsub.mem (List.mem_of_getElem? hi₀))
    have hnodup : ((numbered items).map QueuedRequest.entry).Nodup := by
      rw [map_numbered _ fun _ _ => rfl]
      exact h.entries_nodup.sublist (hsub.map _)
    refine ⟨rfl, { entry with queuePosition := some (i + 1) }, ?_, hid, rfl⟩
    change (positioned (numbered items) cp.entries)[item₀.entry]? = _
    have hget := positioned_getElem? hnodup hmem cp.entries
    rw [hentry, Option.map_some] at hget
    exact hget
  ordered := by
    have hpair : (items.map QueuedRequest.queueEnteredAt).Pairwise (· ≤ ·) :=
      List.pairwise_map.2 (h.ordered.sublist hsub)
    rw [← map_numbered _ fun _ _ => rfl] at hpair
    exact List.pairwise_map.1 hpair
  served := by
    rw [← hserved]
    exact map_numbered _ (fun _ _ => rfl) items
  ids := (map_reposition _ (fun _ _ => rfl) _ _).trans h.ids
  stamped := by
    intro item hitem
    have hmem : item.queueEnteredAt ∈ (numbered items).map QueuedRequest.queueEnteredAt := List.mem_map_of_mem hitem
    rw [map_numbered _ fun _ _ => rfl] at hmem
    obtain ⟨item₀, hitem₀, heq⟩ := List.mem_map.1 hmem
    exact heq ▸ h.stamped item₀ (hsub.mem hitem₀)

theorem QueueInv.expired (h : QueueInv cfg entries readings cp ledger) (now : Time) :
    QueueInv cfg entries readings (cp.expired cfg now) (ledger.expire cfg now) := by
  refine h.requeued List.filter_sublist ?_
  rw [Ledger.expire, Ledger.waitingItems_leave, ← h.served, List.filter_map]
  rfl

/-- with distinct ids there is one item to remove -/
theorem eraseP_eq_filter (h : (items.map QueuedRequest.requestId).Nodup) (r : UUID) :
    (items.eraseP fun item => item.requestId = r) = items.filter fun item => !decide (item.requestId = r) := by
  induction items with
  | nil => rfl
  | cons item items ih =>
    rw [List.map_cons, List.nodup_cons] at h
    by_cases hid : item.requestId = r
    · have hrest : items.filter (fun item => !decide (item.requestId = r)) = items :=
        List.filter_eq_self.2 fun item' hitem' => by
          have hne : item'.requestId ≠ r := fun heq => h.1 (hid ▸ heq ▸ List.mem_map_of_mem hitem')
          simp [hne]
      rw [List.eraseP_cons_of_pos (by simpa using hid), List.filter_cons_of_neg (by simpa using hid), hrest]
    · rw [List.eraseP_cons_of_neg (by simpa using hid), List.filter_cons_of_pos (by simpa using hid), ih h.2]

theorem QueueInv.removed (h : QueueInv cfg entries readings cp ledger) (r : UUID) :
    QueueInv cfg entries readings (cp.requeued (cp.items.eraseP fun item => item.requestId = r))
      (ledger.leave fun item => item.1 = r) := by
  refine h.requeued List.eraseP_sublist ?_
  rw [eraseP_eq_filter h.distinct, Ledger.waitingItems_leave, ← h.served, List.filter_map]
  rfl

/-- the items that leave by their age are the first ones -/
theorem filter_prefix {α : Type} {p : α → Bool} {l : List α} (h : l.Pairwise fun a b => p b = true → p a = true) :
    ∃ n, l.filter p = l.take n ∧ (l.filter fun a => !p a) = l.drop n := by
  induction l with
  | nil => exact ⟨0, rfl, rfl⟩
  | cons a l ih =>
    rw [List.pairwise_cons] at h
    by_cases ha : p a = true
    · obtain ⟨n, htake, hdrop⟩ := ih h.2
      exact ⟨n + 1, by simp [ha, htake], by simp [ha, hdrop]⟩
    · have hnone : ∀ b ∈ l, ¬p b = true := fun b hb hpb => ha (h.1 b hb hpb)
      refine ⟨0, ?_, ?_⟩
      · rw [List.take_zero, List.filter_eq_nil_iff]
        intro b hb
        rcases List.mem_cons.1 hb with rfl | hb
        · exact ha
        · exact hnone b hb
      · rw [List.drop_zero, List.filter_eq_self]
        intro b hb
        rcases List.mem_cons.1 hb with rfl | hb
        · simpa using ha
        · simpa using hnone b hb

theorem QueueLaw.overdue_prefix (h : QueueLaw cfg cp ledger) (now : Time) :
    ∃ n, (cp.items.filter fun item => overdue cfg now item) = cp.items.take n ∧
      (cp.items.filter fun item => !overdue cfg now item) = cp.items.drop n := by
  refine filter_prefix (h.ordered.imp fun {item item'} hle hlate => ?_)
  simp only [overdue, decide_eq_true_eq] at hlate ⊢
  exact lt_of_le_of_lt (by gcongr) hlate

/-- an item joins at the end, stamped with a reading that none before it exceeds -/
theorem QueueInv.enqueued (h : QueueInv cfg entries readings cp ledger) {entry : RegisteredRequest}
    (hentry : cp.entries[ref]? = some entry) (hnew : cp.contains entry.requestId = false)
    (hroom : cp.items.length < cfg.maxQueueSize) {now : Time} (hlater : ∀ t ∈ readings, t ≤ now) :
    QueueInv cfg entries (readings ++ [now]) (cp.enqueued ref entry now)
      (ledger ++ [⟨(entry.requestId, now), true⟩]) := by
  have hother : ∀ item ∈ cp.items, item.requestId ≠ entry.requestId := by
    simpa [ControlPlaneApplication.contains] using hnew
  set item := cp.itemFor ref entry now with hitem
  have hitems : (cp.enqueued ref entry now).items = cp.items ++ [item] := rfl
  refine ⟨⟨?_, ?_, fun i item' hi => ?_, ?_, ?_⟩, ?_, fun item' hmem => ?_⟩
  · rw [hitems, List.map_append, List.nodup_append]
    refine ⟨h.distinct, List.nodup_singleton _, fun r hr r' hr' => ?_⟩
    obtain ⟨item', hmem, rfl⟩ := List.mem_map.1 hr
    rw [List.mem_singleton.1 hr']
    exact hother item' hmem
  · rw [hitems, List.length_append, List.length_singleton]
    exact hroom
  · rw [hitems] at hi
    change _ ∧ ∃ e, (cp.entries.modify ref _)[item'.entry]? = some e ∧ _
    by_cases hlt : i < cp.items.length
    · -- an item that waited before: its entry is another one
      rw [List.getElem?_append_left hlt] at hi
      obtain ⟨hplace, e, he, hid, hpos⟩ := h.places i item' hi
      have hne : ref ≠ item'.entry := by
        intro heq
        rw [heq, he, Option.some.injEq] at hentry
        exact hother item' (List.mem_of_getElem? hi) (hid ▸ hentry ▸ rfl)
      exact ⟨hplace, e, by simp [hne, he], hid, hpos⟩
    · obtain ⟨hi', hlast⟩ : i = cp.items.length ∧ item' = item := by
        rw [List.getElem?_append_right (Nat.le_of_not_lt hlt), List.getElem?_singleton] at hi
        split_ifs at hi with hzero
        exact ⟨by omega, by simpa using hi.symm⟩
      rw [hi', hlast]
      refine ⟨rfl, { entry with queueEnteredAt := some now, queuePosition := some (cp.items.length + 1) }, ?_, rfl, rfl⟩
      have hsame : item.entry = ref := rfl
      simp [hsame, hentry]
  · rw [hitems, List.pairwise_append]
    refine ⟨h.ordered, List.pairwise_singleton _ _, fun item' hmem last hlast => ?_⟩
    rw [List.mem_singleton.1 hlast]
    exact hlater _ (h.stamped item' hmem)
  · rw [hitems, List.map_append, h.served, Ledger.waitingItems_append]
    rfl
  · refine Eq.trans ?_ h.ids
    exact map_modify RegisteredRequest.requestId cp.entries ref fun _ => rfl
  · rw [hitems] at hmem
    rcases List.mem_append.1 hmem with hmem | hmem
    · exact List.mem_append_left _ (h.stamped item' hmem)
    · rw [List.mem_singleton.1 hmem]
      exact List.mem_append_right _ (List.mem_singleton.2 rfl)

theorem QueueInv.mono (h : QueueInv cfg entries readings cp ledger) {readings' : List Time}
    (hsub : ∀ t ∈ readings, t ∈ readings') : QueueInv cfg entries readings' cp ledger :=
  { h with stamped := fun item hitem => hsub _ (h.stamped item hitem) }

/-- the ledger knows who waits and how many they are -/
theorem QueueLaw.enqueue_iff (h : QueueLaw cfg cp ledger) (r : UUID) :
    (r ∈ ledger.waitingItems.map Prod.fst ∨ cfg.maxQueueSize ≤ ledger.waitingItems.length) ↔
      cp.contains r = true ∨ cfg.maxQueueSize ≤ cp.items.length := by
  rw [← h.served, List.map_map, List.length_map]
  refine or_congr_left ?_
  rw [List.mem_map, ControlPlaneApplication.contains, List.any_eq_true]
  simp only [decide_eq_true_eq]
  rfl

/-- the entry of a request is under the same reference from the start -/
theorem QueueInv.entry (h : QueueInv cfg entries readings cp ledger) (ref : Ref) :
    entries[ref]?.map RegisteredRequest.requestId = cp.entries[ref]?.map RegisteredRequest.requestId := by
  rw [← List.getElem?_map, ← List.getElem?_map, h.ids]

theorem QueueInv.refused (h : QueueInv cfg entries readings cp ledger)
    (hno : ∀ entry, (cp.expired cfg now).entries[ref]? = some entry →
      (cp.expired cfg now).contains entry.requestId = true ∨ cfg.maxQueueSize ≤ (cp.expired cfg now).items.length) :
    ledger.step cfg entries (.enqueue ref now now') = ledger.expire cfg now := by
  have hexp := h.expired now
  have hsame := hexp.entry ref
  rw [Ledger.step]
  cases hentry : entries[ref]? with
  | none => rfl
  | some entry₀ =>
    rw [hentry, Option.map_some] at hsame
    obtain ⟨entry, he, hid⟩ := Option.map_eq_some_iff.1 hsame.symm
    exact if_pos ((hexp.toQueueLaw.enqueue_iff _).2 (hid ▸ hno entry he))

theorem QueueInv.accepted (h : QueueInv cfg entries readings cp ledger) {entry : RegisteredRequest}
    (hentry : (cp.expired cfg now).entries[ref]? = some entry)
    (hnew : (cp.expired cfg now).contains entry.requestId = false)
    (hroom : (cp.expired cfg now).items.length < cfg.maxQueueSize) :
    ledger.step cfg entries (.enqueue ref now now') =
      ledger.expire cfg now ++ [⟨(entry.requestId, now'), true⟩] := by
  have hexp := h.expired now
  have hsame := hexp.entry ref
  rw [hentry, Option.map_some] at hsame
  obtain ⟨entry₀, he, hid⟩ := Option.map_eq_some_iff.1 hsame
  have hgo : ¬((cp.expired cfg now).contains entry₀.requestId = true ∨
      cfg.maxQueueSize ≤ (cp.expired cfg now).items.length) := by
    rw [hid, hnew]
    simpa using hroom
  rw [Ledger.step, he]
  simp only [Ledger.enqueue]
  rw [if_neg (mt (hexp.toQueueLaw.enqueue_iff _).1 hgo), hid]

theorem QueueInv.dequeued (h : QueueInv cfg entries readings cp ledger) {item : QueuedRequest}
    {rest : List QueuedRequest}
    (hitems : cp.items = item :: rest) : QueueInv cfg entries readings (cp.requeued rest) ledger.dequeue := by
  have hwaiting : ledger.waitingItems = item.waiting :: rest.map QueuedRequest.waiting := by
    rw [← h.served, hitems, List.map_cons]
  have hrest : rest = cp.items.eraseP fun other => other.requestId = item.requestId := by
    rw [hitems, List.eraseP_cons_of_pos (by simp)]
  have hleave : ledger.dequeue = ledger.leave fun other => other.1 = item.requestId := by
    simp only [Ledger.dequeue, hwaiting]
    rfl
  rw [hrest, hleave]
  exact h.removed item.requestId

theorem QueueInv.dequeue_nothing (h : QueueInv cfg entries readings cp ledger) (hitems : cp.items = []) :
    ledger.dequeue = ledger := by
  have hwaiting : ledger.waitingItems = [] := by rw [← h.served, hitems, List.map_nil]
  simp only [Ledger.dequeue, hwaiting]

/-! ## What the operations answer -/

/-- the answer in terms of the waiting tickets; an enqueue that raises leaves what the expiry alone would leave -/
def QueueCall.Answers (cfg : QueueCapacityConfig) (entries : List RegisteredRequest) (cp : ControlPlaneApplication)
    (ledger : Ledger) : QueueCall → Prop
  | .enqueue ref now now' =>
    match EStateM.run (enqueueAt cfg ref now now') cp with
    | .ok (.ok queued) _ =>
      ledger.step cfg entries (.enqueue ref now now') = ledger.expire cfg now ++ [⟨queued.waiting, true⟩]
    | .ok (.error _) cp' | .error _ cp' =>
      ledger.step cfg entries (.enqueue ref now now') = ledger.expire cfg now ∧
        cp' = (expireTimeoutsLocked cfg now).final cp
  | .dequeue now => ∃ item cp', EStateM.run (ControlPlane.dequeue cfg now) cp = .ok item cp' ∧
      item.map QueuedRequest.waiting = (ledger.expire cfg now).waitingItems.head?
  | .peek now => ∃ item cp', EStateM.run (ControlPlane.peek cfg now) cp = .ok item cp' ∧
      item.map QueuedRequest.waiting = (ledger.expire cfg now).waitingItems.head?
  | .remove requestId => ∃ item cp', EStateM.run (removeItem requestId) cp = .ok item cp' ∧
      item.map QueuedRequest.waiting = ledger.waitingItems.find? fun waiting => waiting.1 = requestId
  | .expireTimeouts now => ∃ n cp', EStateM.run (expireTimeoutsLocked cfg now) cp = .ok (cp.items.take n) cp' ∧
      cp'.items = numbered (cp.items.drop n) ∧
      (∀ item ∈ cp.items.take n, overdue cfg now item = true) ∧ ∀ item ∈ cp.items.drop n, overdue cfg now item = false
  | .clear => ∃ cp', EStateM.run ControlPlane.clear cp = .ok ledger.waitingItems.length cp' ∧ cp'.items = []
  | .listItems now => ∃ items cp', EStateM.run (ControlPlane.listItems cfg now) cp = .ok items cp' ∧
      items.map QueuedRequest.waiting = (ledger.expire cfg now).waitingItems

theorem QueueInv.step (h : QueueInv cfg entries readings cp ledger) (call : QueueCall)
    (hlater : ∀ t ∈ readings, ∀ t' ∈ call.readings, t ≤ t') :
    QueueInv cfg entries (readings ++ call.readings) (call.step cfg cp) (ledger.step cfg entries call) := by
  have hmono : ∀ {cp' : ControlPlaneApplication} {ledger' : Ledger}, QueueInv cfg entries readings cp' ledger' →
      QueueInv cfg entries (readings ++ call.readings) cp' ledger' :=
    fun h' => h'.mono fun t ht => List.mem_append_left _ ht
  cases call with
  | enqueue ref now now' =>
    simp only [QueueCall.step]
    rcases enqueueAt_run cfg ref now now' cp with ⟨hno, ⟨err, hrun⟩ | ⟨reason, hrun⟩⟩
      | ⟨entry, hentry, hnew, hroom, hrun⟩
    · rw [final_error hrun, h.refused hno]
      exact hmono (h.expired now)
    · rw [final_ok hrun, h.refused hno]
      exact hmono (h.expired now)
    · rw [final_ok hrun, h.accepted hentry hnew hroom]
      refine ((h.expired now).enqueued hentry hnew hroom fun t ht =>
        hlater t ht now' (by simp [QueueCall.readings])).mono
        fun t ht => ?_
      rcases List.mem_append.1 ht with ht | ht
      · exact List.mem_append_left _ ht
      · refine List.mem_append_right _ ?_
        rw [List.mem_singleton.1 ht]
        simp [QueueCall.readings]
  | dequeue now =>
    simp only [QueueCall.step]
    have hexp := h.expired now
    rcases dequeue_run cfg now cp with ⟨hitems, hrun⟩ | ⟨item, rest, hitems, hrun⟩
    · rw [final_ok hrun]
      have hnothing : ledger.step cfg entries (.dequeue now) = ledger.expire cfg now := hexp.dequeue_nothing hitems
      exact hmono (hnothing ▸ hexp)
    · rw [final_ok hrun]
      exact hmono (hexp.dequeued hitems)
  | peek now => exact hmono (h.expired now)
  | listItems now => exact hmono (h.expired now)
  | expireTimeouts now => exact hmono (h.expired now)
  | remove r =>
    simp only [QueueCall.step]
    rcases removeItem_run r cp with ⟨hfind, hrun⟩ | ⟨item, hfind, hrun⟩
    · rw [final_ok hrun]
      -- nobody waits under the id, so no ticket leaves
      refine hmono { h with served := ?_ }
      have hall := List.find?_eq_none.1 hfind
      have hkeep : (cp.items.filter fun item => !decide (item.requestId = r)) = cp.items :=
        List.filter_eq_self.2 fun item hitem => by simpa using hall item hitem
      have hserved := (h.removed r).served
      rw [eraseP_eq_filter h.distinct, hkeep] at hserved
      exact (map_numbered _ (fun _ _ => rfl) cp.items).symm.trans hserved
    · rw [final_ok hrun]
      exact hmono (h.removed r)
  | clear =>
    have hnobody : (ledger.leave fun _ => true).waitingItems = [] := by simp [Ledger.waitingItems_leave]
    refine hmono ⟨⟨List.nodup_nil, Nat.zero_le _, ?_, List.Pairwise.nil, hnobody.symm⟩, h.ids, ?_⟩
    · intro i item hi
      cases hi
    · intro item hitem
      cases hitem

theorem QueueInv.answers (h : QueueInv cfg entries readings cp ledger) (call : QueueCall) :
    call.Answers cfg entries cp ledger := by
  have hhead : ∀ now, (cp.expired cfg now).items.head?.map QueuedRequest.waiting =
      (ledger.expire cfg now).waitingItems.head? := by
    intro now
    rw [← (h.expired now).served, List.head?_map]
  cases call with
  | enqueue ref now now' =>
    simp only [QueueCall.Answers]
    rcases enqueueAt_run cfg ref now now' cp with ⟨hno, ⟨err, hrun⟩ | ⟨reason, hrun⟩⟩
      | ⟨entry, hentry, hnew, hroom, hrun⟩
    · rw [hrun]
      exact ⟨h.refused hno, rfl⟩
    · rw [hrun]
      exact ⟨h.refused hno, rfl⟩
    · rw [hrun]
      exact h.accepted hentry hnew hroom
  | dequeue now =>
    rcases dequeue_run cfg now cp with ⟨hitems, hrun⟩ | ⟨item, rest, hitems, hrun⟩
    · refine ⟨none, _, hrun, ?_⟩
      rw [← hhead now, hitems, List.head?_nil]
    · refine ⟨some item, _, hrun, ?_⟩
      rw [← hhead now, hitems, List.head?_cons]
  | peek now => exact ⟨_, _, peek_run cfg now cp, hhead now⟩
  | listItems now => exact ⟨_, _, listItems_run cfg now cp, (h.expired now).served⟩
  | expireTimeouts now =>
    obtain ⟨n, htake, hdrop⟩ := h.overdue_prefix now
    refine ⟨n, cp.expired cfg now, htake ▸ expire_run cfg now cp, ?_, fun item hitem => ?_, fun item hitem => ?_⟩
    · rw [← hdrop]
      rfl
    · rw [← htake] at hitem
      exact (List.mem_filter.1 hitem).2
    · rw [← hdrop] at hitem
      simpa using (List.mem_filter.1 hitem).2
  | remove r =>
    have hfound : (cp.items.find? fun item => item.requestId = r).map QueuedRequest.waiting =
        ledger.waitingItems.find? fun waiting => waiting.1 = r := by
      rw [← h.served, List.find?_map]
      rfl
    rcases removeItem_run r cp with ⟨hfind, hrun⟩ | ⟨item, hfind, hrun⟩
    · refine ⟨none, _, hrun, ?_⟩
      rw [← hfound, hfind, Option.map_none]
    · refine ⟨some item, _, hrun, ?_⟩
      rw [← hfound, hfind, Option.map_some]
  | clear =>
    refine ⟨{ cp with items := [] }, ?_, rfl⟩
    rw [← h.served, List.length_map]
    exact clear_run cp

/-- in every run with a clock that does not go back -/
theorem run_queueInv (cfg : QueueCapacityConfig) (entries : List RegisteredRequest) (calls : List QueueCall)
    (hclock : Clocked calls) :
    QueueInv cfg entries (calls.flatMap QueueCall.readings) (run (QueueCall.step cfg) (emptyQueue entries) calls)
      (run (Ledger.step cfg entries) [] calls) := by
  induction calls using List.reverseRecOn with
  | nil => exact queueInv_empty cfg entries
  | append_singleton calls call ih =>
    rw [Clocked, List.flatMap_append, List.pairwise_append, List.flatMap_singleton] at hclock
    rw [run_append, run_append, List.flatMap_append, List.flatMap_singleton]
    exact (ih hclock.1).step call hclock.2.2

/-- **The queue is first in, first out.** After any operations with a clock that does not go back, the queue holds the
waiting tickets in their order, and the next operation answers by them. -/
theorem fifo_queue (cfg : QueueCapacityConfig) (entries : List RegisteredRequest) (calls : List QueueCall)
    (hclock : Clocked calls) :
    let cp := run (QueueCall.step cfg) (emptyQueue entries) calls
    let ledger := run (Ledger.step cfg entries) [] calls
    QueueLaw cfg cp ledger ∧ ∀ call : QueueCall, call.Answers cfg entries cp ledger := by
  have h := run_queueInv cfg entries calls hclock
  exact ⟨h.toQueueLaw, h.answers⟩

def sampleEntry (r : UUID) : RegisteredRequest :=
  { submit := ⟨⟨r, "m", [], false, 16, none⟩, ⟨"t", 0⟩⟩, state := .admitted, createdAt := 0, updatedAt := 0 }

/-- three enqueues, the last of them refused, and a removal -/
def sampleCalls : List QueueCall := [.enqueue 0 0 1, .enqueue 1 2 2, .enqueue 2 2 3, .remove 1]

/-- the queue of two lost its head: the other item has moved up, and is the one to be dequeued -/
theorem fifo_queue_removal :
    let cp := run (QueueCall.step ⟨2, 1000⟩) (emptyQueue [sampleEntry 1, sampleEntry 2, sampleEntry 3]) sampleCalls
    let ledger := run (Ledger.step ⟨2, 1000⟩ [sampleEntry 1, sampleEntry 2, sampleEntry 3]) [] sampleCalls
    ledger = [⟨(1, 1), false⟩, ⟨(2, 2), true⟩] ∧ QueueLaw ⟨2, 1000⟩ cp ledger ∧
      ∀ call : QueueCall, call.Answers ⟨2, 1000⟩ [sampleEntry 1, sampleEntry 2, sampleEntry 3] cp ledger :=
  ⟨by decide, fifo_queue ⟨2, 1000⟩ [sampleEntry 1, sampleEntry 2, sampleEntry 3] sampleCalls
    (by unfold Clocked; decide)⟩

end InferencePlatform.ControlPlane
