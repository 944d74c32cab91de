/-
Submitting a registered id again.

Nothing in the registration looks the id up: while the registry has room, `register` puts a new entry over the old one,
and `process_through_queued` registers first and meets the queue's own check for duplicates only at the end. At capacity
`register` refuses, and the failure handler of `process_through_queued` then fails the entry that was there before.

`duplicate_harmless_iff` says exactly when a duplicate leaves the entry and the waiting item of its id alone, in every
state that a run reaches, earlier duplicates included.
-/
import InferencePlatform.ControlPlane.Capacity

namespace InferencePlatform.ControlPlane

open InferencePlatform.Core (Dict run)

variable {cfg : Settings} {cp cp' : ControlPlaneApplication} {R : Dict UUID Ref} {submit : SubmitRequest} {r : UUID}
  {now : Time}

/-- an item without its place, which changes whenever an earlier item leaves -/
def QueuedRequest.unplaced (item : QueuedRequest) : QueuedRequest := { item with queuePosition := 0 }

/-- the waiting items of a request -/
def ControlPlaneApplication.itemsOf (cp : ControlPlaneApplication) (r : UUID) : List QueuedRequest :=
  cp.items.filter fun item => item.requestId = r

/-- the registry holds the same entry for the request, which says the same, and the queue the same item; places in the
queue aside -/
structure Untouched (r : UUID) (cp cp' : ControlPlaneApplication) : Prop where
  ref : cp'.registry.get? r = cp.registry.get? r
  content : (cp'.entry? r).map RegisteredRequest.content = (cp.entry? r).map RegisteredRequest.content
  items : (cp'.itemsOf r).map QueuedRequest.unplaced = (cp.itemsOf r).map QueuedRequest.unplaced

/-- the call raises, or it returns an entry that has failed or been rejected -/
def Refuses : EStateM.Result ControlPlaneError ControlPlaneApplication Ref → Prop
  | .ok ref cp => ∃ e, cp.entries[ref]? = some e ∧ (e.state = .failed ∨ e.state = .rejected)
  | .error _ _ => True

/-- the call refuses the duplicate and leaves the request alone -/
def Harmless (r : UUID) (x : ControlPlaneM Ref) (cp : ControlPlaneApplication) : Prop :=
  Untouched r cp (x.final cp) ∧ Refuses (EStateM.run x cp)

/-- the request has failed for capacity at this very instant, and its item, if it waits, is not overdue -/
structure AlreadyRefused (cfg : Settings) (cp : ControlPlaneApplication) (r : UUID) (now : Time) : Prop where
  entry : ∃ e, cp.entry? r = some e ∧ e.state = .failed ∧ e.failureReason = some .internalError ∧
    e.failureMessage = some capacityMessage ∧ e.updatedAt = now
  items : ∀ item ∈ cp.itemsOf r, overdue cfg.queue now item = false

/-! ## The waiting items -/

theorem Untouched.refl (r : UUID) (cp : ControlPlaneApplication) : Untouched r cp cp := ⟨rfl, rfl, rfl⟩

/-- expiry leaves those items of a request that are not overdue -/
theorem itemsOf_expired (cfg : QueueCapacityConfig) (now : Time) (r : UUID)
    (h : cp'.items = numbered (cp.items.filter fun item => !overdue cfg now item)) :
    (cp'.itemsOf r).map QueuedRequest.unplaced =
      ((cp.itemsOf r).filter fun item => !overdue cfg now item).map QueuedRequest.unplaced := by
  have hfilter : ∀ items : List QueuedRequest,
      (items.filter fun item => item.requestId = r).map QueuedRequest.unplaced =
      (items.map QueuedRequest.unplaced).filter fun item => item.requestId = r := fun items => by
    rw [List.filter_map]
    rfl
  calc (cp'.itemsOf r).map QueuedRequest.unplaced
      = (cp'.items.map QueuedRequest.unplaced).filter fun item => item.requestId = r := hfilter _
    _ = ((cp.items.filter fun item => !overdue cfg now item).map QueuedRequest.unplaced).filter
          fun item => item.requestId = r := by rw [h, map_numbered _ fun _ _ => rfl]
    _ = ((cp.items.filter fun item => !overdue cfg now item).filter fun item => item.requestId = r).map
          QueuedRequest.unplaced := (hfilter _).symm
    _ = ((cp.itemsOf r).filter fun item => !overdue cfg now item).map QueuedRequest.unplaced := by
          rw [List.filter_filter, ControlPlaneApplication.itemsOf, List.filter_filter]
          simp only [Bool.and_comm]

theorem itemsOf_kept_iff (cp' : ControlPlaneApplication) (cfg : QueueCapacityConfig) (now : Time) (r : UUID)
    (h : cp'.items = numbered (cp.items.filter fun item => !overdue cfg now item)) :
    (cp'.itemsOf r).map QueuedRequest.unplaced = (cp.itemsOf r).map QueuedRequest.unplaced ↔
      ∀ item ∈ cp.itemsOf r, overdue cfg now item = false := by
  rw [itemsOf_expired cfg now r h]
  constructor
  · intro hsame item hitem
    have hlength := congrArg List.length hsame
    rw [List.length_map, List.length_map, List.length_filter_eq_length_iff] at hlength
    simpa using hlength item hitem
  · intro hkept
    rw [List.filter_eq_self.2 fun item hitem => by simp [hkept item hitem]]

/-! ## The two calls -/

/-- a registration leaves the entry of the id alone exactly when it is refused -/
theorem register_harmless_iff (cfg : Settings) (h : Linked R cp) (submit : SubmitRequest) (initialState : RequestState)
    (now : Time) :
    Harmless submit.inferenceRequest.requestId (register cfg submit initialState now) cp ↔
      (initialState ≠ .received ∧ initialState ≠ .validated) ∨ cfg.registryMaxEntries ≤ R.items.length := by
  rcases register_run cfg h submit initialState now with ⟨hr, hv, hrun⟩ | ⟨-, hfull, hrun⟩ |
    ⟨hinit, hroom, ref', cp', hrun, h', hnew⟩
  · refine ⟨fun _ => Or.inl ⟨hr, hv⟩, fun _ => ?_⟩
    rw [Harmless, final_error hrun, hrun]
    exact ⟨Untouched.refl _ cp, trivial⟩
  · refine ⟨fun _ => Or.inr hfull, fun _ => ?_⟩
    rw [Harmless, final_error hrun, hrun]
    exact ⟨Untouched.refl _ cp, trivial⟩
  · constructor
    · rintro ⟨huntouched, -⟩
      have href := huntouched.ref
      rw [final_ok hrun, h'.registry, Dict.get?_set_self, h.registry] at href
      exact absurd href.symm (hnew _)
    · rintro (⟨hr, hv⟩ | hfull)
      · rcases hinit with hinit | hinit
        · exact absurd hinit hr
        · exact absurd hinit hv
      · omega

/-- with room in the registry the entry is replaced; at capacity it is made to say that it has failed just now -/
theorem process_harmless_iff (cfg : Settings) (h : Linked R cp) (submit : SubmitRequest)
    (checks : List (Except String AdmissionResult)) (now now' : Time) {ref : Ref}
    (hdup : R.get? submit.inferenceRequest.requestId = some ref) :
    Harmless submit.inferenceRequest.requestId (processThroughQueued cfg submit checks now now') cp ↔
      cfg.registryMaxEntries ≤ R.items.length ∧ AlreadyRefused cfg cp submit.inferenceRequest.requestId now := by
  by_cases hroom : R.items.length < cfg.registryMaxEntries
  · obtain ⟨ref', hnew, h'⟩ := registered_linked cfg submit checks now now' h hroom
    constructor
    · rintro ⟨huntouched, -⟩
      have href := huntouched.ref
      rw [h'.registry, Dict.get?_set_self, h.registry] at href
      exact absurd href.symm (hnew _)
    · rintro ⟨hfull, -⟩
      omega
  set r := submit.inferenceRequest.requestId with hrdef
  have hfull : cfg.registryMaxEntries ≤ R.items.length := Nat.le_of_not_lt hroom
  obtain ⟨refs, cp₁, hrun₁, h₁, hitems, -, hspares⟩ := processTimeouts_run cfg.queue h now
  obtain ⟨-, hrefused⟩ := refused_run cfg submit checks now now' hfull hrun₁ h₁
  obtain ⟨e, he, hid⟩ := h.registered _ _ hdup
  obtain ⟨e₁, he₁, hid₁⟩ := h₁.registered _ _ hdup
  have hr₁ : cp₁.registry.get? r = some ref := h₁.registry.symm ▸ hdup
  obtain ⟨e₂, events, hrun₂, hb, hcontent⟩ := markFailed_store hr₁ he₁ .internalError capacityMessage now none none
  set cp₂ := (cp₁.store ref e₂).logged events with hcp₂
  rw [← hrdef, hrun₂] at hrefused
  have hentry : cp.entry? r = some e := entry?_eq_some.2 ⟨ref, h.registry.symm ▸ hdup, he⟩
  have hentry₂ : cp₂.entry? r = some e₂ := entry?_eq_some.2 ⟨ref, hr₁, store_get he₁ e₂⟩
  have hkept := itemsOf_kept_iff cp₂ cfg.queue now r hitems
  -- the entry that is failed is the one that was there before, unless it has timed out first
  have hsame : (∀ item ∈ cp.itemsOf r, overdue cfg.queue now item = false) →
      e₂.content = e.failedContent .internalError capacityMessage now := by
    intro hquiet
    obtain ⟨e₁', he₁', hc⟩ := (hspares r fun item hitem hover hitemr => by
      have hno := hquiet item (List.mem_filter.2 ⟨hitem, by simpa using hitemr⟩)
      rw [hno] at hover
      cases hover).content he hid
    rw [he₁] at he₁'
    cases he₁'
    rw [hcontent, RegisteredRequest.failedContent, RegisteredRequest.failedContent, ← hc]
    rfl
  rw [Harmless, final_ok hrefused, hrefused]
  constructor
  · rintro ⟨huntouched, -⟩
    have hquiet := hkept.1 huntouched.items
    have hsays := huntouched.content
    rw [hentry, hentry₂, Option.map_some, Option.map_some, Option.some.injEq, hsame hquiet] at hsays
    have hstate : RequestState.failed = e.state := congrArg RegisteredRequest.state hsays
    have hreason : some FailureReason.internalError = e.failureReason := congrArg RegisteredRequest.failureReason hsays
    have hmessage : some capacityMessage = e.failureMessage := congrArg RegisteredRequest.failureMessage hsays
    have htime : now = e.updatedAt := congrArg RegisteredRequest.updatedAt hsays
    exact ⟨hfull, ⟨⟨e, hentry, hstate.symm, hreason.symm, hmessage.symm, htime.symm⟩, hquiet⟩⟩
  · rintro ⟨-, ⟨e', he', hstate, hreason, hmessage, htime⟩, hquiet⟩
    rw [hentry] at he'
    cases he'
    have hsays : e.failedContent .internalError capacityMessage now = e.content := by
      rw [RegisteredRequest.failedContent, ← hstate, ← hreason, ← hmessage, ← htime]
      rfl
    refine ⟨⟨?_, ?_, hkept.2 hquiet⟩, e₂, store_get he₁ e₂, Or.inl hb.state⟩
    · rw [h.registry]
      exact hr₁.trans hdup.symm
    · rw [hentry, hentry₂, Option.map_some, Option.map_some, hsame hquiet, hsays]

/-- **When a duplicate is harmless.** In every state of every run and for every id that is registered there, whatever
has become of its request: `register` is harmless exactly when it refuses the first state or the registry is at
capacity, and `process_through_queued` exactly when the registry is at capacity and the request has already failed for
that at this very instant. -/
theorem duplicate_harmless_iff (cfg : Settings) (ops : List Op) (submit : SubmitRequest)
    (hdup : (run (ControlPlaneApplication.step cfg) .init ops).registry.contains
      submit.inferenceRequest.requestId = true) :
    (∀ initialState now, Harmless submit.inferenceRequest.requestId (register cfg submit initialState now)
        (run (ControlPlaneApplication.step cfg) .init ops) ↔
      (initialState ≠ .received ∧ initialState ≠ .validated) ∨
        cfg.registryMaxEntries ≤ (run (ControlPlaneApplication.step cfg) .init ops).count) ∧
    ∀ checks now now', Harmless submit.inferenceRequest.requestId (processThroughQueued cfg submit checks now now')
        (run (ControlPlaneApplication.step cfg) .init ops) ↔
      cfg.registryMaxEntries ≤ (run (ControlPlaneApplication.step cfg) .init ops).count ∧
        AlreadyRefused cfg (run (ControlPlaneApplication.step cfg) .init ops)
          submit.inferenceRequest.requestId now := by
  obtain ⟨R, h⟩ := run_linked cfg ops
  set cp := run (ControlPlaneApplication.step cfg) .init ops with hcp
  have hcount : cp.count = R.items.length := congrArg (fun d => d.items.length) h.registry
  rw [hcount]
  rw [h.registry] at hdup
  obtain ⟨ref, href⟩ := (Dict.contains_iff _ _).1 hdup
  constructor
  · intro initialState now
    exact register_harmless_iff cfg h submit initialState now
  · intro checks now now'
    exact process_harmless_iff cfg h submit checks now now' href

theorem duplicate_harmless_iff_completed :
    (run (ControlPlaneApplication.step sampleSettings) .init completedOps).registry.contains
        (sampleSubmit 1).inferenceRequest.requestId = true ∧
      (Harmless 1 (register sampleSettings (sampleSubmit 1) .queued 9)
          (run (ControlPlaneApplication.step sampleSettings) .init completedOps) ↔
        (RequestState.queued ≠ .received ∧ RequestState.queued ≠ .validated) ∨
          sampleSettings.registryMaxEntries ≤
            (run (ControlPlaneApplication.step sampleSettings) .init completedOps).count) :=
  ⟨by decide +kernel, (duplicate_harmless_iff sampleSettings completedOps (sampleSubmit 1) (by decide +kernel)).1
    .queued 9⟩

/-- **A duplicate undoes a finished request.** The id of a COMPLETED request is submitted again: its entry is replaced,
and the new one fails, for the item of the first still waits. -/
theorem duplicate_replaces_completed :
    (run (ControlPlaneApplication.step sampleSettings) .init completedOps).state? 1 = some .completed ∧
    ((processThroughQueued sampleSettings (sampleSubmit 1) [] 9 9).final
      (run (ControlPlaneApplication.step sampleSettings) .init completedOps)).state? 1 = some .failed ∧
    ¬Harmless 1 (register sampleSettings (sampleSubmit 1) .received 9)
      (run (ControlPlaneApplication.step sampleSettings) .init completedOps) ∧
    ¬Harmless 1 (processThroughQueued sampleSettings (sampleSubmit 1) [] 9 9)
      (run (ControlPlaneApplication.step sampleSettings) .init completedOps) := by
  refine ⟨by decide +kernel, by decide +kernel, fun h => ?_, fun h => ?_⟩
  · exact absurd h.1.ref (by decide +kernel)
  · exact absurd h.1.ref (by decide +kernel)

end InferencePlatform.ControlPlane
