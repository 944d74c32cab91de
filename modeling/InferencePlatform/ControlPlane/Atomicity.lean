/-
What a lifecycle operation that raises leaves behind.

`complete_request` looks at the state before it writes. `transition` stores the batch and the backend it is given first,
and looks at the table of transitions then: a refused transition keeps them in the entry.

`failed_operation_iff`: in any state, a refused transition leaves every registry entry as it was exactly when each id it
was given is the one that the entry has; a refused completion always does.
-/
import InferencePlatform.ControlPlane.Links
import InferencePlatform.ControlPlane.Safety

namespace InferencePlatform.ControlPlane

open InferencePlatform.Core (Dict run)

variable {cp cp' : ControlPlaneApplication} {r : UUID} {ref : Ref} {e : RegisteredRequest}

/-- every request has the registry entry it had, with all its fields -/
def SameEntries (cp cp' : ControlPlaneApplication) : Prop := ∀ r, cp'.entry? r = cp.entry? r

/-- the ids that are given are those of the entry -/
structure Holding (e : RegisteredRequest) (batchId : Option UUID) (backendId : Option String) : Prop where
  batch : ∀ b, batchId = some b → e.batchId = some b
  backend : ∀ b, backendId = some b → e.backendId = some b

theorem or_eq_right_iff {α : Type} {a b : Option α} : a.or b = b ↔ ∀ x, a = some x → b = some x := by
  cases a with
  | none => simp
  | some x => simp [eq_comm]

theorem assign_eq_iff {batchId : Option UUID} {backendId : Option String} :
    e.assign batchId backendId = e ↔ Holding e batchId backendId := by
  constructor
  · intro h
    have hbatch : batchId.or e.batchId = e.batchId := congrArg RegisteredRequest.batchId h
    have hbackend : backendId.or e.backendId = e.backendId := congrArg RegisteredRequest.backendId h
    exact ⟨or_eq_right_iff.1 hbatch, or_eq_right_iff.1 hbackend⟩
  · rintro ⟨hbatch, hbackend⟩
    rw [RegisteredRequest.assign, or_eq_right_iff.2 hbatch, or_eq_right_iff.2 hbackend]

/-- an entry is changed in its place, and it is the entry of one id only -/
theorem sameEntries_store (hr : cp.registry.get? r = some ref) (he : cp.entries[ref]? = some e)
    (e' : RegisteredRequest) :
    SameEntries cp (cp.store ref e') ↔ e' = e := by
  constructor
  · intro hsame
    have hafter : ControlPlaneApplication.entry? (cp.store ref e') r = some e' :=
      entry?_eq_some.2 ⟨ref, hr, store_get he e'⟩
    have hbefore : cp.entry? r = some e := entry?_eq_some.2 ⟨ref, hr, he⟩
    rw [hsame r, hbefore] at hafter
    exact (Option.some.inj hafter).symm
  · rintro rfl r'
    have hentries : (cp.store ref e').entries = cp.entries := by
      obtain ⟨hlt, rfl⟩ := List.getElem?_eq_some_iff.1 he
      exact List.set_getElem_self hlt
    rw [ControlPlaneApplication.entry?, ControlPlaneApplication.entry?, hentries]
    rfl

/-- when a lifecycle operation that raises leaves every entry as it was -/
theorem failed_operation_iff (cfg : Settings) (ops : List Op) (r : UUID) (e : RegisteredRequest)
    (he : ControlPlaneApplication.entry? (run (ControlPlaneApplication.step cfg) .init ops) r = some e) :
    let cp := run (ControlPlaneApplication.step cfg) .init ops
    (∀ toState now batchId backendId err cp', EStateM.run (transition r toState now batchId backendId) cp =
      .error err cp' →
      (SameEntries cp cp' ↔ Holding e batchId backendId)) ∧
    ∀ completion now err cp', EStateM.run (completeRequest r completion now) cp = .error err cp' →
      SameEntries cp cp' := by
  intro cp
  obtain ⟨ref, hr, he⟩ := entry?_eq_some.1 he
  constructor
  · intro toState now batchId backendId err cp' hrun
    cases hallowed : isAllowedTransition e.state toState with
    | true =>
      obtain ⟨events, hok⟩ := transition_store hr he hallowed now batchId backendId
      rw [hok] at hrun
      cases hrun
    | false =>
      rw [transition_refused hr he hallowed] at hrun
      cases hrun
      rw [sameEntries_store hr he, assign_eq_iff]
  · intro completion now err cp' hrun
    obtain ⟨hok, hrefused⟩ := completeRequest_run hr he completion now
    by_cases hstate : e.state = .submitted ∨ e.state = .streaming
    · obtain ⟨e', events, hok, -⟩ := hok hstate
      rw [hok] at hrun
      cases hrun
    · rw [hrefused hstate] at hrun
      cases hrun
      exact fun _ => rfl

/-- a request that has waited for too long -/
def timedOutOps : List Op := [.processThroughQueued (sampleSubmit 1) [] 0 0, .processTimeouts 30000001]

/-- what the runs below start from: the entry, and no edge to SCHEDULED -/
theorem timedOut_entry :
    ∃ e, (run (ControlPlaneApplication.step sampleSettings) .init timedOutOps).registry.get? 1 = some 0 ∧
    (run (ControlPlaneApplication.step sampleSettings) .init timedOutOps).entries[0]? = some e ∧
    isAllowedTransition e.state .scheduled = false := by
  have hstate : (run (ControlPlaneApplication.step sampleSettings) .init timedOutOps).entries[0]?.map
      RegisteredRequest.state = some .timedOut := by decide
  obtain ⟨e, he, hst⟩ := Option.map_eq_some_iff.1 hstate
  exact ⟨e, by decide, he, by rw [hst]; rfl⟩

/-- a transition that names no batch and no backend is refused without a trace -/
theorem refused_without_ids :
    let cp := run (ControlPlaneApplication.step sampleSettings) .init timedOutOps
    ∃ err cp', EStateM.run (transition 1 .scheduled 30000002) cp = .error err cp' ∧ SameEntries cp cp' := by
  intro cp
  obtain ⟨e, hr, he, hno⟩ := timedOut_entry
  have hrun := transition_refused hr he hno 30000002 none none
  refine ⟨_, _, hrun, ?_⟩
  exact ((failed_operation_iff sampleSettings timedOutOps 1 e (entry?_eq_some.2 ⟨0, hr, he⟩)).1 _ _ _ _ _ _ hrun).2
    ⟨by simp, by simp⟩

/-- the request has timed out, and the batch it was to be scheduled in is stored in its entry all the same -/
theorem refused_with_batch :
    let cp := run (ControlPlaneApplication.step sampleSettings) .init timedOutOps
    let cp' := (transition 1 .scheduled 30000002 (some 7)).final cp
    (∃ err, EStateM.run (transition 1 .scheduled 30000002 (some 7)) cp = .error err cp') ∧
      (cp.entry? 1).map RegisteredRequest.batchId = some none ∧
      (cp'.entry? 1).map RegisteredRequest.batchId = some (some 7) ∧ ¬SameEntries cp cp' := by
  intro cp cp'
  have hbefore : (cp.entry? 1).map RegisteredRequest.batchId = some none := by decide
  have hafter : (cp'.entry? 1).map RegisteredRequest.batchId = some (some 7) := by decide
  obtain ⟨e, hr, he, hno⟩ := timedOut_entry
  have hrun := transition_refused hr he hno 30000002 (some 7) none
  refine ⟨⟨.invalidTransition 1 e.state .scheduled, ?_⟩, hbefore, hafter, fun hsame => ?_⟩
  · rw [show cp' = _ from final_error hrun]
    exact hrun
  · rw [hsame 1, hbefore] at hafter
    cases hafter

end InferencePlatform.ControlPlane
