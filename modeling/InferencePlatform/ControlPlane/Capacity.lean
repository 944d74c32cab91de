/-
The registry's capacity, over runs of any length.

The registry counts every id it has ever seen: nothing removes an entry, not even one whose request is over. So what
decides a registration is the number of entries (`count`), not the number of live ones (`listActive`). And the failure
handler of `process_through_queued` looks up the id whose registration has just been refused, so the call raises a
not-found error instead of the capacity failure.

`capacity_bounds_live_iff` says when a call on a fresh id is right all the same: exactly while there is room.
-/
import InferencePlatform.ControlPlane.Links
import InferencePlatform.ControlPlane.Safety

namespace InferencePlatform.ControlPlane

open InferencePlatform.Core (Dict run)

variable {cfg : Settings} {cp : ControlPlaneApplication} {submit : SubmitRequest}
  {now : Time}

namespace ControlPlaneApplication

/-- `registry.count` -/
def count (cp : ControlPlaneApplication) : ℕ := cp.registry.items.length

/-- `registry.list_active`: non-terminal requests currently owned by the control plane -/
def listActive (cp : ControlPlaneApplication) : List RegisteredRequest :=
  (cp.registry.values.filterMap fun ref => cp.entries[ref]?).filter fun e => !isTerminalRequestState e.state

end ControlPlaneApplication

/-- the registration inside `process_through_queued` fails for capacity -/
def RefusedForCapacity (cfg : Settings) (cp : ControlPlaneApplication) (submit : SubmitRequest) (now : Time) : Prop :=
  ∃ refs cp₁ cp₂, EStateM.run (processTimeouts cfg.queue now) cp = .ok refs cp₁ ∧
    EStateM.run (register cfg submit .received now) cp₁ = .error (.runtimeError "request registry at capacity") cp₂

/-- the call returns a failed entry, or it raises anything but a not-found error -/
def EndsInFailure : EStateM.Result ControlPlaneError ControlPlaneApplication Ref → Prop
  | .ok ref cp => ∃ e, cp.entries[ref]? = some e ∧ e.state = .failed
  | .error err _ => ∀ r, err ≠ .requestNotFound r

/-- the registry's capacity bounds live requests only, as far as this call can tell: it is not refused while there are
fewer of them, and if it is refused it ends in that failure -/
def BoundsLive (cfg : Settings) (cp : ControlPlaneApplication) (submit : SubmitRequest)
    (checks : List (Except String AdmissionResult)) (now now' : Time) : Prop :=
  (cp.listActive.length < cfg.registryMaxEntries → ¬RefusedForCapacity cfg cp submit now) ∧
  (RefusedForCapacity cfg cp submit now →
    EndsInFailure (EStateM.run (processThroughQueued cfg submit checks now now') cp))

variable {R : Dict UUID Ref}

theorem refusedForCapacity_iff (h : Linked R cp) :
    RefusedForCapacity cfg cp submit now ↔ cfg.registryMaxEntries ≤ R.items.length := by
  obtain ⟨refs, cp₁, hrun, h₁, -, -, -⟩ := processTimeouts_run cfg.queue h now
  constructor
  · rintro ⟨refs', cp₁', cp₂, hrun', hrefused⟩
    rw [hrun] at hrun'
    cases hrun'
    rcases register_run cfg h₁ submit .received now with ⟨hno, -⟩ | ⟨-, hfull, -⟩ | ⟨-, -, ref, cp', hok, -, -⟩
    · exact absurd rfl hno
    · exact hfull
    · rw [hok] at hrefused
      cases hrefused
  · intro hfull
    exact ⟨refs, cp₁, cp₁, hrun, (refused_run cfg submit [] now now hfull hrun h₁).1⟩

/-- the failure handler does not find the request that the registry has refused -/
theorem refused_not_found (h : Linked R cp) (hfull : cfg.registryMaxEntries ≤ R.items.length)
    (hfresh : R.get? submit.inferenceRequest.requestId = none) (checks : List (Except String AdmissionResult))
    (now now' : Time) :
    ∃ cp', EStateM.run (processThroughQueued cfg submit checks now now') cp =
      .error (.requestNotFound submit.inferenceRequest.requestId) cp' := by
  obtain ⟨refs, cp₁, hrun, h₁, -, -, -⟩ := processTimeouts_run cfg.queue h now
  refine ⟨cp₁, ?_⟩
  rw [(refused_run cfg submit checks now now' hfull hrun h₁).2]
  exact markFailed_unknown (h₁.registry.symm ▸ hfresh) .internalError capacityMessage now none none

/-- **When the capacity is one of live requests.** In every run, duplicates included, the next call on a fresh id keeps
the law exactly when the registry has room for one more entry, live or not. -/
theorem capacity_bounds_live_iff (cfg : Settings) (ops : List Op) (submit : SubmitRequest)
    (checks : List (Except String AdmissionResult)) (now now' : Time)
    (hfresh : (run (ControlPlaneApplication.step cfg) .init ops).registry.get?
      submit.inferenceRequest.requestId = none) :
    BoundsLive cfg (run (ControlPlaneApplication.step cfg) .init ops) submit checks now now' ↔
      (run (ControlPlaneApplication.step cfg) .init ops).count < cfg.registryMaxEntries := by
  obtain ⟨R, h⟩ := run_linked cfg ops
  set cp := run (ControlPlaneApplication.step cfg) .init ops with hcp
  have hcount : cp.count = R.items.length := congrArg (fun d => d.items.length) h.registry
  rw [h.registry] at hfresh
  constructor
  · intro hlaw
    by_contra hfull
    have hrefused : RefusedForCapacity cfg cp submit now := (refusedForCapacity_iff h).2 (by omega)
    obtain ⟨cp', hrun⟩ := refused_not_found h ((refusedForCapacity_iff h).1 hrefused) hfresh checks now now'
    have hend := hlaw.2 hrefused
    rw [hrun] at hend
    exact hend _ rfl
  · intro hroom
    have hno : ¬RefusedForCapacity cfg cp submit now := fun hrefused => by
      have hfull := (refusedForCapacity_iff h).1 hrefused
      omega
    exact ⟨fun _ => hno, fun hrefused => absurd hrefused hno⟩

/-- room for two requests -/
def smallSettings : Settings := { sampleSettings with registryMaxEntries := 2 }

/-- two requests come, one after the other, and an admission check rejects both -/
def rejectedOps : List Op :=
  [.processThroughQueued (sampleSubmit 1) [.ok { outcome := .reject }] 0 0,
   .processThroughQueued (sampleSubmit 2) [.ok { outcome := .reject }] 1 1]

/-- after the first of them there is room for one more, and after both there is none, although none is live -/
theorem capacity_bounds_live_iff_rejected :
    let one := run (ControlPlaneApplication.step smallSettings) .init (rejectedOps.take 1)
    let both := run (ControlPlaneApplication.step smallSettings) .init rejectedOps
    one.listActive = [] ∧ one.count = 1 ∧ BoundsLive smallSettings one (sampleSubmit 3) [] 2 2 ∧
      both.listActive = [] ∧ both.count = 2 ∧ ¬BoundsLive smallSettings both (sampleSubmit 3) [] 2 2 := by
  intro one both
  have hone := capacity_bounds_live_iff smallSettings (rejectedOps.take 1) (sampleSubmit 3) [] 2 2 (by decide +kernel)
  have hboth := capacity_bounds_live_iff smallSettings rejectedOps (sampleSubmit 3) [] 2 2 (by decide +kernel)
  refine ⟨by decide +kernel, by decide +kernel, hone.2 (by decide +kernel), by decide +kernel, by decide +kernel, ?_⟩
  exact fun hlaw => absurd (hboth.1 hlaw) (by decide +kernel)

/-- **Dead requests fill the registry.** At most one request is ever live, and none when the third comes; it is refused
all the same, and with a not-found error. -/
theorem dead_requests_fill_registry :
    (∀ pre, pre <+: rejectedOps →
      (run (ControlPlaneApplication.step smallSettings) .init pre).listActive.length <
        smallSettings.registryMaxEntries) ∧
    (run (ControlPlaneApplication.step smallSettings) .init rejectedOps).registry.get?
      (sampleSubmit 3).inferenceRequest.requestId = none ∧
    ¬BoundsLive smallSettings (run (ControlPlaneApplication.step smallSettings) .init rejectedOps)
      (sampleSubmit 3) [] 2 2 := by
  have hlive : ∀ pre ∈ rejectedOps.inits,
      (run (ControlPlaneApplication.step smallSettings) .init pre).listActive.length <
        smallSettings.registryMaxEntries := by
    decide +kernel
  refine ⟨fun pre hpre => hlive pre ((List.mem_inits _ _).2 hpre), by decide +kernel, fun hlaw => ?_⟩
  have hrefused : RefusedForCapacity smallSettings (run (ControlPlaneApplication.step smallSettings) .init rejectedOps)
      (sampleSubmit 3) 2 := ⟨_, _, _, rfl, rfl⟩
  exact hlaw.2 hrefused 3 rfl

end InferencePlatform.ControlPlane
