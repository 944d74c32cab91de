/-
Backends that do not recover.

A refresh writes the state that the probe calls for through `set_state`, which holds it to the transition table. The
table leads from UNHEALTHY only to STARTING, which nothing ever writes, and from STOPPED nowhere. So the first good
probe of a backend that was unavailable raises, as does any probe after a shutdown, and the backend stays as it was
(`recovery_refused`). In `startup` the exception ends the loop, and the backends behind it are not refreshed.

`health_tracked_iff`: a run of the adapter follows its backends' health exactly when no step of it probes a STOPPED
backend, or an UNHEALTHY one with any other answer than `unavailable`.
-/
import InferencePlatform.Adapter.Registry
import InferencePlatform.Core.Runs
import InferencePlatform.Core.Triples

namespace InferencePlatform.Adapter

open InferencePlatform.Core (Dict Keeps Meets meets_iff_forall run run_inv)
open Std.Do

set_option mvcgen.warning false

variable {app app' : InferenceAdapterApplication} {backendId : String} {health : HealthCheckResult}
  {entry : RegisteredBackend} {probes : String → HealthCheckResult} {ids : List String}

/-! ## The condition -/

/-- the answer leads from the state along the table -/
def Follows (state : BackendState) (health : HealthCheckResult) : Prop :=
  state ≠ .stopped ∧ (state = .unhealthy → health.state = .unavailable)

instance (state : BackendState) (health : HealthCheckResult) : Decidable (Follows state health) :=
  inferInstanceAs (Decidable (_ ∧ _))

/-- every backend that the operation probes is in a state that its answer leads from -/
def CanFollow (app : InferenceAdapterApplication) : Op → Prop
  | .refresh backendId health => ∀ entry, app.registry.get? backendId = some entry → Follows entry.state health
  | .startup probes =>
    app.running = false → ∀ backendId entry, app.registry.get? backendId = some entry →
      Follows entry.state (probes backendId)
  | .register _ | .remove _ | .shutdown => True

theorem canTransition_target {state : BackendState} (hknown : state ≠ .unknown) (health : HealthCheckResult) :
    canTransition state health.target = true ↔ Follows state health := by
  obtain ⟨healthy, probe, message⟩ := health
  cases state <;> cases healthy <;> cases probe <;> simp_all [HealthCheckResult.target, Follows] <;> decide

/-! ## What a refresh does -/

/-- the entry after a probe -/
def RegisteredBackend.probed (health : HealthCheckResult) (entry : RegisteredBackend) : RegisteredBackend :=
  { entry with state := health.target, lastHealthState := some health.target }

def InferenceAdapterApplication.probed (app : InferenceAdapterApplication) (backendId : String)
    (health : HealthCheckResult) (entry : RegisteredBackend) : InferenceAdapterApplication :=
  { app with
    registry := app.registry.set backendId (entry.probed health)
    events := app.events ++ [{ eventType := .backendHealthChanged, backendId, reason := "health_check"
                               state := some health.target, health := some health }] }

@[simp] theorem run_throw {α : Type} (err : AdapterError) (app : InferenceAdapterApplication) :
    EStateM.run (throw err : AdapterM α) app = .error err app := rfl

@[simp] theorem emit_run (event : BackendEvent) (app : InferenceAdapterApplication) :
    EStateM.run (emit event) app = .ok () { app with events := app.events ++ [event] } := rfl

theorem setState_run (hentry : app.registry.get? backendId = some entry) (state : BackendState) :
    EStateM.run (setState backendId state) app =
      if canTransition entry.state state = false then .error (invalidTransition entry.state state) app
      else
        .ok () { app with
          registry := app.registry.set backendId { entry with state, lastHealthState := some state } } := by
  simp only [setState, EStateM.run_bind, EStateM.run_get, hentry]
  split_ifs <;> rfl

theorem refresh_unknown (hentry : app.registry.get? backendId = none) (health : HealthCheckResult) :
    EStateM.run (refreshBackendHealth backendId health) app = .ok () app := by
  simp only [refreshBackendHealth, EStateM.run_bind, EStateM.run_get, hentry, EStateM.run_pure]

theorem refresh_ok (hentry : app.registry.get? backendId = some entry)
    (hcan : canTransition entry.state health.target = true) :
    EStateM.run (refreshBackendHealth backendId health) app = .ok () (app.probed backendId health entry) := by
  have hgo : ¬canTransition entry.state health.target = false := by simp [hcan]
  simp only [refreshBackendHealth, EStateM.run_bind, EStateM.run_get, hentry, setState_run hentry, if_neg hgo, emit_run]
  rfl

theorem refresh_error (hentry : app.registry.get? backendId = some entry)
    (hcan : canTransition entry.state health.target = false) :
    EStateM.run (refreshBackendHealth backendId health) app =
      .error (invalidTransition entry.state health.target) app := by
  simp only [refreshBackendHealth, EStateM.run_bind, EStateM.run_get, hentry, setState_run hentry, if_pos hcan]

/-- when every backend can follow, the loop refreshes each of them and touches no other -/
theorem refreshAll_run (app : InferenceAdapterApplication) (probes : String → HealthCheckResult) (hnodup : ids.Nodup)
    (hcan : ∀ id ∈ ids, ∀ entry, app.registry.get? id = some entry →
      canTransition entry.state (probes id).target = true) :
    ∃ app', EStateM.run (refreshAll probes ids) app = .ok () app' ∧
      ∀ id, app'.registry.get? id =
        if id ∈ ids then (app.registry.get? id).map (RegisteredBackend.probed (probes id))
        else app.registry.get? id := by
  induction ids generalizing app with
  | nil => exact ⟨app, rfl, fun id => rfl⟩
  | cons first rest ih =>
    rw [List.nodup_cons] at hnodup
    cases hentry : app.registry.get? first with
    | none =>
      obtain ⟨app', hrun, hget⟩ := ih app hnodup.2 fun id hid => hcan id (List.mem_cons_of_mem _ hid)
      refine ⟨app', ?_, fun id => ?_⟩
      · simp only [refreshAll, EStateM.run_bind, refresh_unknown hentry, hrun]
      · rw [hget]
        by_cases heq : id = first
        · simp [heq, hentry]
        · simp [heq]
    | some entry =>
      have hother : ∀ id, id ≠ first →
          (app.probed first (probes first) entry).registry.get? id = app.registry.get? id :=
        fun id hne => Dict.get?_set_ne _ _ hne
      have hne : ∀ id ∈ rest, id ≠ first := fun id hid heq => hnodup.1 (heq ▸ hid)
      obtain ⟨app', hrun, hget⟩ := ih (app.probed first (probes first) entry) hnodup.2 fun id hid entry' hentry' =>
        hcan id (List.mem_cons_of_mem _ hid) entry' (hother id (hne id hid) ▸ hentry')
      refine ⟨app', ?_, fun id => ?_⟩
      · simp only [refreshAll, EStateM.run_bind, refresh_ok hentry (hcan first List.mem_cons_self entry hentry), hrun]
      · rw [hget]
        by_cases heq : id = first
        · subst heq
          have hself : (app.probed id (probes id) entry).registry.get? id = some (entry.probed (probes id)) :=
            Dict.get?_set_self _ _ _
          simp [hnodup.1, hself, hentry]
        · simp [heq, hother id heq]

/-- a backend that cannot follow ends the loop with an exception, if an earlier one has not ended it -/
theorem refreshAll_stuck (probes : String → HealthCheckResult) (hnodup : ids.Nodup) {id : String} (hid : id ∈ ids)
    (hentry : app.registry.get? id = some entry) (hcan : canTransition entry.state (probes id).target = false) :
    ∃ err app', EStateM.run (refreshAll probes ids) app = .error err app' := by
  induction ids generalizing app with
  | nil => simp at hid
  | cons first rest ih =>
    rw [List.nodup_cons] at hnodup
    by_cases heq : id = first
    · subst heq
      refine ⟨invalidTransition entry.state (probes id).target, app, ?_⟩
      simp only [refreshAll, EStateM.run_bind, refresh_error hentry hcan]
    · have hrest : id ∈ rest := (List.mem_cons.1 hid).resolve_left heq
      cases hfirst : app.registry.get? first with
      | none =>
        obtain ⟨err, app', hrun⟩ := ih hnodup.2 hrest hentry
        refine ⟨err, app', ?_⟩
        simp only [refreshAll, EStateM.run_bind, refresh_unknown hfirst, hrun]
      | some entry' =>
        cases hcan' : canTransition entry'.state (probes first).target with
        | false =>
          refine ⟨invalidTransition entry'.state (probes first).target, app, ?_⟩
          simp only [refreshAll, EStateM.run_bind, refresh_error hfirst hcan']
        | true =>
          have hkept : (app.probed first (probes first) entry').registry.get? id = some entry :=
            (Dict.get?_set_ne _ _ heq).trans hentry
          obtain ⟨err, app', hrun⟩ := ih hnodup.2 hrest hkept
          refine ⟨err, app', ?_⟩
          simp only [refreshAll, EStateM.run_bind, refresh_ok hfirst hcan', hrun]

/-! ## Runs -/

/-- the registry and the router see the state that the probe calls for -/
def Refreshed (app : InferenceAdapterApplication) (backendId : String) (health : HealthCheckResult) : Prop :=
  (∃ entry, app.registry.get? backendId = some entry ∧ entry.state = health.target) ∧
    ∃ snapshot ∈ BackendRegistry.listRoutableSnapshots app.registry,
      snapshot.backendId = backendId ∧ snapshot.state = health.target.value ∧
        (snapshot.healthy = true ↔ health.state ≠ .unavailable)

/-- an operation that probes registered backends returns, with all of them refreshed -/
def Tracks (app : InferenceAdapterApplication) : Op → Prop
  | .refresh backendId health => app.registry.contains backendId = true →
      ∃ app', EStateM.run (refreshBackendHealth backendId health) app = .ok () app' ∧ Refreshed app' backendId health
  | .startup probes => app.running = false →
      ∃ app', EStateM.run (startup probes) app = .ok () app' ∧
        ∀ backendId, app.registry.contains backendId = true → Refreshed app' backendId (probes backendId)
  | .register _ | .remove _ | .shutdown => True

/-- nothing writes UNKNOWN -/
def Known (app : InferenceAdapterApplication) : Prop :=
  ∀ backendId entry, app.registry.get? backendId = some entry → entry.state ≠ .unknown

theorem routable_target (health : HealthCheckResult) :
    health.target.routable = true ↔ health.state ≠ .unavailable := by
  obtain ⟨healthy, probe, message⟩ := health
  cases healthy <;> cases probe <;> simp [HealthCheckResult.target, BackendState.routable]

theorem target_ne_unknown (health : HealthCheckResult) : health.target ≠ .unknown := by
  unfold HealthCheckResult.target
  split_ifs <;> decide

theorem refreshed_of_get (hentry : app.registry.get? backendId = some (entry.probed health)) :
    Refreshed app backendId health :=
  ⟨⟨_, hentry, rfl⟩, _, List.mem_map_of_mem (Dict.mem_items.2 hentry), rfl, rfl, routable_target health⟩

theorem Known.set (h : Known app) (hentry : entry.state ≠ .unknown)
    (hregistry : app'.registry = app.registry.set backendId entry) : Known app' := by
  intro id entry' hget
  rw [hregistry, Dict.get?_set] at hget
  split_ifs at hget
  · rw [Option.some.injEq] at hget
    exact hget ▸ hentry
  · exact h id entry' hget

@[local spec] theorem emit_known (event : BackendEvent) : Keeps Known (emit event) := by
  mvcgen [emit]

@[local spec] theorem setState_known (backendId : String) (state : BackendState) (hstate : state ≠ .unknown) :
    Keeps Known (setState backendId state) := by
  mvcgen [setState]
  next app h _ _ _ _ => exact h.set hstate rfl

@[local spec] theorem refresh_known (backendId : String) (health : HealthCheckResult) :
    Keeps Known (refreshBackendHealth backendId health) := by
  mvcgen [refreshBackendHealth]
  exact target_ne_unknown health

@[local spec] theorem refreshAll_known (probes : String → HealthCheckResult) (ids : List String) :
    Keeps Known (refreshAll probes ids) := by
  induction ids with
  | nil => exact Keeps.pure ()
  | cons first rest ih =>
    unfold refreshAll
    exact (refresh_known first (probes first)).bind fun _ => ih

@[local spec] theorem stopAll_known (ids : List String) : Keeps Known (stopAll ids) := by
  induction ids with
  | nil => exact Keeps.pure ()
  | cons first rest ih =>
    unfold stopAll
    refine (setState_known first .stopped (by decide)).bind fun _ => ?_
    exact (emit_known _).bind fun _ => ih

theorem Keeps.final_known {α : Type} {x : AdapterM α} (hx : Keeps Known x) (h : Known app) : Known (x.final app) := by
  unfold AdapterM.final
  cases hrun : EStateM.run x app with
  | ok a app' => exact hx.ok h hrun
  | error err app' => exact hx.error h hrun

theorem step_known (h : Known app) (o : Op) : Known (app.step o) := by
  cases o with
  | register b =>
    have hkeeps : Keeps Known (registerBackend { b with initialState := .starting }) := by
      mvcgen [registerBackend]
      next app h _ _ _ => exact h.set (by simp) rfl
    exact Keeps.final_known hkeeps h
  | remove backendId =>
    have hkeeps : Keeps Known (removeBackend backendId) := by
      mvcgen [removeBackend]
      next app h _ _ _ =>
        intro id entry' hget
        rw [Dict.get?_pop] at hget
        split_ifs at hget
        exact h id entry' hget
    exact Keeps.final_known hkeeps h
  | startup probes =>
    have hkeeps : Keeps Known (startup probes) := by
      mvcgen [startup]
    exact Keeps.final_known hkeeps h
  | shutdown =>
    have hkeeps : Keeps Known shutdown := by
      mvcgen [shutdown]
    exact Keeps.final_known hkeeps h
  | refresh backendId health => exact Keeps.final_known (refresh_known backendId health) h

theorem refresh_tracks_iff (h : Known app) :
    Tracks app (.refresh backendId health) ↔ CanFollow app (.refresh backendId health) := by
  constructor
  · intro htracks entry hentry
    rw [← canTransition_target (h backendId entry hentry)]
    by_contra hcan
    obtain ⟨app', hrun, -⟩ := htracks ((Dict.contains_iff _ _).2 ⟨entry, hentry⟩)
    rw [refresh_error hentry (by simpa using hcan)] at hrun
    cases hrun
  · intro hfollow hregistered
    obtain ⟨entry, hentry⟩ := (Dict.contains_iff _ _).1 hregistered
    have hcan := (canTransition_target (h backendId entry hentry) health).2 (hfollow entry hentry)
    exact ⟨_, refresh_ok hentry hcan, refreshed_of_get (Dict.get?_set_self _ _ _)⟩

theorem startup_run (hidle : app.running = false)
    (hrun : EStateM.run (refreshAll probes app.registry.keys) app = .ok () app') :
    EStateM.run (startup probes) app = .ok () { app' with running := true } := by
  have hgo : ¬app.running = true := by simp [hidle]
  simp only [startup, EStateM.run_bind, EStateM.run_get, if_neg hgo, hrun]
  rfl

theorem startup_tracks_iff (h : Known app) : Tracks app (.startup probes) ↔ CanFollow app (.startup probes) := by
  constructor
  · intro htracks hidle backendId entry hentry
    rw [← canTransition_target (h backendId entry hentry)]
    by_contra hcan
    obtain ⟨app', hrun, -⟩ := htracks hidle
    obtain ⟨err, app'', hstuck⟩ := refreshAll_stuck probes app.registry.nodup
      (Dict.mem_keys.2 ⟨entry, hentry⟩) hentry (by simpa using hcan)
    have hgo : ¬app.running = true := by simp [hidle]
    have hraise : EStateM.run (startup probes) app = .error err app'' := by
      simp only [startup, EStateM.run_bind, EStateM.run_get, if_neg hgo, Dict.keys, hstuck]
    rw [hraise] at hrun
    cases hrun
  · intro hfollow hidle
    obtain ⟨app', hrun, hget⟩ := refreshAll_run app probes app.registry.nodup
      fun backendId _ entry hentry => (canTransition_target (h backendId entry hentry) _).2
        (hfollow hidle backendId entry hentry)
    refine ⟨_, startup_run hidle hrun, fun backendId hregistered => ?_⟩
    obtain ⟨entry, hentry⟩ := (Dict.contains_iff _ _).1 hregistered
    have hkey : backendId ∈ app.registry.items.map Prod.fst := Dict.mem_keys.2 ⟨entry, hentry⟩
    have hprobed : app'.registry.get? backendId = some (entry.probed (probes backendId)) := by
      rw [hget, if_pos hkey, hentry]
      rfl
    exact refreshed_of_get hprobed

theorem tracks_iff (h : Known app) (o : Op) : Tracks app o ↔ CanFollow app o := by
  cases o with
  | register b => exact Iff.rfl
  | remove backendId => exact Iff.rfl
  | startup probes => exact startup_tracks_iff h
  | shutdown => exact Iff.rfl
  | refresh backendId health => exact refresh_tracks_iff h

theorem known_init : Known .init := by
  intro backendId entry hget
  cases hget

/-- **When health tracking works.** Every probing operation of a run leaves its backends in the states that their probes
call for, and raises nothing, exactly when every step of the run probes backends that can follow. -/
theorem health_tracked_iff (ops : List Op) :
    (∀ pre o, pre ++ [o] <+: ops → Tracks (run InferenceAdapterApplication.step .init pre) o) ↔
      Meets InferenceAdapterApplication.step CanFollow .init ops := by
  rw [meets_iff_forall]
  refine forall_congr' fun pre => forall_congr' fun o => imp_congr_right fun _ => ?_
  exact tracks_iff (run_inv (I := Known) (fun _ o h => step_known h o) pre known_init) o

/-! ## A backend that comes back -/

def up : HealthCheckResult := ⟨true, .healthy, none⟩

def down : HealthCheckResult := ⟨false, .unavailable, some "connection refused"⟩

/-- two backends, the first of them down while the adapter starts -/
def oneDown : List Op :=
  [.register { backendId := "a" }, .register { backendId := "b" }, .startup fun id => if id = "a" then down else up]

/-- the first backend is up again, and its refresh raises; after a shutdown the next startup raises at it, and leaves
the second backend STOPPED with it -/
theorem recovery_refused :
    let app := run InferenceAdapterApplication.step .init oneDown
    let restarted := run InferenceAdapterApplication.step .init (oneDown ++ [.shutdown, .startup fun _ => up])
    EStateM.run (refreshBackendHealth "a" up) app = .error (invalidTransition .unhealthy .healthy) app ∧
      restarted.running = false ∧
      restarted.registry.items.map (fun p => (p.1, p.2.state)) = [("a", .stopped), ("b", .stopped)] ∧
      ¬∀ ops pre o, pre ++ [o] <+: ops → Tracks (run InferenceAdapterApplication.step .init pre) o := by
  have hraise : EStateM.run (refreshBackendHealth "a" up) (run InferenceAdapterApplication.step .init oneDown) =
      .error (invalidTransition .unhealthy .healthy) (run InferenceAdapterApplication.step .init oneDown) := by
    have hentry : (run InferenceAdapterApplication.step .init oneDown).registry.get? "a" =
        some ⟨.unhealthy, some .unhealthy, [], .standard, .standard, 32⟩ := by decide
    have hno : canTransition .unhealthy up.target = false := rfl
    have hrefused := refresh_error hentry hno
    exact hrefused
  refine ⟨hraise, by decide, by decide, fun h => ?_⟩
  obtain ⟨app', hrun, -⟩ := h (oneDown ++ [.refresh "a" up]) oneDown (.refresh "a" up) List.prefix_rfl (by decide)
  rw [hraise] at hrun
  cases hrun

end InferencePlatform.Adapter
