/-
The inference adapter's backends: their states, the registry, and the operations that follow their health.

A backend's answer to `health_check` is the argument of the operation that asks for it: `refreshBackendHealth` asks one
backend, `startup` asks them all, in the order of their registration. A backend's `metadata` is left out.
-/
import InferencePlatform.Core.Dict
import InferencePlatform.Schemas

namespace InferencePlatform.Adapter

open InferencePlatform.Core (Dict)

/-! ## Backend states -/

inductive BackendState
  | unknown | starting | healthy | degraded | unhealthy | stopped
  deriving DecidableEq, Repr

def BackendState.value : BackendState → String
  | .unknown => "unknown"
  | .starting => "starting"
  | .healthy => "healthy"
  | .degraded => "degraded"
  | .unhealthy => "unhealthy"
  | .stopped => "stopped"

def backendTerminalStates : List BackendState := [.stopped]

def allowedTransitions : BackendState → List BackendState
  | .unknown => [.starting, .stopped]
  | .starting => [.healthy, .degraded, .unhealthy, .stopped]
  | .healthy => [.degraded, .unhealthy, .stopped]
  | .degraded => [.healthy, .unhealthy, .stopped]
  | .unhealthy => [.starting, .stopped]
  | .stopped => []

def canTransition (fromState toState : BackendState) : Bool :=
  if fromState = toState then true
  else if fromState ∈ backendTerminalStates then false
  else toState ∈ allowedTransitions fromState

inductive BackendHealthState
  | healthy | degraded | unavailable
  deriving DecidableEq, Repr

structure HealthCheckResult where
  healthy : Bool
  state : BackendHealthState
  message : Option String := none
  deriving DecidableEq, Repr

/-- the state a probe calls for -/
def HealthCheckResult.target (health : HealthCheckResult) : BackendState :=
  if health.state = .unavailable ∨ ¬health.healthy then
    if health.state = .unavailable then .unhealthy else .degraded
  else .healthy

/-! ## The registry -/

inductive LatencyTier
  | fast | standard | slow
  deriving DecidableEq, Repr

inductive QualityTier
  | high | standard | economy
  deriving DecidableEq, Repr

structure RegisteredBackend where
  state : BackendState := .unknown
  lastHealthState : Option BackendState := none
  supportedModels : List String := []
  latencyTier : LatencyTier := .standard
  qualityTier : QualityTier := .standard
  maxBatchSize : ℕ := 32
  deriving DecidableEq, Repr

abbrev BackendRegistry := Dict String RegisteredBackend

structure RoutableBackendSnapshot where
  backendId : String
  state : String
  healthy : Bool
  supportedModels : List String
  latencyTier : LatencyTier
  qualityTier : QualityTier
  maxBatchSize : ℕ
  deriving DecidableEq, Repr

/-- the states in which a backend is routable -/
def BackendState.routable (state : BackendState) : Bool := state ∈ [.healthy, .degraded, .starting]

def BackendRegistry.listRoutableSnapshots (registry : BackendRegistry) : List RoutableBackendSnapshot :=
  registry.items.map fun p =>
    { backendId := p.1, state := p.2.state.value, healthy := p.2.state.routable, supportedModels := p.2.supportedModels
      latencyTier := p.2.latencyTier, qualityTier := p.2.qualityTier, maxBatchSize := p.2.maxBatchSize }

/-! ## The application -/

inductive BackendEventType
  | backendRegistered | backendRemoved | backendHealthChanged
  deriving DecidableEq, Repr

structure BackendEvent where
  eventType : BackendEventType
  backendId : String
  reason : String
  state : Option BackendState := none
  health : Option HealthCheckResult := none
  deriving DecidableEq, Repr

inductive AdapterError
  | valueError (message : String)
  | keyError (message : String)
  deriving DecidableEq, Repr

/-- the exception of `set_state` -/
def invalidTransition (fromState toState : BackendState) : AdapterError :=
  .valueError s!"invalid state transition: {fromState.value} -> {toState.value}"

structure InferenceAdapterApplication where
  registry : BackendRegistry
  events : List BackendEvent
  running : Bool

def InferenceAdapterApplication.init : InferenceAdapterApplication := ⟨Dict.empty, [], false⟩

abbrev AdapterM := EStateM AdapterError InferenceAdapterApplication

def AdapterM.final {α : Type} (x : AdapterM α) (app : InferenceAdapterApplication) : InferenceAdapterApplication :=
  match EStateM.run x app with
  | .ok _ app' | .error _ app' => app'

def emit (event : BackendEvent) : AdapterM Unit := modify fun app => { app with events := app.events ++ [event] }

/-- what a backend is registered with -/
structure Registration where
  backendId : String
  initialState : BackendState := .starting
  supportedModels : Option (List String) := none
  latencyTier : Option LatencyTier := none
  qualityTier : Option QualityTier := none
  maxBatchSize : Option ℕ := none
  deriving DecidableEq, Repr

def registerBackend (b : Registration) : AdapterM Unit := do
  if (← get).registry.contains b.backendId then
    throw (.valueError s!"backend already registered: {b.backendId}")
  else
    let entry : RegisteredBackend :=
      { state := b.initialState, supportedModels := b.supportedModels.getD []
        latencyTier := b.latencyTier.getD .standard, qualityTier := b.qualityTier.getD .standard
        maxBatchSize := b.maxBatchSize.getD 32 }
    modify fun app => { app with registry := app.registry.set b.backendId entry }
    emit { eventType := .backendRegistered, backendId := b.backendId, reason := "registered", state := b.initialState }

def removeBackend (backendId : String) : AdapterM (Option RegisteredBackend) := do
  match (← get).registry.get? backendId with
  | none => return none
  | some entry =>
    modify fun app => { app with registry := app.registry.pop backendId }
    emit { eventType := .backendRemoved, backendId, reason := "removed" }
    return some (if canTransition entry.state .stopped then { entry with state := .stopped } else entry)

def setState (backendId : String) (state : BackendState) : AdapterM Unit := do
  match (← get).registry.get? backendId with
  | none => throw (.keyError s!"backend not found: {backendId}")
  | some entry =>
    if canTransition entry.state state = false then throw (invalidTransition entry.state state)
    else
      modify fun app =>
        { app with registry := app.registry.set backendId { entry with state, lastHealthState := some state } }

def refreshBackendHealth (backendId : String) (health : HealthCheckResult) : AdapterM Unit := do
  match (← get).registry.get? backendId with
  | none => return ()
  | some _ =>
    setState backendId health.target
    emit { eventType := .backendHealthChanged, backendId, reason := "health_check", state := health.target
           health := some health }

/-- the loop of `startup` -/
def refreshAll (probes : String → HealthCheckResult) (backendIds : List String) : AdapterM Unit :=
  match backendIds with
  | [] => return ()
  | backendId :: rest => do
    refreshBackendHealth backendId (probes backendId)
    refreshAll probes rest

/-- an exception of a refresh ends the loop, and the adapter does not run -/
def startup (probes : String → HealthCheckResult) : AdapterM Unit := do
  if (← get).running then return ()
  else
    refreshAll probes (← get).registry.keys
    modify fun app => { app with running := true }

/-- the loop of `shutdown` -/
def stopAll (backendIds : List String) : AdapterM Unit :=
  match backendIds with
  | [] => return ()
  | backendId :: rest => do
    setState backendId .stopped
    emit { eventType := .backendHealthChanged, backendId, reason := "adapter_shutdown", state := some .stopped }
    stopAll rest

def shutdown : AdapterM Unit := do
  if (← get).running = false then return ()
  else
    stopAll (← get).registry.keys
    modify fun app => { app with running := false }

/-! ## Operations -/

inductive Op
  /-- a registration with the default state -/
  | register (b : Registration)
  | remove (backendId : String)
  | startup (probes : String → HealthCheckResult)
  | shutdown
  | refresh (backendId : String) (health : HealthCheckResult)

namespace InferenceAdapterApplication

/-- the state after the operation, whether it returns or raises -/
def step (app : InferenceAdapterApplication) : Op → InferenceAdapterApplication
  | .register b => (registerBackend { b with initialState := .starting }).final app
  | .remove backendId => (removeBackend backendId).final app
  | .startup probes => (Adapter.startup probes).final app
  | .shutdown => Adapter.shutdown.final app
  | .refresh backendId health => (refreshBackendHealth backendId health).final app

end InferenceAdapterApplication

end InferencePlatform.Adapter
