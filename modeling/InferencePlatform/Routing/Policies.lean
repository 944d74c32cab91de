/-
The routing policies and the routing engine.

A policy looks at the backends that are not excluded and picks one that is healthy and supports the model: the model's
own backend, the least id of the model's tier, or, for the fallback policy, the model's fallback where its own backend
is not to be had. The id of a route is drawn by the policy that makes a decision, so it is an argument here; a
candidate's `score`, always 0, is left out. The engine's events and metrics are emitted beside its result and left out
as well.

`Eligible` says which backends a policy may pick, without saying how it finds one.
- `routing_sound_complete`: a route is found exactly when a backend is eligible, and it is one of these; nothing but the
  order of the candidates that are listed depends on the order of the backends;
- `candidates_ordered`: that order does.
-/
import Mathlib.Data.String.Basic
import InferencePlatform.Core.KeySort
import InferencePlatform.Adapter.Registry

namespace InferencePlatform.Routing

open InferencePlatform.Core (Dict sortOn)
open Adapter (LatencyTier QualityTier RoutableBackendSnapshot)

/-! ## Records -/

def latencyValue : LatencyTier → String
  | .fast => "fast"
  | .standard => "standard"
  | .slow => "slow"

def qualityValue : QualityTier → String
  | .high => "high"
  | .standard => "standard"
  | .economy => "economy"

inductive RoutingPolicyName
  | explicit | latencyTier | qualityTier | fallback
  deriving DecidableEq, Repr

def RoutingPolicyName.value : RoutingPolicyName → String
  | .explicit => "explicit"
  | .latencyTier => "latency_tier"
  | .qualityTier => "quality_tier"
  | .fallback => "fallback"

structure ModelCapabilities where
  latencyTier : LatencyTier := .standard
  qualityTier : QualityTier := .standard
  deriving DecidableEq, Repr

structure ModelRecord where
  modelId : String
  backend : String
  capabilities : ModelCapabilities := {}
  routingPolicy : RoutingPolicyName := .explicit
  fallbackBackend : Option String := none
  deriving DecidableEq, Repr

structure RoutingCandidate where
  backendId : String
  modelId : String
  latencyTier : Option LatencyTier := none
  qualityTier : Option QualityTier := none
  healthy : Bool := true
  supportsModel : Bool := true
  availableCapacity : Option ℕ := none
  deriving DecidableEq, Repr

structure RoutingDecision where
  routeId : UUID
  requestId : UUID
  modelId : String
  backendId : String
  policyName : String
  fallbackUsed : Bool := false
  primaryBackendId : Option String := none
  reason : String
  deriving DecidableEq, Repr

structure RoutingResult where
  success : Bool
  decision : Option RoutingDecision := none
  error : Option String := none
  candidates : List RoutingCandidate := []
  deriving DecidableEq, Repr

/-! ## Policies -/

def supports (model : ModelRecord) (backend : RoutableBackendSnapshot) : Bool :=
  model.modelId ∈ backend.supportedModels || backend.supportedModels.isEmpty

def candidateOf (model : ModelRecord) (backend : RoutableBackendSnapshot) : RoutingCandidate where
  backendId := backend.backendId
  modelId := model.modelId
  latencyTier := some backend.latencyTier
  qualityTier := some backend.qualityTier
  healthy := backend.healthy
  supportsModel := supports model backend
  availableCapacity := some backend.maxBatchSize

def filterCandidates (model : ModelRecord) (backends : List RoutableBackendSnapshot) (excluded : Finset String) :
    List RoutingCandidate :=
  (backends.filter fun backend => backend.backendId ∉ excluded).map (candidateOf model)

def healthySupporting (candidates : List RoutingCandidate) : List RoutingCandidate :=
  candidates.filter fun c => c.healthy && c.supportsModel

/-- the first candidate with the id that is healthy and supports the model -/
def findBackend (backendId : String) (candidates : List RoutingCandidate) : Option RoutingCandidate :=
  candidates.find? fun c => c.backendId = backendId && c.healthy && c.supportsModel

variable (requestId : UUID) (model : ModelRecord) (backends : List RoutableBackendSnapshot) (excluded : Finset String)
  (routeId : UUID)

/-- `ExplicitModelPolicy.select` -/
def selectExplicit : RoutingResult :=
  let candidates := filterCandidates model backends excluded
  match findBackend model.backend candidates with
  | some _ =>
    { success := true, candidates
      decision := some { routeId, requestId, modelId := model.modelId, backendId := model.backend
                         policyName := RoutingPolicyName.explicit.value, reason := "explicit_model_backend" } }
  | none => { success := false, error := some s!"explicit backend unavailable: {model.backend}", candidates }

/-- the least id of a tier: what the two tier policies share -/
def selectTier (name : RoutingPolicyName) (tier : String) (fits : RoutingCandidate → Bool) : RoutingResult :=
  let candidates := filterCandidates model backends excluded
  match (sortOn RoutingCandidate.backendId ((healthySupporting candidates).filter fits)).head? with
  | none => { success := false, error := some s!"no healthy backend for {name.value}={tier}", candidates }
  | some chosen =>
    { success := true, candidates
      decision := some { routeId, requestId, modelId := model.modelId, backendId := chosen.backendId
                         policyName := name.value, reason := s!"{name.value}_match:{tier}" } }

/-- `LatencyTierPolicy.select` -/
def selectLatencyTier : RoutingResult :=
  selectTier requestId model backends excluded routeId .latencyTier (latencyValue model.capabilities.latencyTier)
    fun c => c.latencyTier = some model.capabilities.latencyTier

/-- `QualityTierPolicy.select` -/
def selectQualityTier : RoutingResult :=
  selectTier requestId model backends excluded routeId .qualityTier (qualityValue model.capabilities.qualityTier)
    fun c => c.qualityTier = some model.capabilities.qualityTier

/-- `FallbackPolicy.select`, around the explicit policy -/
def selectFallback : RoutingResult :=
  let primary := selectExplicit requestId model backends excluded routeId
  if primary.success && primary.decision.isSome then primary
  else
    match model.fallbackBackend with
    | none =>
      { success := false, candidates := primary.candidates
        error := some (if primary.error.getD "" = "" then "no fallback configured" else primary.error.getD "") }
    | some fallbackId =>
      let candidates := filterCandidates model backends excluded
      match findBackend fallbackId candidates with
      | some _ =>
        { success := true, candidates
          decision := some { routeId, requestId, modelId := model.modelId, backendId := fallbackId
                             policyName := RoutingPolicyName.fallback.value, fallbackUsed := true
                             primaryBackendId := some model.backend, reason := "fallback_backend_selected" } }
      | none => { success := false, error := some s!"fallback backend unavailable: {fallbackId}", candidates }

/-- `policy_for_model(model).select` -/
def select : RoutingResult :=
  match model.routingPolicy with
  | .latencyTier => selectLatencyTier requestId model backends excluded routeId
  | .qualityTier => selectQualityTier requestId model backends excluded routeId
  | .fallback => selectFallback requestId model backends excluded routeId
  | .explicit => selectExplicit requestId model backends excluded routeId

/-- `RoutingEngine.route` -/
def route (models : Dict String ModelRecord) (modelId : String) : RoutingResult :=
  match models.get? modelId with
  | none => { success := false, error := some s!"model unavailable: {modelId}" }
  | some model => select requestId model backends excluded routeId

/-! ## Which backends a policy may pick -/

/-- healthy, not excluded, and it supports the model -/
structure Available (model : ModelRecord) (excluded : Finset String) (backend : RoutableBackendSnapshot) : Prop where
  healthy : backend.healthy = true
  supports : supports model backend = true
  free : backend.backendId ∉ excluded

/-- what the policy of the model asks of a backend beside that -/
def Allows (model : ModelRecord) (backend : RoutableBackendSnapshot) : Prop :=
  match model.routingPolicy with
  | .explicit => backend.backendId = model.backend
  | .latencyTier => backend.latencyTier = model.capabilities.latencyTier
  | .qualityTier => backend.qualityTier = model.capabilities.qualityTier
  | .fallback => backend.backendId = model.backend ∨ some backend.backendId = model.fallbackBackend

def Eligible (model : ModelRecord) (excluded : Finset String) (backend : RoutableBackendSnapshot) : Prop :=
  Available model excluded backend ∧ Allows model backend

/-- some available backend has the id -/
def Offers (model : ModelRecord) (backends : List RoutableBackendSnapshot) (excluded : Finset String)
    (backendId : String) :
    Prop :=
  ∃ b ∈ backends, Available model excluded b ∧ b.backendId = backendId

variable {requestId model backends excluded routeId}

theorem mem_filterCandidates {c : RoutingCandidate} :
    c ∈ filterCandidates model backends excluded ↔
      ∃ b ∈ backends, b.backendId ∉ excluded ∧ candidateOf model b = c := by
  simp [filterCandidates, and_assoc]

theorem findBackend_isSome {backendId : String} :
    (findBackend backendId (filterCandidates model backends excluded)).isSome ↔
      Offers model backends excluded backendId := by
  rw [findBackend, List.find?_isSome]
  constructor
  · rintro ⟨c, hc, hall⟩
    obtain ⟨b, hb, hfree, rfl⟩ := mem_filterCandidates.1 hc
    simp only [Bool.and_eq_true, decide_eq_true_eq] at hall
    exact ⟨b, hb, ⟨hall.1.2, hall.2, hfree⟩, hall.1.1⟩
  · rintro ⟨b, hb, havailable, hid⟩
    refine ⟨candidateOf model b, mem_filterCandidates.2 ⟨b, hb, havailable.free, rfl⟩, ?_⟩
    simp [candidateOf, hid, havailable.healthy, havailable.supports]

/-! ## What each policy returns -/

variable (requestId model backends excluded routeId)

def explicitDecision : RoutingDecision :=
  { routeId, requestId, modelId := model.modelId, backendId := model.backend
    policyName := RoutingPolicyName.explicit.value, reason := "explicit_model_backend" }

theorem selectExplicit_cases :
    (Offers model backends excluded model.backend ∧ selectExplicit requestId model backends excluded routeId =
      { success := true, decision := some (explicitDecision requestId model routeId)
        candidates := filterCandidates model backends excluded }) ∨
    (¬Offers model backends excluded model.backend ∧ selectExplicit requestId model backends excluded routeId =
      { success := false, error := some s!"explicit backend unavailable: {model.backend}"
        candidates := filterCandidates model backends excluded }) := by
  rw [← findBackend_isSome]
  unfold selectExplicit
  dsimp only
  cases findBackend model.backend (filterCandidates model backends excluded) with
  | none => exact Or.inr ⟨Bool.false_ne_true, rfl⟩
  | some c => exact Or.inl ⟨rfl, rfl⟩

def fallbackDecision (fallbackId : String) : RoutingDecision :=
  { routeId, requestId, modelId := model.modelId, backendId := fallbackId,
    policyName := RoutingPolicyName.fallback.value
    fallbackUsed := true, primaryBackendId := some model.backend, reason := "fallback_backend_selected" }

theorem explicit_error_ne (backendId : String) : s!"explicit backend unavailable: {backendId}" ≠ "" := by
  intro h
  have hlen := congrArg String.length h
  rw [String.length_append] at hlen
  have hpos : (toString "explicit backend unavailable: ").length = 30 := rfl
  have hzero : "".length = 0 := rfl
  omega

theorem selectFallback_cases :
    (Offers model backends excluded model.backend ∧ selectFallback requestId model backends excluded routeId =
      { success := true, decision := some (explicitDecision requestId model routeId)
        candidates := filterCandidates model backends excluded }) ∨
    (¬Offers model backends excluded model.backend ∧ ((∃ fallbackId, model.fallbackBackend = some fallbackId ∧
      Offers model backends excluded fallbackId ∧ selectFallback requestId model backends excluded routeId =
        { success := true, decision := some (fallbackDecision requestId model routeId fallbackId)
          candidates := filterCandidates model backends excluded }) ∨
      ((∀ fallbackId, model.fallbackBackend = some fallbackId → ¬Offers model backends excluded fallbackId) ∧
        selectFallback requestId model backends excluded routeId =
        { success := false, candidates := filterCandidates model backends excluded
          error := some (model.fallbackBackend.elim s!"explicit backend unavailable: {model.backend}" fun fallbackId =>
            s!"fallback backend unavailable: {fallbackId}") }))) := by
  unfold selectFallback
  rcases selectExplicit_cases requestId model backends excluded routeId with ⟨hoffers, hprimary⟩ | ⟨hno, hprimary⟩
  · refine Or.inl ⟨hoffers, ?_⟩
    rw [hprimary]
    rfl
  · refine Or.inr ⟨hno, ?_⟩
    rw [hprimary]
    cases hfallback : model.fallbackBackend with
    | none =>
      refine Or.inr ⟨by simp, ?_⟩
      have hne := explicit_error_ne model.backend
      simp only [Option.getD_some, if_neg hne]
      rfl
    | some fallbackId =>
      cases hfind : findBackend fallbackId (filterCandidates model backends excluded) with
      | some c =>
        refine Or.inl ⟨fallbackId, rfl, findBackend_isSome.1 (by simp [hfind]), ?_⟩
        simp only [hfind]
        rfl
      | none =>
        refine Or.inr ⟨?_, ?_⟩
        · intro id hid
          cases hid
          rw [← findBackend_isSome, hfind]
          simp
        · simp only [hfind]
          rfl

def tierDecision (name : RoutingPolicyName) (tier backendId : String) : RoutingDecision :=
  { routeId, requestId, modelId := model.modelId, backendId, policyName := name.value
    reason := s!"{name.value}_match:{tier}" }

/-- none in the tier, or the least id of those in it -/
theorem selectTier_cases (name : RoutingPolicyName) (tier : String) {fits : RoutingCandidate → Bool}
    {inTier : RoutableBackendSnapshot → Prop} (hfits : ∀ b, fits (candidateOf model b) = true ↔ inTier b) :
    ((∀ b ∈ backends, Available model excluded b → ¬inTier b) ∧
      selectTier requestId model backends excluded routeId name tier fits =
        { success := false, error := some s!"no healthy backend for {name.value}={tier}"
          candidates := filterCandidates model backends excluded }) ∨
    ∃ b ∈ backends, Available model excluded b ∧ inTier b ∧
      (∀ b' ∈ backends, Available model excluded b' → inTier b' → b.backendId ≤ b'.backendId) ∧
      selectTier requestId model backends excluded routeId name tier fits =
        { success := true, decision := some (tierDecision requestId model routeId name tier b.backendId)
          candidates := filterCandidates model backends excluded } := by
  have hmem : ∀ c, c ∈ (healthySupporting (filterCandidates model backends excluded)).filter fits ↔
      ∃ b ∈ backends, Available model excluded b ∧ inTier b ∧ candidateOf model b = c := by
    intro c
    rw [healthySupporting, List.mem_filter, List.mem_filter, mem_filterCandidates]
    constructor
    · rintro ⟨⟨⟨b, hb, hfree, rfl⟩, hall⟩, hfit⟩
      simp only [Bool.and_eq_true] at hall
      exact ⟨b, hb, ⟨hall.1, hall.2, hfree⟩, (hfits b).1 hfit, rfl⟩
    · rintro ⟨b, hb, havailable, htier, rfl⟩
      refine ⟨⟨⟨b, hb, havailable.free, rfl⟩, ?_⟩, (hfits b).2 htier⟩
      simp [candidateOf, havailable.healthy, havailable.supports]
  unfold selectTier
  cases hhead : (sortOn RoutingCandidate.backendId
      ((healthySupporting (filterCandidates model backends excluded)).filter fits)).head? with
  | none =>
    refine Or.inl ⟨fun b hb havailable htier => ?_, ?_⟩
    · have hin := (hmem (candidateOf model b)).2 ⟨b, hb, havailable, htier, rfl⟩
      rw [Core.sortOn_head_eq_none.1 hhead] at hin
      cases hin
    · simp only [hhead]
  | some chosen =>
    obtain ⟨b, hb, havailable, htier, rfl⟩ := (hmem chosen).1 (Core.sortOn_head_mem hhead)
    refine Or.inr ⟨b, hb, havailable, htier, fun b' hb' havailable' htier' => ?_, ?_⟩
    · exact Core.sortOn_head_le hhead (candidateOf model b') ((hmem _).2 ⟨b', hb', havailable', htier', rfl⟩)
    · simp only [hhead]
      rfl

/-- what is decided: an eligible backend, the least of a tier, and no other than the model's own where that is to be
had -/
structure Chosen (model : ModelRecord) (backends : List RoutableBackendSnapshot) (excluded : Finset String)
    (d : RoutingDecision) : Prop where
  eligible : ∃ b ∈ backends, Eligible model excluded b ∧ b.backendId = d.backendId
  least : model.routingPolicy = .latencyTier ∨ model.routingPolicy = .qualityTier →
    ∀ b ∈ backends, Eligible model excluded b → d.backendId ≤ b.backendId
  primary : model.routingPolicy = .fallback → d.fallbackUsed = true ∨ d.backendId ≠ model.backend →
    ¬Offers model backends excluded model.backend

variable {requestId model backends excluded routeId}

theorem eligible_explicit (h : model.routingPolicy = .explicit) :
    (∃ b ∈ backends, Eligible model excluded b) ↔ Offers model backends excluded model.backend := by
  simp only [Eligible, Allows, h, Offers]

theorem eligible_fallback (h : model.routingPolicy = .fallback) :
    (∃ b ∈ backends, Eligible model excluded b) ↔ Offers model backends excluded model.backend ∨
      ∃ fallbackId, model.fallbackBackend = some fallbackId ∧ Offers model backends excluded fallbackId := by
  simp only [Eligible, Allows, h, Offers]
  constructor
  · rintro ⟨b, hb, havailable, hid | hid⟩
    · exact Or.inl ⟨b, hb, havailable, hid⟩
    · exact Or.inr ⟨b.backendId, hid.symm, b, hb, havailable, rfl⟩
  · rintro (⟨b, hb, havailable, hid⟩ | ⟨fallbackId, hfallback, b, hb, havailable, hid⟩)
    · exact ⟨b, hb, havailable, Or.inl hid⟩
    · exact ⟨b, hb, havailable, Or.inr (by rw [hid, hfallback])⟩

/-- a tier policy, once its `fits` is known to be what its model allows -/
theorem tier_chosen (name : RoutingPolicyName) (tier : String) {fits : RoutingCandidate → Bool}
    (hfits : ∀ b, fits (candidateOf model b) = true ↔ Allows model b)
    (hname : model.routingPolicy = .latencyTier ∨ model.routingPolicy = .qualityTier) {result : RoutingResult}
    (hresult : result = selectTier requestId model backends excluded routeId name tier fits) :
    ((∀ b ∈ backends, ¬Eligible model excluded b) ∧ result.success = false ∧ result.decision = none) ∨
      ∃ d, result.success = true ∧ result.decision = some d ∧ Chosen model backends excluded d := by
  have hno : model.routingPolicy ≠ .fallback := by
    rcases hname with h | h
    · rw [h]
      decide
    · rw [h]
      decide
  rcases selectTier_cases requestId model backends excluded routeId name tier hfits with
    ⟨hnone, htier⟩ | ⟨b, hb, havailable, hallows, hleast, htier⟩
  · rw [hresult, htier]
    exact Or.inl ⟨fun b hb h => hnone b hb h.1 h.2, rfl, rfl⟩
  · rw [hresult, htier]
    exact Or.inr ⟨_, rfl, rfl, ⟨b, hb, ⟨havailable, hallows⟩, rfl⟩,
      fun _ b' hb' h => hleast b' hb' h.1 h.2, fun h => absurd h hno⟩

theorem select_cases (requestId : UUID) (model : ModelRecord) (backends : List RoutableBackendSnapshot)
    (excluded : Finset String) (routeId : UUID) :
    ((∀ b ∈ backends, ¬Eligible model excluded b) ∧ (select requestId model backends excluded routeId).success = false ∧
        (select requestId model backends excluded routeId).decision = none) ∨
      ∃ d, (select requestId model backends excluded routeId).success = true ∧
        (select requestId model backends excluded routeId).decision = some d ∧ Chosen model backends excluded d := by
  cases hpolicy : model.routingPolicy with
  | explicit =>
    have hselect : select requestId model backends excluded routeId =
        selectExplicit requestId model backends excluded routeId := by simp only [select, hpolicy]
    rw [hselect]
    rcases selectExplicit_cases requestId model backends excluded routeId with ⟨hoffers, hresult⟩ | ⟨hno, hresult⟩
    · obtain ⟨b, hb, havailable, hid⟩ := hoffers
      have heligible : Eligible model excluded b := by
        refine ⟨havailable, ?_⟩
        simp only [Allows, hpolicy]
        exact hid
      rw [hresult]
      exact Or.inr ⟨_, rfl, rfl, ⟨b, hb, heligible, hid⟩, fun h => by simp [hpolicy] at h,
        fun h => by simp [hpolicy] at h⟩
    · rw [hresult]
      refine Or.inl ⟨fun b hb h => ?_, rfl, rfl⟩
      exact hno ((eligible_explicit hpolicy).1 ⟨b, hb, h⟩)
  | latencyTier =>
    refine tier_chosen .latencyTier (latencyValue model.capabilities.latencyTier) ?_ (Or.inl hpolicy)
      (by simp only [select, hpolicy]; rfl)
    intro b
    simp [candidateOf, Allows, hpolicy]
  | qualityTier =>
    refine tier_chosen .qualityTier (qualityValue model.capabilities.qualityTier) ?_ (Or.inr hpolicy)
      (by simp only [select, hpolicy]; rfl)
    intro b
    simp [candidateOf, Allows, hpolicy]
  | fallback =>
    have hselect : select requestId model backends excluded routeId =
        selectFallback requestId model backends excluded routeId := by simp only [select, hpolicy]
    rw [hselect]
    have hallows : ∀ b, Allows model b ↔ b.backendId = model.backend ∨ some b.backendId = model.fallbackBackend := by
      intro b
      simp only [Allows, hpolicy]
    rcases selectFallback_cases requestId model backends excluded routeId with
      ⟨⟨b, hb, havailable, hid⟩, hresult⟩ | ⟨hno, ⟨fallbackId, hfallback, ⟨b, hb, havailable, hid⟩, hresult⟩ |
        ⟨hnone, hresult⟩⟩
    · rw [hresult]
      refine Or.inr ⟨_, rfl, rfl, ⟨b, hb, ⟨havailable, (hallows b).2 (Or.inl hid)⟩, hid⟩,
        fun h => by simp [hpolicy] at h, ?_⟩
      rintro - (h | h)
      · cases h
      · exact absurd rfl h
    · rw [hresult]
      refine Or.inr ⟨_, rfl, rfl, ⟨b, hb, ⟨havailable, (hallows b).2 (Or.inr ?_)⟩, hid⟩,
        fun h => by simp [hpolicy] at h, fun _ _ => hno⟩
      rw [hid, hfallback]
    · rw [hresult]
      refine Or.inl ⟨fun b hb h => ?_, rfl, rfl⟩
      rcases (eligible_fallback hpolicy).1 ⟨b, hb, h⟩ with hoffers | ⟨fallbackId, hfallback, hoffers⟩
      · exact hno hoffers
      · exact hnone fallbackId hfallback hoffers

/-! ## The order of the backends -/

variable {backends' : List RoutableBackendSnapshot}

theorem offers_congr (h : backends.Perm backends') {backendId : String} :
    Offers model backends excluded backendId ↔ Offers model backends' excluded backendId := by
  simp only [Offers, h.mem_iff]

/-- the same but for the order of the candidates -/
structure SameRoute (result result' : RoutingResult) : Prop where
  success : result'.success = result.success
  decision : result'.decision = result.decision
  error : result'.error = result.error
  candidates : result'.candidates.Perm result.candidates

theorem candidates_perm (h : backends.Perm backends') :
    (filterCandidates model backends' excluded).Perm (filterCandidates model backends excluded) :=
  (h.symm.filter _).map _

theorem explicit_same (h : backends.Perm backends') :
    SameRoute (selectExplicit requestId model backends excluded routeId)
      (selectExplicit requestId model backends' excluded routeId) := by
  rcases selectExplicit_cases requestId model backends excluded routeId with ⟨hoffers, hresult⟩ | ⟨hno, hresult⟩
  · rcases selectExplicit_cases requestId model backends' excluded routeId with ⟨-, hresult'⟩ | ⟨hno', -⟩
    · rw [hresult, hresult']
      exact ⟨rfl, rfl, rfl, candidates_perm h⟩
    · exact absurd ((offers_congr h).1 hoffers) hno'
  · rcases selectExplicit_cases requestId model backends' excluded routeId with ⟨hoffers', -⟩ | ⟨-, hresult'⟩
    · exact absurd ((offers_congr h).2 hoffers') hno
    · rw [hresult, hresult']
      exact ⟨rfl, rfl, rfl, candidates_perm h⟩

theorem tier_same (h : backends.Perm backends') {name : RoutingPolicyName} {tier : String}
    {fits : RoutingCandidate → Bool} :
    SameRoute (selectTier requestId model backends excluded routeId name tier fits)
      (selectTier requestId model backends' excluded routeId name tier fits) := by
  rcases selectTier_cases requestId model backends excluded routeId name tier (fun _ => Iff.rfl) with
    ⟨hnone, hresult⟩ | ⟨b, hb, havailable, htier, hleast, hresult⟩
  · rcases selectTier_cases requestId model backends' excluded routeId name tier (fun _ => Iff.rfl) with
      ⟨-, hresult'⟩ | ⟨b', hb', havailable', htier', -, -⟩
    · rw [hresult, hresult']
      exact ⟨rfl, rfl, rfl, candidates_perm h⟩
    · exact absurd htier' (hnone b' (h.mem_iff.2 hb') havailable')
  · rcases selectTier_cases requestId model backends' excluded routeId name tier (fun _ => Iff.rfl) with
      ⟨hnone', -⟩ | ⟨b', hb', havailable', htier', hleast', hresult'⟩
    · exact absurd htier (hnone' b (h.mem_iff.1 hb) havailable)
    · -- each is the least of the same backends
      have hid : b'.backendId = b.backendId :=
        le_antisymm (hleast' b (h.mem_iff.1 hb) havailable htier) (hleast b' (h.mem_iff.2 hb') havailable' htier')
      rw [hresult, hresult', hid]
      exact ⟨rfl, rfl, rfl, candidates_perm h⟩

theorem fallback_same (h : backends.Perm backends') :
    SameRoute (selectFallback requestId model backends excluded routeId)
      (selectFallback requestId model backends' excluded routeId) := by
  rcases selectFallback_cases requestId model backends excluded routeId with
    ⟨hoffers, hresult⟩ | ⟨hno, ⟨fallbackId, hfallback, hoffers, hresult⟩ | ⟨hnone, hresult⟩⟩
  · rcases selectFallback_cases requestId model backends' excluded routeId with ⟨-, hresult'⟩ | ⟨hno', -⟩
    · rw [hresult, hresult']
      exact ⟨rfl, rfl, rfl, candidates_perm h⟩
    · exact absurd ((offers_congr h).1 hoffers) hno'
  · rcases selectFallback_cases requestId model backends' excluded routeId with
      ⟨hoffers', -⟩ | ⟨-, ⟨fallbackId', hfallback', -, hresult'⟩ | ⟨hnone', -⟩⟩
    · exact absurd ((offers_congr h).2 hoffers') hno
    · rw [hfallback] at hfallback'
      cases hfallback'
      rw [hresult, hresult']
      exact ⟨rfl, rfl, rfl, candidates_perm h⟩
    · exact absurd ((offers_congr h).1 hoffers) (hnone' fallbackId hfallback)
  · rcases selectFallback_cases requestId model backends' excluded routeId with
      ⟨hoffers', -⟩ | ⟨-, ⟨fallbackId', hfallback', hoffers', -⟩ | ⟨-, hresult'⟩⟩
    · exact absurd ((offers_congr h).2 hoffers') hno
    · exact absurd ((offers_congr h).2 hoffers') (hnone fallbackId' hfallback')
    · rw [hresult, hresult']
      exact ⟨rfl, rfl, rfl, candidates_perm h⟩

theorem select_same (h : backends.Perm backends') :
    SameRoute (select requestId model backends excluded routeId)
      (select requestId model backends' excluded routeId) := by
  unfold select
  cases model.routingPolicy with
  | explicit => exact explicit_same h
  | latencyTier => exact tier_same h
  | qualityTier => exact tier_same h
  | fallback => exact fallback_same h

/-! ## Routing -/

/-- routing finds a backend exactly when one is eligible, chooses as the policy says, and does not depend on the order
of the backends but in the order of the candidates it lists -/
theorem routing_sound_complete (requestId : UUID) (model : ModelRecord) (backends : List RoutableBackendSnapshot)
    (excluded : Finset String) (routeId : UUID) :
    let result := select requestId model backends excluded routeId
    (result.success = true ↔ ∃ b ∈ backends, Eligible model excluded b) ∧
      (result.success = true ↔ ∃ d, result.decision = some d) ∧
      (∀ d, result.decision = some d → Chosen model backends excluded d) ∧
      ∀ backends', backends.Perm backends' → SameRoute result (select requestId model backends' excluded routeId) := by
  intro result
  rcases select_cases requestId model backends excluded routeId with ⟨hnone, hfail, hdecision⟩
    | ⟨d, hok, hdecision, hchosen⟩
  · refine ⟨?_, ?_, ?_, fun _ => select_same⟩
    · simp only [result, hfail, Bool.false_eq_true, false_iff, not_exists, not_and]
      exact hnone
    · simp [result, hfail, hdecision]
    · intro d hd
      simp [result, hdecision] at hd
  · refine ⟨?_, ?_, ?_, fun _ => select_same⟩
    · obtain ⟨b, hb, heligible, -⟩ := hchosen.eligible
      simp only [result, hok, true_iff]
      exact ⟨b, hb, heligible⟩
    · simp [result, hok, hdecision]
    · intro d' hd
      rw [show result.decision = some d from hdecision] at hd
      cases hd
      exact hchosen

/-- two backends, listed either way round: the candidates are listed in that order -/
theorem candidates_ordered :
    let backend (id : String) : RoutableBackendSnapshot := ⟨id, "healthy", true, [], .standard, .standard, 32⟩
    let model : ModelRecord := { modelId := "demo", backend := "mock" }
    [backend "mock", backend "spare"].Perm [backend "spare", backend "mock"] ∧
      ([backend "mock", backend "spare"].map RoutableBackendSnapshot.backendId).Nodup ∧
      select 1 model [backend "mock", backend "spare"] ∅ 9 ≠ select 1 model [backend "spare", backend "mock"] ∅ 9 := by
  refine ⟨List.Perm.swap _ _ _, by decide, ?_⟩
  intro h
  have hids := congrArg (fun result : RoutingResult => result.candidates.map RoutingCandidate.backendId) h
  exact absurd hids (by decide +kernel)

/-- the engine routes a registered model by its policy -/
theorem route_registered {models : Dict String ModelRecord} {modelId : String}
    (h : models.get? modelId = some model) :
    route requestId backends excluded routeId models modelId = select requestId model backends excluded routeId := by
  simp only [route, h]

end InferencePlatform.Routing
