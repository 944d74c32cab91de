/-
What a policy selects: a prefix of the candidates in the order of its key.

`Precedes` is the order of a policy's keys, written as the tuples that the policy compares. Each key holds the queue
position, so where no two candidates share one the order of the input does not matter, for the fairness policy too.

- `ordered_sorts`: each policy sorts by a key, and what the keys have in common;
- `evaluate_selects_prefix`: what is selected and what is skipped are the candidates, each once and as many as fit, no
  skipped one comes before a selected one, and the decisions say what was done.
-/
import InferencePlatform.Core.KeySort
import InferencePlatform.Scheduling.Policies

namespace InferencePlatform.Scheduling

open InferencePlatform.Core (sortOn)

/-- the policy's key of `a` is at most that of `b` -/
def SchedulerPolicy.Precedes (a b : SchedulingCandidate) : SchedulerPolicy → Prop
  | fifo => toLex (a.queuePosition, a.enqueuedAt) ≤ toLex (b.queuePosition, b.enqueuedAt)
  | shortestJobFirst =>
    toLex (a.estimatedJobTokens, toLex (a.queuePosition, a.enqueuedAt)) ≤
      toLex (b.estimatedJobTokens, toLex (b.queuePosition, b.enqueuedAt))
  | latencyAware queueObjectiveMs requestAgeObjectiveMs =>
    toLex (-(a.queueWaitDurationMs / queueObjectiveMs + a.requestAgeMs / requestAgeObjectiveMs),
        toLex (a.queuePosition, a.enqueuedAt)) ≤
      toLex (-(b.queueWaitDurationMs / queueObjectiveMs + b.requestAgeMs / requestAgeObjectiveMs),
        toLex (b.queuePosition, b.enqueuedAt))
  | fairness weights selectionCounts =>
    toLex ((selectionCounts a.priorityClass : ℚ) / weights a.priorityClass,
        toLex (-a.queueWaitDurationMs, toLex (a.queuePosition, a.enqueuedAt))) ≤
      toLex ((selectionCounts b.priorityClass : ℚ) / weights b.priorityClass,
        toLex (-b.queueWaitDurationMs, toLex (b.queuePosition, b.enqueuedAt)))

/-- a policy sorts by some key, which tells candidates at different positions of the queue apart -/
theorem ordered_sorts (policy : SchedulerPolicy) :
    ∃ (κ : Type) (_ : LinearOrder κ) (key : SchedulingCandidate → κ), policy.ordered = sortOn key ∧
      (∀ a b, policy.Precedes a b ↔ key a ≤ key b) ∧ ∀ a b, key a = key b → a.queuePosition = b.queuePosition := by
  cases policy with
  | fifo =>
    refine ⟨_, inferInstance, _, rfl, fun a b => Iff.rfl, fun a b h => ?_⟩
    exact (Prod.ext_iff.1 (toLex.injective h)).1
  | shortestJobFirst =>
    refine ⟨_, inferInstance, _, rfl, fun a b => Iff.rfl, fun a b h => ?_⟩
    have hrest := (Prod.ext_iff.1 (toLex.injective h)).2
    exact (Prod.ext_iff.1 (toLex.injective hrest)).1
  | latencyAware queueObjectiveMs requestAgeObjectiveMs =>
    refine ⟨_, inferInstance, _, rfl, fun a b => Iff.rfl, fun a b h => ?_⟩
    have hrest := (Prod.ext_iff.1 (toLex.injective h)).2
    exact (Prod.ext_iff.1 (toLex.injective hrest)).1
  | fairness weights selectionCounts =>
    refine ⟨_, inferInstance, _, rfl, fun a b => Iff.rfl, fun a b h => ?_⟩
    have hrest := (Prod.ext_iff.1 (toLex.injective h)).2
    have hlast := (Prod.ext_iff.1 (toLex.injective hrest)).2
    exact (Prod.ext_iff.1 (toLex.injective hlast)).1

/-! ## Decisions -/

def decisionOf (selected : Bool) (decisionReason : String) (candidate : SchedulingCandidate) : SchedulingDecision :=
  { requestId := candidate.requestId, correlationId := candidate.correlationId, selected, decisionReason
    queuePosition := candidate.queuePosition }

/-- the decisions of the selected candidates, then those of the others -/
theorem decisions_eq (ordered : List SchedulingCandidate) (n : ℕ) (selectedReason skippedReason : String) :
    (buildDecisions ordered n selectedReason skippedReason).decisions =
      (ordered.take n).map (decisionOf true selectedReason) ++
        (ordered.drop n).map (decisionOf false skippedReason) := by
  simp only [buildDecisions]
  induction ordered generalizing n with
  | nil => simp
  | cons candidate ordered ih =>
    rw [List.mapIdx_cons]
    cases n with
    | zero =>
      have hrest := ih 0
      simp only [Nat.not_lt_zero, decide_false, if_false, List.take_zero, List.drop_zero, List.map_nil,
        List.nil_append] at hrest ⊢
      rw [hrest]
      rfl
    | succ n =>
      simp only [Nat.add_lt_add_iff_right, Nat.zero_lt_succ, decide_true, if_true]
      rw [ih n]
      rfl

/-- with distinct ids, a decision says `selected` exactly when its id is among those selected -/
theorem decisions_decided {ordered : List SchedulingCandidate}
    (hids : (ordered.map SchedulingCandidate.requestId).Nodup) (n : ℕ) (selectedReason skippedReason : String) :
    let ev := buildDecisions ordered n selectedReason skippedReason
    ∀ d ∈ ev.decisions, (d.selected = true ↔ d.requestId ∈ ev.selected) ∧
      (d.selected = false ↔ d.requestId ∈ ev.skipped) := by
  intro ev d hd
  rw [← List.take_append_drop n ordered, List.map_append] at hids
  have hapart := (List.nodup_append.1 hids).2.2
  rw [decisions_eq] at hd
  rcases List.mem_append.1 hd with hd | hd
  · obtain ⟨c, hc, rfl⟩ := List.mem_map.1 hd
    have hmem : c.requestId ∈ ev.selected := List.mem_map_of_mem hc
    have hnot : c.requestId ∉ ev.skipped := fun h => hapart _ hmem _ h rfl
    exact ⟨iff_of_true rfl hmem, iff_of_false Bool.noConfusion hnot⟩
  · obtain ⟨c, hc, rfl⟩ := List.mem_map.1 hd
    have hmem : c.requestId ∈ ev.skipped := List.mem_map_of_mem hc
    have hnot : c.requestId ∉ ev.selected := fun h => hapart _ h _ hmem rfl
    exact ⟨iff_of_false Bool.false_ne_true hnot, iff_of_true rfl hmem⟩

/-! ## A minimum prefix -/

/-- what a policy answers for candidates with distinct ids -/
structure SelectsPrefix (policy : SchedulerPolicy) (candidates : List SchedulingCandidate) (n : ℕ) (ev : Evaluation) :
    Prop where
  perm : (ev.selected ++ ev.skipped).Perm (candidates.map SchedulingCandidate.requestId)
  length : ev.selected.length = min candidates.length n
  precedes : ∀ a ∈ candidates, ∀ b ∈ candidates, a.requestId ∈ ev.selected → b.requestId ∈ ev.skipped →
    policy.Precedes a b
  listed : ev.decisions.map SchedulingDecision.requestId = ev.selected ++ ev.skipped
  decided : ∀ d ∈ ev.decisions,
    (d.selected = true ↔ d.requestId ∈ ev.selected) ∧ (d.selected = false ↔ d.requestId ∈ ev.skipped)
  reason : ∀ d ∈ ev.decisions,
    d.decisionReason = if d.selected then policy.selectedReason else "max_candidates_reached"

variable {candidates candidates' : List SchedulingCandidate}

theorem evaluate_selectsPrefix (policy : SchedulerPolicy) (hids : (candidates.map SchedulingCandidate.requestId).Nodup)
    (n : ℕ) : SelectsPrefix policy candidates n (policy.evaluate candidates n).1 := by
  obtain ⟨κ, hκ, key, hkey, hprecedes, -⟩ := ordered_sorts policy
  have hperm := ordered_perm policy candidates
  have hdecisions := decisions_eq (policy.ordered candidates) n policy.selectedReason "max_candidates_reached"
  -- an id is that of one candidate only
  have hinj : ∀ a ∈ policy.ordered candidates, ∀ b ∈ candidates, a.requestId = b.requestId → a = b := fun a ha b hb h =>
    List.inj_on_of_nodup_map hids (hperm.mem_iff.1 ha) hb h
  refine ⟨perm_selected_skipped policy candidates n, ?_, ?_, ?_, ?_, ?_⟩
  · simp only [SchedulerPolicy.evaluate, buildDecisions, List.length_map, List.length_take, hperm.length_eq]
    exact min_comm _ _
  · intro a ha b hb hselected hskipped
    obtain ⟨a', ha', haid⟩ := List.mem_map.1 hselected
    obtain ⟨b', hb', hbid⟩ := List.mem_map.1 hskipped
    obtain rfl := hinj a' (List.mem_of_mem_take ha') a ha haid
    obtain rfl := hinj b' (List.mem_of_mem_drop hb') b hb hbid
    rw [hkey] at ha' hb'
    exact (hprecedes _ _).2 (Core.sortOn_take_le key candidates n _ ha' _ hb')
  · simp only [SchedulerPolicy.evaluate]
    rw [hdecisions, List.map_append, List.map_map, List.map_map]
    rfl
  · exact decisions_decided ((hperm.map _).nodup_iff.2 hids) n policy.selectedReason "max_candidates_reached"
  · intro d hd
    simp only [SchedulerPolicy.evaluate] at hd
    rw [hdecisions] at hd
    rcases List.mem_append.1 hd with hd | hd
    · obtain ⟨c, hc, rfl⟩ := List.mem_map.1 hd
      rfl
    · obtain ⟨c, hc, rfl⟩ := List.mem_map.1 hd
      rfl

/-- candidates at different positions have different keys -/
theorem evaluate_congr (policy : SchedulerPolicy) (hperm : candidates.Perm candidates')
    (hpositions : (candidates.map SchedulingCandidate.queuePosition).Nodup) (n : ℕ) :
    policy.evaluate candidates n = policy.evaluate candidates' n := by
  obtain ⟨κ, hκ, key, hkey, -, hposition⟩ := ordered_sorts policy
  have hordered : policy.ordered candidates = policy.ordered candidates' := by
    rw [hkey]
    refine Core.sortOn_congr hperm fun a ha b hb h => ?_
    exact List.inj_on_of_nodup_map hpositions ha hb (hposition a b h)
  rw [SchedulerPolicy.evaluate, SchedulerPolicy.evaluate, hordered]

/-- each policy selects a minimum prefix, and with distinct positions its whole answer does not depend on the order of
the candidates -/
theorem evaluate_selects_prefix (policy : SchedulerPolicy) (candidates : List SchedulingCandidate)
    (hids : (candidates.map SchedulingCandidate.requestId).Nodup) (n : ℕ) :
    SelectsPrefix policy candidates n (policy.evaluate candidates n).1 ∧
      ((candidates.map SchedulingCandidate.queuePosition).Nodup → ∀ candidates', candidates.Perm candidates' →
        policy.evaluate candidates' n = policy.evaluate candidates n) :=
  ⟨evaluate_selectsPrefix policy hids n, fun hpositions _ hperm => (evaluate_congr policy hperm hpositions n).symm⟩

/-- two candidates that have waited equally long, and room for one -/
theorem evaluate_selects_one :
    let candidate (r age : ℕ) : SchedulingCandidate := ⟨r, "m", "t", "q", r, 0, 0, 8, 1, 9, .default, age⟩
    let candidates := [candidate 1 100, candidate 2 300]
    SelectsPrefix (.latencyAware 100 5000) candidates 1
      ((SchedulerPolicy.latencyAware 100 5000).evaluate candidates 1).1 ∧
      (SchedulerPolicy.latencyAware 100 5000).evaluate candidates.reverse 1 =
        (SchedulerPolicy.latencyAware 100 5000).evaluate candidates 1 := by
  intro candidate candidates
  have h := evaluate_selects_prefix (.latencyAware 100 5000) candidates (by decide) 1
  exact ⟨h.1, h.2 (by decide) candidates.reverse candidates.reverse_perm.symm⟩

end InferencePlatform.Scheduling
