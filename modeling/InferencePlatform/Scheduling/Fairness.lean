/-
The deficit of weighted fairness.

A class's ratio is its number of selections over its weight. While every class has at least `k` candidates, a call with
room for `k` selects from the classes of least ratio only (`ratio_le_of_mem_take`), since one of them alone fills the
room. So a call can lift a ratio above another only from the least value, by `k / weight` at most, and no run of calls
lifts it further (`deficit_evaluate`, `bounded_deficit`).
-/
import InferencePlatform.Core.KeySort
import InferencePlatform.Core.Runs
import InferencePlatform.Scheduling.Policies

namespace InferencePlatform.Scheduling

/-! ## The first elements of a sorted list -/

/-- a list with `k` elements of a kind, one of whose first `k` elements is of another, has one of the kind after them -/
theorem exists_mem_drop {α : Type} {l : List α} {p : α → Bool} {k : ℕ} (hp : k ≤ l.countP p) {c : α}
    (hc : c ∈ l.take k) (hpc : ¬p c = true) : ∃ d ∈ l.drop k, p d = true := by
  by_contra hnone
  have hdrop : (l.drop k).countP p = 0 := List.countP_eq_zero.2 fun d hd hpd => hnone ⟨d, hd, hpd⟩
  have hsplit : l.countP p = (l.take k).countP p + (l.drop k).countP p := by
    rw [← List.countP_append, List.take_append_drop]
  have hlen : (l.take k).length ≤ k := List.length_take_le k l
  have hall : (l.take k).countP p = (l.take k).length := by
    have hle := (l.take k).countP_le_length (p := p)
    omega
  exact hpc (List.countP_eq_length.1 hall c hc)

/-! ## The fairness policy -/

/-- `_fairness_ratio` of a class -/
def fairnessRatio (weights : PriorityClass → ℚ) (selectionCounts : PriorityClass → ℕ) (c : PriorityClass) : ℚ :=
  selectionCounts c / weights c

/-- the policy as it is constructed -/
def fairnessPolicy (weights : PriorityClass → ℚ) : SchedulerPolicy := .fairness weights fun _ => 0

/-- the policy after a call -/
def SchedulerPolicy.evaluated (k : ℕ) (policy : SchedulerPolicy) (candidates : List SchedulingCandidate) :
    SchedulerPolicy := (policy.evaluate candidates k).2

def SchedulerPolicy.selectionCount : SchedulerPolicy → PriorityClass → ℕ
  | .fairness _ selectionCounts => selectionCounts
  | _ => fun _ => 0

variable {weights : PriorityClass → ℚ} {selectionCounts : PriorityClass → ℕ} {candidates : List SchedulingCandidate}
  {k : ℕ}

/-- the classes of the candidates that a call selects -/
def selectedClasses (weights : PriorityClass → ℚ) (selectionCounts : PriorityClass → ℕ) (k : ℕ)
    (candidates : List SchedulingCandidate) : List PriorityClass :=
  (((SchedulerPolicy.fairness weights selectionCounts).ordered candidates).take k).map SchedulingCandidate.priorityClass

theorem evaluated_fairness : (SchedulerPolicy.fairness weights selectionCounts).evaluated k candidates =
    .fairness weights fun c => selectionCounts c + (selectedClasses weights selectionCounts k candidates).count c := rfl

/-- every class has at least `k` candidates -/
def EnoughOfEach (k : ℕ) (candidates : List SchedulingCandidate) : Prop :=
  ∀ c, k ≤ (candidates.map SchedulingCandidate.priorityClass).count c

/-- what a call selects is of a class of least ratio -/
theorem ratio_le_of_mem_take (h : EnoughOfEach k candidates) {a : PriorityClass}
    (ha : a ∈ selectedClasses weights selectionCounts k candidates) (b : PriorityClass) :
    fairnessRatio weights selectionCounts a ≤ fairnessRatio weights selectionCounts b := by
  obtain ⟨c, hc, rfl⟩ := List.mem_map.1 ha
  by_cases hb : c.priorityClass = b
  · rw [hb]
  · have hperm := ordered_perm (.fairness weights selectionCounts) candidates
    have hcount : k ≤ ((SchedulerPolicy.fairness weights selectionCounts).ordered candidates).countP
        fun d => d.priorityClass == b := by
      rw [hperm.countP_eq]
      have hb' := h b
      rw [List.count, List.countP_map] at hb'
      exact hb'
    obtain ⟨d, hd, hdb⟩ := exists_mem_drop hcount hc (by simpa using hb)
    have hkey := Core.sortOn_take_le _ candidates k c hc d hd
    have hratio : fairnessRatio weights selectionCounts c.priorityClass ≤
        fairnessRatio weights selectionCounts d.priorityClass := Prod.Lex.monotone_fst _ _ hkey
    rw [eq_of_beq hdb] at hratio
    exact hratio

theorem count_selectedClasses_le (c : PriorityClass) :
    (selectedClasses weights selectionCounts k candidates).count c ≤ k := by
  refine List.count_le_length.trans ?_
  rw [selectedClasses, List.length_map]
  exact List.length_take_le _ _

/-- no class is more than `k / weight` ahead of another -/
def BoundedDeficit (k : ℕ) (weights : PriorityClass → ℚ) (selectionCounts : PriorityClass → ℕ) : Prop :=
  ∀ a b, fairnessRatio weights selectionCounts a - fairnessRatio weights selectionCounts b ≤ k / weights a

theorem fairnessRatio_add (n : PriorityClass → ℕ) (c : PriorityClass) :
    fairnessRatio weights (fun c => selectionCounts c + n c) c =
      fairnessRatio weights selectionCounts c + n c / weights c := by
  rw [fairnessRatio, fairnessRatio, Nat.cast_add, add_div]

/-- a class that is selected starts from the least ratio; one that is not keeps its lead at most -/
theorem deficit_evaluate (hpos : ∀ c, 0 < weights c) (h : EnoughOfEach k candidates)
    (hdeficit : BoundedDeficit k weights selectionCounts) :
    BoundedDeficit k weights
      fun c => selectionCounts c + (selectedClasses weights selectionCounts k candidates).count c := by
  intro a b
  rw [fairnessRatio_add, fairnessRatio_add]
  set selected := selectedClasses weights selectionCounts k candidates
  have hgain : (0 : ℚ) ≤ selected.count b / weights b := div_nonneg (Nat.cast_nonneg _) (hpos b).le
  by_cases ha : a ∈ selected
  · have hleast := ratio_le_of_mem_take h ha b
    have hcount : (selected.count a : ℚ) / weights a ≤ k / weights a := by
      apply div_le_div_of_nonneg_right _ (hpos a).le
      exact_mod_cast count_selectedClasses_le a
    linarith
  · have hnone : selected.count a = 0 := List.count_eq_zero_of_not_mem ha
    have hbefore := hdeficit a b
    rw [hnone, Nat.cast_zero, zero_div]
    linarith

/-- the classes of the candidates that the calls select, one call after the other -/
def selections (k : ℕ) : SchedulerPolicy → List (List SchedulingCandidate) → List PriorityClass
  | _, [] => []
  | policy, candidates :: calls =>
    ((policy.ordered candidates).take k).map SchedulingCandidate.priorityClass ++
      selections k (policy.evaluated k candidates) calls

/-- the counts of the policy are those of its selections -/
theorem selectionCount_run (calls : List (List SchedulingCandidate)) (selectionCounts : PriorityClass → ℕ)
    (c : PriorityClass) :
    (Core.run (SchedulerPolicy.evaluated k) (.fairness weights selectionCounts) calls).selectionCount c =
      selectionCounts c + (selections k (.fairness weights selectionCounts) calls).count c := by
  induction calls generalizing selectionCounts with
  | nil => rfl
  | cons candidates calls ih =>
    rw [Core.run_cons, evaluated_fairness, ih, selections, evaluated_fairness, List.count_append,
      selectedClasses, Nat.add_assoc]

/-- **Bounded deficit.** After any number of calls, each with at least `k` candidates of every class and room for `k`,
no class has been selected more than `k` times beyond its weighted share. -/
theorem bounded_deficit (weights : PriorityClass → ℚ) (hpos : ∀ c, 0 < weights c) (k : ℕ)
    (calls : List (List SchedulingCandidate)) (h : ∀ candidates ∈ calls, EnoughOfEach k candidates) :
    let policy := Core.run (SchedulerPolicy.evaluated k) (fairnessPolicy weights) calls
    (∀ c, policy.selectionCount c = (selections k (fairnessPolicy weights) calls).count c) ∧
      ∀ a b, (policy.selectionCount a : ℚ) / weights a - policy.selectionCount b / weights b ≤ k / weights a := by
  have hrun : ∀ (calls : List (List SchedulingCandidate)) (selectionCounts : PriorityClass → ℕ),
      (∀ candidates ∈ calls, EnoughOfEach k candidates) → BoundedDeficit k weights selectionCounts →
      BoundedDeficit k weights
        (Core.run (SchedulerPolicy.evaluated k) (.fairness weights selectionCounts) calls).selectionCount := by
    intro calls
    induction calls with
    | nil => exact fun _ _ hdeficit => hdeficit
    | cons candidates calls ih =>
      intro selectionCounts h hdeficit
      rw [Core.run_cons, evaluated_fairness]
      refine ih _ (fun cs hcs => h cs (List.mem_cons_of_mem _ hcs)) ?_
      exact deficit_evaluate hpos (h candidates List.mem_cons_self) hdeficit
  refine ⟨fun c => (selectionCount_run calls (fun _ => 0) c).trans (Nat.zero_add _),
    hrun calls (fun _ => 0) h fun a b => ?_⟩
  rw [fairnessRatio, fairnessRatio, Nat.cast_zero, zero_div, zero_div, sub_zero]
  exact div_nonneg (Nat.cast_nonneg _) (hpos a).le

/-- two candidates of each class, with the default weights and room for two -/
def twoOfEach : List SchedulingCandidate :=
  let candidate (r : ℕ) (c : PriorityClass) : SchedulingCandidate := ⟨r, "m", "t", "q", r, 0, 0, 1, 0, 1, c, 0⟩
  [candidate 1 .default, candidate 2 .elevated, candidate 3 .background, candidate 4 .background,
    candidate 5 .elevated, candidate 6 .default]

def defaultWeights : PriorityClass → ℚ
  | .elevated => 3
  | .default => 2
  | .background => 1

theorem bounded_deficit_twice :
    let policy := Core.run (SchedulerPolicy.evaluated 2) (fairnessPolicy defaultWeights) [twoOfEach, twoOfEach]
    (∀ c, policy.selectionCount c = (selections 2 (fairnessPolicy defaultWeights) [twoOfEach, twoOfEach]).count c) ∧
      ∀ a b, (policy.selectionCount a : ℚ) / defaultWeights a - policy.selectionCount b / defaultWeights b ≤
        (2 : ℕ) / defaultWeights a :=
  bounded_deficit defaultWeights (fun c => by cases c <;> decide) 2 [twoOfEach, twoOfEach] fun candidates hmem c => by
    have hsame : candidates = twoOfEach := by simpa using hmem
    subst hsame
    cases c <;> decide

end InferencePlatform.Scheduling
