/-
The least index that is not in use: the scan `index = 0; while index in used: index += 1`.

The scan stops within `used.length` increments (`firstFree_not_mem`), so the index it returns is at most the number of
indices in use (`firstFree_le`): a table with fewer entries in use than its size always has room below its size
(`firstFree_lt`). `firstFree_least` is what makes the result canonical.
-/
import Mathlib.Tactic

namespace InferencePlatform.Core

/-- the scan from `index`, with at most `fuel` increments -/
def scanFree (used : List ℕ) (index : ℕ) : ℕ → ℕ
  | 0 => index
  | fuel + 1 => if index ∈ used then scanFree used (index + 1) fuel else index

def firstFree (used : List ℕ) : ℕ := scanFree used 0 used.length

/-- everything the scan passes over is in use, and it stops at a free index unless it runs out of fuel -/
theorem scanFree_spec (used : List ℕ) (fuel index : ℕ) (h : ∀ i < index, i ∈ used) :
    (∀ i < scanFree used index fuel, i ∈ used) ∧
      (scanFree used index fuel ∉ used ∨ scanFree used index fuel = index + fuel) := by
  induction fuel generalizing index with
  | zero => exact ⟨h, Or.inr rfl⟩
  | succ fuel ih =>
    simp only [scanFree]
    split_ifs with hi
    · obtain ⟨h1, h2⟩ := ih (index + 1) fun i hlt => by
        rcases Nat.lt_succ_iff_lt_or_eq.1 hlt with hlt | rfl
        · exact h i hlt
        · exact hi
      exact ⟨h1, h2.imp_right fun e => by omega⟩
    · exact ⟨h, Or.inl hi⟩

theorem firstFree_least (used : List ℕ) : ∀ i < firstFree used, i ∈ used :=
  (scanFree_spec used used.length 0 (by simp)).1

theorem firstFree_le (used : List ℕ) : firstFree used ≤ used.length := by
  have hsub : Finset.range (firstFree used) ⊆ used.toFinset := fun i hi =>
    List.mem_toFinset.2 (firstFree_least used i (Finset.mem_range.1 hi))
  calc firstFree used = (Finset.range (firstFree used)).card := (Finset.card_range _).symm
    _ ≤ used.toFinset.card := Finset.card_le_card hsub
    _ ≤ used.length := used.toFinset_card_le

theorem firstFree_not_mem (used : List ℕ) : firstFree used ∉ used := by
  rcases (scanFree_spec used used.length 0 (by simp)).2 with h | h
  · exact h
  · intro hm
    -- out of fuel, every index up to and including `used.length` would be in use: one too many
    have heq : firstFree used = used.length := by rw [firstFree, h, Nat.zero_add]
    have hsub : Finset.range (used.length + 1) ⊆ used.toFinset := by
      intro i hi
      rw [List.mem_toFinset]
      rcases Nat.lt_succ_iff_lt_or_eq.1 (Finset.mem_range.1 hi) with hlt | rfl
      · exact firstFree_least used i (heq ▸ hlt)
      · exact heq ▸ hm
    have := (Finset.card_le_card hsub).trans used.toFinset_card_le
    simp at this

theorem firstFree_lt {used : List ℕ} {size : ℕ} (h : used.length < size) : firstFree used < size :=
  (firstFree_le used).trans_lt h

end InferencePlatform.Core
