/-
Stable sorting by a key: `sorted(items, key=key)`, and the first of what is sorted.

- `sortOn_head_le`, `sortOn_head_mem`: the first item is one of the items, with a least key;
- `sortOn_take_le`: the items before a cut have keys at most those after it;
- `sortOn_congr`: if no two items share a key, the order of the input does not matter.
-/
import Mathlib.Tactic
import Mathlib.Data.List.Sort

namespace InferencePlatform.Core

variable {α κ : Type*} [LinearOrder κ] {key : α → κ} {l l' : List α}

def sortOn (key : α → κ) (l : List α) : List α := l.insertionSort fun a b => key a ≤ key b

theorem sortOn_perm (key : α → κ) (l : List α) : (sortOn key l).Perm l := List.perm_insertionSort _ l

theorem sortOn_pairwise (key : α → κ) (l : List α) : (sortOn key l).Pairwise fun a b => key a ≤ key b := by
  have : Std.Total fun a b : α => key a ≤ key b := ⟨fun a b => le_total _ _⟩
  have : IsTrans α fun a b => key a ≤ key b := ⟨fun a b c h h' => h.trans h'⟩
  exact List.pairwise_insertionSort _ l

theorem sortOn_head_mem {a : α} (h : (sortOn key l).head? = some a) : a ∈ l :=
  (sortOn_perm key l).mem_iff.1 (List.mem_of_mem_head? h)

theorem sortOn_head_le {a : α} (h : (sortOn key l).head? = some a) : ∀ b ∈ l, key a ≤ key b := by
  intro b hb
  have hmem := (sortOn_perm key l).mem_iff.2 hb
  have hsorted := sortOn_pairwise key l
  cases hl : sortOn key l with
  | nil => simp [hl] at h
  | cons x rest =>
    rw [hl] at h hmem hsorted
    obtain rfl := Option.some.inj h
    rcases List.mem_cons.1 hmem with rfl | hrest
    · exact le_rfl
    · exact (List.pairwise_cons.1 hsorted).1 b hrest

theorem sortOn_head_eq_none : (sortOn key l).head? = none ↔ l = [] := by
  rw [List.head?_eq_none_iff]
  constructor
  · intro h
    have hperm := sortOn_perm key l
    rw [h] at hperm
    exact hperm.symm.eq_nil
  · rintro rfl
    rfl

theorem sortOn_take_le (key : α → κ) (l : List α) (n : ℕ) :
    ∀ a ∈ (sortOn key l).take n, ∀ b ∈ (sortOn key l).drop n, key a ≤ key b := by
  have hsorted := sortOn_pairwise key l
  rw [← List.take_append_drop n (sortOn key l)] at hsorted
  exact (List.pairwise_append.1 hsorted).2.2

theorem sortOn_map {β : Type*} (f : β → α) (l : List β) :
    sortOn key (l.map f) = (sortOn (fun b => key (f b)) l).map f :=
  (List.map_insertionSort (r := fun b b' => key (f b) ≤ key (f b')) (s := fun a a' => key a ≤ key a') f l
    fun _ _ _ _ => Iff.rfl).symm

/-- two sorted lists of the same items, no two with one key, are the same list -/
theorem sortOn_congr (hperm : l.Perm l') (hinj : ∀ a ∈ l, ∀ b ∈ l, key a = key b → a = b) :
    sortOn key l = sortOn key l' := by
  have hsame : (sortOn key l).Perm (sortOn key l') :=
    (sortOn_perm key l).trans (hperm.trans (sortOn_perm key l').symm)
  refine hsame.eq_of_pairwise ?_ (sortOn_pairwise key l) (sortOn_pairwise key l')
  intro a b ha hb hab hba
  refine hinj a ((sortOn_perm key l).mem_iff.1 ha) b ?_ (le_antisymm hab hba)
  exact (sortOn_perm key l).mem_iff.1 (hsame.mem_iff.2 hb)

end InferencePlatform.Core
