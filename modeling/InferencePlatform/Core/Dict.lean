/-
Insertion-ordered dictionaries with unique keys: the behaviour of a `dict` whose iteration order is observable.
- `set` overwrites an existing key in place and appends a new one, so a key keeps the place of its first insertion;
- `pop` removes the key;
- `update` replaces the value under a key that is present (the value is an object mutated in place).
Key uniqueness is a field, so every dictionary that can be built has it and no lemma below asks for it.

The lemmas are the lookup laws of each operation, membership in `values`, and how a sum over the values changes
when one value does (`sum_set_old`, `sum_set_new`): what a proof about a store of counted things needs.
-/
import Mathlib.Tactic
import Mathlib.Data.List.Sort

namespace InferencePlatform.Core

@[ext] structure Dict (κ : Type*) (α : Type*) where
  items : List (κ × α)
  nodup : (items.map Prod.fst).Nodup

namespace Dict

variable {κ α : Type*} [DecidableEq κ]

/-! ## The raw list operations -/

def getItems (k : κ) : List (κ × α) → Option α
  | [] => none
  | p :: l => if p.1 = k then some p.2 else getItems k l

def setItems (k : κ) (v : α) : List (κ × α) → List (κ × α)
  | [] => [(k, v)]
  | p :: l => if p.1 = k then (k, v) :: l else p :: setItems k v l

theorem getItems_eq_none {k : κ} {l : List (κ × α)} : getItems k l = none ↔ k ∉ l.map Prod.fst := by
  induction l with
  | nil => simp [getItems]
  | cons p l ih =>
    simp only [getItems, List.map_cons, List.mem_cons, not_or]
    split_ifs with h
    · simp [h]
    · simp [ih, Ne.symm h]

theorem getItems_mem {k : κ} {v : α} {l : List (κ × α)} (h : getItems k l = some v) : (k, v) ∈ l := by
  induction l with
  | nil => simp [getItems] at h
  | cons p l ih =>
    simp only [getItems] at h
    split_ifs at h with hk
    · simp only [Option.some.injEq] at h
      subst hk h
      exact List.mem_cons_self
    · exact List.mem_cons_of_mem _ (ih h)

theorem getItems_of_mem {k : κ} {v : α} {l : List (κ × α)} (hn : (l.map Prod.fst).Nodup) (h : (k, v) ∈ l) :
    getItems k l = some v := by
  induction l with
  | nil => simp at h
  | cons p l ih =>
    simp only [List.map_cons, List.nodup_cons] at hn
    simp only [getItems]
    rcases List.mem_cons.1 h with rfl | h
    · simp
    · have hk : p.1 ≠ k := by
        rintro rfl
        exact hn.1 (List.mem_map.2 ⟨_, h, rfl⟩)
      rw [if_neg hk]
      exact ih hn.2 h

theorem getItems_setItems (k k' : κ) (v : α) (l : List (κ × α)) :
    getItems k' (setItems k v l) = if k' = k then some v else getItems k' l := by
  induction l with
  | nil => simp [setItems, getItems, eq_comm]
  | cons p l ih =>
    by_cases h : p.1 = k
    · by_cases h' : k' = k
      · simp [setItems, getItems, h, h']
      · simp [setItems, getItems, h, h', Ne.symm h']
    · simp only [setItems, if_neg h, getItems, ih]
      by_cases h' : k' = k
      · simp [h', h]
      · simp [h']

theorem fst_setItems (k : κ) (v : α) (l : List (κ × α)) :
    (setItems k v l).map Prod.fst = if k ∈ l.map Prod.fst then l.map Prod.fst else l.map Prod.fst ++ [k] := by
  induction l with
  | nil => simp [setItems]
  | cons p l ih =>
    by_cases h : p.1 = k
    · simp [setItems, h]
    · have hk : k ≠ p.1 := Ne.symm h
      simp only [setItems, if_neg h, List.map_cons, ih, List.mem_cons, hk, false_or]
      split_ifs <;> simp

/-- a stable sort by keys does not change what is found under a key -/
theorem getItems_insertionSort (r : κ → κ → Prop) [DecidableRel r] (hrefl : ∀ k, r k k) (k : κ) (l : List (κ × α)) :
    getItems k (l.insertionSort fun p q => r p.1 q.1) = getItems k l := by
  have hinsert : ∀ (p : κ × α) (l : List (κ × α)),
      getItems k (l.orderedInsert (fun p q => r p.1 q.1) p) = getItems k (p :: l) := by
    intro p l
    induction l with
    | nil => rfl
    | cons q l ih =>
      by_cases hr : r p.1 q.1
      · rw [List.orderedInsert, if_pos hr]
      · have hne : p.1 ≠ q.1 := by
          intro heq
          exact hr (heq ▸ hrefl p.1)
        rw [List.orderedInsert, if_neg hr, getItems, ih, getItems, getItems, getItems]
        by_cases hp : p.1 = k
        · rw [if_pos hp, if_pos hp, if_neg fun hq => hne (hp.trans hq.symm)]
        · rw [if_neg hp, if_neg hp]
  induction l with
  | nil => rfl
  | cons p l ih => rw [List.insertionSort_cons, hinsert, getItems, getItems, ih]

theorem nodup_setItems (k : κ) (v : α) {l : List (κ × α)} (hn : (l.map Prod.fst).Nodup) :
    ((setItems k v l).map Prod.fst).Nodup := by
  rw [fst_setItems]
  split_ifs with h
  · exact hn
  · exact List.nodup_append.2 ⟨hn, by simp, by simpa using fun a ha => ne_of_mem_of_not_mem ha h⟩

/-! ## Operations -/

def empty : Dict κ α := ⟨[], by simp⟩

def get? (d : Dict κ α) (k : κ) : Option α := getItems k d.items

def set (d : Dict κ α) (k : κ) (v : α) : Dict κ α := ⟨setItems k v d.items, nodup_setItems k v d.nodup⟩

def pop (d : Dict κ α) (k : κ) : Dict κ α :=
  ⟨d.items.filter fun p => p.1 ≠ k, (List.Nodup.sublist (List.Sublist.map _ List.filter_sublist) d.nodup)⟩

/-- replace the value under `k`, if there is one -/
def update (d : Dict κ α) (k : κ) (f : α → α) : Dict κ α :=
  match d.get? k with
  | none => d
  | some v => d.set k (f v)

def values (d : Dict κ α) : List α := d.items.map Prod.snd

def keys (d : Dict κ α) : List κ := d.items.map Prod.fst

def contains (d : Dict κ α) (k : κ) : Bool := (d.get? k).isSome

/-! ## Lookup -/

@[simp] theorem get?_empty (k : κ) : (empty : Dict κ α).get? k = none := rfl

theorem get?_set (d : Dict κ α) (k k' : κ) (v : α) :
    (d.set k v).get? k' = if k' = k then some v else d.get? k' := getItems_setItems k k' v d.items

@[simp] theorem get?_set_self (d : Dict κ α) (k : κ) (v : α) : (d.set k v).get? k = some v := by simp [get?_set]

theorem get?_set_ne (d : Dict κ α) {k k' : κ} (v : α) (h : k' ≠ k) : (d.set k v).get? k' = d.get? k' := by
  simp [get?_set, h]

theorem get?_update (d : Dict κ α) (k k' : κ) (f : α → α) :
    (d.update k f).get? k' = if k' = k then (d.get? k).map f else d.get? k' := by
  unfold update
  cases h : d.get? k with
  | none =>
    by_cases hk : k' = k
    · subst hk; simp [h]
    · simp [hk]
  | some v => simp [get?_set]

theorem getItems_filter_ne (k k' : κ) (l : List (κ × α)) :
    getItems k' (l.filter fun p => p.1 ≠ k) = if k' = k then none else getItems k' l := by
  induction l with
  | nil => simp [getItems]
  | cons p l ih =>
    by_cases h : p.1 = k
    · rw [List.filter_cons_of_neg (by simpa using h), ih]
      by_cases h' : k' = k
      · simp [h']
      · have : p.1 ≠ k' := fun e => h' (e.symm.trans h)
        simp [h', getItems, this]
    · rw [List.filter_cons_of_pos (by simpa using h)]
      simp only [getItems, ih]
      by_cases h' : k' = k
      · have : p.1 ≠ k' := fun e => h (e.trans h')
        simp [h', h]
      · simp [h']

theorem get?_pop (d : Dict κ α) (k k' : κ) : (d.pop k).get? k' = if k' = k then none else d.get? k' :=
  getItems_filter_ne k k' d.items

theorem set_set (d : Dict κ α) (k : κ) (v w : α) : (d.set k v).set k w = d.set k w := by
  have key : ∀ l : List (κ × α), setItems k w (setItems k v l) = setItems k w l := by
    intro l
    induction l with
    | nil => simp [setItems]
    | cons p l ih => by_cases h : p.1 = k <;> simp [setItems, h, ih]
  exact Dict.ext (key d.items)

theorem contains_iff (d : Dict κ α) (k : κ) : d.contains k = true ↔ ∃ v, d.get? k = some v := by
  simp [contains, Option.isSome_iff_exists]

theorem set_get? {d : Dict κ α} {k : κ} {v : α} (h : d.get? k = some v) : d.set k v = d := by
  have key : ∀ l : List (κ × α), getItems k l = some v → setItems k v l = l := by
    intro l
    induction l with
    | nil => intro h; simp [getItems] at h
    | cons p l ih =>
      intro h
      simp only [getItems] at h
      split_ifs at h with hk
      · obtain rfl : p.2 = v := by simpa using h
        simp [setItems, ← hk]
      · simp [setItems, hk, ih h]
  exact Dict.ext (key d.items h)

/-! ## Values -/

theorem mem_items {d : Dict κ α} {k : κ} {v : α} : (k, v) ∈ d.items ↔ d.get? k = some v :=
  ⟨fun h => getItems_of_mem d.nodup h, fun h => getItems_mem h⟩

theorem mem_values {d : Dict κ α} {v : α} : v ∈ d.values ↔ ∃ k, d.get? k = some v := by
  simp only [values, List.mem_map, Prod.exists, exists_eq_right]
  exact ⟨fun ⟨k, h⟩ => ⟨k, mem_items.1 h⟩, fun ⟨k, h⟩ => ⟨k, mem_items.2 h⟩⟩

theorem mem_keys {d : Dict κ α} {k : κ} : k ∈ d.keys ↔ ∃ v, d.get? k = some v := by
  simp only [keys, List.mem_map, Prod.exists, exists_and_right, exists_eq_right]
  exact ⟨fun ⟨v, h⟩ => ⟨v, mem_items.1 h⟩, fun ⟨v, h⟩ => ⟨v, mem_items.2 h⟩⟩

theorem setItems_of_not_mem {k : κ} {v : α} {l : List (κ × α)} (h : k ∉ l.map Prod.fst) :
    setItems k v l = l ++ [(k, v)] := by
  induction l with
  | nil => rfl
  | cons p l ih =>
    simp only [List.map_cons, List.mem_cons, not_or] at h
    simp [setItems, Ne.symm h.1, ih h.2]

theorem items_set_of_none {d : Dict κ α} {k : κ} {v : α} (h : d.get? k = none) :
    (d.set k v).items = d.items ++ [(k, v)] := setItems_of_not_mem (getItems_eq_none.1 h)

theorem values_set_of_none {d : Dict κ α} {k : κ} {v : α} (h : d.get? k = none) :
    (d.set k v).values = d.values ++ [v] := by
  simp [values, items_set_of_none h]

theorem keys_set_of_none {d : Dict κ α} {k : κ} {v : α} (h : d.get? k = none) :
    (d.set k v).keys = d.keys ++ [k] := by
  simp [keys, items_set_of_none h]

/-- overwriting a key replaces its value in place: the rest of the dictionary, order included, is as before -/
theorem items_split {d : Dict κ α} {k : κ} {v : α} (h : d.get? k = some v) :
    ∃ l₁ l₂, d.items = l₁ ++ (k, v) :: l₂ ∧ ∀ w, (d.set k w).items = l₁ ++ (k, w) :: l₂ := by
  have key : ∀ l : List (κ × α), getItems k l = some v →
      ∃ l₁ l₂, l = l₁ ++ (k, v) :: l₂ ∧ ∀ w, setItems k w l = l₁ ++ (k, w) :: l₂ := by
    intro l
    induction l with
    | nil => intro h; simp [getItems] at h
    | cons p l ih =>
      intro h
      simp only [getItems] at h
      split_ifs at h with hk
      · simp only [Option.some.injEq] at h
        refine ⟨[], l, ?_, fun w => by simp [setItems, hk]⟩
        rw [← hk, ← h]; rfl
      · obtain ⟨l₁, l₂, rfl, e⟩ := ih h
        exact ⟨p :: l₁, l₂, rfl, fun w => by simp [setItems, hk, e]⟩
  exact key d.items h

theorem values_split {d : Dict κ α} {k : κ} {v : α} (h : d.get? k = some v) :
    ∃ l₁ l₂, d.values = l₁ ++ v :: l₂ ∧ ∀ w, (d.set k w).values = l₁ ++ w :: l₂ := by
  obtain ⟨l₁, l₂, e, e'⟩ := items_split h
  exact ⟨l₁.map Prod.snd, l₂.map Prod.snd, by simp [values, e], fun w => by simp [values, e']⟩

theorem sum_set_new {d : Dict κ α} {k : κ} {v : α} (f : α → ℕ) (h : d.get? k = none) :
    ((d.set k v).values.map f).sum = (d.values.map f).sum + f v := by
  simp [values_set_of_none h]

theorem sum_set_old {d : Dict κ α} {k : κ} {v w : α} (f : α → ℕ) (h : d.get? k = some v) :
    ((d.set k w).values.map f).sum + f v = (d.values.map f).sum + f w := by
  obtain ⟨l₁, l₂, e, e'⟩ := values_split h
  simp only [e, e', List.map_append, List.map_cons, List.sum_append, List.sum_cons]
  omega

theorem map_values_eq (d : Dict κ α) (f : α → ℕ) : d.values.map f = d.keys.map fun k => (d.get? k).elim 0 f := by
  simp only [values, keys, List.map_map]
  refine List.map_congr_left fun p hp => ?_
  have hget : d.get? p.1 = some p.2 := mem_items.1 hp
  simp [hget]

/-- two dictionaries that agree under `f` and `g` key by key have the same sums, whatever their orders -/
theorem sum_values_congr {β : Type*} {d : Dict κ α} {d' : Dict κ β} {f : α → ℕ} {g : β → ℕ}
    (h : ∀ k, (d.get? k).map f = (d'.get? k).map g) : (d.values.map f).sum = (d'.values.map g).sum := by
  have hkeys : d.keys.Perm d'.keys := by
    refine (List.perm_ext_iff_of_nodup d.nodup d'.nodup).2 fun k => ?_
    change k ∈ d.keys ↔ k ∈ d'.keys
    have hk := h k
    rw [mem_keys, mem_keys]
    cases hd : d.get? k <;> cases hd' : d'.get? k <;> simp_all
  have hfun : (fun k => (d.get? k).elim 0 f) = fun k => (d'.get? k).elim 0 g := by
    funext k
    have hk := h k
    cases hd : d.get? k <;> cases hd' : d'.get? k <;> simp_all
  rw [map_values_eq, map_values_eq, hfun]
  exact (hkeys.map _).sum_eq

omit [DecidableEq κ] in
theorem nodup_items_map {β : Type*} (d : Dict κ α) (f : α → β) : (d.items.map fun p => (p.1, f p.2)).Nodup := by
  refine List.Nodup.of_map Prod.fst ?_
  rw [List.map_map]
  exact d.nodup

theorem mem_items_map {β : Type*} {d : Dict κ α} {f : α → β} {k : κ} {c : β} :
    (k, c) ∈ (d.items.map fun p => (p.1, f p.2)) ↔ (d.get? k).map f = some c := by
  rw [List.mem_map, Option.map_eq_some_iff]
  constructor
  · rintro ⟨p, hp, heq⟩
    cases heq
    exact ⟨p.2, mem_items.1 hp, rfl⟩
  · rintro ⟨v, hv, rfl⟩
    exact ⟨(k, v), mem_items.2 hv, rfl⟩

/-- two dictionaries that agree under `f` and `g` key by key have the same items under these, in some order -/
theorem items_perm {β γ : Type*} {d : Dict κ α} {d' : Dict κ β} {f : α → γ} {g : β → γ}
    (h : ∀ k, (d.get? k).map f = (d'.get? k).map g) :
    (d.items.map fun p => (p.1, f p.2)).Perm (d'.items.map fun p => (p.1, g p.2)) := by
  refine (List.perm_ext_iff_of_nodup (d.nodup_items_map f) (d'.nodup_items_map g)).2 fun ⟨k, c⟩ => ?_
  rw [mem_items_map, mem_items_map, h]

end Dict

end InferencePlatform.Core
