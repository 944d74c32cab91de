/-
Slots in pools: an allocator for things of several kinds.

Things of one kind share the open pool of their kind. A thing takes the least free slot of that pool, or of a new pool
when there is none. A pool gathers until a deadline or until it is full; from then on it runs, and is closed when its
last slot is given back. A thing that breaks closes its pool at once, and whoever else holds a slot in it is left
behind: still active, but in no pool. A bound on all active things applies besides, which those left behind count
against.

- `step_sound`, `run_sound`: no thing holds two slots, and every holder is an active guest of one pool only;
- `run_isolated`: as long as the common bound does not bind, what happens to one kind does not depend on the others.
-/
import InferencePlatform.Core.Runs

namespace InferencePlatform.Core

/-! ## Pools -/

/-- who holds which slot, who has ever been in, and until when the pool gathers (`none`: it runs) -/
@[ext] structure Pool (ι τ : Type*) where
  holder : ℕ → Option ι
  guests : Set ι
  gathersUntil : Option τ

namespace Pool

variable {ι τ : Type*}

def fresh (deadline : τ) : Pool ι τ := ⟨fun _ => none, ∅, some deadline⟩

def Full (slots : ℕ) (p : Pool ι τ) : Prop := ∀ i < slots, p.holder i ≠ none

def Vacant (p : Pool ι τ) : Prop := ∀ i, p.holder i = none

/-- the pool still gathers, though its deadline is over -/
def Late [LT τ] (now : τ) (p : Pool ι τ) : Prop := ∃ deadline, p.gathersUntil = some deadline ∧ deadline < now

noncomputable def free (p : Pool ι τ) : ℕ := sInf {i | p.holder i = none}

noncomputable def take (p : Pool ι τ) (x : ι) : Pool ι τ :=
  { p with holder := Function.update p.holder p.free (some x), guests := insert x p.guests }

open Classical in
/-- a pool that is full, or whose deadline has come, runs -/
noncomputable def settle [LE τ] (slots : ℕ) (now : τ) (p : Pool ι τ) : Pool ι τ :=
  if p.Full slots ∨ ∃ deadline, p.gathersUntil = some deadline ∧ deadline ≤ now then { p with gathersUntil := none }
  else p

noncomputable def join [LE τ] (slots : ℕ) (now : τ) (x : ι) (p : Pool ι τ) : Pool ι τ := (p.take x).settle slots now

open Classical in
noncomputable def vacate (p : Pool ι τ) (x : ι) : Pool ι τ :=
  { p with holder := fun i => if p.holder i = some x then none else p.holder i }

open Classical in
/-- the pool after one of its guests has left or broken: `none` when that closes it -/
noncomputable def part (breaks : Bool) (x : ι) (p : Pool ι τ) : Option (Pool ι τ) :=
  if x ∈ p.guests then
    if breaks = true ∨ (p.vacate x).Vacant ∧ p.gathersUntil = none then none else some (p.vacate x)
  else some p

/-- nobody holds two slots, and who holds one is a guest -/
structure Sound (p : Pool ι τ) : Prop where
  once : ∀ {i j x}, p.holder i = some x → p.holder j = some x → i = j
  guest : ∀ {i x}, p.holder i = some x → x ∈ p.guests

theorem settle_holder [LE τ] (slots : ℕ) (now : τ) (p : Pool ι τ) : (p.settle slots now).holder = p.holder := by
  unfold settle
  split_ifs <;> rfl

theorem settle_guests [LE τ] (slots : ℕ) (now : τ) (p : Pool ι τ) : (p.settle slots now).guests = p.guests := by
  unfold settle
  split_ifs <;> rfl

@[simp] theorem join_holder [LE τ] (slots : ℕ) (now : τ) (x : ι) (p : Pool ι τ) :
    (p.join slots now x).holder = Function.update p.holder p.free (some x) := settle_holder _ _ _

@[simp] theorem join_guests [LE τ] (slots : ℕ) (now : τ) (x : ι) (p : Pool ι τ) :
    (p.join slots now x).guests = insert x p.guests := settle_guests _ _ _

theorem free_eq {p : Pool ι τ} {i : ℕ} (hfree : p.holder i = none) (hleast : ∀ j < i, p.holder j ≠ none) :
    p.free = i := by
  have hmem : p.free ∈ {i | p.holder i = none} := Nat.sInf_mem ⟨i, hfree⟩
  refine le_antisymm (Nat.sInf_le hfree) (not_lt.1 fun hlt => ?_)
  exact hleast _ hlt hmem

theorem part_of_not_guest {breaks : Bool} {x : ι} {p : Pool ι τ}
    (h : x ∉ p.guests) : p.part breaks x = some p := if_neg h

theorem part_eq_some {breaks : Bool} {x : ι} {p p' : Pool ι τ} (h : p.part breaks x = some p') :
    p'.guests = p.guests ∧ ∀ i y, p'.holder i = some y → p.holder i = some y ∧ (x ∈ p.guests → y ≠ x) := by
  unfold part at h
  split_ifs at h with hguest
  · cases h
    refine ⟨rfl, fun i y hy => ?_⟩
    simp only [vacate] at hy
    split_ifs at hy with hx
    exact ⟨hy, fun _ heq => hx (heq ▸ hy)⟩
  · cases h
    exact ⟨rfl, fun i y hy => ⟨hy, fun hx => absurd hx hguest⟩⟩

theorem Sound.join [LE τ] {p : Pool ι τ} (h : p.Sound) {x : ι} (hx : x ∉ p.guests) (slots : ℕ) (now : τ) :
    (p.join slots now x).Sound where
  once := by
    intro i j y hi hj
    simp only [join_holder, Function.update_apply] at hi hj
    split_ifs at hi hj with hi' hj' hj'
    · exact hi'.trans hj'.symm
    · cases hi
      exact absurd (h.guest hj) hx
    · cases hj
      exact absurd (h.guest hi) hx
    · exact h.once hi hj
  guest := by
    intro i y hi
    simp only [join_holder, join_guests, Function.update_apply] at hi ⊢
    split_ifs at hi with hi'
    · cases hi
      exact Set.mem_insert _ _
    · exact Set.mem_insert_of_mem _ (h.guest hi)

theorem Sound.part {p p' : Pool ι τ} (h : p.Sound) {breaks : Bool} {x : ι} (hp : p.part breaks x = some p') :
    p'.Sound := by
  obtain ⟨hguests, hholder⟩ := part_eq_some hp
  constructor
  · intro i j y hi hj
    exact h.once (hholder i y hi).1 (hholder j y hj).1
  · intro i y hi
    rw [hguests]
    exact h.guest (hholder i y hi).1

end Pool

/-! ## The allocator -/

structure AllocatorLimits where
  slots : ℕ
  total : ℕ

@[ext] structure SlotAllocator (κ ι τ : Type*) where
  pools : κ → Option (Pool ι τ)
  placed : Set ι
  active : Set ι

inductive AllocatorOp (κ ι τ : Type*)
  | place (allowed mayOpen : Bool) (now deadline : τ) (kind : κ) (x : ι)
  | leave (breaks : Bool) (x : ι)

namespace SlotAllocator

variable {κ ι τ : Type*}

def init : SlotAllocator κ ι τ := ⟨fun _ => none, ∅, ∅⟩

/-- the pool a thing would join -/
def target (s : SlotAllocator κ ι τ) (deadline : τ) (kind : κ) : Pool ι τ := (s.pools kind).getD (Pool.fresh deadline)

/-- every pool is sound, its guests have been placed and are guests of no other, and whoever holds a slot is active -/
structure Sound (s : SlotAllocator κ ι τ) : Prop where
  pool : ∀ {k p}, s.pools k = some p → p.Sound
  guest : ∀ {k p x}, s.pools k = some p → x ∈ p.guests → x ∈ s.placed
  one : ∀ {k k' p p' x}, s.pools k = some p → s.pools k' = some p' → x ∈ p.guests → x ∈ p'.guests → k = k'
  holder : ∀ {k p i x}, s.pools k = some p → p.holder i = some x → x ∈ s.active
  active : s.active ⊆ s.placed
  finite : s.active.Finite

theorem sound_init : (init : SlotAllocator κ ι τ).Sound where
  pool h := by cases h
  guest h := by cases h
  one h := by cases h
  holder h := by cases h
  active := Set.empty_subset _
  finite := Set.finite_empty

section

variable {s : SlotAllocator κ ι τ}

theorem target_eq {k : κ} {p : Pool ι τ} (h : s.pools k = some p) (deadline : τ) : s.target deadline k = p := by
  rw [target, h, Option.getD_some]

/-- who joins the pool of a kind has been its guest before, or is the new one -/
theorem mem_guests_target {k : κ} {deadline : τ} {x : ι} (h : x ∈ (s.target deadline k).guests) :
    ∃ p, s.pools k = some p ∧ x ∈ p.guests := by
  unfold target at h
  cases hk : s.pools k with
  | none =>
    rw [hk] at h
    exact absurd h (Set.notMem_empty x)
  | some p =>
    rw [hk] at h
    exact ⟨p, rfl, h⟩

theorem Sound.target (h : s.Sound) (deadline : τ) (k : κ) : (s.target deadline k).Sound := by
  cases hk : s.pools k with
  | none =>
    rw [SlotAllocator.target, hk]
    constructor
    · intro i j x hi
      cases hi
    · intro i x hi
      cases hi
  | some p =>
    rw [target_eq hk]
    exact h.pool hk

end

/-- what the two sides of an isolated run have in common: `t` has seen the things of kind `k` only -/
structure Alike (home : ι → κ) (k : κ) (s t : SlotAllocator κ ι τ) : Prop where
  pools : s.pools k = t.pools k
  placed : ∀ x, home x = k → (x ∈ s.placed ↔ x ∈ t.placed)
  guests : ∀ {p x}, s.pools k = some p → x ∈ p.guests → home x = k
  active : t.active ⊆ s.active
  own : ∀ {x}, x ∈ t.active → home x = k
  finite : s.active.Finite

theorem alike_init {home : ι → κ} {k : κ} : Alike home k (init : SlotAllocator κ ι τ) init where
  pools := rfl
  placed _ _ := Iff.rfl
  guests h := by cases h
  active := subset_rfl
  own h := absurd h (Set.notMem_empty _)
  finite := Set.finite_empty

theorem Alike.target {home : ι → κ} {k : κ} {s t : SlotAllocator κ ι τ} (h : Alike home k s t) (deadline : τ) :
    s.target deadline k = t.target deadline k := by
  rw [SlotAllocator.target, SlotAllocator.target, h.pools]

variable [LinearOrder τ]

/-- nothing stands in the way of the thing -/
structure Admits (limits : AllocatorLimits) (s : SlotAllocator κ ι τ) (allowed mayOpen : Bool) (now deadline : τ)
    (kind : κ) (x : ι) : Prop where
  allowed : allowed = true
  fresh : x ∉ s.placed
  total : s.active.ncard < limits.total
  mayOpen : s.pools kind = none → mayOpen = true
  room : ¬(s.target deadline kind).Full limits.slots
  inTime : ¬(s.target deadline kind).Late now

/-- as long as the bound does not bind, the two sides agree on a thing of the kind -/
theorem Alike.admits_iff {limits : AllocatorLimits} {home : ι → κ} {k : κ} {s t : SlotAllocator κ ι τ}
    (h : Alike home k s t) {allowed mayOpen : Bool} {now deadline : τ} {x : ι} (hx : home x = k)
    (hn : s.active.ncard < limits.total) :
    s.Admits limits allowed mayOpen now deadline k x ↔ t.Admits limits allowed mayOpen now deadline k x := by
  have hnt : t.active.ncard < limits.total := (Set.ncard_le_ncard h.active h.finite).trans_lt hn
  constructor
  · intro ⟨h₁, h₂, _, h₄, h₅, h₆⟩
    rw [h.target] at h₅ h₆
    exact ⟨h₁, fun hp => h₂ ((h.placed x hx).2 hp), hnt, fun hp => h₄ (h.pools.trans hp), h₅, h₆⟩
  · intro ⟨h₁, h₂, _, h₄, h₅, h₆⟩
    rw [← h.target] at h₅ h₆
    exact ⟨h₁, fun hp => h₂ ((h.placed x hx).1 hp), hn, fun hp => h₄ (h.pools.symm.trans hp), h₅, h₆⟩

variable [DecidableEq κ]

open Classical in
noncomputable def step (limits : AllocatorLimits) (s : SlotAllocator κ ι τ) : AllocatorOp κ ι τ → SlotAllocator κ ι τ
  | .place allowed mayOpen now deadline kind x =>
    if s.Admits limits allowed mayOpen now deadline kind x then
      { pools := Function.update s.pools kind (some ((s.target deadline kind).join limits.slots now x))
        placed := insert x s.placed
        active := insert x s.active }
    else s
  | .leave breaks x =>
    { s with pools := fun kind => (s.pools kind).bind (Pool.part breaks x), active := s.active \ {x} }

open Classical in
/-- what the caller is told: the slot taken, and whether there was anything to leave -/
noncomputable def answer (limits : AllocatorLimits) (s : SlotAllocator κ ι τ) : AllocatorOp κ ι τ → Option ℕ × Bool
  | .place allowed mayOpen now deadline kind x =>
    (if s.Admits limits allowed mayOpen now deadline kind x then some (s.target deadline kind).free else none, false)
  | .leave _ x => (none, x ∈ s.placed)


variable {limits : AllocatorLimits} {s t : SlotAllocator κ ι τ}

theorem step_place_of_admits {allowed mayOpen : Bool} {now deadline : τ} {kind : κ} {x : ι}
    (h : s.Admits limits allowed mayOpen now deadline kind x) :
    s.step limits (.place allowed mayOpen now deadline kind x) =
      { pools := Function.update s.pools kind (some ((s.target deadline kind).join limits.slots now x))
        placed := insert x s.placed
        active := insert x s.active } := if_pos h

theorem step_place_of_not_admits {allowed mayOpen : Bool} {now deadline : τ} {kind : κ} {x : ι}
    (h : ¬s.Admits limits allowed mayOpen now deadline kind x) :
    s.step limits (.place allowed mayOpen now deadline kind x) = s := if_neg h

/-! ## Soundness -/

theorem Sound.place (h : s.Sound) {allowed mayOpen : Bool} {now deadline : τ} {kind : κ} {x : ι}
    (ha : s.Admits limits allowed mayOpen now deadline kind x) :
    (s.step limits (.place allowed mayOpen now deadline kind x)).Sound := by
  rw [step_place_of_admits ha]
  have hnew : x ∉ (s.target deadline kind).guests := fun hx => by
    obtain ⟨p, hp, hx⟩ := mem_guests_target hx
    exact ha.fresh (h.guest hp hx)
  -- a guest of some pool afterwards: of the pool of the kind, or of another one as before
  have hguests : ∀ {k p y}, Function.update s.pools kind
      (some ((s.target deadline kind).join limits.slots now x)) k = some p →
      y ∈ p.guests → (k = kind ∧ y = x) ∨ ∃ q, s.pools k = some q ∧ y ∈ q.guests := by
    intro k p y hp hy
    rw [Function.update_apply] at hp
    split_ifs at hp with hk
    · cases hp
      rw [Pool.join_guests] at hy
      rcases hy with rfl | hy
      · exact Or.inl ⟨hk, rfl⟩
      · exact Or.inr (hk ▸ mem_guests_target hy)
    · exact Or.inr ⟨p, hp, hy⟩
  constructor
  · intro k p hp
    simp only [Function.update_apply] at hp
    split_ifs at hp with hk
    · cases hp
      exact (h.target deadline kind).join hnew limits.slots now
    · exact h.pool hp
  · intro k p y hp hy
    rcases hguests hp hy with ⟨-, rfl⟩ | ⟨q, hq, hy⟩
    · exact Set.mem_insert _ _
    · exact Set.mem_insert_of_mem _ (h.guest hq hy)
  · intro k k' p p' y hp hp' hy hy'
    rcases hguests hp hy with ⟨rfl, rfl⟩ | ⟨q, hq, hyq⟩
    · rcases hguests hp' hy' with ⟨rfl, -⟩ | ⟨q', hq', hyq'⟩
      · rfl
      · exact absurd (h.guest hq' hyq') ha.fresh
    · rcases hguests hp' hy' with ⟨-, rfl⟩ | ⟨q', hq', hyq'⟩
      · exact absurd (h.guest hq hyq) ha.fresh
      · exact h.one hq hq' hyq hyq'
  · intro k p i y hp hy
    simp only [Function.update_apply] at hp
    split_ifs at hp with hk
    · cases hp
      rw [Pool.join_holder, Function.update_apply] at hy
      split_ifs at hy with hi
      · cases hy
        exact Set.mem_insert _ _
      · obtain ⟨q, hq, -⟩ := mem_guests_target ((h.target deadline kind).guest hy)
        rw [target_eq hq] at hy
        exact Set.mem_insert_of_mem _ (h.holder hq hy)
    · exact Set.mem_insert_of_mem _ (h.holder hp hy)
  · exact Set.insert_subset_insert h.active
  · exact h.finite.insert x

theorem Sound.leave (h : s.Sound) (breaks : Bool) (x : ι) : (s.step limits (.leave breaks x)).Sound := by
  have hpart : ∀ {k p}, (s.step limits (.leave breaks x)).pools k = some p →
      ∃ q, s.pools k = some q ∧ q.part breaks x = some p := by
    intro k p hp
    exact Option.bind_eq_some_iff.1 hp
  constructor
  · intro k p hp
    obtain ⟨q, hq, hp⟩ := hpart hp
    exact (h.pool hq).part hp
  · intro k p y hp hy
    obtain ⟨q, hq, hp⟩ := hpart hp
    rw [(Pool.part_eq_some hp).1] at hy
    exact h.guest hq hy
  · intro k k' p p' y hp hp' hy hy'
    obtain ⟨q, hq, hp⟩ := hpart hp
    obtain ⟨q', hq', hp'⟩ := hpart hp'
    rw [(Pool.part_eq_some hp).1] at hy
    rw [(Pool.part_eq_some hp').1] at hy'
    exact h.one hq hq' hy hy'
  · intro k p i y hp hy
    obtain ⟨q, hq, hp⟩ := hpart hp
    obtain ⟨hold, hne⟩ := (Pool.part_eq_some hp).2 i y hy
    refine ⟨h.holder hq hold, fun hyx => ?_⟩
    cases hyx
    exact hne ((h.pool hq).guest hold) rfl
  · exact fun y hy => h.active hy.1
  · exact h.finite.subset Set.sdiff_subset

theorem step_sound (h : s.Sound) (op : AllocatorOp κ ι τ) : (s.step limits op).Sound := by
  cases op with
  | place allowed mayOpen now deadline kind x =>
    by_cases ha : s.Admits limits allowed mayOpen now deadline kind x
    · exact h.place ha
    · rw [step_place_of_not_admits ha]
      exact h
  | leave breaks x => exact h.leave breaks x

theorem run_sound (limits : AllocatorLimits) (ops : List (AllocatorOp κ ι τ)) : (run (step limits) init ops).Sound :=
  run_inv (I := Sound) (fun _ op h => step_sound h op) ops sound_init

/-! ## Isolation -/

section

variable (home : ι → κ) (k : κ)

/-- a thing asks for a slot of its own kind -/
def AtHome : AllocatorOp κ ι τ → Prop
  | .place _ _ _ _ kind x => kind = home x
  | .leave _ _ => True

def concerns : AllocatorOp κ ι τ → Bool
  | .place _ _ _ _ _ x | .leave _ x => home x = k

/-- the common bound does not bind when a thing of the kind asks for a slot -/
def Unbound (limits : AllocatorLimits) (s : SlotAllocator κ ι τ) : AllocatorOp κ ι τ → Prop
  | .place _ _ _ _ kind _ => kind = k → s.active.ncard < limits.total
  | .leave _ _ => True

end

variable {home : ι → κ} {k : κ}

theorem Alike.place (h : Alike home k s t) {allowed mayOpen : Bool} {now deadline : τ} {x : ι} (hx : home x = k)
    (hn : s.active.ncard < limits.total) :
    Alike home k (s.step limits (.place allowed mayOpen now deadline k x))
      (t.step limits (.place allowed mayOpen now deadline k x)) := by
  by_cases ha : s.Admits limits allowed mayOpen now deadline k x
  · rw [step_place_of_admits ha, step_place_of_admits ((h.admits_iff hx hn).1 ha), h.target]
    constructor
    · simp only [Function.update_self]
    · intro y hy
      simp only [Set.mem_insert_iff, h.placed y hy]
    · intro p y hp hy
      simp only [Function.update_self, Option.some.injEq] at hp
      subst hp
      rw [Pool.join_guests] at hy
      rcases hy with rfl | hy
      · exact hx
      · obtain ⟨p, hp, hy⟩ := mem_guests_target hy
        exact h.guests (h.pools.trans hp) hy
    · exact Set.insert_subset_insert h.active
    · rintro y (rfl | hy)
      · exact hx
      · exact h.own hy
    · exact h.finite.insert x
  · rw [step_place_of_not_admits ha, step_place_of_not_admits fun hat => ha ((h.admits_iff hx hn).2 hat)]
    exact h

theorem Alike.leave (h : Alike home k s t) (breaks : Bool) (x : ι) :
    Alike home k (s.step limits (.leave breaks x)) (t.step limits (.leave breaks x)) := by
  constructor
  · simp only [step, h.pools]
  · exact h.placed
  · intro p y hp hy
    obtain ⟨q, hq, hp⟩ := Option.bind_eq_some_iff.1 hp
    rw [(Pool.part_eq_some hp).1] at hy
    exact h.guests hq hy
  · exact Set.sdiff_subset_sdiff_left h.active
  · exact fun hy => h.own hy.1
  · exact h.finite.subset Set.sdiff_subset

/-- a thing of another kind leaves the pool of this one as it is -/
theorem Alike.skip (h : Alike home k s t) {op : AllocatorOp κ ι τ} (hop : AtHome home op)
    (hc : concerns home k op = false) :
    Alike home k (s.step limits op) t := by
  cases op with
  | place allowed mayOpen now deadline kind x =>
    have hkind : kind = home x := hop
    have hx : home x ≠ k := by simpa [concerns] using hc
    by_cases ha : s.Admits limits allowed mayOpen now deadline kind x
    · rw [step_place_of_admits ha]
      have hpools : Function.update s.pools kind (some ((s.target deadline kind).join limits.slots now x)) k =
          s.pools k :=
        Function.update_of_ne (fun hk => hx (hkind.symm.trans hk.symm)) _ _
      refine ⟨hpools.trans h.pools, fun y hy => ?_, fun hp => h.guests (hpools.symm.trans hp),
        h.active.trans (Set.subset_insert _ _), h.own, h.finite.insert x⟩
      have hne : y ≠ x := fun heq => hx (heq.symm ▸ hy)
      rw [Set.mem_insert_iff, or_iff_right hne, h.placed y hy]
    · rw [step_place_of_not_admits ha]
      exact h
  | leave breaks x =>
    have hx : home x ≠ k := by simpa [concerns] using hc
    have hpools : (s.step limits (.leave breaks x)).pools k = s.pools k := by
      simp only [step]
      cases hk : s.pools k with
      | none => rfl
      | some p =>
        rw [Option.bind_some]
        exact Pool.part_of_not_guest fun hguest => hx (h.guests hk hguest)
    refine ⟨hpools.trans h.pools, h.placed, fun hp => h.guests (hpools.symm.trans hp), fun y hy => ⟨h.active hy, ?_⟩,
      h.own, h.finite.subset Set.sdiff_subset⟩
    rintro rfl
    exact hx (h.own hy)

theorem run_alike {ops : List (AllocatorOp κ ι τ)} (h : Alike home k s t) (hhome : ∀ op ∈ ops, AtHome home op)
    (hn : Meets (step limits) (Unbound k limits) s ops) :
    Alike home k (run (step limits) s ops) (run (step limits) t (ops.filter (concerns home k))) := by
  induction ops generalizing s t with
  | nil => exact h
  | cons op ops ih =>
    have hrest : ∀ op' ∈ ops, AtHome home op' := fun op' hop' => hhome op' (List.mem_cons_of_mem op hop')
    have hop := hhome op List.mem_cons_self
    cases hc : concerns home k op with
    | false =>
      rw [List.filter_cons_of_neg (by simp [hc]), run_cons]
      exact ih (h.skip hop hc) hrest hn.2
    | true =>
      rw [List.filter_cons_of_pos hc, run_cons, run_cons]
      refine ih ?_ hrest hn.2
      cases op with
      | place allowed mayOpen now deadline kind x =>
        have hx : home x = k := by simpa [concerns] using hc
        have hkind : kind = k := Eq.trans hop hx
        subst hkind
        exact h.place hx (hn.1 rfl)
      | leave breaks x => exact h.leave breaks x

/-- **The kinds do not interfere.** What has become of one kind is what would have become of it alone, and so is the
answer to the next request of that kind. -/
theorem run_isolated (limits : AllocatorLimits) {ops : List (AllocatorOp κ ι τ)} (hhome : ∀ op ∈ ops, AtHome home op)
    (hn : Meets (step limits) (Unbound k limits) init ops) :
    (run (step limits) init ops).pools k = (run (step limits) init (ops.filter (concerns home k))).pools k ∧
      ∀ op, AtHome home op → concerns home k op = true → Unbound k limits (run (step limits) init ops) op →
        (run (step limits) init ops).answer limits op =
          (run (step limits) init (ops.filter (concerns home k))).answer limits op := by
  have h := run_alike (t := init) alike_init hhome hn
  refine ⟨h.pools, fun op hop hc hbound => ?_⟩
  cases op with
  | place allowed mayOpen now deadline kind x =>
    have hx : home x = k := by simpa [concerns] using hc
    have hkind : kind = k := Eq.trans hop hx
    subst hkind
    classical
    rw [answer, answer, h.target]
    exact Prod.ext (if_congr (h.admits_iff hx (hbound rfl)) rfl rfl) rfl
  | leave breaks x =>
    have hx : home x = k := by simpa [concerns] using hc
    exact Prod.ext rfl (decide_eq_decide.2 (h.placed x hx))

end SlotAllocator

end InferencePlatform.Core
