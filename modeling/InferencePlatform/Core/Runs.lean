/-
Runs of a step function, and runs whose steps all meet a condition.

A system is a total step function `σ → α → σ` (a disabled operation leaves the state as it is). `run` folds it over a
list of operations. `Meets step C s ops` says that every operation of the run meets `C` in the state it is applied to:
the hypothesis of a property that holds only while a certain branch is not taken.

Rules used by the developments:
- `run_inv`: an invariant of every step is an invariant of every run;
- `Meets.run_inv`: an invariant of every step that meets `C` is an invariant of every run that meets `C`;
- `Meets.forall_prefix_iff`, `forall_prefix_iff_meets`: when a condition says exactly which steps keep a property, a run
  keeps it in every state it reaches exactly when it meets the condition;
- `meets_iff_forall`: the condition as a statement about every step that the run makes;
- `run_map`, `Meets.map`: a map between two systems that commutes with one step commutes with runs, and carries over the
  conditions that the steps meet;
- `run_log`: a log whose every part is allowed after what was logged before, and tells of the state;
- `Meets.run_iff_forall`: a property that a step keeps or loses for good holds after a run that never loses it, and
  `Meets.run_last` gives the value that the last of the steps that change it has left.
-/
import Mathlib.Tactic

namespace InferencePlatform.Core

variable {σ α : Type*} {step : σ → α → σ} {C D : σ → α → Prop} {I : σ → Prop}

def run (step : σ → α → σ) (s : σ) (ops : List α) : σ := ops.foldl step s

@[simp] theorem run_nil (s : σ) : run step s [] = s := rfl

@[simp] theorem run_cons (s : σ) (o : α) (ops : List α) : run step s (o :: ops) = run step (step s o) ops := rfl

theorem run_append (s : σ) (a b : List α) : run step s (a ++ b) = run step (run step s a) b := by
  simp [run, List.foldl_append]

theorem run_inv (h : ∀ s o, I s → I (step s o)) (ops : List α) {s : σ} (hs : I s) : I (run step s ops) := by
  induction ops generalizing s with
  | nil => exact hs
  | cons o ops ih => exact ih (h s o hs)

/-- every operation of the run meets `C` in the state it is applied to -/
def Meets (step : σ → α → σ) (C : σ → α → Prop) : σ → List α → Prop
  | _, [] => True
  | s, o :: ops => C s o ∧ Meets step C (step s o) ops

instance Meets.decidable [∀ s o, Decidable (C s o)] : ∀ (s : σ) (ops : List α), Decidable (Meets step C s ops)
  | _, [] => isTrue trivial
  | _, _ :: ops => @instDecidableAnd _ _ _ (Meets.decidable _ ops)

theorem meets_append {s : σ} {a b : List α} :
    Meets step C s (a ++ b) ↔ Meets step C s a ∧ Meets step C (run step s a) b := by
  induction a generalizing s with
  | nil => simp [Meets]
  | cons o a ih => simp [Meets, ih, and_assoc]

theorem Meets.of_forall (h : ∀ s o, C s o) (s : σ) (ops : List α) : Meets step C s ops := by
  induction ops generalizing s with
  | nil => trivial
  | cons o ops ih => exact ⟨h s o, ih _⟩

/-- a condition on the operations alone -/
theorem Meets.of_mem {A : α → Prop} {ops : List α} (h : ∀ o ∈ ops, A o) (s : σ) :
    Meets step (fun _ o => A o) s ops := by
  induction ops generalizing s with
  | nil => trivial
  | cons o ops ih => exact ⟨h o List.mem_cons_self, ih (fun o' ho' => h o' (List.mem_cons_of_mem o ho')) _⟩

theorem Meets.mono (h : ∀ s o, C s o → D s o) {s : σ} {ops : List α} (hc : Meets step C s ops) :
    Meets step D s ops := by
  induction ops generalizing s with
  | nil => trivial
  | cons o ops ih => exact ⟨h s o hc.1, ih hc.2⟩

theorem Meets.and {s : σ} {ops : List α} (hc : Meets step C s ops) (hd : Meets step D s ops) :
    Meets step (fun s o => C s o ∧ D s o) s ops := by
  induction ops generalizing s with
  | nil => trivial
  | cons o ops ih => exact ⟨⟨hc.1, hd.1⟩, ih hc.2 hd.2⟩

/-- the conditional run rule: what every step that meets `C` preserves, a run that meets `C` preserves -/
theorem Meets.run_inv (h : ∀ s o, I s → C s o → I (step s o)) {ops : List α} {s : σ} (hs : I s)
    (hc : Meets step C s ops) : I (run step s ops) := by
  induction ops generalizing s with
  | nil => exact hs
  | cons o ops ih => exact ih (h s o hs hc.1) hc.2

/-- among the steps that meet `D`, a step keeps `P` exactly when it meets `C`; then a run of such steps keeps `P` in
every state it reaches exactly when it meets `C` -/
theorem Meets.forall_prefix_iff {P : σ → Prop} (hI : ∀ s o, I s → D s o → I (step s o))
    (hP : ∀ s o, I s → D s o → P s → (P (step s o) ↔ C s o)) {s : σ} (hs : I s) (hp : P s) {ops : List α}
    (hd : Meets step D s ops) : (∀ pre, pre <+: ops → P (run step s pre)) ↔ Meets step C s ops := by
  induction ops generalizing s with
  | nil => simpa [Meets] using hp
  | cons o ops ih =>
    constructor
    · intro h
      have ho : P (step s o) := h [o] (by simp)
      refine ⟨(hP s o hs hd.1 hp).1 ho, (ih (hI s o hs hd.1) ho hd.2).1 fun pre hpre => ?_⟩
      exact h (o :: pre) (List.cons_prefix_cons.2 ⟨rfl, hpre⟩)
    · rintro ⟨hc, hm⟩ pre hpre
      have ho : P (step s o) := (hP s o hs hd.1 hp).2 hc
      cases pre with
      | nil => exact hp
      | cons o' pre =>
        obtain ⟨rfl, hpre'⟩ := List.cons_prefix_cons.1 hpre
        exact (ih (hI s o' hs hd.1) ho hd.2).2 hm pre hpre'

/-- the same, when every step keeps the invariant -/
theorem forall_prefix_iff_meets {P : σ → Prop} (hI : ∀ s o, I s → I (step s o))
    (hP : ∀ s o, I s → P s → (P (step s o) ↔ C s o)) {s : σ} (hs : I s) (hp : P s) (ops : List α) :
    (∀ pre, pre <+: ops → P (run step s pre)) ↔ Meets step C s ops :=
  Meets.forall_prefix_iff (D := fun _ _ => True) (fun s o h _ => hI s o h) (fun s o h _ => hP s o h) hs hp
    (Meets.of_forall (fun _ _ => trivial) s ops)

/-- the condition holds at each step of the run, in the state reached by the operations before it -/
theorem Meets.at {s : σ} {pre post : List α} {o : α} (hc : Meets step C s (pre ++ o :: post)) :
    C (run step s pre) o := (meets_append.1 hc).2.1

theorem meets_iff_forall {s : σ} {ops : List α} :
    Meets step C s ops ↔ ∀ pre o, pre ++ [o] <+: ops → C (run step s pre) o := by
  constructor
  · intro h pre o hpre
    obtain ⟨post, rfl⟩ := hpre
    rw [List.append_assoc, List.singleton_append] at h
    exact h.at
  · intro h
    induction ops generalizing s with
    | nil => trivial
    | cons o ops ih =>
      refine ⟨h [] o (List.prefix_append [o] ops), ih fun pre o' hpre => ?_⟩
      exact h (o :: pre) o' (List.cons_prefix_cons.2 ⟨rfl, hpre⟩)

/-- a step keeps `I` exactly when it is none of the `W`, and nothing brings it back -/
theorem Meets.run_iff_forall {W : α → Prop} (h : ∀ s o, C s o → (I (step s o) ↔ I s ∧ ¬W o)) {s : σ} {ops : List α}
    (hc : Meets step C s ops) : I (run step s ops) ↔ I s ∧ ∀ o ∈ ops, ¬W o := by
  induction ops generalizing s with
  | nil => simp
  | cons o ops ih => rw [run_cons, ih hc.2, h s o hc.1, and_assoc, List.forall_mem_cons]

theorem Meets.run_view {β : Type*} {f : σ → β} {W : α → Prop} (h : ∀ s o, C s o → ¬W o → f (step s o) = f s)
    {s : σ} {ops : List α} (hc : Meets step C s ops) (hops : ∀ o ∈ ops, ¬W o) : f (run step s ops) = f s := by
  induction ops generalizing s with
  | nil => rfl
  | cons o ops ih =>
    have hrest : ∀ o' ∈ ops, ¬W o' := fun o' ho' => hops o' (List.mem_cons_of_mem o ho')
    exact (ih hc.2 hrest).trans (h s o hc.1 (hops o List.mem_cons_self))

/-- the value that the last of the steps that change it has left -/
theorem Meets.run_last {β : Type*} {f : σ → β} {W : α → Prop} (h : ∀ s o, C s o → ¬W o → f (step s o) = f s)
    {s : σ} {pre post : List α} {o : α} (hc : Meets step C s (pre ++ o :: post)) (hpost : ∀ o' ∈ post, ¬W o') :
    f (run step s (pre ++ o :: post)) = f (step (run step s pre) o) := by
  rw [run_append, run_cons]
  exact Meets.run_view h (meets_append.1 hc).2.2 hpost

/-- the simulation rule: `f` takes the steps of one system to those of another -/
theorem run_map {τ β : Type*} {step' : τ → β → τ} {f : σ → τ} {g : α → β} (hI : ∀ s o, I s → I (step s o))
    (hf : ∀ s o, I s → f (step s o) = step' (f s) (g o)) {s : σ} (hs : I s) (ops : List α) :
    f (run step s ops) = run step' (f s) (ops.map g) := by
  induction ops generalizing s with
  | nil => rfl
  | cons o ops ih => rw [run_cons, ih (hI s o hs), hf s o hs, List.map_cons, run_cons]

theorem Meets.map {τ β : Type*} {step' : τ → β → τ} {f : σ → τ} {g : α → β} {D : τ → β → Prop}
    (hI : ∀ s o, I s → I (step s o)) (hf : ∀ s o, I s → f (step s o) = step' (f s) (g o))
    (hC : ∀ s o, I s → C s o → D (f s) (g o)) {s : σ} (hs : I s) {ops : List α} (hc : Meets step C s ops) :
    Meets step' D (f s) (ops.map g) := by
  induction ops generalizing s with
  | nil => trivial
  | cons o ops ih => exact ⟨hC s o hs hc.1, hf s o hs ▸ ih (hI s o hs) hc.2⟩

/-- the rule for a log: each step appends what is allowed after what the log holds already, and what tells of the
step -/
theorem run_log {ε τ : Type*} {L : σ → List ε} {read : τ → ε → τ} {A : τ → ε → Prop} {T : τ → σ → Prop} {l₀ : τ}
    (hI : ∀ s o, I s → I (step s o))
    (h : ∀ s o l, I s → T l s → ∃ new, L (step s o) = L s ++ new ∧ Meets read A l new ∧ T (run read l new) (step s o))
    {s : σ} (hs : I s) (hlog : Meets read A l₀ (L s)) (ht : T (run read l₀ (L s)) s) (ops : List α) :
    Meets read A l₀ (L (run step s ops)) ∧ T (run read l₀ (L (run step s ops))) (run step s ops) := by
  induction ops generalizing s with
  | nil => exact ⟨hlog, ht⟩
  | cons o ops ih =>
    obtain ⟨new, hnew, hallowed, htold⟩ := h s o _ hs ht
    rw [run_cons]
    refine ih (hI s o hs) ?_ ?_
    · rw [hnew]
      exact meets_append.2 ⟨hlog, hallowed⟩
    · rw [hnew, run_append]
      exact htold

theorem Meets.of_prefix {s : σ} {pre ops : List α} (hp : pre <+: ops) (hc : Meets step C s ops) :
    Meets step C s pre := by
  obtain ⟨post, rfl⟩ := hp
  exact (meets_append.1 hc).1

end InferencePlatform.Core
