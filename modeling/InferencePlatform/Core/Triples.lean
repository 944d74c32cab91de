/-
Hoare triples of state-and-exception programs, read off their runs.

The triples are those of `Std.Do`. A triple over `EStateM` speaks about the one run from each state of its precondition
(`triple_iff`); `Keeps I x` is the triple that says that `x` leaves a state in `I` whether it returns or raises, and
`Yields` the one that says that it returns. Specifications of the parts of a program, tagged `@[spec]`, give those of
the whole by `mvcgen`; `Keeps.final` and `Yields.run` take the result back to the run.
-/
import Mathlib

namespace InferencePlatform.Core

open Std.Do

variable {ε σ α : Type} {P I : σ → Prop} {Q : α → σ → Prop} {E : ε → σ → Prop} {x : EStateM ε σ α} {s : σ}

theorem triple_iff : (⦃fun s => ⌜P s⌝⦄ x ⦃post⟨fun a s => ⌜Q a s⌝, fun e s => ⌜E e s⌝⟩⦄) ↔
    ∀ s, P s → match EStateM.run x s with
      | .ok a s' => Q a s'
      | .error e s' => E e s' := by
  rw [Triple.iff]
  constructor
  · intro h s hs
    have hrun := h s hs
    change (match EStateM.run x s with | .ok a s' => ULift.up (Q a s') | .error e s' => ULift.up (E e s')).down at hrun
    revert hrun
    cases EStateM.run x s <;> exact id
  · intro h s hs
    have hrun := h s hs
    change (match EStateM.run x s with | .ok a s' => ULift.up (Q a s') | .error e s' => ULift.up (E e s')).down
    revert hrun
    cases EStateM.run x s <;> exact id

/-- `x` keeps `I`, whether it returns or raises -/
abbrev Keeps (I : σ → Prop) (x : EStateM ε σ α) : Prop :=
  ⦃fun s => ⌜I s⌝⦄ x ⦃post⟨fun _ s => ⌜I s⌝, fun _ s => ⌜I s⌝⟩⦄

/-- from `P`, `x` returns in `Q` -/
abbrev Yields (P : σ → Prop) (x : EStateM ε σ α) (Q : α → σ → Prop) : Prop :=
  ⦃fun s => ⌜P s⌝⦄ x ⦃post⟨fun a s => ⌜Q a s⌝, fun _ _ => ⌜False⌝⟩⦄

theorem Keeps.ok {s' : σ} {a : α} (h : Keeps I x) (hs : I s) (hrun : EStateM.run x s = .ok a s') : I s' := by
  have hk := triple_iff.1 h s hs
  rw [hrun] at hk
  exact hk

theorem Keeps.error {s' : σ} {e : ε} (h : Keeps I x) (hs : I s) (hrun : EStateM.run x s = .error e s') : I s' := by
  have hk := triple_iff.1 h s hs
  rw [hrun] at hk
  exact hk

theorem Keeps.pure (a : α) : Keeps I (Pure.pure a : EStateM ε σ α) := triple_iff.2 fun _ hs => hs

theorem Keeps.bind {β : Type} (h : Keeps I x) {f : α → EStateM ε σ β} (hf : ∀ a, Keeps I (f a)) :
    Keeps I (x >>= f) := by
  refine triple_iff.2 fun s hs => ?_
  cases hrun : EStateM.run x s with
  | ok a s' =>
    rw [EStateM.run_bind, hrun]
    exact triple_iff.1 (hf a) s' (h.ok hs hrun)
  | error e s' =>
    rw [EStateM.run_bind, hrun]
    exact h.error hs hrun

/-- the run of a program that is known to return, from what its computation comes to -/
theorem returns_of_run (h : match EStateM.run x s with | .ok a s' => Q a s' | .error _ _ => False) :
    ∃ a s', EStateM.run x s = .ok a s' ∧ Q a s' := by
  cases hrun : EStateM.run x s with
  | ok a s' =>
    rw [hrun] at h
    exact ⟨a, s', rfl, h⟩
  | error e s' =>
    rw [hrun] at h
    exact h.elim

theorem Yields.run (h : Yields P x Q) (hs : P s) : ∃ a s', EStateM.run x s = .ok a s' ∧ Q a s' :=
  returns_of_run (triple_iff.1 h s hs)

end InferencePlatform.Core
