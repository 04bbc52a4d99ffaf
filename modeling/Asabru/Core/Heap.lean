/-
Objects allocated at fresh addresses.

A heap maps addresses to objects. `Holds R made heap next`: the heap holds an object for each element of `made`, related
to it and its address by `R`, no other object, and none at an address from `next` on.

Results:
- `Holds.alloc`: allocating at `next` keeps it, with one more element made;
- `Holds.skip`: addresses that are never used do no harm.
-/
import Mathlib.Tactic

namespace Asabru.Heap

variable {α ω : Type} {R : α → ℕ → ω → Prop} {made : List α} {heap : ℕ → Option ω} {next : ℕ}

structure Holds (R : α → ℕ → ω → Prop) (made : List α) (heap : ℕ → Option ω) (next : ℕ) : Prop where
  sound : ∀ i o, heap i = some o → i < next ∧ ∃ a ∈ made, R a i o
  complete : ∀ a ∈ made, ∃ i o, heap i = some o ∧ R a i o

theorem Holds.empty (R : α → ℕ → ω → Prop) (next : ℕ) : Holds R [] (fun _ => none) next :=
  ⟨fun _ _ h => (nomatch h), fun _ h => (nomatch h)⟩

theorem Holds.skip {next' : ℕ} (h : Holds R made heap next) (hle : next ≤ next') : Holds R made heap next' :=
  ⟨fun i o hi => ⟨lt_of_lt_of_le (h.sound i o hi).1 hle, (h.sound i o hi).2⟩, h.complete⟩

/-- the objects at other addresses are the ones that were there -/
theorem update_some {i : ℕ} {o p : ω} (h : Function.update heap next (some p) i = some o) :
    (i = next ∧ o = p) ∨ (i ≠ next ∧ heap i = some o) := by
  by_cases hi : i = next
  · rw [hi, Function.update_self] at h
    exact Or.inl ⟨hi, (Option.some.inj h).symm⟩
  · rw [Function.update_of_ne hi] at h
    exact Or.inr ⟨hi, h⟩

/-- **One more object.** -/
theorem Holds.alloc (h : Holds R made heap next) {a : α} {o : ω} (ho : R a next o) :
    Holds R (made ++ [a]) (Function.update heap next (some o)) (next + 1) := by
  refine ⟨fun i p hi => ?_, fun b hb => ?_⟩
  · rcases update_some hi with ⟨rfl, rfl⟩ | ⟨-, hold⟩
    · exact ⟨Nat.lt_succ_self i, a, List.mem_append_right _ (List.mem_singleton_self a), ho⟩
    · obtain ⟨hlt, b, hb, hr⟩ := h.sound i p hold
      exact ⟨Nat.lt_succ_of_lt hlt, b, List.mem_append_left _ hb, hr⟩
  · rcases List.mem_append.1 hb with hb | hb
    · obtain ⟨i, p, hi, hr⟩ := h.complete b hb
      have hne : i ≠ next := Nat.ne_of_lt (h.sound i p hi).1
      exact ⟨i, p, (Function.update_of_ne hne _ _).trans hi, hr⟩
    · rw [List.mem_singleton.1 hb]
      exact ⟨next, o, Function.update_self .., ho⟩

end Asabru.Heap
