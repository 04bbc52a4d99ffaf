/-
Precedence in traces: every event of one kind comes after an event of another kind.

A trace is the list of the events of one run, in order. `Guarded P Q trace` says that no event satisfies `Q` unless an
earlier one satisfies `P`; a gate (a check before an action) is such a property of its traces.

Results:
- `guarded_of_free`, `guarded_append`: a trace without a `Q`-event is guarded, and so is one whose `Q`-events are all after
  a part that holds a `P`-event;
- `guarded_singleton`: a trace that is one `Q`-event is not guarded.
-/
import Mathlib.Tactic

namespace Asabru.Precedence

variable {ε : Type}

/-- every `Q`-event comes after a `P`-event -/
def Guarded (P Q : ε → Prop) (trace : List ε) : Prop :=
  ∀ pre e post, trace = pre ++ e :: post → Q e → ∃ d ∈ pre, P d

/-- no event satisfies `Q` -/
def Free (Q : ε → Prop) (trace : List ε) : Prop := ∀ e ∈ trace, ¬ Q e

theorem guarded_of_free {P Q : ε → Prop} {trace : List ε} (h : Free Q trace) : Guarded P Q trace := by
  intro pre e post he hq
  exact absurd hq (h e (by rw [he]; simp))

/-- **Check, then act.** Whatever follows a part that checks is guarded, if the part itself does not act. -/
theorem guarded_append {P Q : ε → Prop} {checks rest : List ε} (hfree : Free Q checks) (hcheck : ∃ d ∈ checks, P d) :
    Guarded P Q (checks ++ rest) := by
  intro pre e post he hq
  obtain ⟨d, hd, hP⟩ := hcheck
  rcases List.append_eq_append_iff.1 he with ⟨l, hpre, -⟩ | ⟨l, hchecks, hrest⟩
  · exact ⟨d, by rw [hpre]; exact List.mem_append_left _ hd, hP⟩
  · -- the `Q`-event would be one of the checks
    cases l with
    | nil =>
      rw [List.append_nil] at hchecks
      exact ⟨d, hchecks ▸ hd, hP⟩
    | cons x l =>
      obtain ⟨rfl, -⟩ := List.cons.inj hrest
      exact absurd hq (hfree e (by rw [hchecks]; simp))

theorem guarded_singleton {P Q : ε → Prop} {e : ε} (hq : Q e) : ¬ Guarded P Q [e] := by
  intro h
  obtain ⟨d, hd, -⟩ := h [] e [] rfl hq
  cases hd

end Asabru.Precedence
