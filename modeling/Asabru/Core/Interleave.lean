/-
Interleaved threads over a shared state, and their linearization points.

Each thread has a control state and steps by itself: `next i` takes its control state and the shared state to the next
ones, or to none when it cannot step. In a run any thread may step at any time, as long as its step is permitted;
`permitted` is a discipline that the threads follow, or true for every interleaving.

Results:
- `Sole.keep`, `Sole.set`: which thread is in a critical section, when each one enters only if no other is in it;
- `Run.serialized`: let every thread have one step at which it decides, and relate machines to abstract states so that a
  decision is the thread's whole action on the abstract state and no other step changes it. Then a run's abstract state
  is what the decided threads do one after another, in the order of their decisions.
-/
import Mathlib.Tactic

namespace Asabru.Interleave

variable {ι φ σ τ : Type}

/-- the threads act on the abstract state one after another -/
def serially (act : ι → τ → τ) (order : List ι) (t : τ) : τ := order.foldl (fun t i => act i t) t

theorem serially_concat (act : ι → τ → τ) (order : List ι) (i : ι) (t : τ) :
    serially act (order ++ [i]) t = act i (serially act order t) := by
  simp [serially]

structure Machine (ι φ σ : Type) where
  control : ι → φ
  shared : σ

/-! ## Critical sections -/

/-- `holder` is the only thread whose control state is in a part, with what it holds there; none if there is none -/
def Sole {κ : Type} (part : φ → Option κ) (m : Machine ι φ σ) (holder : Option (ι × κ)) : Prop :=
  ∀ i k, part (m.control i) = some k ↔ holder = some (i, k)

/-- no other thread is in the section of the thread that holds it -/
theorem Sole.others {κ : Type} {f : φ → Option κ} {m : Machine ι φ σ} {holder : Option (ι × κ)} (h : Sole f m holder)
    {i : ι} {k : κ} (hi : f (m.control i) = some k) {j : ι} (hj : j ≠ i) :
    f (m.control j) = none := by
  by_contra hne
  obtain ⟨k', hk'⟩ := Option.ne_none_iff_exists'.1 hne
  have := (h j k').1 hk'
  rw [(h i k).1 hi] at this
  exact hj (Prod.mk.inj (Option.some.inj this)).1.symm

theorem Sole.vacant {κ : Type} {f : φ → Option κ} {m : Machine ι φ σ} {holder : Option (ι × κ)} (h : Sole f m holder)
    (hfree : ∀ j, f (m.control j) = none) : holder = none := by
  by_contra hne
  obtain ⟨⟨j, k⟩, hk⟩ := Option.ne_none_iff_exists'.1 hne
  have := (h j k).2 hk
  rw [hfree j] at this
  cases this

variable [DecidableEq ι]

/-! ## Runs -/

/-- thread `i` moves to a control state and leaves a shared state -/
def Machine.move (m : Machine ι φ σ) (i : ι) (c : φ) (s : σ) : Machine ι φ σ := ⟨Function.update m.control i c, s⟩

@[simp] theorem move_shared (m : Machine ι φ σ) (i : ι) (c : φ) (s : σ) : (m.move i c s).shared = s := rfl

@[simp] theorem move_self (m : Machine ι φ σ) (i : ι) (c : φ) (s : σ) : (m.move i c s).control i = c :=
  Function.update_self ..

theorem move_other (m : Machine ι φ σ) {i j : ι} (h : j ≠ i) (c : φ) (s : σ) :
    (m.move i c s).control j = m.control j := Function.update_of_ne h _ _

/-- one step of thread `i` -/
def Machine.step (next : ι → φ → σ → Option (φ × σ)) (i : ι) (m : Machine ι φ σ) : Option (Machine ι φ σ) :=
  (next i (m.control i) m.shared).map fun r => m.move i r.1 r.2

/-- the machines that permitted steps lead to -/
inductive Run (next : ι → φ → σ → Option (φ × σ)) (permitted : ι → Machine ι φ σ → Prop) (m₀ : Machine ι φ σ) :
    Machine ι φ σ → Prop where
  | start : Run next permitted m₀ m₀
  | step {m m' : Machine ι φ σ} (h : Run next permitted m₀ m) (i : ι) (hp : permitted i m)
      (hs : m.step next i = some m') : Run next permitted m₀ m'

variable {next : ι → φ → σ → Option (φ × σ)} {permitted : ι → Machine ι φ σ → Prop} {m₀ m m' : Machine ι φ σ}

theorem step_eq_some {i : ι} (h : m.step next i = some m') :
    ∃ c s, next i (m.control i) m.shared = some (c, s) ∧ m' = m.move i c s := by
  obtain ⟨⟨c, s⟩, hn, heq⟩ := Option.map_eq_some_iff.1 h
  exact ⟨c, s, hn, heq.symm⟩

/-- run a schedule, as far as it is permitted -/
def execute (next : ι → φ → σ → Option (φ × σ)) (permitted : ι → Machine ι φ σ → Prop)
    [∀ i m, Decidable (permitted i m)] : List ι → Machine ι φ σ → Option (Machine ι φ σ)
  | [], m => some m
  | i :: is, m => if permitted i m then (m.step next i).bind (execute next permitted is) else none

/-- a schedule that is executed is a run -/
theorem execute_run [∀ i m, Decidable (permitted i m)] {is : List ι} (h : execute next permitted is m = some m')
    (hrun : Run next permitted m₀ m) : Run next permitted m₀ m' := by
  induction is generalizing m with
  | nil =>
    obtain rfl := Option.some.inj h
    exact hrun
  | cons i is ih =>
    simp only [execute] at h
    split_ifs at h with hp
    obtain ⟨m₁, hs, h₁⟩ := Option.bind_eq_some_iff.1 h
    exact ih h₁ (hrun.step i hp hs)

/-! ## Steps and sections -/

section Sections

variable {κ : Type} {f : φ → Option κ} {holder : Option (ι × κ)} {i : ι} {c : φ} {s : σ}

/-- a step outside the section -/
theorem Sole.keep (h : Sole f m holder) (hc : f c = f (m.control i)) : Sole f (m.move i c s) holder := by
  intro j k
  by_cases hj : j = i
  · rw [hj, move_self, hc, h]
  · rw [move_other m hj, h]

/-- a step into, in or out of a section where no other thread is -/
theorem Sole.set (hfree : ∀ j, j ≠ i → f (m.control j) = none) : Sole f (m.move i c s) ((f c).map (i, ·)) := by
  intro j k
  by_cases hj : j = i
  · rw [hj, move_self]
    simp
  · rw [move_other m hj, hfree j hj]
    simp [Ne.symm hj]

end Sections

/-! ## Serialization -/

/-- **Linearization points serialize a run.** -/
theorem Run.serialized {act : ι → τ → τ} {undecided : φ → Bool} {R : Machine ι φ σ → τ → Prop} {t₀ : τ}
    (sim : ∀ i m c s t, R m t → permitted i m → next i (m.control i) m.shared = some (c, s) →
      (undecided c = undecided (m.control i) ∧ R (m.move i c s) t) ∨
      (undecided (m.control i) = true ∧ undecided c = false ∧ R (m.move i c s) (act i t)))
    (h : Run next permitted m₀ m) (h₀ : R m₀ t₀) (hun : ∀ i, undecided (m₀.control i) = true) :
    ∃ order : List ι, order.Nodup ∧ (∀ i, i ∈ order ↔ undecided (m.control i) = false) ∧
      R m (serially act order t₀) := by
  induction h with
  | start => exact ⟨[], List.nodup_nil, fun i => by simp [hun i], h₀⟩
  | @step m m' _ i hp hs ih =>
    obtain ⟨order, hnodup, hmem, hR⟩ := ih
    obtain ⟨c, s, hn, rfl⟩ := step_eq_some hs
    rcases sim i m c s _ hR hp hn with ⟨hsame, hR'⟩ | ⟨hbefore, hafter, hR'⟩
    · refine ⟨order, hnodup, fun j => ?_, hR'⟩
      by_cases hj : j = i
      · rw [hj, hmem, move_self, hsame]
      · rw [hmem, move_other m hj]
    · have hnew : i ∉ order := by
        intro hi
        rw [(hmem i).1 hi] at hbefore
        cases hbefore
      refine ⟨order ++ [i], ?_, fun j => ?_, ?_⟩
      · exact hnodup.append (List.nodup_singleton i) (List.disjoint_singleton.2 hnew)
      · by_cases hj : j = i
        · rw [hj, move_self]
          simp [hafter]
        · rw [move_other m hj, ← hmem]
          simp [hj]
      · rw [serially_concat]
        exact hR'

end Asabru.Interleave
