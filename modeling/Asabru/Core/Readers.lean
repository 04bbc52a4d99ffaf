/-
One writer of a shared object and any number of readers, interleaved.

The writer applies a list of operations to the object, one atomic step each. A reader looks at the object at any moment,
any number of times, and keeps what it saw. Steps of the parties interleave freely.

Results:
- `run_progress`: in every run the object is what some of the operations, in order, have made of it, and everything that
  a reader has seen is the view of the object after some of them;
- `seen_iff`: what can be seen is exactly the views after the prefixes of the operations.
-/
import Mathlib.Tactic
import Asabru.Core.Interleave

namespace Asabru.Readers

open Asabru.Interleave

inductive Party where
  | writer
  | reader (id : ℕ)
deriving DecidableEq, Repr

/-- the operations that the writer has left, or what a reader has seen -/
inductive Phase (ο ω : Type) where
  | writing (left : List ο)
  | reading (seen : List ω)

variable {σ ο ω : Type} (apply : σ → ο → σ) (view : σ → ω)

def next : Party → Phase ο ω → σ → Option (Phase ο ω × σ)
  | .writer, .writing (op :: left), s => some (.writing left, apply s op)
  | .reader _, .reading seen, s => some (.reading (seen ++ [view s]), s)
  | _, _, _ => none

/-- before the first step -/
def start (ops : List ο) (s : σ) : Machine Party (Phase ο ω) σ where
  control party := match party with
    | .writer => .writing ops
    | .reader _ => .reading []
  shared := s

/-- the machines that any interleaving leads to -/
abbrev Reaches (ops : List ο) (s : σ) (m : Machine Party (Phase ο ω) σ) : Prop :=
  Run (next apply view) (fun _ _ => True) (start ops s) m

/-- the object after some of the operations, in order -/
def Visible (ops : List ο) (s : σ) (v : ω) : Prop := ∃ made left, ops = made ++ left ∧ v = view (made.foldl apply s)

/-- how far the writer is, and what the readers have seen -/
structure Progress (ops : List ο) (s : σ) (m : Machine Party (Phase ο ω) σ) : Prop where
  writer : ∃ made left, ops = made ++ left ∧ m.control .writer = .writing left ∧ m.shared = made.foldl apply s
  readers : ∀ id, ∃ seen, m.control (.reader id) = .reading seen ∧ ∀ v ∈ seen, Visible apply view ops s v

variable {apply view} {ops : List ο} {s : σ} {m : Machine Party (Phase ο ω) σ}

/-- **One step** of any party. -/
theorem step_progress (h : Progress apply view ops s m) {party : Party} {c : Phase ο ω} {t : σ}
    (hn : next apply view party (m.control party) m.shared = some (c, t)) : Progress apply view ops s (m.move party c t) := by
  obtain ⟨made, left, hops, hw, hshared⟩ := h.writer
  cases party with
  | writer =>
    rw [hw] at hn
    cases left with
    | nil => cases hn
    | cons op left =>
      obtain ⟨rfl, rfl⟩ := Prod.mk.inj (Option.some.inj hn)
      refine ⟨⟨made ++ [op], left, by rw [hops, List.append_assoc]; rfl, move_self .., ?_⟩, fun id => ?_⟩
      · rw [move_shared, List.foldl_append, ← hshared]
        rfl
      · rw [move_other m (by intro h; cases h)]
        exact h.readers id
  | reader id =>
    obtain ⟨seen, hr, hseen⟩ := h.readers id
    rw [hr] at hn
    obtain ⟨rfl, rfl⟩ := Prod.mk.inj (Option.some.inj hn)
    refine ⟨⟨made, left, hops, ?_, hshared⟩, fun id' => ?_⟩
    · rw [move_other m (by intro h; cases h)]
      exact hw
    · by_cases hid : id' = id
      · subst hid
        refine ⟨seen ++ [view m.shared], move_self .., fun v hv => ?_⟩
        rcases List.mem_append.1 hv with hv | hv
        · exact hseen v hv
        · exact ⟨made, left, hops, by rw [List.mem_singleton.1 hv, hshared]⟩
      · rw [move_other m (by intro h; exact hid (Party.reader.inj h))]
        exact h.readers id'

/-- **A run** of any interleaving. -/
theorem run_progress (h : Reaches apply view ops s m) : Progress apply view ops s m := by
  induction h with
  | start =>
    refine ⟨⟨[], ops, rfl, rfl, rfl⟩, fun id => ⟨[], rfl, fun v hv => ?_⟩⟩
    cases hv
  | step _ party _ hs ih =>
    obtain ⟨c, t, hn, rfl⟩ := step_eq_some hs
    exact step_progress ih hn

/-- the writer alone can get anywhere -/
theorem writer_reaches (made left : List ο) (hm : m.control .writer = .writing (made ++ left))
    (h : Reaches apply view ops s m) : ∃ m', Reaches apply view ops s m' ∧ m'.control .writer = .writing left ∧
      m'.shared = made.foldl apply m.shared := by
  induction made generalizing m with
  | nil => exact ⟨m, h, hm, rfl⟩
  | cons op made ih =>
    have hs : m.step (next apply view) .writer = some (m.move .writer (.writing (made ++ left)) (apply m.shared op)) := by
      unfold Machine.step
      rw [hm]
      rfl
    obtain ⟨m', hm', hw, hshared⟩ := ih (move_self ..) (h.step .writer trivial hs)
    exact ⟨m', hm', hw, hshared⟩

/-- **What can be seen** is what the object looks like between two operations. -/
theorem seen_iff {v : ω} : (∃ m, Reaches apply view ops s m ∧ ∃ id seen, m.control (.reader id) = .reading seen ∧
    v ∈ seen) ↔ Visible apply view ops s v := by
  constructor
  · rintro ⟨m, h, id, seen, hc, hv⟩
    obtain ⟨seen', hc', hseen⟩ := (run_progress h).readers id
    obtain rfl := Phase.reading.inj (hc.symm.trans hc')
    exact hseen v hv
  · rintro ⟨made, left, hops, rfl⟩
    have hstart : Reaches apply view ops s (start ops s) := .start
    obtain ⟨m, hm, -, hshared⟩ := writer_reaches made left (congrArg Phase.writing hops) hstart
    obtain ⟨seen, hc, -⟩ := (run_progress hm).readers 0
    have hs : m.step (next apply view) (.reader 0) =
        some (m.move (.reader 0) (.reading (seen ++ [view m.shared])) m.shared) := by
      unfold Machine.step
      rw [hc]
      rfl
    refine ⟨_, hm.step (.reader 0) trivial hs, 0, seen ++ [view m.shared], move_self .., ?_⟩
    rw [hshared]
    exact List.mem_append_right _ (List.mem_singleton_self _)

end Asabru.Readers
