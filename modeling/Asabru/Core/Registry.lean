/-
Servers registered by name, one after another, until one does not start.

Each server is created at the next address. One that has a name is registered under it and then started; if it refuses,
its name is erased, the object is deleted and the sequence stops. A server without a name is never registered.

Results:
- `run_live`: every registered object runs;
- `run_exact_iff`: every running object is the one registered under its name iff no name was tried twice, where the
  refused server counts as tried;
- `traverse_registry`: a loop that does this at every iteration, unless it is left in another way, does it as a whole.
-/
import Mathlib.Tactic
import Asabru.Core.Control

namespace Asabru.Registries

open Asabru.Control

/-- the map, and the name that the object at an address was started for, while it runs -/
structure Registry (ν : Type) where
  map : ν → Option ℕ
  running : ℕ → Option ν

variable {ν α : Type}

namespace Registry

/-- nothing registered, nothing running -/
def empty : Registry ν := ⟨fun _ => none, fun _ => none⟩

structure Exact (r : Registry ν) : Prop where
  registered : ∀ i n, r.running i = some n → r.map n = some i
  live : ∀ n i, r.map n = some i → (r.running i).isSome

/-- what was created below `next` -/
structure Below (r : Registry ν) (next : ℕ) : Prop where
  running : ∀ i n, r.running i = some n → i < next
  owner : ∀ n i, r.map n = some i → r.running i = some n

theorem Below.empty (next : ℕ) : (Registry.empty : Registry ν).Below next :=
  ⟨fun _ _ h => (nomatch h), fun _ _ h => (nomatch h)⟩

theorem Below.succ {r : Registry ν} {next : ℕ} (h : r.Below next) : r.Below (next + 1) :=
  ⟨fun i n hi => Nat.lt_succ_of_lt (h.running i n hi), h.owner⟩

/-- an object that runs without being registered under its name -/
def Stray (r : Registry ν) (i : ℕ) : Prop := ∃ n, r.running i = some n ∧ r.map n ≠ some i

theorem Exact.no_stray {r : Registry ν} (h : r.Exact) (i : ℕ) : ¬ r.Stray i := by
  rintro ⟨n, hi, hn⟩
  exact hn (h.registered i n hi)

variable [DecidableEq ν]

/-- register, start, and take back if it was refused -/
def attempt (r : Registry ν) (i : ℕ) (n : ν) (ok : Bool) : Registry ν where
  map := Function.update r.map n (if ok then some i else none)
  running := Function.update r.running i (if ok then some n else none)

section Attempt

variable {r : Registry ν} {i j next : ℕ} {n m : ν} {ok : Bool}

@[simp] theorem attempt_map_self : (r.attempt i n ok).map n = if ok then some i else none := Function.update_self ..

@[simp] theorem attempt_running_self : (r.attempt i n ok).running i = if ok then some n else none :=
  Function.update_self ..

theorem attempt_map_ne (h : m ≠ n) : (r.attempt i n ok).map m = r.map m := Function.update_of_ne h _ _

theorem attempt_running_ne (h : j ≠ i) : (r.attempt i n ok).running j = r.running j := Function.update_of_ne h _ _

theorem Below.attempt (h : r.Below next) (n : ν) (ok : Bool) : (r.attempt next n ok).Below (next + 1) := by
  constructor
  · intro i m hi
    by_cases hne : i = next
    · omega
    · rw [attempt_running_ne hne] at hi
      exact Nat.lt_succ_of_lt (h.running i m hi)
  · intro m i hm
    by_cases hmn : m = n
    · subst hmn
      rw [attempt_map_self] at hm
      cases ok with
      | false => cases hm
      | true =>
        obtain rfl := Option.some.inj hm
        exact attempt_running_self
    · rw [attempt_map_ne hmn] at hm
      have hold := h.owner m i hm
      rw [attempt_running_ne (Nat.ne_of_lt (h.running i m hold)), hold]

/-- a refused attempt under a new name leaves no trace -/
theorem attempt_refused (h : r.Below next) (hn : r.map n = none) : r.attempt next n false = r := by
  have hnext : r.running next = none := by
    cases hr : r.running next with
    | none => rfl
    | some m => exact absurd (h.running next m hr) (lt_irrefl next)
  obtain ⟨map, running⟩ := r
  simp only [attempt, Bool.false_eq_true, if_false, Registry.mk.injEq]
  exact ⟨by rw [← hn]; exact Function.update_eq_self _ _, by rw [← hnext]; exact Function.update_eq_self _ _⟩

/-- an accepted attempt under a new name keeps the registry exact -/
theorem Exact.attempt (h : r.Exact) (hb : r.Below next) (hn : r.map n = none) : (r.attempt next n true).Exact := by
  constructor
  · intro i m hi
    by_cases hne : i = next
    · subst hne
      rw [attempt_running_self] at hi
      obtain rfl := Option.some.inj hi
      exact attempt_map_self
    · rw [attempt_running_ne hne] at hi
      have hm := h.registered i m hi
      have hmn : m ≠ n := fun he => by rw [he, hn] at hm; cases hm
      rw [attempt_map_ne hmn, hm]
  · intro m i hm
    rw [(hb.attempt n true).owner m i hm]
    rfl

/-- a stray object stays one -/
theorem Stray.attempt (h : r.Stray i) (hlt : i < next) (n : ν) (ok : Bool) : (r.attempt next n ok).Stray i := by
  obtain ⟨m, hi, hm⟩ := h
  refine ⟨m, by rw [attempt_running_ne (Nat.ne_of_lt hlt), hi], ?_⟩
  by_cases hmn : m = n
  · subst hmn
    rw [attempt_map_self]
    cases ok with
    | false => simp
    | true => simp; omega
  · rwa [attempt_map_ne hmn]

/-- an attempt under a name that is taken makes a stray object -/
theorem attempt_taken (h : r.Below next) (hn : r.map n = some i) (ok : Bool) :
    (r.attempt next n ok).Stray i ∧ i < next := by
  have hi := h.owner n i hn
  have hlt := h.running i n hi
  refine ⟨⟨n, by rw [attempt_running_ne (Nat.ne_of_lt hlt), hi], ?_⟩, hlt⟩
  rw [attempt_map_self]
  cases ok with
  | false => simp
  | true => simp; omega

end Attempt

end Registry

/-! ## Sequences -/

section Run

variable (name : α → Option ν) (accepts : α → ℕ → Bool)

/-- the names that are tried -/
def tried : ℕ → List α → List ν
  | _, [] => []
  | i, a :: as => (name a).toList ++ if accepts a i then tried (i + 1) as else []

/-- what is tried depends on the names and the answers only -/
theorem tried_congr {name : α → Option ν} {accepts : α → ℕ → Bool} {γ : Type} {name' : γ → Option ν}
    {accepts' : γ → ℕ → Bool} {as : List α} {cs : List γ}
    (h : List.Forall₂ (fun a c => name a = name' c ∧ ∀ i, accepts a i = accepts' c i) as cs) (i : ℕ) :
    tried name accepts i as = tried name' accepts' i cs := by
  induction h generalizing i with
  | nil => rfl
  | cons hac _ ih => simp only [tried, hac.1, hac.2, ih]

variable [DecidableEq ν]

/-- one server at an address -/
def step (i : ℕ) (a : α) (r : Registry ν) : Registry ν :=
  match name a with
  | none => r
  | some n => r.attempt i n (accepts a i)

/-- the servers at consecutive addresses, as far as the first refused one -/
def run : ℕ → List α → Registry ν → Registry ν
  | _, [], r => r
  | i, a :: as, r => if accepts a i then run (i + 1) as (step name accepts i a r) else step name accepts i a r

variable {name accepts}

theorem step_below {r : Registry ν} {i : ℕ} (h : r.Below i) (a : α) : (step name accepts i a r).Below (i + 1) := by
  unfold step
  cases name a with
  | none => exact h.succ
  | some n => exact h.attempt n _

/-- **Every registered object runs**, under the name it is registered by. -/
theorem run_live {as : List α} {i : ℕ} {r : Registry ν} (h : r.Below i) : ∃ next, (run name accepts i as r).Below next := by
  induction as generalizing i r with
  | nil => exact ⟨i, h⟩
  | cons a as ih =>
    simp only [run]
    split_ifs
    · exact ih (step_below h a)
    · exact ⟨i + 1, step_below h a⟩

theorem run_stray {as : List α} {i j : ℕ} {r : Registry ν} (h : r.Stray j) (hlt : j < i) :
    (run name accepts i as r).Stray j := by
  have hstep : ∀ a (i : ℕ) (r : Registry ν), r.Stray j → j < i → (step name accepts i a r).Stray j := by
    intro a i r h hlt
    unfold step
    cases name a with
    | none => exact h
    | some n => exact h.attempt hlt n _
  induction as generalizing i r with
  | nil => exact h
  | cons a as ih =>
    simp only [run]
    split_ifs
    · exact ih (hstep a i r h hlt) (Nat.lt_succ_of_lt hlt)
    · exact hstep a i r h hlt

theorem run_exact {as : List α} {i : ℕ} {r : Registry ν} (hb : r.Below i) (he : r.Exact) :
    (run name accepts i as r).Exact ↔
      (tried name accepts i as).Nodup ∧ ∀ n ∈ tried name accepts i as, r.map n = none := by
  induction as generalizing i r with
  | nil => simpa [run, tried] using he
  | cons a as ih =>
    simp only [run, tried, step]
    cases hn : name a with
    | none =>
      by_cases ha : accepts a i = true
      · simpa [ha] using ih hb.succ he
      · simpa [ha] using he
    | some n =>
      cases hm : r.map n with
      | some j =>
        -- the name is taken: the object that has it becomes a stray one
        obtain ⟨hstray, hlt⟩ := Registry.attempt_taken hb hm (accepts a i)
        have hno : ¬ ((if accepts a i = true then run name accepts (i + 1) as (r.attempt i n (accepts a i))
            else r.attempt i n (accepts a i)).Exact) := by
          intro h
          split_ifs at h
          · exact h.no_stray j (run_stray hstray (Nat.lt_succ_of_lt hlt))
          · exact h.no_stray j hstray
        simp [hno, hm]
      | none =>
        by_cases ha : accepts a i = true
        · have hmap : ∀ m, (r.attempt i n true).map m = none ↔ m ≠ n ∧ r.map m = none := by
            intro m
            by_cases hmn : m = n
            · simp [Registry.attempt, hmn]
            · simp [Registry.attempt, hmn]
          simp only [ha, if_true, Option.toList_some, List.singleton_append, List.nodup_cons, List.forall_mem_cons]
          rw [ih (hb.attempt n true) (he.attempt hb hm)]
          simp only [hmap]
          constructor
          · rintro ⟨hnodup, hall⟩
            exact ⟨⟨fun hmem => (hall n hmem).1 rfl, hnodup⟩, hm, fun m hmem => (hall m hmem).2⟩
          · rintro ⟨⟨hnot, hnodup⟩, -, hall⟩
            exact ⟨hnodup, fun m hmem => ⟨fun heq => hnot (heq ▸ hmem), hall m hmem⟩⟩
        · rw [Bool.not_eq_true] at ha
          simpa [ha, hm, Registry.attempt_refused hb hm] using he

/-- **The registry is exact iff no name was tried twice.** -/
theorem run_exact_iff (i : ℕ) (as : List α) :
    (run name accepts i as Registry.empty).Exact ↔ (tried name accepts i as).Nodup := by
  rw [run_exact (Registry.Below.empty i) ⟨fun _ _ h => (nomatch h), fun _ _ h => (nomatch h)⟩]
  exact and_iff_left fun _ _ => rfl

end Run

/-! ## Loops -/

section Loop

variable {σ ε β : Type} [DecidableEq ν] {name : α → Option ν} {accepts : α → ℕ → Bool} {body : α → σ → Except ε β × σ}
  {view : σ → Registry ν} {next : σ → ℕ} {bad : ε → Prop} {I : σ → Prop}

/-- one iteration: it is left in another way, or it creates its server at the next address -/
def Attempts (name : α → Option ν) (accepts : α → ℕ → Bool) (body : α → σ → Except ε β × σ) (view : σ → Registry ν)
    (next : σ → ℕ) (bad : ε → Prop) (a : α) (s : σ) : Prop :=
  (∃ e, (body a s).1 = .error e ∧ bad e) ∨
    (view (body a s).2 = step name accepts (next s) a (view s) ∧ next (body a s).2 = next s + 1 ∧
      (accepts a (next s) = true ↔ ∃ b, (body a s).1 = .ok b))

/-- **A loop of attempts** is a run, and leaves its last address behind when it ends. -/
theorem traverse_registry (view : σ → Registry ν) (next : σ → ℕ) (as done : List α) {base : ℕ} {s : σ}
    (hkeep : ∀ a s, I s → I (body a s).2)
    (hstep : ∀ pre a post, done ++ as = pre ++ a :: post → ∀ s, I s → next s = base + pre.length →
      Attempts name accepts body view next bad a s)
    (hI : I s) (hs : next s = base + done.length) :
    (∃ e, (traverse body as s).1 = .error e ∧ bad e) ∨
      (view (traverse body as s).2 = run name accepts (next s) as (view s) ∧
        ∀ bs, (traverse body as s).1 = .ok bs → next (traverse body as s).2 = next s + as.length) := by
  induction as generalizing done s with
  | nil => exact Or.inr ⟨rfl, fun _ _ => rfl⟩
  | cons a as ih =>
    simp only [Control.traverse, run]
    have hI' := hkeep a s hI
    rcases hstep done a as rfl s hI hs with ⟨e, he, hbad⟩ | ⟨hview, hnext, hok⟩
    · rcases hb : body a s with ⟨r, t⟩
      rw [hb] at he
      obtain rfl : r = .error e := he
      exact Or.inl ⟨e, rfl, hbad⟩
    · rcases hb : body a s with ⟨r, t⟩
      rw [hb] at hview hnext hok hI'
      dsimp only at hview hnext hok
      cases r with
      | error e =>
        have hno : ¬ accepts a (next s) = true := fun h => by obtain ⟨b, h⟩ := hok.1 h; cases h
        rw [if_neg hno]
        exact Or.inr ⟨hview, fun _ h => by cases h⟩
      | ok b =>
        rw [if_pos (hok.2 ⟨b, rfl⟩), ← hview, ← hnext]
        have hlen : next t = base + (done ++ [a]).length := by
          rw [List.length_append, List.length_singleton]
          omega
        have hrest := ih (done ++ [a]) (s := t) (fun pre c post hsplit => hstep pre c post (by
          rw [← hsplit]; simp)) hI' hlen
        rcases hq : Control.traverse body as t with ⟨q, w⟩
        rw [hq] at hrest
        simp only [hq]
        cases q with
        | error e' =>
          rcases hrest with ⟨e, he, hbad⟩ | ⟨hv, -⟩
          · exact Or.inl ⟨e, he, hbad⟩
          · exact Or.inr ⟨hv, fun _ h => by cases h⟩
        | ok bs' =>
          rcases hrest with ⟨e, he, -⟩ | ⟨hv, hn⟩
          · cases he
          · refine Or.inr ⟨hv, fun _ _ => ?_⟩
            have hlast := hn bs' rfl
            dsimp only at hlast ⊢
            rw [List.length_cons]
            omega

end Loop

end Asabru.Registries
