/-
While loops that walk a list with a cursor, in computations that may not end.

`Fueled ε α` is a computation that is given a bound on the passes of its loops: it returns, is left by an exit, or runs
out (none). One pass of a cursor loop ends with the cursor moved on and one result appended, or with the cursor where it
is (`Pass`); nothing makes a loop advance but its own body.

Results:
- `whileCursor_again`: a body that leaves the cursor at an element is run on it for ever;
- `whileCursor_computes`: a loop over bodies that compute `f`, and stay where `f` reports a hang, computes `forEach f` if
  that does not hang, and no bound is enough if it does (`Computes`).
-/
import Mathlib.Tactic
import Asabru.Core.Control

namespace Asabru.Cursor

open Asabru.Control

abbrev Fueled (ε α : Type) := ExceptT ε Option α

variable {ε ι α β γ : Type}

/-- a computation without loops -/
def lift (r : Except ε α) : Fueled ε α := some r

@[simp] theorem lift_ok (a : α) : lift (.ok a : Except ε α) = pure a := rfl

@[simp] theorem lift_error (e : ε) : lift (.error e : Except ε α) = throw e := rfl

@[simp] theorem throw_bind (e : ε) (f : α → Fueled ε β) : (throw e : Fueled ε α) >>= f = throw e := rfl

/-- how one pass ends -/
inductive Pass (β : Type) where
  | moveOn (b : β)
  | again

/-- at most `fuel` passes, the cursor at the head of the list -/
def whileCursor (body : ι → α → Fueled ε (Pass β)) : ℕ → (ℕ → ι) → List α → Fueled ε (List β)
  | _, _, [] => pure []
  | 0, _, _ :: _ => none
  | fuel + 1, u, a :: as => do
    match ← body (u 0) a with
    | .again => whileCursor body fuel u (a :: as)
    | .moveOn b =>
      let bs ← whileCursor body fuel (fun n => u (n + 1)) as
      return b :: bs

@[simp] theorem whileCursor_nil (body : ι → α → Fueled ε (Pass β)) (fuel : ℕ) (u : ℕ → ι) :
    whileCursor body fuel u [] = pure [] := by
  cases fuel <;> rfl

/-- a pass that moves on -/
theorem whileCursor_moveOn {body : ι → α → Fueled ε (Pass β)} {fuel : ℕ} {u : ℕ → ι} {a : α} {b : β}
    (h : body (u 0) a = pure (.moveOn b)) (as : List α) : whileCursor body (fuel + 1) u (a :: as) =
      whileCursor body fuel (fun n => u (n + 1)) as >>= fun bs => pure (b :: bs) := by
  rw [whileCursor, h, pure_bind]

/-- a pass that leaves the loop -/
theorem whileCursor_throw {body : ι → α → Fueled ε (Pass β)} {fuel : ℕ} {u : ℕ → ι} {a : α} {e : ε}
    (h : body (u 0) a = throw e) (as : List α) : whileCursor body (fuel + 1) u (a :: as) = throw e := by
  rw [whileCursor, h, throw_bind]

/-- **A cursor that is not moved makes the loop endless.** -/
theorem whileCursor_again {body : ι → α → Fueled ε (Pass β)} {u : ℕ → ι} {a : α}
    (h : body (u 0) a = none ∨ body (u 0) a = pure .again) (fuel : ℕ) (as : List α) :
    whileCursor body fuel u (a :: as) = none := by
  induction fuel with
  | zero => rfl
  | succ fuel ih =>
    rw [whileCursor]
    rcases h with h | h
    · rw [h]
      rfl
    · rw [h, pure_bind]
      exact ih

/-! ## What a loop computes -/

/-- `r` is what the computation ends with, if it does not end with `hang`; then no bound is enough -/
structure Computes (hang : ε) (g : ℕ → Fueled ε γ) (r : Except ε γ) : Prop where
  sound : ∀ fuel v, g fuel = lift v → v = r ∧ r ≠ .error hang
  total : r ≠ .error hang → ∃ N, ∀ fuel, N ≤ fuel → g fuel = lift r

/-- the same for a pass: where `r` is a hang, the cursor stays -/
structure Passes (hang : ε) (g : ℕ → Fueled ε (Pass β)) (r : Except ε β) : Prop where
  sound : ∀ fuel v, g fuel = lift v → (v = r.map .moveOn ∧ r ≠ .error hang) ∨ (v = .ok .again ∧ r = .error hang)
  total : r ≠ .error hang → ∃ N, ∀ fuel, N ≤ fuel → g fuel = lift (r.map .moveOn)

/-- a computation that ends has its first part end -/
theorem fueled_of_bind {x : Fueled ε α} {f : α → Fueled ε γ} {v : Except ε γ} (h : x >>= f = lift v) :
    ∃ w, x = lift w := by
  cases x with
  | none => cases h
  | some w => exact ⟨w, rfl⟩

theorem lift_injective {v w : Except ε α} (h : lift v = lift w) : v = w := Option.some.inj h

theorem computes_of_eq {hang : ε} {g : ℕ → Fueled ε γ} {r : Except ε γ} (h : ∀ fuel, g fuel = lift r)
    (hr : r ≠ .error hang) : Computes hang g r :=
  ⟨fun fuel _ hv => ⟨lift_injective (hv.symm.trans (h fuel)), hr⟩, fun _ => ⟨0, fun fuel _ => h fuel⟩⟩

theorem passes_of_eq {hang : ε} {g : ℕ → Fueled ε (Pass β)} {r : Except ε β}
    (h : ∀ fuel, g fuel = lift (r.map .moveOn)) (hr : r ≠ .error hang) : Passes hang g r :=
  ⟨fun fuel _ hv => Or.inl ⟨lift_injective (hv.symm.trans (h fuel)), hr⟩, fun _ => ⟨0, fun fuel _ => h fuel⟩⟩

/-- a pass that leaves the cursor where it is -/
theorem passes_again {hang : ε} {g : ℕ → Fueled ε (Pass β)} (h : ∀ fuel, g fuel = pure .again) :
    Passes hang g (.error hang) :=
  ⟨fun fuel _ hv => Or.inr ⟨lift_injective (hv.symm.trans (h fuel)), rfl⟩, fun hr => absurd rfl hr⟩

/-- a computation followed by one without loops -/
theorem Computes.map {hang : ε} {g : ℕ → Fueled ε γ} {r : Except ε γ} (h : Computes hang g r) (k : γ → α) :
    Computes hang (fun fuel => g fuel >>= fun c => pure (k c)) (r.map k) := by
  have hmap : ∀ v : Except ε γ, (lift v >>= fun c => (pure (k c) : Fueled ε α)) = lift (v.map k) := fun v => by
    cases v <;> rfl
  have hne : r.map k ≠ .error hang ↔ r ≠ .error hang := by
    cases r <;> simp [Except.map]
  constructor
  · intro fuel v hv
    cases hg : g fuel with
    | none => rw [hg] at hv; cases hv
    | some w =>
      obtain ⟨rfl, hr⟩ := h.sound fuel w hg
      rw [hg] at hv
      exact ⟨lift_injective (hv.symm.trans (hmap w)), hne.2 hr⟩
  · intro hr
    obtain ⟨N, hN⟩ := h.total (hne.1 hr)
    exact ⟨N, fun fuel hle => by rw [hN fuel hle, hmap]⟩

/-- a pass that ends with a computation and moves on -/
theorem Computes.passes {hang : ε} {g : ℕ → Fueled ε γ} {r : Except ε γ} (h : Computes hang g r) (k : γ → β) :
    Passes hang (fun fuel => g fuel >>= fun c => pure (.moveOn (k c))) (r.map k) := by
  have hc := h.map fun c => Pass.moveOn (k c)
  have hmap : r.map (fun c => Pass.moveOn (k c)) = (r.map k).map Pass.moveOn := by cases r <;> rfl
  have hne : r.map k ≠ .error hang ↔ (r.map k).map Pass.moveOn ≠ .error hang := by
    cases r <;> simp [Except.map]
  rw [hmap] at hc
  exact ⟨fun fuel v hv => Or.inl ⟨(hc.sound fuel v hv).1, hne.2 (hc.sound fuel v hv).2⟩, fun hr => hc.total (hne.1 hr)⟩

section Loop

variable {body : ℕ → ι → α → Fueled ε (Pass β)} {f : ι → α → Except ε β} {hang : ε} {as : List α}

theorem whileCursor_sound (h : ∀ i, ∀ a ∈ as, Passes hang (fun fuel => body fuel i a) (f i a)) (n fuel : ℕ)
    {u : ℕ → ι} {v : Except ε (List β)} (hv : whileCursor (body n) fuel u as = lift v) :
    v = forEach f u as ∧ forEach f u as ≠ .error hang := by
  induction as generalizing fuel u v with
  | nil =>
    rw [whileCursor_nil] at hv
    exact ⟨(lift_injective hv).symm, fun he => by cases he⟩
  | cons a as ih =>
    have ha := h (u 0) a List.mem_cons_self
    have hrest := fun i a' ha' => h i a' (List.mem_cons_of_mem a ha')
    cases fuel with
    | zero => cases hv
    | succ fuel =>
      cases hb : body n (u 0) a with
      | none =>
        rw [whileCursor_again (Or.inl hb)] at hv
        cases hv
      | some p =>
        rcases ha.sound n p hb with ⟨rfl, hne⟩ | ⟨rfl, -⟩
        · cases hf : f (u 0) a with
          | error e =>
            rw [hf] at hb hne
            rw [whileCursor_throw hb] at hv
            simp only [forEach, hf]
            exact ⟨(lift_injective hv).symm, fun he => hne (congrArg Except.error (Except.error.inj he))⟩
          | ok b =>
            rw [hf] at hb
            rw [whileCursor_moveOn hb] at hv
            obtain ⟨w, hw⟩ := fueled_of_bind hv
            obtain ⟨rfl, hne'⟩ := ih hrest fuel hw
            rw [hw] at hv
            simp only [forEach, hf]
            cases hr : forEach f (fun n => u (n + 1)) as with
            | error e =>
              rw [hr] at hv hne'
              exact ⟨(lift_injective hv).symm, fun he => hne' (congrArg Except.error (Except.error.inj he))⟩
            | ok bs =>
              rw [hr] at hv
              exact ⟨(lift_injective hv).symm, fun he => by cases he⟩
        · rw [whileCursor_again (Or.inr hb)] at hv
          cases hv

theorem whileCursor_total (h : ∀ i, ∀ a ∈ as, Passes hang (fun fuel => body fuel i a) (f i a)) {u : ℕ → ι}
    (hr : forEach f u as ≠ .error hang) :
    ∃ N, ∀ n fuel, N ≤ n → N ≤ fuel → whileCursor (body n) fuel u as = lift (forEach f u as) := by
  induction as generalizing u with
  | nil => exact ⟨0, fun n fuel _ _ => whileCursor_nil (body n) fuel u⟩
  | cons a as ih =>
    have ha := h (u 0) a List.mem_cons_self
    have hrest := fun i a' ha' => h i a' (List.mem_cons_of_mem a ha')
    simp only [forEach] at hr ⊢
    cases hf : f (u 0) a with
    | error e =>
      rw [hf] at ha
      simp only [hf] at hr
      have hne : (Except.error e : Except ε β) ≠ .error hang := fun he => hr (congrArg Except.error (Except.error.inj he))
      obtain ⟨N, hN⟩ := ha.total hne
      refine ⟨N + 1, fun n fuel hn hfuel => ?_⟩
      obtain ⟨k, rfl⟩ : ∃ k, fuel = k + 1 := ⟨fuel - 1, by omega⟩
      exact whileCursor_throw (hN n (by omega)) as
    | ok b =>
      rw [hf] at ha
      obtain ⟨N, hN⟩ := ha.total (fun he => by cases he)
      have hne : forEach f (fun n => u (n + 1)) as ≠ .error hang := by
        intro he
        simp only [hf, he] at hr
        exact hr rfl
      obtain ⟨M, hM⟩ := ih hrest hne
      refine ⟨max N M + 1, fun n fuel hn hfuel => ?_⟩
      obtain ⟨k, rfl⟩ : ∃ k, fuel = k + 1 := ⟨fuel - 1, by omega⟩
      rw [whileCursor_moveOn (hN n (by omega)), hM n k (by omega) (by omega)]
      cases forEach f (fun n => u (n + 1)) as <;> rfl

/-- **What a cursor loop computes.** -/
theorem whileCursor_computes (body : ℕ → ι → α → Fueled ε (Pass β)) (as : List α)
    (h : ∀ i, ∀ a ∈ as, Passes hang (fun fuel => body fuel i a) (f i a)) (u : ℕ → ι) :
    Computes hang (fun fuel => whileCursor (body fuel) fuel u as) (forEach f u as) := by
  refine ⟨fun fuel v hv => whileCursor_sound h fuel fuel hv, fun hr => ?_⟩
  obtain ⟨N, hN⟩ := whileCursor_total h hr
  exact ⟨N, fun fuel hle => hN fuel fuel hle hle⟩

end Loop

end Asabru.Cursor
