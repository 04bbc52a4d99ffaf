/-
How a C++ call ends, and loops that can be left early.

A call returns a value, is left by an exception, never returns, or has undefined behaviour (`Ending`). A loop body that
can leave its function is a function into `Except`: `forEach` runs it over the elements in order and stops at the first
exit. Each iteration also receives the next entry of a stream: the arbitrary contents of the locals that the body
declares without initialising them.

Results:
- `forEach_ok`: a loop that runs to its end has one result per element, in order, each from its own element;
- `forEach_congr`, `forEach_exit_congr`: what does not depend on the stream in a body does not in the loop;
- `forEach_isOk`: a loop runs to its end iff no body exits, when the exits do not depend on the stream;
- `forEach_error`: an exit of the loop is an exit of the body at one of the elements;
- `traverse_cons_ok`, `traverse_cons_error`: one iteration of a loop that carries a state (`traverse`);
- `traverse_ok`, `traverse_error`: what the results and the exit of such a loop are;
- `traverse_inv`, `traverse_keeps`: what every iteration keeps holds when the loop ends, and when it is left;
- `forEach_exit`, `forEach_left`, `traverse_exit`: which element a loop is left by;
- `traverse_same`: two loops whose bodies agree step by step on exits and states agree as wholes.
-/
import Mathlib.Tactic

namespace Asabru.Control

/-- a C++ exception: derived from `std::exception`, with its `what()` text, or of any other type -/
inductive Exn where
  | std (what : String)
  | other
deriving DecidableEq, Repr

/-- how a call ends -/
inductive Ending (α : Type) where
  | ret (a : α)
  | throws (e : Exn)
  | hangs
  | undefined
deriving DecidableEq, Repr

/-- a call by its caller's state: how it ends and the state it leaves, whichever way it ends -/
def andThen {α β σ : Type} (r : Ending α × σ) (f : α → σ → Ending β × σ) : Ending β × σ :=
  match r with
  | (.ret a, s) => f a s
  | (.throws e, s) => (.throws e, s)
  | (.hangs, s) => (.hangs, s)
  | (.undefined, s) => (.undefined, s)

/-- a call that returns hands its result and state to the continuation; any other ending is final -/
theorem andThen_ret {α β σ : Type} {r : Ending α × σ} {f : α → σ → Ending β × σ} {b : β} {t : σ}
    (h : andThen r f = (.ret b, t)) : ∃ a s, r = (.ret a, s) ∧ f a s = (.ret b, t) := by
  obtain ⟨e, s⟩ := r
  cases e with
  | ret a => exact ⟨a, s, rfl, h⟩
  | throws e => cases h
  | hangs => cases h
  | undefined => cases h

/-- a continuation that changes no state leaves the state of the call -/
theorem andThen_state {α β σ : Type} {r : Ending α × σ} {f : α → σ → Ending β × σ} (h : ∀ a s, (f a s).2 = s) :
    (andThen r f).2 = r.2 := by
  obtain ⟨e, s⟩ := r
  cases e with
  | ret a => exact h a s
  | throws e => rfl
  | hangs => rfl
  | undefined => rfl

/-- `catch (const std::exception &e)`: the handler gets `e.what()`, any other exception passes -/
def catchStd {α σ : Type} (handler : String → α) (r : Ending α × σ) : Ending α × σ :=
  match r with
  | (.throws (.std what), s) => (.ret (handler what), s)
  | r => r

/-- a caller that catches the same way catches nothing more -/
theorem catchStd_idem {α σ : Type} (handler : String → α) (r : Ending α × σ) :
    catchStd handler (catchStd handler r) = catchStd handler r := by
  obtain ⟨e, s⟩ := r
  cases e with
  | throws err => cases err <;> rfl
  | ret a => rfl
  | hangs => rfl
  | undefined => rfl

/-- the handler changes no state -/
theorem catchStd_state {α σ : Type} (handler : String → α) (r : Ending α × σ) : (catchStd handler r).2 = r.2 := by
  unfold catchStd
  split <;> rfl

variable {ε ι α β : Type}

/-- run a loop body over the elements in order, each with the next entry of the stream; leave at the first exit -/
def forEach (body : ι → α → Except ε β) : (ℕ → ι) → List α → Except ε (List β)
  | _, [] => .ok []
  | u, a :: as =>
    match body (u 0) a with
    | .error e => .error e
    | .ok b =>
      match forEach body (fun n => u (n + 1)) as with
      | .error e => .error e
      | .ok bs => .ok (b :: bs)

theorem forEach_cons_ok {body : ι → α → Except ε β} {u : ℕ → ι} {a : α} {as : List α} {bs : List β}
    (h : forEach body u (a :: as) = .ok bs) :
    ∃ b bs', body (u 0) a = .ok b ∧ forEach body (fun n => u (n + 1)) as = .ok bs' ∧ bs = b :: bs' := by
  simp only [forEach] at h
  cases hb : body (u 0) a with
  | error e => rw [hb] at h; cases h
  | ok b =>
    rw [hb] at h
    cases hr : forEach body (fun n => u (n + 1)) as with
    | error e => simp only [hr] at h; cases h
    | ok bs' => simp only [hr] at h; cases h; exact ⟨b, bs', rfl, rfl, rfl⟩

/-- **Loop to the end.** One result per element, in order, each computed from its own element. -/
theorem forEach_ok {body : ι → α → Except ε β} {u : ℕ → ι} {as : List α} {bs : List β}
    (h : forEach body u as = .ok bs) : List.Forall₂ (fun a b => ∃ i, body i a = .ok b) as bs := by
  induction as generalizing u bs with
  | nil => cases h; exact .nil
  | cons a as ih =>
    obtain ⟨b, bs', hb, hr, rfl⟩ := forEach_cons_ok h
    exact .cons ⟨u 0, hb⟩ (ih hr)

/-- the same for a stream all of whose entries have a property -/
theorem forEach_ok_of {body : ι → α → Except ε β} {P : ι → Prop} {u : ℕ → ι} {as : List α} {bs : List β}
    (hP : ∀ n, P (u n)) (h : forEach body u as = .ok bs) :
    List.Forall₂ (fun a b => ∃ i, P i ∧ body i a = .ok b) as bs := by
  induction as generalizing u bs with
  | nil => cases h; exact .nil
  | cons a as ih =>
    obtain ⟨b, bs', hb, hr, rfl⟩ := forEach_cons_ok h
    exact .cons ⟨u 0, hP 0, hb⟩ (ih (fun n => hP (n + 1)) hr)

/-- a loop whose bodies ignore the stream at its elements ignores the stream -/
theorem forEach_congr {body : ι → α → Except ε β} {as : List α} (h : ∀ a ∈ as, ∀ i j, body i a = body j a)
    (u u' : ℕ → ι) : forEach body u as = forEach body u' as := by
  induction as generalizing u u' with
  | nil => rfl
  | cons a as ih =>
    simp only [forEach, h a List.mem_cons_self (u 0) (u' 0),
      ih (fun a' ha' => h a' (List.mem_cons_of_mem a ha')) (fun n => u (n + 1)) fun n => u' (n + 1)]

/-- two loops over the same elements with the same results, read element by element -/
theorem forEach_same {body : ι → α → Except ε β} {P Q : ι → Prop} {u u' : ℕ → ι} {as : List α} {bs : List β}
    (hP : ∀ n, P (u n)) (hQ : ∀ n, Q (u' n)) (h : forEach body u as = .ok bs) (h' : forEach body u' as = .ok bs) :
    ∀ a ∈ as, ∃ i j b, P i ∧ Q j ∧ body i a = .ok b ∧ body j a = .ok b := by
  induction as generalizing u u' bs with
  | nil => exact fun _ ha => absurd ha List.not_mem_nil
  | cons a as ih =>
    obtain ⟨b, bs', hb, hr, rfl⟩ := forEach_cons_ok h
    obtain ⟨b', bs'', hb', hr', heq⟩ := forEach_cons_ok h'
    obtain ⟨rfl, rfl⟩ := List.cons.inj heq
    refine List.forall_mem_cons.2 ⟨⟨u 0, u' 0, b, hP 0, hQ 0, hb, hb'⟩, ?_⟩
    exact ih (fun n => hP (n + 1)) (fun n => hQ (n + 1)) hr hr'

/-- an exit of the loop is an exit of the body at one of the elements -/
theorem forEach_error {body : ι → α → Except ε β} {u : ℕ → ι} {as : List α} {e : ε}
    (h : forEach body u as = .error e) : ∃ i, ∃ a ∈ as, body i a = .error e := by
  induction as generalizing u with
  | nil => cases h
  | cons a as ih =>
    simp only [forEach] at h
    cases hb : body (u 0) a with
    | error e' => rw [hb] at h; cases h; exact ⟨u 0, a, List.mem_cons_self, hb⟩
    | ok b =>
      rw [hb] at h
      cases hr : forEach body (fun n => u (n + 1)) as with
      | ok bs => simp only [hr] at h; cases h
      | error e' =>
        simp only [hr] at h; cases h
        obtain ⟨i, a', ha', hi⟩ := ih hr
        exact ⟨i, a', List.mem_cons_of_mem a ha', hi⟩

/-- an exit of a sequence is an exit of its first part, or of its second part after the first one ended -/
theorem bind_error {x : Except ε α} {f : α → Except ε β} {e : ε} (h : (x >>= f) = .error e) :
    x = .error e ∨ ∃ a, x = .ok a ∧ f a = .error e := by
  cases x with
  | error e' => cases h; exact Or.inl rfl
  | ok a => exact Or.inr ⟨a, rfl, h⟩

theorem bind_error_iff {x : Except ε α} {f : α → Except ε β} {e : ε} :
    (x >>= f) = .error e ↔ x = .error e ∨ ∃ a, x = .ok a ∧ f a = .error e := by
  refine ⟨bind_error, ?_⟩
  rintro (rfl | ⟨a, rfl, h⟩)
  · rfl
  · exact h

@[simp] theorem ok_bind (a : α) (f : α → Except ε β) : (Except.ok a >>= f) = f a := rfl

/-- a sequence gives a result iff both parts do -/
theorem bind_ok_iff {x : Except ε α} {f : α → Except ε β} {b : β} :
    (x >>= f) = .ok b ↔ ∃ a, x = .ok a ∧ f a = .ok b := by
  cases x with
  | error e => exact ⟨nofun, nofun⟩
  | ok a => exact ⟨fun h => ⟨a, rfl, h⟩, fun ⟨_, ha, h⟩ => Except.ok.inj ha ▸ h⟩

/-- the loop runs to its end iff no element makes the body exit -/
theorem forEach_isOk {body : ι → α → Except ε β} {p : α → Prop} (hp : ∀ i a, (∃ b, body i a = .ok b) ↔ p a)
    (u : ℕ → ι) (as : List α) : (∃ bs, forEach body u as = .ok bs) ↔ ∀ a ∈ as, p a := by
  induction as generalizing u with
  | nil => simp [forEach]
  | cons a as ih =>
    constructor
    · rintro ⟨bs, h⟩
      obtain ⟨b, bs', hb, hr, -⟩ := forEach_cons_ok h
      exact List.forall_mem_cons.2 ⟨(hp _ a).1 ⟨b, hb⟩, (ih _).1 ⟨bs', hr⟩⟩
    · intro h
      obtain ⟨ha, has⟩ := List.forall_mem_cons.1 h
      obtain ⟨b, hb⟩ := (hp (u 0) a).2 ha
      obtain ⟨bs, hr⟩ := (ih fun n => u (n + 1)).2 has
      exact ⟨b :: bs, by simp only [forEach, hb, hr]⟩

/-- a loop that leaves by translated exits -/
theorem forEach_mapError {ε' : Type} (g : ε → ε') (body : ι → α → Except ε β) (u : ℕ → ι) (as : List α) :
    forEach (fun i a => (body i a).mapError g) u as = (forEach body u as).mapError g := by
  induction as generalizing u with
  | nil => rfl
  | cons a as ih =>
    simp only [forEach, ih]
    cases body (u 0) a with
    | error e => rfl
    | ok b => cases forEach body (fun n => u (n + 1)) as <;> rfl

/-- an element of a list has its counterpart in an elementwise related one -/
theorem forall₂_right {R : α → β → Prop} {as : List α} {bs : List β} (h : List.Forall₂ R as bs) {b : β} (hb : b ∈ bs) :
    ∃ a ∈ as, R a b := by
  induction h with
  | nil => cases hb
  | cons hab _ ih =>
    rcases List.mem_cons.1 hb with rfl | hb
    · exact ⟨_, List.mem_cons_self, hab⟩
    · obtain ⟨a, ha, hr⟩ := ih hb
      exact ⟨a, List.mem_cons_of_mem _ ha, hr⟩

/-- lists that stand for one list have related members -/
theorem forall₂_meet {γ : Type} {R : α → β → Prop} {S : α → γ → Prop} {T : β → γ → Prop} {as : List α} {bs : List β}
    {cs : List γ} (h : List.Forall₂ R as bs) (h' : List.Forall₂ S as cs) (hT : ∀ a ∈ as, ∀ b c, R a b → S a c → T b c) :
    List.Forall₂ T bs cs := by
  induction h generalizing cs with
  | nil => cases h'; exact .nil
  | @cons a b as bs hab _ ih =>
    cases h' with
    | cons hac hrest =>
      exact .cons (hT a List.mem_cons_self b _ hab hac) (ih hrest fun a' ha' => hT a' (List.mem_cons_of_mem a ha'))

/-- lists have equal images iff they are elementwise related by it -/
theorem map_eq_iff_forall₂ {γ : Type} {f : α → γ} {g : β → γ} {as : List α} {bs : List β} :
    as.map f = bs.map g ↔ List.Forall₂ (fun a b => f a = g b) as bs := by
  rw [← List.forall₂_eq_eq_eq, List.forall₂_map_left_iff, List.forall₂_map_right_iff]

/-- an element at a position has its counterpart there -/
theorem forall₂_at {R : α → β → Prop} {as : List α} {bs : List β} (h : List.Forall₂ R as bs) {i : ℕ} {a : α}
    (ha : as[i]? = some a) : ∃ b, bs[i]? = some b ∧ R a b := by
  induction h generalizing i with
  | nil => cases ha
  | @cons a' b' as bs hab _ ih =>
    cases i with
    | zero =>
      obtain rfl := Option.some.inj ha
      exact ⟨b', rfl, hab⟩
    | succ i => exact ih ha

/-- related lists have related first hits for predicates that agree on related elements -/
theorem forall₂_find {R : α → β → Prop} {p : α → Bool} {q : β → Bool} (hpq : ∀ a b, R a b → p a = q b) {as : List α}
    {bs : List β} (h : List.Forall₂ R as bs) :
    (as.find? p = none ∧ bs.find? q = none) ∨ ∃ a b, as.find? p = some a ∧ bs.find? q = some b ∧ R a b := by
  induction h with
  | nil => exact Or.inl ⟨rfl, rfl⟩
  | @cons a b as bs hab _ ih =>
    have hq := hpq a b hab
    cases hp : p a with
    | true =>
      rw [hp] at hq
      exact Or.inr ⟨a, b, List.find?_cons_of_pos hp, List.find?_cons_of_pos hq.symm, hab⟩
    | false =>
      rw [hp] at hq
      have hp' : ¬ p a = true := by simp [hp]
      have hq' : ¬ q b = true := by simp [← hq]
      rw [List.find?_cons_of_neg hp', List.find?_cons_of_neg hq']
      exact ih

/-- and related last hits -/
theorem forall₂_last {R : α → β → Prop} {p : α → Bool} {q : β → Bool} (hpq : ∀ a b, R a b → p a = q b) {as : List α}
    {bs : List β} (h : List.Forall₂ R as bs) :
    ((as.filter p).getLast? = none ∧ (bs.filter q).getLast? = none) ∨
      ∃ a b, (as.filter p).getLast? = some a ∧ (bs.filter q).getLast? = some b ∧ R a b := by
  rw [List.getLast?_filter, List.getLast?_filter]
  exact forall₂_find hpq (List.rel_reverse h)

/-! ## Loops with a state -/

variable {σ : Type}

/-- run a loop body that reads and changes a state over the elements in order; the state survives an exit -/
def traverse (body : α → σ → Except ε β × σ) : List α → σ → Except ε (List β) × σ
  | [], s => (.ok [], s)
  | a :: as, s =>
    match body a s with
    | (.error e, s') => (.error e, s')
    | (.ok b, s') =>
      match traverse body as s' with
      | (.error e, t) => (.error e, t)
      | (.ok bs, t) => (.ok (b :: bs), t)

/-- **A loop runs to its end** iff its first iteration yields a result and the rest runs to its end after it. -/
theorem traverse_cons_ok {body : α → σ → Except ε β × σ} {a : α} {as : List α} {s t : σ} {bs : List β} :
    traverse body (a :: as) s = (.ok bs, t) ↔
      ∃ b bs' s', body a s = (.ok b, s') ∧ traverse body as s' = (.ok bs', t) ∧ bs = b :: bs' := by
  constructor
  · intro h
    simp only [traverse] at h
    rcases hb : body a s with ⟨r, s'⟩
    cases r with
    | error e => rw [hb] at h; cases h
    | ok b =>
      rw [hb] at h
      rcases hr : traverse body as s' with ⟨rs, t'⟩
      cases rs with
      | error e => simp only [hr] at h; cases h
      | ok bs' =>
        simp only [hr] at h; cases h
        exact ⟨b, bs', s', rfl, hr, rfl⟩
  · rintro ⟨b, bs', s', hb, hr, rfl⟩
    simp only [traverse, hb, hr]

/-- **A loop exits** iff its first iteration does, or yields a result after which the rest exits. -/
theorem traverse_cons_error {body : α → σ → Except ε β × σ} {a : α} {as : List α} {s t : σ} {e : ε} :
    traverse body (a :: as) s = (.error e, t) ↔
      body a s = (.error e, t) ∨ ∃ b s', body a s = (.ok b, s') ∧ traverse body as s' = (.error e, t) := by
  constructor
  · intro h
    simp only [traverse] at h
    rcases hb : body a s with ⟨r, s'⟩
    cases r with
    | error e' =>
      rw [hb] at h; cases h
      exact Or.inl rfl
    | ok b =>
      rw [hb] at h
      rcases hr : traverse body as s' with ⟨rs, t'⟩
      cases rs with
      | ok bs => simp only [hr] at h; cases h
      | error e' =>
        simp only [hr] at h; cases h
        exact Or.inr ⟨b, s', rfl, hr⟩
  · rintro (hb | ⟨b, s', hb, hr⟩)
    · simp only [traverse, hb]
    · simp only [traverse, hb, hr]

/-- a loop with a state that runs to its end has one result per element, in order -/
theorem traverse_ok {body : α → σ → Except ε β × σ} {as : List α} {s t : σ} {bs : List β}
    (h : traverse body as s = (.ok bs, t)) : List.Forall₂ (fun a b => ∃ s s', body a s = (.ok b, s')) as bs := by
  induction as generalizing s bs with
  | nil => cases h; exact .nil
  | cons a as ih =>
    obtain ⟨b, bs', s', hb, hr, rfl⟩ := traverse_cons_ok.1 h
    exact .cons ⟨s, s', hb⟩ (ih hr)

/-- what every iteration keeps and yields, a loop that runs to its end yields for each element -/
theorem traverse_forall₂ {body : α → σ → Except ε β × σ} {P : σ → Prop} {R : α → β → Prop}
    (step : ∀ a s b s', P s → body a s = (.ok b, s') → P s' ∧ R a b) {as : List α} {s t : σ} {bs : List β}
    (h : traverse body as s = (.ok bs, t)) (h0 : P s) : List.Forall₂ R as bs := by
  induction as generalizing s bs with
  | nil => cases h; exact .nil
  | cons a as ih =>
    obtain ⟨b, bs', s', hb, hr, rfl⟩ := traverse_cons_ok.1 h
    obtain ⟨hP, hR⟩ := step a s b s' h0 hb
    exact .cons hR (ih hr hP)

/-- an exit of a loop with a state is an exit of the body at one of the elements -/
theorem traverse_error {body : α → σ → Except ε β × σ} {as : List α} {s t : σ} {e : ε}
    (h : traverse body as s = (.error e, t)) : ∃ a ∈ as, ∃ s', body a s' = (.error e, t) := by
  induction as generalizing s with
  | nil => cases h
  | cons a as ih =>
    rcases traverse_cons_error.1 h with hb | ⟨b, s', -, hr⟩
    · exact ⟨a, List.mem_cons_self, s, hb⟩
    · obtain ⟨a', ha', hs⟩ := ih hr
      exact ⟨a', List.mem_cons_of_mem a ha', hs⟩

/-- **Loop invariant.** A property of the elements done and the state that every iteration keeps holds at the end. -/
theorem traverse_inv {body : α → σ → Except ε β × σ} {P : List α → σ → Prop} {as : List α} (done : List α) {s t : σ}
    {bs : List β}
    (step : ∀ done, ∀ a ∈ as, ∀ s b s', P done s → body a s = (.ok b, s') → P (done ++ [a]) s')
    (h : traverse body as s = (.ok bs, t)) (h0 : P done s) : P (done ++ as) t := by
  induction as generalizing s bs done with
  | nil => cases h; simpa using h0
  | cons a as ih =>
    obtain ⟨b, bs', s', hb, hr, -⟩ := traverse_cons_ok.1 h
    have := ih _ (fun done a' ha' => step done a' (List.mem_cons_of_mem a ha')) hr
      (step done a List.mem_cons_self s b s' h0 hb)
    rwa [List.append_assoc] at this

/-- a loop none of whose iterations exits while a property holds that they keep runs to its end -/
theorem traverse_total (body : α → σ → Except ε β × σ) (as : List α) {P : σ → Prop}
    (step : ∀ a ∈ as, ∀ s, P s → ∃ b s', body a s = (.ok b, s') ∧ P s') {s : σ} (h : P s) :
    ∃ bs t, traverse body as s = (.ok bs, t) ∧ P t := by
  induction as generalizing s with
  | nil => exact ⟨[], s, rfl, h⟩
  | cons a as ih =>
    obtain ⟨b, s', hb, hs'⟩ := step a List.mem_cons_self s h
    obtain ⟨bs, t, hr, ht⟩ := ih (fun a' ha' => step a' (List.mem_cons_of_mem a ha')) hs'
    exact ⟨b :: bs, t, by simp only [traverse, hb, hr], ht⟩

/-- what every iteration keeps, however it ends, holds when the loop is left -/
theorem traverse_keeps {body : α → σ → Except ε β × σ} {P : σ → Prop} {as : List α}
    (step : ∀ a ∈ as, ∀ s, P s → P (body a s).2) {s : σ} (h : P s) : P (traverse body as s).2 := by
  induction as generalizing s with
  | nil => exact h
  | cons a as ih =>
    have hs := step a List.mem_cons_self s h
    simp only [traverse]
    rcases hb : body a s with ⟨r, s'⟩
    rw [hb] at hs
    cases r with
    | error e => exact hs
    | ok b =>
      have hrest := ih (fun a' ha' => step a' (List.mem_cons_of_mem a ha')) hs
      rcases hr : traverse body as s' with ⟨rs, t⟩
      rw [hr] at hrest
      simp only [hr]
      cases rs <;> exact hrest

/-- how a result exits, if it does -/
def exitOf : Except ε β → Option ε
  | .error e => some e
  | .ok _ => none

@[simp] theorem exitOf_error (e : ε) : exitOf (.error e : Except ε β) = some e := rfl
@[simp] theorem exitOf_ok (b : β) : exitOf (.ok b : Except ε β) = none := rfl

/-- sequences exit alike if their first parts do, and their second parts after them -/
theorem exit_bind {x y : Except ε α} {f g : α → Except ε β} (hx : exitOf x = exitOf y)
    (hf : ∀ a b, exitOf (f a) = exitOf (g b)) : exitOf (x >>= f) = exitOf (y >>= g) := by
  cases x with
  | error e =>
    cases y with
    | error e' => exact hx
    | ok b => cases hx
  | ok a =>
    cases y with
    | error e' => cases hx
    | ok b => exact hf a b

/-- **The first exit decides.** Where the body's exits depend on the element alone, the loop is left as the first element
that makes it exit says. -/
theorem forEach_exit {body : ι → α → Except ε β} {g : α → Option ε} (hg : ∀ i a, exitOf (body i a) = g a) (u : ℕ → ι)
    (as : List α) : exitOf (forEach body u as) = as.findSome? g := by
  induction as generalizing u with
  | nil => rfl
  | cons a as ih =>
    rw [List.findSome?_cons, ← hg (u 0) a, ← ih fun n => u (n + 1)]
    simp only [forEach]
    cases body (u 0) a with
    | error e => rfl
    | ok b => cases forEach body (fun n => u (n + 1)) as <;> rfl

/-- the elements that a loop gets to which goes on from `ok` ones only -/
def Reached (ok : α → Prop) (as : List α) (a : α) : Prop := ∃ pre post, as = pre ++ a :: post ∧ ∀ b ∈ pre, ok b

theorem reached_head (ok : α → Prop) (a : α) (as : List α) : Reached ok (a :: as) a := ⟨[], as, rfl, nofun⟩

theorem Reached.cons {ok : α → Prop} {as : List α} {a c : α} (h : Reached ok as a) (hc : ok c) :
    Reached ok (c :: as) a := by
  obtain ⟨pre, post, rfl, hpre⟩ := h
  exact ⟨c :: pre, post, rfl, List.forall_mem_cons.2 ⟨hc, hpre⟩⟩

theorem Reached.tail {ok : α → Prop} {as : List α} {a c : α} (h : Reached ok (c :: as) a) :
    a = c ∨ (ok c ∧ Reached ok as a) := by
  obtain ⟨pre, post, has, hpre⟩ := h
  cases pre with
  | nil => exact Or.inl (List.cons.inj has).1.symm
  | cons b pre =>
    obtain ⟨rfl, rfl⟩ := List.cons.inj has
    obtain ⟨hb, hpre⟩ := List.forall_mem_cons.1 hpre
    exact Or.inr ⟨hb, pre, post, rfl, hpre⟩

theorem Reached.mem {ok : α → Prop} {as : List α} {a : α} (h : Reached ok as a) : a ∈ as := by
  obtain ⟨pre, post, rfl, -⟩ := h
  exact List.mem_append_right _ List.mem_cons_self

/-- a loop whose bodies' exits ignore the stream is left the same way for any stream -/
theorem forEach_exit_congr {body : ι → α → Except ε β} (h : ∀ i j a, exitOf (body i a) = exitOf (body j a))
    (u u' : ℕ → ι) (as : List α) : exitOf (forEach body u as) = exitOf (forEach body u' as) := by
  rw [forEach_exit (fun i a => h i (u 0) a), forEach_exit (fun i a => h i (u 0) a)]

/-- **Where a loop is left.** A loop is left by an exit of a kind iff an element that it gets to exits so. -/
theorem forEach_left {body : ι → α → Except ε β} {ok bad : α → Prop} (kind : ε → Prop)
    (hok : ∀ i a, (∃ b, body i a = .ok b) ↔ ok a) (hbad : ∀ i a, (∃ e, kind e ∧ body i a = .error e) ↔ bad a)
    (u : ℕ → ι) (as : List α) :
    (∃ e, kind e ∧ forEach body u as = .error e) ↔ ∃ a, Reached ok as a ∧ bad a := by
  induction as generalizing u with
  | nil =>
    constructor
    · rintro ⟨e, -, h⟩
      cases h
    · rintro ⟨a, h, -⟩
      exact absurd h.mem List.not_mem_nil
  | cons a as ih =>
    simp only [forEach]
    constructor
    · rintro ⟨e, hk, h⟩
      cases hb : body (u 0) a with
      | error e' =>
        rw [hb] at h
        cases h
        exact ⟨a, reached_head ok a as, (hbad _ a).1 ⟨e, hk, hb⟩⟩
      | ok b =>
        rw [hb] at h
        cases hr : forEach body (fun n => u (n + 1)) as with
        | ok bs => simp only [hr] at h; cases h
        | error e' =>
          simp only [hr] at h; cases h
          obtain ⟨a', ha', hbad'⟩ := (ih _).1 ⟨e, hk, hr⟩
          exact ⟨a', ha'.cons ((hok _ a).1 ⟨b, hb⟩), hbad'⟩
    · rintro ⟨a', ha', hbad'⟩
      rcases ha'.tail with rfl | ⟨ha, ha'⟩
      · obtain ⟨e, hk, hb⟩ := (hbad (u 0) a').2 hbad'
        exact ⟨e, hk, by simp only [hb]⟩
      · obtain ⟨b, hb⟩ := (hok (u 0) a).2 ha
        obtain ⟨e, hk, hr⟩ := (ih fun n => u (n + 1)).2 ⟨a', ha', hbad'⟩
        exact ⟨e, hk, by simp only [hb, hr]⟩

/-- the first hit in a nested walk -/
theorem findSome_flatMap (f : α → List β) (g : β → Option ε) (as : List α) :
    (as.flatMap f).findSome? g = as.findSome? fun a => (f a).findSome? g := by
  induction as with
  | nil => rfl
  | cons a as ih =>
    rw [List.flatMap_cons, List.findSome?_append, ih, List.findSome?_cons]
    cases (f a).findSome? g <;> rfl

/-- **A loop with a state is left by the first element that exits** at the state it meets. -/
theorem traverse_exit {body : α → σ → Except ε β × σ} {as : List α} {s t : σ} {e : ε} :
    traverse body as s = (.error e, t) ↔ ∃ pre a post bs s', as = pre ++ a :: post ∧
      traverse body pre s = (.ok bs, s') ∧ body a s' = (.error e, t) := by
  constructor
  · intro h
    induction as generalizing s with
    | nil => cases h
    | cons a as ih =>
      rcases traverse_cons_error.1 h with hb | ⟨b, s', hb, hr⟩
      · exact ⟨[], a, as, [], s, rfl, rfl, hb⟩
      · obtain ⟨pre, c, post, bs, s'', rfl, hpre, hc⟩ := ih hr
        exact ⟨a :: pre, c, post, b :: bs, s'', rfl, traverse_cons_ok.2 ⟨b, bs, s', hb, hpre, rfl⟩, hc⟩
  · rintro ⟨pre, a, post, bs, s', rfl, hpre, ha⟩
    induction pre generalizing s bs with
    | nil =>
      cases hpre
      exact traverse_cons_error.2 (Or.inl ha)
    | cons c pre ih =>
      obtain ⟨b, bs', s'', hb, hr, -⟩ := traverse_cons_ok.1 hpre
      exact traverse_cons_error.2 (Or.inr ⟨b, s'', hb, ih bs' hr⟩)

/-- **Lockstep loops.** Bodies that leave the same state and exit alike on related elements make loops that do. -/
theorem traverse_same {γ δ : Type} {body : α → σ → Except ε β × σ} {body' : γ → σ → Except ε δ × σ} {R : α → γ → Prop}
    (hR : ∀ a c s, R a c → (body a s).2 = (body' c s).2 ∧ exitOf (body a s).1 = exitOf (body' c s).1)
    {as : List α} {cs : List γ} (h : List.Forall₂ R as cs) (s : σ) :
    (traverse body as s).2 = (traverse body' cs s).2 ∧
      exitOf (traverse body as s).1 = exitOf (traverse body' cs s).1 := by
  induction h generalizing s with
  | nil => simp [traverse]
  | @cons a c as cs hac _ ih =>
    obtain ⟨hs, he⟩ := hR a c s hac
    simp only [traverse]
    rcases hb : body a s with ⟨r, t⟩
    rcases hb' : body' c s with ⟨r', t'⟩
    rw [hb, hb'] at hs he
    obtain rfl : t = t' := hs
    cases r with
    | error e =>
      cases r' with
      | ok b' => cases he
      | error e' => exact ⟨rfl, he⟩
    | ok b =>
      cases r' with
      | error e' => cases he
      | ok b' =>
        obtain ⟨ht, hte⟩ := ih t
        rcases hq : traverse body as t with ⟨q, w⟩
        rcases hq' : traverse body' cs t with ⟨q', w'⟩
        rw [hq, hq'] at ht hte
        cases q <;> cases q' <;> simp_all

end Asabru.Control
