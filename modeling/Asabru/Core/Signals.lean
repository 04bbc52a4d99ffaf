/-
POSIX signals of a process with threads.

The threads share a disposition for each signal; each thread has its own mask. A signal is sent to the process or to one
thread and stays pending there until a thread that does not block it takes it. Taking it does nothing, or the default
action, or enters the handler, during which the thread blocks the signal too; a one-shot handler gives way to the default
when it is entered. A thread that can take a signal of its own makes no step before it does. A new thread has the mask of
its creator, and a fault is a signal that a thread's own instruction causes: blocked or ignored, it ends the process.

A handler runs on the stack of its thread. Whether its frame fits there is left open: a stack that overflowed has no room
for the handler of that very fault, and then the process ends without an entry. So of the faults of a thread those enter a
handler that leave its stack usable.

The handler is a program given by its statements, the same for every signal. What the threads do otherwise is left open,
but for one premise: outside of handlers they change no mask and no disposition.

Results:
- `Nested.moves`: as long as only handlers change masks, a thread blocks the common mask and the signals it handles;
- `blocked_never_kills`, `ignored_never_kills`, `sent_kept`: a signal that all threads block never ends the process, and
  one sent to the process waits until it is accepted; nor does an ignored one;
- `Accounted.moves`: nothing is pending that was not sent or raised;
- `handler_counts`, `killed_once_handled`: a one-shot handler is entered at most once, and a signal that has one ends the
  process only after its handler was entered, or as the fault of a stack without room for a handler;
- `entered_never_resumes`: a thread that enters a handler which raises its signal again makes no further step of its own.
-/
import Mathlib.Tactic

namespace Asabru.Signals

inductive Disposition where
  | default
  | ignore
  /-- with `reset`, the default again once it is entered -/
  | handler (reset : Bool)
deriving DecidableEq, Repr

/-- a statement of the handler -/
inductive Statement (κ : Type) where
  | next (k : κ)
  /-- the thread sends itself the signal that is handled -/
  | raise (k : κ)
  | finish

structure Platform (σ κ : Type) where
  /-- the default action ends the process -/
  terminates : σ → Bool
  /-- an instruction of a thread can cause the signal -/
  synchronous : σ → Bool
  /-- what ends the process when the frame of a handler does not fit on the stack -/
  frameFault : σ
  frameFault_synchronous : synchronous frameFault = true
  entry : κ
  statement : κ → Statement κ

/-- a signal that a thread handles -/
structure Frame (σ κ : Type) where
  signal : σ
  point : κ
  /-- the mask to restore -/
  saved : σ → Bool

structure Thread (σ κ : Type) where
  mask : σ → Bool
  pending : σ → Bool
  /-- innermost first -/
  frames : List (Frame σ κ)

structure Process (ι σ κ : Type) where
  disposition : σ → Disposition
  pending : σ → Bool
  threads : ι → Option (Thread σ κ)
  killed : Option σ

inductive Event (ι σ : Type) where
  /-- to a thread, or to the process -/
  | sent (target : Option ι) (s : σ)
  | discarded (i : ι) (s : σ)
  | entered (i : ι) (s : σ)
  | killed (i : ι) (s : σ)
  /-- killed, for the stack has no room for the handler's frame -/
  | unframed (i : ι) (s : σ)
  | handled (i : ι)
  /-- a thread outside of handlers -/
  | ran (i : ι)
  | created (i j : ι)
  | accepted (i : ι) (s : σ)
deriving DecidableEq, Repr

section Moves

variable {ι σ κ : Type} [DecidableEq ι] [DecidableEq σ]

/-- no pending signal of the thread's own can be taken -/
def Thread.Ready (t : Thread σ κ) : Prop := ∀ s, t.pending s = true → t.mask s = true

def Thread.setPending (t : Thread σ κ) (s : σ) (b : Bool) : Thread σ κ :=
  { t with pending := Function.update t.pending s b }

def Thread.enter (entry : κ) (s : σ) (t : Thread σ κ) : Thread σ κ :=
  { t with mask := Function.update t.mask s true, frames := ⟨s, entry, t.mask⟩ :: t.frames }

def Process.setThread (i : ι) (t : Thread σ κ) (p : Process ι σ κ) : Process ι σ κ :=
  { p with threads := Function.update p.threads i (some t) }

def Process.setPending (p : Process ι σ κ) (s : σ) (b : Bool) : Process ι σ κ :=
  { p with pending := Function.update p.pending s b }

def Process.send (target : Option ι) (s : σ) (p : Process ι σ κ) : Process ι σ κ :=
  match target with
  | none => p.setPending s true
  | some i =>
    match p.threads i with
    | none => p
    | some t => p.setThread i (t.setPending s true)

/-- thread `i`, which is then `t`, takes a signal; the frame of a handler, if there is one, fits on its stack -/
def Process.take (P : Platform σ κ) (i : ι) (t : Thread σ κ) (s : σ) (p : Process ι σ κ) :
    Event ι σ × Process ι σ κ :=
  match p.disposition s with
  | .ignore => (.discarded i s, p.setThread i t)
  | .default =>
    if P.terminates s then (.killed i s, { p.setThread i t with killed := some s })
    else (.discarded i s, p.setThread i t)
  | .handler reset =>
    (.entered i s, { p.setThread i (t.enter P.entry s) with
      disposition := if reset then Function.update p.disposition s .default else p.disposition })

/-- a signal comes to thread `i`, which does not block it: its own, one of the process, or one that its instruction
caused; `q` and `t'` are the process and the thread when it takes it -/
inductive Comes (P : Platform σ κ) (p : Process ι σ κ) (t : Thread σ κ) (s : σ) :
    Process ι σ κ → Thread σ κ → Prop where
  | own (hp : t.pending s = true) : Comes P p t s p (t.setPending s false)
  | shared (hp : p.pending s = true) : Comes P p t s (p.setPending s false) t
  | fault (hr : t.Ready) (hs : P.synchronous s = true) (hd : p.disposition s ≠ .ignore) : Comes P p t s p t

/-- the next statement of the innermost handler -/
def Thread.handle (P : Platform σ κ) (f : Frame σ κ) (fs : List (Frame σ κ)) (t : Thread σ κ) : Thread σ κ :=
  match P.statement f.point with
  | .next k => { t with frames := { f with point := k } :: fs }
  | .raise k => { t.setPending f.signal true with frames := { f with point := k } :: fs }
  | .finish => { t with mask := f.saved, frames := fs }

/-- `sigwait` in thread `i`: its own pending signal first -/
def Process.accept (i : ι) (t : Thread σ κ) (s : σ) (p : Process ι σ κ) : Process ι σ κ :=
  if t.pending s then p.setThread i (t.setPending s false) else p.setPending s false

/-- the moves of a process while no thread changes its mask or a disposition -/
inductive Moves (P : Platform σ κ) (p : Process ι σ κ) : Event ι σ → Process ι σ κ → Prop where
  | send (target : Option ι) (s : σ) : Moves P p (.sent target s) (p.send target s)
  | take {i : ι} {t t' : Thread σ κ} {s : σ} {q : Process ι σ κ} (ht : p.threads i = some t) (hm : t.mask s = false)
      (hc : Comes P p t s q t') : Moves P p (q.take P i t' s).1 (q.take P i t' s).2
  /-- a fault that cannot be taken -/
  | forced {i : ι} {t : Thread σ κ} {s : σ} (ht : p.threads i = some t) (hr : t.Ready) (hs : P.synchronous s = true)
      (hwhy : t.mask s = true ∨ p.disposition s = .ignore) : Moves P p (.killed i s) { p with killed := some s }
  /-- the frame of the handler does not fit -/
  | unframed {i : ι} {t t' : Thread σ κ} {s : σ} {q : Process ι σ κ} {reset : Bool} (ht : p.threads i = some t)
      (hm : t.mask s = false) (hc : Comes P p t s q t') (hd : p.disposition s = .handler reset) :
      Moves P p (.unframed i s) { p with killed := some P.frameFault }
  | handle {i : ι} {t : Thread σ κ} {f : Frame σ κ} {fs : List (Frame σ κ)} (ht : p.threads i = some t) (hr : t.Ready)
      (hf : t.frames = f :: fs) : Moves P p (.handled i) (p.setThread i (t.handle P f fs))
  | run {i : ι} {t : Thread σ κ} (ht : p.threads i = some t) (hr : t.Ready) (hf : t.frames = []) : Moves P p (.ran i) p
  | create {i j : ι} {t : Thread σ κ} (ht : p.threads i = some t) (hr : t.Ready) (hf : t.frames = [])
      (hj : p.threads j = none) : Moves P p (.created i j) (p.setThread j ⟨t.mask, fun _ => false, []⟩)
  | accept {i : ι} {t : Thread σ κ} {s : σ} (ht : p.threads i = some t) (hr : t.Ready) (hf : t.frames = [])
      (hp : t.pending s = true ∨ p.pending s = true) (hm : t.mask s = true) :
      Moves P p (.accepted i s) (p.accept i t s)

/-- runs of a process that is not killed yet, with their events -/
inductive Runs (P : Platform σ κ) (p₀ : Process ι σ κ) : List (Event ι σ) → Process ι σ κ → Prop where
  | start : Runs P p₀ [] p₀
  | step {trace : List (Event ι σ)} {p p' : Process ι σ κ} {e : Event ι σ} (h : Runs P p₀ trace p)
      (halive : p.killed = none) (hm : Moves P p e p') : Runs P p₀ (trace ++ [e]) p'

end Moves

section Take

@[simp] theorem setThread_self {ι σ κ : Type} [DecidableEq ι] (p : Process ι σ κ) (i : ι) (t : Thread σ κ) :
    (p.setThread i t).threads i = some t := Function.update_self ..

theorem setThread_other {ι σ κ : Type} [DecidableEq ι] (p : Process ι σ κ) {i j : ι} (h : j ≠ i) (t : Thread σ κ) :
    (p.setThread i t).threads j = p.threads j := Function.update_of_ne h _ _

variable {ι σ κ : Type} [DecidableEq ι] [DecidableEq σ] {P : Platform σ κ} {p : Process ι σ κ} {i : ι} {t : Thread σ κ}
  {s : σ}

/-- **What taking a signal can do.** -/
theorem take_cases (P : Platform σ κ) (p : Process ι σ κ) (i : ι) (t : Thread σ κ) (s : σ) :
    (p.take P i t s = (.discarded i s, p.setThread i t) ∧ (p.disposition s = .default → P.terminates s = false)) ∨
    (p.take P i t s = (.killed i s, { p.setThread i t with killed := some s }) ∧ p.disposition s = .default) ∨
    ∃ reset, p.disposition s = .handler reset ∧
      p.take P i t s = (.entered i s, { p.setThread i (t.enter P.entry s) with
        disposition := if reset then Function.update p.disposition s .default else p.disposition }) := by
  unfold Process.take
  cases hd : p.disposition s with
  | default =>
    cases ht : P.terminates s with
    | false => exact Or.inl ⟨rfl, fun _ => rfl⟩
    | true => exact Or.inr (Or.inl ⟨rfl, rfl⟩)
  | ignore => exact Or.inl ⟨rfl, fun h => by cases h⟩
  | handler reset => exact Or.inr (Or.inr ⟨reset, rfl, rfl⟩)

/-- what does not change until a signal that came is taken -/
structure SameBefore (p : Process ι σ κ) (t : Thread σ κ) (s : σ) (q : Process ι σ κ) (t' : Thread σ κ) : Prop where
  threads : q.threads = p.threads
  disposition : q.disposition = p.disposition
  killed : q.killed = p.killed
  mask : t'.mask = t.mask
  frames : t'.frames = t.frames
  pending : ∀ s', s' ≠ s → t'.pending s' = t.pending s' ∧ q.pending s' = p.pending s'

omit [DecidableEq ι] in
theorem Comes.same {q : Process ι σ κ} {t' : Thread σ κ} (h : Comes P p t s q t') : SameBefore p t s q t' := by
  cases h with
  | own hp => exact ⟨rfl, rfl, rfl, rfl, rfl, fun _ hs' => ⟨Function.update_of_ne hs' _ _, rfl⟩⟩
  | shared hp => exact ⟨rfl, rfl, rfl, rfl, rfl, fun _ hs' => ⟨rfl, Function.update_of_ne hs' _ _⟩⟩
  | fault => exact ⟨rfl, rfl, rfl, rfl, rfl, fun _ _ => ⟨rfl, rfl⟩⟩

@[simp] theorem send_disposition (p : Process ι σ κ) (target : Option ι) (s : σ) :
    (p.send target s).disposition = p.disposition := by
  cases target with
  | none => rfl
  | some i =>
    simp only [Process.send]
    cases p.threads i <;> rfl

@[simp] theorem send_killed (p : Process ι σ κ) (target : Option ι) (s : σ) : (p.send target s).killed = p.killed := by
  cases target with
  | none => rfl
  | some i =>
    simp only [Process.send]
    cases p.threads i <;> rfl

@[simp] theorem accept_disposition (p : Process ι σ κ) (i : ι) (t : Thread σ κ) (s : σ) :
    (p.accept i t s).disposition = p.disposition := by
  unfold Process.accept
  split_ifs <;> rfl

@[simp] theorem accept_killed (p : Process ι σ κ) (i : ι) (t : Thread σ κ) (s : σ) :
    (p.accept i t s).killed = p.killed := by
  unfold Process.accept
  split_ifs <;> rfl

end Take

/-! ## What holds of every thread -/

section Threads

variable {ι σ κ : Type} [DecidableEq ι] [DecidableEq σ] {P : Platform σ κ} {p p' : Process ι σ κ} {e : Event ι σ} {i : ι}
  {t : Thread σ κ} {Q : (σ → Bool) → List (Frame σ κ) → Prop}

/-- the mask and the handlers of each thread are as `Q` says -/
def Threads (Q : (σ → Bool) → List (Frame σ κ) → Prop) (p : Process ι σ κ) : Prop :=
  ∀ i t, p.threads i = some t → Q t.mask t.frames

omit [DecidableEq σ] in
theorem threads_set (h : Threads Q p) (ht : Q t.mask t.frames) : Threads Q (p.setThread i t) := by
  intro j u hu
  by_cases hj : j = i
  · subst hj
    rw [setThread_self] at hu
    obtain rfl := Option.some.inj hu
    exact ht
  · rw [setThread_other p hj] at hu
    exact h j u hu

/-- **What a move keeps of every thread**: it is enough that entries, statements of handlers and their ends keep it. -/
theorem Threads.moves (h : Threads Q p) (hm : Moves P p e p')
    (enter : ∀ i s mask frames, e = .entered i s → mask s = false → Q mask frames →
      Q (Function.update mask s true) (⟨s, P.entry, mask⟩ :: frames))
    (point : ∀ mask (f : Frame σ κ) fs k, Q mask (f :: fs) → Q mask ({ f with point := k } :: fs))
    (finish : ∀ mask (f : Frame σ κ) fs, Q mask (f :: fs) → Q f.saved fs) : Threads Q p' := by
  cases hm with
  | @take i t t' s q ht hmask hc =>
    have hsame := hc.same
    have hq : Threads Q q := fun j u hu => h j u (hsame.threads ▸ hu)
    have ht' : Q t'.mask t'.frames := by
      rw [hsame.mask, hsame.frames]
      exact h i t ht
    rcases take_cases P q i t' s with ⟨heq, -⟩ | ⟨heq, -⟩ | ⟨reset, -, heq⟩
    · rw [heq]
      exact threads_set hq ht'
    · rw [heq]
      exact threads_set hq ht'
    · rw [heq] at enter ⊢
      have hentered := enter i s t'.mask t'.frames rfl (hsame.mask ▸ hmask) ht'
      have hset : Q (t'.enter P.entry s).mask (t'.enter P.entry s).frames := hentered
      exact threads_set hq hset
  | send target s =>
    cases target with
    | none => exact h
    | some i =>
      simp only [Process.send]
      cases ht : p.threads i with
      | none => exact h
      | some t => exact threads_set h (h i t ht)
  | @handle i t f fs ht hr hf =>
    have hframes := h i t ht
    rw [hf] at hframes
    refine threads_set h ?_
    unfold Thread.handle
    cases P.statement f.point with
    | next k => exact point _ f fs k hframes
    | raise k => exact point _ f fs k hframes
    | finish => exact finish _ f fs hframes
  | @create i j t ht hr hf hj =>
    have hnew := h i t ht
    rw [hf] at hnew
    exact threads_set h hnew
  | @accept i t s ht =>
    unfold Process.accept
    split_ifs
    · exact threads_set h (h i t ht)
    · exact h
  | forced => exact h
  | unframed => exact h
  | run => exact h

/-- only a creation adds a thread -/
theorem moves_none (hm : Moves P p e p') (hi : p.threads i = none) (he : ∀ j, e ≠ .created j i) :
    p'.threads i = none := by
  have hset : ∀ {q : Process ι σ κ} {j : ι} {t u : Thread σ κ}, q.threads = p.threads → p.threads j = some t →
      (q.setThread j u).threads i = none := by
    intro q j t u hq hj
    have hne : i ≠ j := by
      rintro rfl
      rw [hi] at hj
      cases hj
    rw [setThread_other q hne, hq, hi]
  cases hm with
  | @take j t t' s q ht hmask hc =>
    rcases take_cases P q j t' s with ⟨heq, -⟩ | ⟨heq, -⟩ | ⟨reset, -, heq⟩ <;>
      · rw [heq]
        exact hset hc.same.threads ht
  | send target s =>
    cases target with
    | none => exact hi
    | some j =>
      simp only [Process.send]
      cases hj : p.threads j with
      | none => exact hi
      | some t => exact hset rfl hj
  | handle ht => exact hset rfl ht
  | @create j k t ht hr hf hk =>
    have hne : i ≠ k := by
      rintro rfl
      exact he j rfl
    rw [setThread_other p hne, hi]
  | accept ht =>
    unfold Process.accept
    split_ifs
    · exact hset rfl ht
    · exact hi
  | forced => exact hi
  | unframed => exact hi
  | run => exact hi

end Threads

/-! ## Masks -/

section Masks

variable {ι σ κ : Type} [DecidableEq ι] [DecidableEq σ] {P : Platform σ κ} {p p' : Process ι σ κ} {base mask : σ → Bool}
  {frames : List (Frame σ κ)} {e : Event ι σ} {s : σ} {trace : List (Event ι σ)}

/-- each handler added its signal, which was not blocked, to the mask below it -/
def Stacked (base : σ → Bool) : (σ → Bool) → List (Frame σ κ) → Prop
  | mask, [] => mask = base
  | mask, f :: fs => mask = Function.update f.saved f.signal true ∧ f.saved f.signal = false ∧ Stacked base f.saved fs

/-- **What is blocked**: the common mask and the signals that are handled. -/
theorem stacked_mask (h : Stacked base mask frames) : mask s = true ↔ base s = true ∨ ∃ f ∈ frames, f.signal = s := by
  induction frames generalizing mask with
  | nil =>
    rw [show mask = base from h]
    simp
  | cons f fs ih =>
    obtain ⟨rfl, -, hsaved⟩ := h
    by_cases hs : s = f.signal
    · subst hs
      simp
    · rw [Function.update_of_ne hs, ih hsaved]
      simp [Ne.symm hs]

abbrev Nested (base : σ → Bool) (p : Process ι σ κ) : Prop := Threads (Stacked base) p

/-- **Masks are nested** in every run. -/
theorem Nested.moves (h : Nested base p) (hm : Moves P p e p') : Nested base p' := by
  refine Threads.moves h hm (fun i s mask frames _ hs hmask => ?_) (fun mask f fs k hf => hf) fun mask f fs hf => ?_
  · exact ⟨rfl, hs, hmask⟩
  · exact hf.2.2

theorem Runs.nested {p₀ : Process ι σ κ} (h : Runs P p₀ trace p) (h₀ : Nested base p₀) : Nested base p := by
  induction h with
  | start => exact h₀
  | step _ _ hm ih => exact ih.moves hm

end Masks

/-! ## Signals that never end the process -/

section Safe

variable {ι σ κ : Type} [DecidableEq ι] [DecidableEq σ] {P : Platform σ κ} {p p' p₀ : Process ι σ κ} {base : σ → Bool}
  {e : Event ι σ} {i : ι} {s : σ} {trace : List (Event ι σ)}

/-- **How a disposition changes**: by the entry into its handler. -/
theorem moves_disposition (h : Moves P p e p') : p'.disposition s = p.disposition s ∨
    (∃ i, e = .entered i s) ∧ p.disposition s = .handler true ∧ p'.disposition s = .default := by
  cases h with
  | @take i t t' s' q ht hm hc =>
    have hsame := hc.same
    rcases take_cases P q i t' s' with ⟨heq, -⟩ | ⟨heq, -⟩ | ⟨reset, hd, heq⟩
    · rw [heq]
      exact Or.inl (congrFun hsame.disposition s)
    · rw [heq]
      exact Or.inl (congrFun hsame.disposition s)
    · rw [heq]
      rw [hsame.disposition] at hd ⊢
      cases reset with
      | false => exact Or.inl rfl
      | true =>
        by_cases hs : s = s'
        · subst hs
          exact Or.inr ⟨⟨i, rfl⟩, hd, Function.update_self ..⟩
        · exact Or.inl (Function.update_of_ne hs ..)
  | send target s' => exact Or.inl (by rw [send_disposition])
  | forced => exact Or.inl rfl
  | unframed => exact Or.inl rfl
  | handle => exact Or.inl rfl
  | run => exact Or.inl rfl
  | create => exact Or.inl rfl
  | accept => exact Or.inl (by rw [accept_disposition])

/-- **What kills**: the default action of a signal that the thread did not block, a fault that could not be taken, or a
stack without room for a handler. -/
theorem moves_killed (h : Moves P p e p') (halive : p.killed = none) (hk : p'.killed = some s) :
    (∃ i t, p.threads i = some t ∧ t.mask s = false ∧ p.disposition s = .default) ∨
    (P.synchronous s = true ∧ ∃ i t, p.threads i = some t ∧ (t.mask s = true ∨ p.disposition s = .ignore)) ∨
    (s = P.frameFault ∧ ∃ i s', e = .unframed i s') := by
  have hsame : p'.killed ≠ p.killed := fun heq => by
    rw [heq, halive] at hk
    cases hk
  cases h with
  | @take i t t' s' q ht hm hc =>
    rcases take_cases P q i t' s' with ⟨heq, -⟩ | ⟨heq, hd⟩ | ⟨reset, -, heq⟩
    · rw [heq] at hsame
      exact absurd hc.same.killed hsame
    · rw [heq] at hk
      obtain rfl := Option.some.inj hk
      rw [hc.same.disposition] at hd
      exact Or.inl ⟨i, t, ht, hm, hd⟩
    · rw [heq] at hsame
      exact absurd hc.same.killed hsame
  | @forced i t s' ht hr hs hwhy =>
    obtain rfl := Option.some.inj hk
    exact Or.inr (Or.inl ⟨hs, i, t, ht, hwhy⟩)
  | @unframed i t t' s' => exact Or.inr (Or.inr ⟨(Option.some.inj hk).symm, i, s', rfl⟩)
  | send target s' => exact absurd (send_killed p target s') hsame
  | handle => exact absurd rfl hsame
  | run => exact absurd rfl hsame
  | create => exact absurd rfl hsame
  | accept => exact absurd (accept_killed p _ _ _) hsame

/-- a run ends with the move that killed -/
theorem Runs.killed_last (h : Runs P p₀ trace p) (h₀ : p₀.killed = none) (hk : p.killed = some s) :
    ∃ pre q e, Runs P p₀ pre q ∧ q.killed = none ∧ Moves P q e p ∧ trace = pre ++ [e] := by
  cases h with
  | start => rw [h₀] at hk; cases hk
  | step hruns halive hm => exact ⟨_, _, _, hruns, halive, hm, rfl⟩

/-- **A signal that every thread blocks** never ends the process. -/
theorem blocked_never_kills (h : Runs P p₀ trace p) (h₀ : Nested base p₀) (halive : p₀.killed = none)
    (hs : base s = true) (hasync : P.synchronous s = false) : p.killed ≠ some s := by
  intro hk
  obtain ⟨pre, q, e, hpre, hq, hm, -⟩ := h.killed_last halive hk
  rcases moves_killed hm hq hk with ⟨i, t, ht, hmask, -⟩ | ⟨hsync, -⟩ | ⟨rfl, -⟩
  · rw [(stacked_mask (hpre.nested h₀ i t ht)).2 (Or.inl hs)] at hmask
    cases hmask
  · rw [hasync] at hsync
    cases hsync
  · cases P.frameFault_synchronous.symm.trans hasync

theorem Runs.ignored (h : Runs P p₀ trace p) (h₀ : p₀.disposition s = .ignore) : p.disposition s = .ignore := by
  induction h with
  | start => exact h₀
  | step _ _ hm ih =>
    rcases moves_disposition hm with heq | ⟨-, hd, -⟩
    · exact heq.trans ih
    · cases hd.symm.trans ih

/-- **An ignored signal** never ends the process. -/
theorem ignored_never_kills (h : Runs P p₀ trace p) (halive : p₀.killed = none) (h₀ : p₀.disposition s = .ignore)
    (hasync : P.synchronous s = false) : p.killed ≠ some s := by
  intro hk
  obtain ⟨pre, q, e, hpre, hq, hm, -⟩ := h.killed_last halive hk
  rcases moves_killed hm hq hk with ⟨i, t, -, -, hd⟩ | ⟨hsync, -⟩ | ⟨rfl, -⟩
  · cases hd.symm.trans (hpre.ignored h₀)
  · rw [hasync] at hsync
    cases hsync
  · cases P.frameFault_synchronous.symm.trans hasync

/-- a signal sent to the process, that every thread blocks, waits for an accepting thread -/
theorem moves_pending (h : Moves P p e p') (hn : Nested base p) (hs : base s = true) (hp : p.pending s = true) :
    p'.pending s = true ∨ ∃ i, e = .accepted i s := by
  cases h with
  | @take i t t' s' q ht hm hc =>
    have hne : s ≠ s' := by
      rintro rfl
      rw [(stacked_mask (hn i t ht)).2 (Or.inl hs)] at hm
      cases hm
    have hq : q.pending s = true := (hc.same.pending s hne).2.trans hp
    refine Or.inl ?_
    rcases take_cases P q i t' s' with ⟨heq, -⟩ | ⟨heq, -⟩ | ⟨reset, -, heq⟩ <;>
      · rw [heq]
        exact hq
  | send target s' =>
    refine Or.inl ?_
    cases target with
    | none =>
      by_cases hne : s = s'
      · subst hne
        exact Function.update_self ..
      · exact (Function.update_of_ne hne _ _).trans hp
    | some i =>
      simp only [Process.send]
      cases p.threads i <;> exact hp
  | @accept i t s' =>
    by_cases hne : s = s'
    · subst hne
      exact Or.inr ⟨i, rfl⟩
    · refine Or.inl ?_
      unfold Process.accept
      split_ifs
      · exact hp
      · exact (Function.update_of_ne hne _ _).trans hp
  | forced => exact Or.inl hp
  | unframed => exact Or.inl hp
  | handle => exact Or.inl hp
  | run => exact Or.inl hp
  | create => exact Or.inl hp

/-- a signal that was sent is pending -/
theorem moves_sent (h : Moves P p e p') (he : e = .sent none s) : p'.pending s = true := by
  cases h with
  | @take i t t' s' q =>
    rcases take_cases P q i t' s' with ⟨heq, -⟩ | ⟨heq, -⟩ | ⟨reset, -, heq⟩ <;>
      · rw [heq] at he
        cases he
  | send target s' =>
    cases he
    exact Function.update_self ..
  | forced => cases he
  | unframed => cases he
  | handle => cases he
  | run => cases he
  | create => cases he
  | accept => cases he

/-- **A blocked signal is not lost.** -/
theorem sent_kept (h : Runs P p₀ trace p) (h₀ : Nested base p₀) (hs : base s = true) (hsent : .sent none s ∈ trace) :
    p.pending s = true ∨ ∃ i, .accepted i s ∈ trace := by
  induction h with
  | start => exact absurd hsent List.not_mem_nil
  | step hruns _ hm ih =>
    rcases List.mem_append.1 hsent with hbefore | hlast
    · rcases ih hbefore with hpending | ⟨i, hi⟩
      · rcases moves_pending hm (hruns.nested h₀) hs hpending with hkept | ⟨i, rfl⟩
        · exact Or.inl hkept
        · exact Or.inr ⟨i, List.mem_append_right _ (List.mem_singleton_self _)⟩
      · exact Or.inr ⟨i, List.mem_append_left _ hi⟩
    · exact Or.inl (moves_sent hm (List.mem_singleton.1 hlast).symm)

end Safe

/-! ## Where pending signals are from -/

section Accounted

variable {ι σ κ : Type} [DecidableEq ι] [DecidableEq σ] {P : Platform σ κ} {p p' : Process ι σ κ} {e : Event ι σ} {i : ι}
  {t : Thread σ κ} {s : σ} {trace : List (Event ι σ)}

/-- what a thread handles was entered, and what is pending for it was sent to it, or raised by a handler -/
structure ThreadAccounted (trace : List (Event ι σ)) (i : ι) (t : Thread σ κ) : Prop where
  pending : ∀ s, t.pending s = true → .sent (some i) s ∈ trace ∨ .entered i s ∈ trace
  frames : ∀ f ∈ t.frames, .entered i f.signal ∈ trace

structure Accounted (trace : List (Event ι σ)) (p : Process ι σ κ) : Prop where
  pending : ∀ s, p.pending s = true → .sent none s ∈ trace
  threads : ∀ i t, p.threads i = some t → ThreadAccounted trace i t

omit [DecidableEq ι] [DecidableEq σ] in
theorem ThreadAccounted.later (h : ThreadAccounted trace i t) (e : Event ι σ) : ThreadAccounted (trace ++ [e]) i t :=
  ⟨fun s hs => (h.pending s hs).imp (List.mem_append_left _) (List.mem_append_left _),
    fun f hf => List.mem_append_left _ (h.frames f hf)⟩

/-- what is in a set of signals after one was taken out, or put in -/
theorem of_update_false {σ : Type} [DecidableEq σ] {f : σ → Bool} {s s' : σ}
    (h : Function.update f s false s' = true) : f s' = true := by
  by_cases hne : s' = s
  · subst hne
    rw [Function.update_self] at h
    cases h
  · rwa [Function.update_of_ne hne] at h

theorem of_update_true {σ : Type} [DecidableEq σ] {f : σ → Bool} {s s' : σ}
    (h : Function.update f s true s' = true) : s' = s ∨ f s' = true := by
  by_cases hne : s' = s
  · exact Or.inl hne
  · rw [Function.update_of_ne hne] at h
    exact Or.inr h

omit [DecidableEq σ] in
theorem Accounted.set (h : Accounted trace p) (ht : ThreadAccounted trace i t) : Accounted trace (p.setThread i t) := by
  refine ⟨h.pending, fun j u hu => ?_⟩
  by_cases hj : j = i
  · subst hj
    rw [setThread_self] at hu
    obtain rfl := Option.some.inj hu
    exact ht
  · rw [setThread_other p hj] at hu
    exact h.threads j u hu

omit [DecidableEq ι] in
/-- a signal that is pending no more -/
theorem ThreadAccounted.clear (h : ThreadAccounted trace i t) (s : σ) :
    ThreadAccounted trace i (t.setPending s false) :=
  ⟨fun s' hs' => h.pending s' (of_update_false hs'), h.frames⟩

omit [DecidableEq ι] in
theorem ThreadAccounted.set (h : ThreadAccounted trace i t) (hs : .sent (some i) s ∈ trace ∨ .entered i s ∈ trace) :
    ThreadAccounted trace i (t.setPending s true) := by
  refine ⟨fun s' hs' => ?_, h.frames⟩
  rcases of_update_true hs' with rfl | hs'
  · exact hs
  · exact h.pending s' hs'

omit [DecidableEq ι] in
theorem Accounted.clear (h : Accounted trace p) (s : σ) : Accounted trace (p.setPending s false) :=
  ⟨fun s' hs' => h.pending s' (of_update_false hs'), h.threads⟩

omit [DecidableEq ι] [DecidableEq σ] in
theorem Accounted.later (h : Accounted trace p) (e : Event ι σ) : Accounted (trace ++ [e]) p :=
  ⟨fun s hs => List.mem_append_left _ (h.pending s hs), fun i t ht => (h.threads i t ht).later e⟩

/-- what `sigwait` accepts was pending -/
theorem moves_accepted (hm : Moves P p e p') (he : e = .accepted i s) :
    ∃ t, p.threads i = some t ∧ (t.pending s = true ∨ p.pending s = true) := by
  cases hm with
  | @take j t t' s' q =>
    rcases take_cases P q j t' s' with ⟨heq, -⟩ | ⟨heq, -⟩ | ⟨reset, -, heq⟩ <;>
      · rw [heq] at he
        cases he
  | accept ht hr hf hp =>
    cases he
    exact ⟨_, ht, hp⟩
  | send => cases he
  | forced => cases he
  | unframed => cases he
  | handle => cases he
  | run => cases he
  | create => cases he

/-- **Nothing is pending that was not sent or raised.** -/
theorem Accounted.moves (h : Accounted trace p) (hm : Moves P p e p') : Accounted (trace ++ [e]) p' := by
  have hlater := h.later e
  have hnow : e ∈ trace ++ [e] := List.mem_append_right _ (List.mem_singleton_self e)
  cases hm with
  | @take i t t' s q ht hmask hc =>
    have ht' : ∀ e', ThreadAccounted (trace ++ [e']) i t' := fun e' => by
      cases hc with
      | own => exact ((h.threads i t ht).later e').clear s
      | shared => exact (h.threads i t ht).later e'
      | fault => exact (h.threads i t ht).later e'
    have hq : ∀ {e' : Event ι σ}, Accounted (trace ++ [e']) p → Accounted (trace ++ [e']) q := fun hp => by
      cases hc with
      | own => exact hp
      | shared => exact hp.clear s
      | fault => exact hp
    rcases take_cases P q i t' s with ⟨heq, -⟩ | ⟨heq, -⟩ | ⟨reset, -, heq⟩
    · rw [heq] at hlater ⊢
      exact (hq hlater).set (ht' _)
    · rw [heq] at hlater ⊢
      have hset := (hq hlater).set (ht' _)
      exact ⟨hset.pending, hset.threads⟩
    · rw [heq] at hlater hnow ⊢
      have hentered : ThreadAccounted (trace ++ [.entered i s]) i (t'.enter P.entry s) := by
        refine ⟨(ht' _).pending, fun f hf => ?_⟩
        rcases List.mem_cons.1 hf with rfl | hf
        · exact hnow
        · exact (ht' _).frames f hf
      have hset := (hq hlater).set hentered
      exact ⟨hset.pending, hset.threads⟩
  | send target s =>
    cases target with
    | none =>
      refine ⟨fun s' hs' => ?_, hlater.threads⟩
      rcases of_update_true hs' with rfl | hs'
      · exact hnow
      · exact hlater.pending s' hs'
    | some i =>
      simp only [Process.send]
      cases ht : p.threads i with
      | none => exact hlater
      | some t => exact hlater.set ((hlater.threads i t ht).set (Or.inl hnow))
  | @handle i t f fs ht hr hf =>
    have hthread := hlater.threads i t ht
    refine hlater.set ?_
    have hframe : .entered i f.signal ∈ trace ++ [.handled i] := hthread.frames f (hf ▸ List.mem_cons_self)
    have hrest : ∀ g ∈ fs, .entered i g.signal ∈ trace ++ [.handled i] :=
      fun g hg => hthread.frames g (hf ▸ List.mem_cons_of_mem f hg)
    have hpoint : ∀ k, ∀ g ∈ ({ f with point := k } : Frame σ κ) :: fs, .entered i g.signal ∈ trace ++ [.handled i] := by
      intro k g hg
      rcases List.mem_cons.1 hg with rfl | hg
      · exact hframe
      · exact hrest g hg
    unfold Thread.handle
    cases P.statement f.point with
    | next k => exact ⟨hthread.pending, hpoint k⟩
    | raise k => exact ⟨(hthread.set (Or.inr hframe)).pending, hpoint k⟩
    | finish => exact ⟨hthread.pending, hrest⟩
  | @create i j t ht hr hf hj =>
    exact hlater.set ⟨fun s hs => (by cases hs), fun f hframe => absurd hframe List.not_mem_nil⟩
  | @accept i t s ht =>
    unfold Process.accept
    split_ifs
    · exact hlater.set ((hlater.threads i t ht).clear s)
    · exact hlater.clear s
  | forced => exact ⟨hlater.pending, hlater.threads⟩
  | unframed => exact ⟨hlater.pending, hlater.threads⟩
  | run => exact hlater

end Accounted

/-! ## One-shot handlers -/

/-- a thread enters the handler of the signal -/
def Event.enters {ι σ : Type} [DecidableEq σ] (s : σ) : Event ι σ → Bool
  | .entered _ s' => s' = s
  | _ => false

section OneShot

variable {ι σ κ : Type} [DecidableEq ι] [DecidableEq σ] {P : Platform σ κ} {p p' p₀ : Process ι σ κ} {base : σ → Bool}
  {e : Event ι σ} {i : ι} {s : σ} {trace : List (Event ι σ)}

omit [DecidableEq ι] in
theorem enters_iff : e.enters s = true ↔ ∃ i, e = .entered i s := by
  cases e <;> simp [Event.enters]

/-- an entry finds a handler, and the thread did not block the signal -/
theorem moves_entered (h : Moves P p e p') (he : e = .entered i s) : ∃ t t' q reset, p.threads i = some t ∧
    t.mask s = false ∧ SameBefore p t s q t' ∧ p.disposition s = .handler reset ∧
    p' = { q.setThread i (t'.enter P.entry s) with
      disposition := if reset then Function.update q.disposition s .default else q.disposition } := by
  cases h with
  | @take j t t' s' q ht hm hc =>
    rcases take_cases P q j t' s' with ⟨heq, -⟩ | ⟨heq, -⟩ | ⟨reset, hd, heq⟩
    · rw [heq] at he
      cases he
    · rw [heq] at he
      cases he
    · rw [heq] at he ⊢
      cases he
      rw [hc.same.disposition] at hd
      exact ⟨t, t', q, reset, ht, hm, hc.same, hd, rfl⟩
  | send => cases he
  | forced => cases he
  | unframed => cases he
  | handle => cases he
  | run => cases he
  | create => cases he
  | accept => cases he

/-- **A one-shot handler is entered at most once**, and until then it is there. -/
theorem handler_counts (h : Runs P p₀ trace p) (h₀ : p₀.disposition s = .handler true) :
    (p.disposition s = .handler true ∧ trace.countP (Event.enters s) = 0) ∨
      (p.disposition s = .default ∧ trace.countP (Event.enters s) = 1) := by
  induction h with
  | start => exact Or.inl ⟨h₀, rfl⟩
  | @step trace p p' e _ _ hm ih =>
    have hcount : (trace ++ [e]).countP (Event.enters s) =
        trace.countP (Event.enters s) + if e.enters s then 1 else 0 := by
      rw [List.countP_append, List.countP_singleton]
    rw [hcount]
    rcases ih with ⟨hd, hzero⟩ | ⟨hd, hone⟩
    · rw [hzero]
      by_cases hent : e.enters s = true
      · obtain ⟨i, rfl⟩ := enters_iff.1 hent
        obtain ⟨t, t', q, reset, -, -, hsame, hreset, rfl⟩ := moves_entered hm rfl
        rw [hd] at hreset
        cases hreset
        refine Or.inr ⟨Function.update_self .., by simp [hent]⟩
      · refine Or.inl ⟨?_, by simp [hent]⟩
        rcases moves_disposition hm with heq | ⟨hentered, -⟩
        · exact heq.trans hd
        · exact absurd (enters_iff.2 hentered) hent
    · rw [hone]
      have hent : e.enters s ≠ true := fun hent => by
        obtain ⟨i, rfl⟩ := enters_iff.1 hent
        obtain ⟨t, t', q, reset, -, -, -, hreset, -⟩ := moves_entered hm rfl
        cases hd.symm.trans hreset
      refine Or.inr ⟨?_, by simp [hent]⟩
      rcases moves_disposition hm with heq | ⟨hentered, -⟩
      · exact heq.trans hd
      · exact absurd (enters_iff.2 hentered) hent

/-- no thread handles the signal -/
abbrev Unhandled (s : σ) (p : Process ι σ κ) : Prop := Threads (fun _ frames => ∀ f ∈ frames, f.signal ≠ s) p

/-- only an entry makes a thread handle the signal -/
theorem Unhandled.moves (h : Unhandled s p) (hm : Moves P p e p') (he : e.enters s ≠ true) : Unhandled s p' := by
  refine Threads.moves h hm (fun i s' mask frames heq _ hframes f hf => ?_) (fun mask f fs k hframes g hg => ?_)
    fun mask f fs hframes g hg => hframes g (List.mem_cons_of_mem f hg)
  · rcases List.mem_cons.1 hf with rfl | hf
    · exact fun hs => he (enters_iff.2 ⟨i, hs ▸ heq⟩)
    · exact hframes f hf
  · rcases List.mem_cons.1 hg with rfl | hg
    · exact hframes f List.mem_cons_self
    · exact hframes g (List.mem_cons_of_mem f hg)

theorem Runs.unhandled (h : Runs P p₀ trace p) (h₀ : Unhandled s p₀) (hnone : trace.countP (Event.enters s) = 0) :
    Unhandled s p := by
  induction h with
  | start => exact h₀
  | @step trace p p' e _ _ hm ih =>
    rw [List.countP_append, Nat.add_eq_zero_iff, List.countP_singleton] at hnone
    refine (ih hnone.1).moves hm fun hent => ?_
    rw [if_pos hent] at hnone
    exact absurd hnone.2 one_ne_zero

/-- **A signal with a one-shot handler ends the process only after the handler was entered**, or because a handler's frame
did not fit on a stack. -/
theorem killed_once_handled (h : Runs P p₀ trace p) (h₀ : Nested base p₀) (halive : p₀.killed = none)
    (hnone : Unhandled s p₀) (hs : base s = false) (hd : p₀.disposition s = .handler true) (hk : p.killed = some s) :
    trace.countP (Event.enters s) = 1 ∨ (s = P.frameFault ∧ ∃ i s', .unframed i s' ∈ trace) := by
  obtain ⟨pre, q, e, hpre, hq, hm, rfl⟩ := h.killed_last halive hk
  rcases handler_counts hpre hd with ⟨harmed, hzero⟩ | ⟨-, hone⟩
  · -- the handler is still there, so neither the default action nor a blocked fault kills
    rcases moves_killed hm hq hk with ⟨i, t, -, -, hdefault⟩ | ⟨-, i, t, ht, hblocked | hignored⟩ | ⟨hfault, i, s', rfl⟩
    · cases harmed.symm.trans hdefault
    · rcases (stacked_mask (hpre.nested h₀ i t ht)).1 hblocked with hbase | ⟨f, hf, hfs⟩
      · rw [hs] at hbase
        cases hbase
      · exact absurd hfs (hpre.unhandled hnone hzero i t ht f hf)
    · cases harmed.symm.trans hignored
    · exact Or.inr ⟨hfault, i, s', List.mem_append_right _ (List.mem_singleton_self _)⟩
  · refine Or.inl ?_
    rcases handler_counts h hd with ⟨-, hzero⟩ | ⟨-, hcount⟩
    · rw [List.countP_append, hone] at hzero
      omega
    · exact hcount

end OneShot

/-! ## Handlers that raise their signal again -/

/-- every way through the handler raises the signal; `raised` tells the points after that -/
structure Reraises {σ κ : Type} (P : Platform σ κ) (raised : κ → Bool) : Prop where
  entry : raised P.entry = false
  next : ∀ k k', P.statement k = .next k' → raised k' = true → raised k = true
  finish : ∀ k, P.statement k = .finish → raised k = true

/-- a step of the thread's program -/
def Event.MadeBy {ι σ : Type} (i : ι) : Event ι σ → Prop
  | .ran j => j = i
  | .created j _ => j = i
  | .accepted j _ => j = i
  | _ => False

section Reraise

variable {ι σ κ : Type} [DecidableEq ι] [DecidableEq σ] {P : Platform σ κ} {p p' p₀ : Process ι σ κ} {base : σ → Bool}
  {raised : κ → Bool} {entered : Prop} {e : Event ι σ} {i : ι} {t : Thread σ κ} {s : σ} {trace : List (Event ι σ)}

/-- a thread that makes a step of its program is ready, and in no handler -/
theorem moves_madeBy (hm : Moves P p e p') (he : e.MadeBy i) :
    ∃ t, p.threads i = some t ∧ t.Ready ∧ t.frames = [] := by
  cases hm with
  | @take j t t' s q =>
    rcases take_cases P q j t' s with ⟨heq, -⟩ | ⟨heq, -⟩ | ⟨reset, -, heq⟩ <;>
      · rw [heq] at he
        exact he.elim
  | send => exact he.elim
  | forced => exact he.elim
  | unframed => exact he.elim
  | handle => exact he.elim
  | run ht hr hf =>
    obtain rfl := he
    exact ⟨_, ht, hr, hf⟩
  | create ht hr hf =>
    obtain rfl := he
    exact ⟨_, ht, hr, hf⟩
  | accept ht hr hf =>
    obtain rfl := he
    exact ⟨_, ht, hr, hf⟩

/-- handlers are one-shot, and only for signals that end the process by default -/
def Fatal (P : Platform σ κ) (p : Process ι σ κ) : Prop :=
  ∀ s reset, p.disposition s = .handler reset → reset = true ∧ P.terminates s = true

/-- taking the signal ends the process -/
def Deadly (P : Platform σ κ) (p : Process ι σ κ) (s : σ) : Prop := P.terminates s = true ∧ p.disposition s = .default

/-- all that the thread handles is deadly, and pending again once it is raised; if it has entered a handler, it can only
take such a signal when it has left the handlers -/
structure Doomed (P : Platform σ κ) (raised : κ → Bool) (p : Process ι σ κ) (entered : Prop) (t : Thread σ κ) :
    Prop where
  handles : ∀ f ∈ t.frames, Deadly P p f.signal ∧ (raised f.point = true → t.pending f.signal = true)
  takes : entered → t.frames = [] → ∃ s, Deadly P p s ∧ t.pending s = true ∧ t.mask s = false

theorem Deadly.moves (h : Deadly P p s) (hm : Moves P p e p') : Deadly P p' s := by
  refine ⟨h.1, ?_⟩
  rcases moves_disposition hm with heq | ⟨-, hd, -⟩
  · exact heq.trans h.2
  · cases h.2.symm.trans hd

theorem Fatal.moves (h : Fatal P p) (hm : Moves P p e p') : Fatal P p' := by
  intro s reset hd
  rcases moves_disposition hm with heq | ⟨-, -, hdefault⟩
  · exact h s reset (heq.symm.trans hd)
  · cases hdefault.symm.trans hd

omit [DecidableEq ι] [DecidableEq σ] in
theorem Doomed.keep (h : Doomed P raised p entered t) (hdeadly : ∀ s, Deadly P p s → Deadly P p' s) :
    Doomed P raised p' entered t := by
  refine ⟨fun f hf => ⟨hdeadly _ (h.handles f hf).1, (h.handles f hf).2⟩, fun hentered hnil => ?_⟩
  obtain ⟨s, hs, hpending⟩ := h.takes hentered hnil
  exact ⟨s, hdeadly s hs, hpending⟩

omit [DecidableEq ι] in
/-- sending it a signal changes nothing about that -/
theorem Doomed.sent (h : Doomed P raised p entered t) (s : σ) : Doomed P raised p entered (t.setPending s true) := by
  have hkept : ∀ s', t.pending s' = true → (t.setPending s true).pending s' = true := by
    intro s' hs'
    by_cases hne : s' = s
    · subst hne
      exact Function.update_self ..
    · exact (Function.update_of_ne hne _ _).trans hs'
  refine ⟨fun f hf => ⟨(h.handles f hf).1, fun hraised => hkept _ ((h.handles f hf).2 hraised)⟩, fun hentered hnil => ?_⟩
  obtain ⟨s', hdeadly, hpending, hmask⟩ := h.takes hentered hnil
  exact ⟨s', hdeadly, hkept s' hpending, hmask⟩

omit [DecidableEq ι] in
/-- a statement of its innermost handler neither -/
theorem Doomed.handled {f : Frame σ κ} {fs : List (Frame σ κ)} (h : Doomed P raised p entered t)
    (hreraises : Reraises P raised) (hstacked : Stacked base t.mask t.frames) (hf : t.frames = f :: fs) :
    Doomed P raised p entered (t.handle P f fs) := by
  have hhandles : ∀ g ∈ f :: fs, Deadly P p g.signal ∧ (raised g.point = true → t.pending g.signal = true) :=
    hf ▸ h.handles
  obtain ⟨hdeadly, hpending⟩ := hhandles f List.mem_cons_self
  unfold Thread.handle
  cases hst : P.statement f.point with
  | next k =>
    refine ⟨fun g hg => ?_, fun _ hnil => by cases hnil⟩
    rcases List.mem_cons.1 hg with rfl | hg
    · exact ⟨hdeadly, fun hk => hpending (hreraises.next f.point k hst hk)⟩
    · exact hhandles g (List.mem_cons_of_mem f hg)
  | raise k =>
    refine ⟨fun g hg => ?_, fun _ hnil => by cases hnil⟩
    rcases List.mem_cons.1 hg with rfl | hg
    · exact ⟨hdeadly, fun _ => Function.update_self ..⟩
    · have hg' : g ∈ (t.setPending f.signal true).frames := hf ▸ List.mem_cons_of_mem f hg
      exact (h.sent f.signal).handles g hg'
  | finish =>
    -- the signal was raised, and is no longer blocked
    rw [hf] at hstacked
    exact ⟨fun g hg => hhandles g (List.mem_cons_of_mem f hg),
      fun _ _ => ⟨f.signal, hdeadly, hpending (hreraises.finish f.point hst), hstacked.2.1⟩⟩

/-- nor does a signal that it takes, unless that kills -/
theorem Doomed.taken {t' : Thread σ κ} {q : Process ι σ κ} (h : Doomed P raised p entered t) (hfatal : Fatal P p)
    (hreraises : Reraises P raised) (hstacked : Stacked base t.mask t.frames) (hmask : t.mask s = false)
    (hsame : SameBefore p t s q t') : (q.take P i t' s).2.killed ≠ none ∨
      ∃ u, (q.take P i t' s).2.threads = (p.setThread i u).threads ∧
        Doomed P raised (q.take P i t' s).2 (entered ∨ ∃ s', (q.take P i t' s).1 = .entered i s') u := by
  have hthreads : ∀ u, (q.setThread i u).threads = (p.setThread i u).threads := fun u => by
    simp only [Process.setThread, hsame.threads]
  have hpending : ∀ f ∈ t.frames, t'.pending f.signal = t.pending f.signal := by
    intro f hf
    refine (hsame.pending f.signal fun hfs => ?_).1
    rw [(stacked_mask hstacked).2 (Or.inr ⟨f, hf, hfs⟩)] at hmask
    cases hmask
  have hhandles : ∀ f ∈ t'.frames, Deadly P p f.signal ∧ (raised f.point = true → t'.pending f.signal = true) := by
    intro f hf
    rw [hsame.frames] at hf
    rw [hpending f hf]
    exact h.handles f hf
  rcases take_cases P q i t' s with ⟨heq, hharmless⟩ | ⟨heq, -⟩ | ⟨reset, hd, heq⟩
  · rw [hsame.disposition] at hharmless
    rw [heq]
    have hdeadly : ∀ s', Deadly P p s' → Deadly P (q.setThread i t') s' :=
      fun s' hs' => ⟨hs'.1, (congrFun hsame.disposition s').trans hs'.2⟩
    refine Or.inr ⟨t', hthreads t', fun f hf => ⟨hdeadly _ (hhandles f hf).1, (hhandles f hf).2⟩,
      fun hentered hnil => ?_⟩
    rw [hsame.frames] at hnil
    have hbefore : entered := hentered.resolve_right fun ⟨_, hdiscarded⟩ => by cases hdiscarded
    obtain ⟨s', hs', hp', hm'⟩ := h.takes hbefore hnil
    have hne : s' ≠ s := by
      rintro rfl
      cases (hharmless hs'.2).symm.trans hs'.1
    refine ⟨s', hdeadly s' hs', ?_, ?_⟩
    · rw [(hsame.pending s' hne).1]
      exact hp'
    · rw [hsame.mask]
      exact hm'
  · rw [heq]
    exact Or.inl (Option.some_ne_none s)
  · rw [hsame.disposition] at hd
    obtain ⟨rfl, hterminates⟩ := hfatal s reset hd
    rw [heq]
    refine Or.inr ⟨t'.enter P.entry s, hthreads _, fun f hf => ?_, fun _ hnil => by cases hnil⟩
    rcases List.mem_cons.1 hf with rfl | hf
    · refine ⟨⟨hterminates, Function.update_self ..⟩, fun hraised => ?_⟩
      cases hreraises.entry.symm.trans hraised
    · obtain ⟨hdeadly, hraised⟩ := hhandles f hf
      refine ⟨⟨hdeadly.1, ?_⟩, hraised⟩
      have hne : f.signal ≠ s := fun hfs => by
        rw [hfs] at hdeadly
        cases hd.symm.trans hdeadly.2
      exact (Function.update_of_ne hne _ _).trans ((congrFun hsame.disposition _).trans hdeadly.2)

/-- every thread is doomed if it has entered a handler -/
def Sealed (P : Platform σ κ) (raised : κ → Bool) (p : Process ι σ κ) (entered : ι → Prop) : Prop :=
  (∀ i t, p.threads i = some t → Doomed P raised p (entered i) t) ∧ ∀ i, entered i → p.threads i ≠ none

omit [DecidableEq ι] [DecidableEq σ] in
theorem Sealed.keep {entered entered' : ι → Prop} (h : Sealed P raised p entered)
    (hdeadly : ∀ s, Deadly P p s → Deadly P p' s) (hthreads : p'.threads = p.threads)
    (hsame : ∀ j, entered' j ↔ entered j) : Sealed P raised p' entered' := by
  obtain rfl : entered' = entered := funext fun j => propext (hsame j)
  refine ⟨fun j u hu => (h.1 j u (hthreads ▸ hu)).keep hdeadly, fun j hj => ?_⟩
  rw [hthreads]
  exact h.2 j hj

omit [DecidableEq σ] in
theorem Sealed.set {entered entered' : ι → Prop} (h : Sealed P raised p entered)
    (hdeadly : ∀ s, Deadly P p s → Deadly P p' s) (hthreads : p'.threads = (p.setThread i t).threads)
    (ht : Doomed P raised p' (entered' i) t) (hother : ∀ j, j ≠ i → (entered' j ↔ entered j)) :
    Sealed P raised p' entered' := by
  refine ⟨fun j u hu => ?_, fun j hj => ?_⟩
  · rw [hthreads] at hu
    by_cases hji : j = i
    · subst hji
      rw [setThread_self] at hu
      obtain rfl := Option.some.inj hu
      exact ht
    · rw [setThread_other p hji] at hu
      exact propext (hother j hji) ▸ (h.1 j u hu).keep hdeadly
  · rw [hthreads]
    by_cases hji : j = i
    · subst hji
      rw [setThread_self]
      exact Option.some_ne_none t
    · rw [setThread_other p hji]
      exact h.2 j ((hother j hji).1 hj)

theorem take_thread (P : Platform σ κ) {q : Process ι σ κ} {j : ι} {s' : σ}
    (h : (q.take P i t s).1 = .entered j s') : j = i := by
  rcases take_cases P q i t s with ⟨heq, -⟩ | ⟨heq, -⟩ | ⟨reset, -, heq⟩
  · rw [heq] at h
    cases h
  · rw [heq] at h
    cases h
  · rw [heq] at h
    cases h
    rfl

/-- **Every move keeps that**, unless it kills. -/
theorem Sealed.moves {entered : ι → Prop} (h : Sealed P raised p entered) (hfatal : Fatal P p)
    (hreraises : Reraises P raised) (hnested : Nested base p) (hm : Moves P p e p') :
    p'.killed ≠ none ∨ Sealed P raised p' fun i => entered i ∨ ∃ s, e = .entered i s := by
  have hdeadly : ∀ s, Deadly P p s → Deadly P p' s := fun s hs => hs.moves hm
  cases hm with
  | @take i t t' s q ht hmask hc =>
    refine ((h.1 i t ht).taken hfatal hreraises (hnested i t ht) hmask hc.same).imp_right ?_
    intro ⟨u, hu, hdoomed⟩
    refine h.set hdeadly hu hdoomed fun j hji => ⟨fun hj => hj.resolve_right ?_, Or.inl⟩
    intro ⟨s', hs'⟩
    exact hji (take_thread P hs')
  | forced => exact Or.inl (Option.some_ne_none _)
  | unframed => exact Or.inl (Option.some_ne_none _)
  | send target s =>
    refine Or.inr ?_
    cases target with
    | none => exact h.keep hdeadly rfl fun j => by simp
    | some i =>
      simp only [Process.send] at hdeadly ⊢
      cases hi : p.threads i with
      | none => exact h.keep (fun _ hs => hs) rfl fun j => by simp
      | some t =>
        rw [hi] at hdeadly
        refine h.set hdeadly rfl ?_ fun j _ => by simp
        simpa using ((h.1 i t hi).sent s).keep hdeadly
  | @handle i t f fs ht hr hf =>
    refine Or.inr (h.set hdeadly rfl ?_ fun j _ => by simp)
    simpa using ((h.1 i t ht).handled hreraises (hnested i t ht) hf).keep hdeadly
  | run => exact Or.inr (h.keep hdeadly rfl fun j => by simp)
  | @create i j t ht hr hf hj =>
    refine Or.inr (h.set hdeadly rfl ⟨fun f hf => absurd hf List.not_mem_nil, fun hentered _ => ?_⟩ fun k _ => by simp)
    exact absurd hj (h.2 j (hentered.resolve_right fun ⟨_, hcreated⟩ => by cases hcreated))
  | @accept i t s ht hr hf =>
    refine Or.inr ?_
    unfold Process.accept at hdeadly ⊢
    split_ifs at hdeadly ⊢
    · refine h.set hdeadly rfl ⟨fun f hframe => ?_, fun hentered _ => ?_⟩ fun k _ => by simp
      · exact absurd (hf ▸ hframe : f ∈ []) List.not_mem_nil
      · obtain ⟨s', -, hpending, hmask⟩ :=
          (h.1 i t ht).takes (hentered.resolve_right fun ⟨_, haccepted⟩ => by cases haccepted) hf
        cases hmask.symm.trans (hr s' hpending)
    · exact h.keep hdeadly rfl fun j => by simp

/-- a doomed thread makes no step of its program -/
theorem Sealed.idle {entered : ι → Prop} (h : Sealed P raised p entered) (hi : entered i) (hm : Moves P p e p') :
    ¬ e.MadeBy i := by
  intro hmade
  obtain ⟨t, ht, hr, hf⟩ := moves_madeBy hm hmade
  obtain ⟨s, -, hpending, hmask⟩ := (h.1 i t ht).takes hi hf
  cases hmask.symm.trans (hr s hpending)

theorem Runs.fatal (h : Runs P p₀ trace p) (h₀ : Fatal P p₀) : Fatal P p := by
  induction h with
  | start => exact h₀
  | step _ _ hm ih => exact ih.moves hm

/-- in a run in which no thread is in a handler at the start -/
theorem Runs.sealed (h : Runs P p₀ trace p) (h₀ : ∀ i t, p₀.threads i = some t → t.frames = []) (hfatal : Fatal P p₀)
    (hreraises : Reraises P raised) (hnested : Nested base p₀) :
    p.killed ≠ none ∨ Sealed P raised p fun i => ∃ s, .entered i s ∈ trace := by
  induction h with
  | start =>
    refine Or.inr ⟨fun i t ht => ⟨fun f hf => ?_, fun ⟨_, hs⟩ => absurd hs List.not_mem_nil⟩,
      fun i ⟨_, hs⟩ => absurd hs List.not_mem_nil⟩
    rw [h₀ i t ht] at hf
    exact absurd hf List.not_mem_nil
  | @step trace p p' e hruns halive hm ih =>
    have hbefore := ih.resolve_left fun hk => hk halive
    refine (hbefore.moves (hruns.fatal hfatal) hreraises (hruns.nested hnested) hm).imp_right fun hafter => ?_
    refine hafter.keep (fun _ hs => hs) rfl fun i => ?_
    simp only [List.mem_append, List.mem_singleton, exists_or, eq_comm]

/-- **A thread that enters a handler never resumes its program.** -/
theorem entered_never_resumes (h : Runs P p₀ trace p) (h₀ : ∀ i t, p₀.threads i = some t → t.frames = [])
    (hfatal : Fatal P p₀) (hreraises : Reraises P raised) (hnested : Nested base p₀) {pre post : List (Event ι σ)}
    (htrace : trace = pre ++ .entered i s :: post) : ∀ e ∈ post, ¬ e.MadeBy i := by
  induction h generalizing post with
  | start => simp at htrace
  | @step trace p p' e hruns halive hm ih =>
    rcases List.eq_nil_or_concat post with rfl | ⟨post', e', rfl⟩
    · exact fun _ he => absurd he List.not_mem_nil
    · rw [List.concat_eq_append, ← List.cons_append, ← List.append_assoc] at htrace
      obtain ⟨hbefore, hlast⟩ := List.append_inj' htrace rfl
      obtain rfl := List.singleton_inj.1 hlast
      intro x hx
      rw [List.concat_eq_append] at hx
      rcases List.mem_append.1 hx with hx | hx
      · exact ih hbefore x hx
      · obtain rfl := List.mem_singleton.1 hx
        have hsealed := (hruns.sealed h₀ hfatal hreraises hnested).resolve_left fun hk => hk halive
        refine hsealed.idle ⟨s, ?_⟩ hm
        rw [hbefore]
        exact List.mem_append_right _ List.mem_cons_self

end Reraise

end Asabru.Signals
