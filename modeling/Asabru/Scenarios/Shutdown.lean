/-
SIGNALS AND THE END OF THE PROCESS, in every execution of the program: any signals at any time, to the process or to a
thread, any faults of any thread, any requests meanwhile.

Until the handlers are set up the default action of any signal ends the process. Afterwards SIGTERM and SIGINT are blocked
in every thread and wait for the `sigwait` of `main`, SIGPIPE is ignored, and five signals end the process only through
`onFatalSignal`, unless its frame does not fit on the stack of a thread: then SIGSEGV kills without an entry.

- `shutdown_signals`: none of SIGTERM, SIGINT and SIGPIPE kills a process whose handlers are set up; a SIGTERM or SIGINT
  that is sent to it is pending until `main` has returned success, and `sigwait` accepts it when `main` comes there;
- `fatal_signals`: `onFatalSignal` is entered at most once for each of its signals, such a signal kills only after that, or
  as the SIGSEGV of a stack without room for the handler, and a thread that entered it makes no further step of the program;
- `exit_status`: `main` returns success only without arguments, after all three starts, each from what the one before left
  after some requests, and on a signal that somebody sent; it returns failure only for an argument or a start that failed;
- `comes_up`: without a signal, the program comes to its `sigwait` with the process that `boot` gives.
Witnesses: `shutdown_after_start`, `crash_after_start`, `overflow_kills`, `exit_after_sigterm`.

Premises of the first two: when `main` comes to `setupSignalHandlers` there is no other thread, and the threads that are
created later change no mask and no disposition (`Server.Step`).
-/
import Mathlib.Tactic
import Asabru.Server.Main
import Asabru.Scenarios.Restarts

namespace Asabru.Shutdown

open Asabru.Control Asabru.Config Asabru.Signals Asabru.Server

abbrev Trace := List (Event ThreadId Signal)

abbrev ServerProcess := Signals.Process ThreadId Signal HandlerPoint

/-- there is no thread but `main`'s -/
def Sole (p : ServerProcess) : Prop := ∀ i, i ≠ 0 → p.threads i = none

/-- the points of `onFatalSignal` after its `raise` -/
def raised : HandlerPoint → Bool
  | .finished => true
  | _ => false

theorem onFatalSignal_reraises : Reraises platform raised := by
  refine ⟨rfl, fun k k' hk hraised => ?_, fun k hk => ?_⟩
  · cases k <;> cases hk <;> cases hraised
  · cases k <;> cases hk
    rfl

/-- no thread entered a handler -/
def NoEntry (trace : Trace) : Prop := ∀ i s, .entered i s ∉ trace

theorem noEntry_concat {trace : Trace} {e : Event ThreadId Signal} (h : NoEntry (trace ++ [e])) :
    NoEntry trace ∧ ∀ i s, e ≠ .entered i s := by
  refine ⟨fun i s hmem => h i s (List.mem_append_left _ hmem), fun i s he => h i s ?_⟩
  rw [he]
  exact List.mem_append_right _ (List.mem_singleton_self _)

/-! ## Setting up the handlers -/

/-- the dispositions after some calls of `sigaction` -/
def installed (calls : List (Signal × Disposition)) : Signal → Disposition :=
  calls.foldl (fun d call => Function.update d call.1 call.2) fun _ => .default

theorem installed_concat (calls : List (Signal × Disposition)) (s : Signal) (d : Disposition) :
    installed (calls ++ [(s, d)]) = Function.update (installed calls) s d := by
  simp [installed]

theorem installed_cases (calls : List (Signal × Disposition)) (s : Signal) :
    installed calls s = .default ∨ (s, installed calls s) ∈ calls := by
  induction calls using List.reverseRecOn with
  | nil => exact Or.inl rfl
  | append_singleton calls call ih =>
    obtain ⟨s', d⟩ := call
    rw [installed_concat]
    by_cases hs : s = s'
    · subst hs
      rw [Function.update_self]
      exact Or.inr (List.mem_append_right _ (List.mem_singleton_self _))
    · rw [Function.update_of_ne hs]
      exact ih.imp_right (List.mem_append_left _)

/-- the handlers that are installed are one-shot, for signals that end the process -/
theorem sigactions_fatal : ∀ call ∈ sigactions, ∀ reset, call.2 = .handler reset →
    reset = true ∧ call.1.terminates = true := by
  intro call hcall reset hreset
  rcases List.mem_cons.1 hcall with rfl | hcall
  · cases hreset
  · obtain ⟨s, hs, rfl⟩ := List.mem_map.1 hcall
    have hterminates : ∀ s ∈ fatalSignals, s.terminates = true := by decide
    exact ⟨(Disposition.handler.inj hreset).symm, hterminates s hs⟩

theorem installed_fatal {calls rest : List (Signal × Disposition)} (hcalls : sigactions = calls ++ rest)
    {p : ServerProcess} (hp : p.disposition = installed calls) : Fatal platform p := by
  intro s reset hd
  rw [hp] at hd
  rcases installed_cases calls s with hdefault | hmem
  · rw [hd] at hdefault
    cases hdefault
  · exact sigactions_fatal (s, installed calls s) (hcalls ▸ List.mem_append_left _ hmem) reset hd

/-- blocked in every thread once `sigmask` was called -/
def shutdownMask : Signal → Bool := fun s => decide (s ∈ shutdownSignals)

/-- `main`'s thread alone, on the way through `setupSignalHandlers` -/
structure SettingUp (base : Signal → Bool) (calls : List (Signal × Disposition)) (trace : Trace) (p : ServerProcess) :
    Prop where
  sole : Sole p
  nested : Nested base p
  fatal : Fatal platform p
  doomed : Sealed platform raised p fun i => ∃ s, .entered i s ∈ trace
  calm : NoEntry trace → p.disposition = installed calls ∧ Threads (fun _ frames => frames = []) p

section SettingUp

variable {base : Signal → Bool} {calls : List (Signal × Disposition)} {trace : Trace} {p p' : ServerProcess}
  {e : Event ThreadId Signal}

theorem sealed_of_calm (hp : Threads (fun _ frames => frames = []) p) (htrace : NoEntry trace) :
    Sealed platform raised p fun i => ∃ s, .entered i s ∈ trace := by
  refine ⟨fun i t ht => ⟨fun f hf => ?_, fun ⟨s, hs⟩ => absurd hs (htrace i s)⟩, fun i ⟨s, hs⟩ => absurd hs (htrace i s)⟩
  rw [hp i t ht] at hf
  exact absurd hf List.not_mem_nil

/-- **A move keeps the set-up as it is**, unless it kills. -/
theorem SettingUp.moves (h : SettingUp base calls trace p) (hm : Moves platform p e p')
    (he : ∀ i j, e ≠ .created i j) : p'.killed ≠ none ∨ SettingUp base calls (trace ++ [e]) p' := by
  refine (h.doomed.moves h.fatal onFatalSignal_reraises h.nested hm).imp_right fun hdoomed => ?_
  refine ⟨fun i hi => moves_none hm (h.sole i hi) fun j => he j i, h.nested.moves hm, h.fatal.moves hm, ?_, fun hquiet => ?_⟩
  · refine hdoomed.keep (fun _ hs => hs) rfl fun i => ?_
    simp only [List.mem_append, List.mem_singleton, exists_or, eq_comm]
  · obtain ⟨hbefore, hnot⟩ := noEntry_concat hquiet
    obtain ⟨hd, hframes⟩ := h.calm hbefore
    refine ⟨funext fun s => ?_, ?_⟩
    · have hkept : p'.disposition s = p.disposition s ∨ _ := moves_disposition hm
      rcases hkept with heq | ⟨⟨i, hentered⟩, -⟩
      · exact heq.trans (congrFun hd s)
      · exact absurd hentered (hnot i s)
    · have hnone : ∀ (f : Frame Signal HandlerPoint) fs, f :: fs ≠ [] := fun f fs => List.cons_ne_nil f fs
      exact hframes.moves hm (fun i s _ _ hentered _ _ => absurd hentered (hnot i s))
        (fun _ f fs _ hf => absurd hf (hnone f fs)) fun _ f fs hf => absurd hf (hnone f fs)

/-- when `main` makes a step, nothing was entered -/
theorem SettingUp.quiet (h : SettingUp base calls trace p) {t : Signals.Thread Signal HandlerPoint} (ht : p.threads 0 = some t)
    (hready : t.Ready) (hframes : t.frames = []) : NoEntry trace := by
  intro i s hentered
  by_cases hi : i = 0
  · subst hi
    exact h.doomed.idle ⟨s, hentered⟩ (Moves.run ht hready hframes) rfl
  · exact h.doomed.2 i ⟨s, hentered⟩ (h.sole i hi)

/-- `main` calls `pthread_sigmask` -/
theorem SettingUp.masked (h : SettingUp (fun _ => false) [] trace p) {t : Signals.Thread Signal HandlerPoint}
    (ht : p.threads 0 = some t) (hready : t.Ready) (hframes : t.frames = []) (i : ThreadId) :
    SettingUp shutdownMask [] (trace ++ [.ran i]) (p.setThread 0 { t with mask := blockShutdown t.mask }) := by
  have hquiet := h.quiet ht hready hframes
  obtain ⟨hd, hcalm⟩ := h.calm hquiet
  have hmask : t.mask = fun _ => false := by
    have hstacked := h.nested 0 t ht
    rw [hframes] at hstacked
    exact hstacked
  have hafter : Threads (fun _ frames => frames = []) (p.setThread 0 { t with mask := blockShutdown t.mask }) :=
    threads_set hcalm hframes
  have hstill : NoEntry (trace ++ [.ran i]) := fun j s hmem =>
    (List.mem_append.1 hmem).elim (hquiet j s) fun hlast => by simp at hlast
  have hcalls : sigactions = [] ++ sigactions := rfl
  refine ⟨fun j hj => (setThread_other p hj _).trans (h.sole j hj), fun j u hu => ?_, installed_fatal hcalls hd,
    sealed_of_calm hafter hstill, fun _ => ⟨hd, hafter⟩⟩
  have hj : j = 0 := by
    by_contra hj
    rw [setThread_other p hj, h.sole j hj] at hu
    cases hu
  subst hj
  rw [setThread_self] at hu
  obtain rfl := Option.some.inj hu
  show Stacked shutdownMask (blockShutdown t.mask) t.frames
  rw [hframes, hmask]
  exact funext fun s => Bool.or_false _

/-- `main` calls `sigaction` -/
theorem SettingUp.action (h : SettingUp base calls trace p) {t : Signals.Thread Signal HandlerPoint}
    (ht : p.threads 0 = some t) (hready : t.Ready) (hframes : t.frames = []) (i : ThreadId) {s : Signal} {d : Disposition}
    {rest : List (Signal × Disposition)} (hcalls : sigactions = (calls ++ [(s, d)]) ++ rest) :
    SettingUp base (calls ++ [(s, d)]) (trace ++ [.ran i])
      { p with disposition := Function.update p.disposition s d } := by
  have hquiet := h.quiet ht hready hframes
  obtain ⟨hd, hcalm⟩ := h.calm hquiet
  have hinstalled : Function.update p.disposition s d = installed (calls ++ [(s, d)]) := by
    rw [installed_concat, hd]
  have hstill : NoEntry (trace ++ [.ran i]) := fun j s hmem =>
    (List.mem_append.1 hmem).elim (hquiet j s) fun hlast => by simp at hlast
  exact ⟨h.sole, h.nested, installed_fatal hcalls hinstalled, sealed_of_calm hcalm hstill, fun _ => ⟨hinstalled, hcalm⟩⟩

end SettingUp

/-! ## The process after `setupSignalHandlers` -/

/-- the handlers are set up, and none was entered so far -/
structure Configured (trace : Trace) (p : ServerProcess) : Prop where
  disposition : p.disposition = installed sigactions
  nested : Nested shutdownMask p
  calm : Threads (fun _ frames => frames = []) p
  quiet : NoEntry trace

section Setup

variable {v : Invocation} {m₀ m m' : Machine} {trace : Trace} {e : Event ThreadId Signal}

/-- where an execution is that began at `sigmask` -/
inductive Stage (v : Invocation) (m₀ : Machine) (trace : Trace) (m : Machine) : Prop where
  /-- a signal killed on the way through `setupSignalHandlers` -/
  | killed (h : m.process.killed ≠ none) (hearly : m.main.Early)
  | masking (hp : m.main = .sigmask) (h : SettingUp (fun _ => false) [] trace m.process)
  | installing {calls rest : List (Signal × Disposition)} (hp : m.main = .sigaction rest)
      (hcalls : sigactions = calls ++ rest) (h : SettingUp shutdownMask calls trace m.process)
  | done {pre post : Trace} {m₁ : Machine} (htrace : trace = pre ++ post) (h : Execution v m₀ pre m₁)
      (hlate : ¬ m₁.main.Early) (halive : m₁.process.killed = none) (hconfigured : Configured pre m₁.process)
      (hafter : Execution v m₁ post m)

/-- `main` is in `setupSignalHandlers` -/
def InSetup (point : MainPoint) : Prop := point = .sigmask ∨ ∃ rest, point = .sigaction rest

/-- **What a step in `setupSignalHandlers` is**: a call of `main`, or a move that leaves `main` where it is. -/
theorem setup_cases (hp : InSetup m.main) (hs : Step v m e m') :
    (e = .ran 0 ∧ ∃ t, m.MainReady t ∧
      ((m.main = .sigmask ∧ m'.main = .sigaction sigactions ∧
          m'.process = m.process.setThread 0 { t with mask := blockShutdown t.mask }) ∨
        (∃ s d calls, m.main = .sigaction ((s, d) :: calls) ∧ m'.main = .sigaction calls ∧
          m'.process = { m.process with disposition := Function.update m.process.disposition s d }) ∨
        (m.main = .sigaction [] ∧ m'.main = .initProxyServers ∧ m'.process = m.process))) ∨
    (m'.main = m.main ∧ Moves platform m.process e m'.process ∧ ∀ i j, e = .created i j → i ≠ 0) := by
  have hstarts : ¬ m.main.Starts := by
    rcases hp with hp | ⟨rest, hp⟩ <;> rw [hp] <;> exact id
  have elsewhere : ∀ {point : MainPoint}, m.main = point → point ≠ .sigmask → (∀ rest, point ≠ .sigaction rest) → False := by
    intro point hpoint hmask haction
    rcases hp with hp | ⟨rest, hp⟩
    · exact hmask (hpoint.symm.trans hp)
    · exact haction rest (hpoint.symm.trans hp)
  cases hs with
  | signal hm he =>
    refine Or.inr ⟨rfl, hm, fun i j hcreated => ?_⟩
    subst hcreated
    exact absurd rfl (he i)
  | create hm hi =>
    refine Or.inr ⟨rfl, hm, fun i' j' hcreated hzero => ?_⟩
    cases hcreated
    exact hstarts (hi hzero)
  | main hm hstep =>
    rcases hp with hp | ⟨rest, hp⟩ <;>
      · rw [hp] at hstep
        cases hstep
  | sigmask ht hpoint => exact Or.inl ⟨rfl, _, ht, Or.inl ⟨hpoint, rfl, rfl⟩⟩
  | sigaction ht hpoint => exact Or.inl ⟨rfl, _, ht, Or.inr (Or.inl ⟨_, _, _, hpoint, rfl, rfl⟩)⟩
  | handlersSet ht hpoint => exact Or.inl ⟨rfl, _, ht, Or.inr (Or.inr ⟨hpoint, rfl, rfl⟩)⟩
  | terminate ht hpoint => exact (elsewhere hpoint (fun h => by cases h) fun _ h => by cases h).elim
  | sigwait hm hpoint => exact (elsewhere hpoint (fun h => by cases h) fun _ h => by cases h).elim
  | serve hm hi => exact Or.inr ⟨rfl, hm, fun i' j' hcreated => by cases hcreated⟩

/-- a move there keeps the set-up as it is, unless it kills -/
theorem setup_moves {base : Signal → Bool} {calls : List (Signal × Disposition)} {p : ServerProcess}
    (h : SettingUp base calls trace m.process) (hm : Moves platform m.process e p)
    (hcreate : ∀ i j, e = .created i j → i ≠ 0) : p.killed ≠ none ∨ SettingUp base calls (trace ++ [e]) p := by
  refine h.moves hm fun i j he => ?_
  have hmade : e.MadeBy i := by
    rw [he]
    rfl
  obtain ⟨t, ht, -⟩ := moves_madeBy hm hmade
  rw [h.sole i (hcreate i j he)] at ht
  cases ht

/-- **The stages of an execution**, step by step. -/
theorem Stage.step (h : Stage v m₀ trace m) (hexec : Execution v m₀ trace m) (hrunning : m.Running)
    (hs : Step v m e m') : Stage v m₀ (trace ++ [e]) m' := by
  cases h with
  | killed hk => exact absurd hrunning.1 hk
  | masking hp h =>
    rcases setup_cases (Or.inl hp) hs with ⟨rfl, t, ⟨ht, hready, hframes⟩, hcall⟩ | ⟨hmain, hm, hcreate⟩
    · rcases hcall with ⟨-, hmain, hprocess⟩ | ⟨_, _, _, hpoint, -⟩ | ⟨hpoint, -⟩
      · exact .installing hmain (List.nil_append _).symm (hprocess ▸ h.masked ht hready hframes 0)
      · cases hp.symm.trans hpoint
      · cases hp.symm.trans hpoint
    · rcases setup_moves h hm hcreate with hk | hset
      · exact .killed hk (by rw [hmain, hp]; trivial)
      · exact .masking (hmain.trans hp) hset
  | @installing calls rest hp hcalls h =>
    rcases setup_cases (Or.inr ⟨rest, hp⟩) hs with ⟨rfl, t, ⟨ht, hready, hframes⟩, hcall⟩ | ⟨hmain, hm, hcreate⟩
    · rcases hcall with ⟨hpoint, -⟩ | ⟨s, d, rest', hpoint, hmain, hprocess⟩ | ⟨hpoint, hmain, hprocess⟩
      · cases hp.symm.trans hpoint
      · obtain rfl := MainPoint.sigaction.inj (hp.symm.trans hpoint)
        have hcalls' : sigactions = (calls ++ [(s, d)]) ++ rest' := by rw [hcalls, List.append_assoc]; rfl
        exact .installing hmain hcalls' (hprocess ▸ h.action ht hready hframes 0 hcalls')
      · obtain rfl := MainPoint.sigaction.inj (hp.symm.trans hpoint)
        rw [List.append_nil] at hcalls
        have hquiet := h.quiet ht hready hframes
        obtain ⟨hd, hcalm⟩ := h.calm hquiet
        have hstill : NoEntry (trace ++ [.ran 0]) := fun j s hmem =>
          (List.mem_append.1 hmem).elim (hquiet j s) fun hlast => by simp at hlast
        refine .done (List.append_nil _).symm (hexec.step hrunning hs) (by rw [hmain]; exact id) ?_ ?_ .start
        · rw [hprocess]
          exact hrunning.1
        · rw [hprocess]
          exact ⟨hcalls ▸ hd, h.nested, hcalm, hstill⟩
    · rcases setup_moves h hm hcreate with hk | hset
      · exact .killed hk (by rw [hmain, hp]; trivial)
      · exact .installing (hmain.trans hp) hcalls hset
  | done htrace hbefore hlate halive hconfigured hafter =>
    refine .done ?_ hbefore hlate halive hconfigured (hafter.step hrunning hs)
    rw [htrace, List.append_assoc]

/-- the process as `main` finds it: nothing changed a disposition or a mask -/
structure Bare (p : ServerProcess) : Prop where
  default : ∀ s, p.disposition s = .default
  clear : Threads (fun mask frames => mask = (fun _ => false) ∧ frames = []) p

theorem Bare.moves {p p' : ServerProcess} (h : Bare p) (hm : Moves platform p e p') : Bare p' := by
  have hnot : ∀ i s, e ≠ .entered i s := by
    intro i s he
    obtain ⟨-, -, -, reset, -, -, -, hd, -⟩ := moves_entered hm he
    cases (h.default s).symm.trans hd
  refine ⟨fun s => ?_, h.clear.moves hm (fun i s _ _ he _ _ => absurd he (hnot i s)) (fun _ _ _ _ hf => ?_) fun _ _ _ hf => ?_⟩
  · have hkept : p'.disposition s = p.disposition s ∨ _ := moves_disposition hm
    rcases hkept with heq | ⟨⟨i, he⟩, -⟩
    · exact heq.trans (h.default s)
    · exact absurd he (hnot i s)
  · cases hf.2
  · cases hf.2

/-- up to `sigmask` -/
def Unset : MainPoint → Prop
  | .construct => True
  | .parseArgs => True
  | .sigmask => True
  | _ => False

theorem Unset.early {point : MainPoint} (h : Unset point) : point.Early := by
  cases point <;> trivial

/-- a step to there is a move -/
theorem unset_moves (hs : Step v m e m') (hp : Unset m'.main) : Unset m.main ∧ Moves platform m.process e m'.process := by
  cases hs with
  | signal hm => exact ⟨hp, hm⟩
  | create hm => exact ⟨hp, hm⟩
  | main hm hstep =>
    refine ⟨?_, hm⟩
    unfold mainStep at hstep
    split at hstep
    · rename_i hpoint
      rw [hpoint]
      trivial
    · rename_i hpoint
      rw [hpoint]
      trivial
    · exact absurd hp.early (afterInit_late id hstep)
    · exact absurd hp.early (afterInit_late id hstep)
    · exact absurd hp.early (afterInit_late id hstep)
    · cases hstep
  | sigmask => exact hp.elim
  | sigaction => exact hp.elim
  | handlersSet => exact hp.elim
  | terminate => exact hp.elim
  | sigwait => exact hp.elim
  | serve hm => exact ⟨hp, hm⟩

theorem bare_before (h : Execution v Invocation.initial trace m) (hp : Unset m.main) : Bare m.process := by
  induction h with
  | start =>
    refine ⟨fun _ => rfl, fun i t ht => ?_⟩
    by_cases hi : i = 0
    · subst hi
      obtain rfl := Option.some.inj ht
      exact ⟨rfl, rfl⟩
    · rw [show Invocation.initial.process.threads i = none from if_neg hi] at ht
      cases ht
  | step _ _ hs ih =>
    obtain ⟨hbefore, hm⟩ := unset_moves hs hp
    exact (ih hbefore).moves hm

/-- `main` comes to `setupSignalHandlers`, alone -/
structure AtSetup (v : Invocation) (m₀ : Machine) : Prop where
  reached : ∃ before, Execution v Invocation.initial before m₀
  point : m₀.main = .sigmask
  sole : Sole m₀.process

theorem AtSetup.settingUp (h : AtSetup v m₀) : SettingUp (fun _ => false) [] [] m₀.process := by
  obtain ⟨before, hbefore⟩ := h.reached
  have hunset : Unset m₀.main := by
    rw [h.point]
    trivial
  obtain ⟨hdefault, hclear⟩ := bare_before hbefore hunset
  have hquiet : NoEntry [] := fun _ _ => List.not_mem_nil
  have hcalm : Threads (fun _ frames => frames = []) m₀.process := fun i t ht => (hclear i t ht).2
  refine ⟨h.sole, fun i t ht => ?_, fun s reset hd => ?_, sealed_of_calm hcalm hquiet, fun _ => ⟨funext hdefault, hcalm⟩⟩
  · obtain ⟨hmask, hframes⟩ := hclear i t ht
    rw [hframes]
    exact hmask
  · cases (hdefault s).symm.trans hd

/-- **The stages of an execution.** -/
theorem stages (h₀ : AtSetup v m₀) (h : Execution v m₀ trace m) : Stage v m₀ trace m := by
  induction h with
  | start => exact .masking h₀.point h₀.settingUp
  | step hexec hrunning hs ih => exact ih.step hexec hrunning hs

/-- once `setupSignalHandlers` has returned, the execution is a run from there -/
theorem configured_runs (h₀ : AtSetup v m₀) (h : Execution v m₀ trace m) (hlate : ¬ m.main.Early) :
    ∃ pre post p, trace = pre ++ post ∧ p.killed = none ∧ Configured pre p ∧ Runs platform p post m.process := by
  cases stages h₀ h with
  | killed hk hearly => exact absurd hearly hlate
  | masking hp =>
    rw [hp] at hlate
    exact absurd trivial hlate
  | installing hp =>
    rw [hp] at hlate
    exact absurd trivial hlate
  | done htrace _ hsince halive hconfigured hafter =>
    exact ⟨_, _, _, htrace, halive, hconfigured, (hafter.runs hsince).1⟩

end Setup

/-! ## Results about signals -/

section Results

variable {v : Invocation} {m₀ m₁ m : Machine} {p p₀ : ServerProcess} {pre post trace : Trace} {e : Event ThreadId Signal}
  {i : ThreadId} {s : Signal}

theorem installed_fatalSignals : ∀ s ∈ fatalSignals, installed sigactions s = .handler true := by decide

/-- a handler that is there was there before -/
theorem handler_before (h : Runs platform p₀ trace p) {reset : Bool} (hd : p.disposition s = .handler reset) :
    p₀.disposition s = .handler reset := by
  induction h with
  | start => exact hd
  | step _ _ hm ih =>
    rcases moves_disposition hm with heq | ⟨-, -, hdefault⟩
    · exact ih (heq.symm.trans hd)
    · cases hdefault.symm.trans hd

/-- what is entered is one of the handlers that were installed -/
theorem entered_fatal (h : Runs platform p₀ trace p) (h₀ : p₀.disposition = installed sigactions)
    (hentered : .entered i s ∈ trace) : s ∈ fatalSignals := by
  induction h with
  | start => exact absurd hentered List.not_mem_nil
  | step hruns _ hm ih =>
    rcases List.mem_append.1 hentered with hbefore | hlast
    · exact ih hbefore
    · obtain ⟨-, -, -, reset, -, -, -, hd, -⟩ := moves_entered hm (List.mem_singleton.1 hlast).symm
      have hinstalled := handler_before hruns hd
      rw [h₀] at hinstalled
      rcases installed_cases sigactions s with hdefault | hmem
      · cases hdefault.symm.trans hinstalled
      · rw [hinstalled] at hmem
        rcases List.mem_cons.1 hmem with hpipe | hmem
        · cases hpipe
        · obtain ⟨s', hs', heq⟩ := List.mem_map.1 hmem
          cases heq
          exact hs'

/-- only `main` accepts, and returns then -/
theorem accepted_returns (h : Execution v m₀ trace m) (haccepted : .accepted i s ∈ trace) :
    m.main = .returned .success := by
  induction h with
  | start => exact absurd haccepted List.not_mem_nil
  | step _ hrunning hs ih =>
    rcases List.mem_append.1 haccepted with hbefore | hlast
    · exact absurd (ih hbefore) (hrunning.2 _)
    · have he := List.mem_singleton.1 hlast
      cases hs with
      | signal _ hnot => exact absurd (he ▸ rfl) (hnot i)
      | create => cases he
      | main => cases he
      | sigmask => cases he
      | sigaction => cases he
      | handlersSet => cases he
      | terminate => cases he
      | sigwait => rfl
      | serve => cases he

/-- **SIGTERM, SIGINT and SIGPIPE.** -/
theorem shutdown_signals (h₀ : AtSetup v m₀) (h₁ : Execution v m₀ pre m₁) (hlate : ¬ m₁.main.Early)
    (h : Execution v m₁ trace m) :
    (∀ s, m.process.killed = some s → s ∉ shutdownSignals ∧ s ≠ .sigpipe) ∧
    ∀ s ∈ shutdownSignals,
      (.sent none s ∈ trace → m.process.pending s = true ∨ m.main = .returned .success) ∧
      ∀ t, m.process.pending s = true → m.MainReady t → m.main = .sigwait →
        Step v m (.accepted 0 s) { m with process := m.process.accept 0 t s, main := .returned .success } := by
  obtain ⟨hruns, hstill⟩ := h.runs hlate
  refine ⟨fun s hk => ?_, fun s hs => ?_⟩
  · obtain ⟨_, _, p, -, halive, hp, hall⟩ := configured_runs h₀ (h₁.trans h) hstill
    refine ⟨fun hs => ?_, ?_⟩
    · have hasync : ∀ s ∈ shutdownSignals, platform.synchronous s = false := by decide
      exact blocked_never_kills hall hp.nested halive (decide_eq_true hs) (hasync s hs) hk
    · rintro rfl
      exact ignored_never_kills hall halive (congrFun hp.disposition .sigpipe) rfl hk
  · obtain ⟨_, _, p, -, -, hp, hbefore⟩ := configured_runs h₀ h₁ hlate
    have hnested := hbefore.nested hp.nested
    have hblocked : shutdownMask s = true := decide_eq_true hs
    refine ⟨fun hsent => ?_, fun t hpending ht hpoint => ?_⟩
    · refine (sent_kept hruns hnested hblocked hsent).imp_right ?_
      intro ⟨i, haccepted⟩
      exact accepted_returns h haccepted
    · have hmask := hruns.nested hnested 0 t ht.1
      rw [ht.2.2] at hmask
      have hwaits : t.mask s = true := (congrFun hmask s).trans hblocked
      exact .sigwait (.accept ht.1 ht.2.1 ht.2.2 (Or.inr hpending) hwaits) hpoint hs

/-- an entry is after the set-up -/
theorem entry_since {before since after : Trace} (hquiet : NoEntry pre)
    (h : pre ++ since = before ++ .entered i s :: after) : ∃ between, since = between ++ .entered i s :: after := by
  rcases List.append_eq_append_iff.1 h with ⟨between, -, hsince⟩ | ⟨between, hbefore, hrest⟩
  · exact ⟨between, hsince⟩
  · cases between with
    | nil => exact ⟨[], hrest.symm⟩
    | cons e between =>
      obtain ⟨rfl, -⟩ := List.cons.inj hrest
      refine absurd ?_ (hquiet i s)
      rw [hbefore]
      exact List.mem_append_right _ List.mem_cons_self

/-- **The signals of `onFatalSignal`.** -/
theorem fatal_signals (h₀ : AtSetup v m₀) (h : Execution v m₀ trace m) (hlate : ¬ m.main.Early) :
    (∀ s ∈ fatalSignals, trace.countP (Event.enters s) ≤ 1 ∧
      (m.process.killed = some s → trace.countP (Event.enters s) = 1 ∨
        (s = .sigsegv ∧ ∃ i s', .unframed i s' ∈ trace))) ∧
    ∀ i s before after, trace = before ++ .entered i s :: after → s ∈ fatalSignals ∧ ∀ e ∈ after, ¬ e.MadeBy i := by
  obtain ⟨before, since, p, rfl, halive, hp, hruns⟩ := configured_runs h₀ h hlate
  have hfatal : Fatal platform p := installed_fatal (List.append_nil _).symm hp.disposition
  have hunused : ∀ s, before.countP (Event.enters s) = 0 := by
    intro s
    refine List.countP_eq_zero.2 fun e he hent => ?_
    obtain ⟨i, rfl⟩ := enters_iff.1 hent
    exact hp.quiet i s he
  refine ⟨fun s hs => ?_, fun i s before' after htrace => ?_⟩
  · have hd : p.disposition s = .handler true := (congrFun hp.disposition s).trans (installed_fatalSignals s hs)
    rw [List.countP_append, hunused, Nat.zero_add]
    refine ⟨?_, fun hk => ?_⟩
    · rcases handler_counts hruns hd with ⟨-, hzero⟩ | ⟨-, hone⟩ <;> omega
    · have hfree : ∀ s ∈ fatalSignals, shutdownMask s = false := by decide
      have hunhandled : Unhandled s p := fun i t ht f hf => by
        rw [hp.calm i t ht] at hf
        exact absurd hf List.not_mem_nil
      refine (killed_once_handled hruns hp.nested halive hunhandled (hfree s hs) hd hk).imp_right ?_
      exact fun ⟨hfault, i, s', hmem⟩ => ⟨hfault, i, s', List.mem_append_right _ hmem⟩
  · obtain ⟨between, rfl⟩ := entry_since hp.quiet htrace
    have hentered : .entered i s ∈ between ++ .entered i s :: after := List.mem_append_right _ List.mem_cons_self
    exact ⟨entered_fatal hruns hp.disposition hentered,
      entered_never_resumes hruns hp.calm hfatal onFatalSignal_reraises hp.nested rfl⟩

end Results

/-! ## The exit status -/

/-- the starts that `main` calls -/
def inits (v : Invocation) : List (State → Ending Int × State) :=
  [initProxyServers v.liveLib (v.boot.phases .proxyServers), initProtocolServers v.liveLib (v.boot.phases .protocolServers),
    initApiGatewayServers v.liveLib (v.boot.phases .apiGatewayServers)]

/-- the servers after some of the starts, and requests in between -/
inductive Advanced (v : Invocation) : List (State → Ending Int × State) → State → Prop where
  | constructed {s : State} (h : v.singleton = .ret s) : Advanced v [] s
  | request {done : List (State → Ending Int × State)} {s : State} (h : Advanced v done s) (w : World) (r : Request)
      (hend : Ended (s.request v.liveLib w r).1) : Advanced v done (s.request v.liveLib w r).2
  | init {done : List (State → Ending Int × State)} {start : State → Ending Int × State} {s s' : State} {code : Int}
      (h : Advanced v done s) (hstart : start s = (.ret code, s')) (hcode : 0 ≤ code) : Advanced v (done ++ [start]) s'

/-- the arguments were accepted -/
def InOrder (v : Invocation) (done : List (State → Ending Int × State)) (s : Option State) : Prop :=
  v.arguments = [] ∧ ∃ t, s = some t ∧ Advanced v done t

/-- an argument was given, or one of the starts failed -/
def Failed (v : Invocation) : Prop :=
  v.arguments ≠ [] ∨ ∃ done start rest s s' code, inits v = done ++ start :: rest ∧ Advanced v done s ∧
    start s = (.ret code, s') ∧ code < 0

/-- the last event is the acceptance of a shutdown signal, which somebody sent -/
def Signalled (trace : Trace) : Prop :=
  ∃ s ∈ shutdownSignals, ∃ before, trace = before ++ [.accepted 0 s] ∧
    (.sent none s ∈ before ∨ .sent (some 0) s ∈ before)

/-- what is known when `main` is at a point -/
def Reached (v : Invocation) (trace : Trace) (s : Option State) : MainPoint → Prop
  | .construct => s = none
  | .parseArgs => ∃ t, s = some t ∧ Advanced v [] t
  | .sigmask => InOrder v [] s
  | .sigaction _ => InOrder v [] s
  | .initProxyServers => InOrder v [] s
  | .initProtocolServers => InOrder v ((inits v).take 1) s
  | .initApiGatewayServers => InOrder v ((inits v).take 2) s
  | .sigwait => InOrder v (inits v) s
  | .returned .success => InOrder v (inits v) s ∧ Signalled trace
  | .returned .failure => Failed v
  | .terminate => True
  | .aborting => True

/-- nobody handles the shutdown signals, and what is pending was sent or raised -/
structure Ledger (trace : Trace) (m : Machine) : Prop where
  accounted : Accounted trace m.process
  untouched : ∀ s ∈ shutdownSignals, m.process.disposition s = .default ∧ ∀ i, .entered i s ∉ trace
  calls : ∀ rest, m.main = .sigaction rest → ∀ call ∈ rest, call ∈ sigactions

section Exit

variable {v : Invocation} {m m' : Machine} {trace : Trace} {e : Event ThreadId Signal} {s s' : Option State}
  {point next : MainPoint}

theorem Ledger.moves {p : ServerProcess} (h : Ledger trace m) (hm : Moves platform m.process e p)
    (hcalls : ∀ rest, point = .sigaction rest → m.main = .sigaction rest) :
    Ledger (trace ++ [e]) ⟨p, point, s⟩ := by
  refine ⟨h.accounted.moves hm, fun sig hsig => ?_, fun rest hrest => h.calls rest (hcalls rest hrest)⟩
  obtain ⟨hdefault, hnever⟩ := h.untouched sig hsig
  refine ⟨?_, fun i hentered => ?_⟩
  · have hkept : p.disposition sig = m.process.disposition sig ∨ _ := moves_disposition hm
    rcases hkept with heq | ⟨-, hd, -⟩
    · exact heq.trans hdefault
    · cases hdefault.symm.trans hd
  · rcases List.mem_append.1 hentered with hbefore | hlast
    · exact hnever i hbefore
    · obtain ⟨-, -, -, reset, -, -, -, hd, -⟩ := moves_entered hm (List.mem_singleton.1 hlast).symm
      cases hdefault.symm.trans hd

theorem mainStep_sigaction {rest : List (Signal × Disposition)} (h : mainStep v m.main m.state = some (point, s)) :
    point ≠ .sigaction rest := by
  rintro rfl
  unfold mainStep at h
  split at h
  · split at h <;> cases h
  · split_ifs at h <;> cases h
  · exact afterInit_late id h trivial
  · exact afterInit_late id h trivial
  · exact afterInit_late id h trivial
  · cases h

theorem Ledger.step (h : Ledger trace m) (hs : Step v m e m') : Ledger (trace ++ [e]) m' := by
  have huntouched : ∀ i, ∀ sig ∈ shutdownSignals, m.process.disposition sig = .default ∧
      ∀ j, .entered j sig ∉ trace ++ [.ran i] := by
    intro i sig hsig
    obtain ⟨hdefault, hnever⟩ := h.untouched sig hsig
    refine ⟨hdefault, fun j hentered => ?_⟩
    rcases List.mem_append.1 hentered with hbefore | hlast
    · exact hnever j hbefore
    · cases List.mem_singleton.1 hlast
  cases hs with
  | signal hm => exact h.moves hm fun _ => id
  | create hm => exact h.moves hm fun _ => id
  | main hm hstep => exact h.moves hm fun _ hrest => absurd hrest (mainStep_sigaction hstep)
  | @sigmask t ht =>
    refine ⟨(h.accounted.later _).set ?_, huntouched 0, fun rest hrest call hcall => ?_⟩
    · have hthread := (h.accounted.threads 0 t ht.1).later (.ran 0)
      exact ⟨hthread.pending, hthread.frames⟩
    · cases hrest
      exact hcall
  | @sigaction t sig d calls ht hp =>
    refine ⟨⟨(h.accounted.later _).pending, (h.accounted.later _).threads⟩, fun s hs => ⟨?_, (huntouched 0 s hs).2⟩,
      fun rest hrest call hcall => ?_⟩
    · have hne : s ≠ sig := by
        rintro rfl
        have hcall := h.calls _ hp _ List.mem_cons_self
        have hnot : ∀ s ∈ shutdownSignals, ∀ call ∈ sigactions, call.1 ≠ s := by decide
        exact hnot s hs _ hcall rfl
      exact (Function.update_of_ne hne _ _).trans (h.untouched s hs).1
    · cases hrest
      exact h.calls _ hp call (List.mem_cons_of_mem _ hcall)
  | handlersSet => exact ⟨h.accounted.later _, huntouched 0, fun rest hrest => by cases hrest⟩
  | terminate => exact h.moves (.send (some 0) Signal.sigabrt) fun _ hrest => by cases hrest
  | sigwait hm => exact h.moves hm fun _ hrest => by cases hrest
  | serve hm => exact h.moves hm fun _ => id

theorem ledger (h : Execution v Invocation.initial trace m) : Ledger trace m := by
  induction h with
  | start =>
    refine ⟨⟨fun s hs => (by cases hs), fun i t ht => ?_⟩, fun s _ => ⟨rfl, fun i => List.not_mem_nil⟩,
      fun rest hrest => by cases hrest⟩
    by_cases hi : i = 0
    · subst hi
      obtain rfl := Option.some.inj ht
      exact ⟨fun s hs => (by cases hs), fun f hf => absurd hf List.not_mem_nil⟩
    · rw [show Invocation.initial.process.threads i = none from if_neg hi] at ht
      cases ht
  | step _ _ hs ih => exact ih.step hs

/-- **After a start**, `main` goes on, returns failure, or terminates. -/
theorem reached_afterInit {done rest : List (State → Ending Int × State)} {start : State → Ending Int × State} {t : State}
    (hinits : inits v = done ++ start :: rest) (hbefore : InOrder v done (some t))
    (hnext : ∀ s, InOrder v (done ++ [start]) s → Reached v trace s next)
    (h : afterInit next (start t) = some (point, s)) : Reached v trace s point := by
  obtain ⟨harguments, t', ht, hadvanced⟩ := hbefore
  obtain rfl := Option.some.inj ht
  rcases hr : start t with ⟨e, t'⟩
  rw [hr] at h
  cases e with
  | ret code =>
    simp only [afterInit] at h
    split_ifs at h with hcode <;> cases h
    · exact Or.inr ⟨done, start, rest, t, t', code, hinits, hadvanced, hr, hcode⟩
    · exact hnext _ ⟨harguments, t', rfl, hadvanced.init hr (not_lt.1 hcode)⟩
  | throws e =>
    cases h
    trivial
  | hangs => cases h
  | undefined => cases h

/-- `main` stays where it is -/
theorem Reached.same (h : Reached v trace s point) (hpoint : ∀ status, point ≠ .returned status)
    (hs : ∀ done, (∃ t, s = some t ∧ Advanced v done t) → ∃ t, s' = some t ∧ Advanced v done t) (hnone : s = none → s' = none)
    (trace' : Trace) : Reached v trace' s' point := by
  cases point with
  | construct => exact hnone h
  | parseArgs => exact hs _ h
  | sigmask => exact ⟨h.1, hs _ h.2⟩
  | sigaction => exact ⟨h.1, hs _ h.2⟩
  | initProxyServers => exact ⟨h.1, hs _ h.2⟩
  | initProtocolServers => exact ⟨h.1, hs _ h.2⟩
  | initApiGatewayServers => exact ⟨h.1, hs _ h.2⟩
  | sigwait => exact ⟨h.1, hs _ h.2⟩
  | terminate => trivial
  | aborting => trivial
  | returned status => exact absurd rfl (hpoint status)

theorem parseArgs_iff (programName : String) (arguments : List String) :
    (parseArgs programName arguments).1 = true ↔ arguments = [] := by
  cases arguments with
  | nil => simp [parseArgs]
  | cons arg rest =>
    simp only [parseArgs]
    split_ifs <;> simp

/-- **What a step of `main` comes to.** -/
theorem Reached.main (h : Reached v trace m.state m.main) (hs : mainStep v m.main m.state = some (point, s))
    (trace' : Trace) : Reached v trace' s point := by
  obtain ⟨process, p, state⟩ := m
  cases p with
  | construct =>
    simp only [mainStep] at hs
    cases hsingleton : v.singleton with
    | ret t =>
      rw [hsingleton] at hs
      cases hs
      exact ⟨t, rfl, .constructed hsingleton⟩
    | throws e =>
      rw [hsingleton] at hs
      cases hs
      trivial
    | hangs =>
      rw [hsingleton] at hs
      cases hs
    | undefined =>
      rw [hsingleton] at hs
      cases hs
  | parseArgs =>
    simp only [mainStep, parseArgs_iff] at hs
    split_ifs at hs with harguments <;> cases hs
    · exact ⟨harguments, h⟩
    · exact Or.inl harguments
  | initProxyServers =>
    obtain ⟨harguments, t, rfl, hadvanced⟩ := h
    have hinits : inits v = [] ++ _ :: _ := rfl
    exact reached_afterInit hinits ⟨harguments, t, rfl, hadvanced⟩ (fun _ => id) hs
  | initProtocolServers =>
    obtain ⟨harguments, t, rfl, hadvanced⟩ := h
    have hinits : inits v = (inits v).take 1 ++ _ :: _ := rfl
    exact reached_afterInit hinits ⟨harguments, t, rfl, hadvanced⟩ (fun _ => id) hs
  | initApiGatewayServers =>
    obtain ⟨harguments, t, rfl, hadvanced⟩ := h
    have hinits : inits v = (inits v).take 2 ++ _ :: _ := rfl
    exact reached_afterInit hinits ⟨harguments, t, rfl, hadvanced⟩ (fun _ => id) hs
  | sigmask => cases hs
  | sigaction => cases hs
  | sigwait => cases hs
  | terminate => cases hs
  | aborting => cases hs
  | returned => cases hs

theorem Reached.step (h : Reached v trace m.state m.main) (hledger : Ledger trace m) (hrunning : m.Running)
    (hs : Step v m e m') : Reached v (trace ++ [e]) m'.state m'.main := by
  cases hs with
  | signal => exact h.same hrunning.2 (fun _ => id) id _
  | create => exact h.same hrunning.2 (fun _ => id) id _
  | main _ hstep => exact h.main hstep _
  | sigmask _ hp =>
    rw [hp] at h
    exact h
  | sigaction _ hp =>
    rw [hp] at h
    exact h
  | handlersSet _ hp =>
    rw [hp] at h
    exact h
  | terminate => trivial
  | @sigwait sig p hm hp hsig =>
    rw [hp] at h
    refine ⟨h, sig, hsig, trace, rfl, ?_⟩
    obtain ⟨t, ht, hown | hshared⟩ := moves_accepted hm rfl
    · rcases (hledger.accounted.threads 0 t ht).pending sig hown with hsent | hentered
      · exact Or.inr hsent
      · exact absurd hentered ((hledger.untouched sig hsig).2 0)
    · exact Or.inl (hledger.accounted.pending sig hshared)
  | @serve i t _ _ hstate w r hend =>
    refine h.same hrunning.2 (fun done ⟨t', ht', hadvanced⟩ => ?_) (fun hnone => ?_) _
    · obtain rfl := Option.some.inj (hstate.symm.trans ht')
      exact ⟨_, rfl, hadvanced.request w r hend⟩
    · rw [hstate] at hnone
      cases hnone

theorem reached (h : Execution v Invocation.initial trace m) : Reached v trace m.state m.main := by
  induction h with
  | start => rfl
  | step hexec hrunning hs ih => exact ih.step (ledger hexec) hrunning hs

/-- **The exit status.** -/
theorem exit_status (h : Execution v Invocation.initial trace m) :
    (m.main = .returned .success → v.arguments = [] ∧ (∃ s, m.state = some s ∧ Advanced v (inits v) s) ∧
      Signalled trace) ∧
    (m.main = .returned .failure → Failed v) := by
  have hreached := reached h
  refine ⟨fun hp => ?_, fun hp => ?_⟩
  · rw [hp] at hreached
    obtain ⟨⟨harguments, hadvanced⟩, hsignalled⟩ := hreached
    exact ⟨harguments, hadvanced, hsignalled⟩
  · rw [hp] at hreached
    exact hreached

end Exit

/-! ## An undisturbed start -/

/-- `main` alone, and no signal pending -/
def alone (d : Signal → Disposition) (mask : Signal → Bool) (point : MainPoint) (s : Option State) : Machine where
  process := ⟨d, fun _ => false, fun i => if i = 0 then some ⟨mask, fun _ => false, []⟩ else none, none⟩
  main := point
  state := s

section Undisturbed

variable {v : Invocation} {d : Signal → Disposition} {mask : Signal → Bool} {point next : MainPoint} {s s' : Option State}

theorem alone_ready : (alone d mask point s).MainReady ⟨mask, fun _ => false, []⟩ :=
  ⟨rfl, fun _ hpending => (by cases hpending), rfl⟩

theorem alone_sole : Sole (alone d mask point s).process := fun _ hi => if_neg hi

theorem alone_main (hs : mainStep v point s = some (next, s')) :
    Execution v (alone d mask point s) [.ran 0] (alone d mask next s') := by
  have hready : (alone d mask point s).MainReady ⟨mask, fun _ => false, []⟩ := alone_ready
  refine Execution.start.step ⟨rfl, fun status hp => ?_⟩ (.main (.run hready.1 hready.2.1 hready.2.2) hs)
  obtain rfl : point = .returned status := hp
  cases hs

theorem alone_sigmask : Execution v (alone d mask .sigmask s) [.ran 0]
    (alone d (blockShutdown mask) (.sigaction sigactions) s) := by
  have hstep : Step v (alone d mask .sigmask s) _ _ := Step.sigmask alone_ready rfl
  have hthreads : ∀ t : Signals.Thread Signal HandlerPoint,
      Function.update (alone d mask .sigmask s).process.threads 0 (some t) = fun i => if i = 0 then some t else none := by
    intro t
    funext i
    by_cases hi : i = 0
    · subst hi
      exact Function.update_self ..
    · exact (Function.update_of_ne hi _ _).trans (by rw [if_neg hi]; exact if_neg hi)
  simp only [Process.setThread, hthreads] at hstep
  exact Execution.start.step ⟨rfl, fun _ h => by cases h⟩ hstep

/-- the calls of `sigaction` -/
theorem alone_sigactions (calls : List (Signal × Disposition)) : ∃ trace,
    Execution v (alone d mask (.sigaction calls) s) trace
      (alone (calls.foldl (fun d call => Function.update d call.1 call.2) d) mask .initProxyServers s) := by
  induction calls generalizing d with
  | nil => exact ⟨_, Execution.start.step ⟨rfl, fun _ h => by cases h⟩ (.handlersSet alone_ready rfl)⟩
  | cons call calls ih =>
    obtain ⟨trace, hrest⟩ := ih (d := Function.update d call.1 call.2)
    exact ⟨_, (Execution.start.step ⟨rfl, fun _ h => by cases h⟩ (.sigaction alone_ready rfl)).trans hrest⟩

/-- about to set up its handlers -/
def unset (s : State) : Machine := alone (fun _ => .default) (fun _ => false) .sigmask (some s)

/-- waiting for a shutdown signal -/
def waiting (s : State) : Machine := alone (installed sigactions) (blockShutdown fun _ => false) .sigwait (some s)

theorem afterInit_succeeded {r : Ending Int × State} {t : State} (h : succeeded r = some t) :
    afterInit next r = some (next, some t) := by
  obtain ⟨code, rfl, hcode⟩ := succeeded_eq h
  simp only [afterInit, if_neg (not_lt.2 hcode)]

theorem boot_some {t : State} (h : (boot v.lib v.readFile v.boot v.files).1 = some t) :
    ∃ s₀, v.singleton = .ret s₀ ∧ initServers v.liveLib v.boot.phases s₀ = some t := by
  unfold boot at h
  simp only at h
  split at h
  · rename_i s₀ hsingleton
    exact ⟨s₀, hsingleton, h⟩
  · cases h

/-- **Without a signal, the program comes up** as `boot` says. -/
theorem comes_up {t : State} (harguments : v.arguments = []) (h : (boot v.lib v.readFile v.boot v.files).1 = some t) :
    ∃ s₀ before after, Execution v Invocation.initial before (unset s₀) ∧ Execution v (unset s₀) after (waiting t) := by
  obtain ⟨s₀, hsingleton, h⟩ := boot_some h
  obtain ⟨s₁, hproxy, h⟩ := Option.bind_eq_some_iff.1 h
  obtain ⟨s₂, hprotocol, hgateway⟩ := Option.bind_eq_some_iff.1 h
  have hconstruct : mainStep v .construct none = some (.parseArgs, some s₀) := by
    simp only [mainStep, hsingleton]
  have hparse : mainStep v .parseArgs (some s₀) = some (.sigmask, some s₀) := by
    simp only [mainStep, (parseArgs_iff v.programName v.arguments).2 harguments, if_true]
  have hproxyStep : mainStep v .initProxyServers (some s₀) = some (.initProtocolServers, some s₁) :=
    afterInit_succeeded hproxy
  have hprotocolStep : mainStep v .initProtocolServers (some s₁) = some (.initApiGatewayServers, some s₂) :=
    afterInit_succeeded hprotocol
  have hgatewayStep : mainStep v .initApiGatewayServers (some s₂) = some (.sigwait, some t) :=
    afterInit_succeeded hgateway
  obtain ⟨calls, hcalls⟩ := alone_sigactions sigactions
  have hbefore : Execution v Invocation.initial _ (unset s₀) := (alone_main hconstruct).trans (alone_main hparse)
  have hstarts : Execution v _ _ (waiting t) :=
    (alone_main hproxyStep).trans ((alone_main hprotocolStep).trans (alone_main hgatewayStep))
  exact ⟨s₀, _, _, hbefore, alone_sigmask.trans (hcalls.trans hstarts)⟩

end Undisturbed

/-! ## Fixed executions -/

/-- a start without arguments -/
def plainInvocation : Invocation :=
  ⟨Restarts.restartLib, Restarts.readRestartFile, Restarts.bootFromFile, Restarts.restartFiles, "asabru", []⟩

theorem plain_waits : ∃ m₀ before after, AtSetup plainInvocation m₀ ∧
    Execution plainInvocation Invocation.initial before m₀ ∧
    Execution plainInvocation m₀ after (waiting Restarts.bootedProcess) := by
  obtain ⟨s₀, before, after, hbefore, hafter⟩ := comes_up (v := plainInvocation) rfl
    (congrArg Prod.fst Restarts.bootFromFile_starts)
  exact ⟨_, before, after, ⟨⟨before, hbefore⟩, rfl, alone_sole⟩, hbefore, hafter⟩

/-- SIGTERM is sent to it -/
def terminating : Machine where
  process := (waiting Restarts.bootedProcess).process.send none .sigterm
  main := .sigwait
  state := some Restarts.bootedProcess

theorem terminating_sent :
    Execution plainInvocation (waiting Restarts.bootedProcess) [.sent none .sigterm] terminating :=
  Execution.start.step ⟨rfl, fun _ h => by cases h⟩ (.signal (.send none Signal.sigterm) fun _ => id)

theorem terminating_ready : terminating.MainReady ⟨blockShutdown fun _ => false, fun _ => false, []⟩ :=
  ⟨rfl, fun _ hpending => (by cases hpending), rfl⟩

/-- **Witness.** A SIGTERM after the start is pending, and `sigwait` accepts it. -/
theorem shutdown_after_start : ∃ m₀, AtSetup plainInvocation m₀ ∧ terminating.process.killed ≠ some .sigterm ∧
    terminating.process.pending .sigterm = true ∧
    Step plainInvocation terminating (.accepted 0 .sigterm)
      { terminating with
        process := terminating.process.accept 0 ⟨blockShutdown fun _ => false, fun _ => false, []⟩ .sigterm
        main := .returned .success } := by
  obtain ⟨m₀, before, after, h₀, -, hafter⟩ := plain_waits
  obtain ⟨hkilled, hsignals⟩ := shutdown_signals h₀ hafter id terminating_sent
  obtain ⟨hkept, haccepts⟩ := hsignals .sigterm (by decide)
  have hpending : terminating.process.pending .sigterm = true :=
    (hkept (List.mem_singleton_self _)).resolve_right fun h => by cases h
  exact ⟨m₀, h₀, fun hk => (hkilled _ hk).1 (by decide), hpending, haccepts _ hpending terminating_ready rfl⟩

/-- **Witness.** The exit after it. -/
theorem exit_after_sigterm : ∃ trace m, Execution plainInvocation Invocation.initial trace m ∧
    m.main = .returned .success ∧ Signalled trace := by
  obtain ⟨m₀, before, after, -, hbefore, hafter⟩ := plain_waits
  have hmove : Moves platform terminating.process (.accepted 0 .sigterm) _ :=
    .accept terminating_ready.1 terminating_ready.2.1 terminating_ready.2.2 (Or.inr rfl) rfl
  have hexit := ((hbefore.trans hafter).trans terminating_sent).step ⟨rfl, fun _ h => by cases h⟩
    (.sigwait hmove rfl (by decide))
  exact ⟨_, _, hexit, rfl, ((exit_status hexit).1 rfl).2.2⟩

/-- a SIGSEGV is sent to the process, and handled -/
def crash : Trace :=
  [.sent none .sigsegv, .entered 0 .sigsegv, .handled 0, .handled 0, .handled 0, .handled 0, .handled 0, .killed 0 .sigsegv]

theorem crash_execution : ∃ m, Execution plainInvocation (waiting Restarts.bootedProcess) crash m ∧
    m.process.killed = some .sigsegv ∧ m.main = .sigwait := by
  have hsent : Execution plainInvocation (waiting Restarts.bootedProcess) [.sent none .sigsegv] _ :=
    Execution.start.step ⟨rfl, fun _ h => by cases h⟩ (.signal (.send none Signal.sigsegv) fun _ => id)
  have hentered := hsent.step ⟨rfl, fun _ h => by cases h⟩
    (.signal (Moves.take (i := 0) (s := Signal.sigsegv) rfl rfl (Comes.shared rfl)) fun _ => id)
  -- three statements that only write
  have hprefix := hentered.step ⟨rfl, fun _ h => by cases h⟩
    (.signal (Moves.handle (i := 0) rfl (fun _ h => by cases h) rfl) fun _ => id)
  have hnumber := hprefix.step ⟨rfl, fun _ h => by cases h⟩
    (.signal (Moves.handle (i := 0) rfl (fun _ h => by cases h) rfl) fun _ => id)
  have hframes := hnumber.step ⟨rfl, fun _ h => by cases h⟩
    (.signal (Moves.handle (i := 0) rfl (fun _ h => by cases h) rfl) fun _ => id)
  have hraised := hframes.step ⟨rfl, fun _ h => by cases h⟩
    (.signal (Moves.handle (i := 0) rfl (fun _ h => by cases h) rfl) fun _ => id)
  have hfinished := hraised.step ⟨rfl, fun _ h => by cases h⟩
    (.signal (Moves.handle (i := 0) rfl (fun s h => (by
      rcases of_update_true h with rfl | hnone
      · rfl
      · cases hnone)) rfl) fun _ => id)
  have hkilled := hfinished.step ⟨rfl, fun _ h => by cases h⟩
    (.signal (Moves.take (i := 0) (s := Signal.sigsegv) rfl rfl (Comes.own rfl)) fun _ => id)
  exact ⟨_, hkilled, rfl, rfl⟩

/-- **Witness.** The handler is entered once before that kills, and thread 0 does nothing of its own after the entry. -/
theorem crash_after_start : ∃ m₀ pre m, AtSetup plainInvocation m₀ ∧ Execution plainInvocation m₀ (pre ++ crash) m ∧
    m.process.killed = some .sigsegv ∧ (pre ++ crash).countP (Event.enters .sigsegv) = 1 ∧
    ∀ e ∈ crash.drop 2, ¬ e.MadeBy 0 := by
  obtain ⟨m₀, before, after, h₀, -, hafter⟩ := plain_waits
  obtain ⟨m, hcrash, hkilled, hpoint⟩ := crash_execution
  have hlate : ¬ m.main.Early := by
    rw [hpoint]
    exact id
  have hall := hafter.trans hcrash
  obtain ⟨hcounts, hresumes⟩ := fatal_signals h₀ hall hlate
  obtain ⟨hatmost, hkills⟩ := hcounts .sigsegv (by decide)
  have hsplit : after ++ crash = (after ++ [.sent none .sigsegv]) ++ .entered 0 .sigsegv :: crash.drop 2 := by
    rw [List.append_assoc]
    rfl
  refine ⟨m₀, after, m, h₀, hall, hkilled, ?_, (hresumes 0 .sigsegv _ _ hsplit).2⟩
  rcases hkills hkilled with hone | -
  · exact hone
  · have hentered : 0 < (after ++ crash).countP (Event.enters .sigsegv) :=
      List.countP_pos_iff.2 ⟨.entered 0 .sigsegv, List.mem_append_right _ (by decide), rfl⟩
    omega

/-- **Witness.** A stack overflow of thread 0 kills without an entry: the first part of `fatal_signals` needs its second
case. -/
theorem overflow_kills : ∃ m, Execution plainInvocation (waiting Restarts.bootedProcess) [.unframed 0 .sigsegv] m ∧
    m.process.killed = some .sigsegv := by
  have hready : (waiting Restarts.bootedProcess).MainReady _ := alone_ready
  have hcomes : Comes platform (waiting Restarts.bootedProcess).process _ .sigsegv _ _ :=
    .fault hready.2.1 rfl (by decide)
  exact ⟨_, Execution.start.step ⟨rfl, fun _ h => by cases h⟩
    (.signal (.unframed hready.1 rfl hcomes (installed_fatalSignals .sigsegv (by decide))) fun _ => id), rfl⟩

end Asabru.Shutdown
