/-
main.cpp: the command line, the signal handlers and the life of the process.

`main` runs in thread 0, after the singleton was constructed. It blocks SIGTERM and SIGINT, ignores SIGPIPE, installs
`onFatalSignal` for five signals, starts the servers and then waits in `sigwait`. Meanwhile the threads that the servers
started handle requests. An exception that leaves the constructor or a start calls `std::terminate`, and so `abort`.

A machine is the process with its signals, the point `main` is at and the servers' state. Between two of its steps other
threads may run and signals may come. A call that hangs or has undefined behaviour makes no step.

`onFatalSignal` is installed without SA_ONSTACK, and nothing gives a thread an alternate stack. So a fault enters it as long
as its frame fits on the stack of the thread; where it does not, as after an overflow of that stack, SIGSEGV kills.

Premises: the process is started with the default dispositions and no signal blocked; `parseArgs` and
`setupSignalHandlers` start no thread; the constructor, each of the three starts and each request is one step; the threads
that the starts create, which asabru-engine and libuv run, change no mask and no disposition.

Results:
- `signalText_eq`: the number that `onFatalSignal` writes, digit by digit into its buffer, is its last seven digits;
- `step_moves`: but for the calls of `setupSignalHandlers`, every step is one of a process whose masks and dispositions
  only handlers change (`Execution.runs`).
-/
import Mathlib.Tactic
import Mathlib.Data.List.DropRight
import Asabru.Core.Signals
import Asabru.Server.Bootstrap

namespace Asabru.Server

open Asabru.Control Asabru.Config Asabru.Xml Asabru.Signals

/-! ## Signals -/

inductive Signal where
  | sigterm
  | sigint
  | sigpipe
  | sigsegv
  | sigbus
  | sigfpe
  | sigill
  | sigabrt
  /-- any other one, and whether its default action ends the process -/
  | other (number : ℕ) (terminates : Bool)
deriving DecidableEq, Repr

def Signal.terminates : Signal → Bool
  | .other _ terminates => terminates
  | _ => true

/-- an instruction can cause the signal -/
def Signal.synchronous : Signal → Bool
  | .sigsegv => true
  | .sigbus => true
  | .sigfpe => true
  | .sigill => true
  | _ => false

/-- where a thread is in `onFatalSignal` -/
inductive HandlerPoint where
  | writePrefix
  | writeNumber
  | writeFrames
  | raise
  | finished
deriving DecidableEq, Repr

def onFatalSignal : HandlerPoint → Statement HandlerPoint
  | .writePrefix => .next .writeNumber
  | .writeNumber => .next .writeFrames
  | .writeFrames => .next .raise
  | .raise => .raise .finished
  | .finished => .finish

def platform : Platform Signal HandlerPoint where
  terminates := Signal.terminates
  synchronous := Signal.synchronous
  frameFault := .sigsegv
  frameFault_synchronous := rfl
  entry := .writePrefix
  statement := onFatalSignal

/-- `blockSet` and `waitSet` -/
def shutdownSignals : List Signal := [.sigterm, .sigint]

def fatalSignals : List Signal := [.sigsegv, .sigbus, .sigfpe, .sigill, .sigabrt]

/-- the calls of `sigaction`: SIG_IGN, and `onFatalSignal` with SA_RESETHAND -/
def sigactions : List (Signal × Disposition) :=
  (.sigpipe, .ignore) :: fatalSignals.map fun s => (s, .handler true)

/-! ## The number of a signal -/

/-- `'0' + (n % 10)` -/
def digitOf (n : Int) : Char := Char.ofNat (48 + n.tmod 10).toNat

/-- the loop over `sigBuf`: the cells that are left, the rest of the number and what is written behind them -/
def digitLoop : ℕ → Int → List Char → List Char
  | 0, _, written => written
  | pos + 1, n, written =>
    let written := digitOf n :: written
    if 0 < n.tdiv 10 then digitLoop pos (n.tdiv 10) written else written

/-- of the eight cells the last one holds the newline -/
def signalText (sig : Int) : String := String.ofList (digitLoop 7 sig ['\n'])

theorem digitOf_natCast (n : ℕ) : digitOf n = Nat.digitChar (n % 10) := by
  have hdigit : ∀ d < 10, Char.ofNat (48 + d) = Nat.digitChar d := by decide
  have hmod : ((n : Int).tmod 10) = ((n % 10 : ℕ) : Int) := rfl
  unfold digitOf
  rw [hmod, ← hdigit (n % 10) (Nat.mod_lt n (by omega))]
  congr 1

/-- the loop fills the cells from the end with the last digits -/
theorem digitLoop_eq (pos n : ℕ) (written : List Char) :
    digitLoop pos n written = (Nat.toDigits 10 n).rtake pos ++ written := by
  induction pos generalizing n written with
  | zero => simp [digitLoop]
  | succ pos ih =>
    have hdiv : (n : Int).tdiv 10 = ((n / 10 : ℕ) : Int) := rfl
    simp only [digitLoop, hdiv, digitOf_natCast]
    by_cases hn : n < 10
    · rw [if_neg (by omega), Nat.toDigits_of_lt_base hn, Nat.mod_eq_of_lt hn]
      have hlast := List.rtake_concat_succ [] pos n.digitChar
      rw [List.nil_append, List.rtake_nil] at hlast
      rw [hlast]
      rfl
    · rw [if_pos (by omega), ih, Nat.toDigits_of_base_le (n := n) (by omega) (by omega), List.rtake_concat_succ,
        List.append_assoc]
      rfl

/-- it never leaves the buffer -/
theorem digitLoop_length (pos : ℕ) (n : Int) (written : List Char) :
    (digitLoop pos n written).length ≤ pos + written.length := by
  induction pos generalizing n written with
  | zero => simp [digitLoop]
  | succ pos ih =>
    simp only [digitLoop]
    split_ifs
    · have hrest := ih (n.tdiv 10) (digitOf n :: written)
      rw [List.length_cons] at hrest
      omega
    · rw [List.length_cons]
      omega

/-- **The number of a signal** is written by its last seven digits, in at most eight cells. -/
theorem signalText_eq (sig : ℕ) :
    signalText sig = String.ofList ((Nat.toDigits 10 sig).rtake 7 ++ ['\n']) ∧ (signalText sig).length ≤ 8 := by
  refine ⟨congrArg String.ofList (digitLoop_eq 7 sig ['\n']), ?_⟩
  unfold signalText
  rw [String.length_ofList]
  exact digitLoop_length 7 sig ['\n']

/-! ## The command line -/

inductive ExitStatus where
  | success
  | failure
deriving DecidableEq, Repr

def usage (programName : String) : String :=
  "Usage: " ++ programName ++ " [options]\n  (all configuration is via config.xml)\n  --help  Show this message\n"

/-- the result, and what is written: the first argument decides -/
def parseArgs (programName : String) : List String → Bool × String
  | [] => (true, "")
  | arg :: _ =>
    if arg = "--help" ∨ arg = "-h" then (false, usage programName)
    else (false, "Unknown argument: " ++ arg ++ "\n" ++ usage programName)

/-! ## The program -/

/-- what is given to one execution of the program -/
structure Invocation where
  lib : Lib
  readFile : FileContent → Except XMLFailure XMLDocument
  boot : BootWorld
  files : Files
  programName : String
  arguments : List String

def Invocation.singleton (v : Invocation) : Ending State := (constructSingleton v.lib v.readFile v.boot v.files).1

/-- with the files as the constructor left them -/
def Invocation.liveLib (v : Invocation) : Lib :=
  v.lib.onFiles v.readFile (constructSingleton v.lib v.readFile v.boot v.files).2

/-- what thread 0 does next -/
inductive MainPoint where
  | construct
  | parseArgs
  | sigmask
  | sigaction (calls : List (Signal × Disposition))
  | initProxyServers
  | initProtocolServers
  | initApiGatewayServers
  | sigwait
  /-- `std::terminate` -/
  | terminate
  | aborting
  | returned (status : ExitStatus)
deriving DecidableEq, Repr

/-- servers, or a constructor, that may start threads -/
def MainPoint.Starts : MainPoint → Prop
  | .construct => True
  | .initProxyServers => True
  | .initProtocolServers => True
  | .initApiGatewayServers => True
  | _ => False

/-- the test of `main` after a start -/
def afterInit (next : MainPoint) (r : Ending Int × State) : Option (MainPoint × Option State) :=
  match r with
  | (.ret code, s) => some (if code < 0 then .returned .failure else next, some s)
  | (.throws _, s) => some (.terminate, some s)
  | _ => none

/-- a statement of `main` that is about the servers -/
def mainStep (v : Invocation) : MainPoint → Option State → Option (MainPoint × Option State)
  | .construct, _ =>
    match v.singleton with
    | .ret s => some (.parseArgs, some s)
    | .throws _ => some (.terminate, none)
    | _ => none
  | .parseArgs, s => some (if (Server.parseArgs v.programName v.arguments).1 then .sigmask else .returned .failure, s)
  | .initProxyServers, some s =>
    afterInit .initProtocolServers (Server.initProxyServers v.liveLib (v.boot.phases .proxyServers) s)
  | .initProtocolServers, some s =>
    afterInit .initApiGatewayServers (Server.initProtocolServers v.liveLib (v.boot.phases .protocolServers) s)
  | .initApiGatewayServers, some s =>
    afterInit .sigwait (Server.initApiGatewayServers v.liveLib (v.boot.phases .apiGatewayServers) s)
  | _, _ => none

/-! ## Executions -/

abbrev ThreadId := ℕ

structure Machine where
  process : Process ThreadId Signal HandlerPoint
  main : MainPoint
  state : Option State

def Invocation.initial : Machine where
  process := ⟨fun _ => .default, fun _ => false, fun i => if i = 0 then some ⟨fun _ => false, fun _ => false, []⟩ else none,
    none⟩
  main := .construct
  state := none

/-- the process has ended by a signal or by the return of `main` -/
def Machine.Running (m : Machine) : Prop := m.process.killed = none ∧ ∀ status, m.main ≠ .returned status

/-- thread 0 is at its next statement -/
def Machine.MainReady (m : Machine) (t : Signals.Thread Signal HandlerPoint) : Prop :=
  m.process.threads 0 = some t ∧ t.Ready ∧ t.frames = []

/-- the shutdown signals are blocked -/
def blockShutdown (mask : Signal → Bool) : Signal → Bool := fun s => decide (s ∈ shutdownSignals) || mask s

inductive Step (v : Invocation) (m : Machine) : Event ThreadId Signal → Machine → Prop where
  /-- a signal is sent or taken, or a handler goes on -/
  | signal {e : Event ThreadId Signal} {p : Process ThreadId Signal HandlerPoint} (hm : Moves platform m.process e p)
      (he : ∀ i, ¬ e.MadeBy i) : Step v m e { m with process := p }
  | create {i j : ThreadId} {p : Process ThreadId Signal HandlerPoint}
      (hm : Moves platform m.process (.created i j) p) (hi : i = 0 → m.main.Starts) :
      Step v m (.created i j) { m with process := p }
  | main {point : MainPoint} {s : Option State} (hm : Moves platform m.process (.ran 0) m.process)
      (hs : mainStep v m.main m.state = some (point, s)) : Step v m (.ran 0) { m with main := point, state := s }
  | sigmask {t : Signals.Thread Signal HandlerPoint} (ht : m.MainReady t) (hp : m.main = .sigmask) :
      Step v m (.ran 0) { m with
        process := m.process.setThread 0 { t with mask := blockShutdown t.mask }, main := .sigaction sigactions }
  | sigaction {t : Signals.Thread Signal HandlerPoint} {s : Signal} {d : Disposition} {calls : List (Signal × Disposition)}
      (ht : m.MainReady t) (hp : m.main = .sigaction ((s, d) :: calls)) :
      Step v m (.ran 0) { m with
        process := { m.process with disposition := Function.update m.process.disposition s d }
        main := .sigaction calls }
  | handlersSet {t : Signals.Thread Signal HandlerPoint} (ht : m.MainReady t) (hp : m.main = .sigaction []) :
      Step v m (.ran 0) { m with main := .initProxyServers }
  /-- `abort` sends SIGABRT to the thread -/
  | terminate {t : Signals.Thread Signal HandlerPoint} (ht : m.MainReady t) (hp : m.main = .terminate) :
      Step v m (.sent (some 0) .sigabrt) { m with process := m.process.send (some 0) .sigabrt, main := .aborting }
  | sigwait {s : Signal} {p : Process ThreadId Signal HandlerPoint} (hm : Moves platform m.process (.accepted 0 s) p)
      (hp : m.main = .sigwait) (hs : s ∈ shutdownSignals) :
      Step v m (.accepted 0 s) { m with process := p, main := .returned .success }
  /-- another thread handles a request -/
  | serve {i : ThreadId} {s : State} (hm : Moves platform m.process (.ran i) m.process) (hi : i ≠ 0)
      (hstate : m.state = some s) (w : World) (r : Request) (hend : Ended (s.request v.liveLib w r).1) :
      Step v m (.ran i) { m with state := some (s.request v.liveLib w r).2 }

inductive Execution (v : Invocation) (m₀ : Machine) : List (Event ThreadId Signal) → Machine → Prop where
  | start : Execution v m₀ [] m₀
  | step {trace : List (Event ThreadId Signal)} {m m' : Machine} {e : Event ThreadId Signal}
      (h : Execution v m₀ trace m) (hrunning : m.Running) (hs : Step v m e m') : Execution v m₀ (trace ++ [e]) m'

/-! ## What the steps are -/

section Steps

variable {v : Invocation} {m m₀ m' : Machine} {e : Event ThreadId Signal} {trace : List (Event ThreadId Signal)}

/-- `main` has not yet set up its signal handlers -/
def MainPoint.Early : MainPoint → Prop
  | .construct => True
  | .parseArgs => True
  | .sigmask => True
  | .sigaction _ => True
  | _ => False

theorem afterInit_late {next point : MainPoint} {r : Ending Int × State} {s : Option State} (hnext : ¬ next.Early)
    (h : afterInit next r = some (point, s)) : ¬ point.Early := by
  unfold afterInit at h
  split at h
  · split_ifs at h
    · cases h
      exact id
    · cases h
      exact hnext
  · cases h
    exact id
  · cases h

/-- **Later, every step is a move** of the process, and stays later. -/
theorem step_moves (h : Step v m e m') (hlate : ¬ m.main.Early) :
    Moves platform m.process e m'.process ∧ ¬ m'.main.Early := by
  have early : ∀ {point : MainPoint}, m.main = point → point.Early → False := by
    intro point hp hearly
    rw [hp] at hlate
    exact hlate hearly
  cases h with
  | signal hm => exact ⟨hm, hlate⟩
  | create hm => exact ⟨hm, hlate⟩
  | @main point s hm hs =>
    refine ⟨hm, ?_⟩
    unfold mainStep at hs
    split at hs
    · rename_i hp
      exact (early hp trivial).elim
    · rename_i hp
      exact (early hp trivial).elim
    · exact afterInit_late id hs
    · exact afterInit_late id hs
    · exact afterInit_late id hs
    · cases hs
  | sigmask ht hp => exact (early hp trivial).elim
  | sigaction ht hp => exact (early hp trivial).elim
  | handlersSet ht hp => exact (early hp trivial).elim
  | terminate => exact ⟨Moves.send (some 0) Signal.sigabrt, id⟩
  | sigwait hm => exact ⟨hm, id⟩
  | serve hm => exact ⟨hm, hlate⟩

theorem Execution.trans {pre : List (Event ThreadId Signal)} {m₁ : Machine} (h₁ : Execution v m₀ pre m₁)
    (h₂ : Execution v m₁ trace m) : Execution v m₀ (pre ++ trace) m := by
  induction h₂ with
  | start => simpa using h₁
  | step _ hrunning hs ih =>
    rw [← List.append_assoc]
    exact ih.step hrunning hs

/-- **From there, an execution is a run** of the process. -/
theorem Execution.runs (h : Execution v m₀ trace m) (hlate : ¬ m₀.main.Early) :
    Runs platform m₀.process trace m.process ∧ ¬ m.main.Early := by
  induction h with
  | start => exact ⟨.start, hlate⟩
  | step _ hrunning hs ih =>
    obtain ⟨hruns, hstill⟩ := ih
    obtain ⟨hmove, hafter⟩ := step_moves hs hstill
    exact ⟨hruns.step hrunning.1 hmove, hafter⟩

end Steps

end Asabru.Server
