/-
Requests to the management API: the closure of a route, its commands, and the callbacks that the commands call.

A command finds `updateConfiguration` and `updateEndPointService` in its context. It calls them as often as it likes, uses
their replies as it likes, and gets an exception that leaves them. At the state in which a request is made such commands
are an `Engine` of `routeClosure` (`Commands.engine`): what one does follows from what was dispatched before it.

Requests are handled one after the other; a call that hangs or has undefined behaviour ends its command.

Taken from outside, as parameters: the commands and what `Engine` takes.

Results:
- `Command.run_run`: a command that ends takes a run of the process on by its calls;
- `effects_run`: so do the commands of a request, together;
- `effects_call`: every call is one of a command that was dispatched.
-/
import Mathlib.Tactic
import Asabru.Server.Process
import Asabru.Server.RouteHandler

namespace Asabru.Server

open Asabru.Control Asabru.Config

/-! ## Commands -/

/-- a command that was dispatched -/
inductive Command where
  /-- with what is then in its context -/
  | ends (ending : Ending Unit) (context : Context)
  /-- one of the callbacks, and what the command does with its end -/
  | calls (w : World) (r : Request) (resume : Except Exn Reply → Command)

/-- what a command did -/
structure Ran where
  ending : Ending Unit
  context : Context
  callbacks : List Exchange
  state : State

def Ran.behind (x : Exchange) (r : Ran) : Ran := { r with callbacks := x :: r.callbacks }

def Command.run (lib : Lib) (before : Context) : Command → State → Ran
  | .ends ending context, s => ⟨ending, context, [], s⟩
  | .calls w r resume, s =>
    let x := s.exchange lib w r
    match x.ending with
    | .ret reply => ((resume (.ok reply)).run lib before x.after).behind x
    | .throws e => ((resume (.error e)).run lib before x.after).behind x
    | .hangs => ⟨.hangs, before, [x], x.after⟩
    | .undefined => ⟨.undefined, before, [x], x.after⟩

structure Commands where
  keys : ContextKeys
  absentKey : Option Exn
  /-- given what was dispatched before in the request -/
  command : List Dispatched → String → Context → Command

/-! ## The commands of a request -/

/-- what the commands did that were dispatched so far -/
structure Effects where
  earlier : List Dispatched
  calls : List (Site × Exchange)
  state : State

def Effects.next (c : Commands) (lib : Lib) (f : Effects) (d : Dispatched) : Effects :=
  let ran := (c.command f.earlier d.command d.before).run lib d.before f.state
  ⟨f.earlier ++ [d], f.calls ++ ran.callbacks.map fun x => (d.site, x), ran.state⟩

def Commands.effects (c : Commands) (lib : Lib) (s : State) (dispatched : List Dispatched) : Effects :=
  dispatched.foldl (Effects.next c lib) ⟨[], [], s⟩

/-- the commands, in a request that is made at the state -/
def Commands.engine (c : Commands) (lib : Lib) (s : State) : Engine where
  keys := c.keys
  absentKey := c.absentKey
  dispatch earlier command context :=
    let ran := (c.command earlier command context).run lib context (c.effects lib s earlier).state
    (ran.ending, ran.context)

/-- a request to a registered route -/
structure Handled where
  route : RegisteredRoute
  commands : Commands
  request : ℕ
  before : State

def Handled.outcome (lib : Lib) (x : Handled) : Ending HttpResponse × Handling :=
  routeClosure (x.commands.engine lib x.before) x.route.route x.route.cfg x.request

def Handled.effects (lib : Lib) (x : Handled) : Effects :=
  x.commands.effects lib x.before (x.outcome lib).2.dispatched

/-- the callbacks that were called -/
def Handled.exchanges (lib : Lib) (x : Handled) : List Exchange := (x.effects lib).calls.map Prod.snd

/-- runs of requests to the routes of a process -/
inductive HttpRun (lib : Lib) (s₀ : State) : List Handled → State → Prop where
  | start : HttpRun lib s₀ [] s₀
  | request {trace : List Handled} {s : State} (h : HttpRun lib s₀ trace s) (x : Handled) (hbefore : x.before = s)
      (hroute : x.route ∈ s.routes) (hend : Ended (x.outcome lib).1) :
      HttpRun lib s₀ (trace ++ [x]) (x.effects lib).state

/-! ## What commands do to the state -/

section Commands

variable {lib : Lib} {c : Commands} {s s₀ : State} {trace : List Exchange} {dispatched : List Dispatched}

@[simp] theorem effects_nil : c.effects lib s [] = ⟨[], [], s⟩ := rfl

theorem effects_concat (d : Dispatched) :
    c.effects lib s (dispatched ++ [d]) = (c.effects lib s dispatched).next c lib d := by
  simp only [Commands.effects, List.foldl_append, List.foldl_cons, List.foldl_nil]

theorem effects_earlier : (c.effects lib s dispatched).earlier = dispatched := by
  induction dispatched using List.reverseRecOn with
  | nil => rfl
  | append_singleton dispatched d ih => rw [effects_concat, Effects.next, ih]

/-- **A command that ends** takes a run on by its calls. -/
theorem Command.run_run {before : Context} (k : Command) (h : Run lib s₀ trace s)
    (hend : Ended (k.run lib before s).ending) :
    Run lib s₀ (trace ++ (k.run lib before s).callbacks) (k.run lib before s).state := by
  induction k generalizing trace s with
  | ends ending context => simpa [Command.run] using h
  | calls w r resume ih =>
    -- the command goes on behind the call
    have behind : ∀ result : Except Exn Reply, Ended (s.exchange lib w r).ending →
        Ended ((resume result).run lib before (s.exchange lib w r).after).ending →
        Run lib s₀ (trace ++ s.exchange lib w r :: ((resume result).run lib before (s.exchange lib w r).after).callbacks)
          ((resume result).run lib before (s.exchange lib w r).after).state := by
      intro result hcall hrest
      have hnext := ih result (h.request w r hcall) hrest
      rwa [List.append_assoc, List.singleton_append] at hnext
    unfold Command.run at hend ⊢
    cases hx : (s.exchange lib w r).ending with
    | ret reply =>
      simp only [hx] at hend ⊢
      exact behind (.ok reply) (Or.inl ⟨reply, hx⟩) hend
    | throws e =>
      simp only [hx] at hend ⊢
      exact behind (.error e) (Or.inr ⟨e, hx⟩) hend
    | hangs =>
      simp only [hx] at hend
      rcases hend with ⟨_, h⟩ | ⟨_, h⟩ <;> cases h
    | undefined =>
      simp only [hx] at hend
      rcases hend with ⟨_, h⟩ | ⟨_, h⟩ <;> cases h

/-- what was dispatched is what the engine makes of it -/
def Recorded (e : Engine) (dispatched : List Dispatched) : Prop :=
  ∀ pre d post, dispatched = pre ++ d :: post → (d.ending, d.after) = e.dispatch pre d.command d.before

theorem recorded_nil {e : Engine} : Recorded e [] := fun pre _ _ heq =>
  absurd heq.symm (List.append_ne_nil_of_right_ne_nil pre (List.cons_ne_nil _ _))

theorem recorded_concat {e : Engine} {d : Dispatched} (h : Recorded e dispatched)
    (hd : (d.ending, d.after) = e.dispatch dispatched d.command d.before) : Recorded e (dispatched ++ [d]) := by
  intro pre x post heq
  rcases List.eq_nil_or_concat post with rfl | ⟨post, y, rfl⟩
  · obtain ⟨rfl, hlast⟩ := List.append_inj' heq rfl
    obtain rfl := List.singleton_inj.1 hlast
    exact hd
  · rw [List.concat_eq_append, ← List.cons_append, ← List.append_assoc] at heq
    exact h pre x post (List.append_inj' heq rfl).1

theorem Recorded.initial {e : Engine} {d : Dispatched} (h : Recorded e (dispatched ++ [d])) :
    Recorded e dispatched ∧ (d.ending, d.after) = e.dispatch dispatched d.command d.before := by
  refine ⟨fun pre x post heq => h pre x (post ++ [d]) ?_, h dispatched d [] rfl⟩
  rw [heq, List.append_assoc, List.cons_append]

/-- **The commands of a request** take a run on by their calls, if all of them end. -/
theorem effects_run (h : Run lib s₀ trace s) (hrecorded : Recorded (c.engine lib s) dispatched)
    (hend : ∀ d ∈ dispatched, Ended d.ending) :
    Run lib s₀ (trace ++ (c.effects lib s dispatched).calls.map Prod.snd) (c.effects lib s dispatched).state := by
  induction dispatched using List.reverseRecOn with
  | nil => simpa using h
  | append_singleton dispatched d ih =>
    obtain ⟨hbefore, hlast⟩ := hrecorded.initial
    have hearlier := ih hbefore fun x hx => hend x (List.mem_append_left _ hx)
    have hcommand : d.ending =
        ((c.command dispatched d.command d.before).run lib d.before (c.effects lib s dispatched).state).ending :=
      congrArg Prod.fst hlast
    have hended := hend d (List.mem_append_right _ (List.mem_singleton_self d))
    rw [hcommand] at hended
    have hnext := Command.run_run _ hearlier hended
    rw [effects_concat, Effects.next, effects_earlier]
    simpa [List.map_append, Function.comp_def] using hnext

/-- a call is one of a command that was dispatched at its site -/
theorem effects_call {call : Site × Exchange} (h : call ∈ (c.effects lib s dispatched).calls) :
    ∃ d ∈ dispatched, d.site = call.1 := by
  induction dispatched using List.reverseRecOn with
  | nil => exact absurd h List.not_mem_nil
  | append_singleton dispatched d ih =>
    rw [effects_concat, Effects.next] at h
    rcases List.mem_append.1 h with h | h
    · obtain ⟨d', hd', hsite⟩ := ih h
      exact ⟨d', List.mem_append_left _ hd', hsite⟩
    · obtain ⟨x, -, rfl⟩ := List.mem_map.1 h
      exact ⟨d, List.mem_append_right _ (List.mem_singleton_self d), rfl⟩

end Commands

end Asabru.Server
