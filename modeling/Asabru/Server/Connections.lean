/-
Connections: requests to the management API that are handled at the same time.

Between two calls of callbacks a closure works on its own context only, so what a connection does next follows from the
answers its calls have got so far: it is where `routeClosure` waits when its commands are fed with these answers. A call
is then a thread of its own (`stepRequest`), and the connection goes on when that has finished.

Results:
- `talk_call`: a call is one of a command that was dispatched;
- `fed_recorded`: fed with the answers of their calls, commands do what they do in a request that is handled by itself.
-/
import Mathlib.Tactic
import Asabru.Server.Management
import Asabru.Server.Interleaving

namespace Asabru.Server

open Asabru.Control Asabru.Config

/-! ## Commands and their answers -/

abbrev Answer := Except Exn Reply

/-- what a command does with some answers -/
structure Fed where
  ending : Ending Unit
  context : Context
  /-- the last one is not answered if the answers ran out -/
  calls : List (World × Request)
  left : List Answer

def Command.feed (before : Context) : Command → List Answer → Fed
  | .ends ending context, answers => ⟨ending, context, [], answers⟩
  | .calls w r _, [] => ⟨.hangs, before, [(w, r)], []⟩
  | .calls w r resume, answer :: answers =>
    let fed := (resume answer).feed before answers
    { fed with calls := (w, r) :: fed.calls }

/-- what the commands did that were dispatched so far -/
structure Talk where
  earlier : List Dispatched
  left : List Answer
  calls : List (Site × World × Request)

def Talk.next (c : Commands) (t : Talk) (d : Dispatched) : Talk :=
  let fed := (c.command t.earlier d.command d.before).feed d.before t.left
  ⟨t.earlier ++ [d], fed.left, t.calls ++ fed.calls.map fun x => (d.site, x)⟩

def Commands.talk (c : Commands) (answers : List Answer) (dispatched : List Dispatched) : Talk :=
  dispatched.foldl (Talk.next c) ⟨[], answers, []⟩

/-- the commands, when their calls get these answers and no more -/
def Commands.fed (c : Commands) (answers : List Answer) : Engine where
  keys := c.keys
  absentKey := c.absentKey
  dispatch earlier command context :=
    let fed := (c.command earlier command context).feed context (c.talk answers earlier).left
    (fed.ending, fed.context)

structure Connection where
  route : RegisteredRoute
  commands : Commands
  request : ℕ

def Connection.closure (x : Connection) (answers : List Answer) : Ending HttpResponse × Handling :=
  routeClosure (x.commands.fed answers) x.route.route x.route.cfg x.request

def Connection.talk (x : Connection) (answers : List Answer) : Talk :=
  x.commands.talk answers (x.closure answers).2.dispatched

/-- the call that it waits for -/
def Connection.nextCall (x : Connection) (answers : List Answer) : Option (Site × World × Request) :=
  (x.talk answers).calls[answers.length]?

/-! ## The connections of a process -/

/-- a call, and what its connection had been answered before -/
structure Called (κ : Type) where
  connection : κ
  answers : List Answer
  site : Site
  world : World
  request : Request

/-- the calls with the threads that run them, in the order in which they were made -/
structure Api (κ : Type) where
  calls : List (Called κ)
  control : ℕ → Thread
  shared : State
  answers : κ → List Answer

def Api.initial {κ : Type} (s₀ : State) : Api κ := ⟨[], fun _ => .waiting, s₀, fun _ => []⟩

/-- what a command gets when its call has finished -/
def answerOf : Ending Reply → Option Answer
  | .ret reply => some (.ok reply)
  | .throws e => some (.error e)
  | _ => none

section Turns

variable {κ : Type} [DecidableEq κ] (lib : Lib) (connections : κ → Connection)

/-- the connection makes no call while it waits for one -/
def Api.call (a : Api κ) (k : κ) : Option (Api κ) :=
  if (connections k).route ∈ a.shared.routes ∧ (a.calls.filter (·.connection = k)).length = (a.answers k).length then
    ((connections k).nextCall (a.answers k)).map fun x =>
      { a with calls := a.calls ++ [⟨k, a.answers k, x.1, x.2.1, x.2.2⟩] }
  else none

def Api.answer (a : Api κ) (n : ℕ) (c : Called κ) : Option (Api κ) :=
  match a.control n with
  | .finished ending =>
    if c.answers.length = (a.answers c.connection).length then
      (answerOf ending).map fun answer =>
        { a with answers := Function.update a.answers c.connection (a.answers c.connection ++ [answer]) }
    else none
  | _ => none

variable {lib connections}

end Turns

/-! ## What a connection calls -/

/-- what the calls of a request were answered -/
def answersOf (calls : List Exchange) : List Answer := calls.filterMap fun x => answerOf x.ending

/-- the call that an exchange is of -/
def Exchange.call (x : Exchange) : World × Request := (x.world, x.request)

section Talk

variable {c : Commands} {answers : List Answer} {dispatched : List Dispatched}

theorem talk_concat (d : Dispatched) :
    c.talk answers (dispatched ++ [d]) = (c.talk answers dispatched).next c d := by
  simp only [Commands.talk, List.foldl_append, List.foldl_cons, List.foldl_nil]

theorem talk_earlier : (c.talk answers dispatched).earlier = dispatched := by
  induction dispatched using List.reverseRecOn with
  | nil => rfl
  | append_singleton dispatched d ih => rw [talk_concat, Talk.next, ih]

variable {lib : Lib} {s : State}

/-- a command that ends, fed with the answers of its calls -/
theorem Command.feed_run {before : Context} (more : List Answer) (k : Command) (hend : Ended (k.run lib before s).ending) :
    k.feed before (answersOf (k.run lib before s).callbacks ++ more) = ⟨(k.run lib before s).ending,
      (k.run lib before s).context, (k.run lib before s).callbacks.map Exchange.call, more⟩ := by
  induction k generalizing s with
  | ends ending context => rfl
  | calls w r resume ih =>
    unfold Command.run at hend ⊢
    cases hx : (s.exchange lib w r).ending with
    | ret reply =>
      simp only [hx] at hend ⊢
      have hrest := ih (.ok reply) hend
      simp only [Ran.behind, answersOf, List.filterMap_cons, hx, answerOf, List.cons_append, Command.feed] at hrest ⊢
      rw [hrest]
      rfl
    | throws e =>
      simp only [hx] at hend ⊢
      have hrest := ih (.error e) hend
      simp only [Ran.behind, answersOf, List.filterMap_cons, hx, answerOf, List.cons_append, Command.feed] at hrest ⊢
      rw [hrest]
      rfl
    | hangs =>
      simp only [hx] at hend
      rcases hend with ⟨_, h⟩ | ⟨_, h⟩ <;> cases h
    | undefined =>
      simp only [hx] at hend
      rcases hend with ⟨_, h⟩ | ⟨_, h⟩ <;> cases h

/-- the answers of the calls up to the last command, and of its own -/
theorem answers_concat (d : Dispatched) :
    answersOf ((c.effects lib s (dispatched ++ [d])).calls.map Prod.snd) =
      answersOf ((c.effects lib s dispatched).calls.map Prod.snd) ++ answersOf
        ((c.command dispatched d.command d.before).run lib d.before (c.effects lib s dispatched).state).callbacks := by
  rw [effects_concat, Effects.next, effects_earlier]
  simp [answersOf, List.filterMap_append, Function.comp_def]

/-- the commands of a request that end, fed with the answers of their calls -/
theorem talk_left (more : List Answer) (hrecorded : Recorded (c.engine lib s) dispatched) (hend : ∀ d ∈ dispatched, Ended d.ending) :
    (c.talk (answersOf ((c.effects lib s dispatched).calls.map Prod.snd) ++ more) dispatched).left = more := by
  induction dispatched using List.reverseRecOn generalizing more with
  | nil => rfl
  | append_singleton dispatched d ih =>
    obtain ⟨hbefore, hlast⟩ := hrecorded.initial
    have hended := hend d (List.mem_append_right _ (List.mem_singleton_self d))
    rw [show d.ending = _ from congrArg Prod.fst hlast] at hended
    rw [answers_concat, List.append_assoc, talk_concat, Talk.next, talk_earlier,
      ih _ hbefore fun x hx => hend x (List.mem_append_left _ hx)]
    exact congrArg Fed.left (Command.feed_run more _ hended)

/-- **Fed with the answers of their calls**, commands do the same. -/
theorem fed_recorded (more : List Answer) (hrecorded : Recorded (c.engine lib s) dispatched) (hend : ∀ d ∈ dispatched, Ended d.ending) :
    Recorded (c.fed (answersOf ((c.effects lib s dispatched).calls.map Prod.snd) ++ more)) dispatched := by
  induction dispatched using List.reverseRecOn generalizing more with
  | nil => exact recorded_nil
  | append_singleton dispatched d ih =>
    obtain ⟨hbefore, hlast⟩ := hrecorded.initial
    have hearlier := fun x hx => hend x (List.mem_append_left [d] hx)
    have hended := hend d (List.mem_append_right _ (List.mem_singleton_self d))
    rw [show d.ending = _ from congrArg Prod.fst hlast] at hended
    rw [answers_concat, List.append_assoc]
    refine recorded_concat (ih _ hbefore hearlier) (hlast.trans ?_)
    have hfed := Command.feed_run more _ hended
    simp only [Commands.fed, talk_left _ hbefore hearlier, hfed]
    rfl

end Talk

end Asabru.Server
