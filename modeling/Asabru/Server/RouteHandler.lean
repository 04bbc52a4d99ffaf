/-
The closure that `initProtocolServers` registers for a route: two checks and the request handler, each one dispatched by
name to a command.

A closure captures its route and its server's resolved configuration by value, so its behaviour is a function of the two
(`routeClosure`). Commands are arbitrary: what one does may depend on everything dispatched before it in the request, and
it may write any values into the context, throw, hang or run into undefined behaviour. `dispatched` records every call in
order.

Taken from outside, as parameters (`Engine`): the values of the context-key macros, how `ComputationContext::Get` treats
an absent key, and `CommandDispatcher::Dispatch`.

Results:
- `authentication_guards`: a required route of a server with an auth block reaches its handler only after the
  authentication command of that block, given the block's strategy, left the boolean true;
- `authorization_guards`: with an authorization block as well, only after the authorization command of that one, given its
  strategy and the route's own data, left the boolean true;
- `unchecked_dispatches`: a route that is not required, or whose server has no auth block, dispatches its handler first.
-/
import Mathlib.Tactic
import Asabru.Core.Precedence
import Asabru.Server.State

namespace Asabru.Server

open Asabru.Control Asabru.Config Asabru.Precedence

/-! ## Contexts and commands -/

inductive HttpStatusCode where
  | unauthorized
  | forbidden
  | internalServerError
  /-- any other one, set by a command -/
  | other (code : ℕ)
deriving DecidableEq, Repr

structure HttpResponse where
  status : HttpStatusCode
  headers : List (String × String)
  content : String
deriving DecidableEq, Repr

/-- what a `std::any` in a context holds -/
inductive Value where
  | bool (b : Bool)
  | string (s : String)
  | request (address : ℕ)
  | updateConfiguration
  | updateEndPointService
  | authStrategy (strategy : Option AuthStrategy)
  | response (r : HttpResponse)
  | other (id : ℕ)
deriving DecidableEq, Repr

abbrev Context := String → Option Value

structure ContextKeys where
  authenticationStrategy : String
  authenticated : String
  authorizationData : String
  authorizationStrategy : String
  authorized : String
  /-- the two keys that the closure writes one after the other -/
  data_ne_strategy : authorizationData ≠ authorizationStrategy

/-- the calls of `Dispatch` in the closure's text -/
inductive Site where
  | authentication
  | authorization
  | requestHandler
deriving DecidableEq, Repr

/-- one call of `Dispatch` -/
structure Dispatched where
  site : Site
  command : String
  before : Context
  ending : Ending Unit
  after : Context

structure Engine where
  keys : ContextKeys
  /-- the exception of `Get` for an absent key; an empty value if it does not throw -/
  absentKey : Option Exn
  /-- given what was dispatched before in the request -/
  dispatch : List Dispatched → String → Context → Ending Unit × Context

/-- a request while it is handled -/
structure Handling where
  context : Context
  dispatched : List Dispatched

def Handling.put (key : String) (v : Value) (h : Handling) : Handling :=
  { h with context := Function.update h.context key (some v) }

/-- what a call of `Dispatch` does now -/
def Handling.call (e : Engine) (site : Site) (command : String) (h : Handling) : Dispatched where
  site := site
  command := command
  before := h.context
  ending := (e.dispatch h.dispatched command h.context).1
  after := (e.dispatch h.dispatched command h.context).2

def Handling.dispatch (e : Engine) (site : Site) (command : String) (h : Handling) : Ending Unit × Handling :=
  let d := h.call e site command
  (d.ending, { context := d.after, dispatched := h.dispatched ++ [d] })

/-- `none` is an empty `std::any` -/
def Handling.get (e : Engine) (key : String) (h : Handling) : Except Exn (Option Value) :=
  match h.context key, e.absentKey with
  | some v, _ => .ok (some v)
  | none, none => .ok none
  | none, some err => .error err

/-- `any_cast<bool>` under a `catch (...)` that leaves the flag false -/
def boolOrFalse (v : Option Value) : Bool := v = some (.bool true)

/-! ## The closure -/

def jsonError (status : HttpStatusCode) (message : String) : HttpResponse where
  status := status
  headers := [("Content-Type", "application/json")]
  content := "\x7b\"status\":\"error\",\"message\":\"" ++ message ++ "\"\x7d"

def unauthorizedResponse : HttpResponse := jsonError .unauthorized "Unauthorized"
def forbiddenResponse : HttpResponse := jsonError .forbidden "Forbidden"
def internalErrorResponse : HttpResponse := jsonError .internalServerError "Internal server error"

/-- the context at the start of a request -/
def startHandling (e : Engine) (cfg : ResolvedProtocolConfig) (request : ℕ) : Handling :=
  ((((⟨fun _ => none, []⟩ : Handling).put "request" (.request request)).put "update_configuration"
    .updateConfiguration).put "update_endpoint_service" .updateEndPointService).put e.keys.authenticationStrategy
    (.authStrategy (cfg.auth.bind ResolvedProtocolAuthConfig.strategy))

/-- the result is `isAuth`; here `Get` is outside the try block -/
def authenticate (e : Engine) (auth : ResolvedProtocolAuthConfig) (h : Handling) : Ending Bool × Handling :=
  andThen (h.dispatch e .authentication auth.handler) fun _ h =>
    match h.get e e.keys.authenticated with
    | .error err => (.throws err, h)
    | .ok v => (.ret (boolOrFalse v), h)

/-- the result is `isAuthorized` -/
def authorize (e : Engine) (route : Route) (authorization : ResolvedProtocolAuthorizationConfig) (h : Handling) :
    Ending Bool × Handling :=
  let h := (h.put e.keys.authorizationData (.string route.auth.authorization)).put e.keys.authorizationStrategy
    (.authStrategy authorization.strategy)
  andThen (h.dispatch e .authorization authorization.handler) fun _ h =>
    match h.get e e.keys.authorized with
    | .error _ => (.ret false, h)
    | .ok v => (.ret (boolOrFalse v), h)

/-- `any_cast<HttpResponse>` throws `std::bad_any_cast` for any other value -/
def handleRequest (e : Engine) (route : Route) (h : Handling) : Ending HttpResponse × Handling :=
  catchStd (fun _ => internalErrorResponse)
    (andThen (h.dispatch e .requestHandler route.request_handler) fun _ h =>
      match h.get e "response" with
      | .error err => (.throws err, h)
      | .ok (some (.response r)) => (.ret r, h)
      | .ok _ => (.throws (.std "bad any_cast"), h))

/-- the second check, made after a passed first one -/
def authorizeRequest (e : Engine) (route : Route) (auth : ResolvedProtocolAuthConfig) (h : Handling) :
    Ending HttpResponse × Handling :=
  match auth.authorization with
  | none => handleRequest e route h
  | some authorization =>
    if route.auth.authorization = "" then handleRequest e route h
    else
      andThen (authorize e route authorization h) fun isAuthorized h =>
        if isAuthorized then handleRequest e route h else (.ret forbiddenResponse, h)

def routeClosure (e : Engine) (route : Route) (cfg : ResolvedProtocolConfig) (request : ℕ) :
    Ending HttpResponse × Handling :=
  let h := startHandling e cfg request
  match route.auth.required, cfg.auth with
  | true, some auth =>
    andThen (authenticate e auth h) fun isAuth h =>
      if isAuth then authorizeRequest e route auth h else (.ret unauthorizedResponse, h)
  | _, _ => handleRequest e route h

/-! ## Traces -/

/-- the request handler of the route was dispatched -/
structure Handles (route : Route) (d : Dispatched) : Prop where
  site : d.site = .requestHandler
  command : d.command = route.request_handler

theorem not_handles {route : Route} {d : Dispatched} {site : Site} (h : d.site = site) (hne : site ≠ .requestHandler) :
    ¬ Handles route d :=
  fun hd => hne (h.symm.trans hd.site)

/-- the authentication command of the server, given the strategy of its auth block, returned and left its key holding the
boolean true -/
structure Authenticates (e : Engine) (cfg : ResolvedProtocolConfig) (d : Dispatched) : Prop where
  site : d.site = .authentication
  asked : ∀ auth, cfg.auth = some auth →
    d.command = auth.handler ∧ d.before e.keys.authenticationStrategy = some (.authStrategy auth.strategy)
  returned : d.ending = .ret ()
  passed : d.after e.keys.authenticated = some (.bool true)

/-- the authorization command of the server, given the strategy of its authorization block and the data, returned and left
its key holding the boolean true -/
structure Authorizes (e : Engine) (cfg : ResolvedProtocolConfig) (data : String) (d : Dispatched) : Prop where
  site : d.site = .authorization
  asked : ∀ authorization, cfg.auth.bind ResolvedProtocolAuthConfig.authorization = some authorization →
    d.command = authorization.handler ∧
      d.before e.keys.authorizationStrategy = some (.authStrategy authorization.strategy)
  data : d.before e.keys.authorizationData = some (.string data)
  returned : d.ending = .ret ()
  passed : d.after e.keys.authorized = some (.bool true)

theorem Handling.get_true {e : Engine} {key : String} {h : Handling} {v : Option Value} (hg : h.get e key = .ok v)
    (hb : boolOrFalse v = true) : h.context key = some (.bool true) := by
  obtain rfl : v = some (.bool true) := by simpa [boolOrFalse] using hb
  unfold Handling.get at hg
  split at hg
  · rename_i hk
    rwa [Except.ok.inj hg] at hk
  · cases hg
  · cases hg

section Steps

variable (e : Engine) (route : Route) (auth : ResolvedProtocolAuthConfig)

/-- the request handler is dispatched once -/
theorem handleRequest_dispatched (h : Handling) : ∃ d, Handles route d ∧
    (handleRequest e route h).2.dispatched = h.dispatched ++ [d] := by
  refine ⟨h.call e .requestHandler route.request_handler, ⟨rfl, rfl⟩, ?_⟩
  unfold handleRequest
  rw [catchStd_state, andThen_state]
  · rfl
  · intro _ h
    split <;> rfl

/-- the first check makes one call, of the server's command if it is made with the server's strategy -/
theorem authenticate_dispatched (h : Handling) : ∃ d, d.site = .authentication ∧
    (authenticate e auth h).2.dispatched = h.dispatched ++ [d] ∧
    ∀ cfg : ResolvedProtocolConfig, cfg.auth = some auth →
      h.context e.keys.authenticationStrategy = some (.authStrategy auth.strategy) →
      (authenticate e auth h).1 = .ret true → Authenticates e cfg d := by
  refine ⟨h.call e .authentication auth.handler, rfl, ?_, fun cfg hauth hstrategy ht => ?_⟩
  · unfold authenticate
    rw [andThen_state]
    · rfl
    · intro _ h
      split <;> rfl
  · obtain ⟨u, h', hd, hf⟩ := andThen_ret (t := (authenticate e auth h).2) (Prod.ext ht rfl)
    have hctx : h'.context = (h.call e .authentication auth.handler).after :=
      congrArg (fun r => Handling.context r.2) hd.symm
    refine ⟨rfl, fun auth' hauth' => ?_, congrArg Prod.fst hd, ?_⟩
    · obtain rfl : auth = auth' := Option.some.inj (hauth.symm.trans hauth')
      exact ⟨rfl, hstrategy⟩
    cases hg : h'.get e e.keys.authenticated with
    | error err => simp only [hg] at hf; cases hf
    | ok v =>
      simp only [hg, Prod.mk.injEq, Ending.ret.injEq] at hf
      rw [← hctx]
      exact Handling.get_true hg hf.1

/-- the second one puts strategy and data there itself -/
theorem authorize_dispatched (authorization : ResolvedProtocolAuthorizationConfig) (h : Handling) :
    ∃ d, d.site = .authorization ∧ (authorize e route authorization h).2.dispatched = h.dispatched ++ [d] ∧
      ∀ cfg : ResolvedProtocolConfig, cfg.auth.bind ResolvedProtocolAuthConfig.authorization = some authorization →
        (authorize e route authorization h).1 = .ret true → Authorizes e cfg route.auth.authorization d := by
  let h₁ := (h.put e.keys.authorizationData (.string route.auth.authorization)).put e.keys.authorizationStrategy
    (.authStrategy authorization.strategy)
  have hdata : h₁.context e.keys.authorizationData = some (.string route.auth.authorization) := by
    simp [h₁, Handling.put, Function.update_of_ne e.keys.data_ne_strategy]
  have hstrategy : h₁.context e.keys.authorizationStrategy = some (.authStrategy authorization.strategy) :=
    Function.update_self ..
  refine ⟨h₁.call e .authorization authorization.handler, rfl, ?_, fun cfg hauthz ht => ?_⟩
  · unfold authorize
    rw [andThen_state]
    · rfl
    · intro _ h
      split <;> rfl
  · obtain ⟨u, h', hd, hf⟩ := andThen_ret (t := (authorize e route authorization h).2) (Prod.ext ht rfl)
    have hctx : h'.context = (h₁.call e .authorization authorization.handler).after :=
      congrArg (fun r => Handling.context r.2) hd.symm
    refine ⟨rfl, fun authorization' hauthz' => ?_, hdata, congrArg Prod.fst hd, ?_⟩
    · obtain rfl : authorization = authorization' := Option.some.inj (hauthz.symm.trans hauthz')
      exact ⟨rfl, hstrategy⟩
    cases hg : h'.get e e.keys.authorized with
    | error err => simp [hg] at hf
    | ok v =>
      simp only [hg, Prod.mk.injEq, Ending.ret.injEq] at hf
      rw [← hctx]
      exact Handling.get_true hg hf.1

/-- what follows a passed authentication only adds to the trace -/
theorem authorizeRequest_extends (h : Handling) :
    ∃ rest, (authorizeRequest e route auth h).2.dispatched = h.dispatched ++ rest := by
  have handled : ∀ h : Handling, ∃ rest, (handleRequest e route h).2.dispatched = h.dispatched ++ rest := by
    intro h
    obtain ⟨d, -, hd⟩ := handleRequest_dispatched e route h
    exact ⟨[d], hd⟩
  unfold authorizeRequest
  cases auth.authorization with
  | none => exact handled h
  | some authorization =>
    dsimp only
    split_ifs
    · exact handled h
    · obtain ⟨d, -, hd, -⟩ := authorize_dispatched e route authorization h
      rcases ha : authorize e route authorization h with ⟨r, h'⟩
      rw [ha] at hd
      cases r with
      | ret b =>
        cases b with
        | false => exact ⟨[d], hd⟩
        | true =>
          obtain ⟨rest, hr⟩ := handled h'
          refine ⟨d :: rest, hr.trans ?_⟩
          rw [show h'.dispatched = h.dispatched ++ [d] from hd, List.append_assoc]
          rfl
      | throws err => exact ⟨[d], hd⟩
      | hangs => exact ⟨[d], hd⟩
      | undefined => exact ⟨[d], hd⟩

/-- a check and what follows it: if the check does not handle the request and what follows a passed one is guarded, the
whole is -/
theorem guarded_andThen {P : Dispatched → Prop} {check : Ending Bool × Handling}
    {pass : Handling → Ending HttpResponse × Handling} {deny : HttpResponse}
    (hfree : Free (Handles route) check.2.dispatched)
    (hpass : check.1 = .ret true → Guarded P (Handles route) (pass check.2).2.dispatched) :
    Guarded P (Handles route)
      (andThen check fun passed h => if passed then pass h else (.ret deny, h)).2.dispatched := by
  obtain ⟨r, h⟩ := check
  cases r with
  | ret b =>
    cases b with
    | false => exact guarded_of_free hfree
    | true => exact hpass rfl
  | throws err => exact guarded_of_free hfree
  | hangs => exact guarded_of_free hfree
  | undefined => exact guarded_of_free hfree

end Steps

/-! ## What a closure guarantees -/

variable {e : Engine} {route : Route} {cfg : ResolvedProtocolConfig} {auth : ResolvedProtocolAuthConfig}

/-- **Authentication guards the handler** of a required route on a server with an auth block. -/
theorem authentication_guards (hreq : route.auth.required = true) (hauth : cfg.auth = some auth) (request : ℕ) :
    Guarded (Authenticates e cfg) (Handles route) (routeClosure e route cfg request).2.dispatched := by
  obtain ⟨d, hsite, hd, hok⟩ := authenticate_dispatched e auth (startHandling e cfg request)
  have hstrategy : (startHandling e cfg request).context e.keys.authenticationStrategy =
      some (.authStrategy auth.strategy) := by simp [startHandling, Handling.put, hauth]
  have hfree : Free (Handles route) [d] := fun x hx =>
    not_handles ((List.mem_singleton.1 hx).symm ▸ hsite) (by decide)
  simp only [routeClosure, hreq, hauth]
  refine guarded_andThen route (by rw [hd]; exact hfree) fun hpass => ?_
  obtain ⟨rest, hr⟩ := authorizeRequest_extends e route auth
    (authenticate e auth (startHandling e cfg request)).2
  rw [hr, hd]
  exact guarded_append hfree ⟨d, List.mem_singleton_self d, hok cfg hauth hstrategy hpass⟩

/-- **Authorization guards the handler** of a required route with authorization data, on a server with both blocks. -/
theorem authorization_guards {authorization : ResolvedProtocolAuthorizationConfig} (hreq : route.auth.required = true)
    (hdata : route.auth.authorization ≠ "") (hauth : cfg.auth = some auth)
    (hauthz : auth.authorization = some authorization) (request : ℕ) :
    Guarded (Authorizes e cfg route.auth.authorization) (Handles route)
      (routeClosure e route cfg request).2.dispatched := by
  obtain ⟨d, hsite, hd, -⟩ := authenticate_dispatched e auth (startHandling e cfg request)
  have hblock : cfg.auth.bind ResolvedProtocolAuthConfig.authorization = some authorization := by
    rw [hauth]
    exact hauthz
  have hfree : Free (Handles route) [d] := fun x hx =>
    not_handles ((List.mem_singleton.1 hx).symm ▸ hsite) (by decide)
  simp only [routeClosure, hreq, hauth]
  refine guarded_andThen route (by rw [hd]; exact hfree) fun _ => ?_
  -- the second check starts from what the first one left
  generalize (authenticate e auth (startHandling e cfg request)).2 = h at hd
  obtain ⟨d', hsite', hd', hok'⟩ := authorize_dispatched e route authorization h
  have hfree' : Free (Handles route) [d, d'] := by
    intro x hx
    rcases List.mem_cons.1 hx with rfl | hx
    · exact not_handles hsite (by decide)
    · exact not_handles ((List.mem_singleton.1 hx).symm ▸ hsite') (by decide)
  have htrace : (authorize e route authorization h).2.dispatched = [d, d'] := by rw [hd', hd]; rfl
  simp only [authorizeRequest, hauthz, if_neg hdata]
  refine guarded_andThen route (by rw [htrace]; exact hfree') fun hpass => ?_
  obtain ⟨r, -, hr⟩ := handleRequest_dispatched e route (authorize e route authorization h).2
  rw [hr, htrace]
  exact guarded_append hfree' ⟨d', by simp, hok' cfg hblock hpass⟩

/-- **Without a check the handler comes first**, whatever the commands do. -/
theorem unchecked_dispatches (e : Engine) (route : Route) (cfg : ResolvedProtocolConfig)
    (h : route.auth.required = false ∨ cfg.auth = none) (request : ℕ) :
    ∃ d, Handles route d ∧ (routeClosure e route cfg request).2.dispatched = [d] := by
  have hclosure : routeClosure e route cfg request = handleRequest e route (startHandling e cfg request) := by
    unfold routeClosure
    rcases h with h | h
    · rw [h]
    · rw [h]
      cases route.auth.required <;> rfl
  obtain ⟨d, hh, hd⟩ := handleRequest_dispatched e route (startHandling e cfg request)
  exact ⟨d, hh, by rw [hclosure, hd]; rfl⟩

end Asabru.Server
