/-
WHAT A ROUTE ANSWERS, whatever its commands do.

A closure makes the checks of its route one after the other and then dispatches the request handler. A check that does not
yield true is to be answered with its denial, a handler that produces no response with an internal server error.

- `closure_answers_iff`: a closure returns that answer exactly when nothing escapes: every command of a check that is made
  returns, the authentication's key can be read, and the handler throws nothing outside std::exception;
- `returned_is_expected`: a response that is returned is never another one.
Counterexample: `authentication_escapes`.

Adversary: any behaviour of the dispatched commands (what they write, throw, or whether they return), and any behaviour of
`Get` on an absent key.
-/
import Mathlib.Tactic
import Asabru.Server.RouteHandler

namespace Asabru.RouteAnswers

open Asabru.Control Asabru.Config Asabru.Server

/-! ## The checks of a route -/

structure Check where
  site : Site
  command : String
  /-- the key that is to hold the boolean true after the command -/
  key : String
  /-- the key is read inside the try block -/
  guarded : Bool
  /-- what is put into the context before the command -/
  prepare : Handling → Handling
  denied : HttpResponse

def authenticationCheck (e : Engine) (auth : ResolvedProtocolAuthConfig) : Check where
  site := .authentication
  command := auth.handler
  key := e.keys.authenticated
  guarded := false
  prepare h := h
  denied := unauthorizedResponse

def authorizationCheck (e : Engine) (route : Route) (authorization : ResolvedProtocolAuthorizationConfig) : Check where
  site := .authorization
  command := authorization.handler
  key := e.keys.authorized
  guarded := true
  prepare h := (h.put e.keys.authorizationData (.string route.auth.authorization)).put e.keys.authorizationStrategy
    (.authStrategy authorization.strategy)
  denied := forbiddenResponse

def authorizationChecks (e : Engine) (route : Route) (auth : ResolvedProtocolAuthConfig) : List Check :=
  match auth.authorization with
  | none => []
  | some authorization => if route.auth.authorization = "" then [] else [authorizationCheck e route authorization]

def requiredChecks (e : Engine) (route : Route) (cfg : ResolvedProtocolConfig) : List Check :=
  match route.auth.required, cfg.auth with
  | true, some auth => authenticationCheck e auth :: authorizationChecks e route auth
  | _, _ => []

/-- the call that a check makes -/
def Check.call (e : Engine) (c : Check) (h : Handling) : Dispatched := (c.prepare h).call e c.site c.command

/-- a request after a call -/
def resume (h : Handling) (d : Dispatched) : Handling := { context := d.after, dispatched := h.dispatched ++ [d] }

def Check.after (e : Engine) (c : Check) (h : Handling) : Handling := resume (c.prepare h) (c.call e h)

/-- the call of a check yielded true -/
def Check.Passed (e : Engine) (c : Check) (h : Handling) : Prop :=
  (c.call e h).ending = .ret () ∧ (c.call e h).after c.key = some (.bool true)

instance (e : Engine) (c : Check) (h : Handling) : Decidable (c.Passed e h) :=
  inferInstanceAs (Decidable (_ ∧ _))

/-! ## The answer, and when nothing escapes -/

/-- the call of the request handler -/
def handlerCall (e : Engine) (route : Route) (h : Handling) : Dispatched := h.call e .requestHandler route.request_handler

/-- the handler's response if it returned and left one, else a 500 -/
def produced (d : Dispatched) : HttpResponse :=
  match d.ending, d.after "response" with
  | .ret (), some (.response r) => r
  | _, _ => internalErrorResponse

/-- the first check that does not pass is denied; if all pass, what the handler produced -/
def expected (e : Engine) (route : Route) : List Check → Handling → HttpResponse
  | [], h => produced (handlerCall e route h)
  | c :: cs, h => if c.Passed e h then expected e route cs (c.after e h) else c.denied

/-- no exception leaves a check -/
def Check.Contained (e : Engine) (c : Check) (h : Handling) : Prop :=
  (c.call e h).ending = .ret () ∧ (c.guarded = false → (c.call e h).after c.key = none → e.absentKey = none)

/-- no exception leaves the last try block -/
def HandlerContained (e : Engine) (d : Dispatched) : Prop :=
  (d.ending = .ret () ∧ (d.after "response" = none → e.absentKey ≠ some .other)) ∨ ∃ what, d.ending = .throws (.std what)

/-- no exception leaves any check that is made, nor the handler if it is reached -/
def NothingEscapes (e : Engine) (route : Route) : List Check → Handling → Prop
  | [], h => HandlerContained e (handlerCall e route h)
  | c :: cs, h => c.Contained e h ∧ (c.Passed e h → NothingEscapes e route cs (c.after e h))

/-! ## The closure as its checks -/

def runCheck (e : Engine) (c : Check) (h : Handling) : Ending Bool × Handling :=
  andThen ((c.prepare h).dispatch e c.site c.command) fun _ h =>
    match h.get e c.key with
    | .error err => if c.guarded then (.ret false, h) else (.throws err, h)
    | .ok v => (.ret (boolOrFalse v), h)

def runChecks (e : Engine) (route : Route) : List Check → Handling → Ending HttpResponse × Handling
  | [], h => handleRequest e route h
  | c :: cs, h => andThen (runCheck e c h) fun passed h => if passed then runChecks e route cs h else (.ret c.denied, h)

variable (e : Engine) (route : Route)

theorem authenticate_eq (auth : ResolvedProtocolAuthConfig) (h : Handling) :
    authenticate e auth h = runCheck e (authenticationCheck e auth) h := rfl

theorem authorizeRequest_eq (auth : ResolvedProtocolAuthConfig) (h : Handling) :
    authorizeRequest e route auth h = runChecks e route (authorizationChecks e route auth) h := by
  unfold authorizeRequest authorizationChecks
  cases auth.authorization with
  | none => rfl
  | some authorization =>
    dsimp only
    split_ifs
    · rfl
    · rfl

/-- a closure makes the checks of its route in order -/
theorem routeClosure_eq (cfg : ResolvedProtocolConfig) (request : ℕ) :
    routeClosure e route cfg request = runChecks e route (requiredChecks e route cfg) (startHandling e cfg request) := by
  unfold routeClosure requiredChecks
  cases route.auth.required with
  | false => rfl
  | true =>
    cases cfg.auth with
    | none => rfl
    | some auth =>
      simp only [runChecks, authenticate_eq]
      congr 1
      funext passed h
      rw [authorizeRequest_eq]
      rfl

/-! ## One check -/

variable {e route}

/-- a check that lets nothing escape says whether it passed -/
theorem runCheck_contained {c : Check} {h : Handling} (hc : c.Contained e h) :
    runCheck e c h = (.ret (decide (c.Passed e h)), c.after e h) := by
  obtain ⟨hret, hkey⟩ := hc
  have hd : (c.prepare h).dispatch e c.site c.command = (.ret (), c.after e h) := Prod.ext hret rfl
  have hpassed : c.Passed e h ↔ (c.after e h).context c.key = some (.bool true) := by
    simp [Check.Passed, hret, Check.after, resume]
  rw [runCheck, hd]
  cases hv : (c.after e h).context c.key with
  | some v => simp [andThen, Handling.get, hv, hpassed, boolOrFalse]
  | none =>
    cases ha : e.absentKey with
    | none => simp [andThen, Handling.get, hv, ha, hpassed, boolOrFalse]
    | some err =>
      have hg : c.guarded = true := by
        by_contra hg
        have := hkey (by simpa using hg) hv
        rw [ha] at this
        cases this
      simp [andThen, Handling.get, hv, ha, hg, hpassed]

/-- what escapes a check -/
theorem runCheck_escapes {c : Check} {h : Handling} (hc : ¬ c.Contained e h) (b : Bool) : (runCheck e c h).1 ≠ .ret b := by
  intro hb
  obtain ⟨u, h', hd, hf⟩ := andThen_ret (t := (runCheck e c h).2) (Prod.ext hb rfl)
  have hret : (c.call e h).ending = .ret () := congrArg Prod.fst hd
  have hh : h' = c.after e h := (congrArg Prod.snd hd).symm
  refine hc ⟨hret, fun hg hnone => ?_⟩
  by_contra ha
  obtain ⟨err, ha⟩ := Option.ne_none_iff_exists'.1 ha
  have hctx : (c.after e h).context c.key = none := hnone
  rw [hh] at hf
  simp [Handling.get, hctx, ha, hg] at hf

/-! ## The request handler -/

theorem dispatch_handler (h : Handling) : h.dispatch e .requestHandler route.request_handler =
    ((handlerCall e route h).ending, resume h (handlerCall e route h)) := rfl

theorem handleRequest_contained {h : Handling} (hc : HandlerContained e (handlerCall e route h)) :
    (handleRequest e route h).1 = .ret (produced (handlerCall e route h)) := by
  unfold handleRequest
  rcases hc with ⟨hret, habsent⟩ | ⟨what, hthrow⟩
  · rw [dispatch_handler, hret]
    cases hv : (handlerCall e route h).after "response" with
    | none =>
      have hp : produced (handlerCall e route h) = internalErrorResponse := by simp [produced, hret, hv]
      have hctx : (resume h (handlerCall e route h)).context "response" = none := hv
      rw [hp]
      cases ha : e.absentKey with
      | none => simp [andThen, catchStd, Handling.get, hctx, ha]
      | some err =>
        cases err with
        | std what => simp [andThen, catchStd, Handling.get, hctx, ha]
        | other => exact absurd ha (habsent hv)
    | some v =>
      have hctx : (resume h (handlerCall e route h)).context "response" = some v := hv
      cases v <;> simp [andThen, catchStd, Handling.get, hctx, produced, hret, hv]
  · rw [dispatch_handler, hthrow]
    simp [andThen, catchStd, produced, hthrow]

theorem handleRequest_escapes {h : Handling} (hc : ¬ HandlerContained e (handlerCall e route h)) (r : HttpResponse) :
    (handleRequest e route h).1 ≠ .ret r := by
  intro hr
  rw [handleRequest, dispatch_handler] at hr
  cases hend : (handlerCall e route h).ending with
  | ret u =>
    refine hc (Or.inl ⟨hend, fun hnone ha => ?_⟩)
    have hctx : (resume h (handlerCall e route h)).context "response" = none := hnone
    simp [hend, andThen, catchStd, Handling.get, hctx, ha] at hr
  | throws err =>
    cases err with
    | std what => exact hc (Or.inr ⟨what, hend⟩)
    | other => simp [hend, andThen, catchStd] at hr
  | hangs => simp [hend, andThen, catchStd] at hr
  | undefined => simp [hend, andThen, catchStd] at hr

/-! ## All of them -/

/-- what the checks and the handler return, if nothing escapes -/
theorem runChecks_contained (cs : List Check) {h : Handling} (hc : NothingEscapes e route cs h) :
    (runChecks e route cs h).1 = .ret (expected e route cs h) := by
  induction cs generalizing h with
  | nil => exact handleRequest_contained hc
  | cons c cs ih =>
    obtain ⟨hcheck, hrest⟩ := hc
    rw [runChecks, runCheck_contained hcheck]
    by_cases hp : c.Passed e h
    · simp only [andThen, expected, hp, decide_true, if_true]
      exact ih (hrest hp)
    · simp [andThen, expected, hp]

/-- what escapes is not answered -/
theorem runChecks_escapes (cs : List Check) {h : Handling} (hc : ¬ NothingEscapes e route cs h) (r : HttpResponse) :
    (runChecks e route cs h).1 ≠ .ret r := by
  induction cs generalizing h with
  | nil => exact handleRequest_escapes hc r
  | cons c cs ih =>
    intro hr
    rw [runChecks] at hr
    by_cases hcheck : c.Contained e h
    · rw [runCheck_contained hcheck] at hr
      by_cases hp : c.Passed e h
      · simp only [andThen, hp, decide_true, if_true] at hr
        exact ih (fun hrest => hc ⟨hcheck, fun _ => hrest⟩) hr
      · exact hc ⟨hcheck, fun hp' => absurd hp' hp⟩
    · obtain ⟨b, h', hb, -⟩ := andThen_ret (t := _) (Prod.ext hr rfl)
      exact runCheck_escapes hcheck b (congrArg Prod.fst hb)

variable (e route)

/-- a response that is returned is the expected one -/
theorem returned_is_expected (cfg : ResolvedProtocolConfig) (request : ℕ) {r : HttpResponse}
    (hr : (routeClosure e route cfg request).1 = .ret r) :
    r = expected e route (requiredChecks e route cfg) (startHandling e cfg request) := by
  rw [routeClosure_eq] at hr
  have hc : NothingEscapes e route (requiredChecks e route cfg) (startHandling e cfg request) := by
    by_contra hc
    exact runChecks_escapes _ hc r hr
  rw [runChecks_contained _ hc] at hr
  exact (Ending.ret.inj hr).symm

/-- the closure returns the expected response -/
def Answers (cfg : ResolvedProtocolConfig) (request : ℕ) : Prop :=
  (routeClosure e route cfg request).1 = .ret (expected e route (requiredChecks e route cfg) (startHandling e cfg request))

/-- **A closure answers as expected iff nothing escapes**, for all routes, requests and behaviours of the commands. -/
theorem closure_answers_iff (cfg : ResolvedProtocolConfig) (request : ℕ) :
    Answers e route cfg request ↔
      NothingEscapes e route (requiredChecks e route cfg) (startHandling e cfg request) := by
  rw [Answers, routeClosure_eq]
  constructor
  · intro hr
    by_contra hc
    exact runChecks_escapes _ hc _ hr
  · exact runChecks_contained _

/-! ## A required route -/

theorem data_key_ne_strategy_key : "authorization_data" ≠ "authorization_strategy" := by decide

/-- commands that throw an exception derived from std::exception -/
def throwing : Engine where
  keys := ⟨"auth_strategy", "authenticated", "authorization_data", "authorization_strategy", "authorized",
    data_key_ne_strategy_key⟩
  absentKey := none
  dispatch _ _ context := (.throws (.std "token expired"), context)

def guardedRoute : Route := ⟨"/clusters", "POST", "UpdateCommand", ⟨true, ""⟩⟩

def guardedServer : ResolvedProtocolConfig where
  protocol_name := "http"
  protocol_port := 8080
  pipeline := some 0
  handler := some 0
  auth := some ⟨none, "AuthCommand", none⟩
  routes := [guardedRoute]

/-- **The exception of an authentication command escapes**; a 401 is the expected answer. -/
theorem authentication_escapes :
    (routeClosure throwing guardedRoute guardedServer 0).1 = .throws (.std "token expired") ∧
    expected throwing guardedRoute (requiredChecks throwing guardedRoute guardedServer)
      (startHandling throwing guardedServer 0) = unauthorizedResponse ∧
    ¬ Answers throwing guardedRoute guardedServer 0 := by
  have hthrows : (routeClosure throwing guardedRoute guardedServer 0).1 = .throws (.std "token expired") := rfl
  refine ⟨hthrows, rfl, fun hr => ?_⟩
  rw [Answers, hthrows] at hr
  cases hr

end Asabru.RouteAnswers
