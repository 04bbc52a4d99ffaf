/-
THE MANAGEMENT API, from its HTTP requests to the state of the process.

The state changes by the callbacks only, and a request handler is dispatched only behind the checks of its route. The
closures captured both when the server was started, so a reload changes neither what a route asks for nor who may reload.

- `management_gate`: whatever the commands do, the state that requests lead to is that of a run of the callbacks they
  called; every route that answered is one of the configuration file of the start, with the blocks of its server there as
  the start resolved them; and if the handler of a request called a callback, the commands that these blocks name were
  dispatched before, with the strategies that they name, and yielded true;
- `denied_leave_no_trace`: if only request handlers call callbacks, the state is that of a run of the callbacks of the
  admitted requests alone, and every server in a balancer was there at the start or belongs to an endpoint whose services
  were stored at the start or submitted in an admitted request.
Witnesses: `gated_update`, `denied_update`. `checks_may_reload`: a check's command finds the callbacks as well, and can
reload before it denies.

Adversary: any commands, any requests in any order. Premise: one request is handled after the other.
-/
import Mathlib.Tactic
import Asabru.Server.Management
import Asabru.Scenarios.RouteAnswers
import Asabru.Scenarios.RouteGate
import Asabru.Scenarios.LiveHistory
import Asabru.Scenarios.ConcurrentBackends
import Asabru.Scenarios.RoundTrip

namespace Asabru.ManagementGate

open Asabru.Control Asabru.Config Asabru.Server Asabru.Precedence Asabru.RouteAnswers Asabru.RouteGate Asabru.Xml
  Asabru.LiveHistory Asabru.Reapplication Asabru.ConcurrentBackends

/-! ## A closure calls what it records -/

theorem andThen_ended {α β σ : Type} {r : Ending α × σ} {f : α → σ → Ending β × σ} (h : Ended (andThen r f).1) :
    Ended r.1 := by
  obtain ⟨e, s⟩ := r
  cases e with
  | ret a => exact Or.inl ⟨a, rfl⟩
  | throws e => exact Or.inr ⟨e, rfl⟩
  | hangs => rcases h with ⟨_, h⟩ | ⟨_, h⟩ <;> cases h
  | undefined => rcases h with ⟨_, h⟩ | ⟨_, h⟩ <;> cases h

theorem catchStd_ended {α σ : Type} {handler : String → α} {r : Ending α × σ} (h : Ended (catchStd handler r).1) :
    Ended r.1 := by
  obtain ⟨e, s⟩ := r
  cases e with
  | ret a => exact Or.inl ⟨a, rfl⟩
  | throws e => exact Or.inr ⟨e, rfl⟩
  | hangs => rcases h with ⟨_, h⟩ | ⟨_, h⟩ <;> cases h
  | undefined => rcases h with ⟨_, h⟩ | ⟨_, h⟩ <;> cases h

section Closure

variable {e : Engine} {route : Route} {cfg : ResolvedProtocolConfig} {h : Handling}

/-- what a part of a closure recorded: the engine's calls, which all ended if the part did -/
structure Faithful {α : Type} (e : Engine) (r : Ending α × Handling) : Prop where
  recorded : Recorded e r.2.dispatched
  ended : Ended r.1 → ∀ d ∈ r.2.dispatched, Ended d.ending

/-- a request so far -/
structure SoFar (e : Engine) (h : Handling) : Prop where
  recorded : Recorded e h.dispatched
  ended : ∀ d ∈ h.dispatched, Ended d.ending

theorem SoFar.call {h' : Handling} (hs : SoFar e h) (site : Site) (command : String)
    (heq : h'.dispatched = h.dispatched) : Recorded e (h'.dispatched ++ [h'.call e site command]) ∧
      (Ended (h'.call e site command).ending → ∀ d ∈ h'.dispatched ++ [h'.call e site command], Ended d.ending) := by
  have hrecorded : Recorded e h'.dispatched := heq ▸ hs.recorded
  refine ⟨recorded_concat hrecorded rfl, fun hend d hd => ?_⟩
  rcases List.mem_append.1 hd with hd | hd
  · exact hs.ended d (heq ▸ hd)
  · obtain rfl := List.mem_singleton.1 hd
    exact hend

theorem handleRequest_call (route : Route) (h : Handling) :
    (handleRequest e route h).2.dispatched = h.dispatched ++ [handlerCall e route h] := by
  unfold handleRequest
  rw [catchStd_state, andThen_state]
  · rfl
  · intro _ h
    split <;> rfl

theorem runCheck_after (c : Check) (h : Handling) : (runCheck e c h).2 = c.after e h := by
  unfold runCheck
  rw [andThen_state]
  · rfl
  · intro _ h
    split
    · split_ifs <;> rfl
    · rfl

/-- **A check and the rest**: the rest goes on where a passed check left the request, else that is where it stays. -/
theorem runChecks_cons (c : Check) (cs : List Check) (h : Handling) :
    ((runCheck e c h).1 = .ret true ∧ runChecks e route (c :: cs) h = runChecks e route cs (c.after e h)) ∨
      (runChecks e route (c :: cs) h).2 = c.after e h := by
  have hstate := runCheck_after (e := e) c h
  rw [runChecks]
  rcases hr : runCheck e c h with ⟨r, h'⟩
  rw [hr] at hstate
  obtain rfl : h' = c.after e h := hstate
  cases r with
  | ret passed =>
    cases passed with
    | true => exact Or.inl ⟨rfl, rfl⟩
    | false => exact Or.inr rfl
  | throws err => exact Or.inr rfl
  | hangs => exact Or.inr rfl
  | undefined => exact Or.inr rfl

theorem handleRequest_faithful (hs : SoFar e h) : Faithful e (handleRequest e route h) := by
  obtain ⟨hrecorded, hended⟩ := hs.call .requestHandler route.request_handler rfl
  refine ⟨handleRequest_call route h ▸ hrecorded, fun hend => ?_⟩
  rw [handleRequest_call]
  have hcall : Ended (h.dispatch e .requestHandler route.request_handler).1 := andThen_ended (catchStd_ended hend)
  exact hended hcall

/-- a check, and what it leaves -/
theorem runCheck_faithful {c : Check} (hs : SoFar e h) (hprepare : (c.prepare h).dispatched = h.dispatched) :
    Recorded e (c.after e h).dispatched ∧ (Ended (runCheck e c h).1 → SoFar e (c.after e h)) := by
  obtain ⟨hrecorded, hended⟩ := hs.call c.site c.command hprepare
  refine ⟨hrecorded, fun hend => ⟨hrecorded, ?_⟩⟩
  have hcall : Ended ((c.prepare h).dispatch e c.site c.command).1 := andThen_ended hend
  exact hended hcall

theorem runChecks_faithful (cs : List Check) (hprepare : ∀ c ∈ cs, ∀ h, (c.prepare h).dispatched = h.dispatched)
    (hs : SoFar e h) : Faithful e (runChecks e route cs h) := by
  induction cs generalizing h with
  | nil => exact handleRequest_faithful hs
  | cons c cs ih =>
    obtain ⟨hrecorded, hnext⟩ := runCheck_faithful hs (hprepare c List.mem_cons_self h)
    rcases @runChecks_cons e route c cs h with ⟨hpassed, heq⟩ | hstays
    · rw [heq]
      exact ih (fun c hc => hprepare c (List.mem_cons_of_mem _ hc)) (hnext (Or.inl ⟨true, hpassed⟩))
    · refine ⟨hstays ▸ hrecorded, fun hend => ?_⟩
      rw [hstays]
      exact (hnext (andThen_ended hend)).ended

/-- a check of a closure is one of the two -/
theorem requiredChecks_cases {c : Check} (hc : c ∈ requiredChecks e route cfg) :
    (∃ auth, c = authenticationCheck e auth) ∨ ∃ authorization, c = authorizationCheck e route authorization := by
  unfold requiredChecks at hc
  split at hc
  · rcases List.mem_cons.1 hc with rfl | hc
    · exact Or.inl ⟨_, rfl⟩
    · unfold authorizationChecks at hc
      split at hc
      · cases hc
      · split_ifs at hc
        · cases hc
        · exact Or.inr ⟨_, List.mem_singleton.1 hc⟩
  · cases hc

theorem requiredChecks_prepare : ∀ c ∈ requiredChecks e route cfg, ∀ h, (c.prepare h).dispatched = h.dispatched := by
  intro c hc h
  obtain ⟨auth, rfl⟩ | ⟨authorization, rfl⟩ := requiredChecks_cases hc <;> rfl

theorem requiredChecks_site : ∀ c ∈ requiredChecks e route cfg, c.site ≠ .requestHandler := by
  intro c hc
  obtain ⟨auth, rfl⟩ | ⟨authorization, rfl⟩ := requiredChecks_cases hc <;> exact nofun

/-- the calls at the request handler's site dispatch the route's handler -/
def HandlerCalls (route : Route) (dispatched : List Dispatched) : Prop :=
  ∀ d ∈ dispatched, d.site = .requestHandler → Handles route d

theorem HandlerCalls.concat {dispatched : List Dispatched} {d : Dispatched} (h : HandlerCalls route dispatched)
    (hd : d.site = .requestHandler → Handles route d) : HandlerCalls route (dispatched ++ [d]) := by
  intro x hx
  rcases List.mem_append.1 hx with hx | hx
  · exact h x hx
  · obtain rfl := List.mem_singleton.1 hx
    exact hd

theorem runChecks_handler (cs : List Check) (hprepare : ∀ c ∈ cs, ∀ h, (c.prepare h).dispatched = h.dispatched)
    (hsite : ∀ c ∈ cs, c.site ≠ .requestHandler) (hh : HandlerCalls route h.dispatched) :
    HandlerCalls route (runChecks e route cs h).2.dispatched := by
  induction cs generalizing h with
  | nil =>
    rw [runChecks, handleRequest_call]
    exact hh.concat fun _ => ⟨rfl, rfl⟩
  | cons c cs ih =>
    have hafter : HandlerCalls route (c.after e h).dispatched := by
      have hbefore : HandlerCalls route (c.prepare h).dispatched := by rwa [hprepare c List.mem_cons_self h]
      exact hbefore.concat fun hs => absurd hs (hsite c List.mem_cons_self)
    rcases @runChecks_cons e route c cs h with ⟨-, heq⟩ | hstays
    · rw [heq]
      exact ih (fun c hc => hprepare c (List.mem_cons_of_mem _ hc)) (fun c hc => hsite c (List.mem_cons_of_mem _ hc)) hafter
    · rw [hstays]
      exact hafter

/-- **The request handler's call** dispatches the route's handler. -/
theorem routeClosure_handler (e : Engine) (route : Route) (cfg : ResolvedProtocolConfig) (request : ℕ) :
    HandlerCalls route (routeClosure e route cfg request).2.dispatched := by
  rw [routeClosure_eq]
  exact runChecks_handler _ requiredChecks_prepare requiredChecks_site fun d hd => absurd hd List.not_mem_nil

/-- **A closure records the engine's calls.** -/
theorem routeClosure_faithful (e : Engine) (route : Route) (cfg : ResolvedProtocolConfig) (request : ℕ) :
    Faithful e (routeClosure e route cfg request) := by
  rw [routeClosure_eq]
  exact runChecks_faithful _ requiredChecks_prepare ⟨recorded_nil, fun d hd => absurd hd List.not_mem_nil⟩

end Closure

/-! ## Runs of requests -/

section Runs

variable {lib : Lib} {s₀ s : State} {trace : List Handled}

/-- **HTTP requests refine a run** of the callbacks that they call. -/
theorem http_run (h : HttpRun lib s₀ trace s) : Run lib s₀ (trace.flatMap (Handled.exchanges lib)) s := by
  induction h with
  | start => exact .start
  | request _ x hbefore _ hend ih =>
    subst hbefore
    have hfaithful := routeClosure_faithful (x.commands.engine lib x.before) x.route.route x.route.cfg x.request
    rw [List.flatMap_append, List.flatMap_singleton]
    exact effects_run ih hfaithful.recorded (hfaithful.ended hend)

theorem http_routes (h : HttpRun lib s₀ trace s) : s.routes = s₀.routes :=
  congrArg Wiring.routes (http_run h).wiring

/-- the routes that answer are those of the start -/
theorem http_route (h : HttpRun lib s₀ trace s) {x : Handled} (hx : x ∈ trace) : x.route ∈ s₀.routes := by
  induction h with
  | start => exact absurd hx List.not_mem_nil
  | request hbefore y _ hroute _ ih =>
    rcases List.mem_append.1 hx with hx | hx
    · exact ih hx
    · obtain rfl := List.mem_singleton.1 hx
      exact http_routes hbefore ▸ hroute

end Runs

/-! ## Admitted requests -/

/-- the checks that a route asks for were made, by the commands and with the strategies of its server's blocks, and
yielded true -/
structure Passed (e : Engine) (rr : RegisteredRoute) (dispatched : List Dispatched) : Prop where
  authenticated : ∀ auth, rr.route.auth.required = true → rr.cfg.auth = some auth →
    ∃ d ∈ dispatched, Authenticates e rr.cfg d
  authorized : ∀ auth authorization, rr.route.auth.required = true → rr.route.auth.authorization ≠ "" →
    rr.cfg.auth = some auth → auth.authorization = some authorization →
    ∃ d ∈ dispatched, Authorizes e rr.cfg rr.route.auth.authorization d

def Admitted (lib : Lib) (x : Handled) : Prop :=
  Passed (x.commands.engine lib x.before) x.route (x.outcome lib).2.dispatched

/-- the route is one of the file's, and its blocks are what the environment resolves those of its server there to: their
handlers, and the strategies of their names -/
def OfFile (w : World) (protos : List ProtocolServerConfig) (rr : RegisteredRoute) : Prop :=
  ∃ proto ∈ protos, rr.route ∈ proto.routes ∧ resolveAuth w proto.auth = .ok rr.cfg.auth

section Gate

variable {lib : Lib} {w : Phase → World} {configFilePath : String} {s₀ s : State} {trace : List Handled} {x : Handled}

theorem guarded_mem {ε : Type} {P Q : ε → Prop} {l : List ε} {a : ε} (h : Guarded P Q l) (ha : a ∈ l) (hq : Q a) :
    ∃ d ∈ l, P d := by
  obtain ⟨pre, post, rfl⟩ := List.append_of_mem ha
  obtain ⟨d, hd, hP⟩ := h pre a post rfl hq
  exact ⟨d, List.mem_append_left _ hd, hP⟩

/-- **A handler is dispatched only after the checks.** -/
theorem handler_passed {e : Engine} {rr : RegisteredRoute} {request : ℕ} {d : Dispatched}
    (hd : d ∈ (routeClosure e rr.route rr.cfg request).2.dispatched) (hsite : d.site = .requestHandler) :
    Passed e rr (routeClosure e rr.route rr.cfg request).2.dispatched := by
  have hhandles := routeClosure_handler e rr.route rr.cfg request d hd hsite
  refine ⟨fun auth hreq hauth => ?_, fun auth authorization hreq hdata hauth hauthz => ?_⟩
  · exact guarded_mem (authentication_guards hreq hauth request) hd hhandles
  · exact guarded_mem (authorization_guards hreq hdata hauth hauthz request) hd hhandles

theorem handler_admitted {call : Site × Exchange} (hcall : call ∈ (x.effects lib).calls)
    (hsite : call.1 = .requestHandler) : Admitted lib x := by
  obtain ⟨d, hd, hdsite⟩ := effects_call hcall
  exact handler_passed hd (hdsite.trans hsite)

theorem routes_of_file (h : startProcess lib w configFilePath = some s₀) :
    ∀ rr ∈ s₀.routes, OfFile (w .protocolServers) s₀.configs.m_ProtocolServerConfig rr := by
  obtain ⟨t, hstarted⟩ := startProcess_started h
  obtain ⟨cfgs, hresolved, hroutes⟩ := hstarted.routes
  intro rr hrr
  rw [hroutes] at hrr
  obtain ⟨cfg, hcfg, hregistered⟩ := List.mem_flatMap.1 hrr
  obtain ⟨hroute, rfl⟩ := registered_mem hregistered
  obtain ⟨proto, hproto, hto⟩ := forall₂_right hresolved hcfg
  exact ⟨proto, hproto, hto.routes ▸ hroute, hto.auth⟩

/-- **The gate of the management API.** -/
theorem management_gate (hstart : startProcess lib w configFilePath = some s₀) (h : HttpRun lib s₀ trace s) :
    Run lib s₀ (trace.flatMap (Handled.exchanges lib)) s ∧
    ∀ x ∈ trace, OfFile (w .protocolServers) s₀.configs.m_ProtocolServerConfig x.route ∧
      ∀ call ∈ (x.effects lib).calls, call.1 = .requestHandler → Admitted lib x := by
  refine ⟨http_run h, fun x hx => ⟨routes_of_file hstart x.route (http_route h hx), fun call hcall hsite => ?_⟩⟩
  exact handler_admitted hcall hsite

/-- a request that is not admitted calls nothing, if only handlers do -/
theorem denied_exchanges (hsilent : ∀ call ∈ (x.effects lib).calls, call.1 = .requestHandler) (hdenied : ¬ Admitted lib x) :
    x.exchanges lib = [] := by
  unfold Handled.exchanges
  rw [List.map_eq_nil_iff, List.eq_nil_iff_forall_not_mem]
  exact fun call hcall => hdenied (handler_admitted hcall (hsilent call hcall))

/-- the callbacks of the admitted requests -/
def admittedExchanges (lib : Lib) [DecidablePred (Admitted lib)] (trace : List Handled) : List Exchange :=
  (trace.filter fun x => Admitted lib x).flatMap (Handled.exchanges lib)

theorem admitted_run [DecidablePred (Admitted lib)] (h : HttpRun lib s₀ trace s)
    (hsilent : ∀ x ∈ trace, ∀ call ∈ (x.effects lib).calls, call.1 = .requestHandler) :
    Run lib s₀ (admittedExchanges lib trace) s := by
  have hall : admittedExchanges lib trace = trace.flatMap (Handled.exchanges lib) := by
    unfold admittedExchanges
    clear h
    induction trace with
    | nil => rfl
    | cons x trace ih =>
      have hrest := ih fun y hy => hsilent y (List.mem_cons_of_mem x hy)
      by_cases hx : Admitted lib x
      · rw [List.filter_cons_of_pos (by simpa using hx), List.flatMap_cons, List.flatMap_cons, hrest]
      · rw [List.filter_cons_of_neg (by simpa using hx), List.flatMap_cons, hrest,
          denied_exchanges (hsilent x List.mem_cons_self) hx, List.nil_append]
  rw [hall]
  exact http_run h

end Gate

/-! ## Where the backends are from -/

section Backends

variable {lib : Lib} {s₀ s : State} {trace l : List Exchange}

/-- what the exchanges of a list asked for -/
def asked (l : List Exchange) (x : {x // x ∈ l}) : World × Request := (x.1.world, x.1.request)

theorem request_configured {w : World} {r : Request} (hx : s.exchange lib w r ∈ l)
    (h : ConfiguredOnly lib (asked l) s₀ s.configs.m_ProxyConfig) :
    ConfiguredOnly lib (asked l) s₀ (s.request lib w r).2.configs.m_ProxyConfig := by
  cases r with
  | updateConfiguration content =>
    have hasked : (asked l ⟨_, hx⟩).2 = .updateConfiguration content := rfl
    have hstored := configuredOnly_load hasked h
    show ConfiguredOnly lib (asked l) s₀ (updateConfiguration lib w content s).2.configs.m_ProxyConfig
    rw [ValidTargets.updateConfiguration_stored]
    exact hstored
  | updateEndPointService content =>
    show ConfiguredOnly lib (asked l) s₀ (updateEndPointService lib w content s).2.configs.m_ProxyConfig
    rcases RoundTrip.updateEndPointService_configs w content s with hkept | ⟨req, cs, hload, hedit, hstored⟩
    · rw [hkept]
      exact h
    · have hasked : (asked l ⟨_, hx⟩).2 = .updateEndPointService content := rfl
      rw [hstored]
      exact configuredOnly_edit hasked hload hedit h

/-- what a run stores was stored at its start, or submitted in one of its requests -/
theorem run_configured (h : Run lib s₀ trace s) (hl : ∀ x ∈ trace, x ∈ l) :
    ConfiguredOnly lib (asked l) s₀ s.configs.m_ProxyConfig ∧
      ∀ x ∈ trace, ConfiguredOnly lib (asked l) s₀ x.after.configs.m_ProxyConfig := by
  induction h with
  | start => exact ⟨fun e he service hs => .stored he hs, fun x hx => absurd hx List.not_mem_nil⟩
  | request hs w r _ ih =>
    obtain ⟨hbefore, hearlier⟩ := ih fun x hx => hl x (List.mem_append_left _ hx)
    have hafter := request_configured (hl _ (List.mem_append_right _ (List.mem_singleton_self _))) hbefore
    refine ⟨hafter, fun x hx => ?_⟩
    rcases List.mem_append.1 hx with hx | hx
    · exact hearlier x hx
    · obtain rfl := List.mem_singleton.1 hx
      exact hafter

/-- a server in a balancer was there at the start, or is one of an endpoint that was configured -/
def Sourced (lib : Lib) (l : List Exchange) (s₀ : State) (b : BalancerId) (svc : ResolvedService) : Prop :=
  svc ∈ s₀.servers b ∨ ∃ e : RemoteEndPoint, svc ∈ resolveServices e ∧ s₀.reach e.endPointName = some b ∧
    ∀ service ∈ e.services, Configured lib (asked l) s₀ e.endPointName service

theorem applied_mem {c : ProxyConfig} {reach : String → Option BalancerId} {b : BalancerId} {svc : ResolvedService}
    (h : svc ∈ appliedServers c reach b) : ∃ e ∈ c.endPoints, reach e.endPointName = some b ∧ svc ∈ resolveServices e := by
  unfold appliedServers at h
  split at h
  · cases h
  · rename_i e hlast
    obtain ⟨he, hreach⟩ := List.mem_filter.1 (List.mem_of_getLast? hlast)
    exact ⟨e, he, by simpa using hreach, h⟩

/-- **Every backend has a source** among the requests of the run. -/
theorem run_sourced (h : Run lib s₀ trace s) (b : BalancerId) : ∀ svc ∈ s.servers b, Sourced lib trace s₀ b svc := by
  intro svc hsvc
  rw [run_servers h b] at hsvc
  cases hfind : (acknowledgedConfigs trace).reverse.find? fun c => ReachedBy c s₀.reach b with
  | none =>
    rw [hfind] at hsvc
    exact Or.inl hsvc
  | some c =>
    rw [hfind] at hsvc
    obtain ⟨x, hx, rfl⟩ := List.mem_map.1 (List.mem_reverse.1 (List.mem_of_find?_eq_some hfind))
    obtain ⟨e, he, hreach, hmem⟩ := applied_mem hsvc
    have hconfigured := (run_configured h fun _ => id).2 x (List.mem_of_mem_filter hx)
    exact Or.inr ⟨e, hmem, hreach, hconfigured e he⟩

/-- **Denied requests leave no trace.** -/
theorem denied_leave_no_trace [DecidablePred (Admitted lib)] {trace : List Handled} (h : HttpRun lib s₀ trace s)
    (hsilent : ∀ x ∈ trace, ∀ call ∈ (x.effects lib).calls, call.1 = .requestHandler) :
    Run lib s₀ (admittedExchanges lib trace) s ∧
      ∀ b, ∀ svc ∈ s.servers b, Sourced lib (admittedExchanges lib trace) s₀ b svc :=
  ⟨admitted_run h hsilent, run_sourced (admitted_run h hsilent)⟩

end Backends

/-! ## A server with one required route -/

/-- endpoint `a`, and the server of `gatedRoot` -/
def gatedFile : XMLDocument :=
  document (elem "clickhouse-proxy-v2"
    [elem "CLUSTERS" [elem "CLUSTER" [elem "END_POINTS" [endPointElement "a" "Pipeline" "" [("a1", "10.0.0.1")]]]],
      elem "protocol-server-config" [serverElement [authBlock] [leaf "required" "true"]],
      elem "api-gateway-server-config" []])

def gatedDocs : List (String × XMLDocument) :=
  [("config.xml", gatedFile), ("add", updateDocument "add" "a" "a2" "10.0.0.2")]

def gatedLib : Lib := .plain (.table gatedDocs)

def gatedProcess : State := plainProcess gatedDocs

def gatedRoute : Route := ⟨"/python", "POST", "PythonCommand", ⟨true, ""⟩⟩

def gatedRegistered : RegisteredRoute where
  httpHandler := 0
  path := "/python"
  method := .post
  route := gatedRoute
  cfg := ⟨"http", 8080, some 0, some 0, some ⟨some 0, "AuthCommand", some ⟨some 0, "AuthzCommand"⟩⟩, [gatedRoute]⟩

/-- adds the service and goes on -/
def addService (context : Context) : Command :=
  .calls .calm (.updateEndPointService "add") fun _ => .ends (.ret ()) context

/-- an authentication that is given its result, and a handler that adds a service -/
def updater (allowed : Bool) : Commands where
  keys := idle.keys
  absentKey := none
  command _ name context :=
    if name = "AuthCommand" then .ends (.ret ()) (Function.update context "authenticated" (some (.bool allowed)))
    else addService (Function.update context "response" (some (.response ⟨.other 200, [], "updated"⟩)))

def handled (commands : Commands) : Handled := ⟨gatedRegistered, commands, 0, gatedProcess⟩

theorem gatedProcess_started : startProcess gatedLib (fun _ => .calm) "config.xml" = some gatedProcess :=
  plainProcessOn_started (by decide)

theorem gatedRegistered_mem : gatedRegistered ∈ gatedProcess.routes := by decide

theorem handled_run {commands : Commands} {r : HttpResponse} (h : ((handled commands).outcome gatedLib).1 = .ret r) :
    HttpRun gatedLib gatedProcess [handled commands] ((handled commands).effects gatedLib).state :=
  HttpRun.start.request (handled commands) rfl gatedRegistered_mem (Or.inl ⟨r, h⟩)

/-- the handler of an authenticated request calls one callback -/
theorem updater_calls : ((handled (updater true)).effects gatedLib).calls.map Prod.fst = [.requestHandler] := by
  decide +kernel

theorem updater_call : ∃ call ∈ ((handled (updater true)).effects gatedLib).calls, call.1 = .requestHandler :=
  List.mem_map.1 (updater_calls ▸ List.mem_singleton_self _)

/-- **Witness.** An authenticated request adds the service. -/
theorem gated_update : ((handled (updater true)).effects gatedLib).state.hostsOf "a" = ["10.0.0.1", "10.0.0.2"] ∧
    Admitted gatedLib (handled (updater true)) := by
  have hanswer : ((handled (updater true)).outcome gatedLib).1 = .ret ⟨.other 200, [], "updated"⟩ := by decide +kernel
  obtain ⟨-, hgate⟩ := management_gate gatedProcess_started (handled_run hanswer)
  obtain ⟨-, hadmitted⟩ := hgate (handled (updater true)) (List.mem_singleton_self _)
  obtain ⟨call, hcall, hsite⟩ := updater_call
  exact ⟨by decide +kernel, hadmitted call hcall hsite⟩

/-- after that one, a request that is not authenticated -/
def unauthenticated : Handled :=
  ⟨gatedRegistered, updater false, 1, ((handled (updater true)).effects gatedLib).state⟩

theorem updater_admitted : Admitted gatedLib (handled (updater true)) := by
  obtain ⟨call, hcall, hsite⟩ := updater_call
  exact handler_admitted hcall hsite

theorem unauthenticated_denied : ¬ Admitted gatedLib unauthenticated := by
  intro h
  obtain ⟨d, hd, hauthenticates⟩ := h.authenticated _ rfl rfl
  obtain rfl := List.mem_singleton.1 hd
  exact absurd hauthenticates.passed (by decide)

/-- **Witness.** An authenticated request adds the service, and one that is not authenticated is denied after it: the state
is that of the first one's callback alone, and all the servers are from the start or from that one. -/
theorem denied_update : ∃ s, HttpRun gatedLib gatedProcess [handled (updater true), unauthenticated] s ∧
    (unauthenticated.outcome gatedLib).1 = .ret unauthorizedResponse ∧ s.hostsOf "a" = ["10.0.0.1", "10.0.0.2"] ∧
    Run gatedLib gatedProcess ((handled (updater true)).exchanges gatedLib) s ∧
    ∀ b, ∀ svc ∈ s.servers b, Sourced gatedLib ((handled (updater true)).exchanges gatedLib) gatedProcess b svc := by
  have hupdated : ((handled (updater true)).outcome gatedLib).1 = .ret ⟨.other 200, [], "updated"⟩ := by decide +kernel
  have hdenied : (unauthenticated.outcome gatedLib).1 = .ret unauthorizedResponse := by decide +kernel
  have hroute : gatedRegistered ∈ ((handled (updater true)).effects gatedLib).state.routes := by decide +kernel
  have hrun : HttpRun gatedLib gatedProcess [handled (updater true), unauthenticated] _ :=
    (handled_run hupdated).request unauthenticated rfl hroute (Or.inl ⟨_, hdenied⟩)
  have hsecond : (unauthenticated.effects gatedLib).calls = [] := rfl
  have hsilent : ∀ x ∈ [handled (updater true), unauthenticated], ∀ call ∈ (x.effects gatedLib).calls,
      call.1 = .requestHandler := by
    intro x hx call hcall
    rcases List.mem_cons.1 hx with rfl | hx
    · have hsite : call.1 ∈ ((handled (updater true)).effects gatedLib).calls.map Prod.fst := List.mem_map_of_mem hcall
      rw [updater_calls] at hsite
      exact List.mem_singleton.1 hsite
    · obtain rfl := List.mem_singleton.1 hx
      rw [hsecond] at hcall
      cases hcall
  classical
  have hadmitted : admittedExchanges gatedLib [handled (updater true), unauthenticated] =
      (handled (updater true)).exchanges gatedLib := by
    unfold admittedExchanges
    rw [List.filter_cons_of_pos (by simpa using updater_admitted),
      List.filter_cons_of_neg (by simpa using unauthenticated_denied)]
    exact List.append_nil _
  obtain ⟨hstate, hsourced⟩ := denied_leave_no_trace hrun hsilent
  rw [hadmitted] at hstate hsourced
  exact ⟨_, hrun, hdenied, by decide +kernel, hstate, hsourced⟩

/-- an authentication that adds the service, and then denies -/
def eager : Commands where
  keys := idle.keys
  absentKey := none
  command _ _ context := addService (Function.update context "authenticated" (some (.bool false)))

/-- **A check's command can do what its route then denies.** -/
theorem checks_may_reload : ((handled eager).outcome gatedLib).1 = .ret unauthorizedResponse ∧
    ((handled eager).effects gatedLib).state.hostsOf "a" = ["10.0.0.1", "10.0.0.2"] := by decide +kernel

end Asabru.ManagementGate
