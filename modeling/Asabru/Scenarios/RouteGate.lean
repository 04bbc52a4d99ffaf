/-
THE GATES OF THE MANAGEMENT ROUTES, from the XML text to the dispatch of the request handler.

A route's closure checks authentication if the route is required and its server has an auth block, and then authorization
if the route has authorization data and the server's auth block an authorization block. The flag and the data come from
the route's element, the two blocks from the server's.

- `authentication_gate_iff`: for every accepted and resolved document, the closure of a required route is guarded by
  authentication, for all behaviours of the commands, exactly when the element of its server has an auth child;
- `authorization_gate`: the closure of a required route whose element carries an authorization block is guarded by
  authorization with that route's data, on a server whose element has auth and authorization; a route that is not
  required dispatches its handler first.
Witnesses: `authentication_gate_closed`, `authorization_gate_closed`. Counterexamples: `required_route_is_open`,
`authorized_route_is_open`.

Adversary: any behaviour of the dispatched commands. Premise of `authorization_gate`: the printer does not print an element
as the empty text.
-/
import Mathlib.Tactic
import Asabru.Config.ProtocolDocument
import Asabru.Server.ProtocolServer
import Asabru.Server.RouteHandler

namespace Asabru.RouteGate

open Asabru.Control Asabru.Xml Asabru.Config Asabru.Pipelines Asabru.Precedence Asabru.Server

/-! ## Authentication -/

/-- the handler is dispatched only after the authentication command left the boolean true -/
def AuthenticationGate (route : Route) (cfg : ResolvedProtocolConfig) : Prop :=
  ∀ (e : Engine) (request : ℕ),
    Guarded (Authenticates e cfg) (Handles route) (routeClosure e route cfg request).2.dispatched

/-- commands that return and change nothing -/
def idle : Engine where
  keys := ⟨"auth_strategy", "authenticated", "authorization_data", "authorization_strategy", "authorized", by decide⟩
  absentKey := none
  dispatch _ _ context := (.ret (), context)

/-- a closure is gated exactly when its server has an auth block -/
theorem authenticationGate_iff {route : Route} {cfg : ResolvedProtocolConfig} (hreq : route.auth.required = true) :
    AuthenticationGate route cfg ↔ cfg.auth.isSome := by
  constructor
  · intro hgate
    by_contra hnone
    obtain ⟨d, hd, htrace⟩ := unchecked_dispatches idle route cfg
      (Or.inr (by simpa using hnone)) 0
    have hguarded := hgate idle 0
    rw [htrace] at hguarded
    exact guarded_singleton hd hguarded
  · intro hsome e request
    obtain ⟨auth, hauth⟩ := Option.isSome_iff_exists.1 hsome
    exact authentication_guards hreq hauth request

theorem registered_mem {lib : Lib} {cfg : ResolvedProtocolConfig} {rr : RegisteredRoute} (h : rr ∈ registered lib cfg) :
    rr.route ∈ cfg.routes ∧ rr.cfg = cfg := by
  unfold registered at h
  cases hh : cfg.handler with
  | none => rw [hh] at h; cases h
  | some handler =>
    simp only [hh] at h
    obtain ⟨route, hroute, hrr⟩ := List.mem_filterMap.1 h
    obtain ⟨m, -, rfl⟩ := Option.map_eq_some_iff.1 hrr
    exact ⟨hroute, rfl⟩

section Documents

variable {lib : Lib} {w : World} {u : Uninit} {root : XMLElement} {c servers : List ProtocolServerConfig} {s : State}
  {f : PipelineFactory} {cfgs : List ResolvedProtocolConfig}

/-- the element of a server and its resolved record -/
structure ServerOf (x : TinyXml) (ps : XMLElement) (cfg : ResolvedProtocolConfig) : Prop where
  auth : cfg.auth.isSome = (ps.firstChildElement "auth").isSome
  authorization : (cfg.auth.bind ResolvedProtocolAuthConfig.authorization).isSome =
    ((ps.firstChildElement "auth").bind fun a => a.firstChildElement "authorization").isSome
  routes : ∃ serverAuth, List.Forall₂ (RouteOf x serverAuth) (routeElements ps) cfg.routes

theorem serverOf {ps : XMLElement} {x : TinyXml} {proto : ProtocolServerConfig} {cfg : ResolvedProtocolConfig}
    (hl : ProtocolServerOf x ps proto) (hr : ProtocolResolvesTo w proto cfg) : ServerOf x ps cfg := by
  obtain ⟨hauth, hauthz⟩ := hr.blocks
  refine ⟨?_, ?_, (ps.firstChildElement "auth").isSome, ?_⟩
  · rw [hauth, hl.auth, Option.isSome_map]
  · rw [hauthz, hl.auth]
    cases ps.firstChildElement "auth" with
    | none => rfl
    | some authEl => simp [loadAuth]
  · rw [hr.routes]
    exact hl.routes

/-- from the elements of a document to the resolved servers -/
theorem servers_of_document (hload : loadProtocolServerConfigurations lib.xml u root c = (.ret .success, servers))
    (hres : resolveProtocolServerConfigurations lib w servers s.pipelineFactory = (.ok cfgs, f)) :
    List.Forall₂ (ServerOf lib.xml) (protocolServerElements root) cfgs := by
  have h₁ := loadProtocol_servers hload
  have h₂ := resolveProtocol_ok hres
  clear hload hres
  generalize protocolServerElements root = elements at h₁ ⊢
  induction h₁ generalizing cfgs with
  | nil => cases h₂; exact .nil
  | cons hl _ ih =>
    cases h₂ with
    | cons hr hrest => exact .cons (serverOf hl hr) (ih hrest)

/-- the routes of a process whose protocol servers are being started are those of resolved servers -/
theorem routes_registered (hs : s.configs.m_ProtocolServerConfig = servers) (hnone : s.routes = [])
    (hres : resolveProtocolServerConfigurations lib w servers s.pipelineFactory = (.ok cfgs, f)) :
    ∀ rr ∈ (initProtocolServers lib w s).2.routes, ∃ cfg ∈ cfgs, rr ∈ registered lib cfg := by
  intro rr hrr
  rcases (initProtocolServers_kept lib w s).2 rr hrr with h | ⟨cfgs', f', hres', h⟩
  · rw [hnone] at h
    cases h
  · rw [hs, hres] at hres'
    obtain ⟨hok, -⟩ := Prod.mk.inj hres'
    obtain rfl := Except.ok.inj hok
    exact h

/-- **Authentication gates the required routes of exactly the servers with an auth element.** Every registered closure is
one of a resolved server, and those of the server of element `ps` are gated iff `ps` has an auth child. -/
theorem authentication_gate_iff
    (hload : loadProtocolServerConfigurations lib.xml u root c = (.ret .success, servers))
    (hs : s.configs.m_ProtocolServerConfig = servers) (hnone : s.routes = [])
    (hres : resolveProtocolServerConfigurations lib w servers s.pipelineFactory = (.ok cfgs, f)) :
    (∀ rr ∈ (initProtocolServers lib w s).2.routes, ∃ cfg ∈ cfgs, rr ∈ registered lib cfg) ∧
    List.Forall₂ (fun ps cfg => ∀ rr ∈ registered lib cfg, rr.route.auth.required = true →
      (AuthenticationGate rr.route rr.cfg ↔ ps.firstChildElement "auth" ≠ none)) (protocolServerElements root) cfgs := by
  refine ⟨routes_registered hs hnone hres, (servers_of_document hload hres).imp ?_⟩
  intro ps cfg hserver rr hrr hreq
  obtain ⟨-, hcfg⟩ := registered_mem hrr
  rw [authenticationGate_iff hreq, hcfg, hserver.auth, Option.isSome_iff_ne_none]

/-! ## Documents with one server and one route -/

/-- a protocol server with one route -/
def serverElement (auth routeAuth : List XMLElement) : XMLElement :=
  ⟨"protocol-server", [("protocol", "http")], ([leaf "protocol-port" "8080", leaf "pipeline" "Pipeline",
    leaf "handler" "Handler"] ++ auth ++ [elem "routes" [elem "route" [leaf "path" "/python", leaf "method" "POST",
      leaf "request_handler" "PythonCommand", elem "auth" routeAuth]]]).map .element⟩

def serverRoot (auth routeAuth : List XMLElement) : XMLElement :=
  elem "clickhouse-proxy-v2" [elem "protocol-server-config" [serverElement auth routeAuth]]

/-- an auth block with an authorization block -/
def authBlock : XMLElement :=
  elem "auth" [leaf "strategy" "basic", leaf "handler" "AuthCommand",
    elem "authorization" [leaf "strategy" "rbac", leaf "handler" "AuthzCommand"]]

/-- a load and a resolution of a root, and the process before its protocol servers are started -/
def plainLoad (root : XMLElement) : Ending XMLError × List ProtocolServerConfig :=
  loadProtocolServerConfigurations (Lib.plain (.table [])).xml World.calm.uninit root []

def plainResolve (root : XMLElement) : Except Exn (List ResolvedProtocolConfig) × PipelineFactory :=
  resolveProtocolServerConfigurations (.plain (.table [])) .calm (plainLoad root).2 plainFactory

def beforeStart (root : XMLElement) : State :=
  .fresh { Configs.empty with m_ProtocolServerConfig := (plainLoad root).2 } plainFactory

/-- the resolved servers of an example -/
def resolvedServers (root : XMLElement) : List ResolvedProtocolConfig :=
  match (plainResolve root).1 with
  | .ok cfgs => cfgs
  | .error _ => []

/-- a required route of a server with an auth block -/
def gatedRoot : XMLElement := serverRoot [authBlock] [leaf "required" "true", elem "authorization" []]

theorem authentication_gate_closed :
    (∀ rr ∈ (initProtocolServers (.plain (.table [])) .calm (beforeStart gatedRoot)).2.routes,
      ∃ cfg ∈ resolvedServers gatedRoot, rr ∈ registered (.plain (.table [])) cfg) ∧
    List.Forall₂ (fun ps cfg => ∀ rr ∈ registered (.plain (.table [])) cfg, rr.route.auth.required = true →
      (AuthenticationGate rr.route rr.cfg ↔ ps.firstChildElement "auth" ≠ none))
      (protocolServerElements gatedRoot) (resolvedServers gatedRoot) := by
  have hload : plainLoad gatedRoot = (.ret .success, (plainLoad gatedRoot).2) := Prod.ext (by decide) rfl
  have hres : plainResolve gatedRoot = (.ok (resolvedServers gatedRoot), (plainResolve gatedRoot).2) :=
    Prod.ext (by decide) rfl
  exact authentication_gate_iff hload rfl rfl hres

/-- a required route of a server without an auth block -/
def openRoot : XMLElement := serverRoot [] [leaf "required" "true"]

/-- what a registered route says about its checks -/
def checksOf (rr : RegisteredRoute) : Bool × String × Bool × Bool :=
  (rr.route.auth.required, rr.route.auth.authorization, rr.cfg.auth.isSome,
    (rr.cfg.auth.bind ResolvedProtocolAuthConfig.authorization).isSome)

/-- the only route of a list, by its checks -/
theorem only_route {routes : List RegisteredRoute} {checks : Bool × String × Bool × Bool}
    (h : routes.map checksOf = [checks]) : ∃ rr ∈ routes, checksOf rr = checks := by
  have : checks ∈ routes.map checksOf := by rw [h]; exact List.mem_singleton_self checks
  exact List.mem_map.1 this

/-- the document is accepted, it starts, its route is required, and no command guards it -/
theorem required_route_is_open :
    (plainLoad openRoot).1 = .ret .success ∧
    (initProtocolServers (.plain (.table [])) .calm (beforeStart openRoot)).1 = .ret 0 ∧
    ∃ rr ∈ (initProtocolServers (.plain (.table [])) .calm (beforeStart openRoot)).2.routes,
      rr.route.auth.required = true ∧ ¬ AuthenticationGate rr.route rr.cfg := by
  refine ⟨by decide, by decide, ?_⟩
  have hroutes : (initProtocolServers (.plain (.table [])) .calm (beforeStart openRoot)).2.routes.map checksOf =
      [(true, "", false, false)] := by decide
  obtain ⟨rr, hrr, hchecks⟩ := only_route hroutes
  obtain ⟨hreq, -, hauth, -⟩ : rr.route.auth.required = true ∧ rr.route.auth.authorization = "" ∧
      rr.cfg.auth.isSome = false ∧ _ := by simpa [checksOf] using hchecks
  exact ⟨rr, hrr, hreq, fun hgate => by simp [(authenticationGate_iff hreq).1 hgate] at hauth⟩

/-! ## Authorization -/

/-- the handler is dispatched only after the authorization command, given the data, left the boolean true -/
def AuthorizationGate (route : Route) (cfg : ResolvedProtocolConfig) (data : String) : Prop :=
  ∀ (e : Engine) (request : ℕ),
    Guarded (Authorizes e cfg data) (Handles route) (routeClosure e route cfg request).2.dispatched

/-- the handler is the first command that is dispatched -/
def Open (route : Route) (cfg : ResolvedProtocolConfig) : Prop :=
  ∀ (e : Engine) (request : ℕ), ∃ d, Handles route d ∧ (routeClosure e route cfg request).2.dispatched = [d]

/-- what the blocks of a server and of a route make of the route's closure -/
structure RouteGated (x : TinyXml) (ps routeEl : XMLElement) (route : Route) (cfg : ResolvedProtocolConfig) : Prop where
  gated : ∀ authzEl, routeAuthChild routeEl "authorization" = some authzEl → route.auth.required = true →
    ((ps.firstChildElement "auth").bind fun a => a.firstChildElement "authorization").isSome →
    AuthorizationGate route cfg (x.print authzEl)
  unchecked : route.auth.required = false → Open route cfg

theorem routeGated {ps routeEl : XMLElement} {route : Route} {x : TinyXml} {cfg : ResolvedProtocolConfig} {b : Bool}
    (hprint : ∀ el, x.print el ≠ "") (hserver : ServerOf x ps cfg) (hroute : RouteOf x b routeEl route) :
    RouteGated x ps routeEl route cfg := by
  refine ⟨fun authzEl hel hreq hblock e request => ?_,
    fun hreq e request => unchecked_dispatches e route cfg (Or.inl hreq) request⟩
  have hdata : route.auth.authorization = x.print authzEl := by
    rw [hroute.authorization, hel]
    rfl
  rw [← hserver.authorization] at hblock
  obtain ⟨authorization, hauthz⟩ := Option.isSome_iff_exists.1 hblock
  obtain ⟨auth, hauth, hauthz⟩ := Option.bind_eq_some_iff.1 hauthz
  rw [← hdata]
  exact authorization_guards hreq (by rw [hdata]; exact hprint authzEl) hauth hauthz request

/-- **Authorization gates the required routes of the servers with an authorization block**, and a route that is not
required is not checked. -/
theorem authorization_gate (hprint : ∀ el, lib.xml.print el ≠ "")
    (hload : loadProtocolServerConfigurations lib.xml u root c = (.ret .success, servers))
    (hs : s.configs.m_ProtocolServerConfig = servers) (hnone : s.routes = [])
    (hres : resolveProtocolServerConfigurations lib w servers s.pipelineFactory = (.ok cfgs, f)) :
    (∀ rr ∈ (initProtocolServers lib w s).2.routes, ∃ cfg ∈ cfgs, rr.route ∈ cfg.routes ∧ rr.cfg = cfg) ∧
    List.Forall₂ (fun ps cfg => List.Forall₂ (fun routeEl route => RouteGated lib.xml ps routeEl route cfg)
      (routeElements ps) cfg.routes) (protocolServerElements root) cfgs := by
  refine ⟨fun rr hrr => ?_, (servers_of_document hload hres).imp ?_⟩
  · obtain ⟨cfg, hcfg, hmem⟩ := routes_registered hs hnone hres rr hrr
    exact ⟨cfg, hcfg, registered_mem hmem⟩
  · intro ps cfg hserver
    obtain ⟨b, hroutes⟩ := hserver.routes
    exact hroutes.imp fun routeEl route hroute => routeGated hprint hserver hroute

end Documents

/-- a document whose servers have both blocks, with a required route -/
theorem authorization_gate_closed :
    (∀ rr ∈ (initProtocolServers (.plain (.table [])) .calm (beforeStart gatedRoot)).2.routes,
      ∃ cfg ∈ resolvedServers gatedRoot, rr.route ∈ cfg.routes ∧ rr.cfg = cfg) ∧
    List.Forall₂ (fun ps cfg => List.Forall₂ (fun routeEl route => RouteGated (.table []) ps routeEl route cfg)
      (routeElements ps) cfg.routes) (protocolServerElements gatedRoot) (resolvedServers gatedRoot) := by
  have hload : plainLoad gatedRoot = (.ret .success, (plainLoad gatedRoot).2) := Prod.ext (by decide) rfl
  have hres : plainResolve gatedRoot = (.ok (resolvedServers gatedRoot), (plainResolve gatedRoot).2) :=
    Prod.ext (by decide) rfl
  have hprint : ∀ el, (Lib.plain (.table [])).xml.print el ≠ "" := by
    intro el h
    simp [Lib.plain, TinyXml.table] at h
  exact authorization_gate hprint hload rfl rfl hres

/-- a route with authorization data that is not required, on a server with both blocks -/
def optionalRoot : XMLElement := serverRoot [authBlock] [leaf "required" "false", elem "authorization" []]

/-- the route's element carries an authorization block, and no command guards the route -/
theorem authorized_route_is_open :
    (plainLoad optionalRoot).1 = .ret .success ∧
    (initProtocolServers (.plain (.table [])) .calm (beforeStart optionalRoot)).1 = .ret 0 ∧
    ∃ rr ∈ (initProtocolServers (.plain (.table [])) .calm (beforeStart optionalRoot)).2.routes,
      rr.route.auth.authorization = "<authorization/>\n" ∧
        ¬ AuthorizationGate rr.route rr.cfg rr.route.auth.authorization := by
  refine ⟨by decide, by decide, ?_⟩
  have hroutes : (initProtocolServers (.plain (.table [])) .calm (beforeStart optionalRoot)).2.routes.map checksOf =
      [(false, "<authorization/>\n", true, true)] := by decide
  obtain ⟨rr, hrr, hchecks⟩ := only_route hroutes
  obtain ⟨hreq, hdata, -⟩ : rr.route.auth.required = false ∧ rr.route.auth.authorization = "<authorization/>\n" ∧ _ := by
    simpa [checksOf] using hchecks
  refine ⟨rr, hrr, hdata, fun hgate => ?_⟩
  obtain ⟨d, hd, htrace⟩ := unchecked_dispatches idle rr.route rr.cfg (Or.inl hreq) 0
  have := hgate idle 0
  rw [htrace] at this
  exact guarded_singleton hd this

end Asabru.RouteGate
