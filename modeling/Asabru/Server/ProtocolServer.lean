/-
protocol_server.h: the two callbacks of the management API, and starting the protocol servers with their routes.

`updateConfiguration` drops the code that the load returns and always re-applies the stored configuration;
`updateEndPointService` goes on only with a parsed request.

Results:
- `updateConfiguration_eq`, `updateEndPointService_eq`: the callbacks by how the load and the parse end;
- `updateConfiguration_acknowledged`, `updateEndPointService_acknowledged`, `updateEndPointService_refused`: what a request
  did, by its reply;
- `initProtocolServers_routes`: after a start the routes registered are, server by server, those with a
  known method, each with its own server's configuration (`registered`).
-/
import Mathlib.Tactic
import Asabru.Config.Parse
import Asabru.Server.ProxyStart

namespace Asabru.Server

open Asabru.Control Asabru.Config Asabru.Pipelines

/-! ## Callbacks -/

/-- `ConfigSingleton::LoadConfigurationsFromString` on the singleton's variables -/
def State.loadFromString (lib : Lib) (w : World) (xml_string : String) (s : State) : Ending Xml.XMLError × State :=
  let r := loadConfigurationsFromString lib.xml w.uninit xml_string s.configs
  (r.1, { s with configs := r.2 })

def updateConfiguration (lib : Lib) (w : World) (content : String) (s : State) : Ending Reply × State :=
  catchStd errorReply (andThen (s.loadFromString lib w content) fun _ s => updateProxyServers lib w s)

def updateEndPointService (lib : Lib) (w : World) (content : String) (s : State) : Ending Reply × State :=
  catchStd errorReply
    (match loadEndpointServiceFromString lib.xml w.uninit content with
      | .error e => (.throws e, s)
      | .ok cfg => updateProxyEndPointService lib w cfg s)

/-! ## Starting protocol servers -/

def State.modifyProtocolSocket (sid : SocketId) (f : ProtocolSocket → ProtocolSocket) (s : State) : State :=
  { s with protocolSockets := Function.update s.protocolSockets sid ((s.protocolSockets sid).map f) }

/-- a null handler is not set -/
def startProtocolServer (w : World) (socket : Option SocketId) (configValue : ResolvedProtocolConfig) (s : State) :
    Int × State :=
  match socket with
  | none => (-1, s)
  | some sid =>
    if w.accepts .setPipeline sid = false then (-2, s)
    else
      let s := s.modifyProtocolSocket sid fun sock => { sock with pipeline := configValue.pipeline }
      if configValue.handler.isSome ∧ w.accepts .setHandler sid = false then (-2, s)
      else
        let s := if configValue.handler.isSome then
            s.modifyProtocolSocket sid fun sock => { sock with handler := configValue.handler }
          else s
        if w.accepts .start sid = false then (-3, s)
        else (0, s.modifyProtocolSocket sid fun sock => { sock with started := true })

/-- `new CProtocolSocket(port)` -/
def State.newProtocolSocket (port : Int) (s : State) : SocketId × State :=
  (s.nextSocket,
    { s with
      protocolSockets := Function.update s.protocolSockets s.nextSocket (some ⟨port, none, none, false⟩)
      nextSocket := s.nextSocket + 1 })

/-- `protocolSocketsMap[name] = sock` -/
def State.registerProtocolSocket (name : String) (sid : SocketId) (s : State) : State :=
  { s with protocolSocketsMap := Function.update s.protocolSocketsMap name (some sid) }

/-- `protocolSocketsMap.erase(name)` and `delete sock` -/
def State.dropProtocolSocket (name : String) (sid : SocketId) (s : State) : State :=
  { s with
    protocolSocketsMap := Function.update s.protocolSocketsMap name none
    protocolSockets := Function.update s.protocolSockets sid none }

/-- the routes that the loop registers for a server: none without a handler, and a route of an unknown method is skipped -/
def registered (lib : Lib) (cfg : ResolvedProtocolConfig) : List RegisteredRoute :=
  match cfg.handler with
  | none => []
  | some httpHandler => cfg.routes.filterMap fun route =>
    (lib.httpMethodEnumMap route.method).map fun method =>
      { httpHandler := httpHandler, path := route.path, method := method, route := route, cfg := cfg }

/-- body of the loop: an exit is the code that is returned -/
def initProtocolServer (lib : Lib) (w : World) (cfg : ResolvedProtocolConfig) (s : State) : Except Int Unit × State :=
  let s := { s with routes := s.routes ++ registered lib cfg }
  let sock := s.newProtocolSocket cfg.protocol_port
  let result := startProtocolServer w (some sock.1) cfg (sock.2.registerProtocolSocket cfg.protocol_name sock.1)
  if result.1 < 0 then (.error result.1, result.2.dropProtocolSocket cfg.protocol_name sock.1) else (.ok (), result.2)

def initProtocolServers (lib : Lib) (w : World) (s : State) : Ending Int × State :=
  let r := resolveProtocolServerConfigurations lib w s.configs.m_ProtocolServerConfig s.pipelineFactory
  let s := { s with pipelineFactory := r.2 }
  match r.1 with
  | .error e => (.throws e, s)
  | .ok configs =>
    let t := traverse (initProtocolServer lib w) configs s
    (.ret (loopCode t.1), t.2)

/-! ## What a start registers -/

/-- what starting protocol servers does not touch -/
structure ProxySideKept (s t : State) : Prop where
  configs : t.configs = s.configs
  proxySocketsMap : t.proxySocketsMap = s.proxySocketsMap
  proxySockets : t.proxySockets = s.proxySockets
  libuvSockets : t.libuvSockets = s.libuvSockets
  servers : t.servers = s.servers
  nextSocket : s.nextSocket ≤ t.nextSocket

theorem ProxySideKept.refl (s : State) : ProxySideKept s s := ⟨rfl, rfl, rfl, rfl, rfl, le_rfl⟩

theorem ProxySideKept.trans {s t u : State} (h₁ : ProxySideKept s t) (h₂ : ProxySideKept t u) : ProxySideKept s u :=
  ⟨h₂.configs.trans h₁.configs, h₂.proxySocketsMap.trans h₁.proxySocketsMap, h₂.proxySockets.trans h₁.proxySockets,
    h₂.libuvSockets.trans h₁.libuvSockets, h₂.servers.trans h₁.servers, h₁.nextSocket.trans h₂.nextSocket⟩

theorem startProtocolServer_kept (w : World) (socket : Option SocketId) (cfg : ResolvedProtocolConfig) (s : State) :
    ProxySideKept s (startProtocolServer w socket cfg s).2 ∧ (startProtocolServer w socket cfg s).2.routes = s.routes := by
  unfold startProtocolServer
  cases socket with
  | none => exact ⟨.refl s, rfl⟩
  | some sid =>
    dsimp only
    split_ifs <;> exact ⟨⟨rfl, rfl, rfl, rfl, rfl, le_rfl⟩, rfl⟩

theorem initProtocolServer_kept (lib : Lib) (w : World) (cfg : ResolvedProtocolConfig) (s : State) :
    ProxySideKept s (initProtocolServer lib w cfg s).2 ∧
      (initProtocolServer lib w cfg s).2.routes = s.routes ++ registered lib cfg := by
  unfold initProtocolServer
  dsimp only
  obtain ⟨hk, hr⟩ := startProtocolServer_kept w (some s.nextSocket) cfg
    (({ s with routes := s.routes ++ registered lib cfg }.newProtocolSocket cfg.protocol_port).2.registerProtocolSocket
      cfg.protocol_name s.nextSocket)
  have hnext := (Nat.le_succ s.nextSocket).trans hk.nextSocket
  split_ifs
  · exact ⟨⟨hk.configs, hk.proxySocketsMap, hk.proxySockets, hk.libuvSockets, hk.servers, hnext⟩, hr⟩
  · exact ⟨⟨hk.configs, hk.proxySocketsMap, hk.proxySockets, hk.libuvSockets, hk.servers, hnext⟩, hr⟩

theorem initProtocolServer_error {lib : Lib} {w : World} {cfg : ResolvedProtocolConfig} {s t : State} {code : Int}
    (h : initProtocolServer lib w cfg s = (.error code, t)) : code < 0 := negative_of_error h

/-- **What the start of the protocol servers touches**, however it ends: every route it registers is one of a resolved
server, and the proxy side stays as it was. -/
theorem initProtocolServers_kept (lib : Lib) (w : World) (s : State) :
    ProxySideKept s (initProtocolServers lib w s).2 ∧ ∀ rr ∈ (initProtocolServers lib w s).2.routes, rr ∈ s.routes ∨
      ∃ cfgs f, resolveProtocolServerConfigurations lib w s.configs.m_ProtocolServerConfig s.pipelineFactory =
        (.ok cfgs, f) ∧ ∃ cfg ∈ cfgs, rr ∈ registered lib cfg := by
  unfold initProtocolServers
  rcases hr : resolveProtocolServerConfigurations lib w s.configs.m_ProtocolServerConfig s.pipelineFactory with ⟨r, f⟩
  cases r with
  | error e => exact ⟨⟨rfl, rfl, rfl, rfl, rfl, le_rfl⟩, fun rr hrr => Or.inl hrr⟩
  | ok cfgs =>
    have step : ∀ cfg ∈ cfgs, ∀ t, (ProxySideKept s t ∧ ∀ rr ∈ t.routes, rr ∈ s.routes ∨
        ∃ cfg ∈ cfgs, rr ∈ registered lib cfg) → ProxySideKept s (initProtocolServer lib w cfg t).2 ∧
        ∀ rr ∈ (initProtocolServer lib w cfg t).2.routes, rr ∈ s.routes ∨ ∃ cfg ∈ cfgs, rr ∈ registered lib cfg := by
      rintro cfg hcfg t ⟨hk, hrt⟩
      obtain ⟨hk', hr'⟩ := initProtocolServer_kept lib w cfg t
      refine ⟨hk.trans hk', fun rr hrr => ?_⟩
      rw [hr'] at hrr
      rcases List.mem_append.1 hrr with h | h
      · exact hrt rr h
      · exact Or.inr ⟨cfg, hcfg, h⟩
    obtain ⟨hk, hroutes⟩ := traverse_keeps (P := fun t => ProxySideKept s t ∧ ∀ rr ∈ t.routes, rr ∈ s.routes ∨
      ∃ cfg ∈ cfgs, rr ∈ registered lib cfg) step (s := { s with pipelineFactory := f })
      ⟨⟨rfl, rfl, rfl, rfl, rfl, le_rfl⟩, fun rr hrr => Or.inl hrr⟩
    exact ⟨hk, fun rr hrr => (hroutes rr hrr).imp id fun h => ⟨cfgs, f, rfl, h⟩⟩

/-- **The routes after a start**, server by server. -/
theorem initProtocolServers_routes {lib : Lib} {w : World} {s t : State} {code : Int}
    (h : initProtocolServers lib w s = (.ret code, t)) (hcode : 0 ≤ code) :
    ∃ cfgs, List.Forall₂ (ProtocolResolvesTo w) s.configs.m_ProtocolServerConfig cfgs ∧
      t.routes = s.routes ++ cfgs.flatMap (registered lib) := by
  unfold initProtocolServers at h
  rcases hr : resolveProtocolServerConfigurations lib w s.configs.m_ProtocolServerConfig s.pipelineFactory with ⟨r, f⟩
  simp only [hr] at h
  cases r with
  | error e => cases h
  | ok cfgs =>
    simp only [Prod.mk.injEq, Ending.ret.injEq] at h
    obtain ⟨us, hus⟩ := loopCode_ok (fun _ _ _ _ => initProtocolServer_error) (h.1.symm ▸ hcode)
    refine ⟨cfgs, resolveProtocol_ok hr, ?_⟩
    have step : ∀ done, ∀ cfg ∈ cfgs, ∀ (s' : State) (b : Unit) (t' : State),
        s'.routes = s.routes ++ done.flatMap (registered lib) → initProtocolServer lib w cfg s' = (.ok b, t') →
        t'.routes = s.routes ++ (done ++ [cfg]).flatMap (registered lib) := by
      intro done cfg _ s' b t' hP hb
      have hk := (initProtocolServer_kept lib w cfg s').2
      rw [hb, hP] at hk
      simpa using hk
    have hnil : ({ s with pipelineFactory := f } : State).routes = s.routes ++ [].flatMap (registered lib) := by simp
    rw [← h.2]
    have hloop := traverse_inv [] step hus hnil
    exact hloop

/-! ## How the callbacks end -/

/-- a load that reaches a root changes the configurations only, as `parseRoot` does -/
theorem loadFromString_root {lib : Lib} {w : World} {content : String} {s : State} {pRoot : Xml.XMLElement}
    (h : readRoot content lib.xml.parse = some pRoot) :
    s.loadFromString lib w content = ((parseRoot lib.xml w.uninit pRoot s.configs).1,
      { s with configs := (parseRoot lib.xml w.uninit pRoot s.configs).2 }) := by
  unfold State.loadFromString
  rw [loadConfigurationsFromString, load_root h]

/-- **A reload is a pass over whatever is stored when the load returns**, and the load's exception otherwise. -/
theorem updateConfiguration_eq (lib : Lib) (w : World) (content : String) (s : State) :
    updateConfiguration lib w content s = match s.loadFromString lib w content with
      | (.ret _, t) => updateProxyServers lib w t
      | (.throws (.std what), t) => (.ret (errorReply what), t)
      | (.throws .other, t) => (.throws .other, t)
      | (.hangs, t) => (.hangs, t)
      | (.undefined, t) => (.undefined, t) := by
  unfold updateConfiguration
  rcases s.loadFromString lib w content with ⟨e, t⟩
  cases e with
  | ret code => exact updateProxyServers_caught lib w t
  | throws err => cases err <;> rfl
  | hangs => rfl
  | undefined => rfl

/-- **An acknowledged reload** loaded, resolved what the load left, and passed over it. -/
theorem updateConfiguration_acknowledged {lib : Lib} {w : World} {content : String} {s t : State} {r : Reply}
    (h : updateConfiguration lib w content s = (.ret r, t)) (hr : r.status = .ok) :
    ∃ code u, s.loadFromString lib w content = (.ret code, u) ∧ resolutionFailure lib w u = none ∧ Updated u t := by
  rw [updateConfiguration_eq] at h
  rcases hl : s.loadFromString lib w content with ⟨e, u⟩
  rw [hl] at h
  cases e with
  | ret code => exact ⟨code, u, rfl, updateProxyServers_acknowledged h hr⟩
  | throws err =>
    cases err with
    | std what => cases h; cases hr
    | other => cases h
  | hangs => cases h
  | undefined => cases h

theorem updateProxyEndPointService_caught (lib : Lib) (w : World) (req : EndPointServiceConfig) (s : State) :
    catchStd errorReply (updateProxyEndPointService lib w req s) = updateProxyEndPointService lib w req s := by
  unfold updateProxyEndPointService
  split_ifs
  · rfl
  · cases editClusters req s.configs.m_ProxyConfig.clusters with
    | none => rfl
    | some clusters => exact updateProxyServers_caught lib w _

/-- **A service update is answered by its parser or by the update of the parsed request.** -/
theorem updateEndPointService_eq (lib : Lib) (w : World) (content : String) (s : State) :
    updateEndPointService lib w content s = match loadEndpointServiceFromString lib.xml w.uninit content with
      | .error (.std what) => (.ret (errorReply what), s)
      | .error .other => (.throws .other, s)
      | .ok req => updateProxyEndPointService lib w req s := by
  unfold updateEndPointService
  cases loadEndpointServiceFromString lib.xml w.uninit content with
  | error e => cases e <;> rfl
  | ok req => exact updateProxyEndPointService_caught lib w req s

/-- **An acknowledged service update** parsed, found its endpoint, committed the edit and passed over it. -/
theorem updateEndPointService_acknowledged {lib : Lib} {w : World} {content : String} {s t : State} {r : Reply}
    (h : updateEndPointService lib w content s = (.ret r, t)) (hr : r.status = .ok) :
    ∃ req cs, loadEndpointServiceFromString lib.xml w.uninit content = .ok req ∧
      editClusters req s.configs.m_ProxyConfig.clusters = some cs ∧ Updated (s.setProxyConfig ⟨cs⟩) t := by
  rw [updateEndPointService_eq] at h
  cases hl : loadEndpointServiceFromString lib.xml w.uninit content with
  | error e =>
    rw [hl] at h
    cases e with
    | std what => cases h; cases hr
    | other => cases h
  | ok req =>
    rw [hl] at h
    simp only [updateProxyEndPointService_eq (loadEndpointService_operation hl)] at h
    cases he : editClusters req s.configs.m_ProxyConfig.clusters with
    | none => simp only [he] at h; cases h; cases hr
    | some cs =>
      simp only [he] at h
      exact ⟨req, cs, rfl, he, (updateProxyServers_acknowledged h hr).2⟩

/-- **A refused service update** named no stored endpoint and changed nothing, or committed its edit before the stored
configuration failed to resolve. -/
theorem updateEndPointService_refused {lib : Lib} {w : World} {content : String} {s t : State} {r : Reply}
    (h : updateEndPointService lib w content s = (.ret r, t)) (hr : r.status = .error) :
    (t = s ∧ ∀ req, loadEndpointServiceFromString lib.xml w.uninit content = .ok req →
      editClusters req s.configs.m_ProxyConfig.clusters = none) ∨
    ∃ req cs what, loadEndpointServiceFromString lib.xml w.uninit content = .ok req ∧
      editClusters req s.configs.m_ProxyConfig.clusters = some cs ∧
      resolutionFailure lib w s = some (.std what) ∧
      t.configs = (s.setProxyConfig ⟨cs⟩).configs ∧ t.servers = s.servers := by
  rw [updateEndPointService_eq] at h
  cases hl : loadEndpointServiceFromString lib.xml w.uninit content with
  | error e =>
    rw [hl] at h
    cases e with
    | std what =>
      cases h
      exact Or.inl ⟨rfl, fun _ hreq => (nomatch hreq)⟩
    | other => cases h
  | ok req =>
    rw [hl] at h
    simp only [updateProxyEndPointService_eq (loadEndpointService_operation hl)] at h
    cases he : editClusters req s.configs.m_ProxyConfig.clusters with
    | none =>
      simp only [he] at h
      cases h
      refine Or.inl ⟨rfl, fun req' hreq => ?_⟩
      obtain rfl := Except.ok.inj hreq
      exact he
    | some cs =>
      simp only [he] at h
      obtain ⟨what, hfail, hconfigs, hservers⟩ := updateProxyServers_refused h hr
      rw [resolutionFailure_edit he] at hfail
      exact Or.inr ⟨req, cs, what, rfl, he, hfail, hconfigs, hservers⟩

end Asabru.Server
