/-
The ports that sockets listen on, and the tables that gateway sockets route by.

The resolvers refuse a port out of range, whatever was configured; the gateway start takes the end-point's port as it is.

Results:
- `resolveProxy_listens`, `resolveProtocol_listens`: a resolved record has a port in range;
- `startProcess_sockets`: after a start every proxy, libuv and protocol socket has a port in range, and every gateway
  socket the port and table of a loaded end-point (`SocketsFrom`);
- `SocketsFrom.of_wiring`: so it is in any state with the same wiring.
-/
import Mathlib.Tactic
import Asabru.Server.Process
import Asabru.Server.Registration
import Asabru.Server.Resolvable

namespace Asabru.Server

open Asabru.Control Asabru.Config Asabru.Pipelines

/-! ## Resolved records -/

theorem resolveProxy_listens {lib : Lib} {w : World} {c : ProxyConfig} {f f' : PipelineFactory}
    {cfgs : List ResolvedProxyConfig} (h : resolveProxyServerConfigurations lib w c f = (.ok cfgs, f')) :
    ∀ cfg ∈ cfgs, portInRange cfg.proxyPort = true := by
  intro cfg hcfg
  obtain ⟨e, -, f₁, f₂, hb⟩ := forall₂_right (traverse_ok h) hcfg
  rw [(resolveEndPoint_ok hb).proxyPort]
  exact resolveEndPoint_range hb

/-- the record of a server has its port -/
theorem resolveProtocol_port {lib : Lib} {w : World} {proto : ProtocolServerConfig} {f f' : PipelineFactory}
    {cfg : ResolvedProtocolConfig} (h : resolveProtocol lib w proto f = (.ok cfg, f')) :
    cfg.protocol_port = proto.protocol_port := by
  unfold resolveProtocol at h
  split_ifs at h
  · cases h
  · split at h
    · cases h
    · split at h
      · cases h
      · split at h
        · cases h
        · split at h
          · cases h
          · cases h
            rfl

theorem resolveProtocol_listens {lib : Lib} {w : World} {c : List ProtocolServerConfig} {f f' : PipelineFactory}
    {cfgs : List ResolvedProtocolConfig} (h : resolveProtocolServerConfigurations lib w c f = (.ok cfgs, f')) :
    ∀ cfg ∈ cfgs, portInRange cfg.protocol_port = true := by
  intro cfg hcfg
  obtain ⟨proto, -, f₁, f₂, hb⟩ := forall₂_right (traverse_ok h) hcfg
  rw [resolveProtocol_port hb]
  exact resolveProtocol_range hb

/-! ## Sockets -/

/-- the sockets listen on valid ports, or as a gateway end-point of the list says -/
structure SocketsFrom (endpoints : List ApiGatewayEndPoint) (s : State) : Prop where
  proxy : ∀ sid sock, s.proxySockets sid = some sock → portInRange sock.port = true
  libuv : ∀ sid sock, s.libuvSockets sid = some sock → portInRange sock.port = true
  protocol : ∀ sid sock, s.protocolSockets sid = some sock → portInRange sock.port = true
  gateway : ∀ sid sock, s.gatewaySockets sid = some sock →
    ∃ endpoint ∈ endpoints, sock.port = endpoint.port ∧ sock.hostMap = hostMapOf endpoint.services

/-- what holds of a heap's objects holds after an update with an object that has it, or with none -/
theorem update_objects {ω : Type} {heap : SocketId → Option ω} {P : ω → Prop} (h : ∀ sid sock, heap sid = some sock → P sock)
    (sid₀ : SocketId) {o : Option ω} (ho : ∀ sock, o = some sock → P sock) :
    ∀ sid sock, Function.update heap sid₀ o sid = some sock → P sock := by
  intro sid sock hs
  by_cases hi : sid = sid₀
  · subst hi
    rw [Function.update_self] at hs
    exact ho sock hs
  · rw [Function.update_of_ne hi] at hs
    exact h sid sock hs

section Start

variable {endpoints : List ApiGatewayEndPoint} {s : State}

theorem SocketsFrom.fresh (configs : Configs) (factory : PipelineFactory) :
    SocketsFrom endpoints (.fresh configs factory) :=
  ⟨nofun, nofun, nofun, nofun⟩

theorem initProxyServer_sockets (lib : Lib) (w : World) (f : PipelineFactory) {cfg : ResolvedProxyConfig}
    (hport : portInRange cfg.proxyPort = true) (h : SocketsFrom endpoints s) :
    SocketsFrom endpoints (initProxyServer lib w f cfg s).2 := by
  cases hl : isLibuv cfg.pipelineName with
  | true =>
    rcases initProxyServer_libuv lib w f s hl with ⟨-, hr⟩ | ⟨-, code, -, hr⟩
    · rw [hr]
      exact ⟨h.proxy, update_objects h.libuv _ fun sock hs => Option.some.inj hs ▸ hport, h.protocol, h.gateway⟩
    · rw [hr]
      exact ⟨h.proxy, update_objects h.libuv _ nofun, h.protocol, h.gateway⟩
  | false =>
    rcases initProxyServer_proxy lib w f s hl with ⟨-, hr⟩ | ⟨-, code, servers, -, hr⟩
    · rw [hr]
      exact ⟨update_objects h.proxy _ fun sock hs => Option.some.inj hs ▸ hport, h.libuv, h.protocol, h.gateway⟩
    · rw [hr]
      exact ⟨update_objects h.proxy _ nofun, h.libuv, h.protocol, h.gateway⟩

theorem initProtocolServer_sockets (lib : Lib) (w : World) {cfg : ResolvedProtocolConfig}
    (hport : portInRange cfg.protocol_port = true) (h : SocketsFrom endpoints s) :
    SocketsFrom endpoints (initProtocolServer lib w cfg s).2 := by
  rcases initProtocolServer_cases lib w cfg s with ⟨-, hr⟩ | ⟨-, code, -, hr⟩
  · rw [hr]
    exact ⟨h.proxy, h.libuv, update_objects h.protocol _ fun sock hs => Option.some.inj hs ▸ hport, h.gateway⟩
  · rw [hr]
    exact ⟨h.proxy, h.libuv, update_objects h.protocol _ nofun, h.gateway⟩

theorem initApiGatewayServer_sockets (lib : Lib) (w : World) {endpoint : ApiGatewayEndPoint} (hmem : endpoint ∈ endpoints)
    (h : SocketsFrom endpoints s) : SocketsFrom endpoints (initApiGatewayServer lib w endpoint s).2 := by
  rcases initApiGatewayServer_cases lib w endpoint s with ⟨e, hr⟩ | ⟨-, f, hr⟩ | ⟨-, code, f, -, hr⟩
  · rw [hr]
    exact h
  · rw [hr]
    refine ⟨h.proxy, h.libuv, h.protocol, update_objects h.gateway _ fun sock hs => ?_⟩
    rw [← Option.some.inj hs]
    exact ⟨endpoint, hmem, rfl, rfl⟩
  · rw [hr]
    exact ⟨h.proxy, h.libuv, h.protocol, update_objects h.gateway _ nofun⟩

theorem initProxyServers_sockets (lib : Lib) (w : World) (h : SocketsFrom endpoints s) :
    SocketsFrom endpoints (initProxyServers lib w s).2 := by
  unfold initProxyServers
  cases PipelineFactory.empty.updateLibs w.plugins with
  | error e => exact h
  | ok f =>
    dsimp only
    rcases hr : resolveProxyServerConfigurations lib w s.configs.m_ProxyConfig s.pipelineFactory with ⟨r, f'⟩
    cases r with
    | error e => exact ⟨h.proxy, h.libuv, h.protocol, h.gateway⟩
    | ok cfgs =>
      exact traverse_keeps (P := SocketsFrom endpoints)
        (fun cfg hcfg t ht => initProxyServer_sockets lib w f (resolveProxy_listens hr cfg hcfg) ht)
        ⟨h.proxy, h.libuv, h.protocol, h.gateway⟩

theorem initProtocolServers_sockets (lib : Lib) (w : World) (h : SocketsFrom endpoints s) :
    SocketsFrom endpoints (initProtocolServers lib w s).2 := by
  unfold initProtocolServers
  dsimp only
  rcases hr : resolveProtocolServerConfigurations lib w s.configs.m_ProtocolServerConfig s.pipelineFactory with ⟨r, f'⟩
  cases r with
  | error e => exact ⟨h.proxy, h.libuv, h.protocol, h.gateway⟩
  | ok cfgs =>
    exact traverse_keeps (P := SocketsFrom endpoints)
      (fun cfg hcfg t ht => initProtocolServer_sockets lib w (resolveProtocol_listens hr cfg hcfg) ht)
      ⟨h.proxy, h.libuv, h.protocol, h.gateway⟩

theorem initApiGatewayServers_sockets (lib : Lib) (w : World)
    (h : SocketsFrom s.configs.m_ApiGatewayServerConfig.endpoints s) :
    SocketsFrom s.configs.m_ApiGatewayServerConfig.endpoints (initApiGatewayServers lib w s).2 := by
  have hloop := traverse_keeps (P := SocketsFrom s.configs.m_ApiGatewayServerConfig.endpoints)
    (fun endpoint hmem t ht => initApiGatewayServer_sockets lib w hmem ht) h
  unfold initApiGatewayServers
  dsimp only
  split <;> exact hloop

end Start

/-- **The sockets of a started process.** -/
theorem startProcess_sockets {lib : Lib} {w : Phase → World} {configFilePath : String} {s : State}
    (h : startProcess lib w configFilePath = some s) : SocketsFrom s.configs.m_ApiGatewayServerConfig.endpoints s := by
  unfold startProcess at h
  obtain ⟨s₁, hc, h₁⟩ := Option.bind_eq_some_iff.1 h
  obtain ⟨s₂, hx, h₂⟩ := Option.bind_eq_some_iff.1 h₁
  obtain ⟨s₃, hp, hg⟩ := Option.bind_eq_some_iff.1 h₂
  obtain ⟨configs, factory, rfl, -⟩ := construct_eq hc
  obtain ⟨code₂, hx, -⟩ := succeeded_eq hx
  obtain ⟨code₃, hp, -⟩ := succeeded_eq hp
  obtain ⟨code₄, hg, -⟩ := succeeded_eq hg
  have hconfigs₃ : s₃.configs = s₂.configs := by
    have hkept := (initProtocolServers_kept lib (w .protocolServers) s₂).1.configs
    rwa [hp] at hkept
  have hconfigs : s.configs = s₃.configs := by
    have hkept := (initApiGatewayServers_kept lib (w .apiGatewayServers) s₃).1.configs
    rwa [hg] at hkept
  have hsockets₂ : SocketsFrom s₃.configs.m_ApiGatewayServerConfig.endpoints
      (initProxyServers lib (w .proxyServers) (.fresh configs factory)).2 :=
    initProxyServers_sockets lib (w .proxyServers) (.fresh configs factory)
  rw [hx] at hsockets₂
  have hsockets₃ := initProtocolServers_sockets lib (w .protocolServers) hsockets₂
  rw [hp] at hsockets₃
  have hsockets := initApiGatewayServers_sockets lib (w .apiGatewayServers) hsockets₃
  rw [hg] at hsockets
  rwa [hconfigs]

/-- sockets that are wired alike listen alike -/
theorem SocketsFrom.of_wiring {endpoints : List ApiGatewayEndPoint} {s t : State} (h : SocketsFrom endpoints s)
    (hw : t.wiring = s.wiring) : SocketsFrom endpoints t := by
  have hlibuv : t.libuvSockets = s.libuvSockets := congrArg Wiring.libuvSockets hw
  have hprotocol : t.protocolSockets = s.protocolSockets := congrArg Wiring.protocolSockets hw
  have hgateway : t.gatewaySockets = s.gatewaySockets := congrArg Wiring.gatewaySockets hw
  refine ⟨fun sid sock hs => ?_, hlibuv ▸ h.libuv, hprotocol ▸ h.protocol, hgateway ▸ h.gateway⟩
  have hsid : (t.proxySockets sid).map ProxySocket.forget = (s.proxySockets sid).map ProxySocket.forget :=
    congrFun (congrArg Wiring.proxySockets hw) sid
  rw [hs] at hsid
  obtain ⟨sock', hs', heq⟩ := Option.map_eq_some_iff.1 hsid.symm
  have hport : sock'.forget.port = sock.forget.port := by rw [heq]
  rw [← show sock'.port = sock.port from hport]
  exact h.proxy sid sock' hs'

end Asabru.Server
