/-
`ConfigSingleton::ResolveProxyServerConfigurations` and `ResolveProtocolServerConfigurations`: from the stored
configuration to runtime records.

Both visit their records in order, load pipelines into the singleton's factory as they go and leave by an exception at
the first record that fails; what was loaded until then stays loaded.

Results:
- `resolveProxy_ok`: one resolved record per endpoint, in document order, with the endpoint's own fields (`ResolvesTo`);
- `resolveProxy_sameKeys`: whether and how resolution fails, and what it loads, depends on the endpoints' names, ports,
  pipelines and handlers only, not on their services;
- `resolveProtocol_ok`: one resolved server per stored server, with its routes and with an auth block exactly when the
  stored one has it.
-/
import Mathlib.Tactic
import Asabru.Server.State

namespace Asabru.Server

open Asabru.Control Asabru.Config Asabru.Pipelines

/-! ## Proxy endpoints -/

def resolveService (endpoint : RemoteEndPoint) (service : Service) : ResolvedService :=
  { ipaddress := service.host
    port := service.port
    r_w := endpoint.readWrite
    aliasName := ""
    reserved := 0
    weight := service.weight
    source_hostname := service.source_hostname }

/-- the servers an endpoint resolves to -/
def resolveServices (endpoint : RemoteEndPoint) : List ResolvedService :=
  endpoint.services.map (resolveService endpoint)

/-- the strategy object of an endpoint, null when it names none or an unknown one -/
def strategyObject (endpoint : RemoteEndPoint) : Option BalancerId :=
  if endpoint.loadBalancerStrategy = "" then none else getLoadBalancerStrategy endpoint.loadBalancerStrategy

/-- no strategy object is the private balancer of a socket -/
theorem strategyObject_shared (endpoint : RemoteEndPoint) (sid : SocketId) :
    strategyObject endpoint ≠ some (.own sid) := by
  unfold strategyObject getLoadBalancerStrategy
  split_ifs <;> simp

def invalidProxyPort (endpoint : RemoteEndPoint) : Exn :=
  .std ("Invalid proxy port " ++ toString endpoint.proxyPort ++ " for endpoint '" ++ endpoint.endPointName ++ "'")

/-- body of the nested loop -/
def resolveEndPoint (lib : Lib) (w : World) (endpoint : RemoteEndPoint) (f : PipelineFactory) :
    Except Exn ResolvedProxyConfig × PipelineFactory :=
  if endpoint.proxyPort ≤ 0 ∨ 65535 < endpoint.proxyPort then (.error (invalidProxyPort endpoint), f)
  else
    match f.registerPipeline lib.libnameothy w.dl .proxy endpoint.pipeline with
    | .error e => (.error e, f)
    | .ok f' =>
      match w.registerCommand endpoint.handler with
      | some e => (.error e, f')
      | none => (.ok
        { name := endpoint.endPointName
          proxyPort := endpoint.proxyPort
          pipelineName := endpoint.pipeline
          pipeline := f'.getPipeline .proxy endpoint.pipeline
          handler := w.getCommand endpoint.handler
          services := resolveServices endpoint
          loadBalancerStrategy := strategyObject endpoint }, f')

/-- the loops over clusters and endpoints visit `m_ProxyConfig.endPoints` -/
def resolveProxyServerConfigurations (lib : Lib) (w : World) (m_ProxyConfig : ProxyConfig) (f : PipelineFactory) :
    Except Exn (List ResolvedProxyConfig) × PipelineFactory :=
  traverse (resolveEndPoint lib w) m_ProxyConfig.endPoints f

/-- the resolved record of an endpoint -/
structure ResolvesTo (endpoint : RemoteEndPoint) (cfg : ResolvedProxyConfig) : Prop where
  name : cfg.name = endpoint.endPointName
  proxyPort : cfg.proxyPort = endpoint.proxyPort
  pipelineName : cfg.pipelineName = endpoint.pipeline
  services : cfg.services = resolveServices endpoint
  strategy : cfg.loadBalancerStrategy = strategyObject endpoint

theorem resolveEndPoint_ok {lib : Lib} {w : World} {endpoint : RemoteEndPoint} {f f' : PipelineFactory}
    {cfg : ResolvedProxyConfig} (h : resolveEndPoint lib w endpoint f = (.ok cfg, f')) : ResolvesTo endpoint cfg := by
  unfold resolveEndPoint at h
  split_ifs at h
  · cases h
  · split at h
    · cases h
    · split at h <;> cases h
      exact ⟨rfl, rfl, rfl, rfl, rfl⟩

/-- **Resolution is exact.** One record per endpoint, in order. -/
theorem resolveProxy_ok {lib : Lib} {w : World} {c : ProxyConfig} {f f' : PipelineFactory}
    {cfgs : List ResolvedProxyConfig} (h : resolveProxyServerConfigurations lib w c f = (.ok cfgs, f')) :
    List.Forall₂ ResolvesTo c.endPoints cfgs :=
  (traverse_ok h).imp fun _ _ ⟨_, _, hb⟩ => resolveEndPoint_ok hb

/-- endpoints that differ in their services at most -/
structure SameKeys (a b : RemoteEndPoint) : Prop where
  name : a.endPointName = b.endPointName
  proxyPort : a.proxyPort = b.proxyPort
  readWrite : a.readWrite = b.readWrite
  handler : a.handler = b.handler
  pipeline : a.pipeline = b.pipeline
  strategy : a.loadBalancerStrategy = b.loadBalancerStrategy

theorem SameKeys.refl (a : RemoteEndPoint) : SameKeys a a := ⟨rfl, rfl, rfl, rfl, rfl, rfl⟩

theorem resolveEndPoint_sameKeys (lib : Lib) (w : World) (a b : RemoteEndPoint) (f : PipelineFactory)
    (h : SameKeys a b) : (resolveEndPoint lib w a f).2 = (resolveEndPoint lib w b f).2 ∧
      exitOf (resolveEndPoint lib w a f).1 = exitOf (resolveEndPoint lib w b f).1 := by
  simp only [resolveEndPoint, invalidProxyPort, h.name, h.proxyPort, h.handler, h.pipeline]
  split_ifs
  · exact ⟨rfl, rfl⟩
  · split
    · exact ⟨rfl, rfl⟩
    · split <;> exact ⟨rfl, rfl⟩

/-- **Resolution ignores services** as to whether it fails and what it loads. -/
theorem resolveProxy_sameKeys (lib : Lib) (w : World) {c c' : ProxyConfig}
    (h : List.Forall₂ SameKeys c.endPoints c'.endPoints) (f : PipelineFactory) :
    (resolveProxyServerConfigurations lib w c f).2 = (resolveProxyServerConfigurations lib w c' f).2 ∧
      exitOf (resolveProxyServerConfigurations lib w c f).1 =
        exitOf (resolveProxyServerConfigurations lib w c' f).1 :=
  traverse_same (resolveEndPoint_sameKeys lib w) h f

/-! ## Protocol servers -/

def invalidProtocolPort (proto : ProtocolServerConfig) : Exn :=
  .std ("Invalid protocol port " ++ toString proto.protocol_port ++ " for protocol '" ++ proto.protocol_name ++ "'")

def pipelineNotFound (proto : ProtocolServerConfig) : Exn :=
  .std ("Pipeline '" ++ proto.pipeline ++ "' not found for protocol '" ++ proto.protocol_name ++ "'")

def resolveAuthorization (w : World) (authorization : Option AuthorizationConfig) :
    Except Exn (Option ResolvedProtocolAuthorizationConfig) :=
  match authorization with
  | none => .ok none
  | some a =>
    match w.createAuthorizationStrategy a.strategy a.data with
    | .error e => .error e
    | .ok strategy => .ok (some { strategy := strategy, handler := a.handler })

def resolveAuth (w : World) (auth : Option AuthConfig) : Except Exn (Option ResolvedProtocolAuthConfig) :=
  match auth with
  | none => .ok none
  | some a =>
    match w.createAuthenticationStrategy a.strategy with
    | .error e => .error e
    | .ok strategy =>
      match resolveAuthorization w a.authorization with
      | .error e => .error e
      | .ok authorization => .ok (some { strategy := strategy, handler := a.handler, authorization := authorization })

/-- body of the loop -/
def resolveProtocol (lib : Lib) (w : World) (proto : ProtocolServerConfig) (f : PipelineFactory) :
    Except Exn ResolvedProtocolConfig × PipelineFactory :=
  if proto.protocol_port ≤ 0 ∨ 65535 < proto.protocol_port then (.error (invalidProtocolPort proto), f)
  else
    match f.registerPipeline lib.libnameothy w.dl .protocol proto.pipeline with
    | .error e => (.error e, f)
    | .ok f' =>
      match f'.getPipeline .protocol proto.pipeline with
      | none => (.error (pipelineNotFound proto), f')
      | some pipeline =>
        match w.registerCommand proto.handler with
        | some e => (.error e, f')
        | none =>
          match resolveAuth w proto.auth with
          | .error e => (.error e, f')
          | .ok auth => (.ok
            { protocol_name := proto.protocol_name
              protocol_port := proto.protocol_port
              pipeline := some pipeline
              handler := w.getCommand proto.handler
              auth := auth
              routes := proto.routes }, f')

def resolveProtocolServerConfigurations (lib : Lib) (w : World) (m_ProtocolServerConfig : List ProtocolServerConfig)
    (f : PipelineFactory) : Except Exn (List ResolvedProtocolConfig) × PipelineFactory :=
  traverse (resolveProtocol lib w) m_ProtocolServerConfig f

/-- the resolved record of a protocol server -/
structure ProtocolResolvesTo (w : World) (proto : ProtocolServerConfig) (cfg : ResolvedProtocolConfig) : Prop where
  name : cfg.protocol_name = proto.protocol_name
  handler : cfg.handler = w.getCommand proto.handler
  auth : resolveAuth w proto.auth = .ok cfg.auth
  routes : cfg.routes = proto.routes

theorem resolveAuth_ok {w : World} {auth : Option AuthConfig} {r : Option ResolvedProtocolAuthConfig}
    (h : resolveAuth w auth = .ok r) : r.isSome = auth.isSome ∧
      (r.bind ResolvedProtocolAuthConfig.authorization).isSome = (auth.bind AuthConfig.authorization).isSome := by
  unfold resolveAuth at h
  split at h
  · cases h; exact ⟨rfl, rfl⟩
  · rename_i a
    split at h
    · cases h
    · split at h
      · cases h
      · rename_i authorization ha
        cases h
        refine ⟨rfl, ?_⟩
        unfold resolveAuthorization at ha
        split at ha
        · rename_i hnone; cases ha; simp [hnone]
        · rename_i hsome
          split at ha <;> cases ha
          simp [hsome]

/-- a server has a resolved auth block exactly when it has a stored one, and so for the authorization block in it -/
theorem ProtocolResolvesTo.blocks {w : World} {proto : ProtocolServerConfig} {cfg : ResolvedProtocolConfig}
    (h : ProtocolResolvesTo w proto cfg) : cfg.auth.isSome = proto.auth.isSome ∧
      (cfg.auth.bind ResolvedProtocolAuthConfig.authorization).isSome =
        (proto.auth.bind AuthConfig.authorization).isSome :=
  resolveAuth_ok h.auth

theorem resolveProtocol_spec {lib : Lib} {w : World} {proto : ProtocolServerConfig} {f f' : PipelineFactory}
    {cfg : ResolvedProtocolConfig} (h : resolveProtocol lib w proto f = (.ok cfg, f')) :
    ProtocolResolvesTo w proto cfg := by
  unfold resolveProtocol at h
  split_ifs at h
  · cases h
  · split at h
    · cases h
    · split at h
      · cases h
      · split at h
        · cases h
        · split at h
          · cases h
          · rename_i auth ha
            cases h
            exact ⟨rfl, rfl, ha, rfl⟩

/-- one resolved server per stored server, in order -/
theorem resolveProtocol_ok {lib : Lib} {w : World} {c : List ProtocolServerConfig} {f f' : PipelineFactory}
    {cfgs : List ResolvedProtocolConfig} (h : resolveProtocolServerConfigurations lib w c f = (.ok cfgs, f')) :
    List.Forall₂ (ProtocolResolvesTo w) c cfgs :=
  (traverse_ok h).imp fun _ _ ⟨_, _, hb⟩ => resolveProtocol_spec hb

end Asabru.Server
