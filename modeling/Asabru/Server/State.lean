/-
The state of a running process and what it takes from outside src/.

Sockets and load balancers are objects of asabru-engine with an identity. A socket is an address handed out once
(`nextSocket`); a deleted object is gone from its heap (`none`). A load balancer is one of the three strategy objects
that the process's only `LoadBalancerFactory` allocates, or the private one of a socket: `BalancerId` names the object,
so two private balancers differ and two uses of one strategy name are one object. `servers` is the ordered server list
of each balancer.

Taken from outside, as parameters:
- `Lib`: functions of their arguments alone (tinyxml2, `libnameothy`, `HttpMethodEnumMap`, and the servers that a socket's
  `SetConfigValues` and `Start` add to its own balancer);
- `World`: what the environment answers during one call (the dynamic linker, the plugin folder, the command registry, the
  authentication and authorization factories, the sockets' set-up calls, indeterminate int fields). It may differ from
  one call to the next.
Premises on asabru-engine, built into the definitions: `CProxySocket(port, s)` uses the strategy object `s` it is given,
`CProxySocket(port)` makes a private round-robin one; `removeAllServers` empties the object's list, `addServer` appends
to it; `SetConfigValues` stores the values it is given; `RESOLVED_SERVICE::port` is an int, as in the unit test's stub.
Left out: `RESOLVED_SERVICE::Buffer`, always zeroed.
-/
import Mathlib.Tactic
import Asabru.Config.Xml
import Asabru.Config.Types
import Asabru.Config.Pipelines

namespace Asabru.Server

open Asabru.Control Asabru.Xml Asabru.Config Asabru.Pipelines

abbrev SocketId := ℕ

/-- the address of a handler command -/
abbrev Handler := ℕ

/-- a load-balancer object -/
inductive BalancerId where
  | roundRobin
  | random
  | weightedRoundRobin
  /-- the private balancer of a socket -/
  | own (socket : SocketId)
deriving DecidableEq, Repr

/-- the strategy class of an object; a private one is round robin -/
inductive StrategyKind where
  | roundRobin
  | random
  | weightedRoundRobin
deriving DecidableEq, Repr

def BalancerId.kind : BalancerId → StrategyKind
  | .roundRobin => .roundRobin
  | .random => .random
  | .weightedRoundRobin => .weightedRoundRobin
  | .own _ => .roundRobin

/-- `LoadBalancerFactory::GetLoadBalancerStrategy`: the same object for every use of a name, null for an unknown one -/
def getLoadBalancerStrategy (strategyName : String) : Option BalancerId :=
  if strategyName = "RoundRobinStrategy" then some .roundRobin
  else if strategyName = "RandomStrategy" then some .random
  else if strategyName = "WeightedRoundRobinStrategy" then some .weightedRoundRobin
  else none

structure ResolvedService where
  ipaddress : String
  port : Int
  r_w : Bool
  aliasName : String
  reserved : Int
  weight : Int
  source_hostname : String
deriving DecidableEq, Repr

structure TargetEndpointConfig where
  name : String
  proxyPort : Int
  services : List ResolvedService
deriving DecidableEq, Repr

/-! ## Resolved configurations -/

structure ResolvedProxyConfig where
  name : String
  proxyPort : Int
  pipelineName : String
  pipeline : Option PipelineFunction
  handler : Option Handler
  services : List ResolvedService
  loadBalancerStrategy : Option BalancerId
deriving DecidableEq, Repr

/-- the object that an authentication or authorization factory made -/
abbrev AuthStrategy := ℕ

structure ResolvedProtocolAuthorizationConfig where
  strategy : Option AuthStrategy
  handler : String
deriving DecidableEq, Repr

structure ResolvedProtocolAuthConfig where
  strategy : Option AuthStrategy
  handler : String
  authorization : Option ResolvedProtocolAuthorizationConfig
deriving DecidableEq, Repr

structure ResolvedProtocolConfig where
  protocol_name : String
  protocol_port : Int
  pipeline : Option PipelineFunction
  handler : Option Handler
  auth : Option ResolvedProtocolAuthConfig
  routes : List Route
deriving DecidableEq, Repr

/-! ## Outside src/ -/

inductive HttpMethod where
  | get
  | head
  | post
  | put
  | delete
  | connect
  | options
  | trace
  | patch
deriving DecidableEq, Repr

structure Lib where
  xml : TinyXml
  libnameothy : String → String × String
  /-- `HttpMethodEnumMap` -/
  httpMethodEnumMap : String → Option HttpMethod
  /-- the servers that `SetConfigValues` adds to the socket's own balancer -/
  setConfigValuesAdds : TargetEndpointConfig → List ResolvedService
  /-- the servers that `Start` adds to the socket's own balancer -/
  startAdds : TargetEndpointConfig → List ResolvedService

/-- the calls that set a socket up, each of which may report failure -/
inductive SocketCall where
  | setPipeline
  | setHandler
  | setConfigValues
  | start
deriving DecidableEq, Repr

structure World where
  uninit : Uninit
  /-- what the scan of the plugins folder finds, none when PLUGINS_FOLDER_PATH is not set -/
  plugins : Option (List String)
  dl : DynLink
  /-- the exception of `CommandDispatcher::RegisterCommand<BaseHandler>`, if it throws -/
  registerCommand : String → Option Exn
  getCommand : String → Option Handler
  createAuthenticationStrategy : String → Except Exn (Option AuthStrategy)
  /-- by strategy name and data -/
  createAuthorizationStrategy : String → String → Except Exn (Option AuthStrategy)
  accepts : SocketCall → SocketId → Bool

/-! ## The process -/

/-- a `CProxySocket`; `started` is the name it was started for -/
structure ProxySocket where
  port : Int
  loadBalancer : BalancerId
  pipeline : Option PipelineFunction
  handler : Option Handler
  configValues : Option TargetEndpointConfig
  started : Option String
deriving DecidableEq, Repr

/-- a `LibuvProxySocket`: never registered in a map -/
structure LibuvSocket where
  port : Int
  pipeline : Option PipelineFunction
  handler : Option Handler
  configValues : Option TargetEndpointConfig
  started : Option String
deriving DecidableEq, Repr

/-- a `CProtocolSocket` -/
structure ProtocolSocket where
  port : Int
  pipeline : Option PipelineFunction
  handler : Option Handler
  started : Bool
deriving DecidableEq, Repr

/-- the host map given to `SetApiGatewayConfig`: hostname, then path -/
abbrev HostMap := String → Option (String → Option ResolvedService)

/-- a `CApiGatewaySocket` -/
structure GatewaySocket where
  port : Int
  pipeline : Option PipelineFunction
  hostMap : HostMap
  started : Option String

/-- a route registered with an HTTP handler: its closure is determined by the captured route and server -/
structure RegisteredRoute where
  httpHandler : Handler
  path : String
  method : HttpMethod
  route : Route
  cfg : ResolvedProtocolConfig
deriving DecidableEq, Repr

structure State where
  configs : Configs
  pipelineFactory : PipelineFactory
  proxySocketsMap : String → Option SocketId
  protocolSocketsMap : String → Option SocketId
  apiGatewaySocketsMap : String → Option SocketId
  proxySockets : SocketId → Option ProxySocket
  libuvSockets : SocketId → Option LibuvSocket
  protocolSockets : SocketId → Option ProtocolSocket
  gatewaySockets : SocketId → Option GatewaySocket
  /-- the next address to hand out -/
  nextSocket : SocketId
  servers : BalancerId → List ResolvedService
  /-- in registration order -/
  routes : List RegisteredRoute

/-- the process when the singleton's members are constructed -/
def State.fresh (configs : Configs) (pipelineFactory : PipelineFactory) : State where
  configs := configs
  pipelineFactory := pipelineFactory
  proxySocketsMap _ := none
  protocolSocketsMap _ := none
  apiGatewaySocketsMap _ := none
  proxySockets _ := none
  libuvSockets _ := none
  protocolSockets _ := none
  gatewaySockets _ := none
  nextSocket := 0
  servers _ := []
  routes := []

/-- the balancer that the socket registered under a name uses -/
def State.reach (s : State) (name : String) : Option BalancerId :=
  (s.proxySocketsMap name).bind fun sid => (s.proxySockets sid).map ProxySocket.loadBalancer

theorem reach_eq_some {s : State} {name : String} {b : BalancerId} (h : s.reach name = some b) :
    ∃ sid sock, s.proxySocketsMap name = some sid ∧ s.proxySockets sid = some sock ∧ sock.loadBalancer = b := by
  obtain ⟨sid, hm, hs⟩ := Option.bind_eq_some_iff.1 h
  obtain ⟨sock, hk, hb⟩ := Option.map_eq_some_iff.1 hs
  exact ⟨sid, sock, hm, hk, hb⟩

theorem reach_of_socket {s : State} {name : String} {sid : SocketId} {sock : ProxySocket}
    (hm : s.proxySocketsMap name = some sid) (hs : s.proxySockets sid = some sock) :
    s.reach name = some sock.loadBalancer := by
  unfold State.reach
  rw [hm, Option.bind_some, hs]
  rfl

/-! ## Calls on sockets and balancers -/

def State.removeAllServers (b : BalancerId) (s : State) : State :=
  { s with servers := Function.update s.servers b [] }

def State.addServer (b : BalancerId) (svc : ResolvedService) (s : State) : State :=
  { s with servers := Function.update s.servers b (s.servers b ++ [svc]) }

/-- a change of one live socket object -/
def State.modifyProxySocket (sid : SocketId) (f : ProxySocket → ProxySocket) (s : State) : State :=
  { s with proxySockets := Function.update s.proxySockets sid ((s.proxySockets sid).map f) }

/-- servers that the engine adds to the own balancer of a socket -/
def State.addAll (sid : SocketId) (added : List ResolvedService) (s : State) : State :=
  match s.proxySockets sid with
  | none => s
  | some sock => { s with servers := Function.update s.servers sock.loadBalancer (s.servers sock.loadBalancer ++ added) }

def State.setConfigValues (lib : Lib) (sid : SocketId) (cfg : TargetEndpointConfig) (s : State) : State :=
  (s.modifyProxySocket sid fun sock => { sock with configValues := some cfg }).addAll sid (lib.setConfigValuesAdds cfg)

/-! ## An environment for fixed runs -/

/-- a plugin's name and symbol are its path; a socket takes over its servers when it starts -/
def Lib.plain (xml : TinyXml) : Lib where
  xml := xml
  libnameothy path := (path, path)
  httpMethodEnumMap method := if method = "GET" then some .get else if method = "POST" then some .post else none
  setConfigValuesAdds _ := []
  startAdds cfg := cfg.services

/-- one plugin, `Pipeline`, and no failure -/
def World.calm : World where
  uninit := ⟨fun _ _ => ⟨0, fun _ => ⟨0, 0⟩⟩, fun _ => 0, fun _ => ⟨0, fun _ _ => 0⟩, ⟨0, 0⟩⟩
  plugins := some ["Pipeline"]
  dl := ⟨fun _ => .ok 0, fun _ _ => .ok (some 0), fun _ err => err⟩
  registerCommand _ := none
  getCommand _ := some 0
  createAuthenticationStrategy _ := .ok (some 0)
  createAuthorizationStrategy _ _ := .ok (some 0)
  accepts _ _ := true

/-- an endpoint served by the plugin -/
def plainEndPoint (name strategy : String) (services : List Service) : RemoteEndPoint where
  endPointName := name
  proxyPort := 9000
  readWrite := false
  services := services
  handler := "Handler"
  pipeline := "Pipeline"
  loadBalancerStrategy := strategy

/-- a service on a host -/
def plainService (name host : String) : Service := ⟨9440, 1, name, host, ""⟩

/-- the stored configurations with one cluster of endpoints -/
def plainConfigs (endPoints : List RemoteEndPoint) : Configs :=
  { Configs.empty with m_ProxyConfig := ⟨[⟨endPoints, "cluster"⟩]⟩ }

/-- a factory that has scanned the plugins folder -/
def plainFactory : PipelineFactory := { PipelineFactory.empty with m_libNames := ["Pipeline"] }

/-- the hosts that the socket registered under a name routes to -/
def State.hostsOf (s : State) (name : String) : List String :=
  match s.reach name with
  | none => []
  | some b => (s.servers b).map ResolvedService.ipaddress

end Asabru.Server
