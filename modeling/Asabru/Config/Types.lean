/-
The configuration records of ConfigTypes.h and ApiGatewayConfig.h, and the indeterminate values of their int fields.

Nullable pointers to heap-allocated blocks (`AUTH_CONFIG *`, `AUTHORIZATION_CONFIG *`) are options: the blocks are never
shared or changed after the load that allocates them. The structs have no member initialisers and the parser declares
them without braces, so an int field holds an arbitrary value until it is assigned: `Uninit` gives, for each local record
of one call, what its int fields start with.

Left out: fields that no code reads (`PROXY_CONFIG::handlers`, `REMOTE_END_POINT::ipaddress`,
`API_GATEWAY_ENDPOINT::pipelineFunc`) and the unused `RESOLVE_CONFIG`.
-/
import Mathlib.Tactic

namespace Asabru.Config

/-! ## The proxy section -/

structure Service where
  port : Int
  weight : Int
  name : String
  host : String
  source_hostname : String
deriving DecidableEq, Repr

structure RemoteEndPoint where
  endPointName : String
  proxyPort : Int
  readWrite : Bool
  services : List Service
  handler : String
  pipeline : String
  loadBalancerStrategy : String
deriving DecidableEq, Repr

structure Cluster where
  endPoints : List RemoteEndPoint
  clusterName : String
deriving DecidableEq, Repr

structure ProxyConfig where
  clusters : List Cluster
deriving DecidableEq, Repr

/-- the order in which nested loops over clusters and endpoints visit the endpoints -/
def ProxyConfig.endPoints (c : ProxyConfig) : List RemoteEndPoint := c.clusters.flatMap Cluster.endPoints

/-! ## The protocol-server section -/

structure RouteAuthConfig where
  required : Bool
  authorization : String
deriving DecidableEq, Repr

structure Route where
  path : String
  method : String
  request_handler : String
  auth : RouteAuthConfig
deriving DecidableEq, Repr

structure AuthorizationConfig where
  strategy : String
  handler : String
  data : String
deriving DecidableEq, Repr

structure AuthConfig where
  strategy : String
  handler : String
  authorization : Option AuthorizationConfig
deriving DecidableEq, Repr

structure ProtocolServerConfig where
  protocol_name : String
  protocol_port : Int
  pipeline : String
  handler : String
  auth : Option AuthConfig
  routes : List Route
deriving DecidableEq, Repr

/-! ## The API-gateway section -/

structure ApiGatewayUri where
  path : String
  host : String
  port : Int
deriving DecidableEq, Repr

structure ApiGatewayService where
  hostname : String
  uris : List ApiGatewayUri
deriving DecidableEq, Repr

structure ApiGatewayEndPoint where
  name : String
  port : Int
  pipeline : String
  services : List ApiGatewayService
deriving DecidableEq, Repr

structure ApiGatewayServerConfig where
  endpoints : List ApiGatewayEndPoint
deriving DecidableEq, Repr

/-- the three configuration variables of the singleton -/
@[ext]
structure Configs where
  m_ProxyConfig : ProxyConfig
  m_ProtocolServerConfig : List ProtocolServerConfig
  m_ApiGatewayServerConfig : ApiGatewayServerConfig
deriving DecidableEq, Repr

/-- default-constructed members: no clusters, no servers, no endpoints -/
def Configs.empty : Configs := ⟨⟨[]⟩, [], ⟨[]⟩⟩

/-- the request of a service update -/
structure EndPointServiceConfig where
  name : String
  operation : String
  service : Service
deriving DecidableEq, Repr

/-- a port that can be listened on or connected to -/
def portInRange (port : Int) : Bool := 0 < port && port ≤ 65535

theorem portInRange_iff {port : Int} : portInRange port = true ↔ 0 < port ∧ port ≤ 65535 := by
  simp [portInRange]

/-! ## Indeterminate values -/

structure ServiceUninit where
  port : Int
  weight : Int

structure EndPointUninit where
  proxyPort : Int
  services : ℕ → ServiceUninit

structure GatewayEndPointUninit where
  port : Int
  /-- by service and URI -/
  uris : ℕ → ℕ → Int

/-- what the int fields of the records declared during one call hold before they are assigned, by position -/
structure Uninit where
  /-- by cluster and endpoint -/
  endPoints : ℕ → ℕ → EndPointUninit
  /-- by protocol server -/
  protocolPorts : ℕ → Int
  gatewayEndPoints : ℕ → GatewayEndPointUninit
  /-- the service of an `ENDPOINT_SERVICE_CONFIG` -/
  updateService : ServiceUninit

/-- the same value everywhere -/
def Uninit.const (n : Int) : Uninit where
  endPoints _ _ := ⟨n, fun _ => ⟨n, n⟩⟩
  protocolPorts _ := n
  gatewayEndPoints _ := ⟨n, fun _ _ => n⟩
  updateService := ⟨n, n⟩

end Asabru.Config
