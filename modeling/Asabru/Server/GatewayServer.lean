/-
api_gateway_server.h: starting the API-gateway sockets with their routing tables.

The table of an endpoint maps a hostname to a map from paths to targets: a path repeated in one service keeps its first
URI (`emplace`), a hostname repeated in one endpoint keeps its last service (assignment).

Results:
- `uriMapOf_apply`, `hostMapOf_apply`: what the table holds at a hostname and at a path of it;
- `initApiGatewayServers_kept`: the start touches the gateway side only, however it ends.
-/
import Mathlib.Tactic
import Asabru.Server.ProtocolServer

namespace Asabru.Server

open Asabru.Control Asabru.Config Asabru.Pipelines

/-- a URI that is not skipped: a host and a port in range -/
def uriUsable (uri : ApiGatewayUri) : Bool := uri.host ≠ "" && 0 < uri.port && uri.port ≤ 65535

/-- `RESOLVED_SERVICE resolved{uri.host, uri.port}`: the other fields are zero -/
def resolveUri (uri : ApiGatewayUri) : ResolvedService where
  ipaddress := uri.host
  port := uri.port
  r_w := false
  aliasName := ""
  reserved := 0
  weight := 0
  source_hostname := ""

/-- `uriMap.emplace`: a path that is there keeps its entry -/
def emplaceUri (uriMap : String → Option ResolvedService) (uri : ApiGatewayUri) : String → Option ResolvedService :=
  if uriUsable uri = false ∨ (uriMap uri.path).isSome then uriMap
  else Function.update uriMap uri.path (some (resolveUri uri))

def uriMapOf (service : ApiGatewayService) : String → Option ResolvedService :=
  service.uris.foldl emplaceUri fun _ => none

/-- `hostMap[service.hostname] = uriMap`, service by service -/
def hostMapOf (services : List ApiGatewayService) : HostMap :=
  services.foldl (fun hostMap service => Function.update hostMap service.hostname (some (uriMapOf service)))
    fun _ => none

/-- the first usable URI for a path -/
def firstUsable (uris : List ApiGatewayUri) (path : String) : Option ApiGatewayUri :=
  uris.find? fun uri => uriUsable uri && uri.path = path

theorem emplaceUri_apply (uriMap : String → Option ResolvedService) (uri : ApiGatewayUri) (path : String) :
    emplaceUri uriMap uri path =
      (uriMap path).or (if uriUsable uri && uri.path = path then some (resolveUri uri) else none) := by
  unfold emplaceUri
  by_cases hpath : uri.path = path
  · subst hpath
    cases hu : uriUsable uri with
    | false => simp
    | true => cases hm : uriMap uri.path <;> simp [hm]
  · have hkeep : Function.update uriMap uri.path (some (resolveUri uri)) path = uriMap path :=
      Function.update_of_ne (Ne.symm hpath) _ _
    have hskip : ¬ (uriUsable uri && decide (uri.path = path)) = true := by simp [hpath]
    rw [if_neg hskip, Option.or_none]
    split_ifs
    · rfl
    · exact hkeep

theorem emplaceUris_apply (uris : List ApiGatewayUri) (uriMap : String → Option ResolvedService) (path : String) :
    uris.foldl emplaceUri uriMap path = (uriMap path).or ((firstUsable uris path).map resolveUri) := by
  induction uris generalizing uriMap with
  | nil => simp [firstUsable]
  | cons uri uris ih =>
    rw [List.foldl_cons, ih, emplaceUri_apply, Option.or_assoc]
    congr 1
    unfold firstUsable
    by_cases hu : (uriUsable uri && uri.path = path) = true
    · rw [List.find?_cons_of_pos (p := fun uri : ApiGatewayUri => uriUsable uri && uri.path = path) hu, if_pos hu]
      rfl
    · rw [List.find?_cons_of_neg (p := fun uri : ApiGatewayUri => uriUsable uri && uri.path = path) hu, if_neg hu]
      rfl

/-- **A service's map holds the first usable URI of each path.** -/
theorem uriMapOf_apply (service : ApiGatewayService) (path : String) :
    uriMapOf service path = (firstUsable service.uris path).map resolveUri := by
  rw [uriMapOf, emplaceUris_apply]
  rfl

/-- the last service with a hostname -/
def lastService (services : List ApiGatewayService) (hostname : String) : Option ApiGatewayService :=
  (services.filter fun service => service.hostname = hostname).getLast?

/-- **The host map holds the map of the last service of each hostname.** -/
theorem hostMapOf_apply (services : List ApiGatewayService) (hostname : String) :
    hostMapOf services hostname = (lastService services hostname).map uriMapOf := by
  have hreplay : hostMapOf services = Alias.replay some (fun _ => none)
      (services.map fun service => (service.hostname, some (uriMapOf service))) := by
    rw [hostMapOf, Alias.replay, List.foldl_map]
    rfl
  rw [hreplay, Alias.replay_apply, Alias.lastWrite, lastService, List.filter_map, List.getLast?_map, Option.map_map]
  simp only [Function.comp_def, Option.some.injEq]
  cases (services.filter fun service => service.hostname = hostname).getLast? <;> rfl

def State.modifyGatewaySocket (sid : SocketId) (f : GatewaySocket → GatewaySocket) (s : State) : State :=
  { s with gatewaySockets := Function.update s.gatewaySockets sid ((s.gatewaySockets sid).map f) }

def startGatewayServer (w : World) (endpoint : ApiGatewayEndPoint) (socket : Option SocketId)
    (pipelineFunction : Option PipelineFunction) (s : State) : Int × State :=
  match socket with
  | none => (-1, s)
  | some sid =>
    if w.accepts .setPipeline sid = false then (-2, s)
    else
      let s := s.modifyGatewaySocket sid fun sock => { sock with pipeline := pipelineFunction }
      let s := s.modifyGatewaySocket sid fun sock => { sock with hostMap := hostMapOf endpoint.services }
      if w.accepts .start sid = false then (-3, s)
      else (0, s.modifyGatewaySocket sid fun sock => { sock with started := some endpoint.name })

/-- `new CApiGatewaySocket(port)` -/
def State.newGatewaySocket (port : Int) (s : State) : SocketId × State :=
  (s.nextSocket,
    { s with
      gatewaySockets := Function.update s.gatewaySockets s.nextSocket (some ⟨port, none, fun _ => none, none⟩)
      nextSocket := s.nextSocket + 1 })

/-- `apiGatewaySocketsMap[name] = sock` -/
def State.registerGatewaySocket (name : String) (sid : SocketId) (s : State) : State :=
  { s with apiGatewaySocketsMap := Function.update s.apiGatewaySocketsMap name (some sid) }

/-- `apiGatewaySocketsMap.erase(name)` and `delete sock` -/
def State.dropGatewaySocket (name : String) (sid : SocketId) (s : State) : State :=
  { s with
    apiGatewaySocketsMap := Function.update s.apiGatewaySocketsMap name none
    gatewaySockets := Function.update s.gatewaySockets sid none }

/-- body of the loop: an exit is an exception or the code that is returned -/
def initApiGatewayServer (lib : Lib) (w : World) (endpoint : ApiGatewayEndPoint) (s : State) :
    Except (Ending Int) Unit × State :=
  match s.pipelineFactory.registerPipeline lib.libnameothy w.dl .apiGateway endpoint.pipeline with
  | .error e => (.error (.throws e), s)
  | .ok f =>
    let sock := { s with pipelineFactory := f }.newGatewaySocket endpoint.port
    let result := startGatewayServer w endpoint (some sock.1) (f.getPipeline .apiGateway endpoint.pipeline)
      (sock.2.registerGatewaySocket endpoint.name sock.1)
    if result.1 < 0 then (.error (.ret result.1), result.2.dropGatewaySocket endpoint.name sock.1)
    else (.ok (), result.2)

def initApiGatewayServers (lib : Lib) (w : World) (s : State) : Ending Int × State :=
  let t := traverse (initApiGatewayServer lib w) s.configs.m_ApiGatewayServerConfig.endpoints s
  match t.1 with
  | .ok _ => (.ret 0, t.2)
  | .error e => (e, t.2)

/-! ## What the start touches -/

theorem startGatewayServer_kept (w : World) (endpoint : ApiGatewayEndPoint) (socket : Option SocketId)
    (p : Option PipelineFunction) (s : State) : ProxySideKept s (startGatewayServer w endpoint socket p s).2 ∧
      (startGatewayServer w endpoint socket p s).2.routes = s.routes := by
  unfold startGatewayServer
  cases socket with
  | none => exact ⟨.refl s, rfl⟩
  | some sid =>
    dsimp only
    split_ifs <;> exact ⟨⟨rfl, rfl, rfl, rfl, rfl, le_rfl⟩, rfl⟩

theorem initApiGatewayServer_kept (lib : Lib) (w : World) (endpoint : ApiGatewayEndPoint) (s : State) :
    ProxySideKept s (initApiGatewayServer lib w endpoint s).2 ∧
      (initApiGatewayServer lib w endpoint s).2.routes = s.routes := by
  unfold initApiGatewayServer
  cases s.pipelineFactory.registerPipeline lib.libnameothy w.dl .apiGateway endpoint.pipeline with
  | error e => exact ⟨.refl s, rfl⟩
  | ok f =>
    dsimp only
    obtain ⟨hk, hr⟩ := startGatewayServer_kept w endpoint (some s.nextSocket) (f.getPipeline .apiGateway endpoint.pipeline)
      (({ s with pipelineFactory := f }.newGatewaySocket endpoint.port).2.registerGatewaySocket endpoint.name s.nextSocket)
    have hnext := (Nat.le_succ s.nextSocket).trans hk.nextSocket
    split_ifs
    · exact ⟨⟨hk.configs, hk.proxySocketsMap, hk.proxySockets, hk.libuvSockets, hk.servers, hnext⟩, hr⟩
    · exact ⟨⟨hk.configs, hk.proxySocketsMap, hk.proxySockets, hk.libuvSockets, hk.servers, hnext⟩, hr⟩

/-- **The gateway start leaves proxies, balancers and routes as they were**, however it ends. -/
theorem initApiGatewayServers_kept (lib : Lib) (w : World) (s : State) :
    ProxySideKept s (initApiGatewayServers lib w s).2 ∧ (initApiGatewayServers lib w s).2.routes = s.routes := by
  have step : ∀ endpoint ∈ s.configs.m_ApiGatewayServerConfig.endpoints, ∀ t,
      (ProxySideKept s t ∧ t.routes = s.routes) → ProxySideKept s (initApiGatewayServer lib w endpoint t).2 ∧
        (initApiGatewayServer lib w endpoint t).2.routes = s.routes := by
    rintro endpoint - t ⟨hk, hr⟩
    obtain ⟨hk', hr'⟩ := initApiGatewayServer_kept lib w endpoint t
    exact ⟨hk.trans hk', hr'.trans hr⟩
  have := traverse_keeps (P := fun t => ProxySideKept s t ∧ t.routes = s.routes) step ⟨.refl s, rfl⟩
  unfold initApiGatewayServers
  dsimp only
  split <;> exact this

end Asabru.Server
