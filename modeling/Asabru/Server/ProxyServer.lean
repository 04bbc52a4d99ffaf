/-
proxy_server.h, the hot-reload half: applying a resolved configuration to a running socket, to all of them, and the
service update of one endpoint.

Results:
- `updateProxyConfig_servers`: applying a configuration to a socket makes its balancer's list exactly the configuration's
  services and touches no other balancer;
- `replayConfigs_servers`: a whole pass is a replay of writes through the socket map (`Alias.replay`), and never fails;
- `editClusters_some`, `editClusters_none`: a service edit changes the services of the first endpoint with the name, in
  document order, and nothing else;
- `updateProxyServers_ending`, `updateProxyServers_acknowledged`, `updateProxyServers_refused`: a pass is answered ok iff
  the stored configuration resolves, and otherwise it changes no list;
- `updateProxyServers_untouched`: no pass changes the stored configurations, which sockets exist, what they are registered
  as and which balancer each one uses (`State.wiring`).
-/
import Mathlib.Tactic
import Asabru.Core.Alias
import Asabru.Server.Resolve

namespace Asabru.Server

open Asabru.Control Asabru.Config Asabru.Pipelines

/-! ## Replies -/

inductive Status where
  | ok
  | error
deriving DecidableEq, Repr

/-- the two members of the JSON object that every construction site builds -/
structure Reply where
  status : Status
  message : String
deriving DecidableEq, Repr

def Status.text : Status → String
  | .ok => "ok"
  | .error => "error"

/-- the text that is returned: the message is inserted as it is -/
def Reply.text (r : Reply) : String :=
  "\x7b\"status\":\"" ++ r.status.text ++ "\",\"message\":\"" ++ r.message ++ "\"\x7d"

def errorReply (message : String) : Reply := ⟨.error, message⟩

def updatedReply : Reply := ⟨.ok, "Configuration updated successfully"⟩

/-! ## Applying configurations -/

def targetConfig (configValue : ResolvedProxyConfig) : TargetEndpointConfig :=
  { name := configValue.name, proxyPort := configValue.proxyPort, services := configValue.services }

/-- a null socket is refused; a dangling one does not occur (`Reachable.live`) and is left alone here -/
def updateProxyConfig (lib : Lib) (socket : Option SocketId) (configValue : ResolvedProxyConfig) (s : State) :
    Int × State :=
  match socket with
  | none => (-1, s)
  | some sid =>
    let cfg := targetConfig configValue
    let s := s.setConfigValues lib sid cfg
    match s.proxySockets sid with
    | none => (0, s)
    | some sock =>
      (0, cfg.services.foldl (fun s svc => s.addServer sock.loadBalancer svc) (s.removeAllServers sock.loadBalancer))

/-- the loop of `updateProxyServers`: an endpoint without a registered socket is skipped -/
def replayConfigs (lib : Lib) : List ResolvedProxyConfig → State → Reply × State
  | [], s => (updatedReply, s)
  | cfg :: configs, s =>
    match s.proxySocketsMap cfg.name with
    | none => replayConfigs lib configs s
    | some sid =>
      let r := updateProxyConfig lib (some sid) cfg s
      if r.1 < 0 then (errorReply ("Failed to update " ++ cfg.name), r.2) else replayConfigs lib configs r.2

def updateProxyServers (lib : Lib) (w : World) (s : State) : Ending Reply × State :=
  let r := resolveProxyServerConfigurations lib w s.configs.m_ProxyConfig s.pipelineFactory
  let s := { s with pipelineFactory := r.2 }
  catchStd errorReply
    (match r.1 with
      | .error e => (.throws e, s)
      | .ok configs =>
        let t := replayConfigs lib configs s
        (.ret t.1, t.2))

/-! ## Service updates -/

/-- the edit of the selected endpoint's services: `push_back`, or the erase-remove of every service with the name -/
def editEndPoint (req : EndPointServiceConfig) (endpoint : RemoteEndPoint) : RemoteEndPoint :=
  { endpoint with
    services :=
      if req.operation = "add" then endpoint.services ++ [req.service]
      else endpoint.services.filter fun s => s.name ≠ req.service.name }

/-- the loop over the endpoints of a cluster: none if it ends without `found` -/
def editEndPoints (req : EndPointServiceConfig) : List RemoteEndPoint → Option (List RemoteEndPoint)
  | [] => none
  | endpoint :: endPoints =>
    if endpoint.endPointName ≠ req.name then (editEndPoints req endPoints).map (endpoint :: ·)
    else some (editEndPoint req endpoint :: endPoints)

/-- the loop over the clusters -/
def editClusters (req : EndPointServiceConfig) : List Cluster → Option (List Cluster)
  | [] => none
  | cluster :: clusters =>
    match editEndPoints req cluster.endPoints with
    | some endPoints => some ({ cluster with endPoints := endPoints } :: clusters)
    | none => (editClusters req clusters).map (cluster :: ·)

def State.setProxyConfig (proxyConfig : ProxyConfig) (s : State) : State :=
  { s with configs := { s.configs with m_ProxyConfig := proxyConfig } }

def updateProxyEndPointService (lib : Lib) (w : World) (req : EndPointServiceConfig) (s : State) :
    Ending Reply × State :=
  if req.operation ≠ "add" ∧ req.operation ≠ "delete" then
    (.ret (errorReply ("Invalid operation '" ++ req.operation ++ "'. Expected 'add' or 'delete'.")), s)
  else
    match editClusters req s.configs.m_ProxyConfig.clusters with
    | none => (.ret (errorReply ("Endpoint '" ++ req.name ++ "' not found.")), s)
    | some clusters => updateProxyServers lib w (s.setProxyConfig ⟨clusters⟩)

/-- a request that has one of the two operations passes the check -/
theorem updateProxyEndPointService_eq {lib : Lib} {w : World} {req : EndPointServiceConfig} {s : State}
    (h : req.operation = "add" ∨ req.operation = "delete") :
    updateProxyEndPointService lib w req s = match editClusters req s.configs.m_ProxyConfig.clusters with
      | none => (.ret (errorReply ("Endpoint '" ++ req.name ++ "' not found.")), s)
      | some clusters => updateProxyServers lib w (s.setProxyConfig ⟨clusters⟩) :=
  if_neg fun hop => h.elim hop.1 hop.2

/-- where an edit happens: at the first endpoint with the name -/
structure EditedAt (req : EndPointServiceConfig) (eps eps' pre : List RemoteEndPoint) (endpoint : RemoteEndPoint)
    (post : List RemoteEndPoint) : Prop where
  before : eps = pre ++ endpoint :: post
  first : ∀ e ∈ pre, e.endPointName ≠ req.name
  named : endpoint.endPointName = req.name
  after : eps' = pre ++ editEndPoint req endpoint :: post

theorem editEndPoints_some {req : EndPointServiceConfig} {eps eps' : List RemoteEndPoint}
    (h : editEndPoints req eps = some eps') : ∃ pre endpoint post, EditedAt req eps eps' pre endpoint post := by
  induction eps generalizing eps' with
  | nil => cases h
  | cons e eps ih =>
    simp only [editEndPoints] at h
    split_ifs at h with hn
    · obtain ⟨eps₁, h₁, rfl⟩ := Option.map_eq_some_iff.1 h
      obtain ⟨pre, endpoint, post, hb, hf, hnm, ha⟩ := ih h₁
      exact ⟨e :: pre, endpoint, post, by rw [hb]; rfl, List.forall_mem_cons.2 ⟨hn, hf⟩, hnm, by rw [ha]; rfl⟩
    · obtain rfl := Option.some.inj h
      exact ⟨[], e, eps, rfl, fun _ he => (nomatch he), not_not.1 hn, rfl⟩

theorem editEndPoints_none {req : EndPointServiceConfig} {eps : List RemoteEndPoint} :
    editEndPoints req eps = none ↔ ∀ e ∈ eps, e.endPointName ≠ req.name := by
  induction eps with
  | nil => simp [editEndPoints]
  | cons e eps ih =>
    simp only [editEndPoints, List.forall_mem_cons]
    by_cases hn : e.endPointName = req.name
    · simp [hn]
    · simp [hn, ih]

theorem endPoints_cons (c : Cluster) (cs : List Cluster) :
    (ProxyConfig.mk (c :: cs)).endPoints = c.endPoints ++ (ProxyConfig.mk cs).endPoints := rfl

/-- **A service edit changes the first endpoint with the name, in document order, and nothing else.** -/
theorem editClusters_some {req : EndPointServiceConfig} {cs cs' : List Cluster} (h : editClusters req cs = some cs') :
    ∃ pre endpoint post,
      EditedAt req (ProxyConfig.mk cs).endPoints (ProxyConfig.mk cs').endPoints pre endpoint post := by
  induction cs generalizing cs' with
  | nil => cases h
  | cons c cs ih =>
    simp only [editClusters] at h
    cases hc : editEndPoints req c.endPoints with
    | some eps =>
      simp only [hc, Option.some.injEq] at h
      subst h
      obtain ⟨pre, endpoint, post, hb, hf, hn, ha⟩ := editEndPoints_some hc
      refine ⟨pre, endpoint, post ++ (ProxyConfig.mk cs).endPoints, ?_, hf, hn, ?_⟩
      · rw [endPoints_cons, hb, List.append_assoc]; rfl
      · rw [endPoints_cons, ha, List.append_assoc]; rfl
    | none =>
      simp only [hc] at h
      obtain ⟨cs₁, h₁, rfl⟩ := Option.map_eq_some_iff.1 h
      obtain ⟨pre, endpoint, post, hb, hf, hn, ha⟩ := ih h₁
      refine ⟨c.endPoints ++ pre, endpoint, post, ?_, ?_, hn, ?_⟩
      · rw [endPoints_cons, hb, List.append_assoc]
      · intro e he
        rcases List.mem_append.1 he with he | he
        · exact editEndPoints_none.1 hc e he
        · exact hf e he
      · rw [endPoints_cons, ha, List.append_assoc]

/-- the edit finds no endpoint iff no endpoint has the name -/
theorem editClusters_none {req : EndPointServiceConfig} {cs : List Cluster} :
    editClusters req cs = none ↔ ∀ e ∈ (ProxyConfig.mk cs).endPoints, e.endPointName ≠ req.name := by
  induction cs with
  | nil => simp [editClusters, ProxyConfig.endPoints]
  | cons c cs ih =>
    rw [endPoints_cons]
    simp only [editClusters, List.forall_mem_append]
    cases hc : editEndPoints req c.endPoints with
    | some eps =>
      have : ¬ ∀ e ∈ c.endPoints, e.endPointName ≠ req.name := by rw [← editEndPoints_none, hc]; simp
      simp [this]
    | none =>
      have : ∀ e ∈ c.endPoints, e.endPointName ≠ req.name := editEndPoints_none.1 hc
      simp only [Option.map_eq_none_iff, ih]
      exact ⟨fun h => ⟨this, h⟩, And.right⟩

/-- an edit that leaves the endpoints as they were leaves the clusters as they were -/
theorem editClusters_eq {req : EndPointServiceConfig} {cs cs' : List Cluster} (h : editClusters req cs = some cs')
    (heq : (ProxyConfig.mk cs').endPoints = (ProxyConfig.mk cs).endPoints) : cs' = cs := by
  induction cs generalizing cs' with
  | nil => cases h
  | cons c cs ih =>
    simp only [editClusters] at h
    cases hc : editEndPoints req c.endPoints with
    | some eps =>
      simp only [hc, Option.some.injEq] at h
      subst h
      rw [endPoints_cons, endPoints_cons] at heq
      have heps : eps = c.endPoints := List.append_cancel_right heq
      rw [heps]
    | none =>
      simp only [hc] at h
      obtain ⟨cs₁, h₁, rfl⟩ := Option.map_eq_some_iff.1 h
      rw [endPoints_cons, endPoints_cons] at heq
      rw [ih h₁ (List.append_cancel_left heq)]

/-- requests that edit alike edit the same way -/
theorem editClusters_congr {req req' : EndPointServiceConfig} (hname : req.name = req'.name)
    (hedit : ∀ e, editEndPoint req e = editEndPoint req' e) (cs : List Cluster) :
    editClusters req cs = editClusters req' cs := by
  have heps : ∀ eps, editEndPoints req eps = editEndPoints req' eps := by
    intro eps
    induction eps with
    | nil => rfl
    | cons e eps ih => simp only [editEndPoints, hname, hedit, ih]
  induction cs with
  | nil => rfl
  | cons c cs ih => simp only [editClusters, heps, ih]

/-- two edits by one name happen at one place -/
theorem EditedAt.unique {req req' : EndPointServiceConfig} {eps eps₁ eps₂ pre pre' post post' : List RemoteEndPoint}
    {e e' : RemoteEndPoint} (h : EditedAt req eps eps₁ pre e post) (h' : EditedAt req' eps eps₂ pre' e' post')
    (hname : req.name = req'.name) : pre = pre' ∧ e = e' ∧ post = post' := by
  have htake : ∀ (l : List RemoteEndPoint) (a : RemoteEndPoint) (r : List RemoteEndPoint),
      (∀ b ∈ l, b.endPointName ≠ req.name) → a.endPointName = req.name →
      (l ++ a :: r).takeWhile (fun b => b.endPointName ≠ req.name) = l := by
    intro l a r hl ha
    rw [List.takeWhile_append_of_pos fun b hb => decide_eq_true (hl b hb), List.takeWhile_cons_of_neg (by simp [ha]),
      List.append_nil]
  have hpre : pre = pre' := by
    rw [← htake pre e post h.first h.named, ← h.before, h'.before,
      htake pre' e' post' (hname ▸ h'.first) (hname ▸ h'.named)]
  subst hpre
  obtain ⟨rfl, rfl⟩ := List.cons.inj (List.append_cancel_left (h.before.symm.trans h'.before))
  exact ⟨rfl, rfl, rfl⟩

theorem editEndPoint_sameKeys (req : EndPointServiceConfig) (e : RemoteEndPoint) : SameKeys e (editEndPoint req e) :=
  ⟨rfl, rfl, rfl, rfl, rfl, rfl⟩

/-- an edit keeps every endpoint's name, port, pipeline, handler and strategy -/
theorem EditedAt.sameKeys {req : EndPointServiceConfig} {eps eps' pre post : List RemoteEndPoint} {e : RemoteEndPoint}
    (h : EditedAt req eps eps' pre e post) : List.Forall₂ SameKeys eps eps' := by
  rw [h.before, h.after]
  exact List.rel_append (List.forall₂_same.2 fun a _ => SameKeys.refl a)
    (.cons (editEndPoint_sameKeys req e) (List.forall₂_same.2 fun a _ => SameKeys.refl a))

/-! ## What no request changes -/

/-- a socket without the endpoint configuration it last received -/
def ProxySocket.forget (sock : ProxySocket) : ProxySocket := { sock with configValues := none }

/-- which objects exist, what they are registered as, and all they hold but lists and endpoint configurations -/
structure Wiring where
  proxySocketsMap : String → Option SocketId
  protocolSocketsMap : String → Option SocketId
  apiGatewaySocketsMap : String → Option SocketId
  proxySockets : SocketId → Option ProxySocket
  libuvSockets : SocketId → Option LibuvSocket
  protocolSockets : SocketId → Option ProtocolSocket
  gatewaySockets : SocketId → Option GatewaySocket
  nextSocket : SocketId
  routes : List RegisteredRoute

def State.wiring (s : State) : Wiring where
  proxySocketsMap := s.proxySocketsMap
  protocolSocketsMap := s.protocolSocketsMap
  apiGatewaySocketsMap := s.apiGatewaySocketsMap
  proxySockets sid := (s.proxySockets sid).map ProxySocket.forget
  libuvSockets := s.libuvSockets
  protocolSockets := s.protocolSockets
  gatewaySockets := s.gatewaySockets
  nextSocket := s.nextSocket
  routes := s.routes

theorem balancer_of_wiring {s t : State} (h : t.wiring = s.wiring) (sid : SocketId) :
    (t.proxySockets sid).map ProxySocket.loadBalancer = (s.proxySockets sid).map ProxySocket.loadBalancer := by
  have := congrArg (fun o => o.map ProxySocket.loadBalancer) (congrFun (congrArg Wiring.proxySockets h) sid)
  simpa [State.wiring, Option.map_map, Function.comp_def, ProxySocket.forget] using this

/-- a socket keeps its balancer and the name it was started for -/
theorem socket_of_wiring {s t : State} (h : t.wiring = s.wiring) {sid : SocketId} {sock : ProxySocket}
    (hs : s.proxySockets sid = some sock) : ∃ sock', t.proxySockets sid = some sock' ∧
      sock'.loadBalancer = sock.loadBalancer ∧ sock'.started = sock.started := by
  have hsid : (t.proxySockets sid).map ProxySocket.forget = (s.proxySockets sid).map ProxySocket.forget :=
    congrFun (congrArg Wiring.proxySockets h) sid
  rw [hs] at hsid
  obtain ⟨sock', ht, heq⟩ := Option.map_eq_some_iff.1 hsid
  have hb : sock'.forget.loadBalancer = sock.forget.loadBalancer := by rw [heq]
  have hn : sock'.forget.started = sock.forget.started := by rw [heq]
  exact ⟨sock', ht, hb, hn⟩

theorem map_of_wiring {s t : State} (h : t.wiring = s.wiring) : t.proxySocketsMap = s.proxySocketsMap :=
  congrArg Wiring.proxySocketsMap h

theorem reach_of_wiring {s t : State} (h : t.wiring = s.wiring) : t.reach = s.reach := by
  funext n
  simp only [State.reach, map_of_wiring h, balancer_of_wiring h]

theorem addServers_servers (b : BalancerId) (svcs : List ResolvedService) (s : State) :
    svcs.foldl (fun s svc => s.addServer b svc) s =
      { s with servers := Function.update s.servers b (s.servers b ++ svcs) } := by
  induction svcs generalizing s with
  | nil => simp
  | cons svc svcs ih =>
    rw [List.foldl_cons, ih]
    simp [State.addServer]

/-- a rebuilt list is the list of the given servers -/
theorem rebuild_servers (b : BalancerId) (svcs : List ResolvedService) (s : State) :
    svcs.foldl (fun s svc => s.addServer b svc) (s.removeAllServers b) =
      { s with servers := Function.update s.servers b svcs } := by
  rw [addServers_servers]
  simp [State.removeAllServers]

theorem setConfigValues_live {lib : Lib} {sid : SocketId} {cfg : TargetEndpointConfig} {s : State} {sock : ProxySocket}
    (h : s.proxySockets sid = some sock) :
    s.setConfigValues lib sid cfg =
      { s with
        proxySockets := Function.update s.proxySockets sid (some { sock with configValues := some cfg })
        servers := Function.update s.servers sock.loadBalancer
          (s.servers sock.loadBalancer ++ lib.setConfigValuesAdds cfg) } := by
  simp [State.setConfigValues, State.modifyProxySocket, State.addAll, h]

theorem setConfigValues_dangling {lib : Lib} {sid : SocketId} {cfg : TargetEndpointConfig} {s : State}
    (h : s.proxySockets sid = none) : s.setConfigValues lib sid cfg = s := by
  have : Function.update s.proxySockets sid none = s.proxySockets := by
    rw [← h]; exact Function.update_eq_self _ _
  simp [State.setConfigValues, State.modifyProxySocket, State.addAll, h, this]

theorem updateProxyConfig_live {lib : Lib} {sid : SocketId} {cfg : ResolvedProxyConfig} {s : State}
    {sock : ProxySocket} (h : s.proxySockets sid = some sock) :
    updateProxyConfig lib (some sid) cfg s = (0,
      { s with
        proxySockets := Function.update s.proxySockets sid (some { sock with configValues := some (targetConfig cfg) })
        servers := Function.update s.servers sock.loadBalancer cfg.services }) := by
  simp only [updateProxyConfig, setConfigValues_live h, Function.update_self, rebuild_servers]
  simp [targetConfig]

theorem updateProxyConfig_dangling {lib : Lib} {sid : SocketId} {cfg : ResolvedProxyConfig} {s : State}
    (h : s.proxySockets sid = none) : updateProxyConfig lib (some sid) cfg s = (0, s) := by
  simp only [updateProxyConfig, setConfigValues_dangling h, h]

/-- one application rewrites one balancer and nothing else that matters -/
structure Applied (s t : State) (cfg : ResolvedProxyConfig) (b : Option BalancerId) : Prop where
  servers : t.servers = match b with
    | none => s.servers
    | some b => Function.update s.servers b cfg.services
  wiring : t.wiring = s.wiring
  configs : t.configs = s.configs
  pipelineFactory : t.pipelineFactory = s.pipelineFactory

/-- **One application.** It succeeds and makes the list of the socket's balancer the configuration's services. -/
theorem updateProxyConfig_servers (lib : Lib) (sid : SocketId) (cfg : ResolvedProxyConfig) (s : State) :
    (updateProxyConfig lib (some sid) cfg s).1 = 0 ∧
      Applied s (updateProxyConfig lib (some sid) cfg s).2 cfg ((s.proxySockets sid).map ProxySocket.loadBalancer) := by
  cases h : s.proxySockets sid with
  | none =>
    rw [updateProxyConfig_dangling h]
    exact ⟨rfl, rfl, rfl, rfl, rfl⟩
  | some sock =>
    rw [updateProxyConfig_live h]
    refine ⟨rfl, rfl, ?_, rfl, rfl⟩
    simp only [State.wiring, Wiring.mk.injEq, true_and, and_true]
    funext sid'
    by_cases hs : sid' = sid
    · subst hs; simp [h, ProxySocket.forget]
    · simp [Function.update_of_ne hs]

/-- the write that a resolved configuration stands for -/
def writeOf (cfg : ResolvedProxyConfig) : String × List ResolvedService := (cfg.name, cfg.services)

/-- a pass over resolved configurations -/
structure Replayed (s t : State) (cfgs : List ResolvedProxyConfig) : Prop where
  servers : t.servers = Alias.replay s.reach s.servers (cfgs.map writeOf)
  wiring : t.wiring = s.wiring
  configs : t.configs = s.configs
  pipelineFactory : t.pipelineFactory = s.pipelineFactory

/-- **A pass is a replay of writes through the socket map.** It never fails. -/
theorem replayConfigs_servers (lib : Lib) (cfgs : List ResolvedProxyConfig) (s : State) :
    (replayConfigs lib cfgs s).1 = updatedReply ∧ Replayed s (replayConfigs lib cfgs s).2 cfgs := by
  induction cfgs generalizing s with
  | nil => exact ⟨rfl, rfl, rfl, rfl, rfl⟩
  | cons cfg cfgs ih =>
    simp only [replayConfigs]
    cases hm : s.proxySocketsMap cfg.name with
    | none =>
      obtain ⟨h1, h2⟩ := ih s
      refine ⟨h1, ?_, h2.wiring, h2.configs, h2.pipelineFactory⟩
      rw [h2.servers, List.map_cons, Alias.replay_cons]
      simp [Alias.write, State.reach, writeOf, hm]
    | some sid =>
      obtain ⟨h0, ha⟩ := updateProxyConfig_servers lib sid cfg s
      simp only [h0, lt_irrefl, if_false]
      obtain ⟨h1, h2⟩ := ih (updateProxyConfig lib (some sid) cfg s).2
      refine ⟨h1, ?_, h2.wiring.trans ha.wiring, h2.configs.trans ha.configs,
        h2.pipelineFactory.trans ha.pipelineFactory⟩
      rw [h2.servers, reach_of_wiring ha.wiring, ha.servers, List.map_cons, Alias.replay_cons]
      congr 1
      simp only [Alias.write, State.reach, writeOf, hm, Option.bind_some]
      cases (s.proxySockets sid).map ProxySocket.loadBalancer <;> rfl

/-! ## A whole pass -/

/-- the writes of a stored configuration, in document order -/
def ProxyConfig.writes (c : ProxyConfig) : List (String × List ResolvedService) :=
  c.endPoints.map fun e => (e.endPointName, resolveServices e)

theorem writes_of_resolved {eps : List RemoteEndPoint} {cfgs : List ResolvedProxyConfig}
    (h : List.Forall₂ ResolvesTo eps cfgs) :
    cfgs.map writeOf = eps.map fun e => (e.endPointName, resolveServices e) := by
  induction h with
  | nil => rfl
  | cons h _ ih => simp only [List.map_cons, ih, writeOf, h.name, h.services]

/-- how resolving the stored proxy configuration ends, if it fails -/
def resolutionFailure (lib : Lib) (w : World) (s : State) : Option Exn :=
  exitOf (resolveProxyServerConfigurations lib w s.configs.m_ProxyConfig s.pipelineFactory).1

/-- an edit does not decide whether and how the stored configuration fails to resolve -/
theorem resolutionFailure_edit {lib : Lib} {w : World} {s : State} {req : EndPointServiceConfig} {cs : List Cluster}
    (h : editClusters req s.configs.m_ProxyConfig.clusters = some cs) :
    resolutionFailure lib w (s.setProxyConfig ⟨cs⟩) = resolutionFailure lib w s := by
  obtain ⟨pre, endpoint, post, hedit⟩ := editClusters_some h
  exact (resolveProxy_sameKeys lib w hedit.sameKeys s.pipelineFactory).2.symm

/-- a failed pass changes nothing but what the pipeline factory loaded -/
theorem updateProxyServers_fails {lib : Lib} {w : World} {s : State} {e : Exn}
    (h : resolutionFailure lib w s = some e) :
    ∃ f, updateProxyServers lib w s =
      catchStd errorReply (.throws e, { s with pipelineFactory := f }) := by
  unfold resolutionFailure at h
  unfold updateProxyServers
  rcases hr : resolveProxyServerConfigurations lib w s.configs.m_ProxyConfig s.pipelineFactory with ⟨r, f⟩
  rw [hr] at h
  cases r with
  | error e' =>
    obtain rfl : e' = e := Option.some.inj h
    exact ⟨f, rfl⟩
  | ok cfgs => cases h

/-- the state after a pass that is answered ok -/
structure Updated (s t : State) : Prop where
  servers : t.servers = Alias.replay s.reach s.servers (ProxyConfig.writes s.configs.m_ProxyConfig)
  wiring : t.wiring = s.wiring
  configs : t.configs = s.configs

/-- **A pass over a configuration that resolves is answered ok and replays its endpoints' services.** -/
theorem updateProxyServers_ok {lib : Lib} {w : World} {s : State} (h : resolutionFailure lib w s = none) :
    ∃ t, updateProxyServers lib w s = (.ret updatedReply, t) ∧ Updated s t := by
  unfold resolutionFailure at h
  unfold updateProxyServers
  rcases hr : resolveProxyServerConfigurations lib w s.configs.m_ProxyConfig s.pipelineFactory with ⟨r, f⟩
  rw [hr] at h
  cases r with
  | error e => cases h
  | ok cfgs =>
    obtain ⟨h1, h2⟩ := replayConfigs_servers lib cfgs { s with pipelineFactory := f }
    refine ⟨(replayConfigs lib cfgs { s with pipelineFactory := f }).2, ?_, ?_, h2.wiring, h2.configs⟩
    · simp only [h1, catchStd]
    · rw [h2.servers, writes_of_resolved (resolveProxy_ok hr)]
      rfl

/-- what no pass changes -/
structure Untouched (s t : State) : Prop where
  wiring : t.wiring = s.wiring
  configs : t.configs = s.configs

theorem updateProxyServers_untouched (lib : Lib) (w : World) (s : State) :
    Untouched s (updateProxyServers lib w s).2 := by
  cases h : resolutionFailure lib w s with
  | none =>
    obtain ⟨t, ht, hu⟩ := updateProxyServers_ok h
    rw [ht]
    exact ⟨hu.wiring, hu.configs⟩
  | some e =>
    obtain ⟨f, hf⟩ := updateProxyServers_fails h
    rw [hf, catchStd_state]
    exact ⟨rfl, rfl⟩

/-- how a pass is answered, by how resolution fails -/
theorem updateProxyServers_ending (lib : Lib) (w : World) (s : State) :
    (updateProxyServers lib w s).1 = match resolutionFailure lib w s with
      | none => .ret updatedReply
      | some (.std what) => .ret (errorReply what)
      | some .other => .throws .other := by
  cases h : resolutionFailure lib w s with
  | none =>
    obtain ⟨t, ht, -⟩ := updateProxyServers_ok h
    rw [ht]
  | some e =>
    obtain ⟨f, hf⟩ := updateProxyServers_fails h
    rw [hf]
    cases e <;> rfl

/-- a pass whose resolution fails changes no list -/
theorem updateProxyServers_servers_fails {lib : Lib} {w : World} {s : State} {e : Exn}
    (h : resolutionFailure lib w s = some e) : (updateProxyServers lib w s).2.servers = s.servers := by
  obtain ⟨f, hf⟩ := updateProxyServers_fails h
  rw [hf, catchStd_state]

/-- **A pass that is answered ok** resolved and replayed. -/
theorem updateProxyServers_acknowledged {lib : Lib} {w : World} {s t : State} {r : Reply}
    (h : updateProxyServers lib w s = (.ret r, t)) (hr : r.status = .ok) :
    resolutionFailure lib w s = none ∧ Updated s t := by
  cases hf : resolutionFailure lib w s with
  | none =>
    obtain ⟨t', ht, hu⟩ := updateProxyServers_ok hf
    rw [h] at ht
    obtain rfl := (Prod.mk.inj ht).2
    exact ⟨rfl, hu⟩
  | some e =>
    have hending := updateProxyServers_ending lib w s
    rw [h, hf] at hending
    cases e with
    | std what => cases hending; cases hr
    | other => cases hending

/-- **A pass that is answered by error** did not resolve and changed no list. -/
theorem updateProxyServers_refused {lib : Lib} {w : World} {s t : State} {r : Reply}
    (h : updateProxyServers lib w s = (.ret r, t)) (hr : r.status = .error) :
    ∃ what, resolutionFailure lib w s = some (.std what) ∧ t.configs = s.configs ∧ t.servers = s.servers := by
  have hending := updateProxyServers_ending lib w s
  have huntouched := updateProxyServers_untouched lib w s
  rw [h] at hending huntouched
  cases hf : resolutionFailure lib w s with
  | none =>
    rw [hf] at hending
    cases hending; cases hr
  | some e =>
    have hservers := updateProxyServers_servers_fails hf
    rw [h] at hservers
    rw [hf] at hending
    cases e with
    | std what => exact ⟨what, rfl, huntouched.configs, hservers⟩
    | other => cases hending

theorem updateProxyServers_caught (lib : Lib) (w : World) (s : State) :
    catchStd errorReply (updateProxyServers lib w s) = updateProxyServers lib w s :=
  catchStd_idem _ _

end Asabru.Server
