/-
main.cpp and the singleton's constructor: starting a process from a configuration file, and its runs.

The constructor scans the plugins folder and loads the file; `main` then starts the proxies, the protocol servers and the
gateways, and gives up at the first exception or negative code. A run is a start followed by any sequence of the two
callbacks that change the stored configuration or a balancer, each under its own `World`; a callback that is left by an
exception leaves the process as it is then.

Results:
- `startProcess_started`: a successful start loaded its file, started its proxies and registered its routes (`Started`);
- `Run.wiring`: a run changes no socket, registration, balancer or route of its start;
- `Run.exchange`: every exchange of a run is what its request does at a state the run reached;
- `Reachable.live`: in every reachable state each registered socket exists.
-/
import Mathlib.Tactic
import Asabru.Server.GatewayServer

namespace Asabru.Server

open Asabru.Control Asabru.Config Asabru.Pipelines

/-! ## Start -/

/-- the parts of a start, each with its own answers of the environment -/
inductive Phase where
  | construction
  | proxyServers
  | protocolServers
  | apiGatewayServers
deriving DecidableEq, Repr

/-- the test after each `init...Servers()` of `main` -/
def succeeded (r : Ending Int × State) : Option State :=
  match r with
  | (.ret code, s) => if code < 0 then none else some s
  | _ => none

/-- the singleton's constructor -/
def construct (lib : Lib) (w : World) (configFilePath : String) : Option State :=
  match PipelineFactory.empty.updateLibs w.plugins with
  | .error _ => none
  | .ok pipelineFactory =>
    match loadConfigurationsFromFile lib.xml w.uninit configFilePath Configs.empty with
    | (.ret .success, configs) => some (.fresh configs pipelineFactory)
    | _ => none

/-- the process after `main` has started everything -/
def startProcess (lib : Lib) (w : Phase → World) (configFilePath : String) : Option State := do
  let s ← construct lib (w .construction) configFilePath
  let s ← succeeded (initProxyServers lib (w .proxyServers) s)
  let s ← succeeded (initProtocolServers lib (w .protocolServers) s)
  succeeded (initApiGatewayServers lib (w .apiGatewayServers) s)

/-! ## Runs -/

/-- a request that changes state -/
inductive Request where
  | updateConfiguration (content : String)
  | updateEndPointService (content : String)
deriving DecidableEq, Repr

def State.request (lib : Lib) (w : World) (s : State) : Request → Ending Reply × State
  | .updateConfiguration content => Server.updateConfiguration lib w content s
  | .updateEndPointService content => Server.updateEndPointService lib w content s

/-- the call ended in a defined state -/
def Ended {α : Type} (e : Ending α) : Prop := (∃ a, e = .ret a) ∨ ∃ err, e = .throws err

/-- one request of a run -/
structure Exchange where
  before : State
  world : World
  request : Request
  ending : Ending Reply
  after : State

/-- the exchange that a request makes at a state -/
def State.exchange (lib : Lib) (w : World) (s : State) (r : Request) : Exchange where
  before := s
  world := w
  request := r
  ending := (s.request lib w r).1
  after := (s.request lib w r).2

/-- runs of requests from a state, with their exchanges -/
inductive Run (lib : Lib) (s₀ : State) : List Exchange → State → Prop where
  | start : Run lib s₀ [] s₀
  | request {trace : List Exchange} {s : State} (hs : Run lib s₀ trace s) (w : World) (r : Request)
      (h : Ended (s.request lib w r).1) : Run lib s₀ (trace ++ [s.exchange lib w r]) (s.request lib w r).2

/-- the states of a process -/
def Reachable (lib : Lib) (s : State) : Prop :=
  ∃ w configFilePath s₀ trace, startProcess lib w configFilePath = some s₀ ∧ Run lib s₀ trace s

/-! ## What a start leaves -/

theorem succeeded_eq {r : Ending Int × State} {s : State} (h : succeeded r = some s) :
    ∃ code, r = (.ret code, s) ∧ 0 ≤ code := by
  unfold succeeded at h
  split at h
  · rename_i code t
    split_ifs at h with hneg
    obtain rfl := Option.some.inj h
    exact ⟨code, rfl, not_lt.1 hneg⟩
  · cases h

/-- a started process: `t` is the state after its proxies were started -/
structure Started (lib : Lib) (w : Phase → World) (configFilePath : String) (t s : State) : Prop where
  loaded : loadConfigurationsFromFile lib.xml (w .construction).uninit configFilePath Configs.empty =
    (.ret .success, s.configs)
  proxies : ∃ factory code, initProxyServers lib (w .proxyServers) (.fresh s.configs factory) = (.ret code, t) ∧ 0 ≤ code
  kept : ProxySideKept t s
  routes : ∃ cfgs, List.Forall₂ (ProtocolResolvesTo (w .protocolServers)) s.configs.m_ProtocolServerConfig cfgs ∧
    s.routes = cfgs.flatMap (registered lib)

theorem construct_eq {lib : Lib} {w : World} {configFilePath : String} {s : State}
    (h : construct lib w configFilePath = some s) : ∃ configs factory, s = .fresh configs factory ∧
      loadConfigurationsFromFile lib.xml w.uninit configFilePath Configs.empty = (.ret .success, configs) := by
  unfold construct at h
  split at h
  · cases h
  · split at h
    · rename_i factory _ _ configs hl
      exact ⟨configs, factory, (Option.some.inj h).symm, hl⟩
    · cases h

/-- **A successful start.** -/
theorem startProcess_started {lib : Lib} {w : Phase → World} {configFilePath : String} {s : State}
    (h : startProcess lib w configFilePath = some s) : ∃ t, Started lib w configFilePath t s := by
  unfold startProcess at h
  obtain ⟨s₁, hc, h₁⟩ := Option.bind_eq_some_iff.1 h
  obtain ⟨s₂, hx, h₂⟩ := Option.bind_eq_some_iff.1 h₁
  obtain ⟨s₃, hp, hg⟩ := Option.bind_eq_some_iff.1 h₂
  obtain ⟨configs, factory, rfl, hl⟩ := construct_eq hc
  obtain ⟨code₂, hx, hx0⟩ := succeeded_eq hx
  obtain ⟨code₃, hp, hp0⟩ := succeeded_eq hp
  obtain ⟨code₄, hg, -⟩ := succeeded_eq hg
  obtain ⟨hconfigs, hroutes⟩ := initProxyServers_frame hx hx0
  have hkp := (initProtocolServers_kept lib (w .protocolServers) s₂).1
  obtain ⟨hkg, hrg⟩ := initApiGatewayServers_kept lib (w .apiGatewayServers) s₃
  rw [hp] at hkp
  rw [hg] at hkg hrg
  have hkept : ProxySideKept s₂ s := hkp.trans hkg
  have hs : s.configs = configs := hkept.configs.trans hconfigs
  obtain ⟨cfgs, hres, hr⟩ := initProtocolServers_routes hp hp0
  refine ⟨s₂, ?_, ⟨factory, code₂, ?_, hx0⟩, hkept, cfgs, ?_, ?_⟩
  · rw [hs]
    exact hl
  · rw [hs]
    exact hx
  · rw [hkept.configs]
    exact hres
  · exact hrg.trans (hr.trans (by rw [hroutes]; rfl))

theorem Registered.kept {done : List ResolvedProxyConfig} {s t : State} (h : Registered done s)
    (hk : ProxySideKept s t) : Registered done t := by
  refine ⟨fun n hr => by rw [hk.proxySocketsMap]; exact h.absent n hr, fun n c hr => ?_⟩
  obtain ⟨sid, hm, hlt, hs⟩ := h.present n c hr
  exact ⟨sid, by rw [hk.proxySocketsMap, hm], lt_of_lt_of_le hlt hk.nextSocket, by rw [hk.proxySockets, hs]⟩

/-! ## What a run keeps -/

theorem updateConfiguration_wiring (lib : Lib) (w : World) (content : String) (s : State) :
    (Server.updateConfiguration lib w content s).2.wiring = s.wiring := by
  have hload : (s.loadFromString lib w content).2.wiring = s.wiring := rfl
  rw [updateConfiguration_eq]
  rcases hl : s.loadFromString lib w content with ⟨e, t⟩
  rw [hl] at hload
  cases e with
  | ret code => exact (updateProxyServers_untouched lib w t).wiring.trans hload
  | throws err => cases err <;> exact hload
  | hangs => exact hload
  | undefined => exact hload

theorem updateEndPointService_wiring (lib : Lib) (w : World) (content : String) (s : State) :
    (Server.updateEndPointService lib w content s).2.wiring = s.wiring := by
  rw [updateEndPointService_eq]
  cases loadEndpointServiceFromString lib.xml w.uninit content with
  | error e => cases e <;> rfl
  | ok req =>
    simp only [updateProxyEndPointService]
    split_ifs
    · rfl
    · cases editClusters req s.configs.m_ProxyConfig.clusters with
      | none => rfl
      | some clusters => exact (updateProxyServers_untouched lib w _).wiring

theorem request_wiring (lib : Lib) (w : World) (s : State) (r : Request) : (s.request lib w r).2.wiring = s.wiring := by
  cases r with
  | updateConfiguration content => exact updateConfiguration_wiring lib w content s
  | updateEndPointService content => exact updateEndPointService_wiring lib w content s

/-- **A run changes no socket, registration, balancer or route of its start.** -/
theorem Run.wiring {lib : Lib} {s₀ s : State} {trace : List Exchange} (h : Run lib s₀ trace s) :
    s.wiring = s₀.wiring := by
  induction h with
  | start => rfl
  | request _ w r _ ih => exact (request_wiring lib w _ r).trans ih

/-- every exchange of a run is what its request does at the state before it, which an earlier part of the run reached -/
theorem Run.exchange {lib : Lib} {s₀ s : State} {trace : List Exchange} (h : Run lib s₀ trace s) {x : Exchange}
    (hx : x ∈ trace) : x = x.before.exchange lib x.world x.request ∧ ∃ pre, Run lib s₀ pre x.before := by
  induction h with
  | start => cases hx
  | @request trace s hs w r _ ih =>
    rcases List.mem_append.1 hx with hx | hx
    · exact ih hx
    · obtain rfl := List.mem_singleton.1 hx
      exact ⟨rfl, trace, hs⟩

/-- a service update of a run, as a call -/
theorem Run.updateEndPointService {lib : Lib} {s₀ s : State} {trace : List Exchange} (h : Run lib s₀ trace s)
    {x : Exchange} (hx : x ∈ trace) {content : String} {r : Reply} (hreq : x.request = .updateEndPointService content)
    (hend : x.ending = .ret r) :
    Server.updateEndPointService lib x.world content x.before = (.ret r, x.after) := by
  obtain ⟨heq, -⟩ := h.exchange hx
  rw [heq, hreq] at hend
  rw [heq, hreq]
  exact Prod.ext hend rfl

/-- **Every registered socket is live**, in every reachable state. -/
theorem Reachable.live {lib : Lib} {s : State} (h : Reachable lib s) {name : String} {sid : SocketId}
    (hm : s.proxySocketsMap name = some sid) : (s.proxySockets sid).isSome := by
  obtain ⟨w, path, s₀, trace, hstart, hrun⟩ := h
  obtain ⟨t, ht⟩ := startProcess_started hstart
  obtain ⟨factory, code, hx, hcode⟩ := ht.proxies
  obtain ⟨cfgs, -, hreg⟩ := initProxyServers_registered hx hcode
  have hreg := hreg.kept ht.kept
  rw [map_of_wiring hrun.wiring] at hm
  have hbal := balancer_of_wiring hrun.wiring sid
  cases hr : registrant cfgs name with
  | none => rw [hreg.absent name hr] at hm; cases hm
  | some c =>
    obtain ⟨sid', hs, -, hsock⟩ := hreg.present name c hr
    obtain rfl : sid' = sid := Option.some.inj (hs.symm.trans hm)
    rw [hsock] at hbal
    cases hs' : s.proxySockets sid' with
    | none => rw [hs'] at hbal; cases hbal
    | some sock => rfl

/-! ## Documents for fixed runs -/

open Asabru.Xml

/-- a SERVICE element -/
def serviceElement (service : String × String) : XMLElement :=
  ⟨"SERVICE", [("name", service.1), ("weight", "1")], [.element (leaf "HOST" service.2), .element (leaf "PORT" "9440")]⟩

/-- an END_POINT element with named services -/
def endPointElement (name pipeline strategy : String) (services : List (String × String)) : XMLElement :=
  ⟨"END_POINT", [("name", name)], ([leaf "PROXY_PORT" "9000", leaf "PIPELINE" pipeline, leaf "HANDLER" "Handler",
    leaf "loadbalancer-strategy" strategy, elem "SERVICES" (services.map serviceElement)]).map .element⟩

/-- a document with one cluster of endpoints and an empty gateway section -/
def endPointsDocument (endPoints : List XMLElement) : XMLDocument :=
  document (elem "clickhouse-proxy-v2"
    [elem "CLUSTERS" [elem "CLUSTER" [elem "END_POINTS" endPoints]], elem "api-gateway-server-config" []])

/-- a service-update request -/
def updateDocument (operation name service host : String) : XMLDocument :=
  document ⟨"end_point", [("name", name)], [.element (leaf "operation" operation),
    .element ⟨"service", [("name", service)], [.element (leaf "host" host), .element (leaf "port" "9440")]⟩]⟩

/-- the process started on a file, with tinyxml2 reading the documents of a table -/
def plainProcessOn (docs : List (String × XMLDocument)) (configFilePath : String) : State :=
  (startProcess (.plain (.table docs)) (fun _ => .calm) configFilePath).getD (.fresh Configs.empty .empty)

/-- the process started on `config.xml` -/
def plainProcess (docs : List (String × XMLDocument)) : State := plainProcessOn docs "config.xml"

theorem plainProcessOn_started {docs : List (String × XMLDocument)} {configFilePath : String}
    (h : (startProcess (.plain (.table docs)) (fun _ => .calm) configFilePath).isSome) :
    startProcess (.plain (.table docs)) (fun _ => .calm) configFilePath = some (plainProcessOn docs configFilePath) := by
  obtain ⟨s, hs⟩ := Option.isSome_iff_exists.1 h
  unfold plainProcessOn
  rw [hs]
  rfl

end Asabru.Server
