/-
Which targets a process can be told to use.

A backend of the proxies is a service of the stored configuration: of the file, of an accepted reload, or of an accepted
service update. Nothing on any of these paths looks at a service's host or at the range of its port, and a port element
that is absent leaves the port as it was. The gateway tables skip a URI whose host is empty or whose port is out of
range, but not one that gives no port. Listening ports are checked by the resolvers for proxies and protocol servers, and
by nothing for gateways.

- `targets_valid`: in every run from a start in which the file gives its targets and gateway ports (`FileGiven`) and every
  reload and update gives the targets that it stores (`ExchangeGiven`), every backend, every entry of a gateway table and
  every listening port is valid, and each target has the text and the number of an element that configures it.
Witness: `served_targets_valid`. Counterexample: `port_out_of_range`.
-/
import Mathlib.Tactic
import Asabru.Server.Backends
import Asabru.Server.Targets

namespace Asabru.ValidTargets

open Asabru.Control Asabru.Xml Asabru.Config Asabru.Pipelines Asabru.Server

/-! ## What a run is given -/

/-- the services that a load stores give valid targets -/
def ServicesGiven (x : TinyXml) (pRoot : XMLElement) : Prop :=
  ¬ protocolThrows pRoot → proxySectionOk x pRoot →
    ∀ pEndPoint ∈ documentEndPoints pRoot, ∀ pService ∈ serviceElements pEndPoint,
      TargetGiven x (pService.firstChildElement "HOST") (pService.firstChildElement "PORT")

/-- the end-points that a load stores give their ports and those of the URIs that they route to -/
def GatewaysGiven (pRoot : XMLElement) : Prop :=
  (∀ pEndPoint ∈ gatewayElements pRoot, gatewayEndPointOk pEndPoint) →
    ∀ pEndPoint ∈ gatewayElements pRoot, gatewayEndPointGiven pEndPoint ∧ portInRange (documentTable pEndPoint).1 = true

structure FileGiven (lib : Lib) (configFilePath : String) : Prop where
  services : ∀ pRoot, readRoot configFilePath lib.xml.loadFile = some pRoot → ServicesGiven lib.xml pRoot
  gateways : ∀ pRoot, readRoot configFilePath lib.xml.loadFile = some pRoot → GatewaysGiven pRoot

/-- a reload as the file; an update that adds to an endpoint that is there gives a valid target -/
def ExchangeGiven (lib : Lib) (x : Exchange) : Prop :=
  match x.request with
  | .updateConfiguration content => ∀ pRoot, readRoot content lib.xml.parse = some pRoot → ServicesGiven lib.xml pRoot
  | .updateEndPointService content => ∀ doc pEndPoint pRequest, readRequest lib.xml content = some doc →
      requestOk lib.xml doc pEndPoint pRequest → safeText (pEndPoint.firstChildElement "operation") = "add" →
      (∃ e ∈ x.before.configs.m_ProxyConfig.endPoints, e.endPointName = nameOf pEndPoint) →
      TargetGiven lib.xml (pRequest.firstChildElement "host") (pRequest.firstChildElement "port")

/-- where the services of a run are configured: in the file, in a reload or in an update -/
inductive ConfiguredIn (lib : Lib) (configFilePath : String) (trace : List Exchange) : Sources
  | file {pRoot pEndPoint pService pPort : XMLElement} (root : readRoot configFilePath lib.xml.loadFile = some pRoot)
      (endPoint : pEndPoint ∈ documentEndPoints pRoot) (service : pService ∈ serviceElements pEndPoint)
      (port : pService.firstChildElement "PORT" = some pPort) :
      ConfiguredIn lib configFilePath trace (nameOf pEndPoint) (pService.firstChildElement "HOST") pPort
  | reload {x : Exchange} {content : String} {pRoot pEndPoint pService pPort : XMLElement} (mem : x ∈ trace)
      (request : x.request = .updateConfiguration content) (root : readRoot content lib.xml.parse = some pRoot)
      (endPoint : pEndPoint ∈ documentEndPoints pRoot) (service : pService ∈ serviceElements pEndPoint)
      (port : pService.firstChildElement "PORT" = some pPort) :
      ConfiguredIn lib configFilePath trace (nameOf pEndPoint) (pService.firstChildElement "HOST") pPort
  | update {x : Exchange} {content : String} {doc : XMLDocument} {pEndPoint pRequest pPort : XMLElement} (mem : x ∈ trace)
      (request : x.request = .updateEndPointService content) (read : readRequest lib.xml content = some doc)
      (accepted : requestOk lib.xml doc pEndPoint pRequest)
      (operation : safeText (pEndPoint.firstChildElement "operation") = "add")
      (port : pRequest.firstChildElement "port" = some pPort) :
      ConfiguredIn lib configFilePath trace (nameOf pEndPoint) (pRequest.firstChildElement "host") pPort

/-- all targets and listening ports of a state are valid, and its targets are configured -/
structure TargetsValid (lib : Lib) (configFilePath : String) (trace : List Exchange) (s : State) : Prop where
  backends : ∀ lib' w f cfgs f',
    resolveProxyServerConfigurations lib' w s.configs.m_ProxyConfig f = (.ok cfgs, f') →
    ∀ cfg ∈ cfgs, ∀ service ∈ cfg.services, ValidTarget service.ipaddress service.port ∧
      ConfiguredBy lib.xml (ConfiguredIn lib configFilePath trace) cfg.name service.ipaddress service.port
  routes : ∀ sid sock, s.gatewaySockets sid = some sock → ∀ hostname uriMap path target,
    sock.hostMap hostname = some uriMap → uriMap path = some target → ValidTarget target.ipaddress target.port ∧
      ∃ pRoot pEndPoint, readRoot configFilePath lib.xml.loadFile = some pRoot ∧ pEndPoint ∈ gatewayElements pRoot ∧
        UriTargetOf pEndPoint hostname path target
  proxyPorts : ∀ sid sock, s.proxySockets sid = some sock → portInRange sock.port = true
  libuvPorts : ∀ sid sock, s.libuvSockets sid = some sock → portInRange sock.port = true
  protocolPorts : ∀ sid sock, s.protocolSockets sid = some sock → portInRange sock.port = true
  gatewayPorts : ∀ sid sock, s.gatewaySockets sid = some sock → portInRange sock.port = true

/-! ## The stored proxy configuration -/

/-- what a load leaves of the proxy section: what was stored, or an accepted document -/
theorem load_proxy (x : TinyXml) (u : Uninit) (emptyCode : XMLFailure) (read : String → Except XMLFailure XMLDocument)
    (text : String) (c : Configs) :
    (loadConfigurations x u emptyCode read text c).2.m_ProxyConfig = c.m_ProxyConfig ∨
      ∃ pRoot, readRoot text read = some pRoot ∧ ¬ protocolThrows pRoot ∧ proxySectionOk x pRoot ∧
        Represents x pRoot (loadConfigurations x u emptyCode read text c).2.m_ProxyConfig := by
  cases hr : readRoot text read with
  | none =>
    obtain ⟨code, -, hload⟩ := @load_none x u emptyCode _ _ hr
    rw [hload]
    exact Or.inl rfl
  | some pRoot =>
    rw [load_root hr]
    rcases protocolServerLoop_cases x u pRoot with hreturns | ⟨err, hthrows⟩
    · rw [parseRoot_returns hreturns]
      by_cases hok : proxySectionOk x pRoot
      · exact Or.inr ⟨pRoot, rfl, protocolServerLoop_returns.1 hreturns, hok, represents_load hok u _⟩
      · exact Or.inl (loadProxy_rejected hok)
    · rw [parseRoot_throws hthrows]
      exact Or.inl rfl

theorem updateConfiguration_stored (lib : Lib) (w : World) (content : String) (s : State) :
    (Server.updateConfiguration lib w content s).2.configs =
      (loadConfigurationsFromString lib.xml w.uninit content s.configs).2 := by
  have hload : (s.loadFromString lib w content).2.configs =
      (loadConfigurationsFromString lib.xml w.uninit content s.configs).2 := rfl
  rw [updateConfiguration_eq, ← hload]
  rcases s.loadFromString lib w content with ⟨e, t⟩
  cases e with
  | ret code => exact (updateProxyServers_untouched lib w t).configs
  | throws err => cases err <;> rfl
  | hangs => rfl
  | undefined => rfl

section Steps

variable {lib : Lib} {configFilePath : String}

theorem ConfiguredIn.later {trace later : List Exchange} {n : String} {pHost : Option XMLElement} {pPort : XMLElement}
    (h : ConfiguredIn lib configFilePath trace n pHost pPort) :
    ConfiguredIn lib configFilePath (trace ++ later) n pHost pPort := by
  cases h with
  | file root endPoint service port => exact .file root endPoint service port
  | reload mem request root endPoint service port =>
    exact .reload (List.mem_append_left _ mem) request root endPoint service port
  | update mem request read accepted operation port =>
    exact .update (List.mem_append_left _ mem) request read accepted operation port

/-- **One request** keeps the stored configuration backed. -/
theorem request_backed {trace : List Exchange} {s : State} {w : World} {r : Request}
    (h : Backed lib.xml (ConfiguredIn lib configFilePath trace) s.configs.m_ProxyConfig)
    (hgiven : ExchangeGiven lib (s.exchange lib w r)) :
    Backed lib.xml (ConfiguredIn lib configFilePath (trace ++ [s.exchange lib w r]))
      (s.request lib w r).2.configs.m_ProxyConfig := by
  have hbefore : Backed lib.xml (ConfiguredIn lib configFilePath (trace ++ [s.exchange lib w r]))
      s.configs.m_ProxyConfig := h.mono fun _ _ _ hc => hc.later
  have hmem : s.exchange lib w r ∈ trace ++ [s.exchange lib w r] := List.mem_append_right _ List.mem_cons_self
  cases r with
  | updateConfiguration content =>
    show Backed _ _ (Server.updateConfiguration lib w content s).2.configs.m_ProxyConfig
    rw [updateConfiguration_stored]
    rcases load_proxy lib.xml w.uninit ⟨.errorEmptyDocument, by decide⟩ lib.xml.parse content s.configs with
      hkept | ⟨pRoot, hroot, hthrows, hok, hrep⟩
    · rw [loadConfigurationsFromString, hkept]
      exact hbefore
    · exact Backed.load hrep (hgiven pRoot hroot hthrows hok)
        fun pEndPoint he pService hs pPort hp => .reload hmem rfl hroot he hs hp
  | updateEndPointService content =>
    show Backed _ _ (Server.updateEndPointService lib w content s).2.configs.m_ProxyConfig
    cases hl : loadEndpointServiceFromString lib.xml w.uninit content with
    | error e =>
      rw [updateEndPointService_eq, hl]
      cases e <;> exact hbefore
    | ok req =>
      rw [updateEndPointService_stored hl]
      cases hc : editClusters req s.configs.m_ProxyConfig.clusters with
      | none => exact hbefore
      | some cs =>
        obtain ⟨doc, pEndPoint, pRequest, hdoc, hok, hof⟩ := loadRequest_spec hl
        refine Backed.edit hbefore hc fun hadd hfound => ?_
        have hop : safeText (pEndPoint.firstChildElement "operation") = "add" := hof.operation.symm.trans hadd
        rw [hof.name] at hfound ⊢
        exact (hgiven doc pEndPoint pRequest hdoc hok hop hfound).target hof.host hof.port
          fun el hel => .update hmem rfl hdoc hok hop hel

/-- **A run** keeps the stored configuration backed. -/
theorem run_backed {s₀ s : State} {trace : List Exchange} (hrun : Run lib s₀ trace s)
    (h : Backed lib.xml (ConfiguredIn lib configFilePath []) s₀.configs.m_ProxyConfig)
    (hgiven : ∀ x ∈ trace, ExchangeGiven lib x) :
    Backed lib.xml (ConfiguredIn lib configFilePath trace) s.configs.m_ProxyConfig := by
  induction hrun with
  | start => exact h
  | request hs w r _ ih =>
    have hbefore := ih fun x hx => hgiven x (List.mem_append_left _ hx)
    exact request_backed hbefore (hgiven _ (List.mem_append_right _ List.mem_cons_self))

end Steps

/-! ## Starts -/

section Starts

variable {lib : Lib} {w : Phase → World} {configFilePath : String} {s : State}

theorem start_backed (h : startProcess lib w configFilePath = some s) (hgiven : FileGiven lib configFilePath) :
    Backed lib.xml (ConfiguredIn lib configFilePath []) s.configs.m_ProxyConfig := by
  obtain ⟨t, hstarted⟩ := startProcess_started h
  have hstored : s.configs = (loadConfigurations lib.xml (w .construction).uninit fileNotFound lib.xml.loadFile
      configFilePath Configs.empty).2 := (congrArg Prod.snd hstarted.loaded).symm
  rcases load_proxy lib.xml (w .construction).uninit fileNotFound lib.xml.loadFile configFilePath Configs.empty with
    hempty | ⟨pRoot, hroot, hthrows, hok, hrep⟩
  · rw [hstored, hempty]
    exact fun e he => (nomatch he)
  · rw [hstored]
    exact Backed.load hrep (hgiven.services pRoot hroot hthrows hok)
      fun pEndPoint he pService hs pPort hp => .file hroot he hs hp

/-- the gateway end-points of a started process are those of its file -/
theorem start_gateways (h : startProcess lib w configFilePath = some s) :
    ∀ endpoint ∈ s.configs.m_ApiGatewayServerConfig.endpoints, ∃ pRoot pEndPoint u,
      readRoot configFilePath lib.xml.loadFile = some pRoot ∧
      (∀ el ∈ gatewayElements pRoot, gatewayEndPointOk el) ∧ pEndPoint ∈ gatewayElements pRoot ∧
      loadGatewayEndPoint u pEndPoint = .ok endpoint := by
  obtain ⟨t, hstarted⟩ := startProcess_started h
  have hloaded := hstarted.loaded
  unfold loadConfigurationsFromFile at hloaded
  intro endpoint hmem
  cases hr : readRoot configFilePath lib.xml.loadFile with
  | none =>
    obtain ⟨code, hcode, hload⟩ := @load_none lib.xml (w .construction).uninit fileNotFound _ _ hr
    rw [hload] at hloaded
    exact absurd (Ending.ret.inj (congrArg Prod.fst hloaded)) hcode
  | some pRoot =>
    rw [load_root hr] at hloaded
    obtain ⟨-, -, -, hstored⟩ := parseRoot_ret.1 hloaded
    have hgateway : s.configs.m_ApiGatewayServerConfig =
        (assignAfter (gatewayLoop (w .construction).uninit pRoot) ⟨[]⟩).2 :=
      congrArg Configs.m_ApiGatewayServerConfig hstored
    rw [hgateway] at hmem
    cases hl : gatewayLoop (w .construction).uninit pRoot with
    | error e =>
      rw [assignAfter_error hl] at hmem
      cases hmem
    | ok g =>
      rw [assignAfter_ok hl] at hmem
      obtain ⟨pEndPoint, hel, i, hload⟩ := forall₂_right (forEach_ok (gatewayLoop_endpoints hl)) hmem
      exact ⟨pRoot, pEndPoint, i, rfl, ((gatewayLoop_isOk _ pRoot).1 ⟨g, hl⟩).2, hel, hload⟩

end Starts

/-! ## Runs -/

/-- **Every target is valid in every run that is given valid ones.** -/
theorem targets_valid {lib : Lib} {w : Phase → World} {configFilePath : String} {s₀ s : State} {trace : List Exchange}
    (hstart : startProcess lib w configFilePath = some s₀) (hfile : FileGiven lib configFilePath)
    (hrun : Run lib s₀ trace s) (hsteps : ∀ x ∈ trace, ExchangeGiven lib x) :
    TargetsValid lib configFilePath trace s := by
  have hbacked := run_backed hrun (start_backed hstart hfile) hsteps
  have hsockets := (startProcess_sockets hstart).of_wiring hrun.wiring
  -- each gateway socket is the one that its element says
  have hgateway : ∀ sid sock, s.gatewaySockets sid = some sock → ∃ pRoot pEndPoint,
      readRoot configFilePath lib.xml.loadFile = some pRoot ∧ pEndPoint ∈ gatewayElements pRoot ∧
      gatewayEndPointGiven pEndPoint ∧ portInRange sock.port = true ∧ sock.hostMap = (documentTable pEndPoint).2 := by
    intro sid sock hs
    obtain ⟨endpoint, hmem, hport, htable⟩ := hsockets.gateway sid sock hs
    obtain ⟨pRoot, pEndPoint, u, hroot, hall, hel, hload⟩ := start_gateways hstart endpoint hmem
    obtain ⟨hgiven, hrange⟩ := hfile.gateways pRoot hroot hall pEndPoint hel
    have hdocument := endPoint_document hload hgiven
    rw [← hdocument] at hrange
    exact ⟨pRoot, pEndPoint, hroot, hel, hgiven, hport ▸ hrange, htable.trans (congrArg Prod.snd hdocument)⟩
  refine ⟨fun lib' w' f cfgs f' hres => hbacked.resolve hres, ?_, hsockets.proxy, hsockets.libuv, hsockets.protocol, ?_⟩
  · intro sid sock hs hostname uriMap path target hmap hpath
    obtain ⟨pRoot, pEndPoint, hroot, hel, hgiven, -, htable⟩ := hgateway sid sock hs
    rw [htable] at hmap
    obtain ⟨hvalid, huri⟩ := table_target hgiven hmap hpath
    exact ⟨hvalid, pRoot, pEndPoint, hroot, hel, huri⟩
  · intro sid sock hs
    obtain ⟨-, -, -, -, -, hrange, -⟩ := hgateway sid sock hs
    exact hrange

/-! ## Fixed runs -/

/-- a SERVICE element -/
def servicePort (name host port : String) : XMLElement :=
  ⟨"SERVICE", [("name", name), ("weight", "1")], [.element (leaf "HOST" host), .element (leaf "PORT" port)]⟩

/-- an endpoint "a" with one service, and a gateway with one URI -/
def servedDocument (port : String) : XMLDocument :=
  document (elem "clickhouse-proxy-v2" [
    elem "CLUSTERS" [elem "CLUSTER" [elem "END_POINTS" [⟨"END_POINT", [("name", "a")],
      ([leaf "PROXY_PORT" "9000", leaf "PIPELINE" "Pipeline", elem "SERVICES" [servicePort "a1" "10.0.0.1" port]]).map
        .element⟩]]],
    elem "api-gateway-server-config" [⟨"end-point", [("name", "gw")],
      ([leaf "port" "8080", leaf "pipeline" "Pipeline", elem "services" [⟨"service", [("hostname", "ui.local")],
        [.element ⟨"uri", [("path", "/")], [.element (leaf "host" "10.0.0.2"), .element (leaf "port" "8081")]⟩]⟩]]).map
        .element⟩]])

def servedDocs (port : String) : List (String × XMLDocument) :=
  [("config.xml", servedDocument port), ("add", updateDocument "add" "a" "a2" "10.0.0.3")]

/-- the root of the file of a table of documents -/
theorem readRoot_served {port : String} {pRoot : XMLElement}
    (h : readRoot "config.xml" (TinyXml.table (servedDocs port)).loadFile = some pRoot) :
    configRoot (servedDocument port) = some pRoot := by
  simpa [readRoot, TinyXml.table, servedDocs] using h

theorem servedFile_given : FileGiven (.plain (.table (servedDocs "9440"))) "config.xml" := by
  refine ⟨fun pRoot hroot _ _ pEndPoint he pService hs => ?_, fun pRoot hroot _ pEndPoint hel => ?_⟩
  · obtain rfl := Option.some.inj ((readRoot_served hroot).symm.trans rfl)
    obtain rfl := List.mem_singleton.1 he
    obtain rfl := List.mem_singleton.1 hs
    exact ⟨by decide, _, 9440, rfl, by decide, by decide⟩
  · obtain rfl := Option.some.inj ((readRoot_served hroot).symm.trans rfl)
    obtain rfl := List.mem_singleton.1 hel
    refine ⟨⟨nofun, fun pServices hs hostname path pService pUri hlast hfirst => ?_⟩, by decide⟩
    obtain rfl := Option.some.inj hs
    obtain rfl := List.mem_singleton.1 (List.mem_filter.1 (List.mem_of_getLast? hlast)).1
    obtain rfl := List.mem_singleton.1 (List.mem_of_find?_eq_some hfirst)
    exact nofun

/-- an update of the started process -/
def servedUpdate : Exchange :=
  (plainProcess (servedDocs "9440")).exchange (.plain (.table (servedDocs "9440"))) .calm (.updateEndPointService "add")

theorem servedUpdate_given : ExchangeGiven (.plain (.table (servedDocs "9440"))) servedUpdate := by
  intro doc pEndPoint pRequest hread hok _ _
  obtain rfl := Option.some.inj (hread.symm.trans rfl)
  obtain rfl := Option.some.inj (hok.endPoint.symm.trans rfl)
  obtain rfl := Option.some.inj (hok.service.symm.trans rfl)
  exact ⟨by decide, _, 9440, rfl, by decide, by decide⟩

/-- **Witness.** A service is added to the served endpoint. -/
theorem served_targets_valid :
    TargetsValid (.plain (.table (servedDocs "9440"))) "config.xml" [servedUpdate] servedUpdate.after := by
  have hend : servedUpdate.ending = .ret updatedReply := by decide
  have hrun : Run (.plain (.table (servedDocs "9440"))) (plainProcess (servedDocs "9440")) [servedUpdate] _ :=
    .request .start .calm (.updateEndPointService "add") (Or.inl ⟨updatedReply, hend⟩)
  exact targets_valid (plainProcessOn_started (by decide)) servedFile_given hrun
    fun x hx => List.mem_singleton.1 hx ▸ servedUpdate_given

/-- **A port out of range is served.** -/
theorem port_out_of_range : ∃ s₀,
    startProcess (.plain (.table (servedDocs "70000"))) (fun _ => .calm) "config.xml" = some s₀ ∧
    ¬ TargetsValid (.plain (.table (servedDocs "70000"))) "config.xml" [] s₀ := by
  refine ⟨plainProcess (servedDocs "70000"), plainProcessOn_started (by decide), fun h => ?_⟩
  let r := resolveProxyServerConfigurations (.plain (.table [])) .calm
    (plainProcess (servedDocs "70000")).configs.m_ProxyConfig plainFactory
  have hports : (r.1.toOption.map fun cfgs => cfgs.flatMap fun (cfg : ResolvedProxyConfig) =>
      cfg.services.map ResolvedService.port) = some [70000] := by decide
  cases hr : r.1 with
  | error e => rw [hr] at hports; cases hports
  | ok cfgs =>
    rw [hr] at hports
    have hlist : (cfgs.flatMap fun (cfg : ResolvedProxyConfig) => cfg.services.map ResolvedService.port) = [70000] :=
      Option.some.inj hports
    have hmem : (70000 : Int) ∈ cfgs.flatMap fun (cfg : ResolvedProxyConfig) => cfg.services.map ResolvedService.port := by
      rw [hlist]
      exact List.mem_cons_self
    obtain ⟨cfg, hcfg, hport⟩ := List.mem_flatMap.1 hmem
    obtain ⟨service, hs, hservice⟩ := List.mem_map.1 hport
    have hvalid := (h.backends _ _ _ cfgs r.2 (Prod.ext hr rfl) cfg hcfg service hs).1.port
    rw [hservice] at hvalid
    exact absurd hvalid (by decide)

end Asabru.ValidTargets
