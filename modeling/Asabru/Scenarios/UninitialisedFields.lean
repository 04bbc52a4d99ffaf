/-
What the int fields that are never assigned decide.

A load or a request is determined (`LoadDetermined`, `RequestDetermined`) when any two choices of what its fields start
with give the same ending, and leave configurations that resolve alike in every environment and build the same routing
tables on the same listening ports. How a load or request ends is always determined; the rest is not.

- `determined_iff`: a load is determined iff it stores nothing, or the sections that it stores give every field that is
  read of them (`FieldsGiven`); a request is determined iff it does not add a service to an endpoint that is served, since
  the weight of an added service is never assigned.
Counterexample: `service_without_port`.
-/
import Mathlib.Tactic
import Asabru.Config.Indeterminate
import Asabru.Config.RequestDocument
import Asabru.Server.DocumentTable
import Asabru.Server.Resolvable
import Asabru.Server.Process

namespace Asabru.UninitialisedFields

open Asabru.Control Asabru.Xml Asabru.Config Asabru.Pipelines Asabru.Server

/-! ## Determined loads and requests -/

/-- what each gateway socket is given: its port and its table -/
def gatewayTables (c : Configs) : List (Int × HostMap) :=
  c.m_ApiGatewayServerConfig.endpoints.map fun endpoint => (endpoint.port, hostMapOf endpoint.services)

/-- configurations that no environment tells apart -/
structure SameResults (c c' : Configs) : Prop where
  proxies : ∀ lib w f, resolveProxyServerConfigurations lib w c.m_ProxyConfig f =
    resolveProxyServerConfigurations lib w c'.m_ProxyConfig f
  protocols : ∀ lib w f, resolveProtocolServerConfigurations lib w c.m_ProtocolServerConfig f =
    resolveProtocolServerConfigurations lib w c'.m_ProtocolServerConfig f
  gateways : gatewayTables c = gatewayTables c'

theorem SameResults.refl (c : Configs) : SameResults c c := ⟨fun _ _ _ => rfl, fun _ _ _ => rfl, rfl⟩

structure LoadDetermined (load : Uninit → Configs → Ending XMLError × Configs) : Prop where
  ending : ∀ u u' c, (load u c).1 = (load u' c).1
  results : ∀ u u' c, Ended (load u c).1 → SameResults (load u c).2 (load u' c).2

/-- the environment of a request with other arbitrary values -/
def withUninit (w : World) (u : Uninit) : World := { w with uninit := u }

structure RequestDetermined (lib : Lib) (content : String) (s : State) : Prop where
  ending : ∀ w u u', (Server.updateEndPointService lib (withUninit w u) content s).1 =
    (Server.updateEndPointService lib (withUninit w u') content s).1
  results : ∀ w u u', SameResults (Server.updateEndPointService lib (withUninit w u) content s).2.configs
    (Server.updateEndPointService lib (withUninit w u') content s).2.configs

/-! ## The conditions -/

/-- a port that the resolver accepts -/
def protocolPortValid (ps : XMLElement) : Prop :=
  ∃ n, ps.firstChildElement "protocol-port" ≠ none ∧
    loadProtocolPort 0 (ps.firstChildElement "protocol-port") = .ok n ∧ portInRange n = true

/-- the fields that are read of what is stored: of the protocol servers, those up to the first one with an invalid port -/
structure FieldsGiven (x : TinyXml) (pRoot : XMLElement) : Prop where
  proxy : proxySectionOk x pRoot → ∀ pEndPoint ∈ documentEndPoints pRoot, endPointGiven pEndPoint
  protocol : protocolSectionOk pRoot → ∀ ps, Reached protocolPortValid (protocolServerElements pRoot) ps →
    ps.firstChildElement "protocol-port" ≠ none
  gateway : (∀ pEndPoint ∈ gatewayElements pRoot, gatewayEndPointOk pEndPoint) →
    ∀ pEndPoint ∈ gatewayElements pRoot, gatewayEndPointGiven pEndPoint

/-- the gateway loader does not end in a defined state -/
def gatewayStuck (pRoot : XMLElement) : Prop :=
  ∃ pEndPoint, Reached gatewayEndPointOk (gatewayElements pRoot) pEndPoint ∧
    (endPointNull pEndPoint ∨ (endPointHeadOk pEndPoint ∧ pEndPoint.firstChildElement "services" = none))

/-- a request that adds a service to an endpoint of a configuration whose ports are all valid -/
def AddsToServed (x : TinyXml) (content : String) (c : ProxyConfig) : Prop :=
  (∃ doc pEndPoint pService, readRequest x content = some doc ∧ requestOk x doc pEndPoint pService ∧
    safeText (pEndPoint.firstChildElement "operation") = "add" ∧
    ∃ e ∈ c.endPoints, e.endPointName = (pEndPoint.attribute "name").getD "") ∧
  ∀ e ∈ c.endPoints, portInRange e.proxyPort = true

/-! ## The proxy section -/

/-- a section that is stored alike from different values gives every field -/
theorem proxy_given {x : TinyXml} {pRoot : XMLElement} (hok : proxySectionOk x pRoot) {c : ProxyConfig}
    (hsame : ∀ lib w f,
      resolveProxyServerConfigurations lib w (loadProxyServerConfigurations x (.const 1) pRoot c).2 f =
        resolveProxyServerConfigurations lib w (loadProxyServerConfigurations x (.const 2) pRoot c).2 f) :
    ∀ pEndPoint ∈ documentEndPoints pRoot, endPointGiven pEndPoint := by
  have hload := fun n => loadProxy_const (c := c) (Prod.ext ((loadProxy_code x (.const n) pRoot c).2 hok) rfl)
  have hports : ∀ r ∈ (loadProxyServerConfigurations x (.const 1) pRoot c).2.endPoints,
      portInRange r.proxyPort = true := by
    intro r hr
    obtain ⟨e, -, he⟩ := forall₂_right (hload 1) hr
    have hport := (loadEndPoint_parts he).1
    cases hp : e.firstChildElement "PROXY_PORT" with
    | none =>
      rw [hp] at hport
      rw [← show (1 : Int) = r.proxyPort from Except.ok.inj hport]
      rfl
    | some p => exact portInRange_iff.2 (loadProxyPort_spec hport hp).2
  have hpairs := same_endPoints hsame hports
  intro e he
  obtain ⟨i, hi⟩ := List.mem_iff_getElem?.1 he
  obtain ⟨r, hr, hload₁⟩ := forall₂_at (hload 1) hi
  obtain ⟨r', hr', hload₂⟩ := forall₂_at (hload 2) hi
  obtain ⟨r'', hr'', hport, hservices⟩ := forall₂_at hpairs hr
  obtain rfl : r' = r'' := Option.some.inj (hr'.symm.trans hr'')
  refine loadEndPoint_distinguishes (by decide) hload₁ hload₂ hport ((map_eq_iff_forall₂.1 hservices).imp fun s s' hs => ?_)
  exact ⟨congrArg ResolvedService.port hs, congrArg ResolvedService.weight hs⟩

/-! ## The protocol-server section -/

/-- an element with a port loads to a server whose port is the element's -/
theorem protocolPort_loaded {x : TinyXml} {n : Int} {ps : XMLElement} {s : ProtocolServerConfig}
    (h : loadProtocolServer x n ps = .ok s) (hp : ps.firstChildElement "protocol-port" ≠ none) :
    protocolPortValid ps ↔ portInRange s.protocol_port = true := by
  have hport := (loadProtocolServer_port h).1
  have hzero : loadProtocolPort 0 (ps.firstChildElement "protocol-port") = .ok s.protocol_port := by
    rw [← hport]
    cases hel : ps.firstChildElement "protocol-port" with
    | none => exact absurd hel hp
    | some el => rfl
  unfold protocolPortValid
  constructor
  · rintro ⟨m, -, hm, hr⟩
    rw [show s.protocol_port = m from Except.ok.inj (hzero.symm.trans hm)]
    exact hr
  · intro hr
    exact ⟨s.protocol_port, hp, hzero, hr⟩

/-- servers whose ports are given up to the first invalid one resolve alike -/
theorem protocols_given {x : TinyXml} {lib : Lib} {w : World} {els : List XMLElement} {u u' : ℕ → Int}
    {bs bs' : List ProtocolServerConfig} (h : forEach (loadProtocolServer x) u els = .ok bs)
    (h' : forEach (loadProtocolServer x) u' els = .ok bs')
    (hgiven : ∀ ps, Reached protocolPortValid els ps → ps.firstChildElement "protocol-port" ≠ none)
    (f : PipelineFactory) :
    Control.traverse (resolveProtocol lib w) bs f = Control.traverse (resolveProtocol lib w) bs' f := by
  induction els generalizing u u' bs bs' f with
  | nil => cases h; cases h'; rfl
  | cons a els ih =>
    obtain ⟨b, rest, hb, hr, rfl⟩ := forEach_cons_ok h
    obtain ⟨b', rest', hb', hr', rfl⟩ := forEach_cons_ok h'
    have hp := hgiven a (reached_head _ a els)
    obtain rfl : b = b' := Except.ok.inj (by rw [← hb, ← hb', loadProtocolServer_given x hp])
    simp only [Control.traverse]
    cases hrange : portInRange b.protocol_port with
    | false => rw [resolveProtocol_invalid hrange]
    | true =>
      have hvalid := (protocolPort_loaded hb hp).2 hrange
      have hrest := fun g => ih hr hr' (fun ps hps => hgiven ps (hps.cons hvalid)) g
      rcases resolveProtocol lib w b f with ⟨r, g⟩
      cases r with
      | error e => rfl
      | ok cfg => simp only [hrest g]

/-- the first server without a port is reported with the value that its field held -/
theorem first_missing {x : TinyXml} {n : Int} (hn : portInRange n = false) {els : List XMLElement} {ps : XMLElement}
    {bs : List ProtocolServerConfig} (h : forEach (loadProtocolServer x) (fun _ => n) els = .ok bs)
    (hps : Reached protocolPortValid els ps) (habs : ps.firstChildElement "protocol-port" = none) {f : PipelineFactory}
    (hnames : ∀ b ∈ bs, b.pipeline ∈ f.m_libNames) :
    ∃ f', Control.traverse (resolveProtocol (.plain x) .calm) bs f = (.error (.std ("Invalid protocol port " ++ toString n ++
      " for protocol '" ++ (ps.attribute "protocol").getD "" ++ "'")), f') := by
  induction els generalizing bs f with
  | nil => exact absurd hps.mem List.not_mem_nil
  | cons a els ih =>
    obtain ⟨b, rest, hb, hr, rfl⟩ := forEach_cons_ok h
    obtain ⟨hname, hnames⟩ := List.forall_mem_cons.1 hnames
    rcases hps.tail with rfl | ⟨hvalid, hps⟩
    · obtain ⟨hport, hproto⟩ := loadProtocolServer_port hb
      rw [habs] at hport
      have hbn : b.protocol_port = n := (Except.ok.inj hport).symm
      refine ⟨f, ?_⟩
      simp only [Control.traverse, resolveProtocol_invalid (hbn ▸ hn), invalidProtocolPort, hbn, hproto]
    · have hp : a.firstChildElement "protocol-port" ≠ none := hvalid.choose_spec.1
      obtain ⟨cfg, g, hcfg, hlibs⟩ := resolveProtocol_lenient (x := x) ((protocolPort_loaded hb hp).1 hvalid) hname
      obtain ⟨f', hf'⟩ := ih hr hps (hlibs ▸ hnames)
      exact ⟨f', by simp only [Control.traverse, hcfg, hf']⟩

/-! ## Loads -/

theorem gateway_given {pRoot : XMLElement} {g g' : ApiGatewayServerConfig} (h : gatewayLoop (.const 1) pRoot = .ok g)
    (h' : gatewayLoop (.const 2) pRoot = .ok g')
    (hsame : g.endpoints.map (fun endpoint => (endpoint.port, hostMapOf endpoint.services)) =
      g'.endpoints.map fun endpoint => (endpoint.port, hostMapOf endpoint.services)) :
    ∀ pEndPoint ∈ gatewayElements pRoot, gatewayEndPointGiven pEndPoint := by
  intro e he
  obtain ⟨i, hi⟩ := List.mem_iff_getElem?.1 he
  obtain ⟨p, hp, _, rfl, hload⟩ := forall₂_at (forEach_ok_of (P := (· = ⟨1, fun _ _ => 1⟩)) (fun _ => rfl)
    (gatewayLoop_endpoints h)) hi
  obtain ⟨p', hp', _, rfl, hload'⟩ := forall₂_at (forEach_ok_of (P := (· = ⟨2, fun _ _ => 2⟩)) (fun _ => rfl)
    (gatewayLoop_endpoints h')) hi
  obtain ⟨p'', hp'', hpair⟩ := forall₂_at (map_eq_iff_forall₂.1 hsame) hp
  obtain rfl : p' = p'' := Option.some.inj (hp'.symm.trans hp'')
  obtain ⟨hport, htable⟩ := Prod.mk.inj hpair
  exact hostMap_distinguishes (by decide) rfl rfl hload hload' hport htable

/-- the tables of a gateway section that gives its fields -/
theorem gatewayLoop_tables {u : Uninit} {pRoot : XMLElement} {g : ApiGatewayServerConfig} (h : gatewayLoop u pRoot = .ok g)
    (hgiven : ∀ pEndPoint ∈ gatewayElements pRoot, gatewayEndPointGiven pEndPoint) :
    g.endpoints.map (fun endpoint => (endpoint.port, hostMapOf endpoint.services)) =
      (gatewayElements pRoot).map documentTable := by
  refine (map_eq_iff_forall₂.2 (List.Forall₂.imp ?_
    ((List.forall₂_and_left _ _).2 ⟨hgiven, forEach_ok (gatewayLoop_endpoints h)⟩))).symm
  rintro e endpoint ⟨he, _, hload⟩
  exact (endPoint_document hload he).symm

theorem gateways_given {x : TinyXml} {pRoot : XMLElement}
    (h : (∀ pEndPoint ∈ gatewayElements pRoot, gatewayEndPointOk pEndPoint) →
      ∀ pEndPoint ∈ gatewayElements pRoot, gatewayEndPointGiven pEndPoint) (u u' : Uninit) (c : Configs) :
    gatewayTables (storedConfigs x u pRoot c) = gatewayTables (storedConfigs x u' pRoot c) := by
  have hexit := gatewayLoop_exit u u' pRoot
  unfold gatewayTables storedConfigs loadApiGatewayConfigurations
  cases hg : gatewayLoop u pRoot with
  | error e =>
    cases hg' : gatewayLoop u' pRoot with
    | ok g' => rw [hg, hg'] at hexit; cases hexit
    | error e' => rw [assignAfter_error rfl, assignAfter_error rfl]
  | ok g =>
    cases hg' : gatewayLoop u' pRoot with
    | error e' => rw [hg, hg'] at hexit; cases hexit
    | ok g' =>
      have hgiven := h ((gatewayLoop_isOk u pRoot).1 ⟨g, hg⟩).2
      rw [assignAfter_ok rfl, assignAfter_ok rfl, gatewayLoop_tables hg hgiven, gatewayLoop_tables hg' hgiven]

/-- what is stored of a document that gives its fields does not depend on the arbitrary values -/
theorem stored_given {x : TinyXml} {pRoot : XMLElement} (h : FieldsGiven x pRoot) (u u' : Uninit) (c : Configs) :
    SameResults (storedConfigs x u pRoot c) (storedConfigs x u' pRoot c) := by
  constructor
  · intro lib w f
    have hstored : (loadProxyServerConfigurations x u pRoot c.m_ProxyConfig).2 =
        (loadProxyServerConfigurations x u' pRoot c.m_ProxyConfig).2 := by
      by_cases hok : proxySectionOk x pRoot
      · rw [loadProxy_given x (h.proxy hok) u u']
      · rw [loadProxy_rejected hok, loadProxy_rejected hok]
    simp only [storedConfigs, hstored]
  · intro lib w f
    by_cases hok : protocolSectionOk pRoot
    · obtain ⟨v, hv⟩ := protocol_ok_of_section (x := x) (u := u) hok
      obtain ⟨v', hv'⟩ := protocol_ok_of_section (x := x) (u := u') hok
      simp only [storedConfigs, loadProtocolServerConfigurations, assignAfter_ok hv, assignAfter_ok hv']
      exact protocols_given hv hv' (h.protocol hok) f
    · obtain ⟨e, he⟩ := protocol_error_of_section (x := x) (u := u) hok
      obtain ⟨e', he'⟩ := protocol_error_of_section (x := x) (u := u') hok
      simp only [storedConfigs, loadProtocolServerConfigurations, assignAfter_error he, assignAfter_error he']
  · exact gateways_given h.gateway u u' c

/-- a gateway loader that is not stuck ends in a defined state -/
theorem ended_iff {u : Uninit} {pRoot : XMLElement} : Ended (gatewayEnding u pRoot) ↔ ¬ gatewayStuck pRoot := by
  have hstuck : gatewayStuck pRoot ↔ gatewayLoop u pRoot = .error .undefined ∨ gatewayLoop u pRoot = .error .hangs := by
    rw [gatewayLoop_undefined, gatewayLoop_hangs]
    unfold gatewayStuck
    constructor
    · rintro ⟨e, hr, h | h⟩
      · exact Or.inl ⟨e, hr, h⟩
      · exact Or.inr ⟨e, hr, h⟩
    · rintro (⟨e, hr, h⟩ | ⟨e, hr, h⟩)
      · exact ⟨e, hr, Or.inl h⟩
      · exact ⟨e, hr, Or.inr h⟩
  rw [hstuck]
  unfold gatewayEnding Ended
  cases gatewayLoop u pRoot with
  | ok g => simp
  | error e => cases e <;> simp

/-- results with 0 and with -1 in the port fields tell whether a server that is got to has its port -/
theorem protocol_given {x : TinyXml} {pRoot : XMLElement} (hok : protocolSectionOk pRoot)
    (hsame : SameResults (storedConfigs x (.const 0) pRoot .empty) (storedConfigs x (.const (-1)) pRoot .empty))
    {ps : XMLElement} (hps : Reached protocolPortValid (protocolServerElements pRoot) ps) :
    ps.firstChildElement "protocol-port" ≠ none := by
  intro habs
  obtain ⟨bs, hbs⟩ := protocol_ok_of_section (x := x) (u := .const 0) hok
  obtain ⟨bs', hbs'⟩ := protocol_ok_of_section (x := x) (u := .const (-1)) hok
  let factory := lenientFactory ((bs ++ bs').map ProtocolServerConfig.pipeline)
  have heq := hsame.protocols (.plain x) .calm factory
  simp only [storedConfigs, loadProtocolServerConfigurations, assignAfter_ok hbs, assignAfter_ok hbs',
    resolveProtocolServerConfigurations] at heq
  -- the first server without a port is reported with either value
  obtain ⟨f, hf⟩ := first_missing (n := 0) rfl hbs hps habs (f := factory)
    fun b hb => List.mem_map_of_mem (List.mem_append_left bs' hb)
  obtain ⟨f', hf'⟩ := first_missing (n := -1) rfl hbs' hps habs (f := factory)
    fun b hb => List.mem_map_of_mem (List.mem_append_right bs hb)
  rw [hf, hf'] at heq
  have htext := Exn.std.inj (Except.error.inj (Prod.mk.inj heq).1)
  have hlength := congrArg String.length htext
  simp only [String.length_append] at hlength
  have h0 : (toString (0 : Int)).length = 1 := by decide
  have h1 : (toString (-1 : Int)).length = 2 := by decide
  omega

/-- results that no arbitrary value changes come from a document that gives the fields -/
theorem fields_given {x : TinyXml} {pRoot : XMLElement}
    (hsame : ∀ u u', SameResults (storedConfigs x u pRoot .empty) (storedConfigs x u' pRoot .empty)) :
    FieldsGiven x pRoot := by
  refine ⟨fun hok => proxy_given hok (hsame (.const 1) (.const 2)).proxies,
    fun hok ps hps => protocol_given hok (hsame _ _) hps, fun hok e he => ?_⟩
  have hpresent : pRoot.firstChildElement "api-gateway-server-config" ≠ none := by
    intro hnone
    simp [gatewayElements, hnone] at he
  obtain ⟨g, hg⟩ := (gatewayLoop_isOk (.const 1) pRoot).2 ⟨hpresent, hok⟩
  obtain ⟨g', hg'⟩ := (gatewayLoop_isOk (.const 2) pRoot).2 ⟨hpresent, hok⟩
  have htables := (hsame (.const 1) (.const 2)).gateways
  simp only [gatewayTables, storedConfigs, loadApiGatewayConfigurations, assignAfter_ok hg, assignAfter_ok hg'] at htables
  exact gateway_given hg hg' htables e he

/-- **A load at a root is determined** iff it stores nothing or the document gives the fields that are read. -/
theorem root_determined_iff (x : TinyXml) (pRoot : XMLElement) :
    LoadDetermined (fun u c => parseRoot x u pRoot c) ↔
      protocolThrows pRoot ∨ gatewayStuck pRoot ∨ FieldsGiven x pRoot := by
  constructor
  · intro h
    by_cases hthrows : protocolThrows pRoot
    · exact Or.inl hthrows
    by_cases hstuck : gatewayStuck pRoot
    · exact Or.inr (Or.inl hstuck)
    refine Or.inr (Or.inr (fields_given fun u u' => ?_))
    have hr := h.results u u' .empty
    simp only [parseRoot_returns (protocolServerLoop_returns.2 hthrows)] at hr
    exact hr (ended_iff.2 hstuck)
  · intro h
    refine ⟨fun u u' c => parseRoot_ending x u u' pRoot c, fun u u' c hended => ?_⟩
    by_cases hthrows : protocolThrows pRoot
    · obtain ⟨err, herr⟩ := (protocolServerLoop_throws x u pRoot).2 hthrows
      obtain ⟨err', herr'⟩ := (protocolServerLoop_throws x u' pRoot).2 hthrows
      rw [parseRoot_throws herr, parseRoot_throws herr']
      exact .refl c
    · rw [parseRoot_returns (protocolServerLoop_returns.2 hthrows)] at hended ⊢
      rw [parseRoot_returns (protocolServerLoop_returns.2 hthrows)]
      rcases h with h | h | h
      · exact absurd h hthrows
      · exact absurd h (ended_iff.1 hended)
      · exact stored_given h u u' c

/-! ## Requests -/

theorem request_eq (lib : Lib) (w : World) (u : Uninit) (content : String) (s : State) :
    Server.updateEndPointService lib (withUninit w u) content s =
      match loadEndpointServiceFromString lib.xml u content with
      | .error (.std what) => (.ret (errorReply what), s)
      | .error .other => (.throws .other, s)
      | .ok req => match editClusters req s.configs.m_ProxyConfig.clusters with
        | none => (.ret (errorReply ("Endpoint '" ++ req.name ++ "' not found.")), s)
        | some clusters => updateProxyServers lib w (s.setProxyConfig ⟨clusters⟩) := by
  rw [updateEndPointService_eq]
  show (match loadEndpointServiceFromString lib.xml u content with
    | .error (.std what) => _
    | .error .other => _
    | .ok req => _) = _
  cases hl : loadEndpointServiceFromString lib.xml u content with
  | error e => cases e <;> rfl
  | ok req =>
    dsimp only
    rw [updateProxyEndPointService_eq (loadEndpointService_operation hl)]
    rfl

/-- an accepted request for two values: the same elements, and each value as the service's weight -/
theorem request_pair {x : TinyXml} {content : String} {u : Uninit} {req : EndPointServiceConfig}
    (h : loadEndpointServiceFromString x u content = .ok req) (u' : Uninit) :
    ∃ req' doc pEndPoint pService, loadEndpointServiceFromString x u' content = .ok req' ∧
      readRequest x content = some doc ∧ requestOk x doc pEndPoint pService ∧
      RequestOf x u.updateService pEndPoint pService req ∧ RequestOf x u'.updateService pEndPoint pService req' := by
  obtain ⟨doc, pEndPoint, pService, hdoc, hok, hof⟩ := loadRequest_spec h
  obtain ⟨req', h'⟩ := (loadRequest_isOk x u' content).2 ⟨doc, pEndPoint, pService, hdoc, hok⟩
  obtain ⟨doc', pEndPoint', pService', hdoc', hok', hof'⟩ := loadRequest_spec h'
  obtain rfl := Option.some.inj (hdoc.symm.trans hdoc')
  obtain ⟨rfl, rfl⟩ := hok.unique hok'
  exact ⟨req', doc, pEndPoint, pService, h', hdoc, hok, hof, hof'⟩

/-- a configuration with an invalid port does not resolve, whatever its services -/
theorem invalid_same {c c' : ProxyConfig} (hkeys : List.Forall₂ SameKeys c.endPoints c'.endPoints) {e : RemoteEndPoint}
    (he : e ∈ c.endPoints) (hport : portInRange e.proxyPort = false) (lib : Lib) (w : World) (f : PipelineFactory) :
    resolveProxyServerConfigurations lib w c f = resolveProxyServerConfigurations lib w c' f := by
  obtain ⟨hstate, hexit⟩ := resolveProxy_sameKeys lib w hkeys f
  refine Prod.ext ?_ hstate
  cases hr : (resolveProxyServerConfigurations lib w c f).1 with
  | ok cfgs =>
    -- every endpoint resolved
    obtain ⟨cfg, -, f₁, f₂, hb⟩ := forall₂_right (traverse_ok (Prod.ext hr rfl)).flip he
    rw [resolveEndPoint_range hb] at hport
    cases hport
  | error err =>
    cases hr' : (resolveProxyServerConfigurations lib w c' f).1 with
    | ok cfgs => rw [hr, hr'] at hexit; cases hexit
    | error err' =>
      rw [hr, hr'] at hexit
      rw [Option.some.inj hexit]

/-- an endpoint with the name is found -/
theorem editClusters_found {req : EndPointServiceConfig} {c : ProxyConfig} {e : RemoteEndPoint} (he : e ∈ c.endPoints)
    (hname : e.endPointName = req.name) : ∃ cs, editClusters req c.clusters = some cs := by
  cases hc : editClusters req c.clusters with
  | none => exact absurd hname (editClusters_none.1 hc e he)
  | some cs => exact ⟨cs, rfl⟩

/-- two services added to an endpoint of a configuration with valid ports are told apart by their weights -/
theorem added_same {req req' : EndPointServiceConfig} {c : ProxyConfig} {cs cs' : List Cluster}
    (hports : ∀ e ∈ c.endPoints, portInRange e.proxyPort = true) (hname : req.name = req'.name)
    (hop : req.operation = "add") (hop' : req'.operation = "add") (hc : editClusters req c.clusters = some cs)
    (hc' : editClusters req' c.clusters = some cs')
    (hsame : ∀ lib w f, resolveProxyServerConfigurations lib w ⟨cs⟩ f = resolveProxyServerConfigurations lib w ⟨cs'⟩ f) :
    req.service.weight = req'.service.weight := by
  obtain ⟨pre, e, post, hedit⟩ := editClusters_some hc
  obtain ⟨pre', e', post', hedit'⟩ := editClusters_some hc'
  obtain ⟨rfl, rfl, rfl⟩ := hedit.unique hedit' hname
  have hcports : ∀ e ∈ (ProxyConfig.mk cs).endPoints, portInRange e.proxyPort = true := by
    intro a ha
    obtain ⟨b, hb, hkeys⟩ := forall₂_right hedit.sameKeys ha
    rw [← hkeys.proxyPort]
    exact hports b hb
  have hpairs := @same_endPoints ⟨cs⟩ ⟨cs'⟩ hsame hcports
  rw [hedit.after, hedit'.after] at hpairs
  have hat : (pre ++ editEndPoint req e :: post)[pre.length]? = some (editEndPoint req e) := by simp
  obtain ⟨e'', he'', -, hservices⟩ := forall₂_at hpairs hat
  obtain rfl : editEndPoint req' e = e'' := Option.some.inj (by simpa using he'')
  simp only [resolveServices, editEndPoint, hop, hop', if_true, List.map_append, List.map_cons, List.map_nil] at hservices
  have hlast := List.cons.inj (List.append_cancel_left hservices)
  exact congrArg ResolvedService.weight hlast.1

/-- edits of a configuration with an invalid port are not told apart -/
theorem edited_invalid {req req' : EndPointServiceConfig} {s : State} {cs cs' : List Cluster}
    (hc : editClusters req s.configs.m_ProxyConfig.clusters = some cs)
    (hc' : editClusters req' s.configs.m_ProxyConfig.clusters = some cs') {e : RemoteEndPoint}
    (he : e ∈ s.configs.m_ProxyConfig.endPoints) (hport : portInRange e.proxyPort = false) (lib : Lib) (w : World) :
    (updateProxyServers lib w (s.setProxyConfig ⟨cs⟩)).1 = (updateProxyServers lib w (s.setProxyConfig ⟨cs'⟩)).1 ∧
      SameResults (updateProxyServers lib w (s.setProxyConfig ⟨cs⟩)).2.configs
        (updateProxyServers lib w (s.setProxyConfig ⟨cs'⟩)).2.configs := by
  obtain ⟨pre, e₁, post, hedit⟩ := editClusters_some hc
  obtain ⟨pre', e₂, post', hedit'⟩ := editClusters_some hc'
  simp only [(updateProxyServers_untouched lib w _).configs]
  refine ⟨?_, fun lib' w' f => ?_, fun _ _ _ => rfl, rfl⟩
  · rw [updateProxyServers_ending, updateProxyServers_ending, resolutionFailure_edit hc, resolutionFailure_edit hc']
  · have hbefore : ∀ {cs₁ : List Cluster},
        List.Forall₂ SameKeys s.configs.m_ProxyConfig.endPoints (ProxyConfig.mk cs₁).endPoints →
          resolveProxyServerConfigurations lib' w' s.configs.m_ProxyConfig f =
            resolveProxyServerConfigurations lib' w' ⟨cs₁⟩ f :=
      fun hkeys => invalid_same hkeys he hport lib' w' f
    exact (hbefore hedit.sameKeys).symm.trans (hbefore hedit'.sameKeys)

/-- an accepted request that does not add a service to a served endpoint does the same for any value -/
theorem request_same {lib : Lib} {w : World} {content : String} {s : State} {u u' : Uninit} {req : EndPointServiceConfig}
    (hnot : ¬ AddsToServed lib.xml content s.configs.m_ProxyConfig)
    (hl : loadEndpointServiceFromString lib.xml u content = .ok req) :
    (Server.updateEndPointService lib (withUninit w u) content s).1 =
        (Server.updateEndPointService lib (withUninit w u') content s).1 ∧
      SameResults (Server.updateEndPointService lib (withUninit w u) content s).2.configs
        (Server.updateEndPointService lib (withUninit w u') content s).2.configs := by
  obtain ⟨req', doc, pEndPoint, pService, hl', hdoc, hok, hof, hof'⟩ := request_pair hl u'
  have hname : req.name = req'.name := hof.name.trans hof'.name.symm
  rw [request_eq, request_eq, hl, hl']
  dsimp only
  by_cases hadd : req.operation = "add"
  · by_cases hfound : ∃ e ∈ s.configs.m_ProxyConfig.endPoints, e.endPointName = req.name
    · obtain ⟨e, he, hnamed⟩ := hfound
      obtain ⟨cs, hc⟩ := editClusters_found he hnamed
      obtain ⟨cs', hc'⟩ := editClusters_found he (hnamed.trans hname)
      -- the endpoint is there, so some port is invalid
      obtain ⟨b, hb, hport⟩ : ∃ b ∈ s.configs.m_ProxyConfig.endPoints, portInRange b.proxyPort = false := by
        by_contra hall
        push Not at hall
        exact hnot ⟨⟨doc, pEndPoint, pService, hdoc, hok, hof.operation.symm.trans hadd, e, he, hnamed.trans hof.name⟩,
          fun b hb => by simpa using hall b hb⟩
      rw [hc, hc']
      exact edited_invalid hc hc' hb hport lib w
    · have hnone : ∀ e ∈ s.configs.m_ProxyConfig.endPoints, e.endPointName ≠ req.name :=
        fun e he hn => hfound ⟨e, he, hn⟩
      rw [editClusters_none.2 hnone, editClusters_none.2 (hname ▸ hnone), hname]
      exact ⟨rfl, .refl _⟩
  · have hedit : ∀ e, editEndPoint req e = editEndPoint req' e := by
      intro e
      unfold editEndPoint
      rw [if_neg hadd, if_neg (hof.operation.trans hof'.operation.symm ▸ hadd), hof.serviceName, hof'.serviceName]
    rw [editClusters_congr hname hedit, hname]
    exact ⟨rfl, .refl _⟩

/-- **A request is determined** iff it does not add a service to an endpoint of a configuration with valid ports. -/
theorem request_determined_iff (lib : Lib) (content : String) (s : State) :
    RequestDetermined lib content s ↔ ¬ AddsToServed lib.xml content s.configs.m_ProxyConfig := by
  constructor
  · rintro h ⟨⟨doc, pEndPoint, pService, hdoc, hok, hadd, e, he, hnamed⟩, hports⟩
    obtain ⟨req, hl⟩ := (loadRequest_isOk lib.xml (.const 1) content).2 ⟨doc, pEndPoint, pService, hdoc, hok⟩
    obtain ⟨req', _, _, _, hl', hdoc', hok', hof, hof'⟩ := request_pair hl (.const 2)
    obtain rfl := Option.some.inj (hdoc.symm.trans hdoc')
    obtain ⟨rfl, rfl⟩ := hok.unique hok'
    obtain ⟨cs, hc⟩ := editClusters_found he (hnamed.trans hof.name.symm)
    obtain ⟨cs', hc'⟩ := editClusters_found he (hnamed.trans hof'.name.symm)
    have hsame := (h.results .calm (.const 1) (.const 2)).proxies
    rw [request_eq, request_eq, hl, hl'] at hsame
    simp only [hc, hc', (updateProxyServers_untouched lib World.calm _).configs] at hsame
    have hweight := added_same hports (hof.name.trans hof'.name.symm) (hof.operation.trans hadd)
      (hof'.operation.trans hadd) hc hc' hsame
    rw [hof.weight, hof'.weight] at hweight
    exact absurd hweight (by decide)
  · intro hnot
    have hall : ∀ w u u', (Server.updateEndPointService lib (withUninit w u) content s).1 =
        (Server.updateEndPointService lib (withUninit w u') content s).1 ∧
        SameResults (Server.updateEndPointService lib (withUninit w u) content s).2.configs
          (Server.updateEndPointService lib (withUninit w u') content s).2.configs := by
      intro w u u'
      cases hl : loadEndpointServiceFromString lib.xml u content with
      | ok req => exact request_same hnot hl
      | error err =>
        have hexit := loadRequest_exit lib.xml u u' content
        rw [request_eq, request_eq, hl]
        cases hl' : loadEndpointServiceFromString lib.xml u' content with
        | ok req' => rw [hl, hl'] at hexit; cases hexit
        | error err' =>
          rw [hl, hl'] at hexit
          obtain rfl := Option.some.inj hexit
          exact ⟨rfl, .refl _⟩
    exact ⟨fun w u u' => (hall w u u').1, fun w u u' => (hall w u u').2⟩

/-! ## Determined entries -/

/-- **What indeterminate values decide.** A load, from a file or a string, and a service update are determined exactly
under their conditions. -/
theorem determined_iff (lib : Lib) :
    (∀ emptyCode read text, LoadDetermined (fun u c => loadConfigurations lib.xml u emptyCode read text c) ↔
      ∀ pRoot, readRoot text read = some pRoot →
        protocolThrows pRoot ∨ gatewayStuck pRoot ∨ FieldsGiven lib.xml pRoot) ∧
    ∀ content s, RequestDetermined lib content s ↔ ¬ AddsToServed lib.xml content s.configs.m_ProxyConfig := by
  refine ⟨fun emptyCode read text => ?_, request_determined_iff lib⟩
  cases hr : readRoot text read with
  | none =>
    refine ⟨fun _ pRoot h => (nomatch h), fun _ => ⟨fun u u' c => ?_, fun u u' c _ => ?_⟩⟩
    · rw [load_unread hr u']
    · rw [load_unread hr u']
      exact .refl _
  | some pRoot =>
    simp only [load_root hr, Option.some.injEq, forall_eq']
    exact root_determined_iff lib.xml pRoot

/-- an endpoint of the file with one service, which has a host and a weight and no port -/
def portlessDocument : XMLDocument :=
  endPointsDocument [⟨"END_POINT", [("name", "a")], [.element (leaf "PROXY_PORT" "9000"),
    .element (leaf "PIPELINE" "Pipeline"),
    .element (elem "SERVICES" [⟨"SERVICE", [("name", "a1"), ("weight", "1")], [.element (leaf "HOST" "10.0.0.1")]⟩])]⟩]

/-- the port of its only server is whatever the field held -/
theorem service_without_port : ¬ LoadDetermined fun u c =>
    loadConfigurationsFromString (.table [("reload", portlessDocument)]) u "reload" c := by
  intro h
  have hsame := (h.results (.const 1) (.const 2) Configs.empty (Or.inl ⟨.success, rfl⟩)).proxies (.plain (.table [])) .calm
    plainFactory
  have hports := congrArg (fun r : Except Exn (List ResolvedProxyConfig) × PipelineFactory =>
    r.1.toOption.map fun cfgs =>
      cfgs.flatMap fun (cfg : ResolvedProxyConfig) => cfg.services.map ResolvedService.port) hsame
  exact absurd hports (by decide)

end Asabru.UninitialisedFields
