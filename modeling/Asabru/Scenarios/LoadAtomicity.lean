/-
What a load leaves in the three configuration variables.

Two properties that callers of `ParseConfiguration` and of the two loads rely on, and exactly when the code has them:
- `nothing_stale_iff`: a successful load is decided by the document alone. `ParseConfiguration` drops the loaders' codes,
  so the property fails for every document that it reports as loaded although one of its sections was rejected, and for
  every document without an API-gateway section, which that loader rejects instead of storing the empty configuration. It
  fails too where an int field is not assigned because the document does not give it.
- `failed_load_keeps_iff`: a failed load changes nothing. The variables are assigned section by section, and the gateway
  section, read last, is the only one that can throw once another one was replaced.
Counterexamples: `stale_gateway_survives`, `late_throw_replaces`.

The indeterminate int fields of a load are a parameter (`Uninit`). The two loads that `NothingStale` compares have one each.
-/
import Mathlib.Tactic
import Asabru.Config.Parse
import Asabru.Config.Indeterminate

namespace Asabru.LoadAtomicity

open Asabru.Control Asabru.Xml Asabru.Config

/-! ## A successful load leaves nothing stale -/

/-- a section that the root does not have is stored as empty -/
def AbsentEmpty (pRoot : XMLElement) (c : Configs) : Prop :=
  (pRoot.firstChildElement "CLUSTERS" = none → c.m_ProxyConfig = ⟨[]⟩) ∧
  (pRoot.firstChildElement "protocol-server-config" = none → c.m_ProtocolServerConfig = []) ∧
  (pRoot.firstChildElement "api-gateway-server-config" = none → c.m_ApiGatewayServerConfig = ⟨[]⟩)

/-- two loads of one document that both report success store the same, whatever was stored before and whatever the fields
that they do not assign hold -/
def NothingStale (x : TinyXml) (xmlDoc : Option XMLDocument) : Prop :=
  ∀ u₁ u₂ c₁ c₂ r₁ r₂, parseConfiguration x u₁ xmlDoc c₁ = (.ret .success, r₁) →
    parseConfiguration x u₂ xmlDoc c₂ = (.ret .success, r₂) →
    r₁ = r₂ ∧ ∀ pRoot, xmlDoc.bind configRoot = some pRoot → AbsentEmpty pRoot r₁

/-- every section is there or may be left out, and is well formed -/
structure SectionsOk (x : TinyXml) (pRoot : XMLElement) : Prop where
  proxy : proxySectionOk x pRoot
  protocol : protocolSectionOk pRoot
  gateway : pRoot.firstChildElement "api-gateway-server-config" ≠ none

/-- a document on which the loaders end has all its sections accepted, and gives every int field -/
def LoadsWhole (x : TinyXml) (xmlDoc : Option XMLDocument) : Prop :=
  ∀ pRoot, xmlDoc.bind configRoot = some pRoot → ¬ protocolThrows pRoot →
    (∀ pEndPoint ∈ gatewayElements pRoot, gatewayEndPointOk pEndPoint) → SectionsOk x pRoot ∧ AllGiven pRoot

theorem parseConfiguration_ret {x : TinyXml} {u : Uninit} {xmlDoc : Option XMLDocument} {c c' : Configs} :
    parseConfiguration x u xmlDoc c = (.ret .success, c') ↔ ∃ pRoot, xmlDoc.bind configRoot = some pRoot ∧
      ¬ protocolThrows pRoot ∧ (∀ pEndPoint ∈ gatewayElements pRoot, gatewayEndPointOk pEndPoint) ∧
      c' = storedConfigs x u pRoot c := by
  unfold parseConfiguration
  cases xmlDoc with
  | none => simp
  | some doc =>
    simp only [Option.bind_some]
    cases configRoot doc with
    | none => simp
    | some r => simp [parseRoot_ret, protocolServerLoop_returns, gatewayLoop_returns_iff]

section Loaders

variable {x : TinyXml} {pRoot : XMLElement}

/-- a load that accepts all sections reads each of them to its end -/
theorem SectionsOk.loops (h : SectionsOk x pRoot)
    (hg : ∀ pEndPoint ∈ gatewayElements pRoot, gatewayEndPointOk pEndPoint) (u : Uninit) (c : Configs) :
    (∃ servers, protocolServerLoop x u pRoot = .ok servers ∧ (storedConfigs x u pRoot c).m_ProtocolServerConfig = servers) ∧
    ∃ g, gatewayLoop u pRoot = .ok g ∧ (storedConfigs x u pRoot c).m_ApiGatewayServerConfig = g := by
  obtain ⟨servers, hservers⟩ := protocol_ok_of_section (x := x) (u := u) h.protocol
  obtain ⟨g, hgok⟩ := gatewayLoop_present ((gatewayLoop_returns_iff u pRoot).2 hg) h.gateway
  exact ⟨⟨servers, hservers, assignAfter_ok hservers⟩, g, hgok, assignAfter_ok hgok⟩

/-- when every section is accepted and gives its int fields, what is stored depends on nothing else -/
theorem storedConfigs_eq (h : SectionsOk x pRoot) (hgiven : AllGiven pRoot)
    (hg : ∀ pEndPoint ∈ gatewayElements pRoot, gatewayEndPointOk pEndPoint) (u u' : Uninit) (c c' : Configs) :
    storedConfigs x u pRoot c = storedConfigs x u' pRoot c' := by
  obtain ⟨⟨servers, hservers, hs⟩, g, hgok, hgs⟩ := h.loops hg u c
  obtain ⟨⟨servers', hservers', hs'⟩, g', hgok', hgs'⟩ := h.loops hg u' c'
  rw [protocolServerLoop_given x hgiven.protocol u u'] at hservers
  rw [gatewayLoop_given hgiven.gateway u u'] at hgok
  have hproxy : (storedConfigs x u pRoot c).m_ProxyConfig = (storedConfigs x u' pRoot c').m_ProxyConfig := by
    simp only [storedConfigs, loadProxy_given x hgiven.proxy u u']
    exact loadProxy_accepted h.proxy c.m_ProxyConfig c'.m_ProxyConfig
  refine Configs.ext hproxy ?_ ?_
  · rw [hs, hs']
    exact Except.ok.inj (hservers.symm.trans hservers')
  · rw [hgs, hgs']
    exact Except.ok.inj (hgok.symm.trans hgok')

/-- when the same is stored from any arbitrary values, the document gives every int field -/
theorem allGiven_of_same (h : SectionsOk x pRoot)
    (hg : ∀ pEndPoint ∈ gatewayElements pRoot, gatewayEndPointOk pEndPoint)
    (same : ∀ u u', storedConfigs x u pRoot Configs.empty = storedConfigs x u' pRoot Configs.empty) : AllGiven pRoot := by
  have hne : (1 : Int) ≠ 2 := by decide
  have heq := same (.const 1) (.const 2)
  obtain ⟨⟨servers, hservers, hs⟩, g, hgok, hgs⟩ := h.loops hg (.const 1) Configs.empty
  obtain ⟨⟨servers', hservers', hs'⟩, g', hgok', hgs'⟩ := h.loops hg (.const 2) Configs.empty
  obtain rfl : servers = servers' := by rw [← hs, ← hs', heq]
  obtain rfl : g = g' := by rw [← hgs, ← hgs', heq]
  have hproxy : ∀ u, loadProxyServerConfigurations x u pRoot Configs.empty.m_ProxyConfig =
      (.success, (storedConfigs x u pRoot Configs.empty).m_ProxyConfig) :=
    fun u => Prod.ext ((loadProxy_code x u pRoot _).2 h.proxy) rfl
  have hproxy' := hproxy (.const 2)
  rw [← heq] at hproxy'
  exact ⟨loadProxy_distinguishes hne (hproxy (.const 1)) hproxy', protocolServerLoop_distinguishes hne hservers hservers',
    gatewayLoop_distinguishes hne hgok hgok'⟩

/-- absent proxy and protocol sections are stored as empty -/
theorem storedConfigs_absent (h : SectionsOk x pRoot) (u : Uninit) (c : Configs) :
    AbsentEmpty pRoot (storedConfigs x u pRoot c) := by
  refine ⟨fun hc => ?_, fun hp => ?_, fun hg => absurd hg h.gateway⟩
  · simp only [storedConfigs, loadProxyServerConfigurations, hc]
  · simp only [storedConfigs, loadProtocolServerConfigurations, protocolServerLoop, protocolServerElements, hp, forEach,
      assignAfter]

/-- a rejected loader hands its prior value through, so where two priors give one result all loaders accept -/
theorem sectionsOk_of_same (u : Uninit) (same : ∀ c c', storedConfigs x u pRoot c = storedConfigs x u pRoot c') :
    SectionsOk x pRoot := by
  refine ⟨?_, ?_, ?_⟩
  · by_contra hx
    have := congrArg Configs.m_ProxyConfig (same Configs.empty { Configs.empty with m_ProxyConfig := ⟨[⟨[], ""⟩]⟩ })
    simp only [storedConfigs, loadProxy_rejected hx] at this
    exact absurd this (by decide)
  · by_contra hx
    obtain ⟨e, he⟩ := protocol_error_of_section (x := x) (u := u) hx
    have := congrArg Configs.m_ProtocolServerConfig
      (same Configs.empty { Configs.empty with m_ProtocolServerConfig := [⟨"", 0, "", "", none, []⟩] })
    simp only [storedConfigs, loadProtocolServerConfigurations, assignAfter_error he] at this
    exact absurd this (by decide)
  · intro hx
    have := congrArg Configs.m_ApiGatewayServerConfig
      (same Configs.empty { Configs.empty with m_ApiGatewayServerConfig := ⟨[⟨"", 0, "", []⟩]⟩ })
    simp only [storedConfigs, loadApiGatewayConfigurations, assignAfter_error (gatewayLoop_absent hx)] at this
    exact absurd this (by decide)

end Loaders

/-- **A successful load leaves nothing stale, exactly when no section of a loaded document is rejected and no int field left
out.** -/
theorem nothing_stale_iff (x : TinyXml) (xmlDoc : Option XMLDocument) : NothingStale x xmlDoc ↔ LoadsWhole x xmlDoc := by
  constructor
  · intro h pRoot hr hp hg
    have same : ∀ u u' c c', storedConfigs x u pRoot c = storedConfigs x u' pRoot c' := fun u u' c c' =>
      (h u u' c c' _ _ (parseConfiguration_ret.2 ⟨pRoot, hr, hp, hg, rfl⟩)
        (parseConfiguration_ret.2 ⟨pRoot, hr, hp, hg, rfl⟩)).1
    have hok : SectionsOk x pRoot := sectionsOk_of_same (.const 1) fun c c' => same _ _ c c'
    exact ⟨hok, allGiven_of_same hok hg fun u u' => same u u' _ _⟩
  · intro h u₁ u₂ c₁ c₂ r₁ r₂ h₁ h₂
    obtain ⟨pRoot, hr, hp, hg, rfl⟩ := parseConfiguration_ret.1 h₁
    obtain ⟨pRoot', hr', -, -, rfl⟩ := parseConfiguration_ret.1 h₂
    obtain rfl : pRoot = pRoot' := Option.some.inj (hr.symm.trans hr')
    obtain ⟨hok, hgiven⟩ := h pRoot hr hp hg
    refine ⟨storedConfigs_eq hok hgiven hg u₁ u₂ c₁ c₂, fun pRoot' hr' => ?_⟩
    obtain rfl : pRoot = pRoot' := Option.some.inj (hr.symm.trans hr')
    exact storedConfigs_absent hok u₁ c₁

/-- indeterminate values for fixed runs -/
def zeros : Uninit := ⟨fun _ _ => ⟨0, fun _ => ⟨0, 0⟩⟩, fun _ => 0, fun _ => ⟨0, fun _ _ => 0⟩, ⟨0, 0⟩⟩

/-- a document without an API-gateway section -/
def noGateway : XMLDocument := document (elem "clickhouse-proxy-v2" [elem "CLUSTERS" []])

/-- a stored configuration with one gateway endpoint -/
def oneGateway : Configs := { Configs.empty with m_ApiGatewayServerConfig := ⟨[⟨"api_gateway_node_1", 80, "", []⟩]⟩ }

/-- the gateway endpoint of the earlier document survives the load of a document that has none -/
theorem stale_gateway_survives :
    parseConfiguration (.table []) zeros (some noGateway) oneGateway = (.ret .success, oneGateway) ∧
    parseConfiguration (.table []) zeros (some noGateway) Configs.empty = (.ret .success, Configs.empty) ∧
    ¬ NothingStale (.table []) (some noGateway) := by
  refine ⟨by decide, by decide, fun h => ?_⟩
  exact absurd (h zeros zeros oneGateway Configs.empty oneGateway Configs.empty (by decide) (by decide)).1 (by decide)

/-! ## A failed load changes nothing -/

/-- a load that returns a failing code or is left by an exception leaves the stored configurations as they were -/
def FailedLoadKeeps (load : Configs → Ending XMLError × Configs) : Prop :=
  ∀ c, (∀ code, (load c).1 = .ret code → code ≠ .success → (load c).2 = c) ∧
    ∀ err, (load c).1 = .throws err → (load c).2 = c

/-- the gateway section makes `std::stoi` throw after an accepted protocol or proxy section was stored -/
structure ThrowsLate (x : TinyXml) (u : Uninit) (pRoot : XMLElement) : Prop where
  throws : ∃ err, gatewayLoop u pRoot = .error (.throws err)
  returns : Returns (protocolServerLoop x u pRoot)
  replaced : protocolSectionOk pRoot ∨ proxySectionOk x pRoot

/-- a rejected loader's variable keeps its value -/
theorem storedConfigs_rejected {x : TinyXml} {u : Uninit} {pRoot : XMLElement} (hp : ¬ protocolSectionOk pRoot)
    (hx : ¬ proxySectionOk x pRoot) {err : Exn} (hg : gatewayLoop u pRoot = .error (.throws err)) (c : Configs) :
    storedConfigs x u pRoot c = c := by
  obtain ⟨e, he⟩ := protocol_error_of_section (x := x) (u := u) hp
  simp only [storedConfigs, loadProtocolServerConfigurations, loadApiGatewayConfigurations, assignAfter_error he,
    assignAfter_error hg, loadProxy_rejected hx]

theorem parseRoot_keeps_iff (x : TinyXml) (u : Uninit) (pRoot : XMLElement) :
    FailedLoadKeeps (parseRoot x u pRoot) ↔ ¬ ThrowsLate x u pRoot := by
  constructor
  · rintro h ⟨⟨err, hg⟩, hp, hrep⟩
    -- whatever was stored before would have to be what the document stores
    have same : ∀ c, storedConfigs x u pRoot c = c := fun c => by
      have := (h c).2 err (by rw [parseRoot_returns hp]; exact gatewayEnding_throws.2 hg)
      rwa [parseRoot_returns hp] at this
    rcases hrep with hok | hok
    · obtain ⟨v, hv⟩ := protocol_ok_of_section (x := x) (u := u) hok
      have h₁ := congrArg Configs.m_ProtocolServerConfig (same Configs.empty)
      have h₂ := congrArg Configs.m_ProtocolServerConfig
        (same { Configs.empty with m_ProtocolServerConfig := [⟨"", 0, "", "", none, []⟩] })
      simp only [storedConfigs, loadProtocolServerConfigurations, assignAfter_ok hv] at h₁ h₂
      exact absurd (h₁.symm.trans h₂) (by decide)
    · have h₁ := congrArg Configs.m_ProxyConfig (same Configs.empty)
      have h₂ := congrArg Configs.m_ProxyConfig (same { Configs.empty with m_ProxyConfig := ⟨[⟨[], ""⟩]⟩ })
      simp only [storedConfigs] at h₁ h₂
      rw [loadProxy_accepted hok] at h₂
      exact absurd (h₁.symm.trans h₂) (by decide)
  · intro h c
    rcases protocolServerLoop_cases x u pRoot with hp | ⟨err, hp⟩
    · rw [parseRoot_returns hp]
      refine ⟨fun code hc hne => absurd (gatewayEnding_ret.1 hc).1 hne, fun err he => ?_⟩
      have hg := gatewayEnding_throws.1 he
      exact storedConfigs_rejected (fun hok => h ⟨⟨err, hg⟩, hp, Or.inl hok⟩)
        (fun hok => h ⟨⟨err, hg⟩, hp, Or.inr hok⟩) hg c
    · rw [parseRoot_throws hp]
      exact ⟨fun _ hc => (by cases hc), fun _ _ => rfl⟩

/-- a load keeps the stored configurations on failure iff the root it reaches, if any, does not throw late -/
theorem load_keeps_iff (x : TinyXml) (u : Uninit) (emptyCode : XMLFailure)
    (read : String → Except XMLFailure XMLDocument) (text : String) :
    FailedLoadKeeps (loadConfigurations x u emptyCode read text) ↔
      ∀ pRoot, readRoot text read = some pRoot → ¬ ThrowsLate x u pRoot := by
  cases hr : readRoot text read with
  | some r =>
    rw [show loadConfigurations x u emptyCode read text = parseRoot x u r from funext (load_root hr),
      parseRoot_keeps_iff]
    simp
  | none =>
    obtain ⟨code, -, hl⟩ : ∃ code, code ≠ .success ∧
        ∀ c, loadConfigurations x u emptyCode read text c = (.ret code, c) := load_none hr
    refine ⟨fun _ _ h => (nomatch h), fun _ c => ?_⟩
    rw [hl c]
    exact ⟨fun _ _ _ => rfl, fun _ he => (nomatch he)⟩

/-- **A failed load changes nothing, exactly when its document does not throw late.** -/
theorem failed_load_keeps_iff (x : TinyXml) (u : Uninit) (text : String) :
    (FailedLoadKeeps (loadConfigurationsFromString x u text) ↔
      ∀ pRoot, readRoot text x.parse = some pRoot → ¬ ThrowsLate x u pRoot) ∧
    (FailedLoadKeeps (loadConfigurationsFromFile x u text) ↔
      ∀ pRoot, readRoot text x.loadFile = some pRoot → ¬ ThrowsLate x u pRoot) :=
  ⟨load_keeps_iff x u _ x.parse text, load_keeps_iff x u _ x.loadFile text⟩

/-- a document with one cluster whose gateway port is no number -/
def badGatewayPort : String :=
  "<clickhouse-proxy-v2><CLUSTERS><CLUSTER/></CLUSTERS><api-gateway-server-config><end-point name=\"g\"><port>http" ++
  "</port><services/></end-point></api-gateway-server-config></clickhouse-proxy-v2>"

def badGatewayPortDoc : XMLDocument :=
  document (elem "clickhouse-proxy-v2"
    [elem "CLUSTERS" [elem "CLUSTER" []],
     elem "api-gateway-server-config" [⟨"end-point", [("name", "g")], [.element (leaf "port" "http"),
       .element (elem "services" [])]⟩]])

/-- the load throws, and the proxy configuration is the new document's -/
theorem late_throw_replaces :
    loadConfigurationsFromString (.table [(badGatewayPort, badGatewayPortDoc)]) zeros badGatewayPort Configs.empty =
      (.throws (.std "stoi"), { Configs.empty with m_ProxyConfig := ⟨[⟨[], ""⟩]⟩ }) ∧
    ¬ FailedLoadKeeps
      (loadConfigurationsFromString (.table [(badGatewayPort, badGatewayPortDoc)]) zeros badGatewayPort) := by
  have run : loadConfigurationsFromString (.table [(badGatewayPort, badGatewayPortDoc)]) zeros badGatewayPort
      Configs.empty = (.throws (.std "stoi"), { Configs.empty with m_ProxyConfig := ⟨[⟨[], ""⟩]⟩ }) := by
    rw [loadConfigurationsFromString, load_root (readRoot_table (by decide) rfl)]
    decide
  refine ⟨run, fun h => ?_⟩
  have := (h Configs.empty).2 (.std "stoi") (by rw [run])
  rw [run] at this
  exact absurd this (by decide)

end Asabru.LoadAtomicity
