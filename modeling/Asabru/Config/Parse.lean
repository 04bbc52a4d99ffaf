/-
`ConfigParser::ParseConfiguration`, the two loads of ConfigSingleton.cpp that call it, and the parser of service-update
requests.

`ParseConfiguration` runs the three loaders one after another on the singleton's variables, drops their codes and returns
`XML_SUCCESS`. An exception of a loader leaves it with the assignments made so far.

Results:
- `parseRoot_throws`, `parseRoot_returns`, `parseRoot_ret`: what one call does, by how its loaders end. The protocol
  loader leaves by an exception before anything is assigned; otherwise the state is `storedConfigs`, what the three
  loaders leave in their variables, and the call ends as the gateway loader does;
- `load_root`, `load_none`: a load is `parseRoot` at the root it reaches, or it returns a failing code and changes
  nothing.
-/
import Mathlib.Tactic
import Asabru.Config.ProtocolLoader
import Asabru.Config.GatewayLoader

namespace Asabru.Config

open Asabru.Control Asabru.Xml

/-! ## ParseConfiguration -/

/-- the body of `ParseConfiguration` once the root is found: the loaders' codes are dropped -/
def parseRoot (x : TinyXml) (u : Uninit) (pRoot : XMLElement) (c : Configs) : Ending XMLError × Configs :=
  let protocol := loadProtocolServerConfigurations x u pRoot c.m_ProtocolServerConfig
  andThen (protocol.1, { c with m_ProtocolServerConfig := protocol.2 }) fun _ c =>
    let proxy := loadProxyServerConfigurations x u pRoot c.m_ProxyConfig
    let c := { c with m_ProxyConfig := proxy.2 }
    let gateway := apiGatewayParseConfiguration u pRoot c.m_ApiGatewayServerConfig
    andThen (gateway.1, { c with m_ApiGatewayServerConfig := gateway.2 }) fun _ c => (.ret .success, c)

/-- the root element that a document must have -/
def configRoot (doc : XMLDocument) : Option XMLElement := doc.firstChildElement "clickhouse-proxy-v2"

def parseConfiguration (x : TinyXml) (u : Uninit) (xmlDoc : Option XMLDocument) (c : Configs) :
    Ending XMLError × Configs :=
  match xmlDoc with
  | none => (.ret .errorFileReadError, c)
  | some doc =>
    match configRoot doc with
    | none => (.ret .errorFileReadError, c)
    | some pRoot => parseRoot x u pRoot c

/-- after tinyxml2 has read the document -/
def parseLoaded (x : TinyXml) (u : Uninit) (read : Except XMLFailure XMLDocument) (c : Configs) :
    Ending XMLError × Configs :=
  match read with
  | .error eResult => (.ret eResult.code, c)
  | .ok xmlDoc => parseConfiguration x u (some xmlDoc) c

/-- the two loads: they differ in the code for an empty argument and in how tinyxml2 is given the document -/
def loadConfigurations (x : TinyXml) (u : Uninit) (emptyCode : XMLFailure)
    (read : String → Except XMLFailure XMLDocument) (text : String) (c : Configs) : Ending XMLError × Configs :=
  if text = "" then (.ret emptyCode.code, c) else parseLoaded x u (read text) c

def loadConfigurationsFromFile (x : TinyXml) (u : Uninit) (filePath : String) (c : Configs) :
    Ending XMLError × Configs :=
  loadConfigurations x u fileNotFound x.loadFile filePath c

def loadConfigurationsFromString (x : TinyXml) (u : Uninit) (xml_string : String) (c : Configs) :
    Ending XMLError × Configs :=
  loadConfigurations x u ⟨.errorEmptyDocument, by decide⟩ x.parse xml_string c

/-- the root that a load reaches, if it reaches one -/
def readRoot (text : String) (read : String → Except XMLFailure XMLDocument) : Option XMLElement :=
  if text = "" then none
  else
    match read text with
    | .error _ => none
    | .ok doc => configRoot doc

theorem readRoot_table {text : String} {doc : XMLDocument} {r : XMLElement} (ht : text ≠ "")
    (hr : configRoot doc = some r) : readRoot text (TinyXml.table [(text, doc)]).parse = some r := by
  simp [readRoot, TinyXml.table, ht, hr]

/-! ## Service-update requests -/

def parseEndPointServiceConfiguration (x : TinyXml) (u : Uninit) (xmlDoc : Option XMLDocument) :
    Except Exn EndPointServiceConfig :=
  match xmlDoc with
  | none => .error (.std "ParseEndPointServiceConfiguration: null XMLDocument.")
  | some doc =>
    match doc.firstChildElement "end_point" with
    | none => .error (.std "ParseEndPointServiceConfiguration: <end_point> not found.")
    | some pEndPoint =>
      let operation := safeText (pEndPoint.firstChildElement "operation")
      if operation ≠ "add" ∧ operation ≠ "delete" then
        .error (.std ("ParseEndPointServiceConfiguration: operation must be 'add' or 'delete', got '"
          ++ operation ++ "'"))
      else
        match pEndPoint.firstChildElement "service" with
        | none => .error (.std "ParseEndPointServiceConfiguration: <service> not found.")
        | some pService =>
          -- the request has no weight and no SOURCE_HOSTNAME: the weight keeps what it held
          let service : Service :=
            { port := u.updateService.port
              weight := u.updateService.weight
              name := (pService.attribute "name").getD ""
              host := safeText (pService.firstChildElement "host")
              source_hostname := "" }
          let cfg : EndPointServiceConfig :=
            { name := (pEndPoint.attribute "name").getD "", operation := operation, service := service }
          match pService.firstChildElement "port" with
          | none => .ok cfg
          | some pPort =>
            match x.queryIntText pPort with
            | .error _ => .error (.std "ParseEndPointServiceConfiguration: invalid port value.")
            | .ok port => .ok { cfg with service := { service with port := port } }

def loadEndpointServiceFromString (x : TinyXml) (u : Uninit) (xml_string : String) :
    Except Exn EndPointServiceConfig :=
  if xml_string = "" then .error (.std "LoadEndpointServiceFromString: empty XML string.")
  else
    match x.parse xml_string with
    | .error eResult =>
      .error (.std ("LoadEndpointServiceFromString: XML parse error " ++ toString eResult.code.toNat))
    | .ok xmlDoc => parseEndPointServiceConfiguration x u (some xmlDoc)

/-- a request that is read has one of the two operations -/
theorem loadEndpointService_operation {x : TinyXml} {u : Uninit} {text : String} {req : EndPointServiceConfig}
    (h : loadEndpointServiceFromString x u text = .ok req) : req.operation = "add" ∨ req.operation = "delete" := by
  unfold loadEndpointServiceFromString at h
  split_ifs at h
  cases hp : x.parse text with
  | error f => simp only [hp] at h; cases h
  | ok doc =>
    simp only [hp, parseEndPointServiceConfiguration] at h
    cases he : doc.firstChildElement "end_point" with
    | none => simp only [he] at h; cases h
    | some pEndPoint =>
      simp only [he] at h
      split_ifs at h with hop
      have hvalid : safeText (pEndPoint.firstChildElement "operation") = "add" ∨
          safeText (pEndPoint.firstChildElement "operation") = "delete" := by
        by_contra hne
        exact hop (not_or.1 hne)
      cases hs : pEndPoint.firstChildElement "service" with
      | none => simp only [hs] at h; cases h
      | some pService =>
        simp only [hs] at h
        cases hport : pService.firstChildElement "port" with
        | none =>
          simp only [hport, Except.ok.injEq] at h
          rw [← h]
          exact hvalid
        | some pPort =>
          simp only [hport] at h
          cases hq : x.queryIntText pPort with
          | error f => simp only [hq] at h; cases h
          | ok port =>
            simp only [hq, Except.ok.injEq] at h
            rw [← h]
            exact hvalid

/-! ## What one call does -/

/-- what the three loaders leave in their variables -/
def storedConfigs (x : TinyXml) (u : Uninit) (pRoot : XMLElement) (c : Configs) : Configs :=
  { m_ProxyConfig := (loadProxyServerConfigurations x u pRoot c.m_ProxyConfig).2
    m_ProtocolServerConfig := (loadProtocolServerConfigurations x u pRoot c.m_ProtocolServerConfig).2
    m_ApiGatewayServerConfig := (loadApiGatewayConfigurations u pRoot c.m_ApiGatewayServerConfig).2 }

/-- an exit of the protocol loop is a returned code or an exception -/
theorem protocolServerLoop_error {x : TinyXml} {u : Uninit} {root : XMLElement} {e : Ending XMLFailure}
    (h : protocolServerLoop x u root = .error e) : (∃ f, e = .ret f) ∨ ∃ err, e = .throws err := by
  obtain ⟨i, ps, -, hps⟩ := forEach_error h
  unfold loadProtocolServer at hps
  split at hps
  · cases hps; exact Or.inl ⟨_, rfl⟩
  · simp only at hps
    split at hps <;> cases hps
    exact Or.inr ⟨_, rfl⟩

/-- the protocol loader's exception leaves the call with nothing assigned -/
theorem parseRoot_throws {x : TinyXml} {u : Uninit} {pRoot : XMLElement} {err : Exn}
    (h : protocolServerLoop x u pRoot = .error (.throws err)) (c : Configs) :
    parseRoot x u pRoot c = (.throws err, c) := by
  simp only [parseRoot, loadProtocolServerConfigurations, h, assignAfter, andThen]

/-- otherwise the call ends as the gateway loader does, a returned code replaced by `XML_SUCCESS` -/
def gatewayEnding (u : Uninit) (pRoot : XMLElement) : Ending XMLError :=
  match gatewayLoop u pRoot with
  | .ok _ => .ret .success
  | .error (.ret _) => .ret .success
  | .error (.throws err) => .throws err
  | .error .hangs => .hangs
  | .error .undefined => .undefined

/-- and leaves what the three loaders left -/
theorem parseRoot_returns {x : TinyXml} {u : Uninit} {pRoot : XMLElement} (h : Returns (protocolServerLoop x u pRoot))
    (c : Configs) : parseRoot x u pRoot c = (gatewayEnding u pRoot, storedConfigs x u pRoot c) := by
  obtain ⟨code, hcode⟩ : ∃ code, (assignAfter (protocolServerLoop x u pRoot) c.m_ProtocolServerConfig).1 = .ret code :=
    (assignAfter_returns _).2 h
  simp only [parseRoot, loadProtocolServerConfigurations, hcode, andThen, apiGatewayParseConfiguration,
    loadApiGatewayConfigurations, storedConfigs, gatewayEnding]
  cases gatewayLoop u pRoot with
  | ok g => rfl
  | error e => cases e <;> rfl

theorem gatewayEnding_ret {u : Uninit} {pRoot : XMLElement} {code : XMLError} :
    gatewayEnding u pRoot = .ret code ↔ code = .success ∧ Returns (gatewayLoop u pRoot) := by
  unfold gatewayEnding Returns
  cases gatewayLoop u pRoot with
  | ok g => simp [eq_comm]
  | error e => cases e <;> simp [eq_comm]

theorem gatewayEnding_throws {u : Uninit} {pRoot : XMLElement} {err : Exn} :
    gatewayEnding u pRoot = .throws err ↔ gatewayLoop u pRoot = .error (.throws err) := by
  unfold gatewayEnding
  split <;> simp_all

/-- the protocol loop returns, or it is left by an exception -/
theorem protocolServerLoop_cases (x : TinyXml) (u : Uninit) (root : XMLElement) :
    Returns (protocolServerLoop x u root) ∨ ∃ err, protocolServerLoop x u root = .error (.throws err) := by
  cases h : protocolServerLoop x u root with
  | ok v => exact Or.inl nofun
  | error e =>
    rcases protocolServerLoop_error h with ⟨f, rfl⟩ | ⟨err, rfl⟩
    · exact Or.inl fun e' he' => ⟨f, (Except.error.inj he').symm⟩
    · exact Or.inr ⟨err, rfl⟩

theorem protocolServerLoop_returns {x : TinyXml} {u : Uninit} {pRoot : XMLElement} :
    Returns (protocolServerLoop x u pRoot) ↔ ¬ protocolThrows pRoot := by
  rw [← protocolServerLoop_throws x u pRoot]
  constructor
  · rintro hr ⟨err, h⟩
    obtain ⟨f, hf⟩ := hr _ h
    cases hf
  · exact (protocolServerLoop_cases x u pRoot).resolve_right

/-- a call that returns: both loops returned and the loaders' outputs are stored -/
theorem parseRoot_ret {x : TinyXml} {u : Uninit} {pRoot : XMLElement} {c c' : Configs} {code : XMLError} :
    parseRoot x u pRoot c = (.ret code, c') ↔
      Returns (protocolServerLoop x u pRoot) ∧ Returns (gatewayLoop u pRoot) ∧ code = .success ∧
        c' = storedConfigs x u pRoot c := by
  rcases protocolServerLoop_cases x u pRoot with h | ⟨err, h⟩
  · rw [parseRoot_returns h, Prod.mk.injEq, gatewayEnding_ret]
    constructor
    · rintro ⟨⟨hc, hg⟩, hs⟩
      exact ⟨h, hg, hc, hs.symm⟩
    · rintro ⟨-, hg, hc, hs⟩
      exact ⟨⟨hc, hg⟩, hs.symm⟩
  · rw [parseRoot_throws h]
    constructor
    · intro hp; cases hp
    · rintro ⟨hr, -⟩
      obtain ⟨f, hf⟩ := hr _ h
      cases hf

/-! ## The two loads -/

section Loads

variable {x : TinyXml} {u : Uninit} {emptyCode : XMLFailure} {read : String → Except XMLFailure XMLDocument}
  {text : String}

theorem load_root {r : XMLElement} (h : readRoot text read = some r) (c : Configs) :
    loadConfigurations x u emptyCode read text c = parseRoot x u r c := by
  unfold readRoot at h
  unfold loadConfigurations
  split_ifs at h ⊢
  cases hp : read text with
  | error f => simp only [hp] at h; cases h
  | ok doc =>
    simp only [hp] at h
    simp only [parseLoaded, parseConfiguration, h]

theorem load_none (h : readRoot text read = none) :
    ∃ code, code ≠ .success ∧ ∀ c, loadConfigurations x u emptyCode read text c = (.ret code, c) := by
  unfold readRoot at h
  unfold loadConfigurations
  split_ifs at h ⊢
  · exact ⟨emptyCode.code, emptyCode.failed, fun _ => rfl⟩
  · cases hp : read text with
    | error f => exact ⟨f.code, f.failed, fun _ => rfl⟩
    | ok doc =>
      simp only [hp] at h
      exact ⟨.errorFileReadError, by decide, fun _ => by simp only [parseLoaded, parseConfiguration, h]⟩

/-- a load that reaches no root reads no field -/
theorem load_unread (h : readRoot text read = none) (u' : Uninit) (c : Configs) :
    loadConfigurations x u emptyCode read text c = loadConfigurations x u' emptyCode read text c := by
  unfold readRoot at h
  unfold loadConfigurations
  split_ifs at h ⊢
  · rfl
  · cases hp : read text with
    | error f => rfl
    | ok doc =>
      simp only [hp] at h
      simp only [parseLoaded, parseConfiguration, h]

end Loads

end Asabru.Config
