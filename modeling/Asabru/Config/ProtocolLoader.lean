/-
`ConfigParser::LoadProtocolServerConfigurations`: the loader of the protocol-server section.

A server is left early by `return XML_ERROR_PARSING_ELEMENT` (an empty or unreadable protocol-port) or by a
`std::runtime_error` (a route whose auth/required text is none of the six accepted ones).

Results:
- `loadProtocol_code`: the section is accepted iff every server's port reads as an integer and every route's
  required text is one of the six (`protocolSectionOk`);
- `protocolServerLoop_throws`: the documents on which the loader throws (`protocolThrows`).
-/
import Mathlib.Tactic
import Asabru.Config.Xml
import Asabru.Config.Types
import Asabru.Config.ProxyLoader

namespace Asabru.Config

open Asabru.Control Asabru.Xml

def loadAuthorization (x : TinyXml) (authzEl : XMLElement) : AuthorizationConfig :=
  { strategy := safeText (authzEl.firstChildElement "strategy")
    handler := safeText (authzEl.firstChildElement "handler")
    data := match authzEl.firstChildElement "data" with
      | some dataEl => x.print dataEl
      | none => "" }

def loadAuth (x : TinyXml) (authEl : XMLElement) : AuthConfig :=
  { strategy := safeText (authEl.firstChildElement "strategy")
    handler := safeText (authEl.firstChildElement "handler")
    authorization := (authEl.firstChildElement "authorization").map (loadAuthorization x) }

/-- the flag that a lower-cased required text stands for -/
def parseRequired (reqStr : String) : Option Bool :=
  if reqStr = "false" ∨ reqStr = "0" ∨ reqStr = "no" then some false
  else if reqStr = "true" ∨ reqStr = "1" ∨ reqStr = "yes" then some true
  else none

def invalidRequired (reqStr path : String) : Exn :=
  .std ("Invalid auth.required value '" ++ reqStr ++ "' for route: " ++ path)

/-- a route's required flag: by default whether its server has an auth block -/
def loadRequired (serverAuth : Bool) (path : String) (reqEl : Option XMLElement) : Except Exn Bool :=
  match reqEl with
  | none => .ok serverAuth
  | some el =>
    let reqStr := toLower (safeText (some el))
    match parseRequired reqStr with
    | some required => .ok required
    | none => .error (invalidRequired reqStr path)

/-- the child `n` of a route's auth element, null without an auth element -/
def routeAuthChild (routeEl : XMLElement) (n : String) : Option XMLElement :=
  match routeEl.firstChildElement "auth" with
  | some authCfg => authCfg.firstChildElement n
  | none => none

/-- body of the route loop -/
def loadRoute (x : TinyXml) (serverAuth : Bool) (routeEl : XMLElement) : Except Exn Route :=
  let path := safeText (routeEl.firstChildElement "path")
  match loadRequired serverAuth path (routeAuthChild routeEl "required") with
  | .error e => .error e
  | .ok required => .ok
    { path := path
      method := safeText (routeEl.firstChildElement "method")
      request_handler := safeText (routeEl.firstChildElement "request_handler")
      auth :=
        { required := required
          authorization := match routeAuthChild routeEl "authorization" with
            | some authzEl => x.print authzEl
            | none => "" } }

/-- the protocol-port; without the element the field keeps what it held -/
def loadProtocolPort (protocol_port : Int) (portEl : Option XMLElement) : Except XMLFailure Int :=
  match portEl with
  | none => .ok protocol_port
  | some el =>
    match el.getText with
    | none => .error parsingElement
    | some portText =>
      match stoi portText with
      | .error _ => .error parsingElement
      | .ok v => .ok v

/-- the route elements of a protocol-server: those of its first routes element, none without one -/
def routeElements (ps : XMLElement) : List XMLElement :=
  match ps.firstChildElement "routes" with
  | none => []
  | some routesEl => routesEl.siblings "route"

/-- body of the protocol-server loop: the port is read before the routes -/
def loadProtocolServer (x : TinyXml) (u : Int) (ps : XMLElement) :
    Except (Ending XMLFailure) ProtocolServerConfig :=
  match loadProtocolPort u (ps.firstChildElement "protocol-port") with
  | .error f => .error (.ret f)
  | .ok protocol_port =>
    let auth := (ps.firstChildElement "auth").map (loadAuth x)
    match forEach (fun (_ : Unit) => loadRoute x auth.isSome) (fun _ => ()) (routeElements ps) with
    | .error e => .error (.throws e)
    | .ok routes => .ok
      { protocol_name := (ps.attribute "protocol").getD ""
        protocol_port := protocol_port
        pipeline := safeText (ps.firstChildElement "pipeline")
        handler := safeText (ps.firstChildElement "handler")
        auth := auth
        routes := routes }

/-- the protocol-server elements of a document root, none without a protocol-server-config -/
def protocolServerElements (root : XMLElement) : List XMLElement :=
  match root.firstChildElement "protocol-server-config" with
  | none => []
  | some psConfig => psConfig.siblings "protocol-server"

def protocolServerLoop (x : TinyXml) (u : Uninit) (root : XMLElement) :
    Except (Ending XMLFailure) (List ProtocolServerConfig) :=
  forEach (loadProtocolServer x) u.protocolPorts (protocolServerElements root)

/-- without a protocol-server-config the loop has nothing to visit and the empty list is stored -/
def loadProtocolServerConfigurations (x : TinyXml) (u : Uninit) (root : XMLElement)
    (m_ProtocolServerConfig : List ProtocolServerConfig) : Ending XMLError × List ProtocolServerConfig :=
  assignAfter (protocolServerLoop x u root) m_ProtocolServerConfig

/-! ## Which documents are accepted -/

def requiredOk (routeEl : XMLElement) : Prop :=
  ∀ el, routeAuthChild routeEl "required" = some el → (parseRequired (toLower (safeText (some el)))).isSome

def protocolPortOk (ps : XMLElement) : Prop :=
  ∀ el, ps.firstChildElement "protocol-port" = some el → ∃ t n, el.getText = some t ∧ stoi t = .ok n

def protocolServerOk (ps : XMLElement) : Prop := protocolPortOk ps ∧ ∀ routeEl ∈ routeElements ps, requiredOk routeEl

/-- the protocol-server section of the document is well formed -/
def protocolSectionOk (root : XMLElement) : Prop := ∀ ps ∈ protocolServerElements root, protocolServerOk ps

theorem loadRequired_isOk (serverAuth : Bool) (path : String) (reqEl : Option XMLElement) :
    (∃ r, loadRequired serverAuth path reqEl = .ok r) ↔
      ∀ el, reqEl = some el → (parseRequired (toLower (safeText (some el)))).isSome := by
  unfold loadRequired
  cases reqEl with
  | none => simp
  | some el => cases hp : parseRequired (toLower (safeText (some el))) <;> simp [hp]

theorem loadRoute_isOk (x : TinyXml) (b : Bool) (e : XMLElement) :
    (∃ r, loadRoute x b e = .ok r) ↔ requiredOk e := by
  unfold requiredOk
  rw [← loadRequired_isOk b (safeText (e.firstChildElement "path"))]
  simp only [loadRoute]
  cases loadRequired b (safeText (e.firstChildElement "path")) (routeAuthChild e "required") <;> simp

theorem loadProtocolPort_isOk (n : Int) (ps : XMLElement) :
    (∃ v, loadProtocolPort n (ps.firstChildElement "protocol-port") = .ok v) ↔ protocolPortOk ps := by
  unfold loadProtocolPort protocolPortOk
  cases ps.firstChildElement "protocol-port" with
  | none => simp
  | some el =>
    cases ht : el.getText with
    | none => simp [ht]
    | some t => cases hs : stoi t <;> simp [ht, hs]

theorem loadProtocolServer_isOk (x : TinyXml) (u : Int) (ps : XMLElement) :
    (∃ s, loadProtocolServer x u ps = .ok s) ↔ protocolServerOk ps := by
  unfold loadProtocolServer protocolServerOk
  rw [← loadProtocolPort_isOk u ps]
  cases loadProtocolPort u (ps.firstChildElement "protocol-port") with
  | error f => simp
  | ok v =>
    have hroutes := forEach_isOk
      (fun (_ : Unit) a => loadRoute_isOk x ((ps.firstChildElement "auth").map (loadAuth x)).isSome a)
      (fun _ => ()) (routeElements ps)
    simp only [Except.ok.injEq, exists_eq', true_and, ← hroutes]
    cases forEach (fun (_ : Unit) => loadRoute x ((ps.firstChildElement "auth").map (loadAuth x)).isSome)
      (fun _ => ()) (routeElements ps) <;> simp

/-- **Acceptance of the protocol section** is a condition on the document alone. -/
theorem loadProtocol_code (x : TinyXml) (u : Uninit) (root : XMLElement) (c : List ProtocolServerConfig) :
    (loadProtocolServerConfigurations x u root c).1 = .ret .success ↔ protocolSectionOk root := by
  rw [loadProtocolServerConfigurations, assignAfter_success]
  exact forEach_isOk (fun i a => loadProtocolServer_isOk x i a) u.protocolPorts (protocolServerElements root)

theorem protocol_ok_of_section {x : TinyXml} {u : Uninit} {pRoot : XMLElement} (h : protocolSectionOk pRoot) :
    ∃ v, protocolServerLoop x u pRoot = .ok v :=
  assignAfter_success.1 ((loadProtocol_code x u pRoot []).2 h)

theorem protocol_error_of_section {x : TinyXml} {u : Uninit} {pRoot : XMLElement} (h : ¬ protocolSectionOk pRoot) :
    ∃ e, protocolServerLoop x u pRoot = .error e := by
  cases hl : protocolServerLoop x u pRoot with
  | ok v => exact absurd ((loadProtocol_code x u pRoot []).1 (assignAfter_success.2 ⟨v, hl⟩)) h
  | error e => exact ⟨e, rfl⟩

/-! ## When the loader throws -/

/-- a protocol-server that the loader gets to has a readable port and a route whose required text is none of the six -/
def protocolThrows (root : XMLElement) : Prop :=
  ∃ ps, Reached protocolServerOk (protocolServerElements root) ps ∧ protocolPortOk ps ∧
    ∃ routeEl ∈ routeElements ps, ¬ requiredOk routeEl

theorem loadProtocolServer_throws (x : TinyXml) (u : Int) (ps : XMLElement) :
    (∃ e, (∃ err, e = .throws err) ∧ loadProtocolServer x u ps = .error e) ↔
      protocolPortOk ps ∧ ∃ routeEl ∈ routeElements ps, ¬ requiredOk routeEl := by
  have hport := loadProtocolPort_isOk u ps
  have hroutes := forEach_isOk
    (fun (_ : Unit) a => loadRoute_isOk x ((ps.firstChildElement "auth").map (loadAuth x)).isSome a)
    (fun _ => ()) (routeElements ps)
  have hbad : (∃ routeEl ∈ routeElements ps, ¬ requiredOk routeEl) ↔ ¬ ∀ routeEl ∈ routeElements ps, requiredOk routeEl := by
    simp
  unfold loadProtocolServer
  rw [hbad, ← hroutes, ← hport]
  cases loadProtocolPort u (ps.firstChildElement "protocol-port") with
  | error f => simp
  | ok v =>
    dsimp only
    cases forEach (fun (_ : Unit) => loadRoute x ((ps.firstChildElement "auth").map (loadAuth x)).isSome)
      (fun _ => ()) (routeElements ps) <;> simp

/-- **The loader throws** exactly on such a document. -/
theorem protocolServerLoop_throws (x : TinyXml) (u : Uninit) (root : XMLElement) :
    (∃ err, protocolServerLoop x u root = .error (.throws err)) ↔ protocolThrows root := by
  have hloop := forEach_left (fun e => ∃ err, e = Ending.throws err) (fun i a => loadProtocolServer_isOk x i a)
    (fun i a => loadProtocolServer_throws x i a) u.protocolPorts (protocolServerElements root)
  unfold protocolThrows
  rw [← hloop]
  constructor
  · rintro ⟨err, h⟩
    exact ⟨_, ⟨err, rfl⟩, h⟩
  · rintro ⟨_, ⟨err, rfl⟩, h⟩
    exact ⟨err, h⟩

end Asabru.Config
