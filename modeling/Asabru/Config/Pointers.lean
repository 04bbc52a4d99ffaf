/-
The loaders with their pointers and cursors.

Here every result of `Attribute` and `GetText` is a pointer that may be null, every place where the code makes a string
of one is explicit (`use`, undefined for null), and every loop over siblings is a while loop whose cursor only its body
moves (`whileCursor`), under a bound on its passes. The body of the end-point loop has the one path that does not move it.

The values that the loops compute are those of the loaders:
- `parseConfiguration_sound`: what `ParseConfiguration` ends with here is what it ends with there;
- `parseConfiguration_ends`: some bound is enough iff it does not hang there;
- `parseEndPointServiceConfiguration_eq`: the parser of requests never uses a null pointer.
-/
import Mathlib.Tactic
import Asabru.Core.Cursor
import Asabru.Config.Parse
import Asabru.Config.GatewayDocument

namespace Asabru.Pointers

open Asabru.Control Asabru.Cursor Asabru.Xml Asabru.Config

/-- a loader: it ends, is left by an exit, or its loops run out of passes -/
abbrev Load := Fueled (Ending XMLFailure)

/-! ## Strings of pointers -/

/-- a `const char *` assigned to, copied into or passed as a `std::string` -/
def use (text : Option String) : Load String := lift (asString text)

/-- `text ? text : ""` -/
def orEmpty (text : Option String) : Load String := if text.isSome then use text else pure ""

def safeText (el : Option XMLElement) : Load String :=
  match el with
  | none => pure ""
  | some e => orEmpty e.getText

@[simp] theorem use_some (t : String) : use (some t) = pure t := rfl

@[simp] theorem orEmpty_eq (text : Option String) : orEmpty text = pure (text.getD "") := by
  cases text <;> rfl

@[simp] theorem safeText_eq (el : Option XMLElement) : safeText el = pure (Xml.safeText el) := by
  cases el with
  | none => rfl
  | some e => exact orEmpty_eq e.getText

/-! ## The proxy section -/

/-- a rejected weight is used once more, in the log -/
def loadWeight (weight : Int) (weightAttr : Option String) : Load Int :=
  if weightAttr.isSome then do
    match stoi (← use weightAttr) with
    | .ok v => return v
    | .error _ =>
      let _ ← use weightAttr
      return weight
  else return weight

def loadService (x : TinyXml) (u : ServiceUninit) (pService : XMLElement) : Load (Pass Service) := do
  let name ← orEmpty (pService.attribute "name")
  let weight ← loadWeight u.weight (pService.attribute "weight")
  let host ← safeText (pService.firstChildElement "HOST")
  let source_hostname ← safeText (pService.firstChildElement "SOURCE_HOSTNAME")
  let port ← match pService.firstChildElement "PORT" with
    | none => pure u.port
    | some pPort => lift ((x.queryIntText pPort).mapError .ret)
  return .moveOn { port := port, weight := weight, name := name, host := host, source_hostname := source_hostname }

def loadEndPoint (x : TinyXml) (fuel : ℕ) (u : EndPointUninit) (pEndPoint : XMLElement) :
    Load (Pass RemoteEndPoint) := do
  let endPointName ← orEmpty (pEndPoint.attribute "name")
  let readWrite ← safeText (pEndPoint.firstChildElement "READ_WRITE")
  let proxyPort ← lift ((loadProxyPort x u.proxyPort (pEndPoint.firstChildElement "PROXY_PORT")).mapError .ret)
  let handler ← safeText (pEndPoint.firstChildElement "HANDLER")
  let pipeline ← safeText (pEndPoint.firstChildElement "PIPELINE")
  let loadBalancerStrategy ← safeText (pEndPoint.firstChildElement "loadbalancer-strategy")
  match pEndPoint.firstChildElement "SERVICES" with
  | none => throw (.ret parsingElement)
  | some pServices =>
    let services ← whileCursor (loadService x) fuel u.services (pServices.siblings "SERVICE")
    return .moveOn
      { endPointName := endPointName
        proxyPort := proxyPort
        readWrite := readWrite = "yes"
        services := services
        handler := handler
        pipeline := pipeline
        loadBalancerStrategy := loadBalancerStrategy }

def loadCluster (x : TinyXml) (fuel : ℕ) (u : ℕ → EndPointUninit) (pCluster : XMLElement) : Load (Pass Cluster) := do
  let clusterName ← orEmpty (pCluster.attribute "name")
  let endPoints ← whileCursor (loadEndPoint x fuel) fuel u (endPointElements pCluster)
  return .moveOn { endPoints := endPoints, clusterName := clusterName }

/-- without CLUSTERS the loop has nothing to visit and the empty configuration is stored -/
def proxyLoop (x : TinyXml) (fuel : ℕ) (u : Uninit) (pRoot : XMLElement) : Load ProxyConfig := do
  let clusters ← whileCursor (loadCluster x fuel) fuel u.endPoints (clusterElements pRoot)
  return { clusters := clusters }

/-! ## The protocol-server section -/

/-- a rejected port is used once more, in the log -/
def loadProtocolPort (protocol_port : Int) (portEl : Option XMLElement) : Load Int :=
  match portEl with
  | none => return protocol_port
  | some el =>
    let portText := el.getText
    if portText.isNone then throw (.ret parsingElement)
    else do
      match stoi (← use portText) with
      | .ok v => return v
      | .error _ =>
        let _ ← use portText
        throw (.ret parsingElement)

def loadAuthorization (x : TinyXml) (authzEl : XMLElement) : Load AuthorizationConfig := do
  let strategy ← safeText (authzEl.firstChildElement "strategy")
  let handler ← safeText (authzEl.firstChildElement "handler")
  return {
    strategy := strategy
    handler := handler
    data := match authzEl.firstChildElement "data" with
      | some dataEl => x.print dataEl
      | none => "" }

def loadAuth (x : TinyXml) (authEl : XMLElement) : Load AuthConfig := do
  let strategy ← safeText (authEl.firstChildElement "strategy")
  let handler ← safeText (authEl.firstChildElement "handler")
  match authEl.firstChildElement "authorization" with
  | none => return { strategy := strategy, handler := handler, authorization := none }
  | some authzEl =>
    let authorization ← loadAuthorization x authzEl
    return { strategy := strategy, handler := handler, authorization := some authorization }

/-- the required text is only read where its element is there -/
def loadRequired (serverAuth : Bool) (path : String) (reqEl : Option XMLElement) : Load Bool :=
  match reqEl with
  | none => return serverAuth
  | some el => do
    let reqStr := toLower (← safeText (some el))
    match parseRequired reqStr with
    | some required => return required
    | none => throw (.throws (invalidRequired reqStr path))

def loadRoute (x : TinyXml) (serverAuth : Bool) (routeEl : XMLElement) : Load (Pass Route) := do
  let path ← safeText (routeEl.firstChildElement "path")
  let method ← safeText (routeEl.firstChildElement "method")
  let request_handler ← safeText (routeEl.firstChildElement "request_handler")
  let required ← loadRequired serverAuth path (routeAuthChild routeEl "required")
  let authorization := match routeAuthChild routeEl "authorization" with
    | some authzEl => x.print authzEl
    | none => ""
  return .moveOn
    { path := path
      method := method
      request_handler := request_handler
      auth := { required := required, authorization := authorization } }

/-- the auth block of a server, null without the element -/
def loadServerAuth (x : TinyXml) (authEl : Option XMLElement) : Load (Option AuthConfig) :=
  match authEl with
  | none => return none
  | some authEl => do
    let auth ← loadAuth x authEl
    return some auth

def loadProtocolServer (x : TinyXml) (fuel : ℕ) (u : Int) (ps : XMLElement) : Load (Pass ProtocolServerConfig) := do
  let protocol_name ← orEmpty (ps.attribute "protocol")
  let protocol_port ← loadProtocolPort u (ps.firstChildElement "protocol-port")
  let pipeline ← safeText (ps.firstChildElement "pipeline")
  let handler ← safeText (ps.firstChildElement "handler")
  let auth ← loadServerAuth x (ps.firstChildElement "auth")
  let routes ← whileCursor (fun (_ : Unit) => loadRoute x auth.isSome) fuel (fun _ => ()) (routeElements ps)
  return .moveOn
    { protocol_name := protocol_name
      protocol_port := protocol_port
      pipeline := pipeline
      handler := handler
      auth := auth
      routes := routes }

def protocolServerLoop (x : TinyXml) (fuel : ℕ) (u : Uninit) (root : XMLElement) : Load (List ProtocolServerConfig) :=
  whileCursor (loadProtocolServer x fuel) fuel u.protocolPorts (protocolServerElements root)

/-! ## The API-gateway section -/

def loadUri (u : Int) (pUri : XMLElement) : Load (Pass ApiGatewayUri) := do
  let path ← use (pUri.attribute "path")
  let host ← lift (optionalText (pUri.firstChildElement "host"))
  let port ← lift (optionalPort u (pUri.firstChildElement "port"))
  return .moveOn { path := path, host := host, port := port }

def loadGatewayService (fuel : ℕ) (u : ℕ → Int) (pService : XMLElement) : Load (Pass ApiGatewayService) := do
  let hostname ← use (pService.attribute "hostname")
  let uris ← whileCursor loadUri fuel u (pService.siblings "uri")
  return .moveOn { hostname := hostname, uris := uris }

/-- without services: `continue`, with the cursor where it is -/
def loadGatewayEndPoint (fuel : ℕ) (u : GatewayEndPointUninit) (pEndPoint : XMLElement) :
    Load (Pass ApiGatewayEndPoint) := do
  let name ← use (pEndPoint.attribute "name")
  let port ← lift (optionalPort u.port (pEndPoint.firstChildElement "port"))
  let pipeline ← lift (optionalText (pEndPoint.firstChildElement "pipeline"))
  match pEndPoint.firstChildElement "services" with
  | none => return .again
  | some pServices =>
    let services ← whileCursor (loadGatewayService fuel) fuel u.uris (pServices.siblings "service")
    return .moveOn { name := name, port := port, pipeline := pipeline, services := services }

def gatewayLoop (fuel : ℕ) (u : Uninit) (pRoot : XMLElement) : Load ApiGatewayServerConfig :=
  match pRoot.firstChildElement "api-gateway-server-config" with
  | none => throw (.ret parsingElement)
  | some pApiGatewayConfig => do
    let endpoints ← whileCursor (loadGatewayEndPoint fuel) fuel u.gatewayEndPoints (pApiGatewayConfig.siblings "end-point")
    return { endpoints := endpoints }

/-! ## ParseConfiguration -/

/-- a loader of one variable: the variable is assigned after the loops, if they end -/
def assignAfter {α σ : Type} (loops : Load α) (output : α) (store : α → σ) : Option (Ending XMLError × σ) :=
  loops.run.map fun r => ((Xml.assignAfter r output).1, store (Xml.assignAfter r output).2)

/-- the next call, if there was one before it and it returned -/
def next {α β σ : Type} (r : Option (Ending α × σ)) (f : σ → Option (Ending β × σ)) : Option (Ending β × σ) :=
  match r with
  | none => none
  | some (.ret _, s) => f s
  | some (.throws e, s) => some (.throws e, s)
  | some (.hangs, s) => some (.hangs, s)
  | some (.undefined, s) => some (.undefined, s)

/-- the loaders' codes are dropped -/
def parseRoot (x : TinyXml) (fuel : ℕ) (u : Uninit) (pRoot : XMLElement) (c : Configs) :
    Option (Ending XMLError × Configs) :=
  next (assignAfter (protocolServerLoop x fuel u pRoot) c.m_ProtocolServerConfig fun v =>
    { c with m_ProtocolServerConfig := v }) fun c =>
  next (assignAfter (proxyLoop x fuel u pRoot) c.m_ProxyConfig fun v => { c with m_ProxyConfig := v }) fun c =>
  next (assignAfter (gatewayLoop fuel u pRoot) c.m_ApiGatewayServerConfig fun v =>
    { c with m_ApiGatewayServerConfig := v }) fun c =>
  some (.ret .success, c)

def parseConfiguration (x : TinyXml) (fuel : ℕ) (u : Uninit) (xmlDoc : Option XMLDocument) (c : Configs) :
    Option (Ending XMLError × Configs) :=
  match xmlDoc with
  | none => some (.ret .errorFileReadError, c)
  | some doc =>
    match configRoot doc with
    | none => some (.ret .errorFileReadError, c)
    | some pRoot => parseRoot x fuel u pRoot c

def parseEndPointServiceConfiguration (x : TinyXml) (u : Uninit) (xmlDoc : Option XMLDocument) :
    Load EndPointServiceConfig :=
  match xmlDoc with
  | none => throw (.throws (.std "ParseEndPointServiceConfiguration: null XMLDocument."))
  | some doc =>
    match doc.firstChildElement "end_point" with
    | none => throw (.throws (.std "ParseEndPointServiceConfiguration: <end_point> not found."))
    | some pEndPoint => do
      let name ← orEmpty (pEndPoint.attribute "name")
      let operation ← safeText (pEndPoint.firstChildElement "operation")
      if operation ≠ "add" ∧ operation ≠ "delete" then
        throw (.throws (.std ("ParseEndPointServiceConfiguration: operation must be 'add' or 'delete', got '"
          ++ operation ++ "'")))
      else
        match pEndPoint.firstChildElement "service" with
        | none => throw (.throws (.std "ParseEndPointServiceConfiguration: <service> not found."))
        | some pService =>
          let serviceName ← orEmpty (pService.attribute "name")
          let host ← safeText (pService.firstChildElement "host")
          let service : Service :=
            { port := u.updateService.port
              weight := u.updateService.weight
              name := serviceName
              host := host
              source_hostname := "" }
          match pService.firstChildElement "port" with
          | none => return { name := name, operation := operation, service := service }
          | some pPort =>
            match x.queryIntText pPort with
            | .error _ => throw (.throws (.std "ParseEndPointServiceConfiguration: invalid port value."))
            | .ok port => return { name := name, operation := operation, service := { service with port := port } }

/-! ## The proxy loops compute what the loader says -/

theorem ret_ne_hangs {α : Type} (r : Except XMLFailure α) : r.mapError Ending.ret ≠ .error .hangs := by
  cases r <;> exact nofun

theorem throws_ne_hangs {α : Type} (r : Except Exn α) :
    r.mapError (Ending.throws : Exn → Ending XMLFailure) ≠ .error .hangs := by
  cases r <;> exact nofun

@[simp] theorem loadWeight_eq (weight : Int) (weightAttr : Option String) :
    loadWeight weight weightAttr = pure (Config.loadWeight weight weightAttr) := by
  cases weightAttr with
  | none => rfl
  | some t => cases hs : stoi t <;> simp [loadWeight, Config.loadWeight, hs]

theorem loadService_eq (x : TinyXml) (u : ServiceUninit) (e : XMLElement) :
    loadService x u e = lift (((Config.loadService x u e).mapError .ret).map .moveOn) := by
  simp only [loadService, Config.loadService, orEmpty_eq, safeText_eq, loadWeight_eq, pure_bind]
  cases e.firstChildElement "PORT" with
  | none => rfl
  | some pPort =>
    dsimp only
    cases x.queryIntText pPort <;> rfl

theorem loadEndPoint_passes (x : TinyXml) (u : EndPointUninit) (e : XMLElement) :
    Passes .hangs (fun fuel => loadEndPoint x fuel u e) ((Config.loadEndPoint x u e).mapError .ret) := by
  simp only [loadEndPoint, Config.loadEndPoint, orEmpty_eq, safeText_eq, pure_bind]
  cases loadProxyPort x u.proxyPort (e.firstChildElement "PROXY_PORT") with
  | error err => exact passes_of_eq (fun _ => rfl) (ret_ne_hangs (.error err : Except XMLFailure RemoteEndPoint))
  | ok proxyPort =>
    cases e.firstChildElement "SERVICES" with
    | none => exact passes_of_eq (fun _ => rfl) (ret_ne_hangs (.error parsingElement : Except XMLFailure RemoteEndPoint))
    | some pServices =>
      have hloop := whileCursor_computes (fun _ => loadService x) (pServices.siblings "SERVICE")
        (fun i a _ => passes_of_eq (fun _ => loadService_eq x i a) (ret_ne_hangs _)) u.services
      rw [forEach_mapError] at hloop
      have hpass := hloop.passes fun services =>
        ({ endPointName := (e.attribute "name").getD ""
           proxyPort := proxyPort
           readWrite := Xml.safeText (e.firstChildElement "READ_WRITE") = "yes"
           services := services
           handler := Xml.safeText (e.firstChildElement "HANDLER")
           pipeline := Xml.safeText (e.firstChildElement "PIPELINE")
           loadBalancerStrategy := Xml.safeText (e.firstChildElement "loadbalancer-strategy") } : RemoteEndPoint)
      dsimp only
      cases hl : forEach (Config.loadService x) u.services (pServices.siblings "SERVICE") <;>
        (rw [hl] at hpass; exact hpass)

theorem loadCluster_passes (x : TinyXml) (u : ℕ → EndPointUninit) (e : XMLElement) :
    Passes .hangs (fun fuel => loadCluster x fuel u e) ((Config.loadCluster x u e).mapError .ret) := by
  have hloop := whileCursor_computes _ (endPointElements e) (fun i a _ => loadEndPoint_passes x i a) u
  rw [forEach_mapError] at hloop
  have hpass := hloop.passes fun endPoints =>
    ({ endPoints := endPoints, clusterName := (e.attribute "name").getD "" } : Cluster)
  simp only [loadCluster, Config.loadCluster, orEmpty_eq, pure_bind]
  cases hl : forEach (Config.loadEndPoint x) u (endPointElements e) <;> (rw [hl] at hpass; exact hpass)

/-- the loader's result, before it is assigned -/
def proxyResult (x : TinyXml) (u : Uninit) (pRoot : XMLElement) : Except (Ending XMLFailure) ProxyConfig :=
  ((forEach (Config.loadCluster x) u.endPoints (clusterElements pRoot)).mapError .ret).map ProxyConfig.mk

theorem proxyLoop_computes (x : TinyXml) (u : Uninit) (pRoot : XMLElement) :
    Computes .hangs (fun fuel => proxyLoop x fuel u pRoot) (proxyResult x u pRoot) := by
  have hloop := whileCursor_computes _ (clusterElements pRoot) (fun i a _ => loadCluster_passes x i a) u.endPoints
  rw [forEach_mapError] at hloop
  exact hloop.map ProxyConfig.mk

/-- assigning it is what the loader does -/
theorem assign_proxyResult (x : TinyXml) (u : Uninit) (pRoot : XMLElement) (c : ProxyConfig) :
    Xml.assignAfter (proxyResult x u pRoot) c = (.ret (loadProxyServerConfigurations x u pRoot c).1,
      (loadProxyServerConfigurations x u pRoot c).2) := by
  unfold proxyResult loadProxyServerConfigurations
  cases hc : pRoot.firstChildElement "CLUSTERS" with
  | none => simp [clusterElements, hc, forEach, Except.mapError, Except.map, Xml.assignAfter]
  | some pClusters =>
    dsimp only
    cases forEach (Config.loadCluster x) u.endPoints (clusterElements pRoot) <;> rfl

/-! ## The protocol loops -/

theorem loadProtocolPort_eq (n : Int) (portEl : Option XMLElement) :
    loadProtocolPort n portEl = lift ((Config.loadProtocolPort n portEl).mapError .ret) := by
  unfold loadProtocolPort Config.loadProtocolPort
  cases portEl with
  | none => rfl
  | some el =>
    cases ht : el.getText with
    | none => simp [ht, Except.mapError]
    | some t => cases hs : stoi t <;> simp [ht, hs, Except.mapError]

@[simp] theorem loadAuth_eq (x : TinyXml) (authEl : XMLElement) : loadAuth x authEl = pure (Config.loadAuth x authEl) := by
  simp only [loadAuth, loadAuthorization, Config.loadAuth, safeText_eq, pure_bind]
  cases authEl.firstChildElement "authorization" <;> rfl

@[simp] theorem loadServerAuth_eq (x : TinyXml) (authEl : Option XMLElement) :
    loadServerAuth x authEl = pure (authEl.map (Config.loadAuth x)) := by
  cases authEl with
  | none => rfl
  | some e => simp [loadServerAuth]

theorem loadRequired_eq (serverAuth : Bool) (path : String) (reqEl : Option XMLElement) :
    loadRequired serverAuth path reqEl = lift ((Config.loadRequired serverAuth path reqEl).mapError .throws) := by
  unfold loadRequired Config.loadRequired
  cases reqEl with
  | none => rfl
  | some el =>
    simp only [safeText_eq, pure_bind]
    cases parseRequired (toLower (Xml.safeText (some el))) <;> rfl

theorem loadRoute_eq (x : TinyXml) (serverAuth : Bool) (routeEl : XMLElement) :
    loadRoute x serverAuth routeEl = lift (((Config.loadRoute x serverAuth routeEl).mapError .throws).map .moveOn) := by
  simp only [loadRoute, Config.loadRoute, safeText_eq, pure_bind, loadRequired_eq]
  cases Config.loadRequired serverAuth (Xml.safeText (routeEl.firstChildElement "path"))
    (routeAuthChild routeEl "required") <;> rfl

theorem loadProtocolServer_passes (x : TinyXml) (u : Int) (ps : XMLElement) :
    Passes .hangs (fun fuel => loadProtocolServer x fuel u ps) (Config.loadProtocolServer x u ps) := by
  simp only [loadProtocolServer, Config.loadProtocolServer, orEmpty_eq, safeText_eq, loadProtocolPort_eq, pure_bind]
  cases Config.loadProtocolPort u (ps.firstChildElement "protocol-port") with
  | error f => exact passes_of_eq (fun _ => rfl) (by simp)
  | ok protocol_port =>
    have hloop := whileCursor_computes
      (fun _ (_ : Unit) => loadRoute x ((ps.firstChildElement "auth").map (Config.loadAuth x)).isSome) (routeElements ps)
      (fun _ a _ => passes_of_eq (fun _ => loadRoute_eq x _ a) (throws_ne_hangs _)) fun _ => ()
    rw [forEach_mapError] at hloop
    have hpass := hloop.passes fun routes =>
      ({ protocol_name := (ps.attribute "protocol").getD ""
         protocol_port := protocol_port
         pipeline := Xml.safeText (ps.firstChildElement "pipeline")
         handler := Xml.safeText (ps.firstChildElement "handler")
         auth := (ps.firstChildElement "auth").map (Config.loadAuth x)
         routes := routes } : ProtocolServerConfig)
    simp only [Except.mapError, lift_ok, pure_bind, loadServerAuth_eq]
    cases hl : forEach (fun _ => Config.loadRoute x ((ps.firstChildElement "auth").map (Config.loadAuth x)).isSome)
      (fun _ => ()) (routeElements ps) <;> (rw [hl] at hpass; exact hpass)

theorem protocolServerLoop_computes (x : TinyXml) (u : Uninit) (root : XMLElement) :
    Computes .hangs (fun fuel => protocolServerLoop x fuel u root) (Config.protocolServerLoop x u root) :=
  whileCursor_computes _ _ (fun i a _ => loadProtocolServer_passes x i a) u.protocolPorts

/-! ## The gateway loops -/

theorem loadUri_eq (u : Int) (pUri : XMLElement) : loadUri u pUri = lift ((Config.loadUri u pUri).map .moveOn) := by
  simp only [loadUri, Config.loadUri, use]
  cases asString (pUri.attribute "path") with
  | error e => rfl
  | ok path =>
    cases optionalText (pUri.firstChildElement "host") with
    | error e => rfl
    | ok host => cases optionalPort u (pUri.firstChildElement "port") <;> rfl

theorem loadGatewayService_passes (u : ℕ → Int) (pService : XMLElement) :
    Passes .hangs (fun fuel => loadGatewayService fuel u pService) (Config.loadGatewayService u pService) := by
  simp only [loadGatewayService, Config.loadGatewayService, use]
  cases hn : asString (pService.attribute "hostname") with
  | error e => exact passes_of_eq (fun _ => rfl) fun he => asString_hangs _ (hn.trans (congrArg _ (Except.error.inj he)))
  | ok hostname =>
    have hloop := whileCursor_computes (fun _ => loadUri) (pService.siblings "uri")
      (fun i a _ => passes_of_eq (fun _ => loadUri_eq i a) (loadUri_hangs i a)) u
    have hpass := hloop.passes fun uris => ({ hostname := hostname, uris := uris } : ApiGatewayService)
    cases hl : forEach Config.loadUri u (pService.siblings "uri") <;> (rw [hl] at hpass; exact hpass)

/-- the path without services is the one on which the cursor stays -/
theorem loadGatewayEndPoint_passes (u : GatewayEndPointUninit) (pEndPoint : XMLElement) :
    Passes .hangs (fun fuel => loadGatewayEndPoint fuel u pEndPoint) (Config.loadGatewayEndPoint u pEndPoint) := by
  simp only [loadGatewayEndPoint, Config.loadGatewayEndPoint, use]
  cases hn : asString (pEndPoint.attribute "name") with
  | error e => exact passes_of_eq (fun _ => rfl) fun he => asString_hangs _ (hn.trans (congrArg _ (Except.error.inj he)))
  | ok name =>
    cases hp : optionalPort u.port (pEndPoint.firstChildElement "port") with
    | error e =>
      exact passes_of_eq (fun _ => rfl) fun he => optionalPort_hangs _ _ (hp.trans (congrArg _ (Except.error.inj he)))
    | ok port =>
      cases ht : optionalText (pEndPoint.firstChildElement "pipeline") with
      | error e =>
        exact passes_of_eq (fun _ => rfl) fun he => optionalText_hangs _ (ht.trans (congrArg _ (Except.error.inj he)))
      | ok pipeline =>
        cases pEndPoint.firstChildElement "services" with
        | none => exact passes_again fun _ => rfl
        | some pServices =>
          have hloop := whileCursor_computes _ (pServices.siblings "service")
            (fun i a _ => loadGatewayService_passes i a) u.uris
          have hpass := hloop.passes fun services =>
            ({ name := name, port := port, pipeline := pipeline, services := services } : ApiGatewayEndPoint)
          simp only [lift_ok, pure_bind, ok_bind]
          cases hl : forEach Config.loadGatewayService u.uris (pServices.siblings "service") <;>
            (rw [hl] at hpass; exact hpass)

theorem gatewayLoop_computes (u : Uninit) (pRoot : XMLElement) :
    Computes .hangs (fun fuel => gatewayLoop fuel u pRoot) (Config.gatewayLoop u pRoot) := by
  unfold gatewayLoop Config.gatewayLoop
  cases pRoot.firstChildElement "api-gateway-server-config" with
  | none => exact computes_of_eq (fun _ => rfl) (by simp)
  | some el =>
    have hloop := whileCursor_computes _ (el.siblings "end-point")
      (fun i a _ => loadGatewayEndPoint_passes i a) u.gatewayEndPoints
    have hmap := hloop.map ApiGatewayServerConfig.mk
    dsimp only
    cases hl : forEach Config.loadGatewayEndPoint u.gatewayEndPoints (el.siblings "end-point") <;>
      (rw [hl] at hmap; exact hmap)

/-! ## One call -/

/-- a loader after which a call ended ended -/
theorem next_runs {α σ : Type} {loops : Load α} {output : α} {store : α → σ}
    {f : σ → Option (Ending XMLError × σ)} {r : Ending XMLError × σ}
    (h : next (assignAfter loops output store) f = some r) : ∃ v, loops = lift v := by
  cases loops with
  | none => cases h
  | some v => exact ⟨v, rfl⟩

/-- after a loader that returned, the next one runs -/
theorem next_ret {α σ : Type} {v : Except (Ending XMLFailure) α} {output : α} {code : XMLError}
    (h : (Xml.assignAfter v output).1 = .ret code) (store : α → σ) (f : σ → Option (Ending XMLError × σ)) :
    next (assignAfter (lift v) output store) f = f (store (Xml.assignAfter v output).2) := by
  show next (some ((Xml.assignAfter v output).1, store (Xml.assignAfter v output).2)) f = _
  rw [h]
  rfl

/-- what the call does once its loops have ended: the later two only run if the first returned -/
theorem parseRoot_lift {x : TinyXml} {fuel : ℕ} {u : Uninit} {pRoot : XMLElement}
    (hprotocol : protocolServerLoop x fuel u pRoot = lift (Config.protocolServerLoop x u pRoot))
    (hrest : Returns (Config.protocolServerLoop x u pRoot) → proxyLoop x fuel u pRoot = lift (proxyResult x u pRoot) ∧
      gatewayLoop fuel u pRoot = lift (Config.gatewayLoop u pRoot)) (c : Configs) :
    parseRoot x fuel u pRoot c = some (Config.parseRoot x u pRoot c) := by
  rcases protocolServerLoop_cases x u pRoot with h | ⟨err, h⟩
  · obtain ⟨hproxy, hgateway⟩ := hrest h
    obtain ⟨code, hcode⟩ := (assignAfter_returns c.m_ProtocolServerConfig).2 h
    unfold parseRoot
    rw [hprotocol, next_ret hcode, hproxy, next_ret (congrArg Prod.fst (assign_proxyResult x u pRoot _)), hgateway,
      assign_proxyResult, parseRoot_returns h]
    unfold storedConfigs gatewayEnding loadProtocolServerConfigurations loadApiGatewayConfigurations
    cases Config.gatewayLoop u pRoot with
    | ok g => rfl
    | error e => cases e <;> rfl
  · rw [Config.parseRoot_throws h, parseRoot, hprotocol, h]
    rfl

/-- a call that ended ran its loops to their ends -/
theorem parseRoot_loops {x : TinyXml} {fuel : ℕ} {u : Uninit} {pRoot : XMLElement} {c : Configs}
    {r : Ending XMLError × Configs} (h : parseRoot x fuel u pRoot c = some r) :
    protocolServerLoop x fuel u pRoot = lift (Config.protocolServerLoop x u pRoot) ∧
      (Returns (Config.protocolServerLoop x u pRoot) → proxyLoop x fuel u pRoot = lift (proxyResult x u pRoot) ∧
        gatewayLoop fuel u pRoot = lift (Config.gatewayLoop u pRoot) ∧ Config.gatewayLoop u pRoot ≠ .error .hangs) := by
  unfold parseRoot at h
  obtain ⟨v, hv⟩ := next_runs h
  obtain ⟨rfl, -⟩ := (protocolServerLoop_computes x u pRoot).sound fuel v hv
  refine ⟨hv, fun hreturns => ?_⟩
  obtain ⟨code, hcode⟩ := (assignAfter_returns c.m_ProtocolServerConfig).2 hreturns
  rw [hv, next_ret hcode] at h
  obtain ⟨w, hw⟩ := next_runs h
  obtain ⟨rfl, -⟩ := (proxyLoop_computes x u pRoot).sound fuel w hw
  rw [hw, next_ret (congrArg Prod.fst (assign_proxyResult x u pRoot _))] at h
  obtain ⟨z, hz⟩ := next_runs h
  obtain ⟨rfl, hne⟩ := (gatewayLoop_computes u pRoot).sound fuel z hz
  exact ⟨hw, hz, hne⟩

/-- the call hangs only in the gateway loader -/
theorem parseRoot_hangs {x : TinyXml} {u : Uninit} {pRoot : XMLElement} {c : Configs} :
    (Config.parseRoot x u pRoot c).1 = .hangs ↔
      Returns (Config.protocolServerLoop x u pRoot) ∧ Config.gatewayLoop u pRoot = .error .hangs := by
  rcases protocolServerLoop_cases x u pRoot with h | ⟨err, h⟩
  · rw [parseRoot_returns h]
    unfold gatewayEnding
    cases Config.gatewayLoop u pRoot with
    | ok g => simp
    | error e => cases e <;> simp [h]
  · rw [Config.parseRoot_throws h]
    simp only [reduceCtorEq, false_iff, not_and]
    intro hr
    obtain ⟨f, hf⟩ := hr _ h
    cases hf

/-- **What a call ends with** is what the loaders say. -/
theorem parseConfiguration_sound {x : TinyXml} {fuel : ℕ} {u : Uninit} {doc : Option XMLDocument} {c : Configs}
    {r : Ending XMLError × Configs} (h : parseConfiguration x fuel u doc c = some r) :
    r = Config.parseConfiguration x u doc c := by
  unfold parseConfiguration at h
  unfold Config.parseConfiguration
  cases doc with
  | none => exact (Option.some.inj h).symm
  | some d =>
    dsimp only at h ⊢
    cases hr : configRoot d with
    | none =>
      rw [hr] at h
      exact (Option.some.inj h).symm
    | some pRoot =>
      rw [hr] at h
      dsimp only at h
      obtain ⟨hprotocol, hrest⟩ := parseRoot_loops h
      rw [parseRoot_lift hprotocol fun hreturns => ⟨(hrest hreturns).1, (hrest hreturns).2.1⟩] at h
      exact (Option.some.inj h).symm

theorem parseRoot_ends {x : TinyXml} {u : Uninit} {pRoot : XMLElement} {c : Configs} :
    (∃ fuel r, parseRoot x fuel u pRoot c = some r) ↔ (Config.parseRoot x u pRoot c).1 ≠ .hangs := by
  constructor
  · rintro ⟨fuel, r, h⟩ hangs
    obtain ⟨hreturns, hloop⟩ := parseRoot_hangs.1 hangs
    exact ((parseRoot_loops h).2 hreturns).2.2 hloop
  · intro h
    have hprotocol : Config.protocolServerLoop x u pRoot ≠ .error .hangs := by
      intro he
      rcases protocolServerLoop_error he with ⟨f, hf⟩ | ⟨err, hf⟩ <;> cases hf
    have hproxy : proxyResult x u pRoot ≠ .error .hangs := by
      unfold proxyResult
      cases forEach (Config.loadCluster x) u.endPoints (clusterElements pRoot) <;> exact nofun
    obtain ⟨N, hN⟩ := (protocolServerLoop_computes x u pRoot).total hprotocol
    obtain ⟨M, hM⟩ := (proxyLoop_computes x u pRoot).total hproxy
    by_cases hreturns : Returns (Config.protocolServerLoop x u pRoot)
    · -- the bound must be enough for all three
      obtain ⟨K, hK⟩ := (gatewayLoop_computes u pRoot).total fun he => h (parseRoot_hangs.2 ⟨hreturns, he⟩)
      exact ⟨N + M + K, _, parseRoot_lift (hN _ (by omega)) (fun _ => ⟨hM _ (by omega), hK _ (by omega)⟩) c⟩
    · exact ⟨N, _, parseRoot_lift (hN N le_rfl) (fun hr => absurd hr hreturns) c⟩

/-- **Some bound is enough** iff the loaders do not hang. -/
theorem parseConfiguration_ends {x : TinyXml} {u : Uninit} {doc : Option XMLDocument} {c : Configs} :
    (∃ fuel r, parseConfiguration x fuel u doc c = some r) ↔ (Config.parseConfiguration x u doc c).1 ≠ .hangs := by
  unfold parseConfiguration Config.parseConfiguration
  cases doc with
  | none => simp
  | some d =>
    dsimp only
    cases configRoot d with
    | none => simp
    | some pRoot => exact parseRoot_ends

/-! ## The parser of requests -/

/-- **No request makes a string of a null pointer.** -/
theorem parseEndPointServiceConfiguration_eq (x : TinyXml) (u : Uninit) (doc : Option XMLDocument) :
    parseEndPointServiceConfiguration x u doc =
      lift ((Config.parseEndPointServiceConfiguration x u doc).mapError .throws) := by
  unfold parseEndPointServiceConfiguration Config.parseEndPointServiceConfiguration
  cases doc with
  | none => rfl
  | some d =>
    dsimp only
    cases d.firstChildElement "end_point" with
    | none => rfl
    | some pEndPoint =>
      simp only [orEmpty_eq, safeText_eq, pure_bind]
      by_cases hop : Xml.safeText (pEndPoint.firstChildElement "operation") ≠ "add" ∧
          Xml.safeText (pEndPoint.firstChildElement "operation") ≠ "delete"
      · rw [if_pos hop, if_pos hop]
        rfl
      · rw [if_neg hop, if_neg hop]
        cases pEndPoint.firstChildElement "service" with
        | none => rfl
        | some pService =>
          dsimp only
          cases pService.firstChildElement "port" with
          | none => rfl
          | some pPort =>
            dsimp only
            cases x.queryIntText pPort <;> rfl

end Asabru.Pointers
