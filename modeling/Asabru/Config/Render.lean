/-
The document of a configuration: every field written out, in the loaders' own element and attribute names.

A text field is an element with that text, without one if the text is empty; the gateway's optional texts are left out
when they are empty, since the loader does not check for null there. The two texts that the loaders take over as printed
XML (authorization data) need elements that print as they do: `unprint` chooses one by name and text.

Results:
- `loadProxy_render`, `protocolLoop_render`, `gatewayLoop_render`: each loader reads its section of the document back,
  whatever is stored before and whatever the int fields hold before they are assigned;
- `parseRoot_render`: so the document as a whole is read back.
-/
import Mathlib.Tactic
import Asabru.Config.Numerals
import Asabru.Config.Parse

namespace Asabru.Config

open Asabru.Control Asabru.Xml

/-! ## Elements -/

def node (name : String) (attributes : List (String × String)) (children : List XMLElement) : XMLElement :=
  ⟨name, attributes, children.map .element⟩

/-- an element for a text, without a text child for the empty one -/
def textElement (name text : String) : XMLElement := ⟨name, [], if text = "" then [] else [.text text]⟩

/-- no element for the empty text -/
def optionalElement (name text : String) : List XMLElement := if text = "" then [] else [leaf name text]

@[simp] theorem node_name (name : String) (attributes : List (String × String)) (children : List XMLElement) :
    (node name attributes children).name = name := rfl

@[simp] theorem textElement_name (name text : String) : (textElement name text).name = name := rfl

@[simp] theorem node_attribute (name : String) (attributes : List (String × String)) (children : List XMLElement)
    (n : String) : (node name attributes children).attribute n = attributes.lookup n := rfl

theorem elementsOf_map (children : List XMLElement) : elementsOf (children.map .element) = children := by
  unfold elementsOf
  rw [List.filterMap_map]
  exact List.filterMap_some

@[simp] theorem node_firstChildElement (name : String) (attributes : List (String × String)) (children : List XMLElement)
    (n : String) : (node name attributes children).firstChildElement n = children.find? fun c => c.name = n := by
  unfold XMLElement.firstChildElement node
  rw [elementsOf_map]

/-- elements rendered under one name are all visited -/
theorem node_siblings {α : Type} (name : String) (attributes : List (String × String)) (render : α → XMLElement)
    (as : List α) {n : String} (h : ∀ a, (render a).name = n) :
    (node name attributes (as.map render)).siblings n = as.map render := by
  unfold XMLElement.siblings node
  rw [elementsOf_map, List.filter_eq_self]
  intro c hc
  obtain ⟨a, -, rfl⟩ := List.mem_map.1 hc
  simp [h]

theorem textElement_getText {name text : String} (h : text ≠ "") : (textElement name text).getText = some text := by
  unfold XMLElement.getText textElement
  rw [if_neg h]
  rfl

@[simp] theorem safeText_textElement (name text : String) : safeText (some (textElement name text)) = text := by
  by_cases h : text = ""
  · subst h; rfl
  · simp [safeText, textElement_getText h]

/-- a loop over rendered elements gives back what was rendered -/
theorem forEach_render {ι α ε : Type} {body : ι → XMLElement → Except ε α} {render : α → XMLElement} {as : List α}
    (h : ∀ a ∈ as, ∀ i, body i (render a) = .ok a) (u : ℕ → ι) : forEach body u (as.map render) = .ok as := by
  induction as generalizing u with
  | nil => rfl
  | cons a as ih =>
    rw [List.map_cons, forEach, h a List.mem_cons_self]
    simp only [ih fun a' ha' => h a' (List.mem_cons_of_mem a ha')]

/-! ## The proxy section -/

def renderService (service : Service) : XMLElement :=
  node "SERVICE" [("name", service.name), ("weight", service.weight.repr)]
    [textElement "HOST" service.host, textElement "SOURCE_HOSTNAME" service.source_hostname,
      textElement "PORT" service.port.repr]

def renderEndPoint (endPoint : RemoteEndPoint) : XMLElement :=
  node "END_POINT" [("name", endPoint.endPointName)]
    [textElement "PROXY_PORT" endPoint.proxyPort.repr,
      textElement "READ_WRITE" (if endPoint.readWrite then "yes" else "no"), textElement "HANDLER" endPoint.handler,
      textElement "PIPELINE" endPoint.pipeline, textElement "loadbalancer-strategy" endPoint.loadBalancerStrategy,
      node "SERVICES" [] (endPoint.services.map renderService)]

def renderCluster (cluster : Cluster) : XMLElement :=
  node "CLUSTER" [("name", cluster.clusterName)] [node "END_POINTS" [] (cluster.endPoints.map renderEndPoint)]

structure ServiceInRange (service : Service) : Prop where
  port : Int32 service.port
  weight : Int32 service.weight

structure EndPointInRange (endPoint : RemoteEndPoint) : Prop where
  proxyPort : portInRange endPoint.proxyPort = true
  services : ∀ service ∈ endPoint.services, ServiceInRange service

/-- the numbers of the section are those that it can have -/
def ProxyInRange (c : ProxyConfig) : Prop := ∀ cluster ∈ c.clusters, ∀ endPoint ∈ cluster.endPoints, EndPointInRange endPoint

section Proxy

variable {x : TinyXml} (hx : ReadsInts x)
include hx

theorem queryIntText_textElement {n : Int} (hn : Int32 n) (name : String) :
    x.queryIntText (textElement name n.repr) = .ok n :=
  hx.reads _ n (textElement_getText (repr_ne_empty n)) hn

theorem loadService_render {service : Service} (h : ServiceInRange service) (u : ServiceUninit) :
    loadService x u (renderService service) = .ok service := by
  simp [loadService, renderService, loadWeight, List.lookup_cons, stoi_repr h.weight, queryIntText_textElement hx h.port]

theorem loadEndPoint_render {endPoint : RemoteEndPoint} (h : EndPointInRange endPoint) (u : EndPointUninit) :
    loadEndPoint x u (renderEndPoint endPoint) = .ok endPoint := by
  obtain ⟨hlo, hhi⟩ := portInRange_iff.1 h.proxyPort
  have hport : x.queryIntText (textElement "PROXY_PORT" endPoint.proxyPort.repr) = .ok endPoint.proxyPort :=
    queryIntText_textElement hx ⟨by omega, by omega⟩ _
  have hservices : forEach (loadService x) u.services (endPoint.services.map renderService) = .ok endPoint.services :=
    forEach_render (fun service hs i => loadService_render hx (h.services service hs) i) _
  have hrange : ¬ (endPoint.proxyPort ≤ 0 ∨ 65535 < endPoint.proxyPort) := by omega
  simp [loadEndPoint, renderEndPoint, loadProxyPort, hport, hrange,
    node_siblings "SERVICES" [] renderService endPoint.services (n := "SERVICE") fun _ => rfl, hservices]

theorem loadCluster_render {cluster : Cluster} (h : ∀ endPoint ∈ cluster.endPoints, EndPointInRange endPoint)
    (u : ℕ → EndPointUninit) : loadCluster x u (renderCluster cluster) = .ok cluster := by
  have hendPoints : forEach (loadEndPoint x) u (cluster.endPoints.map renderEndPoint) = .ok cluster.endPoints :=
    forEach_render (fun endPoint he i => loadEndPoint_render hx (h endPoint he) i) _
  have helements : endPointElements (renderCluster cluster) = cluster.endPoints.map renderEndPoint := by
    simp [endPointElements, renderCluster,
      node_siblings "END_POINTS" [] renderEndPoint cluster.endPoints (n := "END_POINT") fun _ => rfl]
  unfold loadCluster
  rw [helements, hendPoints]
  simp [renderCluster]

end Proxy

/-! ## The protocol section -/

/-- printed elements: by name and text, an element that prints as the text, none for the empty text -/
abbrev Unprint := String → String → Option XMLElement

/-- the element chosen for a name and text, if there is one, has the name and prints as the text -/
def Unprints (x : TinyXml) (unprint : Unprint) (name text : String) : Prop :=
  match unprint name text with
  | none => text = ""
  | some el => el.name = name ∧ x.print el = text

def renderAuthorization (unprint : Unprint) (authorization : AuthorizationConfig) : XMLElement :=
  node "authorization" [] ([textElement "strategy" authorization.strategy, textElement "handler" authorization.handler] ++
    (unprint "data" authorization.data).toList)

def renderAuth (unprint : Unprint) (auth : AuthConfig) : XMLElement :=
  node "auth" [] ([textElement "strategy" auth.strategy, textElement "handler" auth.handler] ++
    auth.authorization.toList.map (renderAuthorization unprint))

def renderRoute (unprint : Unprint) (route : Route) : XMLElement :=
  node "route" [] [textElement "path" route.path, textElement "method" route.method,
    textElement "request_handler" route.request_handler,
    node "auth" [] (textElement "required" (if route.auth.required then "true" else "false") ::
      (unprint "authorization" route.auth.authorization).toList)]

def renderProtocolServer (unprint : Unprint) (server : ProtocolServerConfig) : XMLElement :=
  node "protocol-server" [("protocol", server.protocol_name)]
    ([textElement "protocol-port" server.protocol_port.repr, textElement "pipeline" server.pipeline,
      textElement "handler" server.handler, node "routes" [] (server.routes.map (renderRoute unprint))] ++
        server.auth.toList.map (renderAuth unprint))

/-- the texts that the server takes over as printed elements -/
structure Printed (p : String → String → Prop) (server : ProtocolServerConfig) : Prop where
  data : ∀ auth authorization, server.auth = some auth → auth.authorization = some authorization →
    p "data" authorization.data
  authorization : ∀ route ∈ server.routes, p "authorization" route.auth.authorization

section Protocol

variable {x : TinyXml} {unprint : Unprint}

/-- the chosen element is found after others of other names -/
theorem firstChild_unprint {name text : String} (h : Unprints x unprint name text) {others : List XMLElement}
    (hothers : ∀ el ∈ others, el.name ≠ name) (parent : String) (attributes : List (String × String)) :
    (node parent attributes (others ++ (unprint name text).toList)).firstChildElement name = unprint name text := by
  have hskip : others.find? (fun c => decide (c.name = name)) = none := by
    rw [List.find?_eq_none]
    intro el hel
    simpa using hothers el hel
  rw [node_firstChildElement, List.find?_append, hskip, Option.none_or]
  unfold Unprints at h
  cases hu : unprint name text with
  | none => rfl
  | some el =>
    rw [hu] at h
    simp [h.1]

theorem loadAuthorization_render {authorization : AuthorizationConfig}
    (h : Unprints x unprint "data" authorization.data) :
    loadAuthorization x (renderAuthorization unprint authorization) = authorization := by
  have hdata : (renderAuthorization unprint authorization).firstChildElement "data" = unprint "data" authorization.data :=
    firstChild_unprint h (by simp) _ _
  have hstrategy : safeText ((renderAuthorization unprint authorization).firstChildElement "strategy") =
      authorization.strategy := by simp [renderAuthorization]
  have hhandler : safeText ((renderAuthorization unprint authorization).firstChildElement "handler") =
      authorization.handler := by simp [renderAuthorization]
  unfold loadAuthorization
  rw [hdata, hstrategy, hhandler]
  unfold Unprints at h
  cases hu : unprint "data" authorization.data with
  | none =>
    rw [hu] at h
    simp only [← h]
  | some el =>
    rw [hu] at h
    simp only [h.2]

theorem loadAuth_render {auth : AuthConfig}
    (h : ∀ authorization, auth.authorization = some authorization → Unprints x unprint "data" authorization.data) :
    loadAuth x (renderAuth unprint auth) = auth := by
  obtain ⟨strategy, handler, authorization⟩ := auth
  cases authorization with
  | none => simp [loadAuth, renderAuth]
  | some authorization =>
    have hauthorization := loadAuthorization_render (h authorization rfl)
    have hname : (renderAuthorization unprint authorization).name = "authorization" := rfl
    simp [loadAuth, renderAuth, hname, hauthorization]

theorem loadRoute_render {route : Route} (h : Unprints x unprint "authorization" route.auth.authorization)
    (serverAuth : Bool) : loadRoute x serverAuth (renderRoute unprint route) = .ok route := by
  have hauthorization : routeAuthChild (renderRoute unprint route) "authorization" =
      unprint "authorization" route.auth.authorization := by
    have hchild : (node "auth" [] ([textElement "required" (if route.auth.required then "true" else "false")] ++
        (unprint "authorization" route.auth.authorization).toList)).firstChildElement "authorization" =
        unprint "authorization" route.auth.authorization := firstChild_unprint h (by simp) _ _
    simpa [routeAuthChild, renderRoute] using hchild
  have hrequired : routeAuthChild (renderRoute unprint route) "required" =
      some (textElement "required" (if route.auth.required then "true" else "false")) := by
    simp [routeAuthChild, renderRoute]
  have hflag : ∀ path, loadRequired serverAuth path
      (some (textElement "required" (if route.auth.required then "true" else "false"))) = .ok route.auth.required := by
    intro path
    cases route.auth.required <;> rfl
  have hpath : safeText ((renderRoute unprint route).firstChildElement "path") = route.path := by simp [renderRoute]
  have hmethod : safeText ((renderRoute unprint route).firstChildElement "method") = route.method := by
    simp [renderRoute]
  have hhandler : safeText ((renderRoute unprint route).firstChildElement "request_handler") = route.request_handler := by
    simp [renderRoute]
  simp only [loadRoute, hauthorization, hrequired, hflag, hpath, hmethod, hhandler]
  unfold Unprints at h
  cases hu : unprint "authorization" route.auth.authorization with
  | none =>
    rw [hu] at h
    simp only [← h]
  | some el =>
    rw [hu] at h
    simp only [h.2]

/-- every server is read back, whether or not it has an auth block -/
theorem loadProtocolServer_render {server : ProtocolServerConfig} (hport : Int32 server.protocol_port)
    (h : Printed (Unprints x unprint) server) (u : Int) :
    loadProtocolServer x u (renderProtocolServer unprint server) = .ok server := by
  have hroutes : ∀ serverAuth, forEach (fun (_ : Unit) => loadRoute x serverAuth) (fun _ => ())
      (server.routes.map (renderRoute unprint)) = .ok server.routes := fun serverAuth =>
    forEach_render (fun route hr _ => loadRoute_render (h.authorization route hr) serverAuth) _
  have helements : routeElements (renderProtocolServer unprint server) = server.routes.map (renderRoute unprint) := by
    simp [routeElements, renderProtocolServer,
      node_siblings "routes" [] (renderRoute unprint) server.routes (n := "route") fun _ => rfl]
  have hportText : (textElement "protocol-port" server.protocol_port.repr).getText = some server.protocol_port.repr :=
    textElement_getText (repr_ne_empty _)
  have hprotocolPort : loadProtocolPort u ((renderProtocolServer unprint server).firstChildElement "protocol-port") =
      .ok server.protocol_port := by
    simp [renderProtocolServer, loadProtocolPort, hportText, stoi_repr hport]
  have hauth : ((renderProtocolServer unprint server).firstChildElement "auth").map (loadAuth x) = server.auth := by
    have hauths : ∀ auth, server.auth = some auth → loadAuth x (renderAuth unprint auth) = auth := fun auth ha =>
      loadAuth_render fun authorization hz => h.data auth authorization ha hz
    cases ha : server.auth with
    | none => simp [renderProtocolServer, ha]
    | some auth =>
      have hname : (renderAuth unprint auth).name = "auth" := rfl
      simp [renderProtocolServer, ha, hname, hauths auth ha]
  unfold loadProtocolServer
  rw [hprotocolPort, hauth, helements]
  simp [hroutes, renderProtocolServer]

end Protocol

/-! ## The gateway section -/

def renderUri (uri : ApiGatewayUri) : XMLElement :=
  node "uri" [("path", uri.path)] (optionalElement "host" uri.host ++ [leaf "port" uri.port.repr])

def renderGatewayService (service : ApiGatewayService) : XMLElement :=
  node "service" [("hostname", service.hostname)] (service.uris.map renderUri)

def renderGatewayEndPoint (endPoint : ApiGatewayEndPoint) : XMLElement :=
  node "end-point" [("name", endPoint.name)] (optionalElement "pipeline" endPoint.pipeline ++
    [leaf "port" endPoint.port.repr, node "services" [] (endPoint.services.map renderGatewayService)])

structure GatewayInRange (endPoint : ApiGatewayEndPoint) : Prop where
  port : Int32 endPoint.port
  uris : ∀ service ∈ endPoint.services, ∀ uri ∈ service.uris, Int32 uri.port

/-- an optional text in front of other elements is read back -/
theorem optionalText_render {n text : String} {rest : List XMLElement} (hrest : ∀ el ∈ rest, el.name ≠ n)
    (name : String) (attributes : List (String × String)) :
    optionalText ((node name attributes (optionalElement n text ++ rest)).firstChildElement n) = .ok text := by
  have hnone : rest.find? (fun c => decide (c.name = n)) = none := by
    rw [List.find?_eq_none]
    intro el hel
    simpa using hrest el hel
  rw [node_firstChildElement, List.find?_append, hnone, Option.or_none]
  unfold optionalElement
  by_cases htext : text = ""
  · subst htext
    rfl
  · rw [if_neg htext]
    simp [leaf, optionalText, asString, XMLElement.getText]

/-- and skipped when another element is looked for -/
theorem optionalElement_skip {n k text : String} (h : n ≠ k) (rest : List XMLElement) :
    (optionalElement n text ++ rest).find? (fun c => decide (c.name = k)) =
      rest.find? fun c => decide (c.name = k) := by
  unfold optionalElement
  split_ifs
  · rfl
  · simp [leaf, h]

theorem optionalPort_leaf {port : Int} (h : Int32 port) (u : Int) (name : String) :
    optionalPort u (some (leaf name port.repr)) = .ok port := by
  unfold optionalPort
  have htext : (leaf name port.repr).getText = some port.repr := rfl
  simp only [htext, asString, stoi_repr h]

theorem loadUri_render {uri : ApiGatewayUri} (h : Int32 uri.port) (u : Int) : loadUri u (renderUri uri) = .ok uri := by
  have hhost : optionalText ((renderUri uri).firstChildElement "host") = .ok uri.host :=
    optionalText_render (by simp [leaf]) _ _
  have hport : (renderUri uri).firstChildElement "port" = some (leaf "port" uri.port.repr) := by
    rw [renderUri, node_firstChildElement, optionalElement_skip (by decide)]
    rfl
  unfold loadUri
  rw [hhost, hport, optionalPort_leaf h]
  rfl

theorem loadGatewayService_render {service : ApiGatewayService} (h : ∀ uri ∈ service.uris, Int32 uri.port) (u : ℕ → Int) :
    loadGatewayService u (renderGatewayService service) = .ok service := by
  have huris : forEach loadUri u (service.uris.map renderUri) = .ok service.uris :=
    forEach_render (fun uri hmem i => loadUri_render (h uri hmem) i) _
  unfold loadGatewayService
  rw [renderGatewayService, node_siblings "service" _ renderUri service.uris (n := "uri") fun _ => rfl, huris]
  rfl

theorem loadGatewayEndPoint_render {endPoint : ApiGatewayEndPoint} (h : GatewayInRange endPoint)
    (u : GatewayEndPointUninit) : loadGatewayEndPoint u (renderGatewayEndPoint endPoint) = .ok endPoint := by
  have hservices : forEach loadGatewayService u.uris (endPoint.services.map renderGatewayService) =
      .ok endPoint.services :=
    forEach_render (fun service hmem i => loadGatewayService_render (h.uris service hmem) i) _
  have hpipeline : optionalText ((renderGatewayEndPoint endPoint).firstChildElement "pipeline") = .ok endPoint.pipeline :=
    optionalText_render (by simp [leaf]) _ _
  have hport : (renderGatewayEndPoint endPoint).firstChildElement "port" = some (leaf "port" endPoint.port.repr) := by
    rw [renderGatewayEndPoint, node_firstChildElement, optionalElement_skip (by decide)]
    rfl
  have hservicesElement : (renderGatewayEndPoint endPoint).firstChildElement "services" =
      some (node "services" [] (endPoint.services.map renderGatewayService)) := by
    rw [renderGatewayEndPoint, node_firstChildElement, optionalElement_skip (by decide)]
    rfl
  unfold loadGatewayEndPoint
  rw [hpipeline, hport, optionalPort_leaf h.port, hservicesElement]
  simp only [ok_bind, node_siblings "services" _ renderGatewayService endPoint.services (n := "service") fun _ => rfl,
    hservices]
  rfl

/-! ## Whole documents -/

/-- the root element of a configuration's document -/
def renderRoot (unprint : Unprint) (c : Configs) : XMLElement :=
  node "clickhouse-proxy-v2" []
    [node "CLUSTERS" [] (c.m_ProxyConfig.clusters.map renderCluster),
      node "protocol-server-config" [] (c.m_ProtocolServerConfig.map (renderProtocolServer unprint)),
      node "api-gateway-server-config" [] (c.m_ApiGatewayServerConfig.endpoints.map renderGatewayEndPoint)]

/-- the numbers of a configuration are those that it can have, and its printed texts have a property -/
structure InRange (p : String → String → Prop) (c : Configs) : Prop where
  proxy : ProxyInRange c.m_ProxyConfig
  protocolPorts : ∀ server ∈ c.m_ProtocolServerConfig, Int32 server.protocol_port
  printed : ∀ server ∈ c.m_ProtocolServerConfig, Printed p server
  gateway : ∀ endPoint ∈ c.m_ApiGatewayServerConfig.endpoints, GatewayInRange endPoint

section Documents

variable {x : TinyXml} {unprint : Unprint} {c : Configs}

theorem loadProxy_render (hx : ReadsInts x) (h : ProxyInRange c.m_ProxyConfig) (u : Uninit) (stored : ProxyConfig) :
    loadProxyServerConfigurations x u (renderRoot unprint c) stored = (.success, c.m_ProxyConfig) := by
  have hclusters : forEach (loadCluster x) u.endPoints (c.m_ProxyConfig.clusters.map renderCluster) =
      .ok c.m_ProxyConfig.clusters :=
    forEach_render (fun cluster hmem i => loadCluster_render hx (h cluster hmem) i) _
  have hroot : (renderRoot unprint c).firstChildElement "CLUSTERS" =
      some (node "CLUSTERS" [] (c.m_ProxyConfig.clusters.map renderCluster)) := rfl
  have helements : clusterElements (renderRoot unprint c) = c.m_ProxyConfig.clusters.map renderCluster := by
    simp only [clusterElements, hroot]
    exact node_siblings _ _ _ _ fun _ => rfl
  simp only [loadProxyServerConfigurations, hroot, helements, hclusters]

theorem protocolLoop_render (hports : ∀ server ∈ c.m_ProtocolServerConfig, Int32 server.protocol_port)
    (h : ∀ server ∈ c.m_ProtocolServerConfig, Printed (Unprints x unprint) server) (u : Uninit) :
    protocolServerLoop x u (renderRoot unprint c) = .ok c.m_ProtocolServerConfig := by
  have helements : protocolServerElements (renderRoot unprint c) =
      c.m_ProtocolServerConfig.map (renderProtocolServer unprint) := by
    have hroot : (renderRoot unprint c).firstChildElement "protocol-server-config" =
      some (node "protocol-server-config" [] (c.m_ProtocolServerConfig.map (renderProtocolServer unprint))) := rfl
    simp only [protocolServerElements, hroot]
    exact node_siblings _ _ _ _ fun _ => rfl
  unfold protocolServerLoop
  rw [helements]
  exact forEach_render (fun server hmem i => loadProtocolServer_render (hports server hmem) (h server hmem) i) _

theorem gatewayLoop_render (h : ∀ endPoint ∈ c.m_ApiGatewayServerConfig.endpoints, GatewayInRange endPoint) (u : Uninit) :
    gatewayLoop u (renderRoot unprint c) = .ok c.m_ApiGatewayServerConfig := by
  have hroot : (renderRoot unprint c).firstChildElement "api-gateway-server-config" =
      some (node "api-gateway-server-config" [] (c.m_ApiGatewayServerConfig.endpoints.map renderGatewayEndPoint)) := rfl
  have hloop : forEach loadGatewayEndPoint u.gatewayEndPoints
      (c.m_ApiGatewayServerConfig.endpoints.map renderGatewayEndPoint) = .ok c.m_ApiGatewayServerConfig.endpoints :=
    forEach_render (fun endPoint hmem i => loadGatewayEndPoint_render (h endPoint hmem) i) _
  unfold gatewayLoop
  rw [hroot]
  simp only [node_siblings "api-gateway-server-config" _ renderGatewayEndPoint c.m_ApiGatewayServerConfig.endpoints
    (n := "end-point") fun _ => rfl, hloop]

/-- **A configuration's document is read back**, whatever is stored before and in the int fields. -/
theorem parseRoot_render (hx : ReadsInts x) (h : InRange (Unprints x unprint) c) (u : Uninit) (stored : Configs) :
    parseRoot x u (renderRoot unprint c) stored = (.ret .success, c) := by
  have hprotocol := protocolLoop_render h.protocolPorts h.printed u
  have hgateway : gatewayLoop u (renderRoot unprint c) = .ok c.m_ApiGatewayServerConfig := gatewayLoop_render h.gateway u
  apply parseRoot_ret.2
  refine ⟨fun e he => ?_, fun e he => ?_, rfl, ?_⟩
  · rw [hprotocol] at he
    cases he
  · rw [hgateway] at he
    cases he
  · unfold storedConfigs loadProtocolServerConfigurations loadApiGatewayConfigurations
    rw [loadProxy_render hx h.proxy, assignAfter_ok hprotocol, assignAfter_ok hgateway]

end Documents

end Asabru.Config
