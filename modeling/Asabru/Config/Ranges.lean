/-
What the loaders leave is in range: the numbers fit their fields, listening ports of proxies are ports, and the texts taken
over as printed XML were printed.

Premises: the int fields hold ints before they are assigned (`UninitInt32`), and tinyxml2 reads ints (`ReadsInts`). An
endpoint without a PROXY_PORT keeps what its field held, which is in range only by chance.

Results:
- `loadProxy_inRange`, `loadProtocol_inRange`, `loadGateway_inRange`: each loader's variable stays in range;
- `parseRoot_inRange`: so do all three, however the call ends.
-/
import Mathlib.Tactic
import Asabru.Config.Render
import Asabru.Config.ProxyDocument

namespace Asabru.Config

open Asabru.Control Asabru.Xml

/-- the fields hold ints before they are assigned -/
structure UninitInt32 (u : Uninit) : Prop where
  ports : ∀ i j k, Int32 ((u.endPoints i j).services k).port
  weights : ∀ i j k, Int32 ((u.endPoints i j).services k).weight
  protocolPorts : ∀ i, Int32 (u.protocolPorts i)
  gatewayPorts : ∀ i, Int32 (u.gatewayEndPoints i).port
  uriPorts : ∀ i j k, Int32 ((u.gatewayEndPoints i).uris j k)
  updatePort : Int32 u.updateService.port
  updateWeight : Int32 u.updateService.weight

/-- every endpoint of the document gives its port, or the field held a port -/
def ProxyPortsGiven (u : Uninit) (pRoot : XMLElement) : Prop :=
  ∀ pEndPoint ∈ documentEndPoints pRoot, pEndPoint.firstChildElement "PROXY_PORT" = none →
    ∀ i j, portInRange (u.endPoints i j).proxyPort = true

/-- a text that some element of the name prints as, or the empty text -/
def PrintedBy (x : TinyXml) (name text : String) : Prop := text = "" ∨ ∃ el, el.name = name ∧ x.print el = text

theorem firstChildElement_name {e c : XMLElement} {n : String} (h : e.firstChildElement n = some c) : c.name = n := by
  simpa using List.find?_some h

section Loaders

variable {x : TinyXml}

theorem loadWeight_int32 {weight : Int} (h : Int32 weight) (weightAttr : Option String) :
    Int32 (loadWeight weight weightAttr) := by
  unfold loadWeight
  split
  · exact h
  · split
    · rename_i hs
      exact stoi_int32 hs
    · exact h

theorem loadService_inRange (hx : ReadsInts x) {u : ServiceUninit} (hport : Int32 u.port) (hweight : Int32 u.weight)
    {e : XMLElement} {service : Service} (h : loadService x u e = .ok service) : ServiceInRange service := by
  unfold loadService at h
  cases hp : e.firstChildElement "PORT" with
  | none =>
    simp only [hp, Except.ok.injEq] at h
    subst h
    exact ⟨hport, loadWeight_int32 hweight _⟩
  | some pPort =>
    cases hq : x.queryIntText pPort with
    | error f => simp only [hp, hq] at h; cases h
    | ok port =>
      simp only [hp, hq, Except.ok.injEq] at h
      subst h
      exact ⟨hx.int32 _ _ hq, loadWeight_int32 hweight _⟩

theorem loadEndPoint_inRange (hx : ReadsInts x) {u : EndPointUninit} (hport : ∀ k, Int32 (u.services k).port)
    (hweight : ∀ k, Int32 (u.services k).weight) {e : XMLElement}
    (hgiven : e.firstChildElement "PROXY_PORT" = none → portInRange u.proxyPort = true) {endPoint : RemoteEndPoint}
    (h : loadEndPoint x u e = .ok endPoint) : EndPointInRange endPoint := by
  unfold loadEndPoint at h
  cases hp : loadProxyPort x u.proxyPort (e.firstChildElement "PROXY_PORT") with
  | error f => simp only [hp] at h; cases h
  | ok proxyPort =>
    cases hs : e.firstChildElement "SERVICES" with
    | none => simp only [hp, hs] at h; cases h
    | some pServices =>
      cases hl : forEach (loadService x) u.services (pServices.siblings "SERVICE") with
      | error f => simp only [hp, hs, hl] at h; cases h
      | ok services =>
        simp only [hp, hs, hl, Except.ok.injEq] at h
        subst h
        refine ⟨?_, fun service hmem => ?_⟩
        · cases hel : e.firstChildElement "PROXY_PORT" with
          | none =>
            rw [hel] at hp
            obtain rfl : u.proxyPort = proxyPort := Except.ok.inj hp
            exact hgiven hel
          | some pPort => exact portInRange_iff.2 (loadProxyPort_spec hp hel).2
        · have hall : ∀ k, Int32 (u.services k).port ∧ Int32 (u.services k).weight := fun k => ⟨hport k, hweight k⟩
          obtain ⟨pService, -, i, hi, hload⟩ := forall₂_right
            (forEach_ok_of (P := fun i : ServiceUninit => Int32 i.port ∧ Int32 i.weight) hall hl) hmem
          exact loadService_inRange hx hi.1 hi.2 hload

/-- **The proxy section** stays in range. -/
theorem loadProxy_inRange (hx : ReadsInts x) {u : Uninit} (hu : UninitInt32 u) {pRoot : XMLElement}
    (hgiven : proxySectionOk x pRoot → ProxyPortsGiven u pRoot) {c : ProxyConfig} (hc : ProxyInRange c) :
    ProxyInRange (loadProxyServerConfigurations x u pRoot c).2 := by
  have hcode := loadProxy_code x u pRoot c
  unfold loadProxyServerConfigurations at hcode ⊢
  cases hel : pRoot.firstChildElement "CLUSTERS" with
  | none => exact fun cluster hmem => by cases hmem
  | some pClusters =>
    cases hl : forEach (loadCluster x) u.endPoints (clusterElements pRoot) with
    | error err => exact hc
    | ok clusters =>
      have hok : proxySectionOk x pRoot := by
        rw [hel, hl] at hcode
        exact hcode.1 rfl
      intro cluster hcluster endPoint hendPoint
      obtain ⟨pCluster, hpCluster, v, ⟨i, rfl⟩, hload⟩ := forall₂_right
        (forEach_ok_of (P := fun v => ∃ i, v = u.endPoints i) (fun i => ⟨i, rfl⟩) hl) hcluster
      unfold loadCluster at hload
      cases hendPoints : forEach (loadEndPoint x) (u.endPoints i) (endPointElements pCluster) with
      | error err => rw [hendPoints] at hload; cases hload
      | ok endPoints =>
        rw [hendPoints] at hload
        obtain rfl := Except.ok.inj hload
        obtain ⟨pEndPoint, hpEndPoint, v, ⟨j, rfl⟩, hload⟩ := forall₂_right
          (forEach_ok_of (P := fun v => ∃ j, v = u.endPoints i j) (fun j => ⟨j, rfl⟩) hendPoints) hendPoint
        have hmem : pEndPoint ∈ documentEndPoints pRoot := List.mem_flatMap.2 ⟨pCluster, hpCluster, hpEndPoint⟩
        exact loadEndPoint_inRange hx (hu.ports i j) (hu.weights i j) (fun hnone => hgiven hok _ hmem hnone i j) hload

theorem loadAuth_printed (authEl : XMLElement) {authorization : AuthorizationConfig}
    (h : (loadAuth x authEl).authorization = some authorization) : PrintedBy x "data" authorization.data := by
  obtain ⟨authzEl, -, rfl⟩ := Option.map_eq_some_iff.1 h
  unfold loadAuthorization
  cases hd : authzEl.firstChildElement "data" with
  | none => exact Or.inl rfl
  | some dataEl => exact Or.inr ⟨dataEl, firstChildElement_name hd, rfl⟩

theorem loadRoute_printed {serverAuth : Bool} {routeEl : XMLElement} {route : Route}
    (h : loadRoute x serverAuth routeEl = .ok route) : PrintedBy x "authorization" route.auth.authorization := by
  simp only [loadRoute] at h
  cases hr : loadRequired serverAuth (safeText (routeEl.firstChildElement "path")) (routeAuthChild routeEl "required") with
  | error e => rw [hr] at h; cases h
  | ok required =>
    rw [hr] at h
    obtain rfl := Except.ok.inj h
    cases hz : routeAuthChild routeEl "authorization" with
    | none => exact Or.inl rfl
    | some authzEl =>
      refine Or.inr ⟨authzEl, ?_, rfl⟩
      unfold routeAuthChild at hz
      split at hz
      · exact firstChildElement_name hz
      · cases hz

/-- the servers of the section: ports in range, printed texts -/
def ProtocolInRange (p : String → String → Prop) (servers : List ProtocolServerConfig) : Prop :=
  ∀ server ∈ servers, Int32 server.protocol_port ∧ Printed p server

theorem loadProtocolServer_inRange {u : Int} (hu : Int32 u) {ps : XMLElement} {server : ProtocolServerConfig}
    (h : loadProtocolServer x u ps = .ok server) : Int32 server.protocol_port ∧ Printed (PrintedBy x) server := by
  unfold loadProtocolServer at h
  cases hp : loadProtocolPort u (ps.firstChildElement "protocol-port") with
  | error f => simp only [hp] at h; cases h
  | ok port =>
    cases hr : forEach (fun (_ : Unit) => loadRoute x ((ps.firstChildElement "auth").map (loadAuth x)).isSome)
        (fun _ => ()) (routeElements ps) with
    | error e => simp only [hp, hr] at h; cases h
    | ok routes =>
      simp only [hp, hr, Except.ok.injEq] at h
      subst h
      refine ⟨?_, fun auth authorization ha hz => ?_, fun route hmem => ?_⟩
      · show Int32 port
        unfold loadProtocolPort at hp
        split at hp
        · obtain rfl := Except.ok.inj hp
          exact hu
        · split at hp
          · cases hp
          · split at hp
            · cases hp
            · rename_i hs
              obtain rfl := Except.ok.inj hp
              exact stoi_int32 hs
      · obtain ⟨authEl, -, rfl⟩ := Option.map_eq_some_iff.1 ha
        exact loadAuth_printed authEl hz
      · obtain ⟨routeEl, -, -, hload⟩ := forall₂_right (forEach_ok hr) hmem
        exact loadRoute_printed hload

/-- **The protocol section** stays in range. -/
theorem loadProtocol_inRange {u : Uninit} (hu : UninitInt32 u) (pRoot : XMLElement) {c : List ProtocolServerConfig}
    (hc : ProtocolInRange (PrintedBy x) c) :
    ProtocolInRange (PrintedBy x) (loadProtocolServerConfigurations x u pRoot c).2 := by
  unfold loadProtocolServerConfigurations
  cases hl : protocolServerLoop x u pRoot with
  | error e =>
    rw [assignAfter_error rfl]
    exact hc
  | ok servers =>
    rw [assignAfter_ok rfl]
    intro server hmem
    obtain ⟨ps, -, i, hi, hload⟩ := forall₂_right (forEach_ok_of (P := Int32) hu.protocolPorts hl) hmem
    exact loadProtocolServer_inRange hi hload

theorem optionalPort_int32 {u : Int} (hu : Int32 u) {el : Option XMLElement} {port : Int}
    (h : optionalPort u el = .ok port) : Int32 port := by
  unfold optionalPort at h
  split at h
  · obtain rfl := Except.ok.inj h
    exact hu
  · split at h
    · cases h
    · split at h
      · cases h
      · rename_i hs
        obtain rfl := Except.ok.inj h
        exact stoi_int32 hs

theorem loadGatewayEndPoint_inRange {u : GatewayEndPointUninit} (hport : Int32 u.port) (huris : ∀ j k, Int32 (u.uris j k))
    {pEndPoint : XMLElement} {endPoint : ApiGatewayEndPoint} (h : loadGatewayEndPoint u pEndPoint = .ok endPoint) :
    GatewayInRange endPoint := by
  obtain ⟨name, -, h⟩ := bind_ok_iff.1 h
  obtain ⟨port, hp, h⟩ := bind_ok_iff.1 h
  obtain ⟨pipeline, -, h⟩ := bind_ok_iff.1 h
  cases hs : pEndPoint.firstChildElement "services" with
  | none => rw [hs] at h; cases h
  | some pServices =>
    rw [hs] at h
    obtain ⟨services, hservices, h⟩ := bind_ok_iff.1 h
    obtain rfl := Except.ok.inj h
    refine ⟨optionalPort_int32 hport hp, fun service hservice uri huri => ?_⟩
    obtain ⟨pService, -, v, ⟨j, rfl⟩, hload⟩ := forall₂_right
      (forEach_ok_of (P := fun v => ∃ j, v = u.uris j) (fun j => ⟨j, rfl⟩) hservices) hservice
    obtain ⟨hostname, -, hload⟩ := bind_ok_iff.1 hload
    obtain ⟨uris, hloop, hload⟩ := bind_ok_iff.1 hload
    obtain rfl := Except.ok.inj hload
    obtain ⟨pUri, -, i, hi, hload⟩ := forall₂_right (forEach_ok_of (P := Int32) (huris j) hloop) huri
    obtain ⟨path, -, hload⟩ := bind_ok_iff.1 hload
    obtain ⟨host, -, hload⟩ := bind_ok_iff.1 hload
    obtain ⟨port, hp, hload⟩ := bind_ok_iff.1 hload
    obtain rfl := Except.ok.inj hload
    exact optionalPort_int32 hi hp

/-- **The gateway section** stays in range. -/
theorem loadGateway_inRange {u : Uninit} (hu : UninitInt32 u) (pRoot : XMLElement) {c : ApiGatewayServerConfig}
    (hc : ∀ endPoint ∈ c.endpoints, GatewayInRange endPoint) :
    ∀ endPoint ∈ (loadApiGatewayConfigurations u pRoot c).2.endpoints, GatewayInRange endPoint := by
  unfold loadApiGatewayConfigurations
  cases hl : gatewayLoop u pRoot with
  | error e =>
    rw [assignAfter_error rfl]
    exact hc
  | ok g =>
    rw [assignAfter_ok rfl]
    intro endPoint hmem
    have hall : ∀ i, Int32 (u.gatewayEndPoints i).port ∧ ∀ j k, Int32 ((u.gatewayEndPoints i).uris j k) :=
      fun i => ⟨hu.gatewayPorts i, hu.uriPorts i⟩
    unfold gatewayLoop at hl
    cases hel : pRoot.firstChildElement "api-gateway-server-config" with
    | none => rw [hel] at hl; cases hl
    | some pApiGatewayConfig =>
      rw [hel] at hl
      cases hloop : forEach loadGatewayEndPoint u.gatewayEndPoints (pApiGatewayConfig.siblings "end-point") with
      | error e => simp only [hloop] at hl; cases hl
      | ok endpoints =>
        simp only [hloop] at hl
        obtain rfl := Except.ok.inj hl
        obtain ⟨pEndPoint, -, v, hv, hload⟩ := forall₂_right (forEach_ok_of (P := fun (v : GatewayEndPointUninit) =>
          Int32 v.port ∧ ∀ j k, Int32 (v.uris j k)) hall hloop) hmem
        exact loadGatewayEndPoint_inRange hv.1 hv.2 hload

/-- **A call leaves all three sections in range**, however it ends. -/
theorem parseRoot_inRange (hx : ReadsInts x) {u : Uninit} (hu : UninitInt32 u) {pRoot : XMLElement}
    (hgiven : ¬ protocolThrows pRoot → proxySectionOk x pRoot → ProxyPortsGiven u pRoot) {c : Configs}
    (hc : InRange (PrintedBy x) c) :
    InRange (PrintedBy x) (parseRoot x u pRoot c).2 := by
  rcases protocolServerLoop_cases x u pRoot with hreturns | ⟨err, hthrows⟩
  · rw [parseRoot_returns hreturns]
    have hprotocol := loadProtocol_inRange (x := x) hu pRoot (c := c.m_ProtocolServerConfig)
      fun server hmem => ⟨hc.protocolPorts server hmem, hc.printed server hmem⟩
    have hproxy := loadProxy_inRange hx hu (hgiven (protocolServerLoop_returns.1 hreturns)) hc.proxy
    exact ⟨hproxy, fun server hmem => (hprotocol server hmem).1,
      fun server hmem => (hprotocol server hmem).2, loadGateway_inRange hu pRoot hc.gateway⟩
  · rw [parseRoot_throws hthrows]
    exact hc

end Loaders

end Asabru.Config
