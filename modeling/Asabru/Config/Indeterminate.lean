/-
What of a load depends on the arbitrary values that its int fields start with.

A field keeps its arbitrary value where the document does not give it: an absent PROXY_PORT, PORT, protocol-port or port
element, an absent weight attribute or one that `std::stoi` rejects.

Results:
- `parseRoot_ending`: how a load ends does not depend on them;
- `loadProxy_given`, `protocolServerLoop_given`, `gatewayLoop_given`: a section that gives every field is read the same way
  for any of them;
- `loadProxy_distinguishes`, `protocolServerLoop_distinguishes`, `gatewayLoop_distinguishes`: one that is read alike from
  two different values gives every field.
-/
import Mathlib.Tactic
import Asabru.Config.ProxyDocument
import Asabru.Config.ProtocolDocument
import Asabru.Config.GatewayDocument
import Asabru.Config.Parse

namespace Asabru.Config

open Asabru.Control Asabru.Xml

/-! ## How a load ends -/

theorem optionalPort_exit (n m : Int) (el : Option XMLElement) :
    exitOf (optionalPort n el) = exitOf (optionalPort m el) := by
  cases el <;> rfl

theorem loadUri_exit (n m : Int) (pUri : XMLElement) : exitOf (loadUri n pUri) = exitOf (loadUri m pUri) :=
  exit_bind rfl fun _ _ => exit_bind rfl fun _ _ => exit_bind (optionalPort_exit n m _) fun _ _ => rfl

theorem loadGatewayService_exit (u u' : ℕ → Int) (pService : XMLElement) :
    exitOf (loadGatewayService u pService) = exitOf (loadGatewayService u' pService) :=
  exit_bind rfl fun _ _ => exit_bind (forEach_exit_congr loadUri_exit u u' _) fun _ _ => rfl

theorem loadGatewayEndPoint_exit (u u' : GatewayEndPointUninit) (pEndPoint : XMLElement) :
    exitOf (loadGatewayEndPoint u pEndPoint) = exitOf (loadGatewayEndPoint u' pEndPoint) := by
  refine exit_bind rfl fun _ _ => exit_bind (optionalPort_exit u.port u'.port _) fun _ _ => exit_bind rfl fun _ _ => ?_
  cases pEndPoint.firstChildElement "services" with
  | none => rfl
  | some pServices => exact exit_bind (forEach_exit_congr loadGatewayService_exit u.uris u'.uris _) fun _ _ => rfl

theorem gatewayLoop_exit (u u' : Uninit) (pRoot : XMLElement) :
    exitOf (gatewayLoop u pRoot) = exitOf (gatewayLoop u' pRoot) := by
  unfold gatewayLoop
  cases pRoot.firstChildElement "api-gateway-server-config" with
  | none => rfl
  | some el =>
    have hloop := forEach_exit_congr loadGatewayEndPoint_exit u.gatewayEndPoints u'.gatewayEndPoints
      (el.siblings "end-point")
    dsimp only
    cases hl : forEach loadGatewayEndPoint u.gatewayEndPoints (el.siblings "end-point") <;>
      cases hl' : forEach loadGatewayEndPoint u'.gatewayEndPoints (el.siblings "end-point") <;>
        (rw [hl, hl'] at hloop; exact hloop)

theorem gatewayEnding_indep (u u' : Uninit) (pRoot : XMLElement) : gatewayEnding u pRoot = gatewayEnding u' pRoot := by
  have hexit := gatewayLoop_exit u u' pRoot
  unfold gatewayEnding
  cases hl : gatewayLoop u pRoot with
  | ok g =>
    cases hl' : gatewayLoop u' pRoot with
    | ok g' => rfl
    | error e' => rw [hl, hl'] at hexit; cases hexit
  | error e =>
    cases hl' : gatewayLoop u' pRoot with
    | ok g' => rw [hl, hl'] at hexit; cases hexit
    | error e' =>
      rw [hl, hl'] at hexit
      rw [Option.some.inj hexit]

/-- **How a load ends** does not depend on the arbitrary values. -/
theorem parseRoot_ending (x : TinyXml) (u u' : Uninit) (pRoot : XMLElement) (c : Configs) :
    (parseRoot x u pRoot c).1 = (parseRoot x u' pRoot c).1 := by
  have hexit : exitOf (protocolServerLoop x u pRoot) = exitOf (protocolServerLoop x u' pRoot) := by
    rw [protocolServerLoop_exit, protocolServerLoop_exit]
  rcases protocolServerLoop_cases x u pRoot with h | ⟨err, h⟩
  · rcases protocolServerLoop_cases x u' pRoot with h' | ⟨err', h'⟩
    · rw [parseRoot_returns h, parseRoot_returns h']
      exact gatewayEnding_indep u u' pRoot
    · rw [h', exitOf_error] at hexit
      cases hl : protocolServerLoop x u pRoot with
      | ok v => rw [hl] at hexit; cases hexit
      | error e =>
        obtain ⟨f, rfl⟩ := h e hl
        rw [hl] at hexit
        cases hexit
  · cases hl : protocolServerLoop x u' pRoot with
    | ok v => rw [h, hl] at hexit; cases hexit
    | error e =>
      rw [h, hl] at hexit
      obtain rfl := Option.some.inj hexit
      rw [parseRoot_throws h, parseRoot_throws hl]

/-! ## The proxy section -/

/-- no field keeps its arbitrary value -/
structure serviceGiven (pService : XMLElement) : Prop where
  port : pService.firstChildElement "PORT" ≠ none
  weight : ∃ t n, pService.attribute "weight" = some t ∧ stoi t = .ok n

structure endPointGiven (pEndPoint : XMLElement) : Prop where
  proxyPort : pEndPoint.firstChildElement "PROXY_PORT" ≠ none
  services : ∀ pServices, pEndPoint.firstChildElement "SERVICES" = some pServices →
    ∀ pService ∈ pServices.siblings "SERVICE", serviceGiven pService

theorem loadService_given (x : TinyXml) {e : XMLElement} (h : serviceGiven e) (u u' : ServiceUninit) :
    loadService x u e = loadService x u' e := by
  obtain ⟨t, n, ht, hn⟩ := h.weight
  unfold loadService
  cases hp : e.firstChildElement "PORT" with
  | none => exact absurd hp h.port
  | some pPort =>
    cases hq : x.queryIntText pPort with
    | error err => simp only [hq]
    | ok port => simp only [hq, ht, loadWeight, hn]

theorem loadEndPoint_given (x : TinyXml) {e : XMLElement} (h : endPointGiven e) (u u' : EndPointUninit) :
    loadEndPoint x u e = loadEndPoint x u' e := by
  unfold loadEndPoint
  cases hp : e.firstChildElement "PROXY_PORT" with
  | none => exact absurd hp h.proxyPort
  | some pPort =>
    have hport : loadProxyPort x u.proxyPort (some pPort) = loadProxyPort x u'.proxyPort (some pPort) := rfl
    rw [hport]
    cases loadProxyPort x u'.proxyPort (some pPort) with
    | error err => rfl
    | ok proxyPort =>
      cases hs : e.firstChildElement "SERVICES" with
      | none => rfl
      | some pServices =>
        have hread := fun a ha i j => loadService_given x (h.services pServices hs a ha) i j
        simp only [forEach_congr hread u.services u'.services]

/-- **A proxy section that gives every field** is stored the same way for any arbitrary values. -/
theorem loadProxy_given (x : TinyXml) {pRoot : XMLElement}
    (h : ∀ pEndPoint ∈ documentEndPoints pRoot, endPointGiven pEndPoint)
    (u u' : Uninit) (c : ProxyConfig) :
    loadProxyServerConfigurations x u pRoot c = loadProxyServerConfigurations x u' pRoot c := by
  have hcluster : ∀ pCluster ∈ clusterElements pRoot, ∀ v v', loadCluster x v pCluster = loadCluster x v' pCluster := by
    intro pCluster hc v v'
    unfold loadCluster
    rw [forEach_congr (fun a ha i j => loadEndPoint_given x (h a (List.mem_flatMap.2 ⟨pCluster, hc, ha⟩)) i j) v v']
  unfold loadProxyServerConfigurations
  rw [forEach_congr hcluster u.endPoints u'.endPoints]

theorem loadService_const {x : TinyXml} {u : ServiceUninit} {e : XMLElement} {s : Service}
    (h : loadService x u e = .ok s) : (e.firstChildElement "PORT" = none → s.port = u.port) ∧
      ((¬ ∃ t n, e.attribute "weight" = some t ∧ stoi t = .ok n) → s.weight = u.weight) := by
  have hweight : (¬ ∃ t n, e.attribute "weight" = some t ∧ stoi t = .ok n) →
      loadWeight u.weight (e.attribute "weight") = u.weight := by
    intro hnot
    unfold loadWeight
    cases ht : e.attribute "weight" with
    | none => rfl
    | some t =>
      cases hn : stoi t with
      | ok n => exact absurd ⟨t, n, ht, hn⟩ hnot
      | error err => simp only [hn]
  unfold loadService at h
  cases hp : e.firstChildElement "PORT" with
  | none =>
    simp only [hp, Except.ok.injEq] at h
    subst h
    exact ⟨fun _ => rfl, hweight⟩
  | some pPort =>
    cases hq : x.queryIntText pPort with
    | error err => simp only [hp, hq] at h; cases h
    | ok port =>
      simp only [hp, hq, Except.ok.injEq] at h
      subst h
      exact ⟨nofun, hweight⟩

/-- a service that is loaded alike from different values gives its fields -/
theorem loadService_distinguishes {x : TinyXml} {n m : Int} (hnm : n ≠ m) {e : XMLElement} {s s' : Service}
    (h : loadService x ⟨n, n⟩ e = .ok s) (h' : loadService x ⟨m, m⟩ e = .ok s') (hport : s.port = s'.port)
    (hweight : s.weight = s'.weight) : serviceGiven e := by
  obtain ⟨hp, hw⟩ := loadService_const h
  obtain ⟨hp', hw'⟩ := loadService_const h'
  refine ⟨fun hnone => hnm ?_, ?_⟩
  · rw [← show s.port = n from hp hnone, hport]
    exact hp' hnone
  · by_contra hnot
    refine hnm ?_
    rw [← show s.weight = n from hw hnot, hweight]
    exact hw' hnot

/-- every field of an endpoint starts with `n` -/
def EndPointUninit.const (n : Int) : EndPointUninit := ⟨n, fun _ => ⟨n, n⟩⟩

theorem loadEndPoint_parts {x : TinyXml} {u : EndPointUninit} {e : XMLElement} {r : RemoteEndPoint}
    (h : loadEndPoint x u e = .ok r) :
    loadProxyPort x u.proxyPort (e.firstChildElement "PROXY_PORT") = .ok r.proxyPort ∧
      ∃ pServices, e.firstChildElement "SERVICES" = some pServices ∧
        forEach (loadService x) u.services (pServices.siblings "SERVICE") = .ok r.services := by
  unfold loadEndPoint at h
  cases hp : loadProxyPort x u.proxyPort (e.firstChildElement "PROXY_PORT") with
  | error f => simp only [hp] at h; cases h
  | ok v =>
    cases hs : e.firstChildElement "SERVICES" with
    | none => simp only [hp, hs] at h; cases h
    | some pServices =>
      cases hl : forEach (loadService x) u.services (pServices.siblings "SERVICE") with
      | error f => simp only [hp, hs, hl] at h; cases h
      | ok services =>
        simp only [hp, hs, hl, Except.ok.injEq] at h
        subst h
        exact ⟨rfl, pServices, rfl, hl⟩

/-- an endpoint that is loaded alike from different values gives its port, and what its services give -/
theorem loadEndPoint_parts_given {x : TinyXml} {n m : Int} (hnm : n ≠ m) {e : XMLElement} {r r' : RemoteEndPoint}
    (h : loadEndPoint x (.const n) e = .ok r) (h' : loadEndPoint x (.const m) e = .ok r')
    (hport : r.proxyPort = r'.proxyPort) {R : Service → Service → Prop} {P : XMLElement → Prop}
    (hP : ∀ a s s', loadService x ⟨n, n⟩ a = .ok s → loadService x ⟨m, m⟩ a = .ok s' → R s s' → P a)
    (hservices : List.Forall₂ R r.services r'.services) :
    e.firstChildElement "PROXY_PORT" ≠ none ∧ ∀ pServices, e.firstChildElement "SERVICES" = some pServices →
      ∀ pService ∈ pServices.siblings "SERVICE", P pService := by
  obtain ⟨hp, pServices, hs, hl⟩ := loadEndPoint_parts h
  obtain ⟨hp', pServices', hs', hl'⟩ := loadEndPoint_parts h'
  obtain rfl : pServices = pServices' := Option.some.inj (hs.symm.trans hs')
  refine ⟨fun hnone => hnm ?_, fun el hel e' he' => ?_⟩
  · rw [hnone] at hp hp'
    rw [show n = r.proxyPort from Except.ok.inj hp, hport]
    exact (Except.ok.inj hp').symm
  · obtain rfl : pServices = el := Option.some.inj (hs.symm.trans hel)
    obtain ⟨i, hi⟩ := List.mem_iff_getElem?.1 he'
    obtain ⟨s, hsi, j, rfl, hload⟩ := forall₂_at (forEach_ok_of (P := (· = ⟨n, n⟩)) (fun _ => rfl) hl) hi
    obtain ⟨s', hsi', j', rfl, hload'⟩ := forall₂_at (forEach_ok_of (P := (· = ⟨m, m⟩)) (fun _ => rfl) hl') hi
    obtain ⟨s'', hs'', hR⟩ := forall₂_at hservices hsi
    obtain rfl : s' = s'' := Option.some.inj (hsi'.symm.trans hs'')
    exact hP e' s s' hload hload' hR

/-- **An endpoint that is loaded alike from different values gives every field.** -/
theorem loadEndPoint_distinguishes {x : TinyXml} {n m : Int} (hnm : n ≠ m) {e : XMLElement} {r r' : RemoteEndPoint}
    (h : loadEndPoint x (.const n) e = .ok r) (h' : loadEndPoint x (.const m) e = .ok r')
    (hport : r.proxyPort = r'.proxyPort)
    (hservices : List.Forall₂ (fun s s' : Service => s.port = s'.port ∧ s.weight = s'.weight) r.services r'.services) :
    endPointGiven e := by
  obtain ⟨hproxyPort, hgiven⟩ := loadEndPoint_parts_given hnm h h' hport
    (fun _ _ _ hs hs' hports => loadService_distinguishes hnm hs hs' hports.1 hports.2) hservices
  exact ⟨hproxyPort, hgiven⟩

/-- an accepted section whose fields all start with `n` -/
theorem loadProxy_const {x : TinyXml} {n : Int} {pRoot : XMLElement} {c c' : ProxyConfig}
    (h : loadProxyServerConfigurations x (.const n) pRoot c = (.success, c')) :
    List.Forall₂ (fun e r => loadEndPoint x (.const n) e = .ok r) (documentEndPoints pRoot) c'.endPoints := by
  have hcluster : ∀ (e : XMLElement) (cl : Cluster),
      (∃ u, u = (fun _ => EndPointUninit.const n) ∧ loadCluster x u e = .ok cl) →
      List.Forall₂ (fun e r => loadEndPoint x (.const n) e = .ok r) (endPointElements e) cl.endPoints := by
    rintro e cl ⟨u, rfl, h⟩
    unfold loadCluster at h
    cases hl : forEach (loadEndPoint x) (fun _ => EndPointUninit.const n) (endPointElements e) with
    | error f => rw [hl] at h; cases h
    | ok endPoints =>
      rw [hl] at h
      cases h
      exact (forEach_ok_of (P := (· = EndPointUninit.const n)) (fun _ => rfl) hl).imp fun _ _ ⟨_, hi, hb⟩ => hi ▸ hb
  unfold loadProxyServerConfigurations at h
  cases hc : pRoot.firstChildElement "CLUSTERS" with
  | none =>
    simp only [hc, Prod.mk.injEq, true_and] at h
    subst h
    simp [documentEndPoints, clusterElements, hc, ProxyConfig.endPoints]
  | some pClusters =>
    cases hl : forEach (loadCluster x) (Uninit.const n).endPoints (clusterElements pRoot) with
    | error err => simp only [hc, hl, Prod.mk.injEq] at h; exact absurd h.1 err.failed
    | ok clusters =>
      simp only [hc, hl, Prod.mk.injEq, true_and] at h
      subst h
      exact List.rel_flatMap (forEach_ok_of (P := (· = fun _ => EndPointUninit.const n)) (fun _ => rfl) hl) hcluster

/-- **A proxy section that is loaded alike from different values gives every field.** -/
theorem loadProxy_distinguishes {x : TinyXml} {n m : Int} (hnm : n ≠ m) {pRoot : XMLElement} {c c' stored : ProxyConfig}
    (h : loadProxyServerConfigurations x (.const n) pRoot c = (.success, stored))
    (h' : loadProxyServerConfigurations x (.const m) pRoot c' = (.success, stored)) :
    ∀ pEndPoint ∈ documentEndPoints pRoot, endPointGiven pEndPoint := by
  intro pEndPoint hmem
  obtain ⟨i, hi⟩ := List.mem_iff_getElem?.1 hmem
  obtain ⟨r, hr, hload⟩ := forall₂_at (loadProxy_const h) hi
  obtain ⟨r', hr', hload'⟩ := forall₂_at (loadProxy_const h') hi
  obtain rfl : r = r' := Option.some.inj (hr.symm.trans hr')
  exact loadEndPoint_distinguishes hnm hload hload' rfl (List.forall₂_same.2 fun _ _ => ⟨rfl, rfl⟩)

/-! ## The protocol-server section -/

theorem loadProtocolServer_given (x : TinyXml) {ps : XMLElement} (h : ps.firstChildElement "protocol-port" ≠ none)
    (n m : Int) : loadProtocolServer x n ps = loadProtocolServer x m ps := by
  unfold loadProtocolServer
  cases hp : ps.firstChildElement "protocol-port" with
  | none => exact absurd hp h
  | some portEl => rfl

/-- the port and name of a loaded server -/
theorem loadProtocolServer_port {x : TinyXml} {n : Int} {ps : XMLElement} {s : ProtocolServerConfig}
    (h : loadProtocolServer x n ps = .ok s) :
    loadProtocolPort n (ps.firstChildElement "protocol-port") = .ok s.protocol_port ∧
      s.protocol_name = (ps.attribute "protocol").getD "" := by
  unfold loadProtocolServer at h
  cases hp : loadProtocolPort n (ps.firstChildElement "protocol-port") with
  | error f => simp only [hp] at h; cases h
  | ok port =>
    cases hr : forEach (fun (_ : Unit) => loadRoute x ((ps.firstChildElement "auth").map (loadAuth x)).isSome)
        (fun _ => ()) (routeElements ps) with
    | error f => simp only [hp, hr] at h; cases h
    | ok routes =>
      simp only [hp, hr, Except.ok.injEq] at h
      subst h
      exact ⟨rfl, rfl⟩

/-- **A protocol section that gives every port** is read the same way for any arbitrary values. -/
theorem protocolServerLoop_given (x : TinyXml) {pRoot : XMLElement}
    (h : ∀ ps ∈ protocolServerElements pRoot, ps.firstChildElement "protocol-port" ≠ none) (u u' : Uninit) :
    protocolServerLoop x u pRoot = protocolServerLoop x u' pRoot :=
  forEach_congr (fun ps hps n m => loadProtocolServer_given x (h ps hps) n m) u.protocolPorts u'.protocolPorts

/-- **One that is read alike from different values gives every port.** -/
theorem protocolServerLoop_distinguishes {x : TinyXml} {n m : Int} (hnm : n ≠ m) {pRoot : XMLElement}
    {servers : List ProtocolServerConfig} (h : protocolServerLoop x (.const n) pRoot = .ok servers)
    (h' : protocolServerLoop x (.const m) pRoot = .ok servers) :
    ∀ ps ∈ protocolServerElements pRoot, ps.firstChildElement "protocol-port" ≠ none := by
  intro ps hps hnone
  obtain ⟨_, _, s, rfl, rfl, hload, hload'⟩ :=
    forEach_same (P := (· = n)) (Q := (· = m)) (fun _ => rfl) (fun _ => rfl) h h' ps hps
  have hport := (loadProtocolServer_port hload).1
  have hport' := (loadProtocolServer_port hload').1
  rw [hnone] at hport hport'
  exact hnm ((Except.ok.inj hport).trans (Except.ok.inj hport').symm)

/-! ## The API-gateway section -/

/-- neither its port field nor those of its uris keep their arbitrary values -/
structure gatewayPortsGiven (pEndPoint : XMLElement) : Prop where
  port : pEndPoint.firstChildElement "port" ≠ none
  uris : ∀ pServices, pEndPoint.firstChildElement "services" = some pServices →
    ∀ pService ∈ pServices.siblings "service", ∀ pUri ∈ pService.siblings "uri", pUri.firstChildElement "port" ≠ none

/-- a port, when the document gives it -/
theorem optionalPort_given {el : Option XMLElement} (h : el ≠ none) (n m : Int) :
    optionalPort n el = optionalPort m el := by
  cases el with
  | none => exact absurd rfl h
  | some e => rfl

theorem optionalPort_distinguishes {n m v : Int} (hnm : n ≠ m) {el : Option XMLElement} (h : optionalPort n el = .ok v)
    (h' : optionalPort m el = .ok v) : el ≠ none := by
  rintro rfl
  exact hnm ((Except.ok.inj h).trans (Except.ok.inj h').symm)

theorem loadGatewayService_given {pService : XMLElement}
    (h : ∀ pUri ∈ pService.siblings "uri", pUri.firstChildElement "port" ≠ none) (u u' : ℕ → Int) :
    loadGatewayService u pService = loadGatewayService u' pService := by
  unfold loadGatewayService
  rw [forEach_congr (fun pUri huri n m => ?_) u u']
  unfold loadUri
  rw [optionalPort_given (h pUri huri) n m]

theorem loadGatewayEndPoint_given {pEndPoint : XMLElement} (h : gatewayPortsGiven pEndPoint)
    (u u' : GatewayEndPointUninit) : loadGatewayEndPoint u pEndPoint = loadGatewayEndPoint u' pEndPoint := by
  unfold loadGatewayEndPoint
  rw [optionalPort_given h.port u.port u'.port]
  cases hs : pEndPoint.firstChildElement "services" with
  | none => rfl
  | some pServices =>
    have hread := fun pService hservice v v' => loadGatewayService_given (h.uris pServices hs pService hservice) v v'
    simp only [forEach_congr hread u.uris u'.uris]

/-- an end-point that is loaded alike from different values gives its ports -/
theorem loadGatewayEndPoint_distinguishes {n m : Int} (hnm : n ≠ m) {pEndPoint : XMLElement} {endpoint : ApiGatewayEndPoint}
    (h : loadGatewayEndPoint ⟨n, fun _ _ => n⟩ pEndPoint = .ok endpoint)
    (h' : loadGatewayEndPoint ⟨m, fun _ _ => m⟩ pEndPoint = .ok endpoint) : gatewayPortsGiven pEndPoint := by
  have hof := loadGatewayEndPoint_spec h
  have hof' := loadGatewayEndPoint_spec h'
  refine ⟨optionalPort_distinguishes hnm hof.port hof'.port, fun pServices hs pService hservice pUri huri => ?_⟩
  obtain ⟨el, hel, hservices⟩ := hof.services
  obtain ⟨el', hel', hservices'⟩ := hof'.services
  obtain rfl : el = pServices := Option.some.inj (hel.symm.trans hs)
  obtain rfl : el' = el := Option.some.inj (hel'.symm.trans hs)
  obtain ⟨_, _, service, rfl, rfl, hload, hload'⟩ := forEach_same (P := (· = fun _ => n)) (Q := (· = fun _ => m))
    (fun _ => rfl) (fun _ => rfl) hservices hservices' pService hservice
  obtain ⟨_, _, uri, rfl, rfl, hread, hread'⟩ := forEach_same (P := (· = n)) (Q := (· = m)) (fun _ => rfl)
    (fun _ => rfl) (loadGatewayService_spec hload).uris (loadGatewayService_spec hload').uris pUri huri
  exact optionalPort_distinguishes hnm (loadUri_spec hread).port (loadUri_spec hread').port

/-- **A gateway section that gives every port** is read the same way for any arbitrary values. -/
theorem gatewayLoop_given {pRoot : XMLElement} (h : ∀ pEndPoint ∈ gatewayElements pRoot, gatewayPortsGiven pEndPoint)
    (u u' : Uninit) : gatewayLoop u pRoot = gatewayLoop u' pRoot := by
  unfold gatewayElements at h
  unfold gatewayLoop
  cases hs : pRoot.firstChildElement "api-gateway-server-config" with
  | none => rfl
  | some el =>
    rw [hs] at h
    have hread := fun pEndPoint hmem v v' => loadGatewayEndPoint_given (h pEndPoint hmem) v v'
    simp only [forEach_congr hread u.gatewayEndPoints u'.gatewayEndPoints]

/-- **One that is read alike from different values gives every port.** -/
theorem gatewayLoop_distinguishes {n m : Int} (hnm : n ≠ m) {pRoot : XMLElement} {g : ApiGatewayServerConfig}
    (h : gatewayLoop (.const n) pRoot = .ok g) (h' : gatewayLoop (.const m) pRoot = .ok g) :
    ∀ pEndPoint ∈ gatewayElements pRoot, gatewayPortsGiven pEndPoint := by
  intro pEndPoint hmem
  obtain ⟨_, _, endpoint, rfl, rfl, hload, hload'⟩ :=
    forEach_same (P := (· = ⟨n, fun _ _ => n⟩)) (Q := (· = ⟨m, fun _ _ => m⟩)) (fun _ => rfl) (fun _ => rfl)
      (gatewayLoop_endpoints h) (gatewayLoop_endpoints h') pEndPoint hmem
  exact loadGatewayEndPoint_distinguishes hnm hload hload'

/-! ## A document -/

/-- **The document gives every int field** of a load. -/
structure AllGiven (pRoot : XMLElement) : Prop where
  proxy : ∀ pEndPoint ∈ documentEndPoints pRoot, endPointGiven pEndPoint
  protocol : ∀ ps ∈ protocolServerElements pRoot, ps.firstChildElement "protocol-port" ≠ none
  gateway : ∀ pEndPoint ∈ gatewayElements pRoot, gatewayPortsGiven pEndPoint

end Asabru.Config
