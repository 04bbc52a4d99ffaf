/-
The proxy section as a document: which endpoint makes the loader give up, and how the loaded records stand for the
elements they come from.

Results:
- `loadProxy_fault`: the loader's code and output by the first endpoint at fault (`endPointFault`), in document order;
- `loadProxy_document`: an accepted section is stored cluster by cluster, endpoint by endpoint and service by service,
  each record with the attributes and texts of its own element (`ClusterOf`, `EndPointOf`, `ServiceOf`). A port that the
  document does not give is any value.
-/
import Mathlib.Tactic
import Asabru.Config.ProxyLoader

namespace Asabru.Config

open Asabru.Control Asabru.Xml

/-- the END_POINT elements of the document, in document order across clusters -/
def documentEndPoints (pRoot : XMLElement) : List XMLElement := (clusterElements pRoot).flatMap endPointElements

/-! ## The first endpoint at fault -/

/-- a SERVICE whose PORT does not read as an integer -/
def serviceFault (x : TinyXml) (pService : XMLElement) : Option XMLFailure :=
  (pService.firstChildElement "PORT").bind fun pPort => exitOf (x.queryIntText pPort)

/-- a PROXY_PORT that does not read as an integer, or reads as one out of range -/
def proxyPortFault (x : TinyXml) (pEndPoint : XMLElement) : Option XMLFailure :=
  (pEndPoint.firstChildElement "PROXY_PORT").bind fun pPort =>
    match x.queryIntText pPort with
    | .error err => some err
    | .ok port => if 0 < port ∧ port ≤ 65535 then none else some parsingElement

/-- the first fault of the services, or that there is no place for any -/
def servicesFault (x : TinyXml) (pEndPoint : XMLElement) : Option XMLFailure :=
  match pEndPoint.firstChildElement "SERVICES" with
  | none => some parsingElement
  | some pServices => (pServices.siblings "SERVICE").findSome? (serviceFault x)

/-- PROXY_PORT is checked before SERVICES -/
def endPointFault (x : TinyXml) (pEndPoint : XMLElement) : Option XMLFailure :=
  (proxyPortFault x pEndPoint).or (servicesFault x pEndPoint)

theorem loadService_exit (x : TinyXml) (u : ServiceUninit) (e : XMLElement) :
    exitOf (loadService x u e) = serviceFault x e := by
  unfold loadService serviceFault
  cases e.firstChildElement "PORT" with
  | none => rfl
  | some p => cases hq : x.queryIntText p <;> simp [hq]

theorem loadProxyPort_exit (x : TinyXml) (n : Int) (e : XMLElement) :
    exitOf (loadProxyPort x n (e.firstChildElement "PROXY_PORT")) = proxyPortFault x e := by
  unfold loadProxyPort proxyPortFault
  cases e.firstChildElement "PROXY_PORT" with
  | none => rfl
  | some p =>
    cases hq : x.queryIntText p with
    | error f => simp [hq]
    | ok v =>
      by_cases hv : v ≤ 0 ∨ 65535 < v
      · have hout : ¬ (0 < v ∧ v ≤ 65535) := by omega
        simp [hq, hv, hout]
      · have hin : 0 < v ∧ v ≤ 65535 := by omega
        simp [hq, hv, hin]

theorem loadEndPoint_exit (x : TinyXml) (u : EndPointUninit) (e : XMLElement) :
    exitOf (loadEndPoint x u e) = endPointFault x e := by
  have hservices : ∀ p : XMLElement, exitOf (forEach (loadService x) u.services (p.siblings "SERVICE")) =
      (p.siblings "SERVICE").findSome? (serviceFault x) := fun p => forEach_exit (loadService_exit x) u.services _
  unfold loadEndPoint endPointFault
  rw [← loadProxyPort_exit x u.proxyPort e]
  cases loadProxyPort x u.proxyPort (e.firstChildElement "PROXY_PORT") with
  | error f => rfl
  | ok v =>
    unfold servicesFault
    cases e.firstChildElement "SERVICES" with
    | none => rfl
    | some pServices =>
      simp only [exitOf_ok, Option.none_or, ← hservices]
      cases forEach (loadService x) u.services (pServices.siblings "SERVICE") <;> rfl

theorem loadCluster_exit (x : TinyXml) (u : ℕ → EndPointUninit) (e : XMLElement) :
    exitOf (loadCluster x u e) = (endPointElements e).findSome? (endPointFault x) := by
  rw [← forEach_exit (loadEndPoint_exit x) u]
  unfold loadCluster
  cases forEach (loadEndPoint x) u (endPointElements e) <;> rfl

/-- an endpoint is accepted iff it is not at fault -/
theorem endPointFault_none {x : TinyXml} {e : XMLElement} : endPointFault x e = none ↔ endPointOk x e := by
  let u : EndPointUninit := ⟨0, fun _ => ⟨0, 0⟩⟩
  rw [← loadEndPoint_exit x u, ← loadEndPoint_isOk x u]
  cases loadEndPoint x u e <;> simp

theorem proxySectionOk_iff {x : TinyXml} {pRoot : XMLElement} :
    proxySectionOk x pRoot ↔ ∀ pEndPoint ∈ documentEndPoints pRoot, endPointOk x pEndPoint := by
  simp only [proxySectionOk, documentEndPoints, List.mem_flatMap]
  constructor
  · rintro h e ⟨c, hc, he⟩
    exact h c hc e he
  · intro h c hc e he
    exact h e ⟨c, hc, he⟩

/-- **The first endpoint at fault decides** the code that the loader returns; the output is kept. -/
theorem loadProxy_fault {x : TinyXml} {pRoot : XMLElement} {f : XMLFailure}
    (h : (documentEndPoints pRoot).findSome? (endPointFault x) = some f) (u : Uninit) (c : ProxyConfig) :
    loadProxyServerConfigurations x u pRoot c = (f.code, c) := by
  have hloop : exitOf (forEach (loadCluster x) u.endPoints (clusterElements pRoot)) = some f := by
    rw [forEach_exit (loadCluster_exit x), ← findSome_flatMap]
    exact h
  unfold loadProxyServerConfigurations
  cases hc : pRoot.firstChildElement "CLUSTERS" with
  | none => simp [clusterElements, hc, forEach] at hloop
  | some pClusters =>
    cases hl : forEach (loadCluster x) u.endPoints (clusterElements pRoot) with
    | ok clusters => rw [hl] at hloop; cases hloop
    | error err =>
      rw [hl] at hloop
      obtain rfl := Option.some.inj hloop
      rfl

/-! ## Records and their elements -/

/-- the record of a SERVICE element -/
structure ServiceOf (x : TinyXml) (pService : XMLElement) (service : Service) : Prop where
  name : service.name = (pService.attribute "name").getD ""
  host : service.host = safeText (pService.firstChildElement "HOST")
  source_hostname : service.source_hostname = safeText (pService.firstChildElement "SOURCE_HOSTNAME")
  port : ∀ pPort, pService.firstChildElement "PORT" = some pPort → x.queryIntText pPort = .ok service.port
  weight : ∀ t n, pService.attribute "weight" = some t → stoi t = .ok n → service.weight = n

/-- the record of an END_POINT element -/
structure EndPointOf (x : TinyXml) (pEndPoint : XMLElement) (endPoint : RemoteEndPoint) : Prop where
  endPointName : endPoint.endPointName = (pEndPoint.attribute "name").getD ""
  readWrite : endPoint.readWrite = decide (safeText (pEndPoint.firstChildElement "READ_WRITE") = "yes")
  handler : endPoint.handler = safeText (pEndPoint.firstChildElement "HANDLER")
  pipeline : endPoint.pipeline = safeText (pEndPoint.firstChildElement "PIPELINE")
  loadBalancerStrategy : endPoint.loadBalancerStrategy = safeText (pEndPoint.firstChildElement "loadbalancer-strategy")
  proxyPort : ∀ pPort, pEndPoint.firstChildElement "PROXY_PORT" = some pPort →
    x.queryIntText pPort = .ok endPoint.proxyPort ∧ 0 < endPoint.proxyPort ∧ endPoint.proxyPort ≤ 65535
  services : ∃ pServices, pEndPoint.firstChildElement "SERVICES" = some pServices ∧
    List.Forall₂ (ServiceOf x) (pServices.siblings "SERVICE") endPoint.services

/-- the record of a CLUSTER element -/
structure ClusterOf (x : TinyXml) (pCluster : XMLElement) (cluster : Cluster) : Prop where
  clusterName : cluster.clusterName = (pCluster.attribute "name").getD ""
  endPoints : List.Forall₂ (EndPointOf x) (endPointElements pCluster) cluster.endPoints

theorem loadService_spec {x : TinyXml} {u : ServiceUninit} {e : XMLElement} {s : Service}
    (h : loadService x u e = .ok s) : ServiceOf x e s := by
  have hweight : ∀ t n, e.attribute "weight" = some t → stoi t = .ok n →
      loadWeight u.weight (e.attribute "weight") = n := by
    intro t n ht hn
    rw [ht]
    simp only [loadWeight, hn]
  unfold loadService at h
  cases hp : e.firstChildElement "PORT" with
  | none =>
    simp only [hp, Except.ok.injEq] at h
    subst h
    exact ⟨rfl, rfl, rfl, fun p hport => (nomatch hp.symm.trans hport), hweight⟩
  | some p =>
    cases hq : x.queryIntText p with
    | error f => simp only [hp, hq] at h; cases h
    | ok v =>
      simp only [hp, hq, Except.ok.injEq] at h
      subst h
      refine ⟨rfl, rfl, rfl, fun p' hport => ?_, hweight⟩
      obtain rfl := Option.some.inj (hp.symm.trans hport)
      exact hq

theorem loadProxyPort_spec {x : TinyXml} {n v : Int} {el : Option XMLElement} (h : loadProxyPort x n el = .ok v)
    {p : XMLElement} (hp : el = some p) : x.queryIntText p = .ok v ∧ 0 < v ∧ v ≤ 65535 := by
  rw [hp] at h
  unfold loadProxyPort at h
  cases hq : x.queryIntText p with
  | error f => simp only [hq] at h; cases h
  | ok m =>
    simp only [hq] at h
    split_ifs at h with hrange
    obtain rfl := Except.ok.inj h
    exact ⟨rfl, by omega, by omega⟩

theorem loadEndPoint_spec {x : TinyXml} {u : EndPointUninit} {e : XMLElement} {r : RemoteEndPoint}
    (h : loadEndPoint x u e = .ok r) : EndPointOf x e r := by
  unfold loadEndPoint at h
  cases hp : loadProxyPort x u.proxyPort (e.firstChildElement "PROXY_PORT") with
  | error f => simp only [hp] at h; cases h
  | ok v =>
    cases hs : e.firstChildElement "SERVICES" with
    | none => simp only [hp, hs] at h; cases h
    | some pServices =>
      cases hl : forEach (loadService x) u.services (pServices.siblings "SERVICE") with
      | error f => simp only [hp, hs, hl] at h; cases h
      | ok services =>
        simp only [hp, hs, hl, Except.ok.injEq] at h
        subst h
        exact ⟨rfl, rfl, rfl, rfl, rfl, fun p hport => loadProxyPort_spec hp hport, pServices, hs,
          (forEach_ok hl).imp fun _ _ hread => loadService_spec hread.choose_spec⟩

theorem loadCluster_spec {x : TinyXml} {u : ℕ → EndPointUninit} {e : XMLElement} {c : Cluster}
    (h : loadCluster x u e = .ok c) : ClusterOf x e c := by
  unfold loadCluster at h
  cases hl : forEach (loadEndPoint x) u (endPointElements e) with
  | error f => simp only [hl] at h; cases h
  | ok endPoints =>
    simp only [hl, Except.ok.injEq] at h
    subst h
    exact ⟨rfl, (forEach_ok hl).imp fun _ _ hread => loadEndPoint_spec hread.choose_spec⟩

/-- **From the document to the stored configuration.** -/
theorem loadProxy_document {x : TinyXml} {u : Uninit} {pRoot : XMLElement} {c c' : ProxyConfig}
    (h : loadProxyServerConfigurations x u pRoot c = (.success, c')) :
    List.Forall₂ (ClusterOf x) (clusterElements pRoot) c'.clusters := by
  unfold loadProxyServerConfigurations at h
  cases hc : pRoot.firstChildElement "CLUSTERS" with
  | none =>
    simp only [hc, Prod.mk.injEq, true_and] at h
    subst h
    simp [clusterElements, hc]
  | some pClusters =>
    cases hl : forEach (loadCluster x) u.endPoints (clusterElements pRoot) with
    | error err => simp only [hc, hl, Prod.mk.injEq] at h; exact absurd h.1 err.failed
    | ok clusters =>
      simp only [hc, hl, Prod.mk.injEq, true_and] at h
      subst h
      exact (forEach_ok hl).imp fun _ _ hread => loadCluster_spec hread.choose_spec

/-- the endpoints stand for the END_POINT elements, in document order across clusters -/
theorem endPoints_document {x : TinyXml} {pRoot : XMLElement} {c : ProxyConfig}
    (h : List.Forall₂ (ClusterOf x) (clusterElements pRoot) c.clusters) :
    List.Forall₂ (EndPointOf x) (documentEndPoints pRoot) c.endPoints :=
  List.rel_flatMap h fun _ _ hc => hc.endPoints

end Asabru.Config
