/-
`ConfigParser::LoadProxyServerConfigurations`: the loader of the proxy section.

Each while loop over siblings is a `forEach` over the elements its cursor visits; an early `return err` is an exit of the
loop. The output is assigned once, after the loops.

Results:
- `loadProxy_code`: the section is accepted iff every endpoint's ports read as integers, its PROXY_PORT is in range and
  its SERVICES element exists (`proxySectionOk`, a condition on the document alone);
- `loadProxy_rejected`, `loadProxy_accepted`: a rejected section leaves the output as it was, and what an accepted one
  stores does not depend on what was stored before.
-/
import Mathlib.Tactic
import Asabru.Config.Xml
import Asabru.Config.Types

namespace Asabru.Config

open Asabru.Control Asabru.Xml

/-- the failure the loaders report themselves: `XML_ERROR_PARSING_ELEMENT` -/
def parsingElement : XMLFailure := ⟨.errorParsingElement, by decide⟩

/-- the weight: a rejected attribute is logged and leaves the field as it was -/
def loadWeight (weight : Int) (weightAttr : Option String) : Int :=
  match weightAttr with
  | none => weight
  | some w =>
    match stoi w with
    | .ok v => v
    | .error _ => weight

/-- body of the SERVICE loop -/
def loadService (x : TinyXml) (u : ServiceUninit) (pService : XMLElement) : Except XMLFailure Service :=
  let service : Service :=
    { port := u.port
      weight := loadWeight u.weight (pService.attribute "weight")
      name := (pService.attribute "name").getD ""
      host := safeText (pService.firstChildElement "HOST")
      source_hostname := safeText (pService.firstChildElement "SOURCE_HOSTNAME") }
  match pService.firstChildElement "PORT" with
  | none => .ok service
  | some pPort =>
    match x.queryIntText pPort with
    | .error err => .error err
    | .ok port => .ok { service with port := port }

/-- the PROXY_PORT of an endpoint; without the element the field keeps what it held -/
def loadProxyPort (x : TinyXml) (proxyPort : Int) (pProxyPort : Option XMLElement) : Except XMLFailure Int :=
  match pProxyPort with
  | none => .ok proxyPort
  | some pPort =>
    match x.queryIntText pPort with
    | .error err => .error err
    | .ok port => if port ≤ 0 ∨ 65535 < port then .error parsingElement else .ok port

/-- body of the END_POINT loop: the port is checked before SERVICES -/
def loadEndPoint (x : TinyXml) (u : EndPointUninit) (pEndPoint : XMLElement) : Except XMLFailure RemoteEndPoint :=
  match loadProxyPort x u.proxyPort (pEndPoint.firstChildElement "PROXY_PORT") with
  | .error err => .error err
  | .ok proxyPort =>
    match pEndPoint.firstChildElement "SERVICES" with
    | none => .error parsingElement
    | some pServices =>
      match forEach (loadService x) u.services (pServices.siblings "SERVICE") with
      | .error err => .error err
      | .ok services => .ok
        { endPointName := (pEndPoint.attribute "name").getD ""
          proxyPort := proxyPort
          readWrite := safeText (pEndPoint.firstChildElement "READ_WRITE") = "yes"
          services := services
          handler := safeText (pEndPoint.firstChildElement "HANDLER")
          pipeline := safeText (pEndPoint.firstChildElement "PIPELINE")
          loadBalancerStrategy := safeText (pEndPoint.firstChildElement "loadbalancer-strategy") }

/-- the END_POINT elements of a CLUSTER: those of its first END_POINTS, none without one -/
def endPointElements (pCluster : XMLElement) : List XMLElement :=
  match pCluster.firstChildElement "END_POINTS" with
  | none => []
  | some pEndPoints => pEndPoints.siblings "END_POINT"

/-- body of the CLUSTER loop -/
def loadCluster (x : TinyXml) (u : ℕ → EndPointUninit) (pCluster : XMLElement) : Except XMLFailure Cluster :=
  match forEach (loadEndPoint x) u (endPointElements pCluster) with
  | .error err => .error err
  | .ok endPoints => .ok { endPoints := endPoints, clusterName := (pCluster.attribute "name").getD "" }

/-- the CLUSTER elements of a document root: those of its first CLUSTERS, none without one -/
def clusterElements (pRoot : XMLElement) : List XMLElement :=
  match pRoot.firstChildElement "CLUSTERS" with
  | none => []
  | some pClusters => pClusters.siblings "CLUSTER"

/-- returns the code and the output: without a CLUSTERS element the empty configuration is stored -/
def loadProxyServerConfigurations (x : TinyXml) (u : Uninit) (pRoot : XMLElement) (m_ProxyConfig : ProxyConfig) :
    XMLError × ProxyConfig :=
  match pRoot.firstChildElement "CLUSTERS" with
  | none => (.success, ⟨[]⟩)
  | some _ =>
    match forEach (loadCluster x) u.endPoints (clusterElements pRoot) with
    | .error err => (err.code, m_ProxyConfig)
    | .ok clusters => (.success, ⟨clusters⟩)

/-! ## Which documents are accepted -/

def serviceOk (x : TinyXml) (pService : XMLElement) : Prop :=
  ∀ pPort, pService.firstChildElement "PORT" = some pPort → ∃ n, x.queryIntText pPort = .ok n

def proxyPortOk (x : TinyXml) (pEndPoint : XMLElement) : Prop :=
  ∀ pPort, pEndPoint.firstChildElement "PROXY_PORT" = some pPort →
    ∃ n, x.queryIntText pPort = .ok n ∧ 0 < n ∧ n ≤ 65535

def endPointOk (x : TinyXml) (pEndPoint : XMLElement) : Prop :=
  proxyPortOk x pEndPoint ∧
  ∃ pServices, pEndPoint.firstChildElement "SERVICES" = some pServices ∧
    ∀ pService ∈ pServices.siblings "SERVICE", serviceOk x pService

/-- the proxy section of the document is well formed -/
def proxySectionOk (x : TinyXml) (pRoot : XMLElement) : Prop :=
  ∀ pCluster ∈ clusterElements pRoot, ∀ pEndPoint ∈ endPointElements pCluster, endPointOk x pEndPoint

theorem loadService_isOk (x : TinyXml) (u : ServiceUninit) (e : XMLElement) :
    (∃ s, loadService x u e = .ok s) ↔ serviceOk x e := by
  unfold loadService serviceOk
  cases e.firstChildElement "PORT" with
  | none => simp
  | some p => cases hq : x.queryIntText p <;> simp [hq]

theorem loadProxyPort_isOk (x : TinyXml) (n : Int) (e : XMLElement) :
    (∃ p, loadProxyPort x n (e.firstChildElement "PROXY_PORT") = .ok p) ↔ proxyPortOk x e := by
  unfold loadProxyPort proxyPortOk
  cases e.firstChildElement "PROXY_PORT" with
  | none => simp
  | some p =>
    cases hq : x.queryIntText p with
    | error f => simp [hq]
    | ok v =>
      by_cases hv : v ≤ 0 ∨ 65535 < v
      · simp [hq, hv]; omega
      · simp [hq, hv]; omega

theorem loadEndPoint_isOk (x : TinyXml) (u : EndPointUninit) (e : XMLElement) :
    (∃ p, loadEndPoint x u e = .ok p) ↔ endPointOk x e := by
  have hport := loadProxyPort_isOk x u.proxyPort e
  unfold loadEndPoint endPointOk
  rw [← hport]
  cases loadProxyPort x u.proxyPort (e.firstChildElement "PROXY_PORT") with
  | error f => simp
  | ok port =>
    cases e.firstChildElement "SERVICES" with
    | none => simp
    | some pServices =>
      have hsvc := forEach_isOk (fun i a => loadService_isOk x i a) u.services (pServices.siblings "SERVICE")
      simp only [Option.some.injEq, exists_eq_left', Except.ok.injEq, exists_eq', true_and, ← hsvc]
      cases forEach (loadService x) u.services (pServices.siblings "SERVICE") <;> simp

theorem loadCluster_isOk (x : TinyXml) (u : ℕ → EndPointUninit) (e : XMLElement) :
    (∃ c, loadCluster x u e = .ok c) ↔ ∀ pEndPoint ∈ endPointElements e, endPointOk x pEndPoint := by
  rw [← forEach_isOk (fun i a => loadEndPoint_isOk x i a) u (endPointElements e)]
  unfold loadCluster
  cases forEach (loadEndPoint x) u (endPointElements e) <;> simp

/-- **Acceptance of the proxy section** is a condition on the document alone. -/
theorem loadProxy_code (x : TinyXml) (u : Uninit) (pRoot : XMLElement) (c : ProxyConfig) :
    (loadProxyServerConfigurations x u pRoot c).1 = .success ↔ proxySectionOk x pRoot := by
  have hloop := forEach_isOk (fun i a => loadCluster_isOk x i a) u.endPoints (clusterElements pRoot)
  unfold loadProxyServerConfigurations
  cases hc : pRoot.firstChildElement "CLUSTERS" with
  | none => simp [proxySectionOk, clusterElements, hc]
  | some pClusters =>
    unfold proxySectionOk
    rw [← hloop]
    cases forEach (loadCluster x) u.endPoints (clusterElements pRoot) with
    | error err => simp [err.failed]
    | ok clusters => simp

/-- a rejected section leaves the output as it was -/
theorem loadProxy_rejected {x : TinyXml} {u : Uninit} {pRoot : XMLElement} {c : ProxyConfig}
    (h : ¬ proxySectionOk x pRoot) : (loadProxyServerConfigurations x u pRoot c).2 = c := by
  rw [← loadProxy_code x u pRoot c] at h
  unfold loadProxyServerConfigurations at h ⊢
  split
  · simp_all
  · split <;> simp_all

/-- what an accepted section stores does not depend on what was stored before -/
theorem loadProxy_accepted {x : TinyXml} {u : Uninit} {pRoot : XMLElement} (h : proxySectionOk x pRoot)
    (c c' : ProxyConfig) :
    (loadProxyServerConfigurations x u pRoot c).2 = (loadProxyServerConfigurations x u pRoot c').2 := by
  rw [← loadProxy_code x u pRoot c] at h
  unfold loadProxyServerConfigurations at h ⊢
  cases hc : pRoot.firstChildElement "CLUSTERS" with
  | none => rfl
  | some pClusters =>
    cases hl : forEach (loadCluster x) u.endPoints (clusterElements pRoot) with
    | ok clusters => rfl
    | error err => simp only [hc, hl] at h; exact absurd h err.failed

end Asabru.Config
