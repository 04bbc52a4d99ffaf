/-
Edits of a configuration document, and the stored configuration as a representation of a document.

What a service update is for, on the document: `add` appends a SERVICE element to the first END_POINT with a name, in
document order, and `delete` removes every SERVICE of that END_POINT with a name. Nothing here is read off the code's
update: the document is the tree that the loader reads.

Results:
- `clusterElements_edit`, `endPointElements_edit`, `siblings_add`, `siblings_delete`: what the loader visits in an edited
  document;
- `Represents.ok`, `represents_load`: a configuration that stands for a document accepts it, and a loaded one does;
- `Represents.unweighted`: two configurations that stand for one document differ in weights only, if it gives the ports
  (`PortsGiven`).
-/
import Mathlib.Tactic
import Asabru.Core.FirstEdit
import Asabru.Config.Indeterminate
import Asabru.Config.ProxyDocument

namespace Asabru.Xml

open Asabru.FirstEdit

/-- the element with its first child named `n` that is selected edited -/
def XMLElement.editChild (e : XMLElement) (n : String) (sel : XMLElement → Bool) (f : XMLElement → XMLElement) :
    XMLElement :=
  { e with
    children := editFirst (fun child => match child with | .element c => c.name = n && sel c | _ => false)
      (fun child => match child with | .element c => .element (f c) | other => other) e.children }

theorem editChild_name (e : XMLElement) (n : String) (sel : XMLElement → Bool) (f : XMLElement → XMLElement) :
    (e.editChild n sel f).name = e.name := rfl

theorem elementsOf_editChild (e : XMLElement) (n : String) (sel : XMLElement → Bool) (f : XMLElement → XMLElement) :
    elementsOf (e.editChild n sel f).children = editFirst (fun c => c.name = n && sel c) f (elementsOf e.children) :=
  filterMap_editFirst
    (fun a b hab => by
      cases a with
      | element c => cases hab; exact ⟨rfl, fun _ => rfl⟩
      | text t => cases hab
      | comment t => cases hab)
    (fun a ha => by
      cases a with
      | element c => cases ha
      | text t => rfl
      | comment t => rfl)
    e.children

section EditChild

variable {n : String} {sel : XMLElement → Bool} {f : XMLElement → XMLElement}

theorem siblings_editChild (hf : ∀ c, (f c).name = c.name) (e : XMLElement) :
    (e.editChild n sel f).siblings n = editFirst sel f (e.siblings n) := by
  unfold XMLElement.siblings
  rw [elementsOf_editChild, filter_editFirst]
  · exact editFirst_congr fun a ha => by simp [(List.mem_filter.1 ha).2]
  · intro a ha
    have hname : a.name = n := by simp only [Bool.and_eq_true, decide_eq_true_eq] at ha; exact ha.1
    simp [hf, hname]

theorem firstChildElement_editChild (hf : ∀ c, (f c).name = c.name) (e : XMLElement) :
    (e.editChild n (fun _ => true) f).firstChildElement n = (e.firstChildElement n).map f := by
  unfold XMLElement.firstChildElement
  rw [elementsOf_editChild]
  simp only [Bool.and_true]
  exact find?_editFirst (fun a ha => by simpa [hf] using ha) _

theorem firstChildElement_editChild_other (hf : ∀ c, (f c).name = c.name) (e : XMLElement) {m : String} (hm : m ≠ n) :
    (e.editChild n sel f).firstChildElement m = e.firstChildElement m := by
  unfold XMLElement.firstChildElement
  rw [elementsOf_editChild]
  refine find?_editFirst_other (fun a ha => ?_) _
  have hname : a.name = n := by simp only [Bool.and_eq_true, decide_eq_true_eq] at ha; exact ha.1
  simp [hf, hname, hm.symm]

end EditChild

end Asabru.Xml

namespace Asabru.Config

open Asabru.Control Asabru.Xml Asabru.FirstEdit

/-! ## Edits -/

/-- an element's name attribute, empty without one -/
def nameOf (e : XMLElement) : String := (e.attribute "name").getD ""

inductive ServiceEdit where
  | add (pService : XMLElement)
  | delete (name : String)

structure DocumentEdit where
  endPoint : String
  edit : ServiceEdit

/-- a SERVICE child with the name -/
def isServiceNamed (name : String) : XMLChild XMLElement → Bool
  | .element c => c.name = "SERVICE" && nameOf c = name
  | _ => false

/-- the edit of a SERVICES element -/
def ServiceEdit.apply (edit : ServiceEdit) (pServices : XMLElement) : XMLElement :=
  { pServices with
    children := match edit with
      | .add pService => pServices.children ++ [.element pService]
      | .delete name => pServices.children.filter fun child => !isServiceNamed name child }

theorem ServiceEdit.apply_name (edit : ServiceEdit) (pServices : XMLElement) :
    (edit.apply pServices).name = pServices.name := rfl

/-- the edit of an END_POINT -/
def ServiceEdit.endPoint (edit : ServiceEdit) (pEndPoint : XMLElement) : XMLElement :=
  pEndPoint.editChild "SERVICES" (fun _ => true) edit.apply

/-- the edit of a CLUSTER: of its first END_POINT with the name -/
def DocumentEdit.cluster (d : DocumentEdit) (pCluster : XMLElement) : XMLElement :=
  pCluster.editChild "END_POINTS" (fun _ => true) fun pEndPoints =>
    pEndPoints.editChild "END_POINT" (fun pEndPoint => nameOf pEndPoint = d.endPoint) d.edit.endPoint

/-- the edit of a document root: of the first CLUSTER that has an END_POINT with the name -/
def DocumentEdit.root (d : DocumentEdit) (pRoot : XMLElement) : XMLElement :=
  pRoot.editChild "CLUSTERS" (fun _ => true) fun pClusters =>
    pClusters.editChild "CLUSTER" (fun pCluster => (endPointElements pCluster).any fun e => nameOf e = d.endPoint) d.cluster

/-- edits one after the other -/
def editDocument (edits : List DocumentEdit) (pRoot : XMLElement) : XMLElement :=
  edits.foldl (fun pRoot d => d.root pRoot) pRoot

/-! ## What the loader visits -/

theorem clusterElements_edit (d : DocumentEdit) (pRoot : XMLElement) : clusterElements (d.root pRoot) =
    editFirst (fun pCluster => (endPointElements pCluster).any fun e => nameOf e = d.endPoint) d.cluster
      (clusterElements pRoot) := by
  unfold clusterElements DocumentEdit.root
  rw [firstChildElement_editChild fun c => editChild_name c ..]
  cases pRoot.firstChildElement "CLUSTERS" with
  | none => rfl
  | some pClusters => exact siblings_editChild (fun c => editChild_name c ..) pClusters

theorem endPointElements_edit (d : DocumentEdit) (pCluster : XMLElement) : endPointElements (d.cluster pCluster) =
    editFirst (fun pEndPoint => nameOf pEndPoint = d.endPoint) d.edit.endPoint (endPointElements pCluster) := by
  unfold endPointElements DocumentEdit.cluster
  rw [firstChildElement_editChild fun c => editChild_name c ..]
  cases pCluster.firstChildElement "END_POINTS" with
  | none => rfl
  | some pEndPoints => exact siblings_editChild (fun c => editChild_name c ..) pEndPoints

theorem services_edit (edit : ServiceEdit) (pEndPoint : XMLElement) :
    (edit.endPoint pEndPoint).firstChildElement "SERVICES" = (pEndPoint.firstChildElement "SERVICES").map edit.apply :=
  firstChildElement_editChild edit.apply_name pEndPoint

/-- an edit of an END_POINT leaves its other elements -/
theorem others_edit (edit : ServiceEdit) (pEndPoint : XMLElement) {n : String} (hn : n ≠ "SERVICES") :
    (edit.endPoint pEndPoint).firstChildElement n = pEndPoint.firstChildElement n :=
  firstChildElement_editChild_other edit.apply_name pEndPoint hn

theorem siblings_add {pService : XMLElement} (h : pService.name = "SERVICE") (pServices : XMLElement) :
    ((ServiceEdit.add pService).apply pServices).siblings "SERVICE" = pServices.siblings "SERVICE" ++ [pService] := by
  simp [XMLElement.siblings, elementsOf, ServiceEdit.apply, h]

theorem siblings_delete (name : String) (pServices : XMLElement) :
    ((ServiceEdit.delete name).apply pServices).siblings "SERVICE" =
      (pServices.siblings "SERVICE").filter fun c => nameOf c ≠ name := by
  unfold XMLElement.siblings elementsOf ServiceEdit.apply
  induction pServices.children with
  | nil => rfl
  | cons child children ih =>
    cases child with
    | text t => simpa [isServiceNamed] using ih
    | comment t => simpa [isServiceNamed] using ih
    | element c =>
      by_cases hs : c.name = "SERVICE" <;> by_cases hn : nameOf c = name <;> simpa [isServiceNamed, hs, hn] using ih

/-! ## Stored configurations as documents -/

/-- the configuration stands for the document's proxy section -/
def Represents (x : TinyXml) (pRoot : XMLElement) (c : ProxyConfig) : Prop :=
  List.Forall₂ (ClusterOf x) (clusterElements pRoot) c.clusters

/-- a loaded configuration stands for its document -/
theorem represents_load {x : TinyXml} {pRoot : XMLElement} (hok : proxySectionOk x pRoot) (u : Uninit) (c : ProxyConfig) :
    Represents x pRoot (loadProxyServerConfigurations x u pRoot c).2 :=
  loadProxy_document (u := u) (c := c) (Prod.ext ((loadProxy_code x u pRoot c).2 hok) rfl)

/-- only an accepted document is stood for -/
theorem Represents.ok {x : TinyXml} {pRoot : XMLElement} {c : ProxyConfig} (h : Represents x pRoot c) :
    proxySectionOk x pRoot := by
  rw [proxySectionOk_iff]
  intro pEndPoint he
  obtain ⟨r, -, hr⟩ := forall₂_right (endPoints_document h).flip he
  refine ⟨fun pPort hp => ⟨r.proxyPort, hr.proxyPort pPort hp⟩, ?_⟩
  obtain ⟨pServices, hs, hservices⟩ := hr.services
  refine ⟨pServices, hs, fun pService hmem pPort hp => ?_⟩
  obtain ⟨s, -, hof⟩ := forall₂_right hservices.flip hmem
  exact ⟨s.port, hof.port pPort hp⟩

/-! ## What a document determines -/

/-- a record without its weight -/
def Service.unweighted (s : Service) : Service := { s with weight := 0 }

def RemoteEndPoint.unweighted (e : RemoteEndPoint) : RemoteEndPoint :=
  { e with services := e.services.map Service.unweighted }

def Cluster.unweighted (c : Cluster) : Cluster := { c with endPoints := c.endPoints.map RemoteEndPoint.unweighted }

/-- a stored configuration but for the weights of its services -/
def ProxyConfig.unweighted (c : ProxyConfig) : ProxyConfig := ⟨c.clusters.map Cluster.unweighted⟩

/-- the endpoint and its services give their ports -/
structure endPointPortsGiven (pEndPoint : XMLElement) : Prop where
  proxyPort : pEndPoint.firstChildElement "PROXY_PORT" ≠ none
  services : ∀ pServices, pEndPoint.firstChildElement "SERVICES" = some pServices →
    ∀ pService ∈ pServices.siblings "SERVICE", pService.firstChildElement "PORT" ≠ none

def PortsGiven (pRoot : XMLElement) : Prop := ∀ pEndPoint ∈ documentEndPoints pRoot, endPointPortsGiven pEndPoint

theorem ServiceOf.unweighted {x : TinyXml} {e : XMLElement} {s s' : Service} (h : ServiceOf x e s) (h' : ServiceOf x e s')
    (hport : e.firstChildElement "PORT" ≠ none) : s.unweighted = s'.unweighted := by
  obtain ⟨pPort, hp⟩ := Option.ne_none_iff_exists'.1 hport
  have hports : s.port = s'.port := Except.ok.inj ((h.port pPort hp).symm.trans (h'.port pPort hp))
  unfold Service.unweighted
  rw [hports, h.name, h'.name, h.host, h'.host, h.source_hostname, h'.source_hostname]

theorem EndPointOf.unweighted {x : TinyXml} {e : XMLElement} {r r' : RemoteEndPoint} (h : EndPointOf x e r)
    (h' : EndPointOf x e r') (hgiven : endPointPortsGiven e) : r.unweighted = r'.unweighted := by
  obtain ⟨pPort, hp⟩ := Option.ne_none_iff_exists'.1 hgiven.proxyPort
  have hports : r.proxyPort = r'.proxyPort := Except.ok.inj ((h.proxyPort pPort hp).1.symm.trans (h'.proxyPort pPort hp).1)
  obtain ⟨pServices, hs, hservices⟩ := h.services
  obtain ⟨pServices', hs', hservices'⟩ := h'.services
  obtain rfl : pServices = pServices' := Option.some.inj (hs.symm.trans hs')
  have hsame : r.services.map Service.unweighted = r'.services.map Service.unweighted :=
    map_eq_iff_forall₂.2 (forall₂_meet hservices hservices' fun pService hmem _ _ hof hof' =>
      hof.unweighted hof' (hgiven.services pServices hs pService hmem))
  unfold RemoteEndPoint.unweighted
  rw [hsame, hports, h.endPointName, h'.endPointName, h.readWrite, h'.readWrite, h.handler, h'.handler, h.pipeline,
    h'.pipeline, h.loadBalancerStrategy, h'.loadBalancerStrategy]

/-- **A document that gives its ports determines the configuration** but for weights. -/
theorem Represents.unweighted {x : TinyXml} {pRoot : XMLElement} {c c' : ProxyConfig} (h : Represents x pRoot c)
    (h' : Represents x pRoot c') (hgiven : PortsGiven pRoot) : c.unweighted = c'.unweighted := by
  unfold ProxyConfig.unweighted
  rw [ProxyConfig.mk.injEq, map_eq_iff_forall₂]
  refine forall₂_meet h h' fun pCluster hc cl cl' hof hof' => ?_
  have hendPoints : cl.endPoints.map RemoteEndPoint.unweighted = cl'.endPoints.map RemoteEndPoint.unweighted :=
    map_eq_iff_forall₂.2 (forall₂_meet hof.endPoints hof'.endPoints fun pEndPoint he _ _ hr hr' =>
      hr.unweighted hr' (hgiven pEndPoint (List.mem_flatMap.2 ⟨pCluster, hc, he⟩)))
  unfold Cluster.unweighted
  rw [hendPoints, hof.clusterName, hof'.clusterName]

theorem unweighted_endPoints {c c' : ProxyConfig} (h : c.unweighted = c'.unweighted) :
    List.Forall₂ (fun r r' => r.unweighted = r'.unweighted) c.endPoints c'.endPoints := by
  unfold ProxyConfig.unweighted at h
  rw [ProxyConfig.mk.injEq, map_eq_iff_forall₂] at h
  exact List.rel_flatMap h fun _ _ hc => map_eq_iff_forall₂.1 (congrArg Cluster.endPoints hc)

/-- **A document that is loaded alike from different values gives its ports.** -/
theorem portsGiven_of_loads {x : TinyXml} {pRoot : XMLElement} (hok : proxySectionOk x pRoot) {c : ProxyConfig}
    (h : (loadProxyServerConfigurations x (.const 1) pRoot c).2.unweighted =
      (loadProxyServerConfigurations x (.const 2) pRoot c).2.unweighted) : PortsGiven pRoot := by
  have hload := fun n => loadProxy_const (c := c) (Prod.ext ((loadProxy_code x (.const n) pRoot c).2 hok) rfl)
  intro e he
  obtain ⟨i, hi⟩ := List.mem_iff_getElem?.1 he
  obtain ⟨r, hr, hload₁⟩ := forall₂_at (hload 1) hi
  obtain ⟨r', hr', hload₂⟩ := forall₂_at (hload 2) hi
  obtain ⟨r'', hr'', hsame⟩ := forall₂_at (unweighted_endPoints h) hr
  obtain rfl : r' = r'' := Option.some.inj (hr'.symm.trans hr'')
  have hservices : List.Forall₂ (fun s s' : Service => s.unweighted = s'.unweighted) r.services r'.services :=
    map_eq_iff_forall₂.1 (congrArg RemoteEndPoint.services hsame)
  have hports : r.unweighted.proxyPort = r'.unweighted.proxyPort := congrArg RemoteEndPoint.proxyPort hsame
  have hpart : ∀ a s s', loadService x ⟨1, 1⟩ a = .ok s → loadService x ⟨2, 2⟩ a = .ok s' → s.unweighted = s'.unweighted →
      a.firstChildElement "PORT" ≠ none := by
    intro a s s' hs hs' heq hnone
    have hone : s.port = 1 := (loadService_const hs).1 hnone
    have htwo : s'.port = 2 := (loadService_const hs').1 hnone
    have hport := congrArg Service.port heq
    rw [Service.unweighted, Service.unweighted, hone, htwo] at hport
    exact absurd hport (by decide)
  obtain ⟨hport, hgiven⟩ := loadEndPoint_parts_given (by decide) hload₁ hload₂ hports hpart hservices
  exact ⟨hport, hgiven⟩

end Asabru.Config
