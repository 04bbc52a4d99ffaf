/-
Service updates as edits of the document that the stored configuration stands for.

Results:
- `editClusters_first`: the search of an update and its edit, as edits of first elements;
- `represents_edit`: an edit of the stored configuration stands for the same edit of the document (`EditFor`);
- `updateEndPointService_stored`: what one call stores, however the rest of the call ends;
- `represents_update`: one step of the simulation, for a request that asks for an edit (`Asks`).
-/
import Mathlib.Tactic
import Asabru.Config.DocumentEdit
import Asabru.Config.RequestDocument
import Asabru.Server.ProtocolServer

namespace Asabru.Server

open Asabru.Control Asabru.Xml Asabru.Config Asabru.FirstEdit

/-! ## The search -/

/-- an endpoint with the request's name -/
def isNamed (req : EndPointServiceConfig) (endpoint : RemoteEndPoint) : Bool := endpoint.endPointName = req.name

/-- the edit of a cluster -/
def editCluster (req : EndPointServiceConfig) (cluster : Cluster) : Cluster :=
  { cluster with endPoints := editFirst (isNamed req) (editEndPoint req) cluster.endPoints }

theorem editEndPoints_first (req : EndPointServiceConfig) (eps : List RemoteEndPoint) :
    editEndPoints req eps =
      if eps.any (isNamed req) then some (editFirst (isNamed req) (editEndPoint req) eps) else none := by
  induction eps with
  | nil => rfl
  | cons e eps ih =>
    rw [editEndPoints, editFirst_cons, List.any_cons, ih]
    by_cases hn : e.endPointName = req.name
    · simp [isNamed, hn]
    · rw [if_pos hn]
      have he : isNamed req e = false := by simp [isNamed, hn]
      rw [he, Bool.false_or, if_neg Bool.false_ne_true]
      split_ifs <;> rfl

/-- **The edit of an update** is that of the first endpoint with the name, in the first cluster that has one. -/
theorem editClusters_first (req : EndPointServiceConfig) (cs : List Cluster) :
    (editClusters req cs).getD cs = editFirst (fun c => c.endPoints.any (isNamed req)) (editCluster req) cs := by
  induction cs with
  | nil => rfl
  | cons c cs ih =>
    rw [editClusters, editFirst_cons, editEndPoints_first]
    by_cases hany : c.endPoints.any (isNamed req) = true
    · rw [if_pos hany, if_pos hany]
      rfl
    · rw [if_neg hany, if_neg hany, ← ih]
      cases editClusters req cs <;> rfl

/-! ## One edit -/

/-- the request's edit of the configuration is the document's -/
structure EditFor (x : TinyXml) (req : EndPointServiceConfig) (d : DocumentEdit) : Prop where
  endPoint : req.name = d.endPoint
  add : ∀ pService, d.edit = .add pService →
    req.operation = "add" ∧ pService.name = "SERVICE" ∧ ServiceOf x pService req.service
  delete : ∀ name, d.edit = .delete name → req.operation ≠ "add" ∧ req.service.name = name

/-- an edited endpoint stands for the edited element -/
theorem endPointOf_edit {x : TinyXml} {req : EndPointServiceConfig} {d : DocumentEdit} (hedit : EditFor x req d)
    {e : XMLElement} {r : RemoteEndPoint} (h : EndPointOf x e r) : EndPointOf x (d.edit.endPoint e) (editEndPoint req r) := by
  obtain ⟨pServices, hs, hservices⟩ := h.services
  refine ⟨h.endPointName, ?_, ?_, ?_, ?_, ?_, d.edit.apply pServices, by rw [services_edit, hs]; rfl, ?_⟩
  · rw [others_edit _ _ (by decide)]; exact h.readWrite
  · rw [others_edit _ _ (by decide)]; exact h.handler
  · rw [others_edit _ _ (by decide)]; exact h.pipeline
  · rw [others_edit _ _ (by decide)]; exact h.loadBalancerStrategy
  · rw [others_edit _ _ (by decide)]; exact h.proxyPort
  · unfold editEndPoint
    cases hd : d.edit with
    | add pService =>
      obtain ⟨hop, htag, hof⟩ := hedit.add pService hd
      rw [if_pos hop, siblings_add htag]
      exact List.rel_append hservices (.cons hof .nil)
    | delete name =>
      obtain ⟨hop, hname⟩ := hedit.delete name hd
      rw [if_neg hop, siblings_delete, hname]
      refine List.rel_filter (fun pService s hof => ?_) hservices
      have hnames : s.name = nameOf pService := hof.name
      simp only [hnames]

theorem clusterOf_edit {x : TinyXml} {req : EndPointServiceConfig} {d : DocumentEdit} (hedit : EditFor x req d)
    {e : XMLElement} {c : Cluster} (h : ClusterOf x e c) : ClusterOf x (d.cluster e) (editCluster req c) := by
  refine ⟨h.clusterName, ?_⟩
  rw [endPointElements_edit]
  refine forall₂_editFirst h.endPoints (fun a b hab => ?_) fun a b hab _ => endPointOf_edit hedit hab
  rw [isNamed, hab.endPointName, hedit.endPoint]
  rfl

/-- a cluster has an endpoint with the name iff its element has one -/
theorem any_named {x : TinyXml} {req : EndPointServiceConfig} {d : DocumentEdit} (hname : req.name = d.endPoint)
    {els : List XMLElement} {eps : List RemoteEndPoint} (h : List.Forall₂ (EndPointOf x) els eps) :
    els.any (fun e => nameOf e = d.endPoint) = eps.any (isNamed req) := by
  induction h with
  | nil => rfl
  | @cons a b els eps hab _ ih =>
    rw [List.any_cons, List.any_cons, ih, isNamed, hab.endPointName, hname]
    rfl

/-- **An edit of the stored configuration** stands for the same edit of the document. -/
theorem represents_edit {x : TinyXml} {req : EndPointServiceConfig} {d : DocumentEdit} (hedit : EditFor x req d)
    {pRoot : XMLElement} {c : ProxyConfig} (h : Represents x pRoot c) :
    Represents x (d.root pRoot) ⟨(editClusters req c.clusters).getD c.clusters⟩ := by
  unfold Represents at h ⊢
  rw [clusterElements_edit, editClusters_first]
  exact forall₂_editFirst h (fun a b hab => any_named hedit.endPoint hab.endPoints) fun a b hab _ => clusterOf_edit hedit hab

/-! ## One request -/

/-- a SERVICE element with the name, host and port of a request's service, and nothing else -/
structure AddedElement (x : TinyXml) (pRequest pService : XMLElement) : Prop where
  tag : pService.name = "SERVICE"
  name : nameOf pService = nameOf pRequest
  host : safeText (pService.firstChildElement "HOST") = safeText (pRequest.firstChildElement "host")
  source_hostname : pService.firstChildElement "SOURCE_HOSTNAME" = none
  weight : pService.attribute "weight" = none
  port : (pService.firstChildElement "PORT").map x.queryIntText = (pRequest.firstChildElement "port").map x.queryIntText

/-- the edit that an accepted request asks for -/
inductive Asks (x : TinyXml) (content : String) : DocumentEdit → Prop where
  | add {doc : XMLDocument} {pEndPoint pRequest pService : XMLElement} (read : readRequest x content = some doc)
      (accepted : requestOk x doc pEndPoint pRequest)
      (operation : safeText (pEndPoint.firstChildElement "operation") = "add")
      (element : AddedElement x pRequest pService) : Asks x content ⟨nameOf pEndPoint, .add pService⟩
  | delete {doc : XMLDocument} {pEndPoint pRequest : XMLElement} (read : readRequest x content = some doc)
      (accepted : requestOk x doc pEndPoint pRequest)
      (operation : safeText (pEndPoint.firstChildElement "operation") = "delete") :
      Asks x content ⟨nameOf pEndPoint, .delete (nameOf pRequest)⟩

/-- the added element stands for the request's service -/
theorem AddedElement.serviceOf {x : TinyXml} {u : ServiceUninit} {pEndPoint pRequest pService : XMLElement}
    {req : EndPointServiceConfig} (h : AddedElement x pRequest pService) (hof : RequestOf x u pEndPoint pRequest req) :
    ServiceOf x pService req.service := by
  refine ⟨hof.serviceName.trans h.name.symm, hof.host.trans h.host.symm, ?_, fun pPort hp => ?_, fun t n ht => ?_⟩
  · rw [hof.source_hostname, h.source_hostname]
    rfl
  · have hport := h.port
    rw [hp] at hport
    obtain ⟨pPort', hp', heq⟩ := Option.map_eq_some_iff.1 hport.symm
    rw [← heq]
    exact hof.port pPort' hp'
  · rw [h.weight] at ht
    cases ht

/-- a request that asks for an edit parses to it -/
theorem Asks.request {x : TinyXml} {content : String} {d : DocumentEdit} (h : Asks x content d) (u : Uninit) :
    ∃ req, loadEndpointServiceFromString x u content = .ok req ∧ EditFor x req d := by
  have hreq : ∀ {doc pEndPoint pRequest}, readRequest x content = some doc → requestOk x doc pEndPoint pRequest →
      ∃ req, loadEndpointServiceFromString x u content = .ok req ∧ RequestOf x u.updateService pEndPoint pRequest req := by
    intro doc pEndPoint pRequest hread hok
    obtain ⟨req, hl⟩ := (loadRequest_isOk x u content).2 ⟨doc, pEndPoint, pRequest, hread, hok⟩
    obtain ⟨doc', pEndPoint', pRequest', hread', hok', hof⟩ := loadRequest_spec hl
    obtain rfl := Option.some.inj (hread.symm.trans hread')
    obtain ⟨rfl, rfl⟩ := hok.unique hok'
    exact ⟨req, hl, hof⟩
  cases h with
  | add hread hok hop helement =>
    obtain ⟨req, hl, hof⟩ := hreq hread hok
    refine ⟨req, hl, hof.name, fun p hp => ?_, fun _ hn => (nomatch hn)⟩
    obtain rfl := ServiceEdit.add.inj hp
    exact ⟨hof.operation.trans hop, helement.tag, helement.serviceOf hof⟩
  | delete hread hok hop =>
    obtain ⟨req, hl, hof⟩ := hreq hread hok
    refine ⟨req, hl, hof.name, fun _ hn => (nomatch hn), fun name hn => ?_⟩
    obtain rfl := ServiceEdit.delete.inj hn
    refine ⟨?_, hof.serviceName⟩
    rw [hof.operation, hop]
    decide

/-- what an update stores, whether or not it then applies it -/
theorem updateEndPointService_stored {lib : Lib} {w : World} {content : String} {req : EndPointServiceConfig}
    (h : loadEndpointServiceFromString lib.xml w.uninit content = .ok req) (s : State) :
    (updateEndPointService lib w content s).2.configs.m_ProxyConfig =
      ⟨(editClusters req s.configs.m_ProxyConfig.clusters).getD s.configs.m_ProxyConfig.clusters⟩ := by
  rw [updateEndPointService_eq, h]
  dsimp only
  rw [updateProxyEndPointService_eq (loadEndpointService_operation h)]
  cases editClusters req s.configs.m_ProxyConfig.clusters with
  | none => rfl
  | some cs => exact congrArg Configs.m_ProxyConfig (updateProxyServers_untouched lib w _).configs

/-- a SERVICE element with a name attribute, a host and a port, each if there is one -/
def serviceWith (name : Option String) (pHost pPort : Option XMLElement) : XMLElement where
  name := "SERVICE"
  attributes := name.toList.map fun n => ("name", n)
  children := (pHost.toList.map fun e => .element { e with name := "HOST" }) ++
    pPort.toList.map fun e => .element { e with name := "PORT" }

theorem serviceWith_name (name : Option String) (pHost pPort : Option XMLElement) :
    (serviceWith name pHost pPort).attribute "name" = name := by
  cases name <;> rfl

theorem serviceWith_children (name : Option String) (pHost pPort : Option XMLElement) :
    (serviceWith name pHost pPort).firstChildElement "HOST" = pHost.map (fun e => { e with name := "HOST" }) ∧
      (serviceWith name pHost pPort).firstChildElement "PORT" = pPort.map (fun e => { e with name := "PORT" }) ∧
      (serviceWith name pHost pPort).firstChildElement "SOURCE_HOSTNAME" = none := by
  cases pHost <;> cases pPort <;> exact ⟨rfl, rfl, rfl⟩

/-- the element that an add request gives -/
def requestElement (pRequest : XMLElement) : XMLElement :=
  serviceWith (pRequest.attribute "name") (pRequest.firstChildElement "host") (pRequest.firstChildElement "port")

/-- it has the request's host and port for a `QueryIntText` that reads the element's text -/
theorem addedElement {x : TinyXml} (htext : ∀ e e', e.getText = e'.getText → x.queryIntText e = x.queryIntText e')
    (pRequest : XMLElement) : AddedElement x pRequest (requestElement pRequest) := by
  obtain ⟨hhost, hport, hsource⟩ := serviceWith_children (pRequest.attribute "name") (pRequest.firstChildElement "host")
    (pRequest.firstChildElement "port")
  refine ⟨rfl, congrArg (Option.getD · "") (serviceWith_name ..), ?_, hsource, ?_, ?_⟩
  · rw [requestElement, hhost]
    cases pRequest.firstChildElement "host" <;> rfl
  · unfold requestElement
    cases pRequest.attribute "name" <;> rfl
  · rw [requestElement, hport, Option.map_map]
    exact congrArg (Option.map · _) (funext fun e => htext _ e rfl)

/-- **One step**: a request that asks for an edit keeps the stored configuration and the document together. -/
theorem represents_update {lib : Lib} {content : String} {d : DocumentEdit} (hasks : Asks lib.xml content d)
    {pRoot : XMLElement} {s : State} (h : Represents lib.xml pRoot s.configs.m_ProxyConfig) (w : World) :
    Represents lib.xml (d.root pRoot) (updateEndPointService lib w content s).2.configs.m_ProxyConfig := by
  obtain ⟨req, hl, hedit⟩ := hasks.request w.uninit
  rw [updateEndPointService_stored hl]
  exact represents_edit hedit h

end Asabru.Server
