/-
The proxy section: which documents are accepted, and what the accepted ones become at run time.

- `proxy_grammar`: the loader accepts exactly the documents whose every endpoint is well formed; otherwise it returns the
  error of the first endpoint that is not, and the output keeps its value.
- `document_to_runtime`: what is resolved from an accepted document has one entry per END_POINT element, in document
  order, each with the texts of its own element and with backends for its own SERVICE elements (`RuntimeOf`,
  `BackendOf`); the first endpoint that does not resolve makes the whole call throw.
- `strategyNamed_iff`, `strategyNamed_injective`: three names, of three strategy objects.
Witness: `two_clusters_to_runtime`.

`QueryIntText` is an arbitrary function of the element (`TinyXml.queryIntText`).
-/
import Mathlib.Tactic
import Asabru.Config.ProxyDocument
import Asabru.Server.Process

namespace Asabru.ProxySection

open Asabru.Control Asabru.Xml Asabru.Config Asabru.Server Asabru.Pipelines

/-! ## Acceptance -/

/-- **The loader accepts exactly its grammar**, and the first endpoint at fault decides the error. -/
theorem proxy_grammar (x : TinyXml) (u : Uninit) (pRoot : XMLElement) (c : ProxyConfig) :
    ((loadProxyServerConfigurations x u pRoot c).1 = .success ↔ proxySectionOk x pRoot) ∧
      (proxySectionOk x pRoot ∨ ∃ pre pEndPoint post err, documentEndPoints pRoot = pre ++ pEndPoint :: post ∧
        (∀ e ∈ pre, endPointOk x e) ∧ endPointFault x pEndPoint = some err ∧
        loadProxyServerConfigurations x u pRoot c = (err.code, c)) := by
  refine ⟨loadProxy_code x u pRoot c, ?_⟩
  cases hf : (documentEndPoints pRoot).findSome? (endPointFault x) with
  | none =>
    rw [List.findSome?_eq_none_iff] at hf
    exact Or.inl (proxySectionOk_iff.2 fun e he => endPointFault_none.1 (hf e he))
  | some err =>
    obtain ⟨pre, e, post, hsplit, he, hpre⟩ := List.findSome?_eq_some_iff.1 hf
    exact Or.inr ⟨pre, e, post, err, hsplit, fun a ha => endPointFault_none.1 (hpre a ha), he, loadProxy_fault hf u c⟩

/-! ## From document to runtime -/

/-- a backend and the SERVICE element it is for -/
structure BackendOf (x : TinyXml) (readWrite : Bool) (pService : XMLElement) (backend : ResolvedService) : Prop where
  host : backend.ipaddress = safeText (pService.firstChildElement "HOST")
  source_hostname : backend.source_hostname = safeText (pService.firstChildElement "SOURCE_HOSTNAME")
  port : ∀ pPort, pService.firstChildElement "PORT" = some pPort → x.queryIntText pPort = .ok backend.port
  weight : ∀ t n, pService.attribute "weight" = some t → stoi t = .ok n → backend.weight = n
  r_w : backend.r_w = readWrite

/-- the strategy object that a text names -/
def strategyNamed (text : String) : Option BalancerId := if text = "" then none else getLoadBalancerStrategy text

/-- the names of the shared objects, and no others -/
theorem strategyNamed_iff {text : String} {b : BalancerId} : strategyNamed text = some b ↔ (text, b) ∈
    [("RoundRobinStrategy", BalancerId.roundRobin), ("RandomStrategy", .random),
      ("WeightedRoundRobinStrategy", .weightedRoundRobin)] := by
  unfold strategyNamed getLoadBalancerStrategy
  constructor
  · intro h
    split_ifs at h with _ hround hrandom hweighted <;> cases h
    · rw [hround]
      exact List.mem_cons_self
    · rw [hrandom]
      exact List.mem_cons_of_mem _ List.mem_cons_self
    · rw [hweighted]
      exact List.mem_cons_of_mem _ (List.mem_cons_of_mem _ List.mem_cons_self)
  · simp only [List.mem_cons, List.not_mem_nil, or_false, Prod.mk.injEq]
    rintro (⟨rfl, rfl⟩ | ⟨rfl, rfl⟩ | ⟨rfl, rfl⟩) <;> rfl

/-- different names name different objects -/
theorem strategyNamed_injective {text text' : String} {b : BalancerId} (h : strategyNamed text = some b)
    (h' : strategyNamed text' = some b) : text = text' := by
  have htext := strategyNamed_iff.1 h
  have htext' := strategyNamed_iff.1 h'
  simp only [List.mem_cons, List.not_mem_nil, or_false, Prod.mk.injEq] at htext htext'
  obtain ⟨rfl, rfl⟩ | ⟨rfl, rfl⟩ | ⟨rfl, rfl⟩ := htext <;>
    obtain ⟨rfl, hb⟩ | ⟨rfl, hb⟩ | ⟨rfl, hb⟩ := htext' <;> first | rfl | cases hb

/-- a resolved endpoint and the END_POINT element it is for -/
structure RuntimeOf (x : TinyXml) (pEndPoint : XMLElement) (cfg : ResolvedProxyConfig) : Prop where
  name : cfg.name = (pEndPoint.attribute "name").getD ""
  proxyPort : ∀ pPort, pEndPoint.firstChildElement "PROXY_PORT" = some pPort → x.queryIntText pPort = .ok cfg.proxyPort
  pipelineName : cfg.pipelineName = safeText (pEndPoint.firstChildElement "PIPELINE")
  strategy : cfg.loadBalancerStrategy = strategyNamed (safeText (pEndPoint.firstChildElement "loadbalancer-strategy"))
  services : ∃ pServices, pEndPoint.firstChildElement "SERVICES" = some pServices ∧
    List.Forall₂ (BackendOf x (safeText (pEndPoint.firstChildElement "READ_WRITE") = "yes"))
      (pServices.siblings "SERVICE") cfg.services

theorem backendOf_service {x : TinyXml} {pService : XMLElement} {service : Service} (h : ServiceOf x pService service)
    {endPoint : RemoteEndPoint} {b : Bool} (hb : endPoint.readWrite = b) :
    BackendOf x b pService (resolveService endPoint service) :=
  ⟨h.host, h.source_hostname, h.port, h.weight, hb⟩

/-- a resolved endpoint stands for the element that its stored endpoint stands for -/
theorem runtimeOf_endPoint {x : TinyXml} {pEndPoint : XMLElement} {endPoint : RemoteEndPoint}
    {cfg : ResolvedProxyConfig} (h : EndPointOf x pEndPoint endPoint) (hr : ResolvesTo endPoint cfg) :
    RuntimeOf x pEndPoint cfg := by
  obtain ⟨pServices, hs, hservices⟩ := h.services
  refine ⟨hr.name.trans h.endPointName, fun p hp => ?_, hr.pipelineName.trans h.pipeline, ?_, pServices, hs, ?_⟩
  · rw [hr.proxyPort]
    exact (h.proxyPort p hp).1
  · rw [hr.strategy, strategyObject, h.loadBalancerStrategy]
    rfl
  · rw [hr.services, resolveServices, List.forall₂_map_right_iff]
    exact hservices.imp fun _ _ hsvc => backendOf_service hsvc h.readWrite

/-- elements, stored endpoints and resolved endpoints correspond one by one -/
theorem runtime_of_document {x : TinyXml} {els : List XMLElement} {eps : List RemoteEndPoint}
    {cfgs : List ResolvedProxyConfig} (h : List.Forall₂ (EndPointOf x) els eps)
    (hr : List.Forall₂ ResolvesTo eps cfgs) : List.Forall₂ (RuntimeOf x) els cfgs := by
  induction h generalizing cfgs with
  | nil => cases hr; exact .nil
  | cons he _ ih =>
    cases hr with
    | cons hc hrest => exact .cons (runtimeOf_endPoint he hc) (ih hrest)

/-- **From document to runtime** nothing is lost, repeated, reordered or crossed. -/
theorem document_to_runtime {lib : Lib} {w : World} {u : Uninit} {pRoot : XMLElement} {c c' : ProxyConfig}
    (h : loadProxyServerConfigurations lib.xml u pRoot c = (.success, c')) (f : PipelineFactory) :
    (∀ cfgs f', resolveProxyServerConfigurations lib w c' f = (.ok cfgs, f') →
      List.Forall₂ (RuntimeOf lib.xml) (documentEndPoints pRoot) cfgs) ∧
    ∀ err f', resolveProxyServerConfigurations lib w c' f = (.error err, f') ↔
      ∃ pre endpoint post cfgs f₁, c'.endPoints = pre ++ endpoint :: post ∧
        traverse (resolveEndPoint lib w) pre f = (.ok cfgs, f₁) ∧
        resolveEndPoint lib w endpoint f₁ = (.error err, f') := by
  refine ⟨fun cfgs f' hres => ?_, fun err f' => traverse_exit⟩
  exact runtime_of_document (endPoints_document (loadProxy_document h)) (resolveProxy_ok hres)

/-- two clusters with one endpoint each -/
def twoClusters : XMLElement :=
  elem "clickhouse-proxy-v2" [elem "CLUSTERS" [
    elem "CLUSTER" [elem "END_POINTS" [endPointElement "a" "Pipeline" "RandomStrategy" [("s", "h"), ("s", "i")]]],
    elem "CLUSTER" [elem "END_POINTS" [endPointElement "b" "Pipeline" "" []]]]]

/-- what is stored of the two clusters -/
def twoStored : ProxyConfig :=
  (loadProxyServerConfigurations (.table []) World.calm.uninit twoClusters ⟨[]⟩).2

/-- **Witness.** The document is accepted, and it resolves to two entries that stand for its two endpoints. -/
theorem two_clusters_to_runtime : ∃ cfgs f',
    resolveProxyServerConfigurations (.plain (.table [])) .calm twoStored plainFactory = (.ok cfgs, f') ∧
      cfgs.length = 2 ∧ List.Forall₂ (RuntimeOf (.table [])) (documentEndPoints twoClusters) cfgs := by
  have hload : loadProxyServerConfigurations (Lib.plain (.table [])).xml World.calm.uninit twoClusters ⟨[]⟩ =
      (.success, twoStored) := by decide
  refine ⟨_, _, rfl, by decide, ?_⟩
  exact (document_to_runtime (w := .calm) hload plainFactory).1 _ _ rfl

end Asabru.ProxySection
