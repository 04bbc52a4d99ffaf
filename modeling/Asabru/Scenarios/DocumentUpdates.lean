/-
Service updates against edits of the document.

A document is loaded, and requests to add and delete services are stored one by one. On the other side the requests edit
the document, which is then loaded. The two configurations are compared on everything but weights, which no request
gives.

The simulation always holds: the stored configuration stands for the edited document at every step
(`storeUpdates_represents`). What it stands for is determined by the document only as far as the document gives the ports:
the loader leaves a port that is not given as it was, and two loads need not agree on it.

- `updates_simulate_iff`: the two configurations are the same, whatever the fields held, iff every END_POINT of the edited
  document has a PROXY_PORT and every SERVICE a PORT; and no update touches more than the services of the first endpoint
  with the name.
Witness: `add_and_delete_simulate`. Counterexample: `portless_add`.
-/
import Mathlib.Tactic
import Asabru.Server.ServiceEdit

namespace Asabru.DocumentUpdates

open Asabru.Control Asabru.Xml Asabru.Config Asabru.FirstEdit Asabru.Server

/-! ## Runs -/

/-- the requests of a run, each in its own environment, stored one by one -/
def storeUpdates (lib : Lib) (calls : List (World × String)) (s : State) : State :=
  calls.foldl (fun s call => (Server.updateEndPointService lib call.1 call.2 s).2) s

/-- **A run of updates** keeps the stored configuration and the document together. -/
theorem storeUpdates_represents {lib : Lib} {calls : List (World × String)} {edits : List DocumentEdit}
    (hasks : List.Forall₂ (fun call d => Asks lib.xml call.2 d) calls edits) {pRoot : XMLElement} {s : State}
    (h : Represents lib.xml pRoot s.configs.m_ProxyConfig) :
    Represents lib.xml (editDocument edits pRoot) (storeUpdates lib calls s).configs.m_ProxyConfig := by
  induction hasks generalizing pRoot s with
  | nil => exact h
  | cons hask _ ih => exact ih (represents_update hask h _)

/-! ## The claim -/

/-- the stored configuration is the one that the edited document is loaded to -/
def UpdatesSimulate (lib : Lib) (pRoot : XMLElement) (contents : List String) (edits : List DocumentEdit) : Prop :=
  ∀ u c (s : State) calls u' c', s.configs.m_ProxyConfig = (loadProxyServerConfigurations lib.xml u pRoot c).2 →
    calls.map Prod.snd = contents →
    ∃ loaded, loadProxyServerConfigurations lib.xml u' (editDocument edits pRoot) c' = (.success, loaded) ∧
      (storeUpdates lib calls s).configs.m_ProxyConfig.unweighted = loaded.unweighted

/-- only the services of the first endpoint with the name, in document order, change -/
def OnlyFirstChanges (name : String) (c c' : ProxyConfig) : Prop :=
  c' = c ∨ ∃ clusters cluster laterClusters endPoints endPoint laterEndPoints services,
    c.clusters = clusters ++ cluster :: laterClusters ∧ cluster.endPoints = endPoints ++ endPoint :: laterEndPoints ∧
    (∀ cl ∈ clusters, ∀ e ∈ cl.endPoints, e.endPointName ≠ name) ∧ (∀ e ∈ endPoints, e.endPointName ≠ name) ∧
    endPoint.endPointName = name ∧
    c'.clusters = clusters ++
      { cluster with endPoints := endPoints ++ { endPoint with services := services } :: laterEndPoints } :: laterClusters

theorem stored_first (req : EndPointServiceConfig) (c : ProxyConfig) :
    OnlyFirstChanges req.name c ⟨(editClusters req c.clusters).getD c.clusters⟩ := by
  rw [editClusters_first]
  rcases editFirst_split (fun cl => cl.endPoints.any (isNamed req)) (editCluster req) c.clusters with
    ⟨-, heq⟩ | ⟨clusters, cluster, laterClusters, hc, hpre, hany, heq⟩
  · rw [heq]
    exact Or.inl rfl
  · rcases editFirst_split (isNamed req) (editEndPoint req) cluster.endPoints with
      ⟨hnone, -⟩ | ⟨endPoints, endPoint, laterEndPoints, he, hfirst, hnamed, hedit⟩
    · obtain ⟨e, hmem, hn⟩ := List.any_eq_true.1 hany
      rw [hnone e hmem] at hn
      cases hn
    · refine Or.inr ⟨clusters, cluster, laterClusters, endPoints, endPoint, laterEndPoints,
        (editEndPoint req endPoint).services,
        hc, he, fun cl hcl e hmem => ?_, fun e hmem => by simpa [isNamed] using hfirst e hmem,
        by simpa [isNamed] using hnamed, ?_⟩
      · have hno : ∀ e ∈ cl.endPoints, isNamed req e = false := by simpa using hpre cl hcl
        simpa [isNamed] using hno e hmem
      · rw [heq, editCluster, hedit]
        rfl

/-- **Updates simulate document edits** iff the edited document gives its ports. -/
theorem updates_simulate_iff {lib : Lib} {pRoot : XMLElement} {contents : List String} {edits : List DocumentEdit}
    (hok : proxySectionOk lib.xml pRoot) (hasks : List.Forall₂ (Asks lib.xml) contents edits) :
    (UpdatesSimulate lib pRoot contents edits ↔ PortsGiven (editDocument edits pRoot)) ∧
    ∀ content d, Asks lib.xml content d → ∀ w s, OnlyFirstChanges d.endPoint s.configs.m_ProxyConfig
      (Server.updateEndPointService lib w content s).2.configs.m_ProxyConfig := by
  have hrun : ∀ u c (s : State) (calls : List (World × String)),
      s.configs.m_ProxyConfig = (loadProxyServerConfigurations lib.xml u pRoot c).2 → calls.map Prod.snd = contents →
      Represents lib.xml (editDocument edits pRoot) (storeUpdates lib calls s).configs.m_ProxyConfig := by
    intro u c s calls hs hcalls
    refine storeUpdates_represents ?_ (hs ▸ represents_load hok u c)
    rw [← hcalls] at hasks
    exact List.forall₂_map_left_iff.1 hasks
  refine ⟨⟨fun h => ?_, fun hgiven u c s calls u' c' hs hcalls => ?_⟩, fun content d hask w s => ?_⟩
  · -- one run and two loads
    let s : State := .fresh { Configs.empty with
      m_ProxyConfig := (loadProxyServerConfigurations lib.xml (.const 0) pRoot ⟨[]⟩).2 } .empty
    have hcalls : (contents.map fun content => (World.calm, content)).map Prod.snd = contents := by simp
    have hedited := (hrun (.const 0) ⟨[]⟩ s _ rfl hcalls).ok
    obtain ⟨loaded₁, hload₁, hsame₁⟩ := h (.const 0) ⟨[]⟩ s _ (.const 1) ⟨[]⟩ rfl hcalls
    obtain ⟨loaded₂, hload₂, hsame₂⟩ := h (.const 0) ⟨[]⟩ s _ (.const 2) ⟨[]⟩ rfl hcalls
    refine portsGiven_of_loads hedited (c := ⟨[]⟩) ?_
    rw [hload₁, hload₂]
    exact hsame₁.symm.trans hsame₂
  · have hstored := hrun u c s calls hs hcalls
    exact ⟨_, Prod.ext ((loadProxy_code lib.xml u' _ c').2 hstored.ok) rfl,
      hstored.unweighted (represents_load hstored.ok u' c') hgiven⟩
  · obtain ⟨req, hl, hedit⟩ := hask.request w.uninit
    rw [updateEndPointService_stored hl, ← hedit.endPoint]
    exact stored_first req _

/-! ## Runs on a document -/

/-- a service of the document -/
def serviceLeaf (name host port : String) : XMLElement :=
  ⟨"SERVICE", [("name", name)], [.element (leaf "HOST" host), .element (leaf "PORT" port)]⟩

/-- two clusters, each with an endpoint of the same name -/
def twoNamesRoot : XMLElement :=
  let endPoint (port : String) (services : List XMLElement) : XMLElement :=
    ⟨"END_POINT", [("name", "a")], [.element (leaf "PROXY_PORT" port), .element (elem "SERVICES" services)]⟩
  elem "clickhouse-proxy-v2" [elem "CLUSTERS" [
    elem "CLUSTER" [elem "END_POINTS" [endPoint "9000" [serviceLeaf "a1" "10.0.0.1" "80"]]],
    elem "CLUSTER" [elem "END_POINTS" [endPoint "9001" [serviceLeaf "a1" "10.0.0.9" "81"]]]]]

/-- a request about the endpoint "a" -/
def requestEndPoint (operation : String) (pRequest : XMLElement) : XMLElement :=
  ⟨"end_point", [("name", "a")], [.element (leaf "operation" operation), .element pRequest]⟩

def addRequest : XMLElement :=
  ⟨"service", [("name", "a2")], [.element (leaf "host" "10.0.0.2"), .element (leaf "port" "82")]⟩

def deleteRequest : XMLElement := ⟨"service", [("name", "a1")], []⟩

/-- a service without a port -/
def portlessRequest : XMLElement := ⟨"service", [("name", "a2")], [.element (leaf "host" "10.0.0.2")]⟩

def requestsLib : Lib := .plain (.table [("add", document (requestEndPoint "add" addRequest)),
  ("delete", document (requestEndPoint "delete" deleteRequest)),
  ("portless", document (requestEndPoint "add" portlessRequest))])

theorem requestsLib_text (e e' : XMLElement) (h : e.getText = e'.getText) :
    requestsLib.xml.queryIntText e = requestsLib.xml.queryIntText e' := by
  show queryIntTextOf e = queryIntTextOf e'
  unfold queryIntTextOf
  rw [h]

theorem twoNames_ok : proxySectionOk requestsLib.xml twoNamesRoot :=
  (loadProxy_code _ (.const 0) _ ⟨[]⟩).1 (by decide)

theorem asks_add : Asks requestsLib.xml "add" ⟨"a", .add (requestElement addRequest)⟩ := by
  have hok : requestOk requestsLib.xml (document (requestEndPoint "add" addRequest)) (requestEndPoint "add" addRequest)
      addRequest := ⟨rfl, Or.inl rfl, rfl, fun pPort hp => ⟨82, by rw [← Option.some.inj hp]; decide⟩⟩
  exact .add rfl hok rfl (addedElement requestsLib_text _)

theorem asks_delete : Asks requestsLib.xml "delete" ⟨"a", .delete "a1"⟩ := by
  have hok : requestOk requestsLib.xml (document (requestEndPoint "delete" deleteRequest))
      (requestEndPoint "delete" deleteRequest) deleteRequest := ⟨rfl, Or.inr rfl, rfl, fun _ hp => (nomatch hp)⟩
  exact .delete rfl hok rfl

theorem asks_portless : Asks requestsLib.xml "portless" ⟨"a", .add (requestElement portlessRequest)⟩ := by
  have hok : requestOk requestsLib.xml (document (requestEndPoint "add" portlessRequest))
      (requestEndPoint "add" portlessRequest) portlessRequest := ⟨rfl, Or.inl rfl, rfl, fun _ hp => (nomatch hp)⟩
  exact .add rfl hok rfl (addedElement requestsLib_text _)

/-- **Witness.** A service is added to the first "a" and the other one deleted. -/
theorem add_and_delete_simulate : UpdatesSimulate requestsLib twoNamesRoot ["add", "delete"]
    [⟨"a", .add (requestElement addRequest)⟩, ⟨"a", .delete "a1"⟩] :=
  (updates_simulate_iff twoNames_ok (.cons asks_add (.cons asks_delete .nil))).1.2
    (portsGiven_of_loads (x := requestsLib.xml) (c := ⟨[]⟩) ((loadProxy_code _ (.const 0) _ ⟨[]⟩).1 (by decide)) (by decide))

/-- **A service without a port**, added by a request and in the document, has two ports. -/
theorem portless_add : proxySectionOk requestsLib.xml twoNamesRoot ∧
    List.Forall₂ (Asks requestsLib.xml) ["portless"] [⟨"a", .add (requestElement portlessRequest)⟩] ∧
    ¬ UpdatesSimulate requestsLib twoNamesRoot ["portless"] [⟨"a", .add (requestElement portlessRequest)⟩] := by
  refine ⟨twoNames_ok, .cons asks_portless .nil, fun h => ?_⟩
  let s : State := .fresh { Configs.empty with
    m_ProxyConfig := (loadProxyServerConfigurations requestsLib.xml (.const 0) twoNamesRoot ⟨[]⟩).2 } .empty
  obtain ⟨loaded₁, hload₁, hsame₁⟩ := h (.const 0) ⟨[]⟩ s [(.calm, "portless")] (.const 1) ⟨[]⟩ rfl rfl
  obtain ⟨loaded₂, hload₂, hsame₂⟩ := h (.const 0) ⟨[]⟩ s [(.calm, "portless")] (.const 2) ⟨[]⟩ rfl rfl
  have hloads : loaded₁.unweighted = loaded₂.unweighted := hsame₁.symm.trans hsame₂
  obtain rfl : _ = loaded₁ := congrArg Prod.snd hload₁
  obtain rfl : _ = loaded₂ := congrArg Prod.snd hload₂
  exact absurd hloads (by decide)

end Asabru.DocumentUpdates
