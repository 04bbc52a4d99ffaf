/-
SERVICE UPDATES: what a reply of `updateEndPointService` says about the state.

An update edits the first endpoint with the request's name, in document order, commits the edited configuration and then
replays the services of every endpoint into the balancer its name reaches.

- `acknowledged_iff`: in every run, an acknowledged update has taken effect exactly when a socket is registered under the
  name and the last later endpoint that reaches the same balancer, if there is one, has the very same servers;
- `refused_iff`: in every run, a refused update has changed neither the stored proxy configuration nor any registered
  socket's list, unless it parsed, would change the endpoint it names, and the stored configuration does not resolve: the
  edit is committed before resolution.
Witnesses: `acknowledged_add`, `refused_unknown`. Counterexamples: `acknowledged_without_effect`,
`refused_but_committed`.

Premises on asabru-engine: those of `State`.
-/
import Mathlib.Tactic
import Asabru.Server.Process

namespace Asabru.ServiceUpdate

open Asabru.Control Asabru.Xml Asabru.Config Asabru.Pipelines Asabru.Server

/-! ## Selection -/

/-- the endpoint that a request selects: the first one with its name, in document order -/
def selected (c : ProxyConfig) (name : String) : Option RemoteEndPoint :=
  c.endPoints.find? fun e => e.endPointName = name

/-- the endpoints after the selected one -/
def laterEndPoints (c : ProxyConfig) (name : String) : List RemoteEndPoint :=
  (c.endPoints.dropWhile fun e => e.endPointName ≠ name).tail

/-- the servers that the endpoint has once the request is carried out -/
def wantedServers (req : EndPointServiceConfig) (e : RemoteEndPoint) : List ResolvedService :=
  if req.operation = "add" then resolveServices e ++ [resolveService e req.service]
  else (e.services.filter fun svc => svc.name ≠ req.service.name).map (resolveService e)

/-- the request would change the endpoint: an add, or a delete of a service that is there -/
def Changes (req : EndPointServiceConfig) (e : RemoteEndPoint) : Prop :=
  req.operation = "add" ∨ ∃ svc ∈ e.services, svc.name = req.service.name

theorem selected_of_edit {req : EndPointServiceConfig} {c : ProxyConfig} {eps pre post : List RemoteEndPoint}
    {e : RemoteEndPoint} (h : EditedAt req c.endPoints eps pre e post) : selected c req.name = some e := by
  unfold selected
  rw [h.before, List.find?_append, List.find?_eq_none.2 fun a ha => by simpa using h.first a ha]
  simp [h.named]

theorem later_of_edit {req : EndPointServiceConfig} {c : ProxyConfig} {eps pre post : List RemoteEndPoint}
    {e : RemoteEndPoint} (h : EditedAt req c.endPoints eps pre e post) : laterEndPoints c req.name = post := by
  unfold laterEndPoints
  rw [h.before, List.dropWhile_append_of_pos fun a ha => by simpa using h.first a ha]
  simp [h.named]

theorem edit_of_selected {req : EndPointServiceConfig} {c : ProxyConfig} {e : RemoteEndPoint}
    (h : selected c req.name = some e) : ∃ cs, editClusters req c.clusters = some cs := by
  cases hc : editClusters req c.clusters with
  | some cs => exact ⟨cs, rfl⟩
  | none =>
    have hname : e.endPointName = req.name := by simpa using List.find?_some h
    exact absurd hname (editClusters_none.1 hc e (List.mem_of_find?_eq_some h))

/-- the edit carries the request out -/
theorem resolveServices_edit (req : EndPointServiceConfig) (e : RemoteEndPoint) :
    resolveServices (editEndPoint req e) = wantedServers req e := by
  unfold resolveServices wantedServers editEndPoint
  split_ifs
  · rw [List.map_append]
    rfl
  · rfl

/-- the edit changes the endpoint exactly when the request would -/
theorem editEndPoint_eq_self {req : EndPointServiceConfig} {e : RemoteEndPoint} :
    editEndPoint req e = e ↔ ¬ Changes req e := by
  unfold Changes editEndPoint
  constructor
  · intro h
    have hsvc : (if req.operation = "add" then e.services ++ [req.service]
        else e.services.filter fun s => s.name ≠ req.service.name) = e.services := congrArg RemoteEndPoint.services h
    split_ifs at hsvc with hop
    · simp at hsvc
    · rintro (hadd | ⟨svc, hmem, hname⟩)
      · exact hop hadd
      · have := List.filter_eq_self.1 hsvc svc hmem
        simp [hname] at this
  · intro h
    obtain ⟨hop, hnone⟩ := not_or.1 h
    have : e.services.filter (fun s => s.name ≠ req.service.name) = e.services := by
      refine List.filter_eq_self.2 fun svc hmem => ?_
      simpa using fun hname => hnone ⟨svc, hmem, hname⟩
    rw [if_neg hop, this]

/-! ## Acknowledged updates -/

/-- a socket is registered under the name and its balancer has, in order, the servers of the selected endpoint after the
edit; with an add the service is among them, and with a delete no service of that name contributes one -/
def TakesEffect (req : EndPointServiceConfig) (s t : State) : Prop :=
  ∃ e sid sock, selected s.configs.m_ProxyConfig req.name = some e ∧ t.proxySocketsMap req.name = some sid ∧
    t.proxySockets sid = some sock ∧ t.servers sock.loadBalancer = wantedServers req e ∧
    (req.operation = "add" → resolveService e req.service ∈ t.servers sock.loadBalancer) ∧
    (req.operation = "delete" → ∀ server ∈ t.servers sock.loadBalancer,
      ∃ svc ∈ e.services, svc.name ≠ req.service.name ∧ server = resolveService e svc)

/-- a socket is registered under the name, and the last endpoint after the selected one whose name reaches the same
balancer, if there is one, has the same servers -/
def RoutedLast (req : EndPointServiceConfig) (s : State) : Prop :=
  ∃ e b, selected s.configs.m_ProxyConfig req.name = some e ∧ s.reach req.name = some b ∧
    ∀ e', ((laterEndPoints s.configs.m_ProxyConfig req.name).filter fun a => s.reach a.endPointName = some b).getLast? =
      some e' → resolveServices e' = wantedServers req e

theorem lastWrite_endPoints (ref : String → Option BalancerId) (b : BalancerId) (eps : List RemoteEndPoint) :
    Alias.lastWrite ref b (eps.map fun e => (e.endPointName, resolveServices e)) =
      ((eps.filter fun a => ref a.endPointName = some b).getLast?).map resolveServices := by
  unfold Alias.lastWrite
  rw [List.filter_map, List.getLast?_map, Option.map_map]
  rfl

/-- what the balancer under the name holds after an acknowledged update -/
theorem servers_after {req : EndPointServiceConfig} {s t : State} {cs : List Cluster} {pre post : List RemoteEndPoint}
    {e : RemoteEndPoint} {b : BalancerId}
    (hedit : EditedAt req s.configs.m_ProxyConfig.endPoints (ProxyConfig.mk cs).endPoints pre e post)
    (hu : Updated (s.setProxyConfig ⟨cs⟩) t) (hb : s.reach req.name = some b) :
    t.servers b = wantedServers req e ↔
      ∀ e', (post.filter fun a => s.reach a.endPointName = some b).getLast? = some e' →
        resolveServices e' = wantedServers req e := by
  have hwrites : ProxyConfig.writes (s.setProxyConfig ⟨cs⟩).configs.m_ProxyConfig =
      (pre.map fun e => (e.endPointName, resolveServices e)) ++
        (req.name, wantedServers req e) :: post.map fun e => (e.endPointName, resolveServices e) := by
    show ((ProxyConfig.mk cs).endPoints.map fun e => (e.endPointName, resolveServices e)) = _
    rw [hedit.after, List.map_append, List.map_cons, resolveServices_edit]
    rw [show (editEndPoint req e).endPointName = req.name from hedit.named]
  have hreach : (s.setProxyConfig ⟨cs⟩).reach = s.reach := rfl
  rw [hu.servers, hwrites, hreach, Alias.replay_last hb, lastWrite_endPoints]
  constructor
  · intro h e' he'
    exact h _ (by rw [he']; rfl)
  · intro h v hv
    obtain ⟨e', he', rfl⟩ := Option.map_eq_some_iff.1 hv
    exact h e' he'

theorem wantedServers_add {req : EndPointServiceConfig} {e : RemoteEndPoint} (h : req.operation = "add") :
    resolveService e req.service ∈ wantedServers req e := by
  unfold wantedServers
  rw [if_pos h]
  exact List.mem_append_right _ (List.mem_singleton_self _)

theorem wantedServers_delete {req : EndPointServiceConfig} {e : RemoteEndPoint} (h : req.operation = "delete")
    {server : ResolvedService} (hs : server ∈ wantedServers req e) :
    ∃ svc ∈ e.services, svc.name ≠ req.service.name ∧ server = resolveService e svc := by
  unfold wantedServers at hs
  rw [if_neg (by rw [h]; decide)] at hs
  obtain ⟨svc, hmem, rfl⟩ := List.mem_map.1 hs
  obtain ⟨hsvc, hne⟩ := List.mem_filter.1 hmem
  exact ⟨svc, hsvc, by simpa using hne, rfl⟩

/-- one acknowledged update -/
theorem takesEffect_iff {req : EndPointServiceConfig} {s t : State} {cs : List Cluster}
    (hc : editClusters req s.configs.m_ProxyConfig.clusters = some cs) (hu : Updated (s.setProxyConfig ⟨cs⟩) t) :
    TakesEffect req s t ↔ RoutedLast req s := by
  obtain ⟨pre, e, post, hedit⟩ := editClusters_some hc
  have hsel : selected s.configs.m_ProxyConfig req.name = some e := selected_of_edit hedit
  have hlater : laterEndPoints s.configs.m_ProxyConfig req.name = post := later_of_edit hedit
  have hreach : t.reach = s.reach := reach_of_wiring hu.wiring
  unfold RoutedLast
  rw [hlater]
  constructor
  · rintro ⟨e', sid, sock, hsel', hm, hs, hservers, -, -⟩
    obtain rfl : e = e' := Option.some.inj (hsel.symm.trans hsel')
    have hb : s.reach req.name = some sock.loadBalancer := by
      rw [← hreach]
      exact reach_of_socket hm hs
    exact ⟨e, _, hsel, hb, (servers_after hedit hu hb).1 hservers⟩
  · rintro ⟨e', b, hsel', hb, hlast⟩
    obtain rfl : e = e' := Option.some.inj (hsel.symm.trans hsel')
    have hservers := (servers_after hedit hu hb).2 hlast
    rw [← hreach] at hb
    obtain ⟨sid, sock, hm, hs, rfl⟩ := reach_eq_some hb
    refine ⟨e, sid, sock, hsel, hm, hs, hservers, fun hop => ?_, fun hop server hmem => ?_⟩
    · rw [hservers]
      exact wantedServers_add hop
    · rw [hservers] at hmem
      exact wantedServers_delete hop hmem

/-- **An acknowledged update takes effect exactly when the endpoint it edits is the last to be routed.** Every state of
every run: `x` is any exchange of it. -/
theorem acknowledged_iff {lib : Lib} {s₀ s : State} {trace : List Exchange} (hrun : Run lib s₀ trace s) :
    ∀ x ∈ trace, ∀ content r, x.request = .updateEndPointService content → x.ending = .ret r → r.status = .ok →
      ∃ req, loadEndpointServiceFromString lib.xml x.world.uninit content = .ok req ∧
        (TakesEffect req x.before x.after ↔ RoutedLast req x.before) := by
  intro x hx content r hreq hend hok
  obtain ⟨req, cs, hload, hc, hu⟩ := updateEndPointService_acknowledged (hrun.updateEndPointService hx hreq hend) hok
  exact ⟨req, hload, takesEffect_iff hc hu⟩

/-- the exchange of a service update at the start of a process -/
def firstUpdate (docs : List (String × XMLDocument)) (content : String) : Exchange :=
  (plainProcess docs).exchange (.plain (.table docs)) .calm (.updateEndPointService content)

/-- one endpoint `a`, and a request that adds a service to it -/
def addToOne : List (String × XMLDocument) :=
  [("config.xml", endPointsDocument [endPointElement "a" "Pipeline" "" [("a1", "10.0.0.1")]]),
    ("add", updateDocument "add" "a" "a2" "10.0.0.2")]

theorem acknowledged_add :
    (firstUpdate addToOne "add").ending = .ret updatedReply ∧
    ∀ x ∈ [firstUpdate addToOne "add"], ∀ content r, x.request = .updateEndPointService content →
      x.ending = .ret r → r.status = .ok → ∃ req,
        loadEndpointServiceFromString (Lib.plain (.table addToOne)).xml x.world.uninit content = .ok req ∧
          (TakesEffect req x.before x.after ↔ RoutedLast req x.before) := by
  have hend : (firstUpdate addToOne "add").ending = .ret updatedReply := by decide
  have hrun : Run (.plain (.table addToOne)) (plainProcess addToOne) [firstUpdate addToOne "add"] _ :=
    .request .start .calm (.updateEndPointService "add") (Or.inl ⟨updatedReply, hend⟩)
  exact ⟨hend, acknowledged_iff hrun⟩

theorem hostsOf_of_takesEffect {req : EndPointServiceConfig} {s t : State} (h : TakesEffect req s t) :
    (selected s.configs.m_ProxyConfig req.name).map (fun e => (wantedServers req e).map ResolvedService.ipaddress) =
      some (t.hostsOf req.name) := by
  obtain ⟨e, sid, sock, hsel, hm, hs, hservers, -⟩ := h
  unfold State.hostsOf
  rw [hsel, reach_of_socket hm hs]
  simp only [hservers, Option.map_some]

/-- two endpoints with one name, and a request that adds a service to the name -/
def addToTwo : List (String × XMLDocument) :=
  [("config.xml", endPointsDocument [endPointElement "a" "Pipeline" "" [("a1", "10.0.0.1")],
      endPointElement "a" "Pipeline" "" [("a2", "10.0.0.2")]]),
    ("add", updateDocument "add" "a" "a3" "10.0.0.3")]

/-- the request that the text of an example reads as -/
def addRequest : EndPointServiceConfig := ⟨"a", "add", ⟨9440, 0, "a3", "10.0.0.3", ""⟩⟩

/-- the reply is ok, and `a` goes on routing to its second endpoint's service alone -/
theorem acknowledged_without_effect :
    (startProcess (.plain (.table addToTwo)) (fun _ => .calm) "config.xml").isSome ∧
    loadEndpointServiceFromString (.table addToTwo) World.calm.uninit "add" = .ok addRequest ∧
    (firstUpdate addToTwo "add").ending = .ret updatedReply ∧
    (firstUpdate addToTwo "add").after.hostsOf "a" = ["10.0.0.2"] ∧
    ¬ TakesEffect addRequest (firstUpdate addToTwo "add").before (firstUpdate addToTwo "add").after := by
  refine ⟨by decide, by decide, by decide, by decide, fun h => ?_⟩
  exact absurd (hostsOf_of_takesEffect h) (by decide)

/-! ## Refused updates -/

/-- the stored proxy configuration and every registered socket's list are as they were -/
def Unchanged (s t : State) : Prop :=
  t.configs.m_ProxyConfig = s.configs.m_ProxyConfig ∧ t.reach = s.reach ∧
    ∀ name b, s.reach name = some b → t.servers b = s.servers b

/-- the request parses and would change the endpoint it names, and the stored configuration does not resolve -/
def CommitsUnresolved (lib : Lib) (w : World) (content : String) (s : State) : Prop :=
  ∃ req e what, loadEndpointServiceFromString lib.xml w.uninit content = .ok req ∧
    selected s.configs.m_ProxyConfig req.name = some e ∧ Changes req e ∧
    resolutionFailure lib w s = some (.std what)

/-- one refused update -/
theorem unchanged_iff {lib : Lib} {w : World} {content : String} {s t : State} {r : Reply}
    (h : updateEndPointService lib w content s = (.ret r, t)) (hr : r.status = .error) :
    Unchanged s t ↔ ¬ CommitsUnresolved lib w content s := by
  have hreach : t.reach = s.reach := by
    have := updateEndPointService_wiring lib w content s
    rw [h] at this
    exact reach_of_wiring this
  rcases updateEndPointService_refused h hr with ⟨rfl, hnone⟩ | ⟨req, cs, what, hload, hc, hfail, hconfigs, hservers⟩
  · refine ⟨fun _ => ?_, fun _ => ⟨rfl, rfl, fun _ _ _ => rfl⟩⟩
    rintro ⟨req, e, what, hload, hsel, -, -⟩
    obtain ⟨cs, hcs⟩ := edit_of_selected hsel
    rw [hnone req hload] at hcs
    cases hcs
  · obtain ⟨pre, e, post, hedit⟩ := editClusters_some hc
    have hproxy : t.configs.m_ProxyConfig = ⟨cs⟩ := congrArg Configs.m_ProxyConfig hconfigs
    constructor
    · rintro ⟨hsame, -, -⟩ ⟨req', e', what', hload', hsel, hchanges, -⟩
      obtain rfl : req = req' := Except.ok.inj (hload.symm.trans hload')
      obtain rfl : e = e' := Option.some.inj ((selected_of_edit hedit).symm.trans hsel)
      -- an edit that stored the same configuration left the endpoint as it was
      have hendPoints : (ProxyConfig.mk cs).endPoints = s.configs.m_ProxyConfig.endPoints := by
        rw [← hproxy, hsame]
      rw [hedit.after, show s.configs.m_ProxyConfig.endPoints = pre ++ e :: post from hedit.before] at hendPoints
      have hself : editEndPoint req e = e := (List.cons.inj (List.append_cancel_left hendPoints)).1
      exact editEndPoint_eq_self.1 hself hchanges
    · intro hnot
      have hself : editEndPoint req e = e := by
        refine editEndPoint_eq_self.2 fun hchanges => hnot ⟨req, e, what, hload, selected_of_edit hedit, hchanges, hfail⟩
      have hcs : cs = s.configs.m_ProxyConfig.clusters := by
        refine editClusters_eq hc ?_
        rw [hedit.after, hself]
        exact hedit.before.symm
      refine ⟨?_, hreach, fun name b _ => congrFun hservers b⟩
      rw [hproxy, hcs]

/-- **A refused update changes nothing, exactly unless it commits an edit of a configuration that does not resolve.** `x`
is any exchange of any run. -/
theorem refused_iff {lib : Lib} {s₀ s : State} {trace : List Exchange} (hrun : Run lib s₀ trace s) :
    ∀ x ∈ trace, ∀ content r, x.request = .updateEndPointService content → x.ending = .ret r → r.status = .error →
      (Unchanged x.before x.after ↔ ¬ CommitsUnresolved lib x.world content x.before) := by
  intro x hx content r hreq hend herr
  exact unchanged_iff (hrun.updateEndPointService hx hreq hend) herr

/-- one endpoint `a`, and a request for another one -/
def addToNone : List (String × XMLDocument) :=
  [("config.xml", endPointsDocument [endPointElement "a" "Pipeline" "" [("a1", "10.0.0.1")]]),
    ("add", updateDocument "add" "b" "b1" "10.0.0.2")]

theorem refused_unknown :
    (firstUpdate addToNone "add").ending = .ret (errorReply "Endpoint 'b' not found.") ∧
    ∀ x ∈ [firstUpdate addToNone "add"], ∀ content r, x.request = .updateEndPointService content →
      x.ending = .ret r → r.status = .error →
        (Unchanged x.before x.after ↔ ¬ CommitsUnresolved (.plain (.table addToNone)) x.world content x.before) := by
  have hend : (firstUpdate addToNone "add").ending = .ret (errorReply "Endpoint 'b' not found.") := by decide
  have hrun : Run (.plain (.table addToNone)) (plainProcess addToNone) [firstUpdate addToNone "add"] _ :=
    .request .start .calm (.updateEndPointService "add") (Or.inl ⟨_, hend⟩)
  exact ⟨hend, refused_iff hrun⟩

/-- a document that starts, one with an endpoint whose pipeline has no plugin, and a request -/
def addAfterReload : List (String × XMLDocument) :=
  [("config.xml", endPointsDocument [endPointElement "a" "Pipeline" "" [("a1", "10.0.0.1")]]),
    ("reload", endPointsDocument [endPointElement "a" "Pipeline" "" [("a1", "10.0.0.1")],
      endPointElement "b" "Missing" "" []]),
    ("add", updateDocument "add" "a" "a2" "10.0.0.2")]

/-- the process after it was told to load the second document -/
def reloaded : State :=
  ((plainProcess addAfterReload).request (.plain (.table addAfterReload)) .calm (.updateConfiguration "reload")).2

/-- the names of the services stored for `a` -/
def storedServices (s : State) : List String :=
  match selected s.configs.m_ProxyConfig "a" with
  | none => []
  | some e => e.services.map Service.name

/-- the reload and the add are refused alike, the add is stored, and trying again stores it twice -/
theorem refused_but_committed :
    (startProcess (.plain (.table addAfterReload)) (fun _ => .calm) "config.xml").isSome ∧
    (reloaded.request (.plain (.table addAfterReload)) .calm (.updateEndPointService "add")).1 =
      .ret (errorReply "Pipeline plugin not found in plugins folder: Missing") ∧
    storedServices reloaded = ["a1"] ∧
    storedServices (reloaded.request (.plain (.table addAfterReload)) .calm (.updateEndPointService "add")).2 =
      ["a1", "a2"] ∧
    storedServices ((reloaded.request (.plain (.table addAfterReload)) .calm (.updateEndPointService "add")).2.request
      (.plain (.table addAfterReload)) .calm (.updateEndPointService "add")).2 = ["a1", "a2", "a2"] ∧
    ¬ Unchanged reloaded (reloaded.request (.plain (.table addAfterReload)) .calm (.updateEndPointService "add")).2 := by
  refine ⟨by decide, by decide, by decide, by decide, by decide, fun h => ?_⟩
  exact absurd h.1 (by decide)

end Asabru.ServiceUpdate
