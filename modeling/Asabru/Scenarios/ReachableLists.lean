/-
WHAT THE UPDATES CAN REACH: every list of services, up to the two fields that a request cannot give.

Where the stored configuration resolves, it resolves again after every update: an update changes services only, and what
was loaded stays loaded. So in an environment that does not change no well-formed update of an endpoint is refused.

- `updates_acknowledged`: from a state whose configuration resolves, any sequence of requests that read as updates of
  endpoints of the configuration is a run in which every one is acknowledged;
- `lists_reachable`: for every endpoint that is the first of its name, and every list of services, the updates that
  delete its services and add the others are such a run. After it the endpoint has exactly these services, with the
  weight that the field held and no source host name, nothing else that is stored has changed, and the balancers hold
  what the configuration says.
Witness: `replaced_list`.

Premises: `ReadsInts`, and for each request a text that tinyxml2 reads as its document.
-/
import Mathlib.Tactic
import Asabru.Config.Render
import Asabru.Scenarios.RoundTrip
import Asabru.Scenarios.UpdateHistory

namespace Asabru.ReachableLists

open Asabru.Control Asabru.Xml Asabru.Config Asabru.Pipelines Asabru.Pipelines.PipelineFactory Asabru.Server
  Asabru.Reapplication Asabru.LiveHistory Asabru.UpdateHistory

/-! ## Resolving again -/

section Again

variable {lib : Lib} {w : World} {f f' : PipelineFactory} {e e' : RemoteEndPoint}

/-- the plugin of the endpoint is loaded, or can be -/
def Loadable (lib : Lib) (w : World) (e : RemoteEndPoint) (f : PipelineFactory) : Prop :=
  ∃ libPath, f.m_libNames.find? (fun libPath => e.pipeline = (lib.libnameothy libPath).1) = some libPath ∧
    ((f.map .proxy (lib.libnameothy libPath).2).join.isSome ∨ ∃ handle p, w.dl.dlopen libPath = .ok handle ∧
      w.dl.dlsym handle (lib.libnameothy libPath).2 = .ok p)

theorem loadable_registers (h : Loadable lib w e f) :
    ∃ f', f.registerPipeline lib.libnameothy w.dl .proxy e.pipeline = .ok f' := by
  obtain ⟨libPath, hfind, hload⟩ := h
  unfold registerPipeline loadPipeline
  rw [hfind]
  dsimp only
  split_ifs with hloaded
  · exact ⟨f, rfl⟩
  · obtain ⟨handle, p, hopen, hsym⟩ := hload.resolve_left hloaded
    exact ⟨_, by rw [hopen]; dsimp only; rw [hsym]⟩

/-- a load leaves loadable what was, and what it loads -/
theorem registers_loadable (h : f.registerPipeline lib.libnameothy w.dl .proxy e.pipeline = .ok f') :
    Loadable lib w e f' ∧ ∀ e', Loadable lib w e' f → Loadable lib w e' f' := by
  obtain ⟨libPath, hfind, ⟨rfl, hloaded⟩ | ⟨hnot, handle, p, hopen, hsym, rfl⟩⟩ := loadPipeline_cases h
  · exact ⟨⟨libPath, hfind, Or.inl hloaded⟩, fun _ => id⟩
  · refine ⟨⟨libPath, by rw [assign_libNames]; exact hfind, Or.inr ⟨handle, p, hopen, hsym⟩⟩, ?_⟩
    rintro e' ⟨libPath', hfind', hload'⟩
    refine ⟨libPath', by rw [assign_libNames]; exact hfind', hload'.imp_left fun hloaded' => ?_⟩
    rw [assign_other_entry f p]
    · exact hloaded'
    · rintro ⟨-, hsame⟩
      rw [hsame] at hloaded'
      exact hnot hloaded'

/-- the endpoint resolves -/
def Ready (lib : Lib) (w : World) (e : RemoteEndPoint) (f : PipelineFactory) : Prop :=
  ¬ (e.proxyPort ≤ 0 ∨ 65535 < e.proxyPort) ∧ Loadable lib w e f ∧ w.registerCommand e.handler = none

theorem resolves_ready {cfg : ResolvedProxyConfig} (h : resolveEndPoint lib w e f = (.ok cfg, f')) :
    Ready lib w e f' ∧ ∀ e', Ready lib w e' f → Ready lib w e' f' := by
  unfold resolveEndPoint at h
  split_ifs at h with hport
  · cases h
  · cases hreg : f.registerPipeline lib.libnameothy w.dl .proxy e.pipeline with
    | error err => simp only [hreg] at h; cases h
    | ok g =>
      simp only [hreg] at h
      cases hcommand : w.registerCommand e.handler with
      | some err => simp only [hcommand] at h; cases h
      | none =>
        simp only [hcommand] at h
        obtain rfl : g = f' := congrArg Prod.snd h
        obtain ⟨hself, hothers⟩ := registers_loadable hreg
        exact ⟨⟨hport, hself, hcommand⟩, fun e' he' => ⟨he'.1, hothers e' he'.2.1, he'.2.2⟩⟩

theorem ready_resolves (h : Ready lib w e f) : ∃ cfg f', resolveEndPoint lib w e f = (.ok cfg, f') := by
  obtain ⟨hport, hload, hcommand⟩ := h
  obtain ⟨f', hf'⟩ := loadable_registers hload
  simp only [resolveEndPoint, if_neg hport, hf', hcommand]
  exact ⟨_, f', rfl⟩

/-- **What resolved once** resolves again. -/
theorem resolves_again {c : ProxyConfig} {cfgs : List ResolvedProxyConfig}
    (h : resolveProxyServerConfigurations lib w c f = (.ok cfgs, f')) :
    ∃ cfgs' f'', resolveProxyServerConfigurations lib w c f' = (.ok cfgs', f'') := by
  have hready : ∀ e ∈ c.endPoints, Ready lib w e f' := by
    have hall := traverse_inv (P := fun done g => ∀ e ∈ done, Ready lib w e g) []
      (fun done e _ g cfg g' hdone hr => ?_) h fun e he => absurd he List.not_mem_nil
    · rwa [List.nil_append] at hall
    · obtain ⟨hself, hothers⟩ := resolves_ready hr
      intro e' he'
      rcases List.mem_append.1 he' with he' | he'
      · exact hothers e' (hdone e' he')
      · obtain rfl := List.mem_singleton.1 he'
        exact hself
  obtain ⟨cfgs', f'', hr, -⟩ := traverse_total (resolveEndPoint lib w) c.endPoints
    (P := fun g => ∀ e ∈ c.endPoints, Ready lib w e g) (fun e he g hg => by
      obtain ⟨cfg, g', hr⟩ := ready_resolves (hg e he)
      exact ⟨cfg, g', hr, fun e' he' => (resolves_ready hr).2 e' (hg e' he')⟩) hready
  exact ⟨cfgs', f'', hr⟩

theorem pass_resolves {s : State} (h : resolutionFailure lib w s = none) :
    resolutionFailure lib w (updateProxyServers lib w s).2 = none := by
  unfold resolutionFailure at h
  rcases hr : resolveProxyServerConfigurations lib w s.configs.m_ProxyConfig s.pipelineFactory with ⟨r, g⟩
  rw [hr] at h
  cases r with
  | error err => cases h
  | ok cfgs =>
    obtain ⟨cfgs', g', hagain⟩ := resolves_again hr
    obtain ⟨-, hreplayed⟩ := replayConfigs_servers lib cfgs { s with pipelineFactory := g }
    have hpass : (updateProxyServers lib w s).2 = (replayConfigs lib cfgs { s with pipelineFactory := g }).2 := by
      unfold updateProxyServers
      rw [hr, catchStd_state]
    unfold resolutionFailure
    rw [hpass, hreplayed.configs, hreplayed.pipelineFactory, hagain]
    rfl

end Again

/-! ## Sequences of updates -/

section Sequences

variable {lib : Lib} {w : World} {s : State}

/-- **One update** is answered ok where the configuration resolves, and it resolves again. -/
theorem update_acknowledged {content : String} {req : EndPointServiceConfig} (h : resolutionFailure lib w s = none)
    (hload : loadEndpointServiceFromString lib.xml w.uninit content = .ok req)
    (hnamed : ∃ e ∈ s.configs.m_ProxyConfig.endPoints, e.endPointName = req.name) :
    (updated lib w s content).ending = .ret updatedReply ∧
      resolutionFailure lib w (updated lib w s content).after = none := by
  obtain ⟨e, he, hname⟩ := hnamed
  cases hedit : editClusters req s.configs.m_ProxyConfig.clusters with
  | none => exact absurd hname (editClusters_none.1 hedit e he)
  | some cs =>
    have hcall : s.request lib w (.updateEndPointService content) =
        updateProxyServers lib w (s.setProxyConfig ⟨cs⟩) := by
      show Server.updateEndPointService lib w content s = _
      rw [updateEndPointService_eq, hload]
      dsimp only
      rw [updateProxyEndPointService_eq (loadEndpointService_operation hload), hedit]
    have hresolves : resolutionFailure lib w (s.setProxyConfig ⟨cs⟩) = none :=
      (resolutionFailure_edit hedit).trans h
    obtain ⟨t, ht, -⟩ := updateProxyServers_ok hresolves
    refine ⟨?_, ?_⟩
    · show (s.request lib w (.updateEndPointService content)).1 = _
      rw [hcall, ht]
    · show resolutionFailure lib w (s.request lib w (.updateEndPointService content)).2 = none
      rw [hcall]
      exact pass_resolves hresolves

/-- the names of the endpoints stay -/
theorem updated_named {content : String} {req req' : EndPointServiceConfig}
    (hload : loadEndpointServiceFromString lib.xml w.uninit content = .ok req)
    (hnamed : ∃ e ∈ s.configs.m_ProxyConfig.endPoints, e.endPointName = req'.name) :
    ∃ e ∈ (updated lib w s content).after.configs.m_ProxyConfig.endPoints, e.endPointName = req'.name := by
  have hstored : (updated lib w s content).after.configs.m_ProxyConfig = updates [req] s.configs.m_ProxyConfig :=
    updateEndPointService_stored hload s
  obtain ⟨e, he, hname⟩ := hnamed
  have hmem : req'.name ∈ (updated lib w s content).after.configs.m_ProxyConfig.endPoints.map
      RemoteEndPoint.endPointName := by
    rw [hstored, updates_names]
    exact hname ▸ List.mem_map_of_mem he
  exact List.mem_map.1 hmem

/-- **Updates are never refused** where the configuration resolves. -/
theorem updates_acknowledged {contents : List String} {reqs : List EndPointServiceConfig}
    (h : resolutionFailure lib w s = none)
    (hreads : List.Forall₂ (fun req content => loadEndpointServiceFromString lib.xml w.uninit content = .ok req) reqs
      contents) (hnamed : ∀ req ∈ reqs, ∃ e ∈ s.configs.m_ProxyConfig.endPoints, e.endPointName = req.name) :
    (∀ x ∈ updatesFrom lib w s contents, x.ending = .ret updatedReply) ∧
      updateLog lib (updatesFrom lib w s contents) = reqs := by
  induction hreads generalizing s with
  | nil => exact ⟨fun x hx => absurd hx List.not_mem_nil, rfl⟩
  | @cons req content reqs contents hload hrest ih =>
    obtain ⟨hanswer, hresolves⟩ := update_acknowledged h hload (hnamed req List.mem_cons_self)
    obtain ⟨hanswers, hlog⟩ := ih hresolves fun req' hreq' =>
      updated_named hload (hnamed req' (List.mem_cons_of_mem _ hreq'))
    have hparsed : parsed lib (updated lib w s content) = some req := by
      show (loadEndpointServiceFromString lib.xml w.uninit content).toOption = some req
      rw [hload]
      rfl
    refine ⟨List.forall_mem_cons.2 ⟨hanswer, hanswers⟩, ?_⟩
    show (updated lib w s content :: updatesFrom lib w _ contents).filterMap (parsed lib) = _
    rw [List.filterMap_cons_some hparsed]
    exact congrArg (req :: ·) hlog

end Sequences

/-! ## Requests -/

/-- what a request can ask for -/
inductive Change where
  | add (service : Service)
  | delete (service : Service)

/-- the service element of a request -/
def Change.service : Change → XMLElement
  | .add service => node "service" [("name", service.name)]
      [textElement "host" service.host, textElement "port" service.port.repr]
  | .delete service => node "service" [("name", service.name)] []

def Change.operation : Change → String
  | .add _ => "add"
  | .delete _ => "delete"

def Change.document (name : String) (change : Change) : XMLDocument :=
  Xml.document (node "end_point" [("name", name)] [textElement "operation" change.operation, change.service])

/-- the service that a request adds -/
def requested (w : World) (service : Service) : Service :=
  { service with weight := w.uninit.updateService.weight, source_hostname := "" }

/-- what the request is read as -/
def Change.request (w : World) (name : String) : Change → EndPointServiceConfig
  | .add service => ⟨name, "add", requested w service⟩
  | .delete service =>
    ⟨name, "delete", ⟨w.uninit.updateService.port, w.uninit.updateService.weight, service.name, "", ""⟩⟩

def Change.InRange : Change → Prop
  | .add service => Int32 service.port
  | .delete _ => True

/-- the text reads back as the document -/
def Written (lib : Lib) (doc : XMLDocument) (content : String) : Prop :=
  content ≠ "" ∧ lib.xml.parse content = .ok doc

/-- the services out, and others in -/
def replacement (services targets : List Service) : List Change := services.map .delete ++ targets.map .add

section Requests

variable {lib : Lib} {w : World} {name : String}

theorem document_endPoint (change : Change) : (change.document name).firstChildElement "end_point" =
    some (node "end_point" [("name", name)] [textElement "operation" change.operation, change.service]) := rfl

/-- **A written request** is read as it is meant. -/
theorem change_loads (hx : ReadsInts lib.xml) {change : Change} (hin : change.InRange) {content : String}
    (h : Written lib (change.document name) content) :
    loadEndpointServiceFromString lib.xml w.uninit content = .ok (change.request w name) := by
  have hread : readRequest lib.xml content = some (change.document name) := by
    unfold readRequest
    rw [if_neg h.1, h.2]
  rw [loadRequest_read hread, parseEndPointServiceConfiguration, document_endPoint]
  cases change with
  | add service =>
    have hport : lib.xml.queryIntText (textElement "port" service.port.repr) = .ok service.port :=
      queryIntText_textElement hx hin "port"
    simp [Change.operation, Change.service, Change.request, requested, hport]
  | delete service =>
    have hhost : safeText none = "" := rfl
    simp [Change.operation, Change.service, Change.request, hhost]

theorem changes_load (hx : ReadsInts lib.xml) {changes : List Change} (hin : ∀ change ∈ changes, change.InRange)
    {contents : List String} (h : List.Forall₂ (fun change => Written lib (change.document name)) changes contents) :
    List.Forall₂ (fun req content => loadEndpointServiceFromString lib.xml w.uninit content = .ok req)
      (changes.map (Change.request w name)) contents := by
  rw [List.forall₂_map_left_iff]
  exact ((List.forall₂_and_left _ _).2 ⟨hin, h⟩).imp fun change content hboth => change_loads hx hboth.1 hboth.2

theorem replacement_inRange {services targets : List Service} (h : ∀ service ∈ targets, Int32 service.port) :
    ∀ change ∈ replacement services targets, change.InRange := by
  intro change hchange
  rcases List.mem_append.1 hchange with hold | hnew
  · obtain ⟨service, -, rfl⟩ := List.mem_map.1 hold
    exact trivial
  · obtain ⟨service, hservice, rfl⟩ := List.mem_map.1 hnew
    exact h service hservice

theorem change_name (change : Change) : (change.request w name).name = name := by
  cases change <;> rfl

theorem kept_adds (targets : List Service) (service : Service) :
    kept (targets.map fun t => (Change.add t).request w name) service = true := by
  unfold kept
  rw [List.all_map, List.all_eq_true]
  exact fun _ _ => rfl

theorem addedServices_adds (targets : List Service) :
    addedServices (targets.map fun t => (Change.add t).request w name) = targets.map (requested w) := by
  induction targets with
  | nil => rfl
  | cons t targets ih =>
    have hkept : kept (targets.map fun t => (Change.add t).request w name) (requested w t) = true :=
      kept_adds targets (requested w t)
    rw [List.map_cons, addedServices, if_pos, ih]
    · rfl
    · rw [Bool.and_eq_true]
      exact ⟨rfl, hkept⟩

theorem addedServices_deletes (services : List Service) (log : List EndPointServiceConfig) :
    addedServices ((services.map fun t => (Change.delete t).request w name) ++ log) = addedServices log := by
  induction services with
  | nil => rfl
  | cons t services ih => exact ih

/-- **A replacement** leaves the targets. -/
theorem surviving_replacement (services targets : List Service) :
    surviving ((replacement services targets).map (Change.request w name)) services = targets.map (requested w) := by
  have hlog : (replacement services targets).map (Change.request w name) =
      (services.map fun t => (Change.delete t).request w name) ++
        targets.map fun t => (Change.add t).request w name := by
    rw [replacement, List.map_append, List.map_map, List.map_map]
    rfl
  have hold : services.filter (kept ((replacement services targets).map (Change.request w name))) = [] := by
    rw [List.filter_eq_nil_iff]
    intro service hservice hkept
    have hdeleted : (Change.delete service).request w name ∈
        (replacement services targets).map (Change.request w name) :=
      List.mem_map_of_mem (List.mem_append_left _ (List.mem_map_of_mem hservice))
    have hother := List.all_eq_true.1 hkept _ hdeleted
    simp [Change.request] at hother
  rw [surviving, hold, List.nil_append, hlog, addedServices_deletes, addedServices_adds]

end Requests

/-! ## Every list -/

/-- an endpoint has been replaced by one of the same name, and the lists are as the configuration says -/
structure Replaced (s s' : State) (i : ℕ) (e : RemoteEndPoint) : Prop where
  sections : s'.configs.m_ProtocolServerConfig = s.configs.m_ProtocolServerConfig ∧
    s'.configs.m_ApiGatewayServerConfig = s.configs.m_ApiGatewayServerConfig
  shape : shape s'.configs.m_ProxyConfig = shape s.configs.m_ProxyConfig
  endPoints : s'.configs.m_ProxyConfig.endPoints = s.configs.m_ProxyConfig.endPoints.set i e
  lists : ListsOf s s' s'.configs.m_ProxyConfig

section Reach

variable {lib : Lib} {w : World} {s : State} {e : RemoteEndPoint} {i : ℕ} {targets : List Service}
  {contents : List String}

/-- updates of the first endpoint of a name change that endpoint only -/
theorem updates_set {log : List EndPointServiceConfig} {c : ProxyConfig} (he : c.endPoints[i]? = some e)
    (hfirst : e.endPointName ∉ (c.endPoints.take i).map RemoteEndPoint.endPointName)
    (hnames : ∀ req ∈ log, req.name = e.endPointName) :
    (updates log c).endPoints = c.endPoints.set i { e with services := surviving log e.services } := by
  rw [updates_endPoints, EditLog.applied_set endPointEdits he hfirst hnames, foldl_editEndPoint]

/-- updates leave the other sections -/
theorem run_sections {s₀ : State} {trace : List Exchange} (h : Run lib s₀ trace s) (hup : Updates trace) :
    s.configs.m_ProtocolServerConfig = s₀.configs.m_ProtocolServerConfig ∧
      s.configs.m_ApiGatewayServerConfig = s₀.configs.m_ApiGatewayServerConfig := by
  induction h with
  | start => exact ⟨rfl, rfl⟩
  | @request trace s _ w r _ ih =>
    have hbefore := ih fun x hx => hup x (List.mem_append_left _ hx)
    obtain ⟨content, hcontent⟩ := hup _ (List.mem_append_right _ (List.mem_singleton_self _))
    obtain rfl : r = .updateEndPointService content := hcontent
    show (Server.updateEndPointService lib w content s).2.configs.m_ProtocolServerConfig = _ ∧
      (Server.updateEndPointService lib w content s).2.configs.m_ApiGatewayServerConfig = _
    rcases @RoundTrip.updateEndPointService_configs lib w content s with hsame | ⟨req, cs, -, -, hedit⟩
    · rwa [hsame]
    · rwa [hedit]

/-- there is a service to delete or one to add -/
theorem written_nonempty {services : List Service} {name : String} (hsome : services ≠ [] ∨ targets ≠ [])
    (h : List.Forall₂ (fun change => Written lib (change.document name)) (replacement services targets) contents) :
    contents ≠ [] := by
  intro hempty
  rw [hempty, List.forall₂_nil_right_iff, replacement, List.append_eq_nil_iff, List.map_eq_nil_iff,
    List.map_eq_nil_iff] at h
  obtain ⟨hnoServices, hnoTargets⟩ := h
  exact hsome.elim (absurd hnoServices) (absurd hnoTargets)

theorem answers_lastOk (hsome : contents ≠ [])
    (h : ∀ x ∈ updatesFrom lib w s contents, x.ending = .ret updatedReply) :
    LastOk (updatesFrom lib w s contents) := by
  have hne : updatesFrom lib w s contents ≠ [] := by
    cases contents with
    | nil => exact absurd rfl hsome
    | cons content contents => exact List.cons_ne_nil _ _
  have hanswer := h _ (List.getLast_mem hne)
  unfold LastOk
  rw [List.getLast?_eq_some_getLast hne, Option.map_some, acknowledged, hanswer]
  rfl

/-- **Every list is reachable.** -/
theorem lists_reachable (hx : ReadsInts lib.xml) (hres : resolutionFailure lib w s = none)
    (he : s.configs.m_ProxyConfig.endPoints[i]? = some e)
    (hfirst : e.endPointName ∉ (s.configs.m_ProxyConfig.endPoints.take i).map RemoteEndPoint.endPointName)
    (hports : ∀ service ∈ targets, Int32 service.port) (hsome : e.services ≠ [] ∨ targets ≠ [])
    (hwritten : List.Forall₂ (fun change => Written lib (change.document e.endPointName))
      (replacement e.services targets) contents) :
    Run lib s (updatesFrom lib w s contents) (stateAfter lib w s contents) ∧
      (∀ x ∈ updatesFrom lib w s contents, x.ending = .ret updatedReply) ∧
      Replaced s (stateAfter lib w s contents) i { e with services := targets.map (requested w) } := by
  have hnames : ∀ req ∈ (replacement e.services targets).map (Change.request w e.endPointName),
      req.name = e.endPointName := by
    intro req hreq
    obtain ⟨change, -, rfl⟩ := List.mem_map.1 hreq
    exact change_name change
  obtain ⟨hanswers, hlog⟩ := updates_acknowledged hres (changes_load hx (replacement_inRange hports) hwritten)
    fun req hreq => ⟨e, List.mem_of_getElem? he, (hnames req hreq).symm⟩
  have hrun : Run lib s (updatesFrom lib w s contents) (stateAfter lib w s contents) :=
    updatesFrom_run .start fun x hx => Or.inl ⟨_, hanswers x hx⟩
  have hup : Updates (updatesFrom lib w s contents) := updatesFrom_updates s contents
  have hstored := run_stored hrun hup
  rw [hlog] at hstored
  refine ⟨hrun, hanswers, run_sections hrun hup, ?_, ?_, ?_⟩
  · rw [hstored]
    exact updates_shape _ _
  · rw [hstored, updates_set he hfirst hnames, surviving_replacement]
  · have hlists := (run_live hrun hup).lastOk (answers_lastOk (written_nonempty hsome hwritten) hanswers)
    rwa [hlog, ← hstored] at hlists

end Reach

/-! ## A fixed run -/

def oldService : Service := ⟨9440, 1, "a1", "10.0.0.1", ""⟩

/-- another host and port under the old name -/
def movedService : Service := ⟨9441, 1, "a1", "10.0.0.7", ""⟩

def addedService : Service := ⟨9442, 1, "a2", "10.0.0.2", ""⟩

def replaceDocs : List (String × XMLDocument) :=
  [("config.xml", endPointsDocument [endPointElement "a" "Pipeline" "" [("a1", "10.0.0.1")],
      endPointElement "b" "Pipeline" "" [("b1", "10.0.1.1")]]),
    ("delete a1", (Change.delete oldService).document "a"), ("add a1", (Change.add movedService).document "a"),
    ("add a2", (Change.add addedService).document "a")]

def replaceLib : Lib := .plain (.table replaceDocs)

def replaceStart : State := plainProcess replaceDocs

def replaceContents : List String := ["delete a1", "add a1", "add a2"]

def replacedEndPoint : RemoteEndPoint := ⟨"a", 9000, false, [oldService], "Handler", "Pipeline", ""⟩

/-- **Witness.** A service is moved and another one added. -/
theorem replaced_list :
    (stateAfter replaceLib .calm replaceStart replaceContents).hostsOf "a" = ["10.0.0.7", "10.0.0.2"] ∧
      Replaced replaceStart (stateAfter replaceLib .calm replaceStart replaceContents) 0
        { replacedEndPoint with services := [movedService, addedService].map (requested .calm) } := by
  have hwritten : List.Forall₂ (fun change => Written replaceLib (change.document "a"))
      (replacement [oldService] [movedService, addedService]) replaceContents :=
    .cons ⟨by decide, rfl⟩ (.cons ⟨by decide, rfl⟩ (.cons ⟨by decide, rfl⟩ .nil))
  have hports : ∀ service ∈ [movedService, addedService], Int32 service.port := by
    unfold Xml.Int32
    decide
  obtain ⟨-, -, hreplaced⟩ := lists_reachable (w := .calm) (s := replaceStart) (e := replacedEndPoint) (i := 0)
    (table_readsInts replaceDocs) (by decide) (by decide) (by decide) hports (Or.inl (by decide)) hwritten
  exact ⟨by decide, hreplaced⟩

end Asabru.ReachableLists
