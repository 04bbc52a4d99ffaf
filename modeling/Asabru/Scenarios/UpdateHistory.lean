/-
THE HISTORY OF SERVICE UPDATES: what a run of updates makes of the stored services, and of the live lists.

An update that is parsed is stored, also when it is not answered ok, and what it stored is applied with the next one that
is. So what is stored follows from the requests alone, and the lists from the requests up to the last acknowledgement.

- `update_history`: in every run of service updates the first endpoint of each name has the services, old ones before
  added ones, that no later delete of the endpoint names, and everything else is as it was; the balancers that the
  configuration reaches hold what it said at the last acknowledgement, and the others what they held;
- `updates_commute`: runs whose updates are the same for every endpoint, in the same order, store the same, and leave the
  same lists if their last updates are acknowledged.
Witnesses: `updated_list`, `swapped_updates`.
-/
import Mathlib.Tactic
import Asabru.Core.EditLog
import Asabru.Server.ServiceEdit
import Asabru.Scenarios.LiveHistory

namespace Asabru.UpdateHistory

open Asabru.Control Asabru.Xml Asabru.Config Asabru.Server Asabru.FirstEdit Asabru.EditLog Asabru.Reapplication
  Asabru.LiveHistory

/-! ## Logs of updates -/

/-- the update that a request was parsed to -/
def parsed (lib : Lib) (x : Exchange) : Option EndPointServiceConfig :=
  match x.request with
  | .updateConfiguration _ => none
  | .updateEndPointService content => (loadEndpointServiceFromString lib.xml x.world.uninit content).toOption

def updateLog (lib : Lib) (trace : List Exchange) : List EndPointServiceConfig := trace.filterMap (parsed lib)

/-- no update deletes services of the name -/
def kept (log : List EndPointServiceConfig) (service : Service) : Bool :=
  log.all fun req => req.operation = "add" || req.service.name ≠ service.name

/-- what the updates add and no later one deletes -/
def addedServices : List EndPointServiceConfig → List Service
  | [] => []
  | req :: log =>
    if req.operation = "add" && kept log req.service then req.service :: addedServices log else addedServices log

/-- the services after updates of their endpoint -/
def surviving (log : List EndPointServiceConfig) (services : List Service) : List Service :=
  services.filter (kept log) ++ addedServices log

def endPointEdits : Edits RemoteEndPoint EndPointServiceConfig String where
  key := RemoteEndPoint.endPointName
  target := EndPointServiceConfig.name
  act endpoint req := editEndPoint req endpoint
  keeps _ _ := rfl

/-- the edits of the log, stored one by one -/
def updates (log : List EndPointServiceConfig) (c : ProxyConfig) : ProxyConfig :=
  log.foldl (fun c req => ⟨(editClusters req c.clusters).getD c.clusters⟩) c

def shape (c : ProxyConfig) : List (String × ℕ) := c.clusters.map fun cl => (cl.clusterName, cl.endPoints.length)

/-- the first endpoint of each name has the services that survive its updates -/
structure AfterUpdates (log : List EndPointServiceConfig) (c c' : ProxyConfig) : Prop where
  shape : shape c' = shape c
  endPoints : ∀ i, c'.endPoints[i]? = c.endPoints[i]?.map fun e =>
    if e.endPointName ∈ (c.endPoints.take i).map RemoteEndPoint.endPointName then e
    else { e with services := surviving (log.filter fun req => req.name = e.endPointName) e.services }

section Logs

variable {log log' : List EndPointServiceConfig} {c c' : ProxyConfig}

theorem kept_cons (req : EndPointServiceConfig) (s : Service) :
    kept (req :: log) s = ((req.operation = "add" || req.service.name ≠ s.name) && kept log s) := rfl

/-- **All updates of an endpoint.** -/
theorem foldl_editEndPoint (log : List EndPointServiceConfig) (e : RemoteEndPoint) :
    log.foldl endPointEdits.act e = { e with services := surviving log e.services } := by
  induction log generalizing e with
  | nil =>
    have hall : e.services.filter (kept []) = e.services := List.filter_eq_self.2 fun _ _ => rfl
    rw [surviving, hall, addedServices, List.append_nil]
    rfl
  | cons req log ih =>
    rw [List.foldl_cons, ih]
    congr 1
    show surviving log (editEndPoint req e).services = surviving (req :: log) e.services
    unfold surviving editEndPoint
    by_cases hop : req.operation = "add"
    · rw [if_pos hop, List.filter_append, List.append_assoc]
      congr 1
      · exact List.filter_congr fun s _ => by simp [kept_cons, hop]
      · by_cases hk : kept log req.service = true
        · simp [addedServices, hop, hk]
        · simp [addedServices, hop, hk]
    · rw [if_neg hop, List.filter_filter, addedServices, if_neg (by simp [hop])]
      congr 1
      refine List.filter_congr fun s _ => ?_
      by_cases hs : req.service.name = s.name
      · simp [kept_cons, hop, hs]
      · simp [kept_cons, hs, Ne.symm hs]

theorem update_endPoints (req : EndPointServiceConfig) (c : ProxyConfig) :
    (ProxyConfig.mk ((editClusters req c.clusters).getD c.clusters)).endPoints =
      editFirst (isNamed req) (editEndPoint req) c.endPoints := by
  have hparts : ∀ cl : Cluster, (editCluster req cl).endPoints =
      editFirst (isNamed req) (editEndPoint req) cl.endPoints := fun _ => rfl
  rw [editClusters_first]
  exact flatMap_editFirst hparts c.clusters

theorem update_shape (req : EndPointServiceConfig) (c : ProxyConfig) :
    shape ⟨(editClusters req c.clusters).getD c.clusters⟩ = shape c := by
  rw [editClusters_first]
  refine map_editFirst (fun cl => ?_) c.clusters
  rw [editCluster, length_editFirst]

theorem updates_shape (log : List EndPointServiceConfig) (c : ProxyConfig) : shape (updates log c) = shape c := by
  induction log generalizing c with
  | nil => rfl
  | cons req log ih => exact (ih _).trans (update_shape req c)

theorem updates_endPoints (log : List EndPointServiceConfig) (c : ProxyConfig) :
    (updates log c).endPoints = endPointEdits.applied log c.endPoints := by
  induction log generalizing c with
  | nil => rfl
  | cons req log ih =>
    have hrest := ih ⟨(editClusters req c.clusters).getD c.clusters⟩
    rw [update_endPoints] at hrest
    exact hrest

/-- **What the updates of a log make of a configuration.** -/
theorem afterUpdates (log : List EndPointServiceConfig) (c : ProxyConfig) : AfterUpdates log c (updates log c) := by
  refine ⟨updates_shape log c, fun i => ?_⟩
  rw [updates_endPoints, applied_get]
  congr 1
  funext e
  rw [Edits.settled, foldl_editEndPoint]
  rfl

/-- the names stay in their places -/
theorem updates_names (log : List EndPointServiceConfig) (c : ProxyConfig) :
    (updates log c).endPoints.map RemoteEndPoint.endPointName = c.endPoints.map RemoteEndPoint.endPointName := by
  rw [updates_endPoints]
  exact applied_keys endPointEdits log c.endPoints

/-- clusters of the same shape with the same endpoints -/
theorem clusters_ext {cs cs' : List Cluster} (hshape : shape ⟨cs⟩ = shape ⟨cs'⟩)
    (heps : (ProxyConfig.mk cs).endPoints = (ProxyConfig.mk cs').endPoints) : cs = cs' := by
  induction cs generalizing cs' with
  | nil => exact (List.map_eq_nil_iff.1 hshape.symm).symm
  | cons cl cs ih =>
    cases cs' with
    | nil => cases hshape
    | cons cl' cs' =>
      obtain ⟨hhead, hrest⟩ := List.cons.inj hshape
      obtain ⟨hname, hlength⟩ := Prod.mk.inj hhead
      rw [endPoints_cons, endPoints_cons] at heps
      obtain ⟨hparts, htail⟩ := List.append_inj heps hlength
      obtain ⟨endPoints, name⟩ := cl
      obtain rfl : name = cl'.clusterName := hname
      obtain rfl : endPoints = cl'.endPoints := hparts
      rw [ih hrest htail]

/-- **Updates that are the same for every endpoint** make the same of a configuration. -/
theorem updates_agree (h : ∀ name, log.filter (fun req => req.name = name) = log'.filter fun req => req.name = name)
    (c : ProxyConfig) : updates log c = updates log' c := by
  refine congrArg ProxyConfig.mk (clusters_ext ((updates_shape log c).trans (updates_shape log' c).symm) ?_)
  show (updates log c).endPoints = (updates log' c).endPoints
  rw [updates_endPoints, updates_endPoints]
  exact applied_agree endPointEdits h c.endPoints

theorem updates_reached (log : List EndPointServiceConfig) (c : ProxyConfig) (reach : String → Option BalancerId)
    (b : BalancerId) : ReachedBy (updates log c) reach b ↔ ReachedBy c reach b := by
  have hnames : ∀ c : ProxyConfig, ReachedBy c reach b ↔
      ∃ name ∈ c.endPoints.map RemoteEndPoint.endPointName, reach name = some b := by
    intro c
    simp only [ReachedBy, List.mem_map, exists_exists_and_eq_and]
  rw [hnames, hnames, updates_names]

end Logs

/-! ## Runs of updates -/

section Runs

variable {lib : Lib} {s₀ s s' : State} {trace trace' : List Exchange}

def Updates (trace : List Exchange) : Prop := ∀ x ∈ trace, ∃ content, x.request = .updateEndPointService content

theorem updateLog_concat (trace : List Exchange) (x : Exchange) :
    updateLog lib (trace ++ [x]) = updateLog lib trace ++ (parsed lib x).toList := by
  unfold updateLog
  rw [List.filterMap_append]
  cases h : parsed lib x <;> simp [h]

theorem updates_concat (log : List EndPointServiceConfig) (req : EndPointServiceConfig) (c : ProxyConfig) :
    updates (log ++ [req]) c =
      ⟨(editClusters req (updates log c).clusters).getD (updates log c).clusters⟩ := by
  rw [updates, List.foldl_append]
  rfl

/-- **What a run of updates stores** follows from its requests. -/
theorem run_stored (h : Run lib s₀ trace s) (hup : Updates trace) :
    s.configs.m_ProxyConfig = updates (updateLog lib trace) s₀.configs.m_ProxyConfig := by
  induction h with
  | start => rfl
  | @request trace s hs w r _ ih =>
    have hbefore := ih fun x hx => hup x (List.mem_append_left _ hx)
    obtain ⟨content, hcontent⟩ := hup _ (List.mem_append_right _ (List.mem_singleton_self _))
    obtain rfl : r = .updateEndPointService content := hcontent
    show (Server.updateEndPointService lib w content s).2.configs.m_ProxyConfig = _
    rw [updateLog_concat]
    cases hl : loadEndpointServiceFromString lib.xml w.uninit content with
    | error e =>
      have hparsed : parsed lib (s.exchange lib w (.updateEndPointService content)) = none := by
        show (loadEndpointServiceFromString lib.xml w.uninit content).toOption = none
        rw [hl]
        rfl
      rw [hparsed, Option.toList_none, List.append_nil, ← hbefore, updateEndPointService_eq, hl]
      cases e <;> rfl
    | ok req =>
      have hparsed : parsed lib (s.exchange lib w (.updateEndPointService content)) = some req := by
        show (loadEndpointServiceFromString lib.xml w.uninit content).toOption = some req
        rw [hl]
        rfl
      rw [hparsed, Option.toList_some, updates_concat, ← hbefore]
      exact updateEndPointService_stored hl s

/-- the lists are as they were, or what the configuration after some updates says -/
def ListsOf (s₀ s : State) (c : ProxyConfig) : Prop :=
  ∀ b, s.servers b = if ReachedBy c s₀.reach b then appliedServers c s₀.reach b else s₀.servers b

/-- no update is acknowledged, or `x` is the last one that is -/
inductive Live (lib : Lib) (s₀ : State) (trace : List Exchange) (s : State) : Prop where
  | none (refused : ∀ x ∈ trace, acknowledged x = false) (servers : s.servers = s₀.servers)
  | last {pre post : List Exchange} {x : Exchange} (split : trace = pre ++ x :: post) (ok : acknowledged x = true)
      (refused : ∀ y ∈ post, acknowledged y = false)
      (servers : ListsOf s₀ s (updates (updateLog lib (pre ++ [x])) s₀.configs.m_ProxyConfig))

/-- an exchange that is not acknowledged -/
theorem Live.refused (h : Live lib s₀ trace s) {x : Exchange} (hack : acknowledged x = false)
    (hservers : s'.servers = s.servers) : Live lib s₀ (trace ++ [x]) s' := by
  cases h with
  | none hrefused hs =>
    refine .none (fun y hy => ?_) (hservers.trans hs)
    rcases List.mem_append.1 hy with hy | hy
    · exact hrefused y hy
    · obtain rfl := List.mem_singleton.1 hy
      exact hack
  | @last pre post y hsplit hok hrefused hs =>
    have hsplit' : trace ++ [x] = pre ++ y :: (post ++ [x]) := by rw [hsplit, List.append_assoc, List.cons_append]
    refine .last hsplit' hok (fun z hz => ?_) fun b => by rw [hservers, hs b]
    rcases List.mem_append.1 hz with hz | hz
    · exact hrefused z hz
    · obtain rfl := List.mem_singleton.1 hz
      exact hack

/-- balancers that the configuration does not reach keep their lists -/
theorem Live.unreached (h : Live lib s₀ trace s) {b : BalancerId}
    (hb : ¬ ReachedBy s₀.configs.m_ProxyConfig s₀.reach b) : s.servers b = s₀.servers b := by
  cases h with
  | none _ hs => rw [hs]
  | last _ _ _ hs => rw [hs b, if_neg (by rwa [updates_reached])]

/-- **The lists follow the last acknowledgement.** -/
theorem run_live (h : Run lib s₀ trace s) (hup : Updates trace) : Live lib s₀ trace s := by
  induction h with
  | start => exact .none (fun x hx => absurd hx List.not_mem_nil) rfl
  | @request trace s hs w r hend ih =>
    have hbefore := ih fun x hx => hup x (List.mem_append_left _ hx)
    have hstep := exchange_live lib w s r
    have hservers := hstep.servers
    cases hack : acknowledged (s.exchange lib w r) with
    | false =>
      rw [hack] at hservers
      exact hbefore.refused hack hservers
    | true =>
      have hstored : (s.exchange lib w r).after.configs.m_ProxyConfig = _ := run_stored (hs.request w r hend) hup
      have hreach : (s.exchange lib w r).before.reach = s₀.reach := reach_of_wiring hs.wiring
      rw [hack, if_pos rfl, hstored, hreach] at hservers
      refine .last rfl hack (fun y hy => absurd hy List.not_mem_nil) fun b => ?_
      show (s.exchange lib w r).after.servers b = _
      rw [hservers, Alias.replay_apply, lastWrite_reached]
      split_ifs with hb
      · rfl
      · exact hbefore.unreached fun hb₀ => hb ((updates_reached ..).2 hb₀)

/-- the last exchange is acknowledged -/
def LastOk (trace : List Exchange) : Prop := trace.getLast?.map acknowledged = some true

theorem Live.lastOk (h : Live lib s₀ trace s) (hlast : LastOk trace) :
    ListsOf s₀ s (updates (updateLog lib trace) s₀.configs.m_ProxyConfig) := by
  obtain ⟨y, hget, hy⟩ := Option.map_eq_some_iff.1 hlast
  obtain ⟨earlier, hearlier⟩ := List.getLast?_eq_some_iff.1 hget
  cases h with
  | none hrefused _ =>
    have hfalse := hrefused y (by rw [hearlier]; exact List.mem_append_right _ (List.mem_singleton_self y))
    rw [hy] at hfalse
    cases hfalse
  | @last pre post x hsplit _ hrefused hs =>
    rcases List.eq_nil_or_concat post with rfl | ⟨post, z, rfl⟩
    · rwa [hsplit]
    · -- the last exchange would be one of those that are not acknowledged
      rw [List.concat_eq_append] at hsplit hrefused
      rw [hearlier, ← List.cons_append, ← List.append_assoc] at hsplit
      obtain rfl : y = z := List.singleton_inj.1 (List.append_inj' hsplit rfl).2
      rw [hrefused y (List.mem_append_right _ (List.mem_singleton_self y))] at hy
      cases hy

/-- **The history of service updates.** -/
theorem update_history (h : Run lib s₀ trace s) (hup : Updates trace) :
    AfterUpdates (updateLog lib trace) s₀.configs.m_ProxyConfig s.configs.m_ProxyConfig ∧
    ((∀ x ∈ trace, acknowledged x = false) ∧ s.servers = s₀.servers ∨
      ∃ pre x post c, trace = pre ++ x :: post ∧ acknowledged x = true ∧ (∀ y ∈ post, acknowledged y = false) ∧
        AfterUpdates (updateLog lib (pre ++ [x])) s₀.configs.m_ProxyConfig c ∧ ListsOf s₀ s c) := by
  refine ⟨run_stored h hup ▸ afterUpdates _ _, ?_⟩
  cases run_live h hup with
  | none hrefused hs => exact Or.inl ⟨hrefused, hs⟩
  | last hsplit hok hrefused hs => exact Or.inr ⟨_, _, _, _, hsplit, hok, hrefused, afterUpdates _ _, hs⟩

/-- **Updates of different endpoints commute.** -/
theorem updates_commute (h : Run lib s₀ trace s) (h' : Run lib s₀ trace' s') (hup : Updates trace)
    (hup' : Updates trace') (hagree : ∀ name, ((updateLog lib trace).filter fun req => req.name = name) =
      (updateLog lib trace').filter fun req => req.name = name) :
    s.configs.m_ProxyConfig = s'.configs.m_ProxyConfig ∧ (LastOk trace → LastOk trace' → s.servers = s'.servers) := by
  have hsame := updates_agree hagree s₀.configs.m_ProxyConfig
  refine ⟨by rw [run_stored h hup, run_stored h' hup', hsame], fun hlast hlast' => funext fun b => ?_⟩
  rw [(run_live h hup).lastOk hlast b, (run_live h' hup').lastOk hlast' b, hsame]

end Runs

/-! ## Sequences of updates -/

section Sequences

variable (lib : Lib) (w : World)

def updated (s : State) (content : String) : Exchange := s.exchange lib w (.updateEndPointService content)

/-- the exchanges of updates that are made one after another -/
def updatesFrom (s : State) : List String → List Exchange
  | [] => []
  | content :: contents => updated lib w s content :: updatesFrom (updated lib w s content).after contents

def stateAfter (s : State) : List String → State
  | [] => s
  | content :: contents => stateAfter (updated lib w s content).after contents

variable {lib w}

theorem updatesFrom_run {s₀ s : State} {trace : List Exchange} (h : Run lib s₀ trace s) {contents : List String}
    (hall : ∀ x ∈ updatesFrom lib w s contents, Ended x.ending) :
    Run lib s₀ (trace ++ updatesFrom lib w s contents) (stateAfter lib w s contents) := by
  induction contents generalizing trace s with
  | nil =>
    rw [updatesFrom, List.append_nil]
    exact h
  | cons content contents ih =>
    have hend := hall _ List.mem_cons_self
    have hnext := ih (h.request w (.updateEndPointService content) hend) fun x hx => hall x (List.mem_cons_of_mem _ hx)
    rwa [List.append_assoc, List.singleton_append] at hnext

theorem updatesFrom_updates (s : State) (contents : List String) : Updates (updatesFrom lib w s contents) := by
  induction contents generalizing s with
  | nil => exact fun x hx => absurd hx List.not_mem_nil
  | cons content contents ih =>
    intro x hx
    rcases List.mem_cons.1 hx with rfl | hx
    · exact ⟨content, rfl⟩
    · exact ih _ x hx

end Sequences

/-! ## Fixed runs -/

/-- endpoints `a` and `b`, updates of them, and a name that is not there -/
def updateDocs : List (String × XMLDocument) :=
  [("config.xml", endPointsDocument [endPointElement "a" "Pipeline" "" [("a1", "10.0.0.1")],
      endPointElement "b" "Pipeline" "" [("b1", "10.0.1.1")]]),
    ("add a2", updateDocument "add" "a" "a2" "10.0.0.2"), ("add b2", updateDocument "add" "b" "b2" "10.0.1.2"),
    ("delete a1", updateDocument "delete" "a" "a1" ""), ("add c1", updateDocument "add" "c" "c1" "10.0.2.1")]

def updatesLib : Lib := .plain (.table updateDocs)

def updatesStart : State := plainProcess updateDocs

def answered (x : Exchange) : Bool :=
  match x.ending with
  | .ret _ => true
  | _ => false

theorem answered_ended {x : Exchange} (h : answered x = true) : Ended x.ending := by
  unfold answered at h
  split at h
  · exact Or.inl ⟨_, by assumption⟩
  · cases h

/-- the exchanges of a sequence from the start -/
def started (contents : List String) : List Exchange := updatesFrom updatesLib .calm updatesStart contents

def reached (contents : List String) : State := stateAfter updatesLib .calm updatesStart contents

theorem started_run {contents : List String} (hall : ∀ x ∈ started contents, answered x = true) :
    Run updatesLib updatesStart (started contents) (reached contents) :=
  updatesFrom_run .start fun x hx => answered_ended (hall x hx)

def aFirst : List String := ["add a2", "add c1", "add b2", "delete a1"]

def bFirst : List String := ["add c1", "add b2", "add a2", "delete a1"]

/-- **Witness.** Services are added and an old one deleted; an update in between is refused. -/
theorem updated_list : (reached aFirst).hostsOf "a" = ["10.0.0.2"] ∧
    AfterUpdates (updateLog updatesLib (started aFirst)) updatesStart.configs.m_ProxyConfig
      (reached aFirst).configs.m_ProxyConfig :=
  ⟨by decide, (update_history (started_run (by decide)) (updatesFrom_updates updatesStart aFirst)).1⟩

/-- logs that are the same for the names that they have -/
theorem agree_of_names {names : List String} {log log' : List EndPointServiceConfig} (hlog : ∀ req ∈ log, req.name ∈ names)
    (hlog' : ∀ req ∈ log', req.name ∈ names) (h : ∀ name ∈ names, (log.filter fun req => req.name = name) =
      log'.filter fun req => req.name = name) (name : String) :
    (log.filter fun req => req.name = name) = log'.filter fun req => req.name = name := by
  by_cases hname : name ∈ names
  · exact h name hname
  · have hnone : ∀ l : List EndPointServiceConfig, (∀ req ∈ l, req.name ∈ names) →
        l.filter (fun req => req.name = name) = [] := by
      intro l hl
      rw [List.filter_eq_nil_iff]
      intro req hreq heq
      exact hname (of_decide_eq_true heq ▸ hl req hreq)
    rw [hnone log hlog, hnone log' hlog']

/-- **Witness.** The same updates, with those of different endpoints in another order. -/
theorem swapped_updates : (reached aFirst).configs.m_ProxyConfig = (reached bFirst).configs.m_ProxyConfig ∧
    (reached aFirst).servers = (reached bFirst).servers := by
  have hagree := agree_of_names
    (by decide : ∀ req ∈ updateLog updatesLib (started aFirst), req.name ∈ ["a", "b", "c"])
    (by decide : ∀ req ∈ updateLog updatesLib (started bFirst), req.name ∈ ["a", "b", "c"]) (by decide)
  have hlast : LastOk (started aFirst) := by
    unfold LastOk
    decide
  have hlast' : LastOk (started bFirst) := by
    unfold LastOk
    decide
  obtain ⟨hconfigs, hservers⟩ := updates_commute (started_run (by decide)) (started_run (by decide))
    (updatesFrom_updates updatesStart aFirst) (updatesFrom_updates updatesStart bFirst) hagree
  exact ⟨hconfigs, hservers hlast hlast'⟩

end Asabru.UpdateHistory
