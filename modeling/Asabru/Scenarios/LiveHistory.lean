/-
THE LIVE LISTS OVER A WHOLE RUN: what the sockets and balancers hold after any sequence of management requests.

A request stores, or does not, and then passes over what is stored, or does not. It may be refused after it stored, so the
stored configuration runs ahead of the live one. The live lists and endpoint configurations depend on the start and on the
configurations that were in force at the acknowledgements, and on nothing else that happened.

- `live_history`: in every run the lists and the endpoint configurations are what the acknowledged configurations, in
  order, made of those at the start; a balancer holds the servers that the last of them that reaches it says; and an
  exchange that is not answered ok changes no list and no socket.
Witness: `refused_updates_leave_no_trace`.
-/
import Mathlib.Tactic
import Asabru.Scenarios.Reapplication
import Asabru.Server.Interleaving

namespace Asabru.LiveHistory

open Asabru.Control Asabru.Xml Asabru.Config Asabru.Server Asabru.Reapplication

/-! ## Histories -/

/-- the exchange was answered ok -/
def acknowledged (x : Exchange) : Bool :=
  match x.ending with
  | .ret r => r.status = .ok
  | _ => false

/-- the configurations in force at the acknowledgements of a run, in order -/
def acknowledgedConfigs (trace : List Exchange) : List ProxyConfig :=
  (trace.filter acknowledged).map fun x => x.after.configs.m_ProxyConfig

theorem acknowledgedConfigs_concat (trace : List Exchange) (x : Exchange) :
    acknowledgedConfigs (trace ++ [x]) =
      acknowledgedConfigs trace ++ if acknowledged x then [x.after.configs.m_ProxyConfig] else [] := by
  unfold acknowledgedConfigs
  rw [List.filter_append, List.map_append]
  by_cases hx : acknowledged x <;> simp [hx]

/-! ## One request -/

/-- **Every request prepares configurations**, and then makes a pass or is not answered ok. -/
theorem request_pass (lib : Lib) (w : World) (s : State) (r : Request) : ∃ configs,
    s.request lib w r = updateProxyServers lib w (s.withConfigs configs) ∨
      ((s.request lib w r).2 = s.withConfigs configs ∧
        ∀ reply, (s.request lib w r).1 = .ret reply → reply.status = .error) := by
  cases r with
  | updateConfiguration content =>
    show ∃ configs, Server.updateConfiguration lib w content s = _ ∨ _
    refine ⟨(s.loadFromString lib w content).2.configs, ?_⟩
    have hload : (s.loadFromString lib w content).2 = s.withConfigs (s.loadFromString lib w content).2.configs := rfl
    simp only [State.request]
    rw [updateConfiguration_eq]
    rcases he : s.loadFromString lib w content with ⟨e, t⟩
    rw [he] at hload
    cases e with
    | ret code => exact Or.inl (congrArg (updateProxyServers lib w) hload)
    | throws err =>
      cases err with
      | std what => exact Or.inr ⟨hload, fun reply h => by rw [← Ending.ret.inj h]; rfl⟩
      | other => exact Or.inr ⟨hload, fun reply h => by cases h⟩
    | hangs => exact Or.inr ⟨hload, fun reply h => by cases h⟩
    | undefined => exact Or.inr ⟨hload, fun reply h => by cases h⟩
  | updateEndPointService content =>
    simp only [State.request]
    rw [updateEndPointService_eq]
    cases hl : loadEndpointServiceFromString lib.xml w.uninit content with
    | error e =>
      refine ⟨s.configs, Or.inr ?_⟩
      cases e with
      | std what => exact ⟨rfl, fun reply h => by rw [← Ending.ret.inj h]; rfl⟩
      | other => exact ⟨rfl, fun reply h => by cases h⟩
    | ok req =>
      simp only [updateProxyEndPointService_eq (loadEndpointService_operation hl)]
      cases editClusters req s.configs.m_ProxyConfig.clusters with
      | none => exact ⟨s.configs, Or.inr ⟨rfl, fun reply h => by rw [← Ending.ret.inj h]; rfl⟩⟩
      | some clusters => exact ⟨{ s.configs with m_ProxyConfig := ⟨clusters⟩ }, Or.inl rfl⟩

/-- what an exchange does to the live state -/
structure LiveStep (x : Exchange) : Prop where
  servers : x.after.servers = Alias.replay x.before.reach x.before.servers
    (if acknowledged x then ProxyConfig.writes x.after.configs.m_ProxyConfig else [])
  configs : endpointConfigs x.after = Alias.replay (socketOf x.before) (endpointConfigs x.before)
    (if acknowledged x then configWrites x.after.configs.m_ProxyConfig else [])
  sockets : acknowledged x = false → x.after.proxySockets = x.before.proxySockets

/-- **One exchange** applies what is stored after it, or nothing. -/
theorem exchange_live (lib : Lib) (w : World) (s : State) (r : Request) : LiveStep (s.exchange lib w r) := by
  obtain ⟨configs, hpass | ⟨hstate, hstatus⟩⟩ := request_pass lib w s r
  · have hafter : (s.exchange lib w r).after = (updateProxyServers lib w (s.withConfigs configs)).2 :=
      congrArg Prod.snd hpass
    have hending : (s.exchange lib w r).ending = (updateProxyServers lib w (s.withConfigs configs)).1 :=
      congrArg Prod.fst hpass
    have hanswer := updateProxyServers_ending lib w (s.withConfigs configs)
    cases hf : resolutionFailure lib w (s.withConfigs configs) with
    | none =>
      have hack : acknowledged (s.exchange lib w r) = true := by
        unfold acknowledged
        rw [hending, hanswer, hf]
        rfl
      obtain ⟨t, ht, hu⟩ := updateProxyServers_ok hf
      have hconfigs := updateProxyServers_configs hf
      rw [ht] at hafter hconfigs
      refine ⟨?_, ?_, fun h => by rw [hack] at h; cases h⟩
      · rw [if_pos hack, hafter, hu.configs]
        exact hu.servers
      · rw [if_pos hack, hafter, hu.configs]
        exact hconfigs
    | some e =>
      have hack : acknowledged (s.exchange lib w r) = false := by
        unfold acknowledged
        rw [hending, hanswer, hf]
        cases e <;> rfl
      obtain ⟨f, hfails⟩ := updateProxyServers_fails hf
      rw [hfails, catchStd_state] at hafter
      refine ⟨?_, ?_, fun _ => by rw [hafter]; rfl⟩
      · rw [hack, hafter]
        rfl
      · rw [hack, hafter]
        rfl
  · have hafter : (s.exchange lib w r).after = s.withConfigs configs := hstate
    have hack : acknowledged (s.exchange lib w r) = false := by
      unfold acknowledged
      cases he : (s.exchange lib w r).ending with
      | ret reply =>
        have := hstatus reply he
        simp [this]
      | throws err => rfl
      | hangs => rfl
      | undefined => rfl
    refine ⟨?_, ?_, fun _ => by rw [hafter]; rfl⟩
    · rw [hack, hafter]
      rfl
    · rw [hack, hafter]
      rfl

/-! ## Runs -/

theorem lastWrite_reached (c : ProxyConfig) (reach : String → Option BalancerId) (b : BalancerId) :
    Alias.lastWrite reach b (ProxyConfig.writes c) =
      if ReachedBy c reach b then some (appliedServers c reach b) else none := by
  rw [lastWrite_writes]
  unfold appliedServers
  cases hl : (c.endPoints.filter fun e => reach e.endPointName = some b).getLast? with
  | none =>
    rw [List.getLast?_eq_none_iff, List.filter_eq_nil_iff] at hl
    rw [if_neg]
    · rfl
    · intro ⟨e, he, hr⟩
      exact hl e he (decide_eq_true hr)
  | some e =>
    obtain ⟨he, hr⟩ := List.mem_filter.1 (List.mem_of_getLast? hl)
    rw [if_pos ⟨e, he, of_decide_eq_true hr⟩]
    rfl

/-- the last configuration that reaches a balancer decides its list -/
theorem replay_configs (reach : String → Option BalancerId) (st : BalancerId → List ResolvedService)
    (cs : List ProxyConfig) (b : BalancerId) :
    Alias.replay reach st (cs.flatMap ProxyConfig.writes) b =
      (cs.reverse.find? fun c => ReachedBy c reach b).elim (st b) fun c => appliedServers c reach b := by
  rw [List.flatMap_def, Alias.replay_batches, ← List.map_reverse, List.findSome?_map]
  induction cs.reverse with
  | nil => rfl
  | cons c cs ih =>
    rw [List.findSome?_cons, List.find?_cons]
    simp only [Function.comp_apply, lastWrite_reached]
    by_cases hc : ReachedBy c reach b
    · simp [hc]
    · simpa [hc] using ih

/-- the live state is a replay over the start -/
theorem run_replays {lib : Lib} {s₀ s : State} {trace : List Exchange} (hrun : Run lib s₀ trace s) :
    s.servers = Alias.replay s₀.reach s₀.servers ((acknowledgedConfigs trace).flatMap ProxyConfig.writes) ∧
      endpointConfigs s =
        Alias.replay (socketOf s₀) (endpointConfigs s₀) ((acknowledgedConfigs trace).flatMap configWrites) := by
  induction hrun with
  | start => exact ⟨rfl, rfl⟩
  | @request trace s hs w r _ ih =>
    have hstep := exchange_live lib w s r
    rw [acknowledgedConfigs_concat, List.flatMap_append, List.flatMap_append, Alias.replay_append,
      Alias.replay_append, ← ih.1, ← ih.2, ← reach_of_wiring hs.wiring, ← socketOf_of_wiring hs.wiring]
    refine ⟨hstep.servers.trans ?_, hstep.configs.trans ?_⟩
    · split_ifs <;> simp [State.exchange]
    · split_ifs <;> simp [State.exchange]

/-- what the last configuration that reaches a balancer made of its list -/
theorem run_servers {lib : Lib} {s₀ s : State} {trace : List Exchange} (hrun : Run lib s₀ trace s) (b : BalancerId) :
    s.servers b = ((acknowledgedConfigs trace).reverse.find? fun c => ReachedBy c s₀.reach b).elim
      (s₀.servers b) fun c => appliedServers c s₀.reach b := by
  rw [(run_replays hrun).1, replay_configs]

/-- **The live state of every run** is a replay of its acknowledged configurations over the start. -/
theorem live_history {lib : Lib} {s₀ s : State} {trace : List Exchange} (hrun : Run lib s₀ trace s) :
    s.servers = Alias.replay s₀.reach s₀.servers ((acknowledgedConfigs trace).flatMap ProxyConfig.writes) ∧
      endpointConfigs s =
        Alias.replay (socketOf s₀) (endpointConfigs s₀) ((acknowledgedConfigs trace).flatMap configWrites) ∧
      (∀ b, s.servers b = ((acknowledgedConfigs trace).reverse.find? fun c => ReachedBy c s₀.reach b).elim
        (s₀.servers b) fun c => appliedServers c s₀.reach b) ∧
      ∀ x ∈ trace, acknowledged x = false →
        x.after.servers = x.before.servers ∧ x.after.proxySockets = x.before.proxySockets := by
  obtain ⟨hservers, hconfigs⟩ := run_replays hrun
  refine ⟨hservers, hconfigs, run_servers hrun, fun x hx hack => ?_⟩
  obtain ⟨heq, -⟩ := hrun.exchange hx
  have hstep := exchange_live lib x.world x.before x.request
  rw [← heq] at hstep
  refine ⟨?_, hstep.sockets hack⟩
  rw [hstep.servers, hack]
  rfl

/-! ## A fixed run -/

/-- an endpoint, an update of it, an update of another one, and a reload whose pipeline is not there -/
def refusals : List (String × XMLDocument) :=
  [("config.xml", endPointsDocument [endPointElement "a" "Pipeline" "" [("a1", "10.0.0.1")]]),
    ("add", updateDocument "add" "a" "a2" "10.0.0.2"), ("stray", updateDocument "add" "b" "b1" "10.0.0.3"),
    ("reload", endPointsDocument [endPointElement "a" "Missing" "" [("a1", "10.0.0.4")]])]

/-- the exchange that a request makes with the calm environment -/
def refusalsExchange (s : State) (r : Request) : Exchange := s.exchange (.plain (.table refusals)) .calm r

def added : Exchange := refusalsExchange (plainProcess refusals) (.updateEndPointService "add")
def strayed : Exchange := refusalsExchange added.after (.updateEndPointService "stray")
def reloaded : Exchange := refusalsExchange strayed.after (.updateConfiguration "reload")

/-- **Witness.** An update is applied, another one is refused, and a reload is stored and refused. -/
theorem refused_updates_leave_no_trace :
    reloaded.after.hostsOf "a" = ["10.0.0.1", "10.0.0.2"] ∧
      (reloaded.after.configs.m_ProxyConfig.endPoints.flatMap fun e => e.services.map Service.host) = ["10.0.0.4"] ∧
      reloaded.after.servers (.own 0) =
        appliedServers added.after.configs.m_ProxyConfig (plainProcess refusals).reach (.own 0) := by
  have hadded : added.ending = .ret updatedReply := by decide
  have hstrayed : strayed.ending = .ret (errorReply "Endpoint 'b' not found.") := by decide
  have hreloaded : reloaded.ending = .ret (errorReply "Pipeline plugin not found in plugins folder: Missing") := by
    decide
  have hrun : Run (.plain (.table refusals)) (plainProcess refusals) [added, strayed, reloaded] reloaded.after :=
    .request (.request (.request .start .calm (.updateEndPointService "add") (Or.inl ⟨_, hadded⟩)) .calm
      (.updateEndPointService "stray") (Or.inl ⟨_, hstrayed⟩)) .calm (.updateConfiguration "reload") (Or.inl ⟨_, hreloaded⟩)
  refine ⟨by decide, by decide, ?_⟩
  rw [(live_history hrun).2.2.1]
  decide

end Asabru.LiveHistory
