/-
RE-APPLYING THE STORED CONFIGURATION: what a pass leaves behind, and what a second one does.

A pass is two replays of one list of writes: of server lists through the socket map to balancers, and of endpoint
configurations through the socket map to sockets. Sockets may share a balancer, names may be repeated or registered for one
socket, and the balancers may hold anything before.

- `reapplication`: a pass over a configuration that resolves is answered ok; a balancer that one of its names reaches holds
  the servers of the last endpoint that reaches it (`appliedServers`), any other one what it held; a second pass, in
  any environment, changes no list and no socket.
Witness: `shared_balancer_reapplied`.

Premises on asabru-engine: those of `State`.
-/
import Mathlib.Tactic
import Asabru.Server.Process

namespace Asabru.Reapplication

open Asabru.Control Asabru.Xml Asabru.Config Asabru.Pipelines Asabru.Server

/-- the servers of the last endpoint, in document order, whose name reaches the balancer -/
def appliedServers (c : ProxyConfig) (reach : String → Option BalancerId) (b : BalancerId) : List ResolvedService :=
  match (c.endPoints.filter fun e => reach e.endPointName = some b).getLast? with
  | none => []
  | some e => resolveServices e

/-- a name of the configuration reaches the balancer -/
def ReachedBy (c : ProxyConfig) (reach : String → Option BalancerId) (b : BalancerId) : Prop :=
  ∃ e ∈ c.endPoints, reach e.endPointName = some b

instance (c : ProxyConfig) (reach : String → Option BalancerId) (b : BalancerId) : Decidable (ReachedBy c reach b) :=
  inferInstanceAs (Decidable (∃ e ∈ c.endPoints, reach e.endPointName = some b))

theorem lastWrite_writes (c : ProxyConfig) (reach : String → Option BalancerId) (b : BalancerId) :
    Alias.lastWrite reach b (ProxyConfig.writes c) =
      ((c.endPoints.filter fun e => reach e.endPointName = some b).getLast?).map resolveServices := by
  unfold Alias.lastWrite ProxyConfig.writes
  rw [List.filter_map, List.getLast?_map, Option.map_map]
  rfl

section Lists

variable {s t : State}

/-- the list of a balancer that is reached is fixed by the configuration and the socket map -/
theorem servers_applied (h : Updated s t) {b : BalancerId} (hb : ReachedBy s.configs.m_ProxyConfig s.reach b) :
    t.servers b = appliedServers s.configs.m_ProxyConfig s.reach b := by
  rw [h.servers, Alias.replay_apply, lastWrite_writes]
  unfold appliedServers
  cases hl : (s.configs.m_ProxyConfig.endPoints.filter fun e => s.reach e.endPointName = some b).getLast? with
  | none =>
    obtain ⟨e, he, hr⟩ := hb
    rw [List.getLast?_eq_none_iff, List.filter_eq_nil_iff] at hl
    exact absurd (decide_eq_true hr) (hl e he)
  | some e => rfl

/-- a balancer that is not reached keeps its list -/
theorem servers_kept (h : Updated s t) {b : BalancerId} (hb : ¬ ReachedBy s.configs.m_ProxyConfig s.reach b) :
    t.servers b = s.servers b := by
  rw [h.servers]
  apply Alias.replay_unreached
  intro p hp hr
  obtain ⟨e, he, rfl⟩ := List.mem_map.1 hp
  exact hb ⟨e, he, hr⟩

/-- after a pass, another one changes no list -/
theorem servers_again {u : State} (h : Updated s t) (h' : Updated t u) : u.servers = t.servers := by
  rw [h'.servers, h.configs, reach_of_wiring h.wiring, h.servers]
  exact Alias.replay_idem _ _ _

end Lists

/-! ## Endpoint configurations -/

/-- the endpoint configuration that each socket holds -/
def endpointConfigs (s : State) (sid : SocketId) : Option TargetEndpointConfig :=
  (s.proxySockets sid).bind ProxySocket.configValues

/-- the live socket that is registered under a name -/
def socketOf (s : State) (name : String) : Option SocketId :=
  (s.proxySocketsMap name).filter fun sid => (s.proxySockets sid).isSome

/-- what an endpoint's socket is set to -/
def configOf (e : RemoteEndPoint) : TargetEndpointConfig :=
  { name := e.endPointName, proxyPort := e.proxyPort, services := resolveServices e }

theorem socketOf_of_wiring {s t : State} (h : t.wiring = s.wiring) : socketOf t = socketOf s := by
  funext name
  have hlive : ∀ sid, (t.proxySockets sid).isSome = (s.proxySockets sid).isSome := by
    intro sid
    have := congrArg Option.isSome (balancer_of_wiring h sid)
    rwa [Option.isSome_map, Option.isSome_map] at this
  simp only [socketOf, map_of_wiring h, hlive]

/-- sockets are as they were if their endpoint configurations and all else are -/
theorem sockets_eq {s t : State} (h : t.wiring = s.wiring) (hc : endpointConfigs t = endpointConfigs s) :
    t.proxySockets = s.proxySockets := by
  funext sid
  have hforget : (t.proxySockets sid).map ProxySocket.forget = (s.proxySockets sid).map ProxySocket.forget :=
    congrFun (congrArg Wiring.proxySockets h) sid
  have hconfig : (t.proxySockets sid).bind ProxySocket.configValues = (s.proxySockets sid).bind ProxySocket.configValues :=
    congrFun hc sid
  cases ht : t.proxySockets sid with
  | none =>
    rw [ht] at hforget
    cases hs : s.proxySockets sid with
    | none => rfl
    | some sock => rw [hs] at hforget; cases hforget
  | some sock =>
    cases hs : s.proxySockets sid with
    | none => rw [ht, hs] at hforget; cases hforget
    | some sock' =>
      rw [ht, hs] at hforget hconfig
      cases sock
      cases sock'
      simp only [Option.map_some, Option.bind_some, ProxySocket.forget, Option.some.injEq, ProxySocket.mk.injEq]
        at hforget hconfig ⊢
      exact ⟨hforget.1, hforget.2.1, hforget.2.2.1, hforget.2.2.2.1, hconfig, hforget.2.2.2.2.2⟩

theorem updateProxyConfig_configs (lib : Lib) (sid : SocketId) (cfg : ResolvedProxyConfig) (s : State) :
    endpointConfigs (updateProxyConfig lib (some sid) cfg s).2 =
      if (s.proxySockets sid).isSome then Function.update (endpointConfigs s) sid (some (targetConfig cfg))
      else endpointConfigs s := by
  cases h : s.proxySockets sid with
  | none => rw [updateProxyConfig_dangling h]; rfl
  | some sock =>
    rw [updateProxyConfig_live h]
    funext sid'
    by_cases hs : sid' = sid
    · subst hs; simp [endpointConfigs]
    · simp [endpointConfigs, Function.update_of_ne hs]

/-- **A pass is a replay of endpoint configurations** through the socket map. -/
theorem replayConfigs_configs (lib : Lib) (cfgs : List ResolvedProxyConfig) (s : State) :
    endpointConfigs (replayConfigs lib cfgs s).2 =
      Alias.replay (socketOf s) (endpointConfigs s) (cfgs.map fun cfg => (cfg.name, some (targetConfig cfg))) := by
  induction cfgs generalizing s with
  | nil => rfl
  | cons cfg cfgs ih =>
    rw [List.map_cons, Alias.replay_cons]
    simp only [replayConfigs, Alias.write]
    cases hm : s.proxySocketsMap cfg.name with
    | none =>
      have hnone : socketOf s cfg.name = none := by simp [socketOf, hm]
      rw [hnone]
      exact ih s
    | some sid =>
      have hsome : socketOf s cfg.name = if (s.proxySockets sid).isSome then some sid else none := by
        simp [socketOf, hm, Option.filter]
      obtain ⟨h0, ha⟩ := updateProxyConfig_servers lib sid cfg s
      simp only [h0, lt_irrefl, if_false]
      rw [ih, socketOf_of_wiring ha.wiring, updateProxyConfig_configs, hsome]
      cases (s.proxySockets sid).isSome <;> rfl

/-- the writes of a stored configuration to sockets, in document order -/
def configWrites (c : ProxyConfig) : List (String × Option TargetEndpointConfig) :=
  c.endPoints.map fun e => (e.endPointName, some (configOf e))

theorem configWrites_resolved {eps : List RemoteEndPoint} {cfgs : List ResolvedProxyConfig}
    (h : List.Forall₂ ResolvesTo eps cfgs) :
    (cfgs.map fun cfg => (cfg.name, some (targetConfig cfg))) = eps.map fun e => (e.endPointName, some (configOf e)) := by
  induction h with
  | nil => rfl
  | cons h _ ih =>
    rw [List.map_cons, List.map_cons, ih]
    simp only [targetConfig, configOf, h.name, h.proxyPort, h.services]

theorem updateProxyServers_configs {lib : Lib} {w : World} {s : State} (h : resolutionFailure lib w s = none) :
    endpointConfigs (updateProxyServers lib w s).2 =
      Alias.replay (socketOf s) (endpointConfigs s) (configWrites s.configs.m_ProxyConfig) := by
  unfold resolutionFailure at h
  unfold updateProxyServers
  rcases hr : resolveProxyServerConfigurations lib w s.configs.m_ProxyConfig s.pipelineFactory with ⟨r, f⟩
  rw [hr] at h
  cases r with
  | error e => cases h
  | ok cfgs =>
    rw [catchStd_state]
    show endpointConfigs (replayConfigs lib cfgs { s with pipelineFactory := f }).2 = _
    rw [replayConfigs_configs, configWrites_resolved (resolveProxy_ok hr)]
    rfl

/-! ## A second pass -/

/-- **Re-applying is idempotent**, whatever the environment answers the second time. -/
theorem second_pass {lib : Lib} {w : World} {s t : State} (hfail : resolutionFailure lib w s = none)
    (h : updateProxyServers lib w s = (.ret updatedReply, t)) (hu : Updated s t) (w' : World) :
    (updateProxyServers lib w' t).2.servers = t.servers ∧ (updateProxyServers lib w' t).2.proxySockets = t.proxySockets := by
  cases hf : resolutionFailure lib w' t with
  | some e =>
    obtain ⟨f, hf⟩ := updateProxyServers_fails hf
    rw [hf, catchStd_state]
    exact ⟨rfl, rfl⟩
  | none =>
    obtain ⟨u, hok, hu'⟩ := updateProxyServers_ok hf
    have hconfigs := updateProxyServers_configs hfail
    have hconfigs' := updateProxyServers_configs hf
    rw [h] at hconfigs
    rw [hok] at hconfigs'
    rw [hok]
    refine ⟨servers_again hu hu', sockets_eq hu'.wiring ?_⟩
    calc endpointConfigs u
        = Alias.replay (socketOf t) (endpointConfigs t) (configWrites t.configs.m_ProxyConfig) := hconfigs'
      _ = Alias.replay (socketOf s) (Alias.replay (socketOf s) (endpointConfigs s) (configWrites s.configs.m_ProxyConfig))
            (configWrites s.configs.m_ProxyConfig) := by
          rw [socketOf_of_wiring hu.wiring, hu.configs, hconfigs]
      _ = Alias.replay (socketOf s) (endpointConfigs s) (configWrites s.configs.m_ProxyConfig) := Alias.replay_idem _ _ _
      _ = endpointConfigs t := hconfigs.symm

/-- **Re-applying the configuration** is idempotent and forgets the past. -/
theorem reapplication {lib : Lib} {w : World} {s : State} (h : resolutionFailure lib w s = none) :
    ∃ t, updateProxyServers lib w s = (.ret updatedReply, t) ∧
      (∀ b, ReachedBy s.configs.m_ProxyConfig s.reach b →
        t.servers b = appliedServers s.configs.m_ProxyConfig s.reach b) ∧
      (∀ b, ¬ ReachedBy s.configs.m_ProxyConfig s.reach b → t.servers b = s.servers b) ∧
      ∀ w', (updateProxyServers lib w' t).2.servers = t.servers ∧
        (updateProxyServers lib w' t).2.proxySockets = t.proxySockets := by
  obtain ⟨t, ht, hu⟩ := updateProxyServers_ok h
  exact ⟨t, ht, fun b => servers_applied hu, fun b => servers_kept hu, second_pass h ht hu⟩

/-- two endpoints whose sockets share the round-robin strategy object -/
def sharedBalancer : List (String × XMLDocument) :=
  [("config.xml", endPointsDocument [endPointElement "a" "Pipeline" "RoundRobinStrategy" [("a1", "10.0.0.1")],
    endPointElement "b" "Pipeline" "RoundRobinStrategy" [("b1", "10.0.0.2")]])]

/-- **Witness.** Two sockets on one balancer: the last endpoint's servers stay, however often they are applied. -/
theorem shared_balancer_reapplied : ∃ t,
    updateProxyServers (.plain (.table sharedBalancer)) .calm (plainProcess sharedBalancer) = (.ret updatedReply, t) ∧
      (t.servers .roundRobin).map ResolvedService.ipaddress = ["10.0.0.2"] ∧
      ∀ w', (updateProxyServers (.plain (.table sharedBalancer)) w' t).2.servers = t.servers := by
  obtain ⟨t, ht, happlied, -, hagain⟩ := reapplication
    (show resolutionFailure (.plain (.table sharedBalancer)) .calm (plainProcess sharedBalancer) = none by decide)
  refine ⟨t, ht, ?_, fun w' => (hagain w').1⟩
  rw [happlied .roundRobin (by decide)]
  decide

end Asabru.Reapplication
