/-
ENDPOINT ISOLATION: updating one endpoint leaves the backends of every other one alone.

proxy_server.h rebuilds the server list of the balancer that a socket uses. A socket gets its balancer at start-up: the
strategy object of its endpoint's name, of which `LoadBalancerFactory` keeps one each, or a private one. Its header takes
the strategies to be stateless; the server list is state.

- `isolation_iff`: after every start of the proxies that returns 0, and after any sequence of updates since, an update of
  one endpoint leaves the list of every other one as it is, exactly when no two registered names' endpoints name the same
  known strategy.
Witness: `isolation_of_two`. Counterexample: `shared_strategy_leaks`.

Premises on asabru-engine: those of `State`.
-/
import Mathlib.Tactic
import Asabru.Server.Process

namespace Asabru.Isolation

open Asabru.Control Asabru.Config Asabru.Pipelines Asabru.Server

/-! ## The property -/

/-- an update of the socket under `A` leaves the ordered list of the balancer under `B` as it was -/
def Isolated (lib : Lib) (s : State) : Prop :=
  ∀ A B sidA sidB sockB, A ≠ B → s.proxySocketsMap A = some sidA → s.proxySocketsMap B = some sidB →
    s.proxySockets sidB = some sockB → ∀ cfg,
      (updateProxyConfig lib (some sidA) cfg s).2.servers sockB.loadBalancer = s.servers sockB.loadBalancer

/-- the endpoint whose socket is registered under a name: the last one that is not a libuv one -/
def registrantOf (c : ProxyConfig) (name : String) : Option RemoteEndPoint :=
  (c.endPoints.filter fun e => !isLibuv e.pipeline && e.endPointName = name).getLast?

/-- no two registered endpoints of different names are given one strategy object -/
def NoSharedStrategy (c : ProxyConfig) : Prop :=
  ∀ n m e e', n ≠ m → registrantOf c n = some e → registrantOf c m = some e' → strategyObject e = strategyObject e' →
    strategyObject e = none

/-! ## From the property to the balancers -/

/-- no two names reach one balancer -/
def Unshared (s : State) : Prop := ∀ n m b, n ≠ m → s.reach n = some b → s.reach m ≠ some b

/-- an update through a registered name is a write through the socket map -/
theorem updateProxyConfig_write (lib : Lib) {s : State} {name : String} {sid : SocketId}
    (h : s.proxySocketsMap name = some sid) (cfg : ResolvedProxyConfig) :
    (updateProxyConfig lib (some sid) cfg s).2.servers = Alias.write s.reach s.servers (name, cfg.services) := by
  have hw := (updateProxyConfig_servers lib sid cfg s).2.servers
  have hreach : s.reach name = (s.proxySockets sid).map ProxySocket.loadBalancer := by
    unfold State.reach
    rw [h]
    rfl
  rw [hw, Alias.write]
  simp only [hreach]
  cases (s.proxySockets sid).map ProxySocket.loadBalancer <;> rfl

/-- a resolved configuration that carries the given services -/
def carrier (services : List ResolvedService) : ResolvedProxyConfig := ⟨"", 0, "", none, none, services, none⟩

/-- isolation is the absence of sharing, provided the updated sockets exist -/
theorem isolated_iff_unshared (lib : Lib) (s : State) : Isolated lib s ↔ Unshared s := by
  have : Nontrivial (List ResolvedService) := ⟨[], [⟨"", 0, false, "", 0, 0, ""⟩], by simp⟩
  unfold Unshared
  rw [← Alias.writes_isolated_iff s.reach s.servers]
  constructor
  · intro h n m b v hne hm
    cases hn : s.proxySocketsMap n with
    | none =>
      rw [Alias.write_apply, if_neg]
      intro hreach
      obtain ⟨sid, -, hsid, -⟩ := reach_eq_some hreach
      rw [hn] at hsid
      cases hsid
    | some sidA =>
      obtain ⟨sidB, sockB, hB, hs, rfl⟩ := reach_eq_some hm
      have := h n m sidA sidB sockB hne hn hB hs (carrier v)
      rwa [updateProxyConfig_write lib hn] at this
  · intro h A B sidA sidB sockB hne hA hB hs cfg
    rw [updateProxyConfig_write lib hA]
    exact h A B _ _ hne (reach_of_socket hB hs)

theorem unshared_replay (lib : Lib) (cfgs : List ResolvedProxyConfig) (s : State) :
    Unshared (replayConfigs lib cfgs s).2 ↔ Unshared s := by
  unfold Unshared
  rw [reach_of_wiring (replayConfigs_servers lib cfgs s).2.wiring]

/-! ## From the balancers to the configuration -/

theorem getLast?_rel {α β : Type} {R : α → β → Prop} {as : List α} {bs : List β} (h : List.Forall₂ R as bs) :
    Option.Rel R as.getLast? bs.getLast? := by
  induction h with
  | nil => exact .none
  | @cons a b as bs hab _ ih =>
    rw [List.getLast?_cons, List.getLast?_cons]
    generalize as.getLast? = x at ih ⊢
    generalize bs.getLast? = y at ih ⊢
    cases ih with
    | none => exact .some hab
    | some hr => exact .some hr

/-- the registered endpoint and its resolved record -/
theorem registrant_resolves {c : ProxyConfig} {cfgs : List ResolvedProxyConfig}
    (h : List.Forall₂ ResolvesTo c.endPoints cfgs) (name : String) :
    Option.Rel ResolvesTo (registrantOf c name) (registrant cfgs name) := by
  refine getLast?_rel (List.rel_filter ?_ h)
  intro e cfg he
  simp only [he.name, he.pipelineName]

/-- the balancer of a registered endpoint -/
theorem Registered.reach {done : List ResolvedProxyConfig} {s : State} (h : Registered done s) {name : String}
    {c : ResolvedProxyConfig} (hr : registrant done name = some c) : ∃ sid, s.proxySocketsMap name = some sid ∧
      s.reach name = some (c.loadBalancerStrategy.getD (.own sid)) := by
  obtain ⟨sid, hm, -, hs⟩ := h.present name c hr
  exact ⟨sid, hm, reach_of_socket hm hs⟩

/-- a name that reaches a balancer has a registered endpoint, and the balancer is that endpoint's strategy object or the
private one of its socket -/
theorem reach_registrant {c : ProxyConfig} {cfgs : List ResolvedProxyConfig} {s : State}
    (hres : List.Forall₂ ResolvesTo c.endPoints cfgs) (h : Registered cfgs s) {name : String} {b : BalancerId}
    (hb : s.reach name = some b) : ∃ e sid, registrantOf c name = some e ∧ s.proxySocketsMap name = some sid ∧
      b = (strategyObject e).getD (.own sid) := by
  have hrel := registrant_resolves hres name
  cases hr : registrant cfgs name with
  | none =>
    obtain ⟨sid, -, hm, -⟩ := reach_eq_some hb
    rw [h.absent name hr] at hm
    cases hm
  | some cfg =>
    obtain ⟨sid, hm, hreach⟩ := Registered.reach h hr
    rw [hr] at hrel
    cases he : registrantOf c name with
    | none => rw [he] at hrel; cases hrel
    | some e =>
      rw [he] at hrel
      cases hrel with
      | some hR =>
        refine ⟨e, sid, rfl, hm, ?_⟩
        rw [← hR.strategy]
        exact Option.some.inj (hb.symm.trans hreach)

/-- a registered endpoint with a strategy object reaches it -/
theorem reach_strategyObject {c : ProxyConfig} {cfgs : List ResolvedProxyConfig} {s : State}
    (hres : List.Forall₂ ResolvesTo c.endPoints cfgs) (h : Registered cfgs s) {name : String} {e : RemoteEndPoint}
    {b : BalancerId} (he : registrantOf c name = some e) (hb : strategyObject e = some b) : s.reach name = some b := by
  have hrel := registrant_resolves hres name
  rw [he] at hrel
  cases hr : registrant cfgs name with
  | none => rw [hr] at hrel; cases hrel
  | some cfg =>
    rw [hr] at hrel
    cases hrel with
    | some hR =>
      obtain ⟨sid, -, hreach⟩ := Registered.reach h hr
      rw [hreach, hR.strategy, hb]
      rfl

/-- two endpoints have one balancer if they share a strategy object, or have none and share a socket -/
theorem sharedBalancer_cases {e e' : RemoteEndPoint} {sid sid' : SocketId}
    (h : (strategyObject e).getD (.own sid) = (strategyObject e').getD (.own sid')) :
    (strategyObject e = strategyObject e' ∧ strategyObject e ≠ none) ∨ sid = sid' := by
  cases hs : strategyObject e with
  | none =>
    cases hs' : strategyObject e' with
    | none =>
      rw [hs, hs'] at h
      exact Or.inr (BalancerId.own.inj h)
    | some b' =>
      rw [hs, hs'] at h
      exact absurd (hs'.trans (congrArg some h.symm)) (strategyObject_shared e' sid)
  | some b =>
    cases hs' : strategyObject e' with
    | none =>
      rw [hs, hs'] at h
      exact absurd (hs.trans (congrArg some h)) (strategyObject_shared e sid')
    | some b' =>
      rw [hs, hs'] at h
      exact Or.inl ⟨congrArg some h, Option.some_ne_none b⟩

/-- after a start, balancers are shared exactly by endpoints that share a strategy object -/
theorem unshared_iff {c : ProxyConfig} {cfgs : List ResolvedProxyConfig} {s : State}
    (hres : List.Forall₂ ResolvesTo c.endPoints cfgs) (h : Registered cfgs s) : Unshared s ↔ NoSharedStrategy c := by
  constructor
  · intro hun n m e e' hne he he' hsame
    by_contra hsome
    obtain ⟨b, hb⟩ := Option.ne_none_iff_exists'.1 hsome
    exact hun n m b hne (reach_strategyObject hres h he hb) (reach_strategyObject hres h he' (hsame ▸ hb))
  · intro hno n m b hne hn hm
    obtain ⟨e, sid, he, hsid, hbe⟩ := reach_registrant hres h hn
    obtain ⟨e', sid', he', hsid', hbe'⟩ := reach_registrant hres h hm
    rcases sharedBalancer_cases (hbe.symm.trans hbe') with ⟨hsame, hsome⟩ | rfl
    · exact hsome (hno n m e e' hne he he' hsame)
    · exact hne (h.distinct hsid hsid')

/-- **Endpoint isolation holds exactly for configurations without a shared strategy.** -/
theorem isolation_iff {lib : Lib} {w : World} {configs : Configs} {factory : PipelineFactory} {s : State}
    (h : initProxyServers lib w (.fresh configs factory) = (.ret 0, s)) :
    (∀ cfgs, Isolated lib (replayConfigs lib cfgs s).2) ↔ NoSharedStrategy configs.m_ProxyConfig := by
  obtain ⟨cfgs, hres, hreg⟩ := initProxyServers_registered h le_rfl
  rw [← unshared_iff hres hreg]
  constructor
  · intro hall
    exact (isolated_iff_unshared lib s).1 (hall [])
  · intro hun pass
    exact (isolated_iff_unshared lib _).2 ((unshared_replay lib pass s).2 hun)

/-- two endpoints, one with a strategy and one with none -/
def twoPrivate : Configs :=
  plainConfigs [plainEndPoint "a" "RoundRobinStrategy" [plainService "a1" "10.0.0.1"],
    plainEndPoint "b" "" [plainService "b1" "10.0.0.2"]]

/-- the start of the proxies of a configuration in the plain environment -/
def plainStart (configs : Configs) : Ending Int × State :=
  initProxyServers (.plain (.table [])) .calm (.fresh configs plainFactory)

theorem isolation_of_two :
    (plainStart twoPrivate).1 = .ret 0 ∧
    ((∀ cfgs, Isolated (.plain (.table [])) (replayConfigs (.plain (.table [])) cfgs (plainStart twoPrivate).2).2) ↔
      NoSharedStrategy twoPrivate.m_ProxyConfig) :=
  ⟨by decide, isolation_iff (w := .calm) (Prod.ext (by decide) rfl)⟩

/-- two endpoints with one strategy -/
def twoShared : Configs :=
  plainConfigs [plainEndPoint "a" "RoundRobinStrategy" [plainService "a1" "10.0.0.1"],
    plainEndPoint "b" "RoundRobinStrategy" [plainService "b1" "10.0.0.2"]]

/-- an update of `a` with its own services takes `b`'s only backend away and gives it `a`'s -/
theorem shared_strategy_leaks :
    (plainStart twoShared).1 = .ret 0 ∧
    (plainStart twoShared).2.hostsOf "b" = ["10.0.0.1", "10.0.0.2"] ∧
    (updateProxyConfig (.plain (.table [])) ((plainStart twoShared).2.proxySocketsMap "a")
      (carrier [resolveService (plainEndPoint "a" "" []) (plainService "a1" "10.0.0.1")])
      (plainStart twoShared).2).2.hostsOf "b" = ["10.0.0.1"] ∧
    ¬ Isolated (.plain (.table [])) (plainStart twoShared).2 := by
  refine ⟨by decide, by decide, by decide, fun h => ?_⟩
  have hb : ((plainStart twoShared).2.proxySockets 1).isSome := by decide
  obtain ⟨sockB, hs⟩ := Option.isSome_iff_exists.1 hb
  have hrr : sockB.loadBalancer = .roundRobin := by
    have : ((plainStart twoShared).2.proxySockets 1).map ProxySocket.loadBalancer = some .roundRobin := by decide
    rw [hs] at this
    exact Option.some.inj this
  have := h "a" "b" 0 1 sockB (by decide) (by decide) (by decide) hs (carrier [])
  rw [hrr] at this
  exact absurd this (by decide)

end Asabru.Isolation
