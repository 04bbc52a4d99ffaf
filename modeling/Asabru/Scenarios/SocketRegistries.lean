/-
The three socket maps at the returns of the start functions.

Exact means: every socket that runs is the one registered under the name it was started for, and every pointer in a map is
to a live socket that runs (`Registry.Exact`). Registration precedes the start and is undone by name, so a name that is
tried a second time takes the map entry of the first socket, which keeps running; if the second attempt is refused, the
entry is erased.

- `registries_exact_iff`: at every return of a start function during the start of a process, with whatever code, the maps
  are exact iff no group tries a name twice, up to and including its first refused server (`triedNames`).
- `pointers_live`: no start leaves a dangling pointer, whatever is repeated.
Counterexample: `repeated_name_strays`.

Premises: libuv sockets are not tracked; the sockets' calls are answered arbitrarily (`World.accepts`).
-/
import Mathlib.Tactic
import Asabru.Server.Registration
import Asabru.Server.Process

namespace Asabru.SocketRegistries

open Asabru.Control Asabru.Config Asabru.Server Asabru.Pipelines Asabru.Registries

/-- the states in which the start functions return, when `main` calls them one after another -/
inductive AtReturn (lib : Lib) (w : Phase → World) (s₀ : State) : Tracked → State → Prop where
  | proxy {t : State} {code : Int} (h : initProxyServers lib (w .proxyServers) s₀ = (.ret code, t)) :
    AtReturn lib w s₀ .proxy t
  | protocol {s t : State} {code code' : Int} (hs : initProxyServers lib (w .proxyServers) s₀ = (.ret code, s))
      (h0 : 0 ≤ code) (h : initProtocolServers lib (w .protocolServers) s = (.ret code', t)) :
    AtReturn lib w s₀ .protocol t
  | apiGateway {s s' t : State} {code code' code'' : Int}
      (hs : initProxyServers lib (w .proxyServers) s₀ = (.ret code, s)) (h0 : 0 ≤ code)
      (hs' : initProtocolServers lib (w .protocolServers) s = (.ret code', s')) (h0' : 0 ≤ code')
      (h : initApiGatewayServers lib (w .apiGatewayServers) s' = (.ret code'', t)) :
    AtReturn lib w s₀ .apiGateway t

/-- the names that a group tries, its first refused server included: addresses are handed out in order -/
def triedNames (w : Phase → World) (c : Configs) : Tracked → List String
  | .proxy => tried (fun e => trackedName e.endPointName e.pipeline) (fun _ => proxyAccepts (w .proxyServers)) 0
      c.m_ProxyConfig.endPoints
  | .protocol => tried (fun proto => some proto.protocol_name)
      (fun proto => protocolAccepts (w .protocolServers) ((w .protocolServers).getCommand proto.handler))
      c.m_ProxyConfig.endPoints.length c.m_ProtocolServerConfig
  | .apiGateway => tried (fun endpoint => some endpoint.name) (fun _ => gatewayAccepts (w .apiGatewayServers))
      (c.m_ProxyConfig.endPoints.length + c.m_ProtocolServerConfig.length) c.m_ApiGatewayServerConfig.endpoints

/-! ## One start function -/

/-- a start function that returned: its registry is a run over `as`, the other two are as they were -/
structure Returned {α : Type} (k : Tracked) (name : α → Option String) (accepts : α → SocketId → Bool) (as : List α)
    (s t : State) (code : Int) : Prop where
  registry : t.registry k = run name accepts s.nextSocket as (s.registry k)
  others : OthersKept k s t
  next : 0 ≤ code → t.nextSocket = s.nextSocket + as.length

section Functions

variable {lib : Lib} {w : World} {s t : State} {code : Int}

theorem proxies_returned (h : initProxyServers lib w s = (.ret code, t)) :
    ∃ cfgs, List.Forall₂ ResolvesTo s.configs.m_ProxyConfig.endPoints cfgs ∧
      Returned .proxy (fun cfg : ResolvedProxyConfig => trackedName cfg.name cfg.pipelineName)
        (fun _ => proxyAccepts w) cfgs s t code := by
  unfold initProxyServers at h
  cases hf : PipelineFactory.empty.updateLibs w.plugins with
  | error e => simp only [hf] at h; cases h
  | ok f =>
    rcases hr : resolveProxyServerConfigurations lib w s.configs.m_ProxyConfig s.pipelineFactory with ⟨r, f'⟩
    simp only [hf, hr] at h
    cases r with
    | error e => cases h
    | ok cfgs =>
      simp only [Prod.mk.injEq, Ending.ret.injEq] at h
      obtain ⟨hcode, rfl⟩ := h
      have hrun := traverse_registry (State.registry · .proxy) State.nextSocket cfgs [] (I := fun _ => True)
        (s := { s with pipelineFactory := f' }) (fun _ _ _ => trivial)
        (fun _ cfg _ _ s _ _ => (proxy_attempts lib w s f cfg).1) trivial rfl
      rcases hrun with ⟨_, _, hbad⟩ | ⟨hview, hnext⟩
      · exact hbad.elim
      · refine ⟨cfgs, resolveProxy_ok hr, hview, ?_, fun h0 => ?_⟩
        · exact traverse_keeps (P := OthersKept .proxy s)
            (fun cfg _ u hu => hu.trans (proxy_attempts lib w u f cfg).2) ⟨fun _ _ => rfl, rfl⟩
        · obtain ⟨us, hus⟩ := loopCode_ok (fun _ _ _ _ => initProxyServer_error) (hcode ▸ h0)
          exact hnext us (congrArg Prod.fst hus)

theorem protocols_returned (h : initProtocolServers lib w s = (.ret code, t))
    (hturn : s.nextSocket = s.configs.m_ProxyConfig.endPoints.length) :
    ∃ cfgs, List.Forall₂ (ProtocolResolvesTo w) s.configs.m_ProtocolServerConfig cfgs ∧
      Returned .protocol (fun cfg : ResolvedProtocolConfig => some cfg.protocol_name)
        (fun cfg => protocolAccepts w cfg.handler) cfgs s t code := by
  unfold initProtocolServers at h
  rcases hr : resolveProtocolServerConfigurations lib w s.configs.m_ProtocolServerConfig s.pipelineFactory with ⟨r, f'⟩
  simp only [hr] at h
  cases r with
  | error e => cases h
  | ok cfgs =>
    simp only [Prod.mk.injEq, Ending.ret.injEq] at h
    obtain ⟨hcode, rfl⟩ := h
    have hres := resolveProtocol_ok hr
    -- the socket at the next address is the one of the server whose turn it is
    have hstep : ∀ pre (cfg : ResolvedProtocolConfig) post, [] ++ cfgs = pre ++ cfg :: post → ∀ u : State,
        u.configs = s.configs → u.nextSocket = s.nextSocket + pre.length →
        Attempts (fun cfg : ResolvedProtocolConfig => some cfg.protocol_name)
          (fun cfg => protocolAccepts w cfg.handler) (initProtocolServer lib w) (fun s => s.registry .protocol)
          State.nextSocket (fun _ => False) cfg u := by
      intro pre cfg post hsplit u hconfigs hnext
      refine protocol_attempts lib w u ?_
      rw [List.nil_append] at hsplit
      rw [hsplit] at hres
      have hlen : u.nextSocket - u.configs.m_ProxyConfig.endPoints.length = pre.length := by
        rw [hnext, hconfigs, hturn, Nat.add_sub_cancel_left]
      have hcfg : (pre ++ cfg :: post)[pre.length]? = some cfg := by simp
      obtain ⟨proto, hproto, hname⟩ := forall₂_at hres.flip hcfg
      rw [Configs.serverAt, hlen, hconfigs, hproto, Option.map_some, hname.name]
    have hrun := traverse_registry (State.registry · .protocol) State.nextSocket cfgs []
      (I := fun u => u.configs = s.configs) (s := { s with pipelineFactory := f' })
      (fun cfg u hu => (protocol_others lib w u cfg).configs.trans hu) hstep rfl rfl
    rcases hrun with ⟨_, _, hbad⟩ | ⟨hview, hnext⟩
    · exact hbad.elim
    · refine ⟨cfgs, hres, hview, ?_, fun h0 => ?_⟩
      · exact traverse_keeps (P := OthersKept .protocol s)
          (fun cfg _ u hu => hu.trans (protocol_others lib w u cfg))
          ⟨fun _ _ => rfl, rfl⟩
      · obtain ⟨us, hus⟩ := loopCode_ok (fun _ _ _ _ => initProtocolServer_error) (hcode ▸ h0)
        exact hnext us (congrArg Prod.fst hus)

theorem gateways_returned (h : initApiGatewayServers lib w s = (.ret code, t)) :
    Returned .apiGateway (fun endpoint : ApiGatewayEndPoint => some endpoint.name) (fun _ => gatewayAccepts w)
      s.configs.m_ApiGatewayServerConfig.endpoints s t code := by
  unfold initApiGatewayServers at h
  have hrun := traverse_registry (State.registry · .apiGateway) State.nextSocket
    s.configs.m_ApiGatewayServerConfig.endpoints [] (I := fun _ => True) (s := s) (fun _ _ _ => trivial)
    (fun _ endpoint _ _ s _ _ => (gateway_attempts lib w s endpoint).1) trivial rfl
  have hothers : OthersKept .apiGateway s
      (traverse (initApiGatewayServer lib w) s.configs.m_ApiGatewayServerConfig.endpoints s).2 :=
    traverse_keeps (P := OthersKept .apiGateway s)
      (fun endpoint _ u hu => hu.trans (gateway_attempts lib w u endpoint).2) (.refl _ s)
  rcases ht : traverse (initApiGatewayServer lib w) s.configs.m_ApiGatewayServerConfig.endpoints s with ⟨r, u⟩
  rw [ht] at hrun hothers
  simp only [ht] at h
  cases r with
  | ok us =>
    simp only [Prod.mk.injEq] at h
    obtain ⟨-, rfl⟩ := h
    rcases hrun with ⟨_, he, _⟩ | ⟨hview, hnext⟩
    · cases he
    · exact ⟨hview, hothers, fun _ => hnext us rfl⟩
  | error e =>
    simp only [Prod.mk.injEq] at h
    obtain ⟨rfl, rfl⟩ := h
    rcases hrun with ⟨e', he, err, rfl⟩ | ⟨hview, -⟩
    · cases he
    · refine ⟨hview, hothers, fun h0 => ?_⟩
      obtain ⟨endpoint, -, s', hb⟩ := traverse_error ht
      exact absurd h0 (not_le.2 (initApiGatewayServer_error hb))

/-- a group that starts from nothing is exact iff it tries no name twice -/
theorem Returned.exact_iff {α : Type} {k : Tracked} {name : α → Option String} {accepts : α → SocketId → Bool}
    {as : List α} (h : Returned k name accepts as s t code) (hempty : s.registry k = Registry.empty) :
    (t.registry k).Exact ↔ (tried name accepts s.nextSocket as).Nodup := by
  rw [h.registry, hempty, run_exact_iff]

/-- and its pointers are to running sockets in any case -/
theorem Returned.below {α : Type} {k : Tracked} {name : α → Option String} {accepts : α → SocketId → Bool}
    {as : List α} (h : Returned k name accepts as s t code) (hempty : s.registry k = Registry.empty) :
    ∃ next, (t.registry k).Below next := by
  rw [h.registry, hempty]
  exact run_live (Registry.Below.empty _)

end Functions

/-! ## The start of a process -/

/-- how the registries of a group are after its start function returned -/
structure Settled (tried : List String) (k : Tracked) (s t : State) : Prop where
  exact : (t.registry k).Exact ↔ tried.Nodup
  below : ∃ next, (t.registry k).Below next
  others : OthersKept k s t

section Start

variable {lib : Lib} {w : Phase → World} {c : Configs} {factory : PipelineFactory} {s t : State} {code : Int}

theorem fresh_registry (k : Tracked) : (State.fresh c factory).registry k = Registry.empty := by
  cases k <;> rfl

theorem settled_proxy (h : initProxyServers lib (w .proxyServers) (.fresh c factory) = (.ret code, t)) :
    Settled (triedNames w c .proxy) .proxy (.fresh c factory) t ∧
      (0 ≤ code → t.nextSocket = c.m_ProxyConfig.endPoints.length) := by
  obtain ⟨cfgs, hres, hret⟩ := proxies_returned h
  have htried : triedNames w c .proxy = tried (fun cfg : ResolvedProxyConfig => trackedName cfg.name cfg.pipelineName)
      (fun _ => proxyAccepts (w .proxyServers)) 0 cfgs := by
    refine tried_congr (hres.imp fun e cfg he => ⟨?_, fun _ => rfl⟩) 0
    rw [he.name, he.pipelineName]
  refine ⟨⟨?_, hret.below (fresh_registry _), hret.others⟩, fun h0 => ?_⟩
  · rw [htried]
    exact hret.exact_iff (fresh_registry _)
  · rw [hret.next h0, ← hres.length_eq]
    exact Nat.zero_add _

/-- the state in which the protocol servers are started -/
structure AtProtocols (c : Configs) (s : State) : Prop where
  configs : s.configs = c
  next : s.nextSocket = c.m_ProxyConfig.endPoints.length
  protocol : s.registry .protocol = Registry.empty
  apiGateway : s.registry .apiGateway = Registry.empty

theorem atProtocols (h : initProxyServers lib (w .proxyServers) (.fresh c factory) = (.ret code, s)) (h0 : 0 ≤ code) :
    AtProtocols c s := by
  obtain ⟨hsettled, hnext⟩ := settled_proxy h
  exact ⟨hsettled.others.configs, hnext h0, (hsettled.others.registry _ (by decide)).trans (fresh_registry _),
    (hsettled.others.registry _ (by decide)).trans (fresh_registry _)⟩

theorem settled_protocol (hs : AtProtocols c s)
    (h : initProtocolServers lib (w .protocolServers) s = (.ret code, t)) :
    Settled (triedNames w c .protocol) .protocol s t ∧
      (0 ≤ code → t.nextSocket = c.m_ProxyConfig.endPoints.length + c.m_ProtocolServerConfig.length) := by
  obtain ⟨cfgs, hres, hret⟩ := protocols_returned h (by rw [hs.configs]; exact hs.next)
  rw [hs.configs] at hres
  have htried : triedNames w c .protocol = tried (fun cfg : ResolvedProtocolConfig => some cfg.protocol_name)
      (fun cfg => protocolAccepts (w .protocolServers) cfg.handler) s.nextSocket cfgs := by
    rw [hs.next]
    refine tried_congr (hres.imp fun proto cfg hp => ⟨?_, fun _ => ?_⟩) _
    · rw [hp.name]
    · rw [hp.handler]
  refine ⟨⟨?_, hret.below hs.protocol, hret.others⟩, fun h0 => ?_⟩
  · rw [htried]
    exact hret.exact_iff hs.protocol
  · rw [hret.next h0, hs.next, ← hres.length_eq]

/-- the state in which the gateways are started -/
structure AtGateways (c : Configs) (s : State) : Prop where
  configs : s.configs = c
  next : s.nextSocket = c.m_ProxyConfig.endPoints.length + c.m_ProtocolServerConfig.length
  apiGateway : s.registry .apiGateway = Registry.empty

theorem atGateways (hs : AtProtocols c s)
    (h : initProtocolServers lib (w .protocolServers) s = (.ret code, t)) (h0 : 0 ≤ code) : AtGateways c t := by
  obtain ⟨hsettled, hnext⟩ := settled_protocol hs h
  exact ⟨hsettled.others.configs.trans hs.configs, hnext h0,
    (hsettled.others.registry _ (by decide)).trans hs.apiGateway⟩

theorem settled_gateway (hs : AtGateways c s)
    (h : initApiGatewayServers lib (w .apiGatewayServers) s = (.ret code, t)) :
    Settled (triedNames w c .apiGateway) .apiGateway s t := by
  have hret := gateways_returned h
  have hexact := hret.exact_iff hs.apiGateway
  rw [hs.configs, hs.next] at hexact
  exact ⟨hexact, hret.below hs.apiGateway, hret.others⟩

/-- **Registries at the returns.** The maps are exact at every return iff no group tries a name twice. -/
theorem registries_exact_iff (lib : Lib) (w : Phase → World) (c : Configs) (factory : PipelineFactory) :
    (∀ k t, AtReturn lib w (.fresh c factory) k t → ∀ k', (t.registry k').Exact) ↔
      ∀ k t, AtReturn lib w (.fresh c factory) k t → (triedNames w c k).Nodup := by
  have hempty : (Registry.empty : Registry String).Exact := ⟨fun _ _ h => (nomatch h), fun _ _ h => (nomatch h)⟩
  constructor
  · intro h k t hat
    have hk := h k t hat k
    cases hat with
    | proxy ht => exact (settled_proxy ht).1.exact.1 hk
    | protocol hs h0 ht => exact (settled_protocol (atProtocols hs h0) ht).1.exact.1 hk
    | apiGateway hs h0 hs' h0' ht => exact (settled_gateway (atGateways (atProtocols hs h0) hs' h0') ht).exact.1 hk
  · intro h
    have hproxy : ∀ {code t}, initProxyServers lib (w .proxyServers) (.fresh c factory) = (.ret code, t) →
        (t.registry .proxy).Exact := fun ht => (settled_proxy ht).1.exact.2 (h _ _ (.proxy ht))
    intro k t hat k'
    cases hat with
    | proxy ht =>
      by_cases hk : k' = .proxy
      · exact hk ▸ hproxy ht
      · rw [(settled_proxy ht).1.others.registry k' hk, fresh_registry]
        exact hempty
    | protocol hs h0 ht =>
      have hat := atProtocols hs h0
      have hsettled := (settled_protocol hat ht).1
      cases k' with
      | proxy =>
        rw [hsettled.others.registry _ (by decide)]
        exact hproxy hs
      | protocol => exact hsettled.exact.2 (h _ _ (.protocol hs h0 ht))
      | apiGateway =>
        rw [hsettled.others.registry _ (by decide), hat.apiGateway]
        exact hempty
    | apiGateway hs h0 hs' h0' ht =>
      have hat := atProtocols hs h0
      have hsettled := (settled_protocol hat hs').1
      have hsettled' := settled_gateway (atGateways hat hs' h0') ht
      cases k' with
      | proxy =>
        rw [hsettled'.others.registry _ (by decide), hsettled.others.registry _ (by decide)]
        exact hproxy hs
      | protocol =>
        rw [hsettled'.others.registry _ (by decide)]
        exact hsettled.exact.2 (h _ _ (.protocol hs h0 hs'))
      | apiGateway => exact hsettled'.exact.2 (h _ _ (.apiGateway hs h0 hs' h0' ht))

/-- **No start leaves a dangling pointer**: what a group registered at its return runs under that name. -/
theorem pointers_live {k : Tracked} (hat : AtReturn lib w (.fresh c factory) k t) {n : String} {sid : SocketId}
    (h : (t.registry k).map n = some sid) : (t.registry k).running sid = some n := by
  have hbelow : ∃ next, (t.registry k).Below next := by
    cases hat with
    | proxy ht => exact (settled_proxy ht).1.below
    | protocol hs h0 ht => exact (settled_protocol (atProtocols hs h0) ht).1.below
    | apiGateway hs h0 hs' h0' ht => exact (settled_gateway (atGateways (atProtocols hs h0) hs' h0') ht).below
  obtain ⟨next, hb⟩ := hbelow
  exact hb.owner n sid h

end Start

/-! ## A repeated name -/

/-- two endpoints of one name -/
def repeatedName : Configs := plainConfigs [plainEndPoint "a" "" [], plainEndPoint "a" "" []]

/-- **A repeated name leaves a socket that runs and that no map entry reaches**, after a start that returned 0. -/
theorem repeated_name_strays : ¬ ∀ k t, AtReturn (.plain (.table [])) (fun _ => .calm) (.fresh repeatedName plainFactory)
    k t → ∀ k', (t.registry k').Exact := by
  intro h
  have hret : initProxyServers (.plain (.table [])) .calm (.fresh repeatedName plainFactory) =
      (.ret 0, (initProxyServers (.plain (.table [])) .calm (.fresh repeatedName plainFactory)).2) :=
    Prod.ext (by decide) rfl
  have hexact := (h .proxy _ (.proxy hret) .proxy).registered 0 "a" (by decide)
  revert hexact
  decide

end Asabru.SocketRegistries
