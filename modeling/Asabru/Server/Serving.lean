/-
What a process serves, and what a stored configuration says it should serve.

`Serves` is what clients see: a started socket answers under its name, routes over its balancer's list and chooses by its
balancer's strategy; a libuv socket routes over the services it was configured with. `Serving` says the same of a stored
configuration, endpoint by endpoint, with no socket in it.

Results:
- `start_serves`: a process started on separate endpoints serves exactly its configuration;
- `served_of_wiring`: which names are served, and by which strategy, is a matter of wiring;
- `replayed_serves`: after a pass over separate endpoints, a slot that the start already had serves what they say.
-/
import Mathlib.Tactic
import Asabru.Server.Launch

namespace Asabru.Server

open Asabru.Control Asabru.Config Asabru.Pipelines

/-! ## Serving -/

/-- a started socket of the name routes over `backends` by `strategy`, none for a libuv socket -/
inductive Serves (s : State) (name : String) : List ResolvedService → Option StrategyKind → Prop where
  | proxy {sid : SocketId} {sock : ProxySocket} (hs : s.proxySockets sid = some sock)
      (hn : sock.started = some name) : Serves s name (s.servers sock.loadBalancer) (some sock.loadBalancer.kind)
  | libuv {sid : SocketId} {sock : LibuvSocket} {cfg : TargetEndpointConfig} (hs : s.libuvSockets sid = some sock)
      (hn : sock.started = some name) (hc : sock.configValues = some cfg) : Serves s name cfg.services none

/-- the configuration has an endpoint of the name with these backends and this strategy -/
def Serving (c : ProxyConfig) (name : String) (backends : List ResolvedService) (strategy : Option StrategyKind) :
    Prop :=
  ∃ e ∈ c.endPoints, e.endPointName = name ∧ resolveServices e = backends ∧ (endPointSlot e).kind = strategy

/-- a socket of the engine routes over the services that it is set up with and started for -/
def RoutesOverServices (lib : Lib) : Prop := ∀ cfg, lib.setConfigValuesAdds cfg ++ lib.startAdds cfg = cfg.services

theorem endPointSlot_libuv {e : RemoteEndPoint} {services : List ResolvedService}
    (h : (endPointSlot e).libuvServices = some services) : resolveServices e = services := by
  unfold endPointSlot slotOf at h
  split_ifs at h
  exact Option.some.inj h

/-- the strategy of a socket is that of its slot -/
theorem startedSocket_kind {cfg : ResolvedProxyConfig} (h : isLibuv cfg.pipelineName = false) (sid : SocketId) :
    (resolvedSlot cfg).kind = some (startedSocket cfg sid).loadBalancer.kind := by
  rw [resolvedSlot_proxy h]
  unfold Slot.kind startedSocket
  cases cfg.loadBalancerStrategy <;> rfl

theorem libuv_kind {cfg : ResolvedProxyConfig} (h : isLibuv cfg.pipelineName = true) : (resolvedSlot cfg).kind = none := by
  rw [resolvedSlot_libuv h]
  rfl

/-- the configuration serves what its resolved endpoints say -/
theorem serving_resolved {c : ProxyConfig} {cfgs : List ResolvedProxyConfig}
    (h : List.Forall₂ ResolvesTo c.endPoints cfgs) {name : String} {bs : List ResolvedService}
    {k : Option StrategyKind} :
    Serving c name bs k ↔ ∃ cfg ∈ cfgs, cfg.name = name ∧ cfg.services = bs ∧ (resolvedSlot cfg).kind = k := by
  constructor
  · rintro ⟨e, he, hname, hbs, hk⟩
    obtain ⟨cfg, hc, hr⟩ := forall₂_right h.flip he
    exact ⟨cfg, hc, hr.name.trans hname, hr.services.trans hbs, by rw [hr.slot]; exact hk⟩
  · rintro ⟨cfg, hc, hname, hbs, hk⟩
    obtain ⟨e, he, hr⟩ := forall₂_right h hc
    exact ⟨e, he, hr.name.symm.trans hname, hr.services.symm.trans hbs, by rw [← hr.slot]; exact hk⟩

/-! ## From sockets to endpoints -/

/-- what is served while no socket was made, dropped or given another balancer since a start -/
theorem serves_iff {cfgs : List ResolvedProxyConfig} {s t : State} (hl : Launched cfgs s) (hw : t.wiring = s.wiring)
    {name : String} {bs : List ResolvedService} {k : Option StrategyKind} :
    Serves t name bs k ↔ ∃ cfg ∈ cfgs, cfg.name = name ∧ (resolvedSlot cfg).kind = k ∧
      ((isLibuv cfg.pipelineName = true ∧ cfg.services = bs) ∨ (isLibuv cfg.pipelineName = false ∧
        ∃ sid, s.proxySockets sid = some (startedSocket cfg sid) ∧
          t.servers (startedSocket cfg sid).loadBalancer = bs)) := by
  have hlibuv : t.libuvSockets = s.libuvSockets := congrArg Wiring.libuvSockets hw
  constructor
  · intro h
    cases h with
    | @proxy sid sock hs hn =>
      obtain ⟨sock', hs', hb, hstarted⟩ := socket_of_wiring hw.symm hs
      obtain ⟨-, cfg, hc, rfl⟩ := hl.proxy.sound sid sock' hs'
      obtain ⟨hmem, hcl⟩ := mem_proxies.1 hc
      have hname : cfg.name = name := Option.some.inj (hstarted.trans hn)
      rw [← hb]
      exact ⟨cfg, hmem, hname, startedSocket_kind hcl sid, Or.inr ⟨hcl, sid, hs', rfl⟩⟩
    | @libuv sid sock values hs hn hc =>
      rw [hlibuv] at hs
      obtain ⟨-, cfg, hmem, p, rfl⟩ := hl.libuv.sound sid sock hs
      obtain ⟨hmem, hcl⟩ := List.mem_filter.1 hmem
      obtain rfl : targetConfig cfg = values := Option.some.inj hc
      exact ⟨cfg, hmem, Option.some.inj hn, libuv_kind hcl, Or.inl ⟨hcl, rfl⟩⟩
  · rintro ⟨cfg, hmem, rfl, rfl, ⟨hcl, rfl⟩ | ⟨hcl, sid, hs, rfl⟩⟩
    · obtain ⟨sid, sock, hs, p, rfl⟩ := hl.libuv.complete cfg (List.mem_filter.2 ⟨hmem, hcl⟩)
      rw [← hlibuv] at hs
      rw [libuv_kind hcl]
      exact .libuv hs rfl rfl
    · obtain ⟨sock, hs', hb, hstarted⟩ := socket_of_wiring hw hs
      rw [startedSocket_kind hcl sid, ← hb]
      exact .proxy hs' hstarted

/-- **Which names are served, and by which strategy, is a matter of wiring.** -/
theorem served_of_wiring {cfgs : List ResolvedProxyConfig} {s t : State} (hl : Launched cfgs s)
    (hw : t.wiring = s.wiring) (name : String) (k : Option StrategyKind) :
    (∃ bs, Serves t name bs k) ↔ ∃ bs, Serves s name bs k := by
  have half : ∀ u v : State, u.wiring = s.wiring → v.wiring = s.wiring → (∃ bs, Serves u name bs k) →
      ∃ bs, Serves v name bs k := by
    rintro u v hu hv ⟨bs, h⟩
    obtain ⟨cfg, hmem, hname, hk, ⟨hcl, hbs⟩ | ⟨hcl, sid, hs, -⟩⟩ := (serves_iff hl hu).1 h
    · exact ⟨bs, (serves_iff hl hv).2 ⟨cfg, hmem, hname, hk, Or.inl ⟨hcl, hbs⟩⟩⟩
    · exact ⟨_, (serves_iff hl hv).2 ⟨cfg, hmem, hname, hk, Or.inr ⟨hcl, sid, hs, rfl⟩⟩⟩
  exact ⟨half t s hw rfl, half s t rfl hw⟩

theorem separate_resolved {c : ProxyConfig} {cfgs : List ResolvedProxyConfig}
    (h : List.Forall₂ ResolvesTo c.endPoints cfgs) (hsep : Separate c) :
    (cfgs.map resolvedSlot).Pairwise Slot.Apart := by
  rw [slots_resolved h]
  exact hsep

/-- **A process started on separate endpoints serves exactly its configuration.** -/
theorem start_serves {lib : Lib} (hengine : RoutesOverServices lib) {w : Phase → World} {configFilePath : String}
    {s : State} (hstart : startProcess lib w configFilePath = some s) (hsep : Separate s.configs.m_ProxyConfig)
    (name : String) (bs : List ResolvedService) (k : Option StrategyKind) :
    Serves s name bs k ↔ Serving s.configs.m_ProxyConfig name bs k := by
  obtain ⟨cfgs, hres, hsofar, -⟩ := startProcess_launched hstart
  have htidy := hsofar.tidy (separate_resolved hres hsep)
  -- a socket's balancer holds its endpoint's services
  have hlist : ∀ cfg ∈ cfgs, isLibuv cfg.pipelineName = false → ∀ sid,
      s.proxySockets sid = some (startedSocket cfg sid) →
      s.servers (startedSocket cfg sid).loadBalancer = cfg.services := by
    intro cfg hmem hcl sid hs
    rw [htidy.lists cfg (mem_proxies.2 ⟨hmem, hcl⟩) sid hs]
    exact hengine (targetConfig cfg)
  rw [serves_iff hsofar.launched rfl, serving_resolved hres]
  constructor
  · rintro ⟨cfg, hmem, hname, hk, ⟨-, hbs⟩ | ⟨hcl, sid, hs, hbs⟩⟩
    · exact ⟨cfg, hmem, hname, hbs, hk⟩
    · exact ⟨cfg, hmem, hname, (hlist cfg hmem hcl sid hs).symm.trans hbs, hk⟩
  · rintro ⟨cfg, hmem, hname, hbs, hk⟩
    refine ⟨cfg, hmem, hname, hk, ?_⟩
    cases hcl : isLibuv cfg.pipelineName with
    | true => exact Or.inl ⟨rfl, hbs⟩
    | false =>
      obtain ⟨sid, _, hs, rfl⟩ := hsofar.launched.proxy.complete cfg (mem_proxies.2 ⟨hmem, hcl⟩)
      exact Or.inr ⟨rfl, sid, hs, (hlist cfg hmem hcl sid hs).trans hbs⟩

/-! ## After a pass -/

section Pass

variable {lib : Lib} {cfgs : List ResolvedProxyConfig} {s t : State} {c : ProxyConfig}

/-- only its own name reaches the balancer of a separate socket -/
theorem reached_by_name (hsofar : LaunchedSoFar lib cfgs s) (hreg : Registered cfgs s)
    (hsep : (cfgs.map resolvedSlot).Pairwise Slot.Apart) {cfg : ResolvedProxyConfig} (hmem : cfg ∈ proxies cfgs)
    {sid : SocketId} (hs : s.proxySockets sid = some (startedSocket cfg sid)) {name : String} :
    s.reach name = some (startedSocket cfg sid).loadBalancer ↔ name = cfg.name := by
  constructor
  · intro h
    obtain ⟨sid', sock, hm, hs', hb⟩ := reach_eq_some h
    obtain ⟨sock', hsock', hstarted⟩ := hreg.owner hm
    obtain rfl : sock = sock' := Option.some.inj (hs'.symm.trans hsock')
    obtain ⟨-, cfg', hmem', rfl⟩ := hsofar.launched.proxy.sound sid' _ hs'
    have hname : cfg'.name = name := Option.some.inj hstarted
    obtain ⟨hsame, hprivate⟩ := balancer_eq (hsofar.shared cfg' hmem') (hsofar.shared cfg hmem) hb
    obtain ⟨hc', hcl'⟩ := mem_proxies.1 hmem'
    obtain ⟨hc, hcl⟩ := mem_proxies.1 hmem
    cases hstrategy : cfg'.loadBalancerStrategy with
    | none =>
      have hsock : startedSocket cfg' sid' = startedSocket cfg sid' := by
        obtain rfl := hprivate hstrategy
        exact Option.some.inj (hs'.symm.trans hs)
      exact hname.symm.trans (Option.some.inj (congrArg ProxySocket.started hsock))
    | some b =>
      have hone : cfg' = cfg := by
        refine separate_unique hsep hc' hc fun hapart => ?_
        rw [resolvedSlot_proxy hcl, resolvedSlot_proxy hcl'] at hapart
        exact hapart.2 b hstrategy (hsame.symm.trans hstrategy)
      rw [← hname, hone]
  · rintro rfl
    exact reach_of_socket ((hsofar.tidy hsep).registered sid _ _ hs rfl) hs

/-- the pass leaves a separate socket's balancer what the endpoint of its name says -/
theorem replayed_list (hsofar : LaunchedSoFar lib cfgs s) (hreg : Registered cfgs s)
    (hsep₀ : (cfgs.map resolvedSlot).Pairwise Slot.Apart) (hsep : Separate c) {prior : BalancerId → List ResolvedService}
    (hservers : t.servers = Alias.replay s.reach prior (ProxyConfig.writes c)) {cfg : ResolvedProxyConfig}
    (hmem : cfg ∈ proxies cfgs) {sid : SocketId} (hs : s.proxySockets sid = some (startedSocket cfg sid))
    {e : RemoteEndPoint} (he : e ∈ c.endPoints) (hname : e.endPointName = cfg.name) :
    t.servers (startedSocket cfg sid).loadBalancer = resolveServices e := by
  have hreach : ∀ name, s.reach name = some (startedSocket cfg sid).loadBalancer ↔ name = cfg.name :=
    fun _ => reached_by_name hsofar hreg hsep₀ hmem hs
  rw [hservers]
  refine Alias.replay_agree ⟨_, List.mem_map_of_mem he, (hreach _).2 hname⟩ (fun p hp hr => ?_) prior
  obtain ⟨e', he', rfl⟩ := List.mem_map.1 hp
  have hname' : e'.endPointName = e.endPointName := ((hreach _).1 hr).trans hname.symm
  rw [separate_unique hsep he' he (not_apart_of_name (by simpa using hname'))]

/-- **After a pass over separate endpoints, a slot of the start serves what they say.** -/
theorem replayed_serves (hsofar : LaunchedSoFar lib cfgs s) (hreg : Registered cfgs s)
    (hsep₀ : (cfgs.map resolvedSlot).Pairwise Slot.Apart) (hsep : Separate c) (hw : t.wiring = s.wiring)
    {prior : BalancerId → List ResolvedService}
    (hservers : t.servers = Alias.replay s.reach prior (ProxyConfig.writes c)) {x : Slot}
    (hx₀ : x ∈ cfgs.map resolvedSlot) (hx : x ∈ ProxyConfig.slots c) (bs : List ResolvedService)
    (k : Option StrategyKind) : Serves t x.name bs k ↔ Serving c x.name bs k := by
  obtain ⟨e, he, rfl⟩ := List.mem_map.1 hx
  obtain ⟨cfg, hmem, hslot⟩ := List.mem_map.1 hx₀
  have hname : cfg.name = e.endPointName := by simpa using congrArg Slot.name hslot
  have hserving : Serving c (endPointSlot e).name bs k ↔ resolveServices e = bs ∧ (endPointSlot e).kind = k := by
    constructor
    · rintro ⟨e', he', hname', hbs, hk⟩
      rw [separate_unique hsep he he' (not_apart_of_name (by simpa using hname'.symm))]
      exact ⟨hbs, hk⟩
    · rintro ⟨hbs, hk⟩
      exact ⟨e, he, (endPointSlot_name e).symm, hbs, hk⟩
  rw [serves_iff hsofar.launched hw, hserving]
  constructor
  · rintro ⟨cfg', hmem', hname', hk, hcase⟩
    obtain rfl : cfg' = cfg := by
      refine separate_unique hsep₀ hmem' hmem (not_apart_of_name ?_)
      simpa [hname] using hname'
    rw [hslot] at hk
    rcases hcase with ⟨hcl, hbs⟩ | ⟨hcl, sid, hs, hbs⟩
    · rw [resolvedSlot_libuv hcl] at hslot
      exact ⟨(endPointSlot_libuv (congrArg Slot.libuvServices hslot.symm)).trans hbs, hk⟩
    · exact ⟨(replayed_list hsofar hreg hsep₀ hsep hservers (mem_proxies.2 ⟨hmem, hcl⟩) hs he hname.symm).symm.trans hbs,
        hk⟩
  · rintro ⟨hbs, hk⟩
    refine ⟨cfg, hmem, by simpa using hname, by rw [hslot]; exact hk, ?_⟩
    cases hcl : isLibuv cfg.pipelineName with
    | true =>
      rw [resolvedSlot_libuv hcl] at hslot
      exact Or.inl ⟨rfl, (endPointSlot_libuv (congrArg Slot.libuvServices hslot.symm)).symm.trans hbs⟩
    | false =>
      obtain ⟨sid, _, hs, rfl⟩ := hsofar.launched.proxy.complete cfg (mem_proxies.2 ⟨hmem, hcl⟩)
      exact Or.inr ⟨rfl, sid, hs,
        (replayed_list hsofar hreg hsep₀ hsep hservers (mem_proxies.2 ⟨hmem, hcl⟩) hs he hname.symm).trans hbs⟩

end Pass

end Asabru.Server
