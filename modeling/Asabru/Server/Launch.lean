/-
What a start of the proxies launches: one socket for each endpoint, at a fresh address.

A `Slot` is what a start makes of an endpoint and no request changes: the name, the kind of socket, the strategy object,
and for a libuv socket its services too. Endpoints are separate (`Separate`) when they have different names and share no
strategy object.

Results:
- `Launched`: the heap of sockets holds one started socket for each endpoint and no other;
- `Tidy`: for separate endpoints every socket is registered under its name, and its balancer holds what the engine added
  for its endpoint alone;
- `startProcess_launched`: both hold of every started process.
-/
import Mathlib.Tactic
import Asabru.Core.Heap
import Asabru.Server.Process

namespace Asabru.Server

open Asabru.Control Asabru.Config Asabru.Pipelines Asabru.Heap

/-! ## Slots -/

/-- what a start makes of an endpoint and no request changes -/
structure Slot where
  name : String
  /-- the services of a libuv socket, none for a proxy socket -/
  libuvServices : Option (List ResolvedService)
  /-- the strategy object of a proxy socket, none for a private one -/
  strategy : Option BalancerId
deriving DecidableEq, Repr

/-- different names, and no common strategy object -/
def Slot.Apart (x y : Slot) : Prop := x.name ≠ y.name ∧ ∀ b, x.strategy = some b → y.strategy ≠ some b

theorem Slot.Apart.symm {x y : Slot} (h : x.Apart y) : y.Apart x :=
  ⟨h.1.symm, fun b hy hx => h.2 b hx hy⟩

def Slot.kind (x : Slot) : Option StrategyKind :=
  match x.libuvServices with
  | some _ => none
  | none => some (x.strategy.getD (.own 0)).kind

def slotOf (name pipeline : String) (services : List ResolvedService) (strategy : Option BalancerId) : Slot :=
  if isLibuv pipeline then ⟨name, some services, none⟩ else ⟨name, none, strategy⟩

/-- the slot of a stored endpoint -/
def endPointSlot (e : RemoteEndPoint) : Slot :=
  slotOf e.endPointName e.pipeline (resolveServices e) (strategyObject e)

def ProxyConfig.slots (c : ProxyConfig) : List Slot := c.endPoints.map endPointSlot

/-- the endpoints have different names and no two share a strategy object -/
def Separate (c : ProxyConfig) : Prop := (ProxyConfig.slots c).Pairwise Slot.Apart

/-- the slot of a resolved endpoint -/
def resolvedSlot (cfg : ResolvedProxyConfig) : Slot :=
  slotOf cfg.name cfg.pipelineName cfg.services cfg.loadBalancerStrategy

theorem slotOf_name (name pipeline : String) (services : List ResolvedService) (strategy : Option BalancerId) :
    (slotOf name pipeline services strategy).name = name := by
  unfold slotOf
  split_ifs <;> rfl

@[simp] theorem endPointSlot_name (e : RemoteEndPoint) : (endPointSlot e).name = e.endPointName := slotOf_name ..

@[simp] theorem resolvedSlot_name (cfg : ResolvedProxyConfig) : (resolvedSlot cfg).name = cfg.name := slotOf_name ..

theorem ResolvesTo.slot {e : RemoteEndPoint} {cfg : ResolvedProxyConfig} (h : ResolvesTo e cfg) :
    resolvedSlot cfg = endPointSlot e := by
  unfold resolvedSlot endPointSlot
  rw [h.name, h.pipelineName, h.services, h.strategy]

theorem slots_resolved {c : ProxyConfig} {cfgs : List ResolvedProxyConfig}
    (h : List.Forall₂ ResolvesTo c.endPoints cfgs) : cfgs.map resolvedSlot = ProxyConfig.slots c := by
  unfold ProxyConfig.slots
  generalize c.endPoints = eps at h ⊢
  induction h with
  | nil => rfl
  | cons h _ ih => simp only [List.map_cons, h.slot, ih]

theorem resolvedSlot_libuv {cfg : ResolvedProxyConfig} (h : isLibuv cfg.pipelineName = true) :
    resolvedSlot cfg = ⟨cfg.name, some cfg.services, none⟩ := by
  unfold resolvedSlot slotOf
  rw [if_pos h]

theorem resolvedSlot_proxy {cfg : ResolvedProxyConfig} (h : isLibuv cfg.pipelineName = false) :
    resolvedSlot cfg = ⟨cfg.name, none, cfg.loadBalancerStrategy⟩ := by
  unfold resolvedSlot slotOf
  rw [if_neg (by rw [h]; decide)]

/-- of endpoints with separate slots, two whose slots are not apart are one -/
theorem separate_unique {α : Type} {slot : α → Slot} {xs : List α} (h : (xs.map slot).Pairwise Slot.Apart) {x y : α}
    (hx : x ∈ xs) (hy : y ∈ xs) (hxy : ¬ (slot x).Apart (slot y)) : x = y := by
  have : Std.Symm fun x y => (slot x).Apart (slot y) := ⟨fun _ _ h => h.symm⟩
  by_contra hne
  exact hxy ((List.pairwise_map.1 h).forall hx hy hne)

theorem not_apart_of_name {x y : Slot} (h : x.name = y.name) : ¬ x.Apart y := fun hapart => hapart.1 h

/-! ## What a start launches -/

def libuvs (done : List ResolvedProxyConfig) : List ResolvedProxyConfig := done.filter fun c => isLibuv c.pipelineName
def proxies (done : List ResolvedProxyConfig) : List ResolvedProxyConfig := done.filter fun c => !isLibuv c.pipelineName

/-- the sockets after the endpoints `done` were started: one for each, and no other -/
structure Launched (done : List ResolvedProxyConfig) (s : State) : Prop where
  proxy : Holds (fun cfg sid sock => sock = startedSocket cfg sid) (proxies done) s.proxySockets s.nextSocket
  libuv : Holds (fun cfg _ sock => ∃ p, sock = startedLibuvSocket p cfg) (libuvs done) s.libuvSockets s.nextSocket

/-- the map and the lists after separate endpoints were started -/
structure Tidy (lib : Lib) (done : List ResolvedProxyConfig) (s : State) : Prop where
  registered : ∀ sid sock name, s.proxySockets sid = some sock → sock.started = some name →
    s.proxySocketsMap name = some sid
  /-- a strategy object that no endpoint was given -/
  idle : ∀ b, (∀ sid, b ≠ .own sid) → (∀ cfg ∈ done, (resolvedSlot cfg).strategy ≠ some b) → s.servers b = []
  lists : ∀ cfg ∈ proxies done, ∀ sid, s.proxySockets sid = some (startedSocket cfg sid) →
    s.servers (startedSocket cfg sid).loadBalancer = engineAdds lib cfg

theorem Launched.withLibuv {done : List ResolvedProxyConfig} {s : State} (h : Launched done s)
    {cfg : ResolvedProxyConfig} (hl : isLibuv cfg.pipelineName = true) (p : Option PipelineFunction) :
    Launched (done ++ [cfg]) (s.withLibuv p cfg) := by
  have hproxies : proxies (done ++ [cfg]) = proxies done := by simp [proxies, hl]
  have hlibuvs : libuvs (done ++ [cfg]) = libuvs done ++ [cfg] := by simp [libuvs, hl]
  refine ⟨?_, ?_⟩
  · rw [hproxies]
    exact h.proxy.skip (Nat.le_succ _)
  · rw [hlibuvs]
    exact h.libuv.alloc ⟨p, rfl⟩

theorem Launched.withProxy {lib : Lib} {done : List ResolvedProxyConfig} {s : State} (h : Launched done s)
    {cfg : ResolvedProxyConfig} (hl : isLibuv cfg.pipelineName = false) :
    Launched (done ++ [cfg]) (s.withProxy lib cfg) := by
  have hproxies : proxies (done ++ [cfg]) = proxies done ++ [cfg] := by simp [proxies, hl]
  have hlibuvs : libuvs (done ++ [cfg]) = libuvs done := by simp [libuvs, hl]
  refine ⟨?_, ?_⟩
  · rw [hproxies]
    exact h.proxy.alloc rfl
  · rw [hlibuvs]
    exact h.libuv.skip (Nat.le_succ _)

/-- a libuv socket uses no strategy object and is registered nowhere -/
theorem Tidy.withLibuv {lib : Lib} {done : List ResolvedProxyConfig} {s : State} (h : Tidy lib done s)
    {cfg : ResolvedProxyConfig} (hl : isLibuv cfg.pipelineName = true) (p : Option PipelineFunction) :
    Tidy lib (done ++ [cfg]) (s.withLibuv p cfg) := by
  have hproxies : proxies (done ++ [cfg]) = proxies done := by simp [proxies, hl]
  refine ⟨h.registered, fun b hb hidle => ?_, ?_⟩
  · exact h.idle b hb fun c hc => hidle c (List.mem_append_left _ hc)
  · rw [hproxies]
    exact h.lists

theorem mem_proxies {done : List ResolvedProxyConfig} {cfg : ResolvedProxyConfig} :
    cfg ∈ proxies done ↔ cfg ∈ done ∧ isLibuv cfg.pipelineName = false := by
  simp [proxies]

/-- a start allocates the private balancer of the new socket only -/
theorem freshServers_other {strategy : Option BalancerId} {sid : SocketId} {b : BalancerId} (s : State)
    (h : b ≠ .own sid) : freshServers strategy sid s b = s.servers b := by
  cases strategy with
  | some _ => rfl
  | none => exact Function.update_of_ne h _ _

/-- the balancer of a new socket that shares its strategy object with no socket so far starts empty -/
theorem Tidy.fresh {lib : Lib} {done : List ResolvedProxyConfig} {s : State} (h : Tidy lib done s)
    {cfg : ResolvedProxyConfig} (hl : isLibuv cfg.pipelineName = false)
    (hown : ∀ sid, cfg.loadBalancerStrategy ≠ some (.own sid))
    (hapart : ∀ c ∈ done, (resolvedSlot c).Apart (resolvedSlot cfg)) :
    freshServers cfg.loadBalancerStrategy s.nextSocket s (startedSocket cfg s.nextSocket).loadBalancer = [] := by
  unfold freshServers startedSocket
  cases hs : cfg.loadBalancerStrategy with
  | none => exact Function.update_self ..
  | some b =>
    refine h.idle b (fun sid hb => hown sid (by rw [hs, hb])) fun c hc hcb => ?_
    refine (hapart c hc).2 b hcb ?_
    rw [resolvedSlot_proxy hl, hs]

/-- no endpoint names the private balancer of a socket -/
def SharedOnly (cfg : ResolvedProxyConfig) : Prop := ∀ sid, cfg.loadBalancerStrategy ≠ some (.own sid)

/-- two sockets with one balancer have one strategy object, or are one -/
theorem balancer_eq {cfg c : ResolvedProxyConfig} {i j : SocketId} (hcfg : SharedOnly cfg) (hc : SharedOnly c)
    (h : (startedSocket cfg i).loadBalancer = (startedSocket c j).loadBalancer) :
    cfg.loadBalancerStrategy = c.loadBalancerStrategy ∧ (cfg.loadBalancerStrategy = none → i = j) := by
  unfold SharedOnly at hcfg hc
  unfold startedSocket at h
  generalize cfg.loadBalancerStrategy = x at hcfg h ⊢
  generalize c.loadBalancerStrategy = y at hc h ⊢
  cases x with
  | none =>
    cases y with
    | none => exact ⟨rfl, fun _ => BalancerId.own.inj h⟩
    | some b => exact absurd (congrArg some h.symm) (hc i)
  | some b =>
    cases y with
    | none => exact absurd (congrArg some h) (hcfg j)
    | some b' => exact ⟨congrArg some h, fun hnone => (nomatch hnone)⟩

/-- a socket uses no other socket's private balancer -/
theorem balancer_not_own {cfg : ResolvedProxyConfig} {i j : SocketId} (hcfg : SharedOnly cfg) (hij : i ≠ j) :
    (startedSocket cfg i).loadBalancer ≠ .own j := by
  unfold startedSocket
  cases hs : cfg.loadBalancerStrategy with
  | none => exact fun h => hij (BalancerId.own.inj h)
  | some b => exact fun h => hcfg j (hs.trans (congrArg some h))

/-- sockets of slots that are apart have different balancers -/
theorem balancer_ne {cfg c : ResolvedProxyConfig} {i j : SocketId} (hij : i ≠ j) (hcfg : SharedOnly cfg)
    (hc : SharedOnly c) (hl : isLibuv cfg.pipelineName = false) (hcl : isLibuv c.pipelineName = false)
    (hapart : (resolvedSlot cfg).Apart (resolvedSlot c)) :
    (startedSocket cfg i).loadBalancer ≠ (startedSocket c j).loadBalancer := by
  intro heq
  obtain ⟨hsame, hprivate⟩ := balancer_eq hcfg hc heq
  have hstrategies := hapart.2
  rw [resolvedSlot_proxy hl, resolvedSlot_proxy hcl] at hstrategies
  cases hs : cfg.loadBalancerStrategy with
  | none => exact hij (hprivate hs)
  | some b => exact hstrategies b hs (hsame.symm.trans hs)

/-- a socket that is apart from all others is registered under its name and starts from an empty list -/
theorem Tidy.withProxy {lib : Lib} {done : List ResolvedProxyConfig} {s : State} (h : Tidy lib done s)
    (hlaunched : Launched done s) (hshared : ∀ c ∈ proxies done, SharedOnly c) {cfg : ResolvedProxyConfig}
    (hl : isLibuv cfg.pipelineName = false) (hown : SharedOnly cfg)
    (hapart : ∀ c ∈ done, (resolvedSlot c).Apart (resolvedSlot cfg)) :
    Tidy lib (done ++ [cfg]) (s.withProxy lib cfg) := by
  have hproxies : proxies (done ++ [cfg]) = proxies done ++ [cfg] := by simp [proxies, hl]
  have hnames : ∀ c ∈ done, c.name ≠ cfg.name := fun c hc => by simpa using (hapart c hc).1
  refine ⟨fun sid sock name hs hname => ?_, fun b hb hidle => ?_, fun c hc sid hs => ?_⟩
  · rcases update_some hs with ⟨rfl, rfl⟩ | ⟨-, hold⟩
    · obtain rfl : cfg.name = name := Option.some.inj hname
      exact Function.update_self ..
    · obtain ⟨-, c, hc, rfl⟩ := hlaunched.proxy.sound sid sock hold
      obtain rfl : c.name = name := Option.some.inj hname
      exact (Function.update_of_ne (hnames c (mem_proxies.1 hc).1) _ _).trans (h.registered sid _ _ hold rfl)
  · have hne : b ≠ (startedSocket cfg s.nextSocket).loadBalancer := by
      have hcfg := hidle cfg (List.mem_append_right _ (List.mem_singleton_self _))
      rw [resolvedSlot_proxy hl] at hcfg
      unfold startedSocket
      cases hs : cfg.loadBalancerStrategy with
      | none => exact hb s.nextSocket
      | some b' => exact fun heq => hcfg (hs.trans (congrArg some heq.symm))
    have hold : s.servers b = [] := h.idle b hb fun c hc => hidle c (List.mem_append_left _ hc)
    exact (Function.update_of_ne hne _ _).trans ((freshServers_other s (hb s.nextSocket)).trans hold)
  · rcases update_some hs with ⟨hsid, hsock⟩ | ⟨hsid, hold⟩
    · have hname : c.name = cfg.name := congrArg (fun sock => sock.started.getD "") hsock
      rw [hproxies] at hc
      rcases List.mem_append.1 hc with hc | hc
      · exact absurd hname (hnames c (mem_proxies.1 hc).1)
      · rw [List.mem_singleton.1 hc, hsid]
        refine (Function.update_self ..).trans ?_
        rw [show cfg.loadBalancerStrategy.getD (.own s.nextSocket) = (startedSocket cfg s.nextSocket).loadBalancer
          from rfl, h.fresh hl hown hapart]
        rfl
    · obtain ⟨hlt, c', hc', hsock⟩ := hlaunched.proxy.sound sid _ hold
      have hname : c.name = c'.name := congrArg (fun sock => sock.started.getD "") hsock
      rw [hproxies] at hc
      rcases List.mem_append.1 hc with hc | hc
      · obtain ⟨hmem, hcl⟩ := mem_proxies.1 hc
        have hne := balancer_ne hsid (hshared c hc) hown hcl hl (hapart c hmem)
        refine (Function.update_of_ne hne _ _).trans ?_
        exact (freshServers_other s (balancer_not_own (hshared c hc) hsid)).trans (h.lists c hc sid hold)
      · rw [List.mem_singleton.1 hc] at hname
        exact absurd hname.symm (hnames c' (mem_proxies.1 hc').1)

/-- the endpoints started so far are launched, and tidy if they are separate -/
structure LaunchedSoFar (lib : Lib) (done : List ResolvedProxyConfig) (s : State) : Prop where
  launched : Launched done s
  shared : ∀ c ∈ proxies done, SharedOnly c
  tidy : (done.map resolvedSlot).Pairwise Slot.Apart → Tidy lib done s

theorem apart_of_append {done : List ResolvedProxyConfig} {cfg : ResolvedProxyConfig}
    (h : ((done ++ [cfg]).map resolvedSlot).Pairwise Slot.Apart) :
    (done.map resolvedSlot).Pairwise Slot.Apart ∧ ∀ c ∈ done, (resolvedSlot c).Apart (resolvedSlot cfg) := by
  rw [List.map_append, List.pairwise_append] at h
  exact ⟨h.1, fun c hc => h.2.2 _ (List.mem_map_of_mem hc) _ (List.mem_singleton_self _)⟩

theorem LaunchedSoFar.withLibuv {lib : Lib} {done : List ResolvedProxyConfig} {s : State}
    (h : LaunchedSoFar lib done s) {cfg : ResolvedProxyConfig} (hl : isLibuv cfg.pipelineName = true)
    (p : Option PipelineFunction) : LaunchedSoFar lib (done ++ [cfg]) (s.withLibuv p cfg) := by
  refine ⟨h.launched.withLibuv hl p, ?_, fun hsep => (h.tidy (apart_of_append hsep).1).withLibuv hl p⟩
  have hproxies : proxies (done ++ [cfg]) = proxies done := by simp [proxies, hl]
  rw [hproxies]
  exact h.shared

theorem LaunchedSoFar.withProxy {lib : Lib} {done : List ResolvedProxyConfig} {s : State}
    (h : LaunchedSoFar lib done s) {cfg : ResolvedProxyConfig} (hl : isLibuv cfg.pipelineName = false)
    (hown : SharedOnly cfg) : LaunchedSoFar lib (done ++ [cfg]) (s.withProxy lib cfg) := by
  refine ⟨h.launched.withProxy hl, fun c hc => ?_, fun hsep => ?_⟩
  · rcases List.mem_append.1 (mem_proxies.1 hc).1 with hmem | hmem
    · exact h.shared c (mem_proxies.2 ⟨hmem, (mem_proxies.1 hc).2⟩)
    · rw [List.mem_singleton.1 hmem]
      exact hown
  · obtain ⟨hdone, hapart⟩ := apart_of_append hsep
    exact (h.tidy hdone).withProxy h.launched h.shared hl hown hapart

theorem LaunchedSoFar.kept {lib : Lib} {done : List ResolvedProxyConfig} {s t : State}
    (h : LaunchedSoFar lib done s) (hk : ProxySideKept s t) : LaunchedSoFar lib done t := by
  refine ⟨⟨?_, ?_⟩, h.shared, fun hsep => ⟨?_, ?_, ?_⟩⟩
  · rw [hk.proxySockets]
    exact h.launched.proxy.skip hk.nextSocket
  · rw [hk.libuvSockets]
    exact h.launched.libuv.skip hk.nextSocket
  · rw [hk.proxySockets, hk.proxySocketsMap]
    exact (h.tidy hsep).registered
  · rw [hk.servers]
    exact (h.tidy hsep).idle
  · rw [hk.proxySockets, hk.servers]
    exact (h.tidy hsep).lists

/-- **What a start launches.** -/
theorem startProcess_launched {lib : Lib} {w : Phase → World} {configFilePath : String} {s : State}
    (h : startProcess lib w configFilePath = some s) :
    ∃ cfgs, List.Forall₂ ResolvesTo s.configs.m_ProxyConfig.endPoints cfgs ∧ LaunchedSoFar lib cfgs s ∧
      Registered cfgs s := by
  obtain ⟨t, ht⟩ := startProcess_started h
  obtain ⟨factory, code, hx, hcode⟩ := ht.proxies
  obtain ⟨cfgs, hres, hlaunched, hreg⟩ := initProxyServers_inv
    (P := fun done s => LaunchedSoFar lib done s ∧ Registered done s) hx hcode
    (fun _ _ p _ hl hP => ⟨hP.1.withLibuv hl p, hP.2.libuv hl p⟩)
    (fun _ _ _ hl hP hown => ⟨hP.1.withProxy hl hown, hP.2.proxy hl⟩)
    fun f => ⟨⟨⟨.empty _ _, .empty _ _⟩, fun _ hc => (nomatch hc), fun _ => ⟨fun _ _ _ hs => (nomatch hs), fun _ _ _ => rfl,
      fun _ hc => (nomatch hc)⟩⟩, fun _ _ => rfl, fun _ _ hr => (nomatch hr)⟩
  exact ⟨cfgs, hres, hlaunched.kept ht.kept, hreg.kept ht.kept⟩

end Asabru.Server
