/-
proxy_server.h, the start-up half: allocating, registering and starting one socket per resolved endpoint.

Results:
- `initProxyServer_ok`: a started endpoint leaves exactly one new object, registered under its name unless it is a libuv
  one, which no map tracks;
- `Registered`, `initProxyServers_registered`: after `initProxyServers` returned 0, the socket under a name is the one of
  the last endpoint with the name that is not a libuv one, it is live, it uses the strategy object of that endpoint or
  its own balancer, and no other name has it.
-/
import Mathlib.Tactic
import Asabru.Server.ProxyServer

namespace Asabru.Server

open Asabru.Control Asabru.Config Asabru.Pipelines

/-! ## Start helpers -/

/-- the four calls of both proxy start helpers: a refused one is reported and the rest is not made -/
def startCalls (w : World) (sid : SocketId) (call : SocketCall → State → State) (s : State) : Int × State :=
  if w.accepts .setPipeline sid = false then (-2, s)
  else
    let s := call .setPipeline s
    if w.accepts .setHandler sid = false then (-2, s)
    else
      let s := call .setHandler s
      if w.accepts .setConfigValues sid = false then (-2, s)
      else
        let s := call .setConfigValues s
        if w.accepts .start sid = false then (-3, s) else (0, call .start s)

/-- the calls on a `CProxySocket`, when they are accepted -/
def proxyCall (lib : Lib) (sid : SocketId) (configValue : ResolvedProxyConfig) : SocketCall → State → State
  | .setPipeline, s => s.modifyProxySocket sid fun sock => { sock with pipeline := configValue.pipeline }
  | .setHandler, s => s.modifyProxySocket sid fun sock => { sock with handler := configValue.handler }
  | .setConfigValues, s => s.setConfigValues lib sid (targetConfig configValue)
  | .start, s => (s.modifyProxySocket sid fun sock => { sock with started := some configValue.name }).addAll sid
      (lib.startAdds (targetConfig configValue))

def startProxyServer (lib : Lib) (w : World) (socket : Option SocketId) (configValue : ResolvedProxyConfig) (s : State) :
    Int × State :=
  match socket with
  | none => (-1, s)
  | some sid => startCalls w sid (proxyCall lib sid configValue) s

def State.modifyLibuvSocket (sid : SocketId) (f : LibuvSocket → LibuvSocket) (s : State) : State :=
  { s with libuvSockets := Function.update s.libuvSockets sid ((s.libuvSockets sid).map f) }

/-- the calls on a `LibuvProxySocket`, when they are accepted -/
def libuvCall (sid : SocketId) (pipelineFunction : Option PipelineFunction) (configValue : ResolvedProxyConfig) :
    SocketCall → State → State
  | .setPipeline, s => s.modifyLibuvSocket sid fun sock => { sock with pipeline := pipelineFunction }
  | .setHandler, s => s.modifyLibuvSocket sid fun sock => { sock with handler := configValue.handler }
  | .setConfigValues, s =>
    s.modifyLibuvSocket sid fun sock => { sock with configValues := some (targetConfig configValue) }
  | .start, s => s.modifyLibuvSocket sid fun sock => { sock with started := some configValue.name }

def startLibuvProxyServer (w : World) (socket : Option SocketId) (pipelineFunction : Option PipelineFunction)
    (configValue : ResolvedProxyConfig) (s : State) : Int × State :=
  match socket with
  | none => (-1, s)
  | some sid => startCalls w sid (libuvCall sid pipelineFunction configValue) s

/-! ## initProxyServers -/

/-- `new LibuvProxySocket(port)` -/
def State.newLibuvSocket (port : Int) (s : State) : SocketId × State :=
  (s.nextSocket,
    { s with
      libuvSockets := Function.update s.libuvSockets s.nextSocket (some ⟨port, none, none, none, none⟩)
      nextSocket := s.nextSocket + 1 })

def State.deleteLibuvSocket (sid : SocketId) (s : State) : State :=
  { s with libuvSockets := Function.update s.libuvSockets sid none }

/-- the list of a balancer when a socket starts to use it: a private one is constructed empty -/
def freshServers (strategy : Option BalancerId) (sid : SocketId) (s : State) : BalancerId → List ResolvedService :=
  match strategy with
  | some _ => s.servers
  | none => Function.update s.servers (.own sid) []

/-- `new CProxySocket(port, strategy)`, or `new CProxySocket(port)` without a strategy object -/
def State.newProxySocket (port : Int) (strategy : Option BalancerId) (s : State) : SocketId × State :=
  (s.nextSocket,
    { s with
      proxySockets := Function.update s.proxySockets s.nextSocket
        (some ⟨port, strategy.getD (.own s.nextSocket), none, none, none, none⟩)
      servers := freshServers strategy s.nextSocket s
      nextSocket := s.nextSocket + 1 })

/-- `proxySocketsMap[name] = sock` -/
def State.registerProxySocket (name : String) (sid : SocketId) (s : State) : State :=
  { s with proxySocketsMap := Function.update s.proxySocketsMap name (some sid) }

/-- `proxySocketsMap.erase(name)` and `delete sock` -/
def State.dropProxySocket (name : String) (sid : SocketId) (s : State) : State :=
  { s with
    proxySocketsMap := Function.update s.proxySocketsMap name none
    proxySockets := Function.update s.proxySockets sid none }

/-- endpoints of this pipeline get a libuv socket -/
def isLibuv (pipelineName : String) : Bool := pipelineName = "ClickHouseLibuvPipeline"

/-- body of the loop: an exit is the code that is returned -/
def initProxyServer (lib : Lib) (w : World) (pipelineFactory : PipelineFactory) (cfg : ResolvedProxyConfig)
    (s : State) : Except Int Unit × State :=
  if isLibuv cfg.pipelineName then
    let sock := s.newLibuvSocket cfg.proxyPort
    let result := startLibuvProxyServer w (some sock.1) (pipelineFactory.getPipeline .libuvProxy cfg.pipelineName) cfg
      sock.2
    if result.1 < 0 then (.error result.1, result.2.deleteLibuvSocket sock.1) else (.ok (), result.2)
  else
    let sock := s.newProxySocket cfg.proxyPort cfg.loadBalancerStrategy
    let result := startProxyServer lib w (some sock.1) cfg (sock.2.registerProxySocket cfg.name sock.1)
    if result.1 < 0 then (.error result.1, result.2.dropProxySocket cfg.name sock.1) else (.ok (), result.2)

/-- the code that a loop of starts returns -/
def loopCode (r : Except Int (List Unit)) : Int :=
  match r with
  | .ok _ => 0
  | .error code => code

/-- the local factory only scans the folder; the pipelines are loaded into the singleton's -/
def initProxyServers (lib : Lib) (w : World) (s : State) : Ending Int × State :=
  match PipelineFactory.empty.updateLibs w.plugins with
  | .error e => (.throws e, s)
  | .ok pipelineFactory =>
    let r := resolveProxyServerConfigurations lib w s.configs.m_ProxyConfig s.pipelineFactory
    let s := { s with pipelineFactory := r.2 }
    match r.1 with
    | .error e => (.throws e, s)
    | .ok configs =>
      let t := traverse (initProxyServer lib w pipelineFactory) configs s
      (.ret (loopCode t.1), t.2)

/-! ## What one started endpoint leaves -/

theorem startCalls_code (w : World) (sid : SocketId) (call : SocketCall → State → State) (s : State) :
    (startCalls w sid call s).1 < 0 ∨ startCalls w sid call s =
      (0, call .start (call .setConfigValues (call .setHandler (call .setPipeline s)))) := by
  unfold startCalls
  dsimp only
  split_ifs <;> simp

/-- the socket that a started endpoint owns -/
def startedSocket (cfg : ResolvedProxyConfig) (sid : SocketId) : ProxySocket where
  port := cfg.proxyPort
  loadBalancer := cfg.loadBalancerStrategy.getD (.own sid)
  pipeline := cfg.pipeline
  handler := cfg.handler
  configValues := some (targetConfig cfg)
  started := some cfg.name

def startedLibuvSocket (pipelineFunction : Option PipelineFunction) (cfg : ResolvedProxyConfig) : LibuvSocket where
  port := cfg.proxyPort
  pipeline := pipelineFunction
  handler := cfg.handler
  configValues := some (targetConfig cfg)
  started := some cfg.name

/-- the servers that the engine adds while a socket is set up and started -/
def engineAdds (lib : Lib) (cfg : ResolvedProxyConfig) : List ResolvedService :=
  lib.setConfigValuesAdds (targetConfig cfg) ++ lib.startAdds (targetConfig cfg)

/-- the state after one more proxy socket was started -/
def State.withProxy (lib : Lib) (cfg : ResolvedProxyConfig) (s : State) : State :=
  let b := cfg.loadBalancerStrategy.getD (.own s.nextSocket)
  let before := freshServers cfg.loadBalancerStrategy s.nextSocket s
  { s with
    proxySocketsMap := Function.update s.proxySocketsMap cfg.name (some s.nextSocket)
    proxySockets := Function.update s.proxySockets s.nextSocket (some (startedSocket cfg s.nextSocket))
    servers := Function.update before b (before b ++ engineAdds lib cfg)
    nextSocket := s.nextSocket + 1 }

/-- the state after one more libuv socket was started -/
def State.withLibuv (pipelineFunction : Option PipelineFunction) (cfg : ResolvedProxyConfig) (s : State) : State :=
  { s with
    libuvSockets := Function.update s.libuvSockets s.nextSocket (some (startedLibuvSocket pipelineFunction cfg))
    nextSocket := s.nextSocket + 1 }

theorem proxyCalls (lib : Lib) (cfg : ResolvedProxyConfig) (s : State) :
    let s' := (s.newProxySocket cfg.proxyPort cfg.loadBalancerStrategy).2.registerProxySocket cfg.name s.nextSocket
    let call := proxyCall lib s.nextSocket cfg
    call .start (call .setConfigValues (call .setHandler (call .setPipeline s'))) = s.withProxy lib cfg := by
  simp [proxyCall, State.newProxySocket, State.registerProxySocket, State.modifyProxySocket, State.addAll,
    State.setConfigValues, State.withProxy, startedSocket, engineAdds]

theorem libuvCalls (p : Option PipelineFunction) (cfg : ResolvedProxyConfig) (s : State) :
    let s' := (s.newLibuvSocket cfg.proxyPort).2
    let call := libuvCall s.nextSocket p cfg
    call .start (call .setConfigValues (call .setHandler (call .setPipeline s'))) = s.withLibuv p cfg := by
  simp [libuvCall, State.newLibuvSocket, State.modifyLibuvSocket, State.withLibuv, startedLibuvSocket]

/-- a loop body that continued after a start helper: the helper made all its calls -/
theorem kept_of_ok {r : Int × State} {drop : State → State} {t u : State} (hr : r.1 < 0 ∨ r = (0, u))
    (h : (if r.1 < 0 then (Except.error r.1, drop r.2) else (Except.ok (), r.2)) = (.ok (), t)) : t = u := by
  rcases hr with hr | rfl
  · rw [if_pos hr] at h
    cases h
  · exact (Prod.mk.inj h).2.symm

/-- **One started endpoint.** -/
theorem initProxyServer_ok {lib : Lib} {w : World} {f : PipelineFactory} {cfg : ResolvedProxyConfig} {s t : State}
    (h : initProxyServer lib w f cfg s = (.ok (), t)) :
    t = if isLibuv cfg.pipelineName then s.withLibuv (f.getPipeline .libuvProxy cfg.pipelineName) cfg
      else s.withProxy lib cfg := by
  unfold initProxyServer at h
  by_cases hl : isLibuv cfg.pipelineName
  · simp only [hl, if_true] at h ⊢
    rw [← libuvCalls]
    exact kept_of_ok (startCalls_code w s.nextSocket _ _) h
  · simp only [hl] at h ⊢
    rw [← proxyCalls]
    exact kept_of_ok (startCalls_code w s.nextSocket _ _) h

/-- a loop body that returned a code: the code is negative -/
theorem negative_of_error {r : Int × State} {drop : State → State} {t : State} {code : Int}
    (h : (if r.1 < 0 then (Except.error r.1, drop r.2) else (Except.ok (), r.2)) = (.error code, t)) : code < 0 := by
  by_cases hr : r.1 < 0
  · rw [if_pos hr] at h
    rwa [← Except.error.inj (Prod.mk.inj h).1]
  · rw [if_neg hr] at h
    cases h

theorem initProxyServer_error {lib : Lib} {w : World} {f : PipelineFactory} {cfg : ResolvedProxyConfig} {s t : State}
    {code : Int} (h : initProxyServer lib w f cfg s = (.error code, t)) : code < 0 := by
  unfold initProxyServer at h
  by_cases hl : isLibuv cfg.pipelineName
  · simp only [hl, if_true] at h
    exact negative_of_error h
  · simp only [hl] at h
    exact negative_of_error h

/-- a loop of starts whose code is not negative ran to its end -/
theorem loopCode_ok {α : Type} {body : α → State → Except Int Unit × State} {as : List α} {s : State}
    (hneg : ∀ a s t code, body a s = (.error code, t) → code < 0) (h : 0 ≤ loopCode (traverse body as s).1) :
    ∃ us, traverse body as s = (.ok us, (traverse body as s).2) := by
  rcases ht : traverse body as s with ⟨r, t⟩
  cases r with
  | ok us => exact ⟨us, rfl⟩
  | error code =>
    obtain ⟨a, -, s', hb⟩ := traverse_error ht
    have := hneg a s' t code hb
    rw [ht] at h
    exact absurd h (not_le.2 this)

/-- a start that returns no negative code ran to its end -/
theorem initProxyServers_ok {lib : Lib} {w : World} {s t : State} {code : Int}
    (h : initProxyServers lib w s = (.ret code, t)) (h0 : 0 ≤ code) :
    ∃ f f' cfgs us, resolveProxyServerConfigurations lib w s.configs.m_ProxyConfig s.pipelineFactory = (.ok cfgs, f') ∧
      traverse (initProxyServer lib w f) cfgs { s with pipelineFactory := f' } = (.ok us, t) ∧
      PipelineFactory.empty.updateLibs w.plugins = .ok f := by
  unfold initProxyServers at h
  cases hf : PipelineFactory.empty.updateLibs w.plugins with
  | error e => simp only [hf] at h; cases h
  | ok f =>
    rcases hr : resolveProxyServerConfigurations lib w s.configs.m_ProxyConfig s.pipelineFactory with ⟨r, f'⟩
    simp only [hf, hr] at h
    cases r with
    | error e => cases h
    | ok cfgs =>
      simp only [Prod.mk.injEq, Ending.ret.injEq] at h
      obtain ⟨us, hus⟩ := loopCode_ok (fun _ _ _ _ => initProxyServer_error) (h.1.symm ▸ h0)
      exact ⟨f, f', cfgs, us, rfl, by rw [hus, h.2], rfl⟩

/-- **What one started endpoint keeps, a start keeps.** -/
theorem initProxyServers_inv {lib : Lib} {w : World} {s t : State} {code : Int}
    {P : List ResolvedProxyConfig → State → Prop} (h : initProxyServers lib w s = (.ret code, t)) (hcode : 0 ≤ code)
    (libuv : ∀ done cfg p s, isLibuv cfg.pipelineName = true → P done s → P (done ++ [cfg]) (s.withLibuv p cfg))
    (proxy : ∀ done cfg s, isLibuv cfg.pipelineName = false → P done s →
      (∀ sid, cfg.loadBalancerStrategy ≠ some (.own sid)) → P (done ++ [cfg]) (s.withProxy lib cfg))
    (h0 : ∀ f, P [] { s with pipelineFactory := f }) :
    ∃ cfgs, List.Forall₂ ResolvesTo s.configs.m_ProxyConfig.endPoints cfgs ∧ P cfgs t := by
  obtain ⟨f, f', cfgs, us, hr, ht, -⟩ := initProxyServers_ok h hcode
  have hres := resolveProxy_ok hr
  refine ⟨cfgs, hres, ?_⟩
  have hown : ∀ cfg ∈ cfgs, ∀ sid, cfg.loadBalancerStrategy ≠ some (.own sid) := by
    intro cfg hc sid
    obtain ⟨e, -, he⟩ := forall₂_right hres hc
    rw [he.strategy]
    exact strategyObject_shared e sid
  refine traverse_inv [] (fun done cfg hc s _ s' hP hb => ?_) ht (h0 f')
  rw [initProxyServer_ok hb]
  by_cases hl : isLibuv cfg.pipelineName
  · rw [if_pos hl]
    exact libuv done cfg _ s hl hP
  · rw [if_neg hl]
    exact proxy done cfg s (by simpa using hl) hP (hown cfg hc)

/-- a start of proxies changes no stored configuration and registers no route -/
theorem initProxyServers_frame {lib : Lib} {w : World} {s t : State} {code : Int}
    (h : initProxyServers lib w s = (.ret code, t)) (hcode : 0 ≤ code) : t.configs = s.configs ∧ t.routes = s.routes := by
  obtain ⟨-, -, hP⟩ := initProxyServers_inv (P := fun _ t => t.configs = s.configs ∧ t.routes = s.routes) h hcode
    (fun _ _ _ _ _ hP => hP) (fun _ _ _ _ hP _ => hP) fun _ => ⟨rfl, rfl⟩
  exact hP

/-! ## Who is registered -/

/-- the last endpoint with the name that is not a libuv one -/
def registrant (done : List ResolvedProxyConfig) (name : String) : Option ResolvedProxyConfig :=
  (done.filter fun c => !isLibuv c.pipelineName && c.name = name).getLast?

theorem registrant_append (done : List ResolvedProxyConfig) (c : ResolvedProxyConfig) (n : String) :
    registrant (done ++ [c]) n = if isLibuv c.pipelineName = false ∧ c.name = n then some c else registrant done n := by
  unfold registrant
  rw [List.filter_append, List.getLast?_append]
  by_cases hc : isLibuv c.pipelineName = false ∧ c.name = n
  · simp [hc]
  · rw [if_neg hc, List.filter_cons_of_neg (by simpa using hc)]
    simp

theorem registrant_name {done : List ResolvedProxyConfig} {n : String} {c : ResolvedProxyConfig}
    (h : registrant done n = some c) : c.name = n := by
  have := List.mem_of_getLast? h
  simp only [List.mem_filter, Bool.and_eq_true, decide_eq_true_eq] at this
  exact this.2.2

/-- the map after the endpoints `done` were started -/
structure Registered (done : List ResolvedProxyConfig) (s : State) : Prop where
  absent : ∀ n, registrant done n = none → s.proxySocketsMap n = none
  present : ∀ n c, registrant done n = some c → ∃ sid, s.proxySocketsMap n = some sid ∧ sid < s.nextSocket ∧
    s.proxySockets sid = some (startedSocket c sid)

/-- a registered socket is started under its name -/
theorem Registered.owner {done : List ResolvedProxyConfig} {s : State} (h : Registered done s) {n : String}
    {sid : SocketId} (hn : s.proxySocketsMap n = some sid) :
    ∃ sock, s.proxySockets sid = some sock ∧ sock.started = some n := by
  cases hr : registrant done n with
  | none => rw [h.absent n hr] at hn; cases hn
  | some c =>
    obtain ⟨sid', hs, -, hk⟩ := h.present n c hr
    obtain rfl : sid' = sid := Option.some.inj (hs.symm.trans hn)
    exact ⟨_, hk, congrArg some (registrant_name hr)⟩

/-- no two names have one socket -/
theorem Registered.distinct {done : List ResolvedProxyConfig} {s : State} (h : Registered done s) {n m : String}
    {sid : SocketId} (hn : s.proxySocketsMap n = some sid) (hm : s.proxySocketsMap m = some sid) : n = m := by
  obtain ⟨sock, hs, hname⟩ := h.owner hn
  obtain ⟨sock', hs', hname'⟩ := h.owner hm
  obtain rfl : sock = sock' := Option.some.inj (hs.symm.trans hs')
  exact Option.some.inj (hname.symm.trans hname')

theorem Registered.libuv {done : List ResolvedProxyConfig} {s : State} (h : Registered done s)
    {cfg : ResolvedProxyConfig} (hl : isLibuv cfg.pipelineName = true) (p : Option PipelineFunction) :
    Registered (done ++ [cfg]) (s.withLibuv p cfg) := by
  have same : ∀ n, registrant (done ++ [cfg]) n = registrant done n := fun n => by simp [registrant_append, hl]
  refine ⟨fun n hr => h.absent n (same n ▸ hr), fun n c hr => ?_⟩
  obtain ⟨sid, hs, hlt, hk⟩ := h.present n c (same n ▸ hr)
  exact ⟨sid, hs, Nat.lt_succ_of_lt hlt, hk⟩

theorem Registered.proxy {lib : Lib} {done : List ResolvedProxyConfig} {s : State} (h : Registered done s)
    {cfg : ResolvedProxyConfig} (hl : isLibuv cfg.pipelineName = false) :
    Registered (done ++ [cfg]) (s.withProxy lib cfg) := by
  refine ⟨fun n hr => ?_, fun n c hr => ?_⟩
  · rw [registrant_append] at hr
    split_ifs at hr with hn
    have hne : n ≠ cfg.name := fun he => hn ⟨hl, he.symm⟩
    exact (Function.update_of_ne hne _ _).trans (h.absent n hr)
  · rw [registrant_append] at hr
    split_ifs at hr with hn
    · obtain rfl := Option.some.inj hr
      obtain rfl := hn.2
      exact ⟨s.nextSocket, Function.update_self .., Nat.lt_succ_self _, Function.update_self ..⟩
    · -- the new socket is neither the name's nor at its address
      obtain ⟨sid, hs, hlt, hk⟩ := h.present n c hr
      have hne : n ≠ cfg.name := fun he => hn ⟨hl, he.symm⟩
      exact ⟨sid, (Function.update_of_ne hne _ _).trans hs, Nat.lt_succ_of_lt hlt,
        (Function.update_of_ne (Nat.ne_of_lt hlt) _ _).trans hk⟩

/-- **After a start, the last endpoint with a name is the one registered.** -/
theorem initProxyServers_registered {lib : Lib} {w : World} {configs : Configs} {factory : PipelineFactory} {t : State}
    {code : Int} (h : initProxyServers lib w (.fresh configs factory) = (.ret code, t)) (hcode : 0 ≤ code) :
    ∃ cfgs, List.Forall₂ ResolvesTo configs.m_ProxyConfig.endPoints cfgs ∧ Registered cfgs t := by
  refine initProxyServers_inv h hcode (fun _ _ p _ hl hP => hP.libuv hl p) (fun _ _ _ hl hP _ => hP.proxy hl) fun f => ?_
  exact ⟨fun _ _ => rfl, fun _ _ hr => (nomatch hr)⟩

end Asabru.Server
