/-
What one iteration of the three start loops leaves, and the socket registries as `Registry`s.

An iteration creates one socket at the next address. If all the calls that set it up are accepted, it runs and, but for a
libuv socket, is registered; otherwise its name is erased and the object deleted.

Results:
- `initProxyServer_libuv`, `initProxyServer_proxy`, `initProtocolServer_cases`, `initApiGatewayServer_cases`: the state after
  one iteration;
- `State.registry`: the map of a group of sockets with the name each live socket was started for. `CProtocolSocket::Start`
  takes no name: a protocol socket is started for the server whose turn its address is, as every endpoint and every
  server takes one address, in order;
- `proxy_attempts`, `protocol_attempts`, `gateway_attempts`: each iteration is one attempt at its own registry
  (`Registries.Attempts`) and leaves the other two as they were.
-/
import Mathlib.Tactic
import Asabru.Core.Registry
import Asabru.Server.GatewayServer

namespace Asabru.Server

open Asabru.Control Asabru.Config Asabru.Pipelines Asabru.Registries

/-! ## One iteration -/

section Proxy

/-- all four calls that set a proxy socket up are accepted -/
def proxyAccepts (w : World) (sid : SocketId) : Bool :=
  w.accepts .setPipeline sid && w.accepts .setHandler sid && w.accepts .setConfigValues sid && w.accepts .start sid

theorem startCalls_accepts {w : World} {sid : SocketId} (h : proxyAccepts w sid = true)
    (call : SocketCall → State → State) (s : State) :
    startCalls w sid call s = (0, call .start (call .setConfigValues (call .setHandler (call .setPipeline s)))) := by
  simp only [proxyAccepts, Bool.and_eq_true] at h
  obtain ⟨⟨⟨hp, hh⟩, hc⟩, hs⟩ := h
  simp [startCalls, hp, hh, hc, hs]

/-- a refused set-up made some of the calls, in order -/
theorem startCalls_refuses {w : World} {sid : SocketId} (h : proxyAccepts w sid = false)
    (call : SocketCall → State → State) {P : State → Prop} (hP : ∀ c s, P s → P (call c s)) {s : State} (hs : P s) :
    (startCalls w sid call s).1 < 0 ∧ P (startCalls w sid call s).2 := by
  have h₂ : (-2 : Int) < 0 := by decide
  have h₃ : (-3 : Int) < 0 := by decide
  unfold startCalls
  dsimp only
  split_ifs with hp hh hc hst
  · exact ⟨h₂, hs⟩
  · exact ⟨h₂, hP _ _ hs⟩
  · exact ⟨h₂, hP _ _ (hP _ _ hs)⟩
  · exact ⟨h₃, hP _ _ (hP _ _ (hP _ _ hs))⟩
  · simp [proxyAccepts, hp, hh, hc, hst] at h

/-- the state after one more endpoint was refused; `servers` is what the lists were left at -/
def State.refusedProxy (name : String) (servers : BalancerId → List ResolvedService) (s : State) : State :=
  { s with
    proxySocketsMap := Function.update s.proxySocketsMap name none
    proxySockets := Function.update s.proxySockets s.nextSocket none
    servers := servers
    nextSocket := s.nextSocket + 1 }

def State.refusedLibuv (s : State) : State :=
  { s with
    libuvSockets := Function.update s.libuvSockets s.nextSocket none
    nextSocket := s.nextSocket + 1 }

/-- all but one object and the lists is as it was -/
structure ProxyAt (sid : SocketId) (s t : State) : Prop where
  rest : t = { s with proxySockets := t.proxySockets, servers := t.servers }
  others : Function.update t.proxySockets sid none = Function.update s.proxySockets sid none

structure LibuvAt (sid : SocketId) (s t : State) : Prop where
  rest : t = { s with libuvSockets := t.libuvSockets }
  others : Function.update t.libuvSockets sid none = Function.update s.libuvSockets sid none

theorem ProxyAt.modify {sid : SocketId} {s t : State} (h : ProxyAt sid s t) (g : ProxySocket → ProxySocket) :
    ProxyAt sid s (t.modifyProxySocket sid g) := by
  refine ⟨?_, ?_⟩
  · rw [h.rest]
    rfl
  · rw [← h.others]
    exact Function.update_idem ..

theorem ProxyAt.addAll {sid : SocketId} {s t : State} (h : ProxyAt sid s t) (added : List ResolvedService) :
    ProxyAt sid s (t.addAll sid added) := by
  unfold State.addAll
  cases t.proxySockets sid with
  | none => exact h
  | some sock =>
    refine ⟨?_, h.others⟩
    rw [h.rest]

theorem proxyCall_at (lib : Lib) (cfg : ResolvedProxyConfig) {sid : SocketId} {s : State} (c : SocketCall) (t : State)
    (h : ProxyAt sid s t) : ProxyAt sid s (proxyCall lib sid cfg c t) := by
  cases c with
  | setPipeline => exact h.modify _
  | setHandler => exact h.modify _
  | setConfigValues => exact (h.modify _).addAll _
  | start => exact (h.modify _).addAll _

theorem LibuvAt.modify {sid : SocketId} {s t : State} (h : LibuvAt sid s t) (g : LibuvSocket → LibuvSocket) :
    LibuvAt sid s (t.modifyLibuvSocket sid g) := by
  refine ⟨?_, ?_⟩
  · rw [h.rest]
    rfl
  · rw [← h.others]
    exact Function.update_idem ..

theorem libuvCall_at (p : Option PipelineFunction) (cfg : ResolvedProxyConfig) {sid : SocketId} {s : State}
    (c : SocketCall) (t : State) (h : LibuvAt sid s t) : LibuvAt sid s (libuvCall sid p cfg c t) := by
  cases c <;> exact h.modify _

variable (lib : Lib) (w : World) (f : PipelineFactory) {cfg : ResolvedProxyConfig} (s : State)

/-- **One libuv endpoint.** -/
theorem initProxyServer_libuv (hl : isLibuv cfg.pipelineName = true) :
    (proxyAccepts w s.nextSocket = true ∧
      initProxyServer lib w f cfg s = (.ok (), s.withLibuv (f.getPipeline .libuvProxy cfg.pipelineName) cfg)) ∨
    (proxyAccepts w s.nextSocket = false ∧
      ∃ code, code < 0 ∧ initProxyServer lib w f cfg s = (.error code, s.refusedLibuv)) := by
  let call := libuvCall s.nextSocket (f.getPipeline .libuvProxy cfg.pipelineName) cfg
  let r := startCalls w s.nextSocket call (s.newLibuvSocket cfg.proxyPort).2
  have hbody : initProxyServer lib w f cfg s =
      if r.1 < 0 then (.error r.1, r.2.deleteLibuvSocket s.nextSocket) else (.ok (), r.2) := by
    unfold initProxyServer
    rw [if_pos hl]
    rfl
  rw [hbody]
  cases ha : proxyAccepts w s.nextSocket with
  | true =>
    have hr : r = (0, s.withLibuv (f.getPipeline .libuvProxy cfg.pipelineName) cfg) := by
      rw [← libuvCalls]
      exact startCalls_accepts ha _ _
    exact Or.inl ⟨rfl, by rw [hr]; rfl⟩
  | false =>
    obtain ⟨hneg, hat⟩ := startCalls_refuses ha call
      (P := LibuvAt s.nextSocket { s with nextSocket := s.nextSocket + 1 })
      (s := (s.newLibuvSocket cfg.proxyPort).2) (fun c t => libuvCall_at _ _ c t) ⟨rfl, Function.update_idem ..⟩
    refine Or.inr ⟨rfl, r.1, hneg, ?_⟩
    rw [if_pos hneg]
    refine Prod.ext rfl ?_
    show State.deleteLibuvSocket s.nextSocket r.2 = _
    rw [State.deleteLibuvSocket, hat.others, hat.rest]
    rfl

/-- **One endpoint that is not a libuv one.** -/
theorem initProxyServer_proxy (hl : isLibuv cfg.pipelineName = false) :
    (proxyAccepts w s.nextSocket = true ∧ initProxyServer lib w f cfg s = (.ok (), s.withProxy lib cfg)) ∨
    (proxyAccepts w s.nextSocket = false ∧ ∃ code servers, code < 0 ∧
      initProxyServer lib w f cfg s = (.error code, s.refusedProxy cfg.name servers)) := by
  let call := proxyCall lib s.nextSocket cfg
  let s₁ := (s.newProxySocket cfg.proxyPort cfg.loadBalancerStrategy).2.registerProxySocket cfg.name s.nextSocket
  let r := startCalls w s.nextSocket call s₁
  have hbody : initProxyServer lib w f cfg s =
      if r.1 < 0 then (.error r.1, r.2.dropProxySocket cfg.name s.nextSocket) else (.ok (), r.2) := by
    unfold initProxyServer
    rw [if_neg (by simp [hl])]
    rfl
  rw [hbody]
  cases ha : proxyAccepts w s.nextSocket with
  | true =>
    have hr : r = (0, s.withProxy lib cfg) := by
      rw [← proxyCalls]
      exact startCalls_accepts ha _ _
    exact Or.inl ⟨rfl, by rw [hr]; rfl⟩
  | false =>
    obtain ⟨hneg, hat⟩ := startCalls_refuses ha call
      (P := ProxyAt s.nextSocket { s with
        proxySocketsMap := Function.update s.proxySocketsMap cfg.name (some s.nextSocket)
        nextSocket := s.nextSocket + 1 })
      (s := s₁) (fun c t => proxyCall_at lib cfg c t) ⟨rfl, Function.update_idem ..⟩
    refine Or.inr ⟨rfl, r.1, r.2.servers, hneg, ?_⟩
    rw [if_pos hneg]
    refine Prod.ext rfl ?_
    show State.dropProxySocket cfg.name s.nextSocket r.2 = _
    rw [State.dropProxySocket, hat.others, hat.rest]
    simp [State.refusedProxy]

end Proxy

section Protocol

/-- the calls that set a protocol socket up are accepted; a null handler is not set -/
def protocolAccepts (w : World) (handler : Option Handler) (sid : SocketId) : Bool :=
  w.accepts .setPipeline sid && (handler.isNone || w.accepts .setHandler sid) && w.accepts .start sid

def startedProtocolSocket (cfg : ResolvedProtocolConfig) : ProtocolSocket :=
  ⟨cfg.protocol_port, cfg.pipeline, cfg.handler, true⟩

/-- the state after one more protocol server was started -/
def State.withProtocol (lib : Lib) (cfg : ResolvedProtocolConfig) (s : State) : State :=
  { s with
    routes := s.routes ++ registered lib cfg
    protocolSocketsMap := Function.update s.protocolSocketsMap cfg.protocol_name (some s.nextSocket)
    protocolSockets := Function.update s.protocolSockets s.nextSocket (some (startedProtocolSocket cfg))
    nextSocket := s.nextSocket + 1 }

/-- the state after one more protocol server was refused: its routes stay registered -/
def State.refusedProtocol (lib : Lib) (cfg : ResolvedProtocolConfig) (s : State) : State :=
  { s with
    routes := s.routes ++ registered lib cfg
    protocolSocketsMap := Function.update s.protocolSocketsMap cfg.protocol_name none
    protocolSockets := Function.update s.protocolSockets s.nextSocket none
    nextSocket := s.nextSocket + 1 }

theorem startProtocolServer_accepts {w : World} {cfg : ResolvedProtocolConfig} {sid : SocketId} {s : State}
    (h : protocolAccepts w cfg.handler sid = true)
    (hs : s.protocolSockets sid = some ⟨cfg.protocol_port, none, none, false⟩) :
    startProtocolServer w (some sid) cfg s =
      (0, { s with protocolSockets := Function.update s.protocolSockets sid (some (startedProtocolSocket cfg)) }) := by
  simp only [protocolAccepts, Bool.and_eq_true, Bool.or_eq_true] at h
  obtain ⟨⟨hp, hh⟩, hst⟩ := h
  cases hn : cfg.handler with
  | none =>
    simp [startProtocolServer, State.modifyProtocolSocket, startedProtocolSocket, hp, hst, hn, hs]
  | some handler =>
    have hset : w.accepts .setHandler sid = true := by simpa [hn] using hh
    simp [startProtocolServer, State.modifyProtocolSocket, startedProtocolSocket, hp, hst, hset, hn, hs]

/-- a refused set-up changes one object at most -/
theorem startProtocolServer_refuses {w : World} {cfg : ResolvedProtocolConfig} {sid : SocketId}
    (h : protocolAccepts w cfg.handler sid = false) (s : State) :
    (startProtocolServer w (some sid) cfg s).1 < 0 ∧ ∃ sockets,
      (startProtocolServer w (some sid) cfg s).2 = { s with protocolSockets := sockets } ∧
      Function.update sockets sid none = Function.update s.protocolSockets sid none := by
  have h₂ : (-2 : Int) < 0 := by decide
  have h₃ : (-3 : Int) < 0 := by decide
  unfold startProtocolServer State.modifyProtocolSocket
  dsimp only
  split_ifs with hp hh hst hsome hsome
  · exact ⟨h₂, _, rfl, rfl⟩
  · exact ⟨h₂, _, rfl, Function.update_idem ..⟩
  · exact ⟨h₃, _, rfl, by simp⟩
  · exact ⟨h₃, _, rfl, Function.update_idem ..⟩
  · have hset : w.accepts .setHandler sid = true := by simpa [hsome] using hh
    simp [protocolAccepts, hp, hst, hset] at h
  · have hnone : cfg.handler = none := by simpa using hsome
    simp [protocolAccepts, hp, hst, hnone] at h

/-- **One protocol server.** -/
theorem initProtocolServer_cases (lib : Lib) (w : World) (cfg : ResolvedProtocolConfig) (s : State) :
    (protocolAccepts w cfg.handler s.nextSocket = true ∧
      initProtocolServer lib w cfg s = (.ok (), s.withProtocol lib cfg)) ∨
    (protocolAccepts w cfg.handler s.nextSocket = false ∧
      ∃ code, code < 0 ∧ initProtocolServer lib w cfg s = (.error code, s.refusedProtocol lib cfg)) := by
  let s₁ := ({ s with routes := s.routes ++ registered lib cfg }.newProtocolSocket cfg.protocol_port).2.registerProtocolSocket
    cfg.protocol_name s.nextSocket
  let r := startProtocolServer w (some s.nextSocket) cfg s₁
  have hbody : initProtocolServer lib w cfg s =
      if r.1 < 0 then (.error r.1, r.2.dropProtocolSocket cfg.protocol_name s.nextSocket) else (.ok (), r.2) := rfl
  rw [hbody]
  cases ha : protocolAccepts w cfg.handler s.nextSocket with
  | true =>
    have hr := startProtocolServer_accepts (s := s₁) ha (Function.update_self ..)
    refine Or.inl ⟨rfl, ?_⟩
    show (if (startProtocolServer w (some s.nextSocket) cfg s₁).1 < 0 then _
      else (_, (startProtocolServer w (some s.nextSocket) cfg s₁).2)) = _
    rw [hr]
    simp [s₁, State.withProtocol, State.newProtocolSocket, State.registerProtocolSocket]
  | false =>
    obtain ⟨hneg, sockets, hr, hothers⟩ := startProtocolServer_refuses ha s₁
    refine Or.inr ⟨rfl, r.1, hneg, ?_⟩
    rw [if_pos hneg]
    refine Prod.ext rfl ?_
    show State.dropProtocolSocket cfg.protocol_name s.nextSocket (startProtocolServer w (some s.nextSocket) cfg s₁).2 = _
    rw [hr, State.dropProtocolSocket]
    simp [hothers, s₁, State.refusedProtocol, State.newProtocolSocket, State.registerProtocolSocket]

end Protocol

section Gateway

def gatewayAccepts (w : World) (sid : SocketId) : Bool := w.accepts .setPipeline sid && w.accepts .start sid

def startedGatewaySocket (p : Option PipelineFunction) (endpoint : ApiGatewayEndPoint) : GatewaySocket :=
  ⟨endpoint.port, p, hostMapOf endpoint.services, some endpoint.name⟩

/-- the state after one more gateway was started -/
def State.withGateway (f : PipelineFactory) (endpoint : ApiGatewayEndPoint) (s : State) : State :=
  { s with
    pipelineFactory := f
    apiGatewaySocketsMap := Function.update s.apiGatewaySocketsMap endpoint.name (some s.nextSocket)
    gatewaySockets := Function.update s.gatewaySockets s.nextSocket
      (some (startedGatewaySocket (f.getPipeline .apiGateway endpoint.pipeline) endpoint))
    nextSocket := s.nextSocket + 1 }

/-- the state after one more gateway was refused -/
def State.refusedGateway (f : PipelineFactory) (name : String) (s : State) : State :=
  { s with
    pipelineFactory := f
    apiGatewaySocketsMap := Function.update s.apiGatewaySocketsMap name none
    gatewaySockets := Function.update s.gatewaySockets s.nextSocket none
    nextSocket := s.nextSocket + 1 }

theorem startGatewayServer_accepts {w : World} {endpoint : ApiGatewayEndPoint} {sid : SocketId}
    {p : Option PipelineFunction} {s : State} (h : gatewayAccepts w sid = true)
    (hs : s.gatewaySockets sid = some ⟨endpoint.port, none, fun _ => none, none⟩) :
    startGatewayServer w endpoint (some sid) p s =
      (0, { s with gatewaySockets := Function.update s.gatewaySockets sid (some (startedGatewaySocket p endpoint)) }) := by
  simp only [gatewayAccepts, Bool.and_eq_true] at h
  simp [startGatewayServer, State.modifyGatewaySocket, startedGatewaySocket, h.1, h.2, hs]

theorem startGatewayServer_refuses {w : World} {sid : SocketId} (h : gatewayAccepts w sid = false)
    (endpoint : ApiGatewayEndPoint) (p : Option PipelineFunction) (s : State) :
    (startGatewayServer w endpoint (some sid) p s).1 < 0 ∧ ∃ sockets,
      (startGatewayServer w endpoint (some sid) p s).2 = { s with gatewaySockets := sockets } ∧
      Function.update sockets sid none = Function.update s.gatewaySockets sid none := by
  have h₂ : (-2 : Int) < 0 := by decide
  have h₃ : (-3 : Int) < 0 := by decide
  unfold startGatewayServer State.modifyGatewaySocket
  dsimp only
  split_ifs with hp hst
  · exact ⟨h₂, _, rfl, rfl⟩
  · exact ⟨h₃, _, rfl, by simp⟩
  · simp [gatewayAccepts, hp, hst] at h

/-- **One gateway.** It is left by the exception of its pipeline, or it is started or refused. -/
theorem initApiGatewayServer_cases (lib : Lib) (w : World) (endpoint : ApiGatewayEndPoint) (s : State) :
    (∃ e, initApiGatewayServer lib w endpoint s = (.error (.throws e), s)) ∨
    (gatewayAccepts w s.nextSocket = true ∧
      ∃ f, initApiGatewayServer lib w endpoint s = (.ok (), s.withGateway f endpoint)) ∨
    (gatewayAccepts w s.nextSocket = false ∧ ∃ code f, code < 0 ∧
      initApiGatewayServer lib w endpoint s = (.error (.ret code), s.refusedGateway f endpoint.name)) := by
  cases hf : s.pipelineFactory.registerPipeline lib.libnameothy w.dl .apiGateway endpoint.pipeline with
  | error e => exact Or.inl ⟨e, by simp only [initApiGatewayServer, hf]⟩
  | ok f =>
    let p := f.getPipeline .apiGateway endpoint.pipeline
    let s₁ := ({ s with pipelineFactory := f }.newGatewaySocket endpoint.port).2.registerGatewaySocket endpoint.name
      s.nextSocket
    have hbody : initApiGatewayServer lib w endpoint s =
        if (startGatewayServer w endpoint (some s.nextSocket) p s₁).1 < 0 then
          (.error (.ret (startGatewayServer w endpoint (some s.nextSocket) p s₁).1),
            (startGatewayServer w endpoint (some s.nextSocket) p s₁).2.dropGatewaySocket endpoint.name s.nextSocket)
        else (.ok (), (startGatewayServer w endpoint (some s.nextSocket) p s₁).2) := by
      simp only [initApiGatewayServer, hf]
      rfl
    rw [hbody]
    refine Or.inr ?_
    cases ha : gatewayAccepts w s.nextSocket with
    | true =>
      rw [startGatewayServer_accepts (s := s₁) ha (Function.update_self ..)]
      refine Or.inl ⟨rfl, f, ?_⟩
      simp [s₁, p, State.withGateway, State.newGatewaySocket, State.registerGatewaySocket]
    | false =>
      obtain ⟨hneg, sockets, hr, hothers⟩ := startGatewayServer_refuses ha endpoint p s₁
      refine Or.inr ⟨rfl, _, f, hneg, ?_⟩
      rw [if_pos hneg, hr, State.dropGatewaySocket]
      simp [hothers, s₁, State.refusedGateway, State.newGatewaySocket, State.registerGatewaySocket]

/-- a gateway loop that returns a code was left by a negative one -/
theorem initApiGatewayServer_error {lib : Lib} {w : World} {endpoint : ApiGatewayEndPoint} {s t : State} {code : Int}
    (h : initApiGatewayServer lib w endpoint s = (.error (.ret code), t)) : code < 0 := by
  rcases initApiGatewayServer_cases lib w endpoint s with ⟨e, h'⟩ | ⟨-, f, h'⟩ | ⟨-, code', f, hneg, h'⟩
  · rw [h'] at h; cases h
  · rw [h'] at h; cases h
  · rw [h'] at h; cases h; exact hneg

end Gateway

/-! ## The registries -/

/-- the three groups of sockets that a map tracks -/
inductive Tracked where
  | proxy
  | protocol
  | apiGateway
deriving DecidableEq, Repr

/-- the protocol server whose turn an address is, when one address was taken for each endpoint and each server -/
def Configs.serverAt (c : Configs) (sid : SocketId) : Option String :=
  (c.m_ProtocolServerConfig[sid - c.m_ProxyConfig.endPoints.length]?).map ProtocolServerConfig.protocol_name

/-- the map of a group and the names its live sockets were started for -/
def State.registry (s : State) : Tracked → Registry String
  | .proxy => ⟨s.proxySocketsMap, fun sid => (s.proxySockets sid).bind ProxySocket.started⟩
  | .protocol => ⟨s.protocolSocketsMap, fun sid => (s.protocolSockets sid).bind fun sock =>
      if sock.started then Configs.serverAt s.configs sid else none⟩
  | .apiGateway => ⟨s.apiGatewaySocketsMap, fun sid => (s.gatewaySockets sid).bind GatewaySocket.started⟩

/-- an update of a heap is an update of what is read off its objects -/
theorem update_bind {ω κ : Type} (heap : SocketId → Option ω) (sid : SocketId) (o : Option ω)
    (g : SocketId → ω → Option κ) : (fun i => (Function.update heap sid o i).bind (g i)) =
      Function.update (fun i => (heap i).bind (g i)) sid (o.bind (g sid)) := by
  funext i
  by_cases hi : i = sid
  · subst hi
    simp
  · simp [Function.update_of_ne hi]

/-- what an iteration does to the other groups and to the stored configurations -/
structure OthersKept (k : Tracked) (s t : State) : Prop where
  registry : ∀ k', k' ≠ k → t.registry k' = s.registry k'
  configs : t.configs = s.configs

theorem OthersKept.refl (k : Tracked) (s : State) : OthersKept k s s := ⟨fun _ _ => rfl, rfl⟩

theorem OthersKept.trans {k : Tracked} {s t u : State} (h₁ : OthersKept k s t) (h₂ : OthersKept k t u) :
    OthersKept k s u :=
  ⟨fun k' hk => (h₂.registry k' hk).trans (h₁.registry k' hk), h₂.configs.trans h₁.configs⟩

section Attempts

variable (lib : Lib) (w : World) (s : State)

/-- a libuv socket is not tracked -/
def trackedName (name pipelineName : String) : Option String := if isLibuv pipelineName then none else some name

theorem proxy_attempts (f : PipelineFactory) (cfg : ResolvedProxyConfig) :
    Attempts (fun cfg : ResolvedProxyConfig => trackedName cfg.name cfg.pipelineName) (fun _ => proxyAccepts w)
      (initProxyServer lib w f) (fun s => s.registry .proxy) State.nextSocket (fun _ => False) cfg s ∧
    OthersKept .proxy s (initProxyServer lib w f cfg s).2 := by
  have hother : ∀ t : State, t.configs = s.configs → t.protocolSocketsMap = s.protocolSocketsMap →
      t.protocolSockets = s.protocolSockets → t.apiGatewaySocketsMap = s.apiGatewaySocketsMap →
      t.gatewaySockets = s.gatewaySockets → OthersKept .proxy s t := by
    intro t hc hpm hps hgm hgs
    refine ⟨fun k hk => ?_, hc⟩
    cases k with
    | proxy => exact absurd rfl hk
    | protocol => simp only [State.registry, hc, hpm, hps]
    | apiGateway => simp only [State.registry, hgm, hgs]
  cases hl : isLibuv cfg.pipelineName with
  | true =>
    rcases initProxyServer_libuv lib w f s hl with ⟨ha, h⟩ | ⟨ha, code, -, h⟩
    · rw [Attempts, h]
      exact ⟨Or.inr ⟨by simp [step, trackedName, hl]; rfl, rfl, by simp [ha]⟩, hother _ rfl rfl rfl rfl rfl⟩
    · rw [Attempts, h]
      exact ⟨Or.inr ⟨by simp [step, trackedName, hl]; rfl, rfl, by simp [ha]⟩, hother _ rfl rfl rfl rfl rfl⟩
  | false =>
    rcases initProxyServer_proxy lib w f s hl with ⟨ha, h⟩ | ⟨ha, code, servers, -, h⟩
    · rw [Attempts, h]
      refine ⟨Or.inr ⟨?_, rfl, by simp [ha]⟩, hother _ rfl rfl rfl rfl rfl⟩
      simp only [step, trackedName, hl, Bool.false_eq_true, if_false, ha, Registry.attempt, if_true, State.registry,
        State.withProxy, update_bind]
      rfl
    · rw [Attempts, h]
      refine ⟨Or.inr ⟨?_, rfl, by simp [ha]⟩, hother _ rfl rfl rfl rfl rfl⟩
      simp only [step, trackedName, hl, Bool.false_eq_true, if_false, ha, Registry.attempt, State.registry,
        State.refusedProxy, update_bind]
      rfl

theorem protocol_attempts {cfg : ResolvedProtocolConfig}
    (hturn : Configs.serverAt s.configs s.nextSocket = some cfg.protocol_name) :
    Attempts (fun cfg : ResolvedProtocolConfig => some cfg.protocol_name) (fun cfg => protocolAccepts w cfg.handler)
      (initProtocolServer lib w) (fun s => s.registry .protocol) State.nextSocket (fun _ => False) cfg s := by
  rcases initProtocolServer_cases lib w cfg s with ⟨ha, h⟩ | ⟨ha, code, -, h⟩
  · rw [Attempts, h]
    refine Or.inr ⟨?_, rfl, by simp [ha]⟩
    simp only [step, ha, Registry.attempt, if_true, State.registry, State.withProtocol, update_bind, Option.bind_some,
      startedProtocolSocket, hturn]
  · rw [Attempts, h]
    refine Or.inr ⟨?_, rfl, by simp [ha]⟩
    simp only [step, ha, Registry.attempt, Bool.false_eq_true, if_false, State.registry, State.refusedProtocol,
      update_bind, Option.bind_none]

theorem protocol_others (cfg : ResolvedProtocolConfig) : OthersKept .protocol s (initProtocolServer lib w cfg s).2 := by
  rcases initProtocolServer_cases lib w cfg s with ⟨-, h⟩ | ⟨-, code, -, h⟩
  · rw [h]
    exact ⟨fun k hk => by cases k <;> first | rfl | exact absurd rfl hk, rfl⟩
  · rw [h]
    exact ⟨fun k hk => by cases k <;> first | rfl | exact absurd rfl hk, rfl⟩

theorem gateway_attempts (endpoint : ApiGatewayEndPoint) :
    Attempts (fun endpoint : ApiGatewayEndPoint => some endpoint.name) (fun _ => gatewayAccepts w)
      (initApiGatewayServer lib w) (fun s => s.registry .apiGateway) State.nextSocket (fun e => ∃ err, e = .throws err)
      endpoint s ∧
    OthersKept .apiGateway s (initApiGatewayServer lib w endpoint s).2 := by
  rcases initApiGatewayServer_cases lib w endpoint s with ⟨e, h⟩ | ⟨ha, f, h⟩ | ⟨ha, code, f, -, h⟩
  · rw [Attempts, h]
    exact ⟨Or.inl ⟨_, rfl, e, rfl⟩, .refl _ s⟩
  · rw [Attempts, h]
    refine ⟨Or.inr ⟨?_, rfl, by simp [ha]⟩, fun k hk => by cases k <;> first | rfl | exact absurd rfl hk, rfl⟩
    simp only [step, ha, Registry.attempt, if_true, State.registry, State.withGateway, update_bind, Option.bind_some,
      startedGatewaySocket]
  · rw [Attempts, h]
    refine ⟨Or.inr ⟨?_, rfl, by simp [ha]⟩, fun k hk => by cases k <;> first | rfl | exact absurd rfl hk, rfl⟩
    simp only [step, ha, Registry.attempt, Bool.false_eq_true, if_false, State.registry, State.refusedGateway,
      update_bind, Option.bind_none]

end Attempts

end Asabru.Server
