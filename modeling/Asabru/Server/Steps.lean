/-
The steps of a concurrent request, one by one.

Results:
- `run_wiring`, `setConfigValues_servers`, `removeAllServers_servers`, `addServer_servers`: what a single call changes;
- `next_call`: which call of an endpoint is next, and which ones are left after it (`NextCall`);
- `stepRequest_cases`: all that a step of a request can be (`StepOf`).
-/
import Mathlib.Tactic
import Asabru.Server.Interleaving

namespace Asabru.Server

open Asabru.Control Asabru.Config Asabru.Interleave

/-! ## Single calls -/

theorem run_wiring (lib : Lib) (call : Call) (s : State) : (Call.run lib s call).wiring = s.wiring := by
  cases call with
  | setConfigValues sid cfg =>
    show (s.setConfigValues lib sid cfg).wiring = s.wiring
    cases h : s.proxySockets sid with
    | none => rw [setConfigValues_dangling h]
    | some sock =>
      rw [setConfigValues_live h]
      simp only [State.wiring, Wiring.mk.injEq, true_and, and_true]
      funext sid'
      by_cases hs : sid' = sid
      · subst hs; simp [h, ProxySocket.forget]
      · simp [Function.update_of_ne hs]
  | removeAllServers b => rfl
  | addServer b svc => rfl

theorem setConfigValues_servers (lib : Lib) (sid : SocketId) (cfg : TargetEndpointConfig) (s : State) (b : BalancerId) :
    (s.setConfigValues lib sid cfg).servers b = s.servers b ++
      if (s.proxySockets sid).map ProxySocket.loadBalancer = some b then lib.setConfigValuesAdds cfg else [] := by
  cases h : s.proxySockets sid with
  | none => rw [setConfigValues_dangling h]; simp
  | some sock =>
    rw [setConfigValues_live h]
    by_cases hb : sock.loadBalancer = b
    · subst hb; simp
    · simp [Function.update_of_ne (Ne.symm hb), hb]

theorem removeAllServers_servers (b' : BalancerId) (s : State) (b : BalancerId) :
    (s.removeAllServers b').servers b = if b = b' then [] else s.servers b := by
  simp [State.removeAllServers, Function.update_apply]

theorem addServer_servers (b' : BalancerId) (svc : ResolvedService) (s : State) (b : BalancerId) :
    (s.addServer b' svc).servers b = s.servers b ++ if b = b' then [svc] else [] := by
  by_cases h : b = b'
  · subst h; simp [State.addServer]
  · simp [State.addServer, h]

/-- the calls for an endpoint depend on the wiring only -/
theorem updateCalls_wiring {s t : State} (h : t.wiring = s.wiring) (sid : SocketId) (cfg : ResolvedProxyConfig) :
    updateCalls sid cfg t = updateCalls sid cfg s := by
  have hb := balancer_of_wiring h sid
  unfold updateCalls
  cases ht : t.proxySockets sid with
  | none =>
    rw [ht] at hb
    cases hs : s.proxySockets sid with
    | none => rfl
    | some sock => rw [hs] at hb; cases hb
  | some sock =>
    rw [ht] at hb
    cases hs : s.proxySockets sid with
    | none => rw [hs] at hb; cases hb
    | some sock' =>
      rw [hs] at hb
      have hb : sock.loadBalancer = sock'.loadBalancer := Option.some.inj hb
      simp only [hb]

/-- the next call for an endpoint, and those after it -/
inductive NextCall (s : State) (sid : SocketId) (cfg : ResolvedProxyConfig) : Call → List Call → Prop
  | dangling (h : s.proxySockets sid = none) : NextCall s sid cfg (.setConfigValues sid (targetConfig cfg)) []
  | set {sock : ProxySocket} (h : s.proxySockets sid = some sock) :
      NextCall s sid cfg (.setConfigValues sid (targetConfig cfg))
        (.removeAllServers sock.loadBalancer :: cfg.services.map (.addServer sock.loadBalancer))
  | remove {sock : ProxySocket} (h : s.proxySockets sid = some sock) :
      NextCall s sid cfg (.removeAllServers sock.loadBalancer) (cfg.services.map (.addServer sock.loadBalancer))
  | add {sock : ProxySocket} (h : s.proxySockets sid = some sock) {made left : List ResolvedService}
      {svc : ResolvedService} (hs : cfg.services = made ++ svc :: left) :
      NextCall s sid cfg (.addServer sock.loadBalancer svc) (left.map (.addServer sock.loadBalancer))

/-- **What is left of the calls for an endpoint.** -/
theorem next_call {s : State} {sid : SocketId} {cfg : ResolvedProxyConfig} {call : Call} {calls : List Call}
    (h : call :: calls <:+ updateCalls sid cfg s) : NextCall s sid cfg call calls := by
  unfold updateCalls at h
  cases hs : s.proxySockets sid with
  | none =>
    simp only [hs] at h
    rcases List.suffix_cons_iff.1 h with heq | h
    · obtain ⟨rfl, rfl⟩ := List.cons.inj heq
      exact .dangling hs
    · cases List.suffix_nil.1 h
  | some sock =>
    simp only [hs] at h
    rcases List.suffix_cons_iff.1 h with heq | h
    · obtain ⟨rfl, rfl⟩ := List.cons.inj heq
      exact .set hs
    · rcases List.suffix_cons_iff.1 h with heq | ⟨pre, h⟩
      · obtain ⟨rfl, rfl⟩ := List.cons.inj heq
        exact .remove hs
      · obtain ⟨made, rest, hservices, -, hrest⟩ := List.map_eq_append_iff.1 h.symm
        obtain ⟨svc, left, rfl, rfl, rfl⟩ := List.map_eq_cons_iff.1 hrest
        exact .add hs hservices

/-! ## All steps -/

/-- the steps of a request at a state -/
inductive StepOf (lib : Lib) (w : World) (r : Request) (s : State) : Thread → Thread → State → Prop
  | load {content : String} {code : Xml.XMLError} (request : r = .updateConfiguration content)
      (ends : (s.loadFromString lib w content).1 = .ret code) :
      StepOf lib w r s .waiting .stored (s.loadFromString lib w content).2
  | loadFails {content : String} {e : Exn} (request : r = .updateConfiguration content)
      (ends : (s.loadFromString lib w content).1 = .throws e) :
      StepOf lib w r s .waiting (.finished (caught e)) (s.loadFromString lib w content).2
  | unparsed {content : String} {e : Exn} (request : r = .updateEndPointService content)
      (parsed : loadEndpointServiceFromString lib.xml w.uninit content = .error e) :
      StepOf lib w r s .waiting (.finished (caught e)) s
  | refuse {message : String} : StepOf lib w r s .waiting (.finished (.ret (errorReply message))) s
  | edit {content : String} {req : EndPointServiceConfig} {clusters : List Cluster}
      (request : r = .updateEndPointService content)
      (parsed : loadEndpointServiceFromString lib.xml w.uninit content = .ok req)
      (found : editClusters req s.configs.m_ProxyConfig.clusters = some clusters) :
      StepOf lib w r s .waiting (.edited ⟨clusters⟩) s
  | store {copy : ProxyConfig} : StepOf lib w r s (.edited copy) .stored (s.setProxyConfig copy)
  | unresolved {e : Exn} {f : Pipelines.PipelineFactory}
      (resolves : resolveProxyServerConfigurations lib w s.configs.m_ProxyConfig s.pipelineFactory = (.error e, f)) :
      StepOf lib w r s .stored (.finished (caught e)) { s with pipelineFactory := f }
  | resolve {configs : List ResolvedProxyConfig} {f : Pipelines.PipelineFactory}
      (resolves : resolveProxyServerConfigurations lib w s.configs.m_ProxyConfig s.pipelineFactory = (.ok configs, f)) :
      StepOf lib w r s .stored (.applying configs []) { s with pipelineFactory := f }
  | call {configs : List ResolvedProxyConfig} {call : Call} {calls : List Call} :
      StepOf lib w r s (.applying configs (call :: calls)) (.applying configs calls) (call.run lib s)
  | skip {cfg : ResolvedProxyConfig} {configs : List ResolvedProxyConfig} (absent : s.proxySocketsMap cfg.name = none) :
      StepOf lib w r s (.applying (cfg :: configs) []) (.applying configs []) s
  | lookUp {cfg : ResolvedProxyConfig} {configs : List ResolvedProxyConfig} {sid : SocketId}
      (registered : s.proxySocketsMap cfg.name = some sid) :
      StepOf lib w r s (.applying (cfg :: configs) []) (.applying configs (updateCalls sid cfg s)) s
  | finish : StepOf lib w r s (.applying [] []) (.finished (.ret updatedReply)) s

theorem beginRequest_cases {lib : Lib} {w : World} {r : Request} {s t : State} {c : Thread}
    (h : beginRequest lib w s r = some (c, t)) : StepOf lib w r s .waiting c t := by
  cases r with
  | updateConfiguration content =>
    simp only [beginRequest] at h
    rcases hl : s.loadFromString lib w content with ⟨e, u⟩
    have hload : u = (s.loadFromString lib w content).2 := (congrArg Prod.snd hl).symm
    rw [hl] at h
    cases e with
    | ret code =>
      obtain ⟨rfl, rfl⟩ := Prod.mk.inj (Option.some.inj h)
      rw [hload]
      exact .load rfl (congrArg Prod.fst hl)
    | throws err =>
      obtain ⟨rfl, rfl⟩ := Prod.mk.inj (Option.some.inj h)
      rw [hload]
      exact .loadFails rfl (congrArg Prod.fst hl)
    | hangs => cases h
    | undefined => cases h
  | updateEndPointService content =>
    simp only [beginRequest] at h
    cases hl : loadEndpointServiceFromString lib.xml w.uninit content with
    | error e =>
      rw [hl] at h
      obtain ⟨rfl, rfl⟩ := Prod.mk.inj (Option.some.inj h)
      exact .unparsed rfl hl
    | ok req =>
      simp only [hl] at h
      split_ifs at h
      · obtain ⟨rfl, rfl⟩ := Prod.mk.inj (Option.some.inj h)
        exact .refuse
      · cases he : editClusters req s.configs.m_ProxyConfig.clusters with
        | none =>
          rw [he] at h
          obtain ⟨rfl, rfl⟩ := Prod.mk.inj (Option.some.inj h)
          exact .refuse
        | some clusters =>
          rw [he] at h
          obtain ⟨rfl, rfl⟩ := Prod.mk.inj (Option.some.inj h)
          exact .edit rfl hl he

/-- **All steps of a request.** -/
theorem stepRequest_cases {lib : Lib} {w : World} {r : Request} {c c' : Thread} {s t : State}
    (h : stepRequest lib w r c s = some (c', t)) : StepOf lib w r s c c' t := by
  cases c with
  | waiting => exact beginRequest_cases h
  | edited copy =>
    obtain ⟨rfl, rfl⟩ := Prod.mk.inj (Option.some.inj h)
    exact .store
  | stored =>
    have h : resolveStored lib w s = (c', t) := Option.some.inj h
    unfold resolveStored at h
    rcases hres : resolveProxyServerConfigurations lib w s.configs.m_ProxyConfig s.pipelineFactory with ⟨res, f⟩
    rw [hres] at h
    cases res with
    | error e =>
      obtain ⟨rfl, rfl⟩ := Prod.mk.inj h
      exact .unresolved hres
    | ok configs =>
      obtain ⟨rfl, rfl⟩ := Prod.mk.inj h
      exact .resolve hres
  | applying configs calls =>
    have h : applyNext lib s configs calls = (c', t) := Option.some.inj h
    cases calls with
    | cons call calls =>
      obtain ⟨rfl, rfl⟩ := Prod.mk.inj h
      exact .call
    | nil =>
      cases configs with
      | nil =>
        obtain ⟨rfl, rfl⟩ := Prod.mk.inj h
        exact .finish
      | cons cfg configs =>
        simp only [applyNext] at h
        cases hm : s.proxySocketsMap cfg.name with
        | none =>
          rw [hm] at h
          obtain ⟨rfl, rfl⟩ := Prod.mk.inj h
          exact .skip hm
        | some sid =>
          rw [hm] at h
          obtain ⟨rfl, rfl⟩ := Prod.mk.inj h
          exact .lookUp hm
  | finished ending => cases h

end Asabru.Server
