/-
Concurrent management requests, step by step.

Each request is a thread. Its atomic steps are the calls that hold `m_configMutex` (`getProxyConfig`, `setProxyConfig`), a
whole document load, `ResolveProxyServerConfigurations`, the look-up of a socket and each call on a socket or balancer.
Between two steps of a thread the others may make any number. A load that does not end makes no step. A socket keeps the
balancer it was made with, so a thread reads it once, at the look-up.

Left out: the branch of `updateProxyServers` for a failed `updateProxyConfig`, which needs a null socket.

Results:
- `applyCalls_update`, `finishApplying_lookup`: the single calls of a pass, made one after another, are `updateProxyConfig`
  and `replayConfigs`;
- `finishApplying_withConfigs`, `finishApplying_configs`: they neither read nor change the stored configurations, so a store
  commutes with them.
-/
import Mathlib.Tactic
import Asabru.Core.Interleave
import Asabru.Server.Process

namespace Asabru.Server

open Asabru.Control Asabru.Config Asabru.Interleave

/-! ## Steps -/

/-- the calls on sockets and balancers -/
inductive Call where
  | setConfigValues (socket : SocketId) (cfg : TargetEndpointConfig)
  | removeAllServers (balancer : BalancerId)
  | addServer (balancer : BalancerId) (svc : ResolvedService)
deriving DecidableEq, Repr

def Call.run (lib : Lib) (s : State) : Call → State
  | .setConfigValues socket cfg => s.setConfigValues lib socket cfg
  | .removeAllServers balancer => s.removeAllServers balancer
  | .addServer balancer svc => s.addServer balancer svc

/-- the calls of `updateProxyConfig` on a socket -/
def updateCalls (sid : SocketId) (configValue : ResolvedProxyConfig) (s : State) : List Call :=
  .setConfigValues sid (targetConfig configValue) :: match s.proxySockets sid with
    | none => []
    | some sock => .removeAllServers sock.loadBalancer :: configValue.services.map (.addServer sock.loadBalancer)

/-- where a request is -/
inductive Thread where
  | waiting
  /-- has edited its copy of the configuration -/
  | edited (proxyConfig : ProxyConfig)
  /-- has stored its configuration and is about to resolve -/
  | stored
  /-- the configurations that are left, and the calls that are left for the one before them -/
  | applying (configs : List ResolvedProxyConfig) (calls : List Call)
  | finished (ending : Ending Reply)
deriving DecidableEq, Repr

/-- how a request that is left by an exception ends: its callback catches `std::exception` -/
def caught : Exn → Ending Reply
  | .std what => .ret (errorReply what)
  | .other => .throws .other

/-- the first step: a load, or `getProxyConfig` and the edit of the copy it returns -/
def beginRequest (lib : Lib) (w : World) (s : State) : Request → Option (Thread × State)
  | .updateConfiguration content =>
    match s.loadFromString lib w content with
    | (.ret _, t) => some (.stored, t)
    | (.throws e, t) => some (.finished (caught e), t)
    | _ => none
  | .updateEndPointService content =>
    match loadEndpointServiceFromString lib.xml w.uninit content with
    | .error e => some (.finished (caught e), s)
    | .ok req =>
      if req.operation ≠ "add" ∧ req.operation ≠ "delete" then
        some (.finished (.ret (errorReply ("Invalid operation '" ++ req.operation ++ "'. Expected 'add' or 'delete'."))), s)
      else
        match editClusters req s.configs.m_ProxyConfig.clusters with
        | none => some (.finished (.ret (errorReply ("Endpoint '" ++ req.name ++ "' not found."))), s)
        | some clusters => some (.edited ⟨clusters⟩, s)

/-- `ResolveProxyServerConfigurations` -/
def resolveStored (lib : Lib) (w : World) (s : State) : Thread × State :=
  match resolveProxyServerConfigurations lib w s.configs.m_ProxyConfig s.pipelineFactory with
  | (.error e, f) => (.finished (caught e), { s with pipelineFactory := f })
  | (.ok configs, f) => (.applying configs [], { s with pipelineFactory := f })

/-- the next call, or the look-up that starts the next endpoint -/
def applyNext (lib : Lib) (s : State) : List ResolvedProxyConfig → List Call → Thread × State
  | configs, call :: calls => (.applying configs calls, call.run lib s)
  | [], [] => (.finished (.ret updatedReply), s)
  | cfg :: configs, [] =>
    match s.proxySocketsMap cfg.name with
    | none => (.applying configs [], s)
    | some sid => (.applying configs (updateCalls sid cfg s), s)

/-- one step of a request -/
def stepRequest (lib : Lib) (w : World) (r : Request) (c : Thread) (s : State) : Option (Thread × State) :=
  match c with
  | .waiting => beginRequest lib w s r
  | .edited proxyConfig => some (.stored, s.setProxyConfig proxyConfig)
  | .stored => some (resolveStored lib w s)
  | .applying configs calls => some (applyNext lib s configs calls)
  | .finished _ => none

/-! ## Passes as calls -/

def applyCalls (lib : Lib) (calls : List Call) (s : State) : State := calls.foldl (Call.run lib) s

/-- what is left of a pass -/
def finishApplying (lib : Lib) (configs : List ResolvedProxyConfig) (calls : List Call) (s : State) : State :=
  (replayConfigs lib configs (applyCalls lib calls s)).2

/-- **The calls of one endpoint** are `updateProxyConfig`. -/
theorem applyCalls_update (lib : Lib) (sid : SocketId) (cfg : ResolvedProxyConfig) (s : State) :
    applyCalls lib (updateCalls sid cfg s) s = (updateProxyConfig lib (some sid) cfg s).2 := by
  unfold updateCalls
  cases h : s.proxySockets sid with
  | none =>
    rw [updateProxyConfig_dangling h]
    exact setConfigValues_dangling h
  | some sock =>
    have hs : (s.setConfigValues lib sid (targetConfig cfg)).proxySockets sid =
        some { sock with configValues := some (targetConfig cfg) } := by
      rw [setConfigValues_live h]
      exact Function.update_self ..
    simp only [updateProxyConfig, hs]
    simp only [applyCalls, List.foldl_cons, List.foldl_map, Call.run]
    rfl

/-- looking up the next endpoint leaves what the pass will do -/
theorem finishApplying_lookup (lib : Lib) (cfg : ResolvedProxyConfig) (configs : List ResolvedProxyConfig) (s : State) :
    finishApplying lib (cfg :: configs) [] s = match s.proxySocketsMap cfg.name with
      | none => finishApplying lib configs [] s
      | some sid => finishApplying lib configs (updateCalls sid cfg s) s := by
  unfold finishApplying
  simp only [applyCalls, List.foldl_nil, replayConfigs]
  cases hm : s.proxySocketsMap cfg.name with
  | none => rfl
  | some sid =>
    have hcalls : (updateCalls sid cfg s).foldl (Call.run lib) s = (updateProxyConfig lib (some sid) cfg s).2 :=
      applyCalls_update lib sid cfg s
    simp only [(updateProxyConfig_servers lib sid cfg s).1, lt_irrefl, if_false, hcalls]

/-! ## Passes and the stored configurations -/

/-- a change of the stored configurations only -/
def State.withConfigs (configs : Configs) (s : State) : State := { s with configs := configs }

theorem setConfigValues_withConfigs (lib : Lib) (sid : SocketId) (cfg : TargetEndpointConfig) (c : Configs) (s : State) :
    (s.withConfigs c).setConfigValues lib sid cfg = (s.setConfigValues lib sid cfg).withConfigs c := by
  cases h : s.proxySockets sid with
  | none => rw [setConfigValues_dangling h, setConfigValues_dangling (s := s.withConfigs c) h]
  | some sock => rw [setConfigValues_live h, setConfigValues_live (s := s.withConfigs c) h]; rfl

theorem run_withConfigs (lib : Lib) (call : Call) (c : Configs) (s : State) :
    Call.run lib (s.withConfigs c) call = (Call.run lib s call).withConfigs c := by
  cases call with
  | setConfigValues sid cfg => exact setConfigValues_withConfigs lib sid cfg c s
  | removeAllServers b => rfl
  | addServer b svc => rfl

theorem run_configs (lib : Lib) (call : Call) (s : State) : (Call.run lib s call).configs = s.configs := by
  cases call with
  | setConfigValues sid cfg =>
    show (s.setConfigValues lib sid cfg).configs = s.configs
    cases h : s.proxySockets sid with
    | none => rw [setConfigValues_dangling h]
    | some sock => rw [setConfigValues_live h]
  | removeAllServers b => rfl
  | addServer b svc => rfl

theorem applyCalls_withConfigs (lib : Lib) (calls : List Call) (c : Configs) (s : State) :
    applyCalls lib calls (s.withConfigs c) = (applyCalls lib calls s).withConfigs c := by
  induction calls generalizing s with
  | nil => rfl
  | cons call calls ih =>
    simp only [applyCalls, List.foldl_cons, run_withConfigs] at ih ⊢
    exact ih _

theorem applyCalls_configs (lib : Lib) (calls : List Call) (s : State) : (applyCalls lib calls s).configs = s.configs := by
  induction calls generalizing s with
  | nil => rfl
  | cons call calls ih => exact (ih _).trans (run_configs lib call s)

/-- **A store during a pass** is as good as a store after it. -/
theorem finishApplying_withConfigs (lib : Lib) (configs : List ResolvedProxyConfig) (calls : List Call) (c : Configs)
    (s : State) :
    finishApplying lib configs calls (s.withConfigs c) = (finishApplying lib configs calls s).withConfigs c := by
  induction configs generalizing calls s with
  | nil => exact applyCalls_withConfigs lib calls c s
  | cons cfg configs ih =>
    have hcalls : ∀ u : State, finishApplying lib (cfg :: configs) [] (u.withConfigs c) =
        (finishApplying lib (cfg :: configs) [] u).withConfigs c := by
      intro u
      rw [finishApplying_lookup, finishApplying_lookup]
      show (match u.proxySocketsMap cfg.name with
        | none => finishApplying lib configs [] (u.withConfigs c)
        | some sid => finishApplying lib configs (updateCalls sid cfg u) (u.withConfigs c)) = _
      cases u.proxySocketsMap cfg.name with
      | none => exact ih [] u
      | some sid => exact ih _ u
    have := hcalls (applyCalls lib calls s)
    rwa [← applyCalls_withConfigs] at this

theorem finishApplying_configs (lib : Lib) (configs : List ResolvedProxyConfig) (calls : List Call) (s : State) :
    (finishApplying lib configs calls s).configs = s.configs :=
  (replayConfigs_servers lib configs _).2.configs.trans (applyCalls_configs lib calls s)

end Asabru.Server
