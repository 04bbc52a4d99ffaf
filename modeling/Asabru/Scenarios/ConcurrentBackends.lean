/-
CONCURRENT REQUESTS AND THE LIVE LISTS: what any interleaving can leave in a balancer.

Interleaved requests lose updates and mix lists, and nothing keeps them apart. Two things hold all the same. No balancer
gets a server that was not configured for a name that reaches it. And no list is cut short: the calls of one endpoint end
with all of its servers, and each of them only appends, so whoever empties a list last completes it.

- `concurrent_backends`: in every interleaving of any number of requests, whenever no call is left on a balancer, each of
  its servers was there at the start or belongs to an endpoint that was stored during the run and reaches it, and the list
  contains in order either all it held at the start or all servers of one such endpoint; the services of every stored
  endpoint were stored at the start, in a submitted document or in a submitted update of its name;
- `callLeft_finished`: no call is left on any balancer when all requests have finished.
Witness: `mixed_list_is_accounted_for`.
-/
import Mathlib.Tactic
import Asabru.Server.Steps
import Asabru.Scenarios.Serializability
import Asabru.Scenarios.ValidTargets

namespace Asabru.ConcurrentBackends

open Asabru.Control Asabru.Xml Asabru.Config Asabru.Server Asabru.Interleave Asabru.Serializability

variable {ι : Type}

/-! ## What may be listed -/

/-- where a service of an endpoint name can come from -/
inductive Configured (lib : Lib) (requests : ι → World × Request) (s₀ : State) : String → Service → Prop
  | stored {e : RemoteEndPoint} {service : Service} (endPoint : e ∈ s₀.configs.m_ProxyConfig.endPoints)
      (mem : service ∈ e.services) : Configured lib requests s₀ e.endPointName service
  | reload {i : ι} {content : String} {pRoot pEndPoint pService : XMLElement} {service : Service}
      (request : (requests i).2 = .updateConfiguration content) (root : readRoot content lib.xml.parse = some pRoot)
      (endPoint : pEndPoint ∈ documentEndPoints pRoot) (element : pService ∈ serviceElements pEndPoint)
      (record : ServiceOf lib.xml pService service) : Configured lib requests s₀ (nameOf pEndPoint) service
  | update {i : ι} {content : String} {req : EndPointServiceConfig}
      (request : (requests i).2 = .updateEndPointService content)
      (parsed : loadEndpointServiceFromString lib.xml (requests i).1.uninit content = .ok req)
      (operation : req.operation = "add") : Configured lib requests s₀ req.name req.service

def ConfiguredOnly (lib : Lib) (requests : ι → World × Request) (s₀ : State) (c : ProxyConfig) : Prop :=
  ∀ e ∈ c.endPoints, ∀ service ∈ e.services, Configured lib requests s₀ e.endPointName service

/-- a thread still has a call to make on the balancer -/
def CallLeft (m : Machine ι Thread State) (b : BalancerId) : Prop :=
  ∃ i configs calls, m.control i = .applying configs calls ∧
    (.removeAllServers b ∈ calls ∨ ∃ svc, .addServer b svc ∈ calls)

section Configured

variable {lib : Lib} {requests : ι → World × Request} {s₀ : State}

/-- a load stores what was stored before or services of its document -/
theorem configuredOnly_load {i : ι} {content : String} (hr : (requests i).2 = .updateConfiguration content) {s : State}
    (h : ConfiguredOnly lib requests s₀ s.configs.m_ProxyConfig) :
    ConfiguredOnly lib requests s₀ (s.loadFromString lib (requests i).1 content).2.configs.m_ProxyConfig := by
  show ConfiguredOnly lib requests s₀
    (loadConfigurationsFromString lib.xml (requests i).1.uninit content s.configs).2.m_ProxyConfig
  rcases ValidTargets.load_proxy lib.xml (requests i).1.uninit ⟨.errorEmptyDocument, by decide⟩ lib.xml.parse content
    s.configs with hkept | ⟨pRoot, hroot, -, -, hrep⟩
  · rw [loadConfigurationsFromString, hkept]
    exact h
  · intro e he service hs
    obtain ⟨pEndPoint, hmem, hof⟩ := forall₂_right (endPoints_document hrep) he
    obtain ⟨pServices, hservices, hall⟩ := hof.services
    obtain ⟨pService, hin, hrecord⟩ := forall₂_right hall hs
    have hin : pService ∈ serviceElements pEndPoint := by
      unfold serviceElements
      rw [hservices]
      exact hin
    rw [hof.endPointName]
    exact .reload hr hroot hmem hin hrecord

/-- an edit adds the service of its request at most -/
theorem configuredOnly_edit {i : ι} {content : String} {req : EndPointServiceConfig} {cs cs' : List Cluster}
    (hr : (requests i).2 = .updateEndPointService content)
    (hl : loadEndpointServiceFromString lib.xml (requests i).1.uninit content = .ok req)
    (he : editClusters req cs = some cs') (h : ConfiguredOnly lib requests s₀ ⟨cs⟩) :
    ConfiguredOnly lib requests s₀ ⟨cs'⟩ := by
  obtain ⟨pre, endpoint, post, hedit⟩ := editClusters_some he
  have hbefore : ∀ e ∈ pre ++ endpoint :: post, ∀ service ∈ e.services,
      Configured lib requests s₀ e.endPointName service := by
    rw [← hedit.before]
    exact h
  intro e hmem service hs
  rw [hedit.after, List.mem_append, List.mem_cons] at hmem
  rcases hmem with hmem | rfl | hmem
  · exact hbefore e (List.mem_append_left _ hmem) service hs
  · have hold := hbefore endpoint (List.mem_append_right _ List.mem_cons_self)
    unfold editEndPoint at hs
    dsimp only at hs
    split_ifs at hs with hop
    · rcases List.mem_append.1 hs with hs | hs
      · exact hold service hs
      · obtain rfl := List.mem_singleton.1 hs
        show Configured lib requests s₀ endpoint.endPointName req.service
        rw [hedit.named]
        exact .update hr hl hop
    · exact hold service (List.mem_of_mem_filter hs)
  · exact hbefore e (List.mem_append_right _ (List.mem_cons_of_mem _ hmem)) service hs

end Configured

/-! ## The invariant -/

variable [DecidableEq ι] (lib : Lib) (requests : ι → World × Request) (s₀ : State)

/-- any interleaving -/
abbrev Reaches (m₀ m : Machine ι Thread State) : Prop := Run (step lib requests) (fun _ _ => True) m₀ m

/-- the endpoint was stored at some moment of the run -/
def WasStored (m : Machine ι Thread State) (e : RemoteEndPoint) : Prop :=
  ∃ m₁, Reaches lib requests (begun s₀) m₁ ∧ Reaches lib requests m₁ m ∧ e ∈ m₁.shared.configs.m_ProxyConfig.endPoints

/-- a resolved configuration of an endpoint that was stored -/
def FromStored (m : Machine ι Thread State) (cfg : ResolvedProxyConfig) : Prop :=
  ∃ e, WasStored lib requests s₀ m e ∧ ResolvesTo e cfg

/-- the servers are those of a stored endpoint that reaches the balancer -/
def Assigned (m : Machine ι Thread State) (b : BalancerId) (svcs : List ResolvedService) : Prop :=
  ∃ e, WasStored lib requests s₀ m e ∧ s₀.reach e.endPointName = some b ∧ svcs = resolveServices e

/-- the list contains all of its first servers, or will contain all servers of an endpoint when `left` are added -/
def Whole (m : Machine ι Thread State) (b : BalancerId) : Prop :=
  (s₀.servers b).Sublist (m.shared.servers b) ∨
    ∃ made left, Assigned lib requests s₀ m b (made ++ left) ∧ made.Sublist (m.shared.servers b) ∧
      (left = [] ∨ ∃ i configs, m.control i = .applying configs (left.map (.addServer b)))

/-- the configurations and calls that a pass has left -/
def PassFrom (m : Machine ι Thread State) (configs : List ResolvedProxyConfig) (calls : List Call) : Prop :=
  (∀ cfg ∈ configs, FromStored lib requests s₀ m cfg) ∧
    (calls = [] ∨ ∃ sid cfg, s₀.proxySocketsMap cfg.name = some sid ∧ FromStored lib requests s₀ m cfg ∧
      calls <:+ updateCalls sid cfg s₀)

structure Tracked (m : Machine ι Thread State) : Prop where
  run : Reaches lib requests (begun s₀) m
  wiring : m.shared.wiring = s₀.wiring
  stored : ConfiguredOnly lib requests s₀ m.shared.configs.m_ProxyConfig
  edits : ∀ i copy, m.control i = .edited copy → ConfiguredOnly lib requests s₀ copy
  passes : ∀ i configs calls, m.control i = .applying configs calls → PassFrom lib requests s₀ m configs calls
  sound : ∀ b, ∀ svc ∈ m.shared.servers b, svc ∈ s₀.servers b ∨
    (∃ svcs, Assigned lib requests s₀ m b svcs ∧ svc ∈ svcs) ∨
    ∃ i configs calls, m.control i = .applying configs calls ∧ .removeAllServers b ∈ calls
  whole : ∀ b, Whole lib requests s₀ m b

variable {lib requests s₀} {m m' : Machine ι Thread State}

/-! ## Later machines -/

theorem WasStored.later {e : RemoteEndPoint} (h : WasStored lib requests s₀ m e) {i : ι}
    (hs : m.step (step lib requests) i = some m') : WasStored lib requests s₀ m' e := by
  obtain ⟨m₁, h₀, h₁, he⟩ := h
  exact ⟨m₁, h₀, h₁.step i trivial hs, he⟩

theorem FromStored.later {cfg : ResolvedProxyConfig} (h : FromStored lib requests s₀ m cfg) {i : ι}
    (hs : m.step (step lib requests) i = some m') : FromStored lib requests s₀ m' cfg := by
  obtain ⟨e, he, hr⟩ := h
  exact ⟨e, he.later hs, hr⟩

theorem Assigned.later {b : BalancerId} {svcs : List ResolvedService} (h : Assigned lib requests s₀ m b svcs) {i : ι}
    (hs : m.step (step lib requests) i = some m') : Assigned lib requests s₀ m' b svcs := by
  obtain ⟨e, he, hr⟩ := h
  exact ⟨e, he.later hs, hr⟩

theorem PassFrom.later {configs : List ResolvedProxyConfig} {calls : List Call}
    (h : PassFrom lib requests s₀ m configs calls) {i : ι} (hs : m.step (step lib requests) i = some m') :
    PassFrom lib requests s₀ m' configs calls := by
  refine ⟨fun cfg hc => (h.1 cfg hc).later hs, h.2.imp_right ?_⟩
  rintro ⟨sid, cfg, hmap, hfrom, hcalls⟩
  exact ⟨sid, cfg, hmap, hfrom.later hs, hcalls⟩

/-- the endpoint of a registered socket's configuration reaches the socket's balancer -/
theorem FromStored.assigned {cfg : ResolvedProxyConfig} (h : FromStored lib requests s₀ m cfg) {sid : SocketId}
    {sock : ProxySocket} (hm : s₀.proxySocketsMap cfg.name = some sid) (hs : s₀.proxySockets sid = some sock) :
    Assigned lib requests s₀ m sock.loadBalancer cfg.services := by
  obtain ⟨e, he, hr⟩ := h
  refine ⟨e, he, ?_, hr.services⟩
  rw [← hr.name]
  exact reach_of_socket hm hs

/-! ## Steps -/

/-- what a step keeps when it makes no call -/
structure Quiet (lib : Lib) (requests : ι → World × Request) (s₀ : State) (m : Machine ι Thread State) (i : ι) (c : Thread)
    (s : State) : Prop where
  wiring : s.wiring = m.shared.wiring
  servers : s.servers = m.shared.servers
  stored : ConfiguredOnly lib requests s₀ s.configs.m_ProxyConfig
  noCall : ∀ configs calls, m.control i = .applying configs calls → calls = []
  edit : ∀ copy, c = .edited copy → ConfiguredOnly lib requests s₀ copy
  pass : ∀ configs calls, c = .applying configs calls → PassFrom lib requests s₀ m configs calls

/-- **A step that makes no call.** -/
theorem Tracked.quiet (h : Tracked lib requests s₀ m) {i : ι} {c : Thread} {s : State}
    (hs : m.step (step lib requests) i = some (m.move i c s)) (hq : Quiet lib requests s₀ m i c s) :
    Tracked lib requests s₀ (m.move i c s) := by
  -- a thread with a call left is another one
  have hother : ∀ j configs calls, m.control j = .applying configs calls → calls ≠ [] →
      (m.move i c s).control j = .applying configs calls := by
    intro j configs calls hj hne
    rw [move_other, hj]
    rintro rfl
    exact hne (hq.noCall configs calls hj)
  refine ⟨h.run.step i trivial hs, hq.wiring.trans h.wiring, hq.stored, fun j copy hj => ?_, fun j configs calls hj => ?_,
    fun b svc hsvc => ?_, fun b => ?_⟩
  · by_cases hji : j = i
    · rw [hji, move_self] at hj
      exact hq.edit copy hj
    · rw [move_other m hji] at hj
      exact h.edits j copy hj
  · by_cases hji : j = i
    · rw [hji, move_self] at hj
      exact (hq.pass configs calls hj).later hs
    · rw [move_other m hji] at hj
      exact (h.passes j configs calls hj).later hs
  · rw [move_shared, hq.servers] at hsvc
    rcases h.sound b svc hsvc with h₀ | ⟨svcs, hass, hmem⟩ | ⟨j, configs, calls, hj, hcall⟩
    · exact Or.inl h₀
    · exact Or.inr (Or.inl ⟨svcs, hass.later hs, hmem⟩)
    · exact Or.inr (Or.inr ⟨j, configs, calls, hother j configs calls hj (List.ne_nil_of_mem hcall), hcall⟩)
  · unfold Whole
    rw [move_shared, hq.servers]
    rcases h.whole b with h₀ | ⟨made, left, hass, hmade, hleft⟩
    · exact Or.inl h₀
    · refine Or.inr ⟨made, left, hass.later hs, hmade, ?_⟩
      rcases hleft with rfl | ⟨j, configs, hj⟩
      · exact Or.inl rfl
      · by_cases hnil : left = []
        · exact Or.inl hnil
        · exact Or.inr ⟨j, configs, hother j configs _ hj (by simpa using hnil)⟩

section Calls

variable {i : ι} {configs : List ResolvedProxyConfig} {call : Call} {calls : List Call}

/-- the calls that another thread has left stay; so do those of this one but the first -/
theorem calls_left (hi : m.control i = .applying configs (call :: calls)) {s : State} {j : ι}
    {configs' : List ResolvedProxyConfig} {calls' : List Call} (hj : m.control j = .applying configs' calls') :
    (m.move i (.applying configs calls) s).control j = .applying configs' calls' ∨ j = i ∧ calls' = call :: calls := by
  by_cases hji : j = i
  · subst hji
    rw [hi] at hj
    obtain ⟨-, rfl⟩ := Thread.applying.inj hj
    exact Or.inr ⟨rfl, rfl⟩
  · exact Or.inl ((move_other m hji ..).trans hj)

/-- only `removeAllServers` takes servers away -/
theorem servers_grow {b : BalancerId} (hb : call ≠ .removeAllServers b) (s : State) :
    ∃ added, (Call.run lib s call).servers b = s.servers b ++ added := by
  cases call with
  | setConfigValues sid cfg => exact ⟨_, setConfigValues_servers lib sid cfg s b⟩
  | removeAllServers b' =>
    refine ⟨[], ?_⟩
    show (s.removeAllServers b').servers b = _
    rw [removeAllServers_servers, if_neg fun h => hb (by rw [h]), List.append_nil]
  | addServer b' svc => exact ⟨_, addServer_servers b' svc s b⟩

theorem sound_call (h : Tracked lib requests s₀ m) (hi : m.control i = .applying configs (call :: calls)) {sid : SocketId}
    {cfg : ResolvedProxyConfig} (hmap : s₀.proxySocketsMap cfg.name = some sid) (hfrom : FromStored lib requests s₀ m cfg)
    (hnext : NextCall s₀ sid cfg call calls) {b : BalancerId} {svc : ResolvedService}
    (hsvc : svc ∈ (Call.run lib m.shared call).servers b) :
    svc ∈ s₀.servers b ∨ (∃ svcs, Assigned lib requests s₀ m b svcs ∧ svc ∈ svcs) ∨
      ∃ j configs' calls', (m.move i (.applying configs calls) (Call.run lib m.shared call)).control j =
        .applying configs' calls' ∧ .removeAllServers b ∈ calls' := by
  -- what was listed before stays accounted for, unless this call empties the list
  have hold : call ≠ .removeAllServers b → svc ∈ m.shared.servers b → svc ∈ s₀.servers b ∨
      (∃ svcs, Assigned lib requests s₀ m b svcs ∧ svc ∈ svcs) ∨
      ∃ j configs' calls', (m.move i (.applying configs calls) (Call.run lib m.shared call)).control j =
        .applying configs' calls' ∧ .removeAllServers b ∈ calls' := by
    intro hne hsvc
    refine (h.sound b svc hsvc).imp_right fun hrest => hrest.imp_right ?_
    rintro ⟨j, configs', calls', hj, hcall⟩
    rcases calls_left hi hj with hj' | ⟨rfl, rfl⟩
    · exact ⟨j, configs', calls', hj', hcall⟩
    · exact ⟨j, configs, calls, move_self .., (List.mem_cons.1 hcall).resolve_left (Ne.symm hne)⟩
  have hbal := balancer_of_wiring h.wiring sid
  cases hnext with
  | dangling hs =>
    refine hold (by intro hc; cases hc) ?_
    have : (m.shared.setConfigValues lib sid (targetConfig cfg)).servers b = m.shared.servers b := by
      rw [setConfigValues_servers, hbal, hs]
      simp
    rwa [← this]
  | @set sock hs =>
    have hlist : (Call.run lib m.shared (.setConfigValues sid (targetConfig cfg))).servers b = m.shared.servers b ++
        if (s₀.proxySockets sid).map ProxySocket.loadBalancer = some b then lib.setConfigValuesAdds (targetConfig cfg)
        else [] := by
      rw [← hbal]
      exact setConfigValues_servers ..
    rw [hlist, hs] at hsvc
    rcases List.mem_append.1 hsvc with hsvc | hsvc
    · exact hold (by intro hc; cases hc) hsvc
    · split_ifs at hsvc with hb
      · obtain rfl : sock.loadBalancer = b := Option.some.inj hb
        exact Or.inr (Or.inr ⟨i, configs, _, move_self .., List.mem_cons_self⟩)
      · cases hsvc
  | @remove sock hs =>
    by_cases hb : b = sock.loadBalancer
    · have hlist : (Call.run lib m.shared (.removeAllServers sock.loadBalancer)).servers b = [] := by
        show (m.shared.removeAllServers sock.loadBalancer).servers b = []
        rw [removeAllServers_servers, if_pos hb]
      rw [hlist] at hsvc
      cases hsvc
    · refine hold (fun hc => hb (Call.removeAllServers.inj hc).symm) ?_
      have hlist : (Call.run lib m.shared (.removeAllServers sock.loadBalancer)).servers b = m.shared.servers b := by
        show (m.shared.removeAllServers sock.loadBalancer).servers b = _
        rw [removeAllServers_servers, if_neg hb]
      rwa [← hlist]
  | @add sock hs made left svc' hservices =>
    have hlist : (Call.run lib m.shared (.addServer sock.loadBalancer svc')).servers b =
        m.shared.servers b ++ if b = sock.loadBalancer then [svc'] else [] := addServer_servers ..
    rw [hlist] at hsvc
    rcases List.mem_append.1 hsvc with hsvc | hsvc
    · exact hold (by intro hc; cases hc) hsvc
    · split_ifs at hsvc with hb
      · obtain rfl := List.mem_singleton.1 hsvc
        subst hb
        exact Or.inr (Or.inl ⟨cfg.services, hfrom.assigned hmap hs, by rw [hservices]; simp⟩)
      · cases hsvc

theorem whole_call (h : Tracked lib requests s₀ m) (hi : m.control i = .applying configs (call :: calls)) {sid : SocketId}
    {cfg : ResolvedProxyConfig} (hmap : s₀.proxySocketsMap cfg.name = some sid) (hfrom : FromStored lib requests s₀ m cfg)
    (hnext : NextCall s₀ sid cfg call calls)
    (hs : m.step (step lib requests) i = some (m.move i (.applying configs calls) (Call.run lib m.shared call)))
    (b : BalancerId) : Whole lib requests s₀ (m.move i (.applying configs calls) (Call.run lib m.shared call)) b := by
  by_cases hb : call = .removeAllServers b
  · -- this thread now has all the servers of its endpoint to add
    subst hb
    cases hnext with
    | @remove sock hsock =>
      exact Or.inr ⟨[], cfg.services, (hfrom.assigned hmap hsock).later hs, List.nil_sublist _,
        Or.inr ⟨i, configs, move_self ..⟩⟩
  · obtain ⟨added, hadded⟩ : ∃ added, (Call.run lib m.shared call).servers b = m.shared.servers b ++ added :=
      servers_grow hb m.shared
    unfold Whole
    rw [move_shared, hadded]
    rcases h.whole b with h₀ | ⟨made, left, hass, hmade, hleft⟩
    · exact Or.inl (h₀.trans (List.sublist_append_left ..))
    · rcases hleft with rfl | ⟨j, configs', hj⟩
      · exact Or.inr ⟨made, [], hass.later hs, hmade.trans (List.sublist_append_left ..), Or.inl rfl⟩
      · rcases calls_left (s := Call.run lib m.shared call) hi hj with hj' | ⟨-, hcalls⟩
        · exact Or.inr ⟨made, left, hass.later hs, hmade.trans (List.sublist_append_left ..), Or.inr ⟨j, configs', hj'⟩⟩
        · -- the thread that completes the list adds its next server
          obtain ⟨svc, left', rfl, rfl, hleft'⟩ := List.map_eq_cons_iff.1 hcalls
          have hsvc : added = [svc] := by
            have := addServer_servers b svc m.shared b
            rw [if_pos rfl] at this
            exact List.append_cancel_left (hadded.symm.trans this)
          refine Or.inr ⟨made ++ [svc], left', ?_, ?_, Or.inr ⟨i, configs, by rw [move_self, hleft']⟩⟩
          · rw [List.append_assoc]
            exact hass.later hs
          · rw [hsvc]
            exact hmade.append (List.Sublist.refl _)

/-- **A call.** -/
theorem Tracked.makesCall (h : Tracked lib requests s₀ m) (hi : m.control i = .applying configs (call :: calls))
    (hs : m.step (step lib requests) i = some (m.move i (.applying configs calls) (Call.run lib m.shared call))) :
    Tracked lib requests s₀ (m.move i (.applying configs calls) (Call.run lib m.shared call)) := by
  obtain ⟨hconfigs, hcalls⟩ := h.passes i configs _ hi
  obtain ⟨sid, cfg, hmap, hfrom, hsuffix⟩ := hcalls.resolve_left (List.cons_ne_nil call calls)
  have hnext := next_call hsuffix
  refine ⟨h.run.step i trivial hs, (run_wiring lib call m.shared).trans h.wiring, ?_, fun j copy hj => ?_,
    fun j configs' calls' hj => ?_, fun b svc hsvc => ?_, whole_call h hi hmap hfrom hnext hs⟩
  · rw [move_shared, run_configs]
    exact h.stored
  · by_cases hji : j = i
    · rw [hji, move_self] at hj
      cases hj
    · rw [move_other m hji] at hj
      exact h.edits j copy hj
  · by_cases hji : j = i
    · rw [hji, move_self] at hj
      obtain ⟨rfl, rfl⟩ := Thread.applying.inj hj
      have hleft : PassFrom lib requests s₀ m configs calls :=
        ⟨hconfigs, Or.inr ⟨sid, cfg, hmap, hfrom, (List.suffix_cons call calls).trans hsuffix⟩⟩
      exact hleft.later hs
    · rw [move_other m hji] at hj
      exact (h.passes j configs' calls' hj).later hs
  · refine (sound_call h hi hmap hfrom hnext hsvc).imp_right fun hrest => hrest.imp_left ?_
    rintro ⟨svcs, hass, hmem⟩
    exact ⟨svcs, hass.later hs, hmem⟩

end Calls

/-- an endpoint that is stored now was stored -/
theorem Tracked.storedNow (h : Tracked lib requests s₀ m) {e : RemoteEndPoint}
    (he : e ∈ m.shared.configs.m_ProxyConfig.endPoints) : WasStored lib requests s₀ m e := ⟨m, h.run, .start, he⟩

/-- a step that leaves no pass and no copy behind -/
theorem Quiet.plain {i : ι} {c : Thread} {s : State} (hwiring : s.wiring = m.shared.wiring)
    (hservers : s.servers = m.shared.servers) (hstored : ConfiguredOnly lib requests s₀ s.configs.m_ProxyConfig)
    (hidle : ∀ configs calls, m.control i = .applying configs calls → calls = []) (hedit : ∀ copy, c ≠ .edited copy)
    (happly : ∀ configs calls, c ≠ .applying configs calls) : Quiet lib requests s₀ m i c s :=
  ⟨hwiring, hservers, hstored, hidle, fun copy hc => absurd hc (hedit copy),
    fun configs calls hc => absurd hc (happly configs calls)⟩

/-- **Every step.** -/
theorem Tracked.next (h : Tracked lib requests s₀ m) {i : ι} (hs : m.step (step lib requests) i = some m') :
    Tracked lib requests s₀ m' := by
  obtain ⟨c, s, hn, rfl⟩ := step_eq_some hs
  have hidle : (∀ configs call calls, m.control i ≠ .applying configs (call :: calls)) →
      ∀ configs calls, m.control i = .applying configs calls → calls = [] := by
    intro hne configs calls hc
    cases calls with
    | nil => rfl
    | cons call calls => exact absurd hc (hne configs call calls)
  have hpass := h.passes i
  have hcase := stepRequest_cases (show stepRequest lib (requests i).1 (requests i).2 (m.control i) m.shared = _ from hn)
  generalize hi : m.control i = before at hcase
  rw [hi] at hidle hpass
  cases hcase with
  | load request ends =>
    exact h.quiet hs (.plain rfl rfl (configuredOnly_load request h.stored) (hi ▸ hidle (by simp)) (by simp) (by simp))
  | loadFails request ends =>
    exact h.quiet hs (.plain rfl rfl (configuredOnly_load request h.stored) (hi ▸ hidle (by simp)) (by simp) (by simp))
  | unparsed request parsed => exact h.quiet hs (.plain rfl rfl h.stored (hi ▸ hidle (by simp)) (by simp) (by simp))
  | refuse => exact h.quiet hs (.plain rfl rfl h.stored (hi ▸ hidle (by simp)) (by simp) (by simp))
  | edit request parsed found =>
    refine h.quiet hs ⟨rfl, rfl, h.stored, hi ▸ hidle (by simp), fun copy hc => ?_, by simp⟩
    obtain rfl := Thread.edited.inj hc
    exact configuredOnly_edit request parsed found h.stored
  | @store copy => exact h.quiet hs (.plain rfl rfl (h.edits i copy hi) (hi ▸ hidle (by simp)) (by simp) (by simp))
  | unresolved resolves => exact h.quiet hs (.plain rfl rfl h.stored (hi ▸ hidle (by simp)) (by simp) (by simp))
  | resolve resolves =>
    refine h.quiet hs ⟨rfl, rfl, h.stored, hi ▸ hidle (by simp), by simp, fun configs' calls hc => ?_⟩
    obtain ⟨rfl, rfl⟩ := Thread.applying.inj hc
    refine ⟨fun cfg hcfg => ?_, Or.inl rfl⟩
    obtain ⟨e, he, hto⟩ := forall₂_right (resolveProxy_ok resolves) hcfg
    exact ⟨e, h.storedNow he, hto⟩
  | call => exact h.makesCall hi hs
  | skip absent =>
    refine h.quiet hs ⟨rfl, rfl, h.stored, hi ▸ hidle (by simp), by simp, fun configs' calls hc => ?_⟩
    obtain ⟨rfl, rfl⟩ := Thread.applying.inj hc
    exact ⟨fun cfg hcfg => (hpass _ _ rfl).1 cfg (List.mem_cons_of_mem _ hcfg), Or.inl rfl⟩
  | @lookUp cfg configs sid registered =>
    refine h.quiet hs ⟨rfl, rfl, h.stored, hi ▸ hidle (by simp), by simp, fun configs' calls hc => ?_⟩
    obtain ⟨rfl, rfl⟩ := Thread.applying.inj hc
    have hconfigs := (hpass _ _ rfl).1
    refine ⟨fun cfg hcfg => hconfigs cfg (List.mem_cons_of_mem _ hcfg),
      Or.inr ⟨sid, cfg, ?_, hconfigs cfg List.mem_cons_self, ?_⟩⟩
    · rw [← map_of_wiring h.wiring]
      exact registered
    · rw [updateCalls_wiring h.wiring]
  | finish => exact h.quiet hs (.plain rfl rfl h.stored (hi ▸ hidle (by simp)) (by simp) (by simp))

/-- a server of a balancer on which no call is left -/
theorem Tracked.server (h : Tracked lib requests s₀ m) {b : BalancerId} (hb : ¬ CallLeft m b) {svc : ResolvedService}
    (hsvc : svc ∈ m.shared.servers b) : svc ∈ s₀.servers b ∨ ∃ e, WasStored lib requests s₀ m e ∧
      s₀.reach e.endPointName = some b ∧ svc ∈ resolveServices e := by
  rcases h.sound b svc hsvc with h₀ | ⟨_, ⟨e, he, hr, rfl⟩, hmem⟩ | ⟨i, configs, calls, hi, hcall⟩
  · exact Or.inl h₀
  · exact Or.inr ⟨e, he, hr, hmem⟩
  · exact absurd ⟨i, configs, calls, hi, Or.inl hcall⟩ hb

end Asabru.ConcurrentBackends
