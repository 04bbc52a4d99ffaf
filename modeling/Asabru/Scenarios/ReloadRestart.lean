/-
HOT RELOAD AND RESTART: how far `updateConfiguration` does what a fresh start on the same document would.

A start makes one socket for each endpoint and registers the routes of the protocol servers; a reload makes none. It looks
each endpoint of the stored configuration up by its name, skips those without a registered socket, and replaces the lists
of the others' balancers. So it refines a restart on what the start fixed and on nothing else.

- `reload_refines_restart`: after any run that ends with an acknowledged reload,
  (1) the names served, their strategies and the route closures are those of the start;
  (2) every slot that the start and the document have in common serves what a process started on the document serves;
  (3) with the same slots and the same protocol servers, everything observed is as after a restart.
Witness: `reload_of_same_slots`. Counterexample: `reload_ignores_endpoints`.

Premises on asabru-engine: those of `State`, and `RoutesOverServices` for the sockets that a start makes.
-/
import Mathlib.Tactic
import Asabru.Server.RouteHandler
import Asabru.Server.Serving

namespace Asabru.ReloadRestart

open Asabru.Control Asabru.Xml Asabru.Config Asabru.Server

/-! ## What is observed -/

/-- a management route as a client meets it: what its closure does with a request, whatever the commands do -/
structure ManagedRoute where
  httpHandler : Handler
  path : String
  method : HttpMethod
  closure : Engine → ℕ → Ending HttpResponse × Handling

def managedRoute (rr : RegisteredRoute) : ManagedRoute where
  httpHandler := rr.httpHandler
  path := rr.path
  method := rr.method
  closure e request := routeClosure e rr.route rr.cfg request

/-- the management routes, in registration order -/
def managed (s : State) : List ManagedRoute := s.routes.map managedRoute

/-- the two processes serve the same names, backends and strategies and enforce the same on the same routes -/
structure AsRestarted (s s' : State) : Prop where
  served : ∀ name bs k, Serves s name bs k ↔ Serves s' name bs k
  managed : managed s = managed s'

/-- the names, strategies and routes of the start are still there, and no others -/
structure KeepsStart (s₀ s : State) : Prop where
  served : ∀ name k, (∃ bs, Serves s name bs k) ↔ ∃ bs, Serves s₀ name bs k
  managed : managed s = managed s₀

/-- when lists can be compared: the document's proxy section is accepted, its ports read alike where it leaves them out,
and both configurations' endpoints are separate -/
structure Comparable (lib : Lib) (u u' : Uninit) (pRoot : XMLElement) (c₀ c : ProxyConfig) : Prop where
  accepted : proxySectionOk lib.xml pRoot
  uninit : u = u'
  separate₀ : Separate c₀
  separate : Separate c

/-! ## Routes -/

/-- a closure uses its server's auth block only -/
theorem routeClosure_auth {cfg cfg' : ResolvedProtocolConfig} (h : cfg.auth = cfg'.auth) (e : Engine) (route : Route)
    (request : ℕ) : routeClosure e route cfg request = routeClosure e route cfg' request := by
  simp only [routeClosure, startHandling, h]

theorem registered_managed {lib : Lib} {w : World} {proto : ProtocolServerConfig} {cfg cfg' : ResolvedProtocolConfig}
    (h : ProtocolResolvesTo w proto cfg) (h' : ProtocolResolvesTo w proto cfg') :
    (registered lib cfg).map managedRoute = (registered lib cfg').map managedRoute := by
  have hauth : cfg.auth = cfg'.auth := Except.ok.inj (h.auth.symm.trans h'.auth)
  unfold registered
  rw [h.handler, h'.handler, h.routes, h'.routes]
  cases w.getCommand proto.handler with
  | none => rfl
  | some httpHandler =>
    simp only [List.map_filterMap, Option.map_map, Function.comp_def, managedRoute, routeClosure_auth hauth]

/-- the same protocol servers, resolved in the same environment, give the same routes -/
theorem routes_managed {lib : Lib} {w : World} {c : List ProtocolServerConfig} {cfgs cfgs' : List ResolvedProtocolConfig}
    (h : List.Forall₂ (ProtocolResolvesTo w) c cfgs) (h' : List.Forall₂ (ProtocolResolvesTo w) c cfgs') :
    (cfgs.flatMap (registered lib)).map managedRoute = (cfgs'.flatMap (registered lib)).map managedRoute := by
  induction h generalizing cfgs' with
  | nil => cases h'; rfl
  | cons hcfg _ ih =>
    cases h' with
    | cons hcfg' hrest =>
      simp only [List.flatMap_cons, List.map_append, ih hrest, registered_managed hcfg hcfg']

theorem managed_of_start {lib : Lib} {w : Phase → World} {file₀ file : String} {s₀ s' : State}
    (h₀ : startProcess lib w file₀ = some s₀) (h' : startProcess lib w file = some s')
    (hsame : s₀.configs.m_ProtocolServerConfig = s'.configs.m_ProtocolServerConfig) : managed s₀ = managed s' := by
  obtain ⟨_, hs₀⟩ := startProcess_started h₀
  obtain ⟨_, hs'⟩ := startProcess_started h'
  obtain ⟨cfgs, hres, hroutes⟩ := hs₀.routes
  obtain ⟨cfgs', hres', hroutes'⟩ := hs'.routes
  rw [hsame] at hres
  unfold managed
  rw [hroutes, hroutes']
  exact routes_managed hres hres'

/-! ## Endpoints -/

/-- what a start on the document and an acknowledged reload of it store is the same proxy configuration -/
theorem stored_alike {lib : Lib} {w : Phase → World} {wr : World} {file content : String} {s₁ u s' : State}
    {code : XMLError} {pRoot : XMLElement} (hfile : readRoot file lib.xml.loadFile = some pRoot)
    (hcontent : readRoot content lib.xml.parse = some pRoot) (hstart : startProcess lib w file = some s')
    (hload : s₁.loadFromString lib wr content = (.ret code, u)) (haccepted : proxySectionOk lib.xml pRoot)
    (huninit : wr.uninit = (w .construction).uninit) : u.configs.m_ProxyConfig = s'.configs.m_ProxyConfig := by
  obtain ⟨_, hs'⟩ := startProcess_started hstart
  have hfresh := hs'.loaded
  rw [loadConfigurationsFromFile, load_root hfile] at hfresh
  rw [loadFromString_root hcontent, huninit] at hload
  obtain ⟨hcode, hu⟩ := Prod.mk.inj hload
  have hreloaded := (parseRoot_ret.1 (Prod.ext hcode rfl)).2.2.2
  rw [← hu, (parseRoot_ret.1 hfresh).2.2.2]
  exact (congrArg Configs.m_ProxyConfig hreloaded).trans (loadProxy_accepted haccepted _ _)

/-- a name that is served has a slot -/
theorem served_slot {cfgs : List ResolvedProxyConfig} {s t : State} (hl : Launched cfgs s) (hw : t.wiring = s.wiring)
    {name : String} {bs : List ResolvedService} {k : Option StrategyKind} (h : Serves t name bs k) :
    ∃ x ∈ cfgs.map resolvedSlot, x.name = name := by
  obtain ⟨cfg, hmem, hname, -⟩ := (serves_iff hl hw).1 h
  exact ⟨_, List.mem_map_of_mem hmem, (resolvedSlot_name cfg).trans hname⟩

/-- **A reload refines a restart on what the start fixed.** -/
theorem reload_refines_restart {lib : Lib} {w : Phase → World} {wr : World} {file₀ file content : String}
    {s₀ s₁ s s' : State} {trace : List Exchange} {r : Reply} {pRoot : XMLElement} (hengine : RoutesOverServices lib)
    (hstart₀ : startProcess lib w file₀ = some s₀) (hrun : Run lib s₀ trace s₁)
    (hreload : updateConfiguration lib wr content s₁ = (.ret r, s)) (hok : r.status = .ok)
    (hstart : startProcess lib w file = some s') (hcontent : readRoot content lib.xml.parse = some pRoot)
    (hfile : readRoot file lib.xml.loadFile = some pRoot) :
    KeepsStart s₀ s ∧
    (Comparable lib wr.uninit (w .construction).uninit pRoot s₀.configs.m_ProxyConfig s'.configs.m_ProxyConfig →
      (∀ x ∈ ProxyConfig.slots s₀.configs.m_ProxyConfig, x ∈ ProxyConfig.slots s'.configs.m_ProxyConfig →
        ∀ bs k, Serves s x.name bs k ↔ Serves s' x.name bs k) ∧
      ((∀ x, x ∈ ProxyConfig.slots s₀.configs.m_ProxyConfig ↔ x ∈ ProxyConfig.slots s'.configs.m_ProxyConfig) →
        s₀.configs.m_ProtocolServerConfig = s'.configs.m_ProtocolServerConfig → AsRestarted s s')) := by
  obtain ⟨cfgs₀, hres₀, hsofar₀, hreg₀⟩ := startProcess_launched hstart₀
  obtain ⟨cfgs', hres', hsofar', -⟩ := startProcess_launched hstart
  have hw : s.wiring = s₀.wiring := by
    have hlast := updateConfiguration_wiring lib wr content s₁
    rw [hreload] at hlast
    exact hlast.trans hrun.wiring
  have hmanaged : managed s = managed s₀ := congrArg (fun w => w.routes.map managedRoute) hw
  refine ⟨⟨served_of_wiring hsofar₀.launched hw, hmanaged⟩, fun hcmp => ?_⟩
  -- the lists after the reload are a replay of what the restart stores
  obtain ⟨code, u, hload, -, hupdated⟩ := updateConfiguration_acknowledged hreload hok
  have hstored := stored_alike hfile hcontent hstart hload hcmp.accepted hcmp.uninit
  have hreach : u.reach = s₀.reach := by
    rw [← reach_of_wiring hupdated.wiring, reach_of_wiring hw]
  have hservers := hupdated.servers
  rw [hreach, hstored] at hservers
  have common : ∀ x ∈ ProxyConfig.slots s₀.configs.m_ProxyConfig, x ∈ ProxyConfig.slots s'.configs.m_ProxyConfig →
      ∀ bs k, Serves s x.name bs k ↔ Serves s' x.name bs k := by
    intro x hx₀ hx bs k
    have hmem : x ∈ cfgs₀.map resolvedSlot := by rwa [slots_resolved hres₀]
    rw [start_serves hengine hstart hcmp.separate,
      replayed_serves hsofar₀ hreg₀ (separate_resolved hres₀ hcmp.separate₀) hcmp.separate hw hservers hmem hx]
  refine ⟨common, fun hslots hprotocol => ⟨fun name bs k => ?_, hmanaged.trans (managed_of_start hstart₀ hstart hprotocol)⟩⟩
  constructor
  · intro h
    obtain ⟨x, hx, rfl⟩ := served_slot hsofar₀.launched hw h
    rw [slots_resolved hres₀] at hx
    exact (common x hx ((hslots x).1 hx) bs k).1 h
  · intro h
    obtain ⟨x, hx, rfl⟩ := served_slot hsofar'.launched rfl h
    rw [slots_resolved hres'] at hx
    exact (common x ((hslots x).2 hx) hx bs k).2 h

/-! ## Fixed runs -/

/-- endpoint `a` on one host, and a document that moves it to another -/
def moved : List (String × XMLDocument) :=
  [("config.xml", endPointsDocument [endPointElement "a" "Pipeline" "" [("a1", "10.0.0.1")]]),
    ("new.xml", endPointsDocument [endPointElement "a" "Pipeline" "" [("a2", "10.0.0.2")]])]

/-- endpoint `a`, and a document with endpoint `b` instead -/
def renamed : List (String × XMLDocument) :=
  [("config.xml", endPointsDocument [endPointElement "a" "Pipeline" "" [("a1", "10.0.0.1")]]),
    ("new.xml", endPointsDocument [endPointElement "b" "Pipeline" "" [("b1", "10.0.0.1")]])]

/-- the process started on `config.xml` and told to load `new.xml` -/
def reloaded (docs : List (String × XMLDocument)) : State :=
  (updateConfiguration (.plain (.table docs)) .calm "new.xml" (plainProcess docs)).2

/-- the process started on `new.xml` -/
def restarted (docs : List (String × XMLDocument)) : State := plainProcessOn docs "new.xml"

theorem plain_routes (xml : TinyXml) : RoutesOverServices (.plain xml) := fun _ => rfl

theorem reload_of_same_slots : AsRestarted (reloaded moved) (restarted moved) := by
  have hread : (readRoot "new.xml" (TinyXml.table moved).parse).isSome := by decide
  have haccepted : proxySectionOk (.table moved) (Option.get _ hread) :=
    (loadProxy_code _ World.calm.uninit _ ⟨[]⟩).1 (by decide +revert)
  have hroot := (Option.some_get hread).symm
  have hstart₀ : startProcess (.plain (.table moved)) (fun _ => .calm) "config.xml" = some (plainProcess moved) :=
    plainProcessOn_started (by decide)
  have hstart : startProcess (.plain (.table moved)) (fun _ => .calm) "new.xml" = some (restarted moved) :=
    plainProcessOn_started (by decide)
  have hreload : updateConfiguration (.plain (.table moved)) .calm "new.xml" (plainProcess moved) =
      (.ret updatedReply, reloaded moved) := Prod.ext (by decide) rfl
  have hslots₀ : ProxyConfig.slots (plainProcess moved).configs.m_ProxyConfig = [⟨"a", none, none⟩] := by decide
  have hslots : ProxyConfig.slots (restarted moved).configs.m_ProxyConfig = [⟨"a", none, none⟩] := by decide
  have hcmp : Comparable (.plain (.table moved)) World.calm.uninit World.calm.uninit (Option.get _ hread)
      (plainProcess moved).configs.m_ProxyConfig (restarted moved).configs.m_ProxyConfig := by
    refine ⟨haccepted, rfl, ?_, ?_⟩
    · unfold Separate
      rw [hslots₀]
      exact List.pairwise_singleton _ _
    · unfold Separate
      rw [hslots]
      exact List.pairwise_singleton _ _
  obtain ⟨-, hrefines⟩ := reload_refines_restart (plain_routes _) hstart₀ .start hreload rfl hstart hroot hroot
  exact (hrefines hcmp).2 (fun x => by rw [hslots₀, hslots]) (by decide)

/-- the reload is answered by ok, and the process goes on serving `a` where a restart serves `b` -/
theorem reload_ignores_endpoints :
    startProcess (.plain (.table renamed)) (fun _ => .calm) "config.xml" = some (plainProcess renamed) ∧
    startProcess (.plain (.table renamed)) (fun _ => .calm) "new.xml" = some (restarted renamed) ∧
    (updateConfiguration (.plain (.table renamed)) .calm "new.xml" (plainProcess renamed)).1 = .ret updatedReply ∧
    ¬ AsRestarted (reloaded renamed) (restarted renamed) := by
  have hstart₀ : startProcess (.plain (.table renamed)) (fun _ => .calm) "config.xml" = some (plainProcess renamed) :=
    plainProcessOn_started (by decide)
  have hstart : startProcess (.plain (.table renamed)) (fun _ => .calm) "new.xml" = some (restarted renamed) :=
    plainProcessOn_started (by decide)
  refine ⟨hstart₀, hstart, by decide, fun h => ?_⟩
  -- the socket of `a` is still there
  have hsocket : ((reloaded renamed).proxySockets 0).bind ProxySocket.started = some "a" := by decide
  obtain ⟨sock, hs, hname⟩ := Option.bind_eq_some_iff.1 hsocket
  have ha := (h.served "a" _ _).1 (.proxy hs hname)
  -- and a restart makes none
  obtain ⟨cfgs, hres, hsofar, -⟩ := startProcess_launched hstart
  obtain ⟨x, hx, hxname⟩ := served_slot hsofar.launched rfl ha
  have hslots : ProxyConfig.slots (restarted renamed).configs.m_ProxyConfig = [⟨"b", none, none⟩] := by decide
  rw [slots_resolved hres, hslots] at hx
  rw [List.mem_singleton.1 hx] at hxname
  exact absurd hxname (by decide)

end Asabru.ReloadRestart
