/-
The routing table of an API-gateway endpoint.

The law: the table has an entry at a hostname and a path iff some service with the hostname has a usable URI (a host, a
port in range) for the path, and the entry is the first such URI in document order. `startGatewayServer` emplaces paths,
so the first URI wins within one service, but assigns hostnames, so the last service with a hostname replaces the maps of
the earlier ones.

- `routes_exactly_iff`: the table passed to the socket obeys the law iff, for every hostname and path, the last service
  with the hostname has the route of the first usable URI (`LastServiceHas`).
- `distinct_hostnames`: an endpoint that does not repeat a hostname meets the condition.
Counterexample: `repeated_hostname_loses`.
-/
import Mathlib.Tactic
import Asabru.Server.GatewayServer

namespace Asabru.GatewayTable

open Asabru.Config Asabru.Server Asabru.Pipelines

/-- the entry of a host map -/
def entry (hostMap : HostMap) (hostname path : String) : Option ResolvedService :=
  (hostMap hostname).bind fun uriMap => uriMap path

/-- the usable URIs for a path of the services with a hostname, in document order -/
def candidates (services : List ApiGatewayService) (hostname path : String) : List ApiGatewayUri :=
  (services.filter fun service => service.hostname = hostname).flatMap fun service =>
    service.uris.filter fun uri => uriUsable uri && uri.path = path

/-- the entry is for the URI's host and port -/
def Targets (resolved : ResolvedService) (uri : ApiGatewayUri) : Prop :=
  resolved.ipaddress = uri.host ∧ resolved.port = uri.port

/-- the law of the routing table -/
def RoutesExactly (services : List ApiGatewayService) (hostMap : HostMap) : Prop :=
  ∀ hostname path,
    ((entry hostMap hostname path).isSome ↔ ∃ service ∈ services, service.hostname = hostname ∧
      ∃ uri ∈ service.uris, uri.path = path ∧ uri.host ≠ "" ∧ 0 < uri.port ∧ uri.port ≤ 65535) ∧
    ∀ resolved, entry hostMap hostname path = some resolved →
      ∃ uri, (candidates services hostname path).head? = some uri ∧ Targets resolved uri

/-- of the routes of a hostname, the last service with it has each one, to the same target -/
def LastServiceHas (services : List ApiGatewayService) : Prop :=
  ∀ hostname path uri, (candidates services hostname path).head? = some uri →
    ∃ service uri', lastService services hostname = some service ∧ firstUsable service.uris path = some uri' ∧
      uri'.host = uri.host ∧ uri'.port = uri.port

/-! ## The law for one table -/

theorem uriUsable_iff {uri : ApiGatewayUri} : uriUsable uri = true ↔ uri.host ≠ "" ∧ 0 < uri.port ∧ uri.port ≤ 65535 := by
  simp [uriUsable, and_assoc]

theorem mem_candidates {services : List ApiGatewayService} {hostname path : String} {uri : ApiGatewayUri} :
    uri ∈ candidates services hostname path ↔ ∃ service ∈ services, service.hostname = hostname ∧ uri ∈ service.uris ∧
      uri.path = path ∧ uriUsable uri = true := by
  simp only [candidates, List.mem_flatMap, List.mem_filter, decide_eq_true_eq, Bool.and_eq_true]
  refine exists_congr fun service => ?_
  constructor
  · rintro ⟨⟨hs, hn⟩, hu, husable, hp⟩
    exact ⟨hs, hn, hu, hp, husable⟩
  · rintro ⟨hs, hn, hu, hp, husable⟩
    exact ⟨⟨hs, hn⟩, hu, husable, hp⟩

/-- there is a route iff there is a first one -/
theorem head_candidates {services : List ApiGatewayService} {hostname path : String} :
    (∃ uri, (candidates services hostname path).head? = some uri) ↔ ∃ service ∈ services, service.hostname = hostname ∧
      ∃ uri ∈ service.uris, uri.path = path ∧ uri.host ≠ "" ∧ 0 < uri.port ∧ uri.port ≤ 65535 := by
  constructor
  · rintro ⟨uri, h⟩
    obtain ⟨service, hs, hn, hu, hp, husable⟩ := mem_candidates.1 (List.mem_of_mem_head? h)
    exact ⟨service, hs, hn, uri, hu, hp, uriUsable_iff.1 husable⟩
  · rintro ⟨service, hs, hn, uri, hu, hp, husable⟩
    have hmem := mem_candidates.2 ⟨service, hs, hn, hu, hp, uriUsable_iff.2 husable⟩
    exact ⟨_, List.head?_eq_some_head (List.ne_nil_of_mem hmem)⟩

/-- the entries of an endpoint's table -/
theorem entry_hostMapOf (services : List ApiGatewayService) (hostname path : String) :
    entry (hostMapOf services) hostname path =
      (lastService services hostname).bind fun service => (firstUsable service.uris path).map resolveUri := by
  rw [entry, hostMapOf_apply]
  cases lastService services hostname with
  | none => rfl
  | some service => exact uriMapOf_apply service path

theorem lastService_mem {services : List ApiGatewayService} {hostname : String} {service : ApiGatewayService}
    (h : lastService services hostname = some service) : service ∈ services ∧ service.hostname = hostname := by
  have := List.mem_filter.1 (List.mem_of_getLast? h)
  exact ⟨this.1, of_decide_eq_true this.2⟩

theorem firstUsable_spec {uris : List ApiGatewayUri} {path : String} {uri : ApiGatewayUri}
    (h : firstUsable uris path = some uri) : uri ∈ uris ∧ uri.path = path ∧ uriUsable uri = true := by
  have hp : (uriUsable uri && decide (uri.path = path)) = true :=
    List.find?_some (p := fun uri : ApiGatewayUri => uriUsable uri && decide (uri.path = path)) h
  rw [Bool.and_eq_true, decide_eq_true_eq] at hp
  exact ⟨List.mem_of_find?_eq_some h, hp.2, hp.1⟩

/-- no entry is invented, whatever is repeated -/
theorem entry_sound {services : List ApiGatewayService} {hostname path : String} {resolved : ResolvedService}
    (h : entry (hostMapOf services) hostname path = some resolved) :
    ∃ uri ∈ candidates services hostname path, Targets resolved uri := by
  rw [entry_hostMapOf] at h
  obtain ⟨service, hlast, hs⟩ := Option.bind_eq_some_iff.1 h
  obtain ⟨uri, hu, rfl⟩ := Option.map_eq_some_iff.1 hs
  obtain ⟨hmem, hname⟩ := lastService_mem hlast
  obtain ⟨hin, hpath, husable⟩ := firstUsable_spec hu
  exact ⟨uri, mem_candidates.2 ⟨service, hmem, hname, hin, hpath, husable⟩, rfl, rfl⟩

/-- **The law for an endpoint's table** is a condition on the last service of each hostname. -/
theorem hostMapOf_exact (services : List ApiGatewayService) :
    RoutesExactly services (hostMapOf services) ↔ LastServiceHas services := by
  constructor
  · intro h hostname path uri hhead
    obtain ⟨hiff, htarget⟩ := h hostname path
    obtain ⟨resolved, hr⟩ := Option.isSome_iff_exists.1 (hiff.2 (head_candidates.1 ⟨uri, hhead⟩))
    obtain ⟨uri₁, hhead₁, hhost, hport⟩ := htarget resolved hr
    obtain rfl : uri₁ = uri := Option.some.inj (hhead₁.symm.trans hhead)
    rw [entry_hostMapOf] at hr
    obtain ⟨service, hlast, hs⟩ := Option.bind_eq_some_iff.1 hr
    obtain ⟨uri', hu', rfl⟩ := Option.map_eq_some_iff.1 hs
    exact ⟨service, uri', hlast, hu', hhost, hport⟩
  · intro h hostname path
    refine ⟨⟨fun hsome => ?_, fun hex => ?_⟩, fun resolved hr => ?_⟩
    · obtain ⟨resolved, hr⟩ := Option.isSome_iff_exists.1 hsome
      obtain ⟨uri, hmem, -⟩ := entry_sound hr
      exact head_candidates.1 ⟨_, List.head?_eq_some_head (List.ne_nil_of_mem hmem)⟩
    · obtain ⟨uri, hhead⟩ := head_candidates.2 hex
      obtain ⟨service, uri', hlast, hu', -⟩ := h hostname path uri hhead
      rw [entry_hostMapOf, hlast]
      simp [hu']
    · obtain ⟨any, hmem, -⟩ := entry_sound hr
      have hhead := List.head?_eq_some_head (List.ne_nil_of_mem hmem)
      obtain ⟨service, uri', hlast, hu', hhost, hport⟩ := h hostname path _ hhead
      rw [entry_hostMapOf, hlast, Option.bind_some, hu'] at hr
      obtain rfl := Option.some.inj hr
      exact ⟨_, hhead, hhost, hport⟩

/-! ## The table that a socket gets -/

/-- every socket that `startGatewayServer` gives a table for the endpoint gets one that obeys the law -/
def SocketsRouteExactly (endpoint : ApiGatewayEndPoint) : Prop :=
  ∀ (w : World) (sid : SocketId) (p : Option PipelineFunction) (s : State) (sock : GatewaySocket),
    s.gatewaySockets sid = some sock → w.accepts .setPipeline sid = true →
    ∃ sock', (startGatewayServer w endpoint (some sid) p s).2.gatewaySockets sid = some sock' ∧
      RoutesExactly endpoint.services sock'.hostMap

/-- a socket that accepts its pipeline gets the endpoint's table, whether or not it starts -/
theorem startGatewayServer_table {w : World} (endpoint : ApiGatewayEndPoint) {sid : SocketId}
    {p : Option PipelineFunction} {s : State} {sock : GatewaySocket} (hs : s.gatewaySockets sid = some sock)
    (hp : w.accepts .setPipeline sid = true) :
    ∃ sock', (startGatewayServer w endpoint (some sid) p s).2.gatewaySockets sid = some sock' ∧
      sock'.hostMap = hostMapOf endpoint.services := by
  simp only [startGatewayServer, hp, Bool.true_eq_false, if_false]
  split_ifs <;> simp [State.modifyGatewaySocket, hs]

/-- **The gateway table loses and invents nothing iff the last service of each hostname has all its routes.** -/
theorem routes_exactly_iff (endpoint : ApiGatewayEndPoint) :
    SocketsRouteExactly endpoint ↔ LastServiceHas endpoint.services := by
  rw [← hostMapOf_exact]
  constructor
  · intro h
    let s : State := ((State.fresh Configs.empty .empty).newGatewaySocket endpoint.port).2
    have hs : s.gatewaySockets 0 = some ⟨endpoint.port, none, fun _ => none, none⟩ := by
      simp [s, State.newGatewaySocket, State.fresh]
    obtain ⟨sock, hsock, hexact⟩ := h .calm 0 none s _ hs rfl
    obtain ⟨sock', hsock', htable⟩ := startGatewayServer_table (w := .calm) endpoint (p := none) hs rfl
    obtain rfl : sock = sock' := Option.some.inj (hsock.symm.trans hsock')
    rwa [htable] at hexact
  · intro h w sid p s sock hs hp
    obtain ⟨sock', hsock', htable⟩ := startGatewayServer_table endpoint (p := p) hs hp
    exact ⟨sock', hsock', htable ▸ h⟩

/-- hostnames that are not repeated -/
theorem distinct_hostnames {services : List ApiGatewayService} (h : (services.map ApiGatewayService.hostname).Nodup) :
    LastServiceHas services := by
  intro hostname path uri hhead
  obtain ⟨service, hs, hn, -⟩ := mem_candidates.1 (List.mem_of_mem_head? hhead)
  have hone : (services.filter fun service => service.hostname = hostname) = [service] := by
    refine List.perm_singleton.1 ((List.perm_ext_iff_of_nodup (h.of_map.filter _) (List.nodup_singleton _)).2 ?_)
    intro other
    simp only [List.mem_filter, decide_eq_true_eq, List.mem_singleton]
    exact ⟨fun ⟨ho, hne⟩ => List.inj_on_of_nodup_map h ho hs (hne.trans hn.symm), fun he => he ▸ ⟨hs, hn⟩⟩
  rw [candidates, hone, List.flatMap_singleton, List.head?_filter] at hhead
  exact ⟨service, uri, by rw [lastService, hone]; rfl, hhead, rfl, rfl⟩

/-- two services with one hostname, for different paths -/
def repeatedHostname : ApiGatewayEndPoint where
  name := "gateway"
  port := 8080
  pipeline := "Pipeline"
  services := [⟨"ui.local", [⟨"/metrics", "10.0.0.1", 5001⟩]⟩, ⟨"ui.local", [⟨"/", "10.0.0.2", 8081⟩]⟩]

/-- **A repeated hostname loses the routes of its earlier services.** -/
theorem repeated_hostname_loses : ¬ SocketsRouteExactly repeatedHostname := by
  rw [routes_exactly_iff, ← hostMapOf_exact]
  intro h
  have hlost : entry (hostMapOf repeatedHostname.services) "ui.local" "/metrics" = none := by decide
  have hroute := (h "ui.local" "/metrics").1.2 ⟨_, List.mem_cons_self, rfl, _, List.mem_cons_self, rfl, by decide⟩
  rw [hlost] at hroute
  cases hroute

end Asabru.GatewayTable
