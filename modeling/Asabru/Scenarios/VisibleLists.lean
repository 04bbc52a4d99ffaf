/-
WHAT CONNECTIONS SEE DURING A HOT RELOAD of one socket.

`updateProxyConfig` is a sequence of calls, one atomic step each: `SetConfigValues`, `removeAllServers`, then one
`addServer` for each service. Connection threads read the list of the socket's balancer at any moment.

- `visible_iff`: the lists that a connection can see are the old list, the old list with what `SetConfigValues` adds to it,
  and every prefix of the new services, the empty one included;
- `update_shows_partial`: so from a list that is not empty to services that are not none, a connection can see a list that
  is neither, in every state and for every configuration.
Counterexample: `connection_finds_no_backend`. Witness: `one_backend_update`.

Premises on asabru-engine: those of `State` (a removal empties the shared list in place, an addition appends to it).
-/
import Mathlib.Tactic
import Asabru.Core.Readers
import Asabru.Server.Interleaving

namespace Asabru.VisibleLists

open Asabru.Control Asabru.Config Asabru.Interleave Asabru.Server

/-- the list that a connection reads -/
def listOf (b : BalancerId) (s : State) : List ResolvedService := s.servers b

/-- a connection thread can see the list at some moment of some interleaving -/
def Sees (lib : Lib) (s : State) (sid : SocketId) (b : BalancerId) (cfg : ResolvedProxyConfig)
    (l : List ResolvedService) : Prop :=
  ∃ m, Readers.Reaches (Call.run lib) (listOf b) (updateCalls sid cfg s) s m ∧
    ∃ id seen, m.control (.reader id) = .reading seen ∧ l ∈ seen

/-- every list that is seen is the old one or the new one -/
def NeverPartial (lib : Lib) (s : State) (sid : SocketId) (b : BalancerId) (cfg : ResolvedProxyConfig) : Prop :=
  ∀ l, Sees lib s sid b cfg l → l = s.servers b ∨ l = cfg.services

section Update

variable {lib : Lib} {s : State} {sid : SocketId} {sock : ProxySocket} {cfg : ResolvedProxyConfig}

/-- the list after some of the additions -/
theorem additions_list (b : BalancerId) (svcs : List ResolvedService) (s : State) :
    listOf b ((svcs.map (Call.addServer b)).foldl (Call.run lib) s) = s.servers b ++ svcs := by
  rw [List.foldl_map]
  show (svcs.foldl (fun s svc => s.addServer b svc) s).servers b = _
  rw [addServers_servers]
  exact Function.update_self ..

/-- the list after `SetConfigValues` -/
theorem set_list (hs : s.proxySockets sid = some sock) :
    listOf sock.loadBalancer (s.setConfigValues lib sid (targetConfig cfg)) =
      s.servers sock.loadBalancer ++ lib.setConfigValuesAdds (targetConfig cfg) := by
  rw [setConfigValues_live hs]
  exact Function.update_self ..

/-- the list after the removal and some of the additions -/
theorem rebuild_list (b : BalancerId) (svcs : List ResolvedService) :
    listOf b ((Call.setConfigValues sid (targetConfig cfg) :: .removeAllServers b ::
      svcs.map (.addServer b)).foldl (Call.run lib) s) = svcs := by
  rw [List.foldl_cons, List.foldl_cons, additions_list]
  simp [Call.run, State.removeAllServers]

/-- **What a connection can see** during and after the update. -/
theorem visible_iff (hs : s.proxySockets sid = some sock) {l : List ResolvedService} :
    Sees lib s sid sock.loadBalancer cfg l ↔ l = s.servers sock.loadBalancer ∨
      l = s.servers sock.loadBalancer ++ lib.setConfigValuesAdds (targetConfig cfg) ∨ l <+: cfg.services := by
  have hcalls : updateCalls sid cfg s = .setConfigValues sid (targetConfig cfg) :: .removeAllServers sock.loadBalancer ::
      cfg.services.map (.addServer sock.loadBalancer) := by
    simp only [updateCalls, hs]
  unfold Sees
  rw [Readers.seen_iff, hcalls]
  constructor
  · rintro ⟨made, left, hsplit, rfl⟩
    cases made with
    | nil => exact Or.inl rfl
    | cons first made =>
      obtain ⟨rfl, htail⟩ := List.cons.inj hsplit
      cases made with
      | nil => exact Or.inr (Or.inl (set_list hs))
      | cons second made =>
        obtain ⟨hremove, hadds⟩ := List.cons.inj htail
        obtain ⟨svcs, rest, hservices, hmade, -⟩ := List.map_eq_append_iff.1 hadds
        rw [← hremove, ← hmade, rebuild_list]
        exact Or.inr (Or.inr ⟨rest, hservices.symm⟩)
  · rintro (rfl | rfl | ⟨rest, hservices⟩)
    · exact ⟨[], _, rfl, rfl⟩
    · exact ⟨[.setConfigValues sid (targetConfig cfg)], _, rfl, (set_list hs).symm⟩
    · refine ⟨.setConfigValues sid (targetConfig cfg) :: .removeAllServers sock.loadBalancer ::
        l.map (.addServer sock.loadBalancer), rest.map (.addServer sock.loadBalancer), ?_, (rebuild_list sock.loadBalancer l).symm⟩
      rw [← hservices, List.map_append]
      rfl

/-- **An update shows partial lists**: whatever the socket's list and the new services are, if neither is empty. -/
theorem update_shows_partial (hs : s.proxySockets sid = some sock) (hold : s.servers sock.loadBalancer ≠ [])
    (hnew : cfg.services ≠ []) : ¬ NeverPartial lib s sid sock.loadBalancer cfg := by
  intro h
  have hempty : Sees lib s sid sock.loadBalancer cfg [] := (visible_iff hs).2 (Or.inr (Or.inr List.nil_prefix))
  rcases h [] hempty with hl | hl
  · exact hold hl.symm
  · exact hnew hl.symm

end Update

/-! ## One endpoint with two services -/

/-- the process -/
def twoServices : List (String × Xml.XMLDocument) :=
  [("config.xml", endPointsDocument [endPointElement "a" "Pipeline" "" [("a1", "10.0.0.1"), ("a2", "10.0.0.2")]])]

/-- its endpoint, resolved -/
def resolvedEndPoint : ResolvedProxyConfig where
  name := "a"
  proxyPort := 9000
  pipelineName := "Pipeline"
  pipeline := some 0
  handler := some 0
  services := [⟨"10.0.0.3", 9440, false, "", 0, 1, ""⟩]
  loadBalancerStrategy := none

/-- **A connection finds no backend**, between the second call and the third. -/
theorem connection_finds_no_backend :
    ¬ NeverPartial (.plain (.table twoServices)) (plainProcess twoServices) 0 (.own 0) resolvedEndPoint := by
  intro h
  have hseen : Sees (.plain (.table twoServices)) (plainProcess twoServices) 0 (.own 0) resolvedEndPoint [] := by
    refine Readers.seen_iff.2 ⟨[.setConfigValues 0 (targetConfig resolvedEndPoint), .removeAllServers (.own 0)],
      [.addServer (.own 0) ⟨"10.0.0.3", 9440, false, "", 0, 1, ""⟩], by decide, by decide⟩
  rcases h [] hseen with hl | hl
  · exact absurd hl (by decide)
  · exact absurd hl (by decide)

/-- **Witness.** -/
theorem one_backend_update : ∃ sock, (plainProcess twoServices).proxySockets 0 = some sock ∧
    ¬ NeverPartial (.plain (.table twoServices)) (plainProcess twoServices) 0 sock.loadBalancer resolvedEndPoint := by
  obtain ⟨sock, hs⟩ : ∃ sock, (plainProcess twoServices).proxySockets 0 = some sock :=
    Option.isSome_iff_exists.1 (by decide)
  have hb : sock.loadBalancer = .own 0 := by
    have hmap : ((plainProcess twoServices).proxySockets 0).map ProxySocket.loadBalancer = some (.own 0) := by decide
    rw [hs] at hmap
    exact Option.some.inj hmap
  refine ⟨sock, hs, update_shows_partial hs ?_ (by decide)⟩
  rw [hb]
  decide

end Asabru.VisibleLists
