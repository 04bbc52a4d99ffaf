/-
The protocol-server section: how its loader ends, and what it stores.

- `protocol_section_exact`: the loader stores one server per element and one route per route element, or returns
  `XML_ERROR_PARSING_ELEMENT` for a port, or throws for a route's required text. The first server at fault decides, its
  port before its routes, and then the output keeps its value. A stored route's flag is off only by its own text, or
  because neither it nor its server asks for authentication.

An element that a document does not give leaves a server's port arbitrary; nothing else is.
-/
import Mathlib.Tactic
import Asabru.Config.ProtocolDocument

namespace Asabru.ProtocolSection

open Asabru.Control Asabru.Xml Asabru.Config

/-- nothing in the element makes the loader give up -/
def WellFormed (ps : XMLElement) : Prop := ¬ badPort ps ∧ ∀ routeEl ∈ routeElements ps, ¬ badRequired routeEl

/-- the section is stored: its servers and their routes, in document order -/
def Stores (x : TinyXml) (root : XMLElement) (load : Ending XMLError × List ProtocolServerConfig) : Prop :=
  (∀ ps ∈ protocolServerElements root, WellFormed ps) ∧
    ∃ servers, load = (.ret .success, servers) ∧ List.Forall₂ (ProtocolServerOf x) (protocolServerElements root) servers

/-- a code is returned for the port of the first server at fault -/
def ReturnsForPort (root : XMLElement) (c : List ProtocolServerConfig)
    (load : Ending XMLError × List ProtocolServerConfig) : Prop :=
  ∃ ps, Reached WellFormed (protocolServerElements root) ps ∧ badPort ps ∧ load = (.ret .errorParsingElement, c)

/-- the first bad route of the first server at fault, whose port is good, makes the loader throw -/
def ThrowsForRoute (root : XMLElement) (c : List ProtocolServerConfig)
    (load : Ending XMLError × List ProtocolServerConfig) : Prop :=
  ∃ ps, Reached WellFormed (protocolServerElements root) ps ∧ ¬ badPort ps ∧
    ∃ routeEl, Reached (fun r => ¬ badRequired r) (routeElements ps) routeEl ∧ badRequired routeEl ∧
      ∃ el low, routeAuthChild routeEl "required" = some el ∧ LowerCased (safeText (some el)) low ∧
        load = (.throws (invalidRequired low (safeText (routeEl.firstChildElement "path"))), c)

theorem wellFormed_iff {ps : XMLElement} : protocolServerFault ps = none ↔ WellFormed ps := protocolServerFault_none

/-- a server at fault is so by its port, or by its first bad route -/
theorem fault_cases {ps : XMLElement} {e : Ending XMLFailure} (h : protocolServerFault ps = some e) :
    (badPort ps ∧ e = .ret parsingElement) ∨ (¬ badPort ps ∧ ∃ routeEl,
      Reached (fun r => ¬ badRequired r) (routeElements ps) routeEl ∧ badRequired routeEl ∧
      ∃ el, routeAuthChild routeEl "required" = some el ∧
        e = .throws (invalidRequired (toLower (safeText (some el))) (safeText (routeEl.firstChildElement "path")))) := by
  unfold protocolServerFault at h
  cases hp : portFault ps with
  | some f =>
    have hbad : badPort ps := by
      by_contra hgood
      rw [portFault_none.2 hgood] at hp
      cases hp
    rw [hp, portFault_some hp] at h
    exact Or.inl ⟨hbad, (Option.some.inj h).symm⟩
  | none =>
    rw [hp, Option.map_none, Option.none_or] at h
    obtain ⟨err, herr, rfl⟩ := Option.map_eq_some_iff.1 h
    obtain ⟨pre, routeEl, post, hsplit, hfault, hpre⟩ := List.findSome?_eq_some_iff.1 herr
    obtain ⟨el, hel, rfl⟩ := requiredFault_some hfault
    refine Or.inr ⟨portFault_none.1 hp, routeEl, ⟨pre, post, hsplit, fun r hr => requiredFault_none.1 (hpre r hr)⟩, ?_, el,
      hel, rfl⟩
    by_contra hgood
    rw [requiredFault_none.2 hgood] at hfault
    cases hfault

/-- **The protocol-section loader is exact and fails closed.** -/
theorem protocol_section_exact (x : TinyXml) (u : Uninit) (root : XMLElement) (c : List ProtocolServerConfig) :
    (Stores x root (loadProtocolServerConfigurations x u root c) ∨
      ReturnsForPort root c (loadProtocolServerConfigurations x u root c) ∨
      ThrowsForRoute root c (loadProtocolServerConfigurations x u root c)) ∧
    ∀ serverAuth routeEl r r', RouteOf x serverAuth routeEl r → RouteOf x serverAuth routeEl r' → r = r' := by
  refine ⟨?_, fun _ _ _ _ => RouteOf.unique⟩
  have hexit := protocolServerLoop_exit x u root
  unfold loadProtocolServerConfigurations
  cases hl : protocolServerLoop x u root with
  | ok servers =>
    rw [hl, exitOf_ok] at hexit
    have hfaults := List.findSome?_eq_none_iff.1 hexit.symm
    exact Or.inl ⟨fun ps hps => wellFormed_iff.1 (hfaults ps hps), servers, rfl, loadProtocol_document hl⟩
  | error e =>
    rw [hl, exitOf_error] at hexit
    obtain ⟨pre, ps, post, hsplit, hfault, hpre⟩ := List.findSome?_eq_some_iff.1 hexit.symm
    have hfirst : Reached WellFormed (protocolServerElements root) ps :=
      ⟨pre, post, hsplit, fun q hq => wellFormed_iff.1 (hpre q hq)⟩
    rcases fault_cases hfault with ⟨hbad, rfl⟩ | ⟨hgood, routeEl, hroute, hbad, el, hel, rfl⟩
    · exact Or.inr (Or.inl ⟨ps, hfirst, hbad, rfl⟩)
    · exact Or.inr (Or.inr ⟨ps, hfirst, hgood, routeEl, hroute, hbad, el, _, hel, toLower_iff.1 rfl, rfl⟩)

end Asabru.ProtocolSection
