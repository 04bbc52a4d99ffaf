/-
THE REPLY TO A RELOAD: what `updateConfiguration` answers about the document it was given.

Three things decide it: how the load ends, whether the proxy configuration in force afterwards resolves, and nothing else.
A code that the load returns is dropped, so a document that was rejected, in part or as a whole, is answered by the
outcome of re-applying what is stored.

- `reload_error_iff`, `reload_ok`, `reload_resolves`: when the reply is an error, and when it is ok;
- `honest_reply_iff`: at every state and for every content, ok is answered only for an acceptable document that is then
  what is stored, and error for every other content, exactly when (1) an acceptable document has a gateway section, or no
  gateway is stored, or its proxies do not resolve, and (2) content that is not acceptable makes the load throw, or makes
  it return and the proxy configuration then in force fails to resolve.
Counterexample: `empty_reload_is_ok`.
-/
import Mathlib.Tactic
import Asabru.Server.Process

namespace Asabru.ReloadReply

open Asabru.Control Asabru.Xml Asabru.Config Asabru.Pipelines Asabru.Server

/-! ## The property -/

/-- the three loaders accept the document; an absent section counts as accepted -/
structure Acceptable (x : TinyXml) (u : Uninit) (pRoot : XMLElement) : Prop where
  protocol : protocolSectionOk pRoot
  proxy : proxySectionOk x pRoot
  gateway : pRoot.firstChildElement "api-gateway-server-config" = none ∨ ∃ g, gatewayLoop u pRoot = .ok g

/-- the configurations that an acceptable document describes; an absent section is empty -/
def described (x : TinyXml) (u : Uninit) (pRoot : XMLElement) : Configs := storedConfigs x u pRoot Configs.empty

/-- the content is a document with the root element and acceptable sections -/
def AcceptableContent (x : TinyXml) (u : Uninit) (content : String) : Prop :=
  ∃ pRoot, readRoot content x.parse = some pRoot ∧ Acceptable x u pRoot

/-- ok means that the document is installed, and everything else is answered by error -/
structure HonestReply (lib : Lib) (w : World) (content : String) (s : State) : Prop where
  installed : ∀ r t, updateConfiguration lib w content s = (.ret r, t) → r.status = .ok →
    ∃ pRoot, readRoot content lib.xml.parse = some pRoot ∧ Acceptable lib.xml w.uninit pRoot ∧
      t.configs = described lib.xml w.uninit pRoot
  refused : ¬ AcceptableContent lib.xml w.uninit content →
    ∃ r t, updateConfiguration lib w content s = (.ret r, t) ∧ r.status = .error

/-! ## How a reload ends -/

/-- no loader of the document throws, hangs or runs into undefined behaviour; content without the root has none -/
def LoadReturns (x : TinyXml) (u : Uninit) (content : String) : Prop :=
  ∀ pRoot, readRoot content x.parse = some pRoot →
    Returns (protocolServerLoop x u pRoot) ∧ Returns (gatewayLoop u pRoot)

/-- the protocol loader throws, or the gateway loader after the protocol loader returned -/
def LoadThrows (x : TinyXml) (u : Uninit) (content : String) : Prop :=
  ∃ pRoot what, readRoot content x.parse = some pRoot ∧
    (protocolServerLoop x u pRoot = .error (.throws (.std what)) ∨
      Returns (protocolServerLoop x u pRoot) ∧ gatewayLoop u pRoot = .error (.throws (.std what)))

/-- the proxy configuration in force after the load: the document's if its section is accepted -/
def proxyInForce (x : TinyXml) (u : Uninit) (content : String) (m_ProxyConfig : ProxyConfig) : ProxyConfig :=
  match readRoot content x.parse with
  | none => m_ProxyConfig
  | some pRoot => (loadProxyServerConfigurations x u pRoot m_ProxyConfig).2

/-- how the proxy configuration in force after the load fails to resolve, if it does -/
def failureAfter (lib : Lib) (w : World) (content : String) (s : State) : Option Exn :=
  exitOf (resolveProxyServerConfigurations lib w
    (proxyInForce lib.xml w.uninit content s.configs.m_ProxyConfig) s.pipelineFactory).1

section Reload

variable {lib : Lib} {w : World} {content : String} {s : State}

/-- the load of content without the root returns a code and changes nothing -/
theorem load_rootless (h : readRoot content lib.xml.parse = none) :
    ∃ code, s.loadFromString lib w content = (.ret code, s) := by
  obtain ⟨code, -, hl⟩ : ∃ code, code ≠ .success ∧ ∀ c,
      loadConfigurationsFromString lib.xml w.uninit content c = (.ret code, c) := load_none h
  refine ⟨code, ?_⟩
  unfold State.loadFromString
  rw [hl]

theorem load_ret_iff : (∃ code, (s.loadFromString lib w content).1 = .ret code) ↔
    LoadReturns lib.xml w.uninit content := by
  unfold LoadReturns
  cases hr : readRoot content lib.xml.parse with
  | none =>
    obtain ⟨code, hl⟩ := load_rootless (s := s) (w := w) hr
    exact ⟨fun _ _ h => (nomatch h), fun _ => ⟨code, by rw [hl]⟩⟩
  | some pRoot =>
    rw [loadFromString_root hr]
    constructor
    · rintro ⟨code, hc⟩ pRoot' hr'
      obtain rfl := Option.some.inj hr'
      obtain ⟨hp, hg, -⟩ := parseRoot_ret.1 (Prod.ext hc rfl)
      exact ⟨hp, hg⟩
    · intro h
      obtain ⟨hp, hg⟩ := h pRoot rfl
      exact ⟨.success, congrArg Prod.fst (parseRoot_ret.2 ⟨hp, hg, rfl, rfl⟩)⟩

theorem load_throws_iff : (∃ what, (s.loadFromString lib w content).1 = .throws (.std what)) ↔
    LoadThrows lib.xml w.uninit content := by
  unfold LoadThrows
  cases hr : readRoot content lib.xml.parse with
  | none =>
    obtain ⟨code, hl⟩ := load_rootless (s := s) (w := w) hr
    rw [hl]
    exact ⟨fun ⟨_, h⟩ => (nomatch h), fun ⟨_, _, h, _⟩ => (nomatch h)⟩
  | some pRoot =>
    rw [loadFromString_root hr]
    rcases protocolServerLoop_cases lib.xml w.uninit pRoot with hp | ⟨err, hp⟩
    · rw [parseRoot_returns hp]
      simp only [gatewayEnding_throws]
      constructor
      · rintro ⟨what, hg⟩
        exact ⟨pRoot, what, rfl, Or.inr ⟨hp, hg⟩⟩
      · rintro ⟨pRoot', what, hr', hthrow⟩
        obtain rfl := Option.some.inj hr'
        rcases hthrow with hthrow | ⟨-, hg⟩
        · obtain ⟨f, hf⟩ := hp _ hthrow
          cases hf
        · exact ⟨what, hg⟩
    · rw [parseRoot_throws hp]
      constructor
      · rintro ⟨what, he⟩
        obtain rfl := Ending.throws.inj he
        exact ⟨pRoot, what, rfl, Or.inl hp⟩
      · rintro ⟨pRoot', what, hr', hthrow⟩
        obtain rfl := Option.some.inj hr'
        rcases hthrow with hthrow | ⟨hret, -⟩
        · rw [hp] at hthrow
          exact ⟨what, congrArg Ending.throws (Ending.throws.inj (Except.error.inj hthrow))⟩
        · obtain ⟨f, hf⟩ := hret _ hp
          cases hf

/-- a load that returns leaves the proxy configuration in force, and what the three loaders leave -/
theorem load_returned {code : XMLError} {t : State} (hl : s.loadFromString lib w content = (.ret code, t)) :
    resolutionFailure lib w t = failureAfter lib w content s ∧
      ∀ pRoot, readRoot content lib.xml.parse = some pRoot →
        t.configs = storedConfigs lib.xml w.uninit pRoot s.configs := by
  unfold failureAfter proxyInForce
  cases hr : readRoot content lib.xml.parse with
  | none =>
    obtain ⟨code', hl'⟩ := load_rootless (s := s) (w := w) hr
    rw [hl] at hl'
    rw [(Prod.mk.inj hl').2]
    exact ⟨rfl, fun _ h => (nomatch h)⟩
  | some pRoot =>
    rw [loadFromString_root hr] at hl
    obtain ⟨hcode, ht⟩ := Prod.mk.inj hl
    have hc : t.configs = storedConfigs lib.xml w.uninit pRoot s.configs := by
      rw [← ht]
      exact (parseRoot_ret.1 (Prod.ext hcode rfl)).2.2.2
    refine ⟨?_, fun pRoot' hr' => ?_⟩
    · unfold resolutionFailure
      rw [hc, ← ht]
      rfl
    · obtain rfl := Option.some.inj hr'
      exact hc

/-- **A reload is answered by error** exactly when the load throws, or returns and what is in force does not resolve. -/
theorem reload_error_iff : (∃ r t, updateConfiguration lib w content s = (.ret r, t) ∧ r.status = .error) ↔
    LoadThrows lib.xml w.uninit content ∨
      LoadReturns lib.xml w.uninit content ∧ ∃ what, failureAfter lib w content s = some (.std what) := by
  rw [← load_throws_iff (s := s), ← load_ret_iff (s := s), updateConfiguration_eq]
  rcases hl : s.loadFromString lib w content with ⟨e, t⟩
  cases e with
  | ret code =>
    have hending := updateProxyServers_ending lib w t
    rw [(load_returned hl).1] at hending
    constructor
    · rintro ⟨r, t', heq, hr⟩
      refine Or.inr ⟨⟨code, rfl⟩, ?_⟩
      simp only at heq
      rw [heq] at hending
      cases hf : failureAfter lib w content s with
      | none => rw [hf] at hending; cases hending; cases hr
      | some err =>
        rw [hf] at hending
        cases err with
        | std what => exact ⟨what, rfl⟩
        | other => cases hending
    · rintro (⟨what, h⟩ | ⟨-, what, hf⟩)
      · cases h
      · rw [hf] at hending
        exact ⟨errorReply what, _, Prod.ext hending rfl, rfl⟩
  | throws err =>
    cases err with
    | std what => exact ⟨fun _ => Or.inl ⟨what, rfl⟩, fun _ => ⟨errorReply what, t, rfl, rfl⟩⟩
    | other => simp
  | hangs => simp
  | undefined => simp

/-- **A reload that is answered by ok** was loaded by loaders that returned, and what is in force resolved; it leaves the
stored configurations as the load did. -/
theorem reload_ok {r : Reply} {t : State} (hcall : updateConfiguration lib w content s = (.ret r, t))
    (hok : r.status = .ok) : LoadReturns lib.xml w.uninit content ∧ failureAfter lib w content s = none ∧
      ∀ pRoot, readRoot content lib.xml.parse = some pRoot →
        t.configs = storedConfigs lib.xml w.uninit pRoot s.configs := by
  obtain ⟨code, u, hl, hf, hupdated⟩ := updateConfiguration_acknowledged hcall hok
  obtain ⟨hfail, hconfigs⟩ := load_returned hl
  rw [← load_ret_iff (s := s), hl]
  exact ⟨⟨code, rfl⟩, hfail.symm.trans hf, fun pRoot hr => hupdated.configs.trans (hconfigs pRoot hr)⟩

/-- loaders that return and a configuration in force that resolves are answered by ok -/
theorem reload_resolves (hret : LoadReturns lib.xml w.uninit content) (hf : failureAfter lib w content s = none) :
    ∃ t, updateConfiguration lib w content s = (.ret updatedReply, t) := by
  obtain ⟨code, hcode⟩ := (load_ret_iff (s := s)).2 hret
  rw [updateConfiguration_eq]
  rcases hl : s.loadFromString lib w content with ⟨e, t⟩
  rw [hl] at hcode
  obtain rfl := hcode
  have hending := updateProxyServers_ending lib w t
  rw [(load_returned hl).1, hf] at hending
  exact ⟨_, Prod.ext hending rfl⟩

/-! ## The condition -/

/-- when the reply says what happened -/
structure ReplyMatches (lib : Lib) (w : World) (content : String) (s : State) : Prop where
  /-- an acceptable document replaces the stored gateway configuration, or there is none to replace -/
  installed : ∀ pRoot, readRoot content lib.xml.parse = some pRoot → Acceptable lib.xml w.uninit pRoot →
    pRoot.firstChildElement "api-gateway-server-config" ≠ none ∨ s.configs.m_ApiGatewayServerConfig = ⟨[]⟩ ∨
      failureAfter lib w content s ≠ none
  /-- other content makes a loader throw, or what is in force does not resolve -/
  refused : ¬ AcceptableContent lib.xml w.uninit content → LoadThrows lib.xml w.uninit content ∨
    LoadReturns lib.xml w.uninit content ∧ ∃ what, failureAfter lib w content s = some (.std what)

/-- an acceptable document is stored as described iff it has a gateway section or no gateway is stored -/
theorem stored_iff_described {x : TinyXml} {u : Uninit} {pRoot : XMLElement} (h : Acceptable x u pRoot) (c : Configs) :
    storedConfigs x u pRoot c = described x u pRoot ↔
      pRoot.firstChildElement "api-gateway-server-config" ≠ none ∨ c.m_ApiGatewayServerConfig = ⟨[]⟩ := by
  obtain ⟨v, hv⟩ := protocol_ok_of_section (x := x) (u := u) h.protocol
  have hproxy := loadProxy_accepted (u := u) h.proxy c.m_ProxyConfig Configs.empty.m_ProxyConfig
  unfold described storedConfigs
  simp only [loadProtocolServerConfigurations, loadApiGatewayConfigurations, assignAfter_ok hv, hproxy,
    Configs.mk.injEq, true_and]
  by_cases habsent : pRoot.firstChildElement "api-gateway-server-config" = none
  · rw [assignAfter_error (gatewayLoop_absent habsent), assignAfter_error (gatewayLoop_absent habsent)]
    simp [habsent, Configs.empty]
  · obtain ⟨g, hg⟩ := h.gateway.resolve_left habsent
    rw [assignAfter_ok hg, assignAfter_ok hg]
    simp [habsent]

/-- an acceptable document makes the load return -/
theorem acceptable_returns {pRoot : XMLElement} (hr : readRoot content lib.xml.parse = some pRoot)
    (h : Acceptable lib.xml w.uninit pRoot) : LoadReturns lib.xml w.uninit content := by
  intro pRoot' hr'
  obtain rfl := Option.some.inj (hr.symm.trans hr')
  obtain ⟨v, hv⟩ := protocol_ok_of_section (x := lib.xml) (u := w.uninit) h.protocol
  refine ⟨fun e he => ?_, fun e he => ?_⟩
  · rw [hv] at he
    cases he
  · rcases h.gateway with habsent | ⟨g, hg⟩
    · rw [gatewayLoop_absent habsent] at he
      exact ⟨parsingElement, (Except.error.inj he).symm⟩
    · rw [hg] at he
      cases he

/-- **The reply to a reload says what happened, exactly when it matches** (`ReplyMatches`), at every state. -/
theorem honest_reply_iff (lib : Lib) (w : World) (content : String) (s : State) :
    HonestReply lib w content s ↔ ReplyMatches lib w content s := by
  constructor
  · rintro ⟨hinstalled, hrefused⟩
    refine ⟨fun pRoot hr hacc => ?_, fun hnot => reload_error_iff.1 (hrefused hnot)⟩
    by_cases hf : failureAfter lib w content s = none
    · obtain ⟨t, hcall⟩ := reload_resolves (acceptable_returns hr hacc) hf
      obtain ⟨-, -, hstored⟩ := reload_ok hcall rfl
      obtain ⟨pRoot', hr', -, hdescribed⟩ := hinstalled _ t hcall rfl
      obtain rfl := Option.some.inj (hr.symm.trans hr')
      have := (stored_iff_described hacc s.configs).1 ((hstored pRoot hr).symm.trans hdescribed)
      exact this.imp_right Or.inl
    · exact Or.inr (Or.inr hf)
  · rintro ⟨hinstalled, hrefused⟩
    refine ⟨fun r t hcall hok => ?_, fun hnot => reload_error_iff.2 (hrefused hnot)⟩
    obtain ⟨-, hf, hstored⟩ := reload_ok hcall hok
    by_cases hacc : AcceptableContent lib.xml w.uninit content
    · obtain ⟨pRoot, hr, hacc⟩ := hacc
      refine ⟨pRoot, hr, hacc, ?_⟩
      rw [hstored pRoot hr]
      refine (stored_iff_described hacc s.configs).2 ?_
      rcases hinstalled pRoot hr hacc with h | h | h
      · exact Or.inl h
      · exact Or.inr h
      · exact absurd hf h
    · -- other content is answered by error
      obtain ⟨r', t', hcall', herr⟩ := reload_error_iff.2 (hrefused hacc)
      rw [hcall] at hcall'
      obtain rfl := Ending.ret.inj (Prod.mk.inj hcall').1
      rw [hok] at herr
      cases herr

end Reload

/-- a running process -/
def running : List (String × XMLDocument) :=
  [("config.xml", endPointsDocument [endPointElement "a" "Pipeline" "" [("a1", "10.0.0.1")]])]

/-- the empty string and a text that is not XML are both answered by ok, and nothing is loaded -/
theorem empty_reload_is_ok :
    (startProcess (.plain (.table running)) (fun _ => .calm) "config.xml").isSome ∧
    (updateConfiguration (.plain (.table running)) .calm "" (plainProcess running)).1 = .ret updatedReply ∧
    (updateConfiguration (.plain (.table running)) .calm "<broken" (plainProcess running)).1 = .ret updatedReply ∧
    ¬ HonestReply (.plain (.table running)) .calm "" (plainProcess running) := by
  have hreply : (updateConfiguration (.plain (.table running)) .calm "" (plainProcess running)).1 =
      .ret updatedReply := by decide
  refine ⟨by decide, hreply, by decide, fun h => ?_⟩
  obtain ⟨pRoot, hr, -⟩ := h.installed updatedReply _ (Prod.ext hreply rfl) rfl
  have hnone : readRoot "" (Lib.plain (.table running)).xml.parse = none := rfl
  rw [hnone] at hr
  cases hr

end Asabru.ReloadReply
