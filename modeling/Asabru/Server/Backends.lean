/-
Where the targets of the stored configuration come from.

A target is valid if it has a host and a port in range. A source says, for the name of an endpoint, which host and port
elements configure a service of it; a stored configuration is `Backed` by sources if each of its services is valid and
has the text and the number of one of them.

Results:
- `Backed.load`, `Backed.edit`: what a load and an update need for the result to be backed;
- `Backed.resolve`: what a backed configuration resolves to;
- `table_target`: a target of the table that a gateway end-point says.
-/
import Mathlib.Tactic
import Asabru.Config.DocumentEdit
import Asabru.Server.DocumentTable
import Asabru.Server.ServiceEdit

namespace Asabru.Server

open Asabru.Control Asabru.Xml Asabru.Config Asabru.Pipelines

/-! ## Targets and their sources -/

/-- a target that can be connected to -/
structure ValidTarget (host : String) (port : Int) : Prop where
  host : host ≠ ""
  port : portInRange port = true

/-- host and port elements that give a valid target -/
structure TargetGiven (x : TinyXml) (pHost pPort : Option XMLElement) : Prop where
  host : safeText pHost ≠ ""
  port : ∃ el n, pPort = some el ∧ x.queryIntText el = .ok n ∧ portInRange n = true

/-- by endpoint name: the host and port elements of a configured service -/
abbrev Sources := String → Option XMLElement → XMLElement → Prop

/-- the target is what one of the sources of the endpoint says -/
def ConfiguredBy (x : TinyXml) (src : Sources) (endPoint host : String) (port : Int) : Prop :=
  ∃ pHost pPort, src endPoint pHost pPort ∧ host = safeText pHost ∧ x.queryIntText pPort = .ok port

/-- each service is valid and configured -/
def Backed (x : TinyXml) (src : Sources) (c : ProxyConfig) : Prop :=
  ∀ e ∈ c.endPoints, ∀ service ∈ e.services, ValidTarget service.host service.port ∧
    ConfiguredBy x src e.endPointName service.host service.port

/-- the SERVICE elements of an END_POINT -/
def serviceElements (pEndPoint : XMLElement) : List XMLElement :=
  match pEndPoint.firstChildElement "SERVICES" with
  | none => []
  | some pServices => pServices.siblings "SERVICE"

section Backed

variable {x : TinyXml} {src src' : Sources}

theorem Backed.mono (hsrc : ∀ n pHost pPort, src n pHost pPort → src' n pHost pPort) {c : ProxyConfig}
    (h : Backed x src c) : Backed x src' c := by
  intro e he service hs
  obtain ⟨hvalid, pHost, pPort, hconf, hrest⟩ := h e he service hs
  exact ⟨hvalid, pHost, pPort, hsrc _ _ _ hconf, hrest⟩

/-- a target that elements give and say -/
theorem TargetGiven.target {pHost pPort : Option XMLElement} (h : TargetGiven x pHost pPort) {host : String} {port : Int}
    (hhost : host = safeText pHost) (hport : ∀ el, pPort = some el → x.queryIntText el = .ok port) {n : String}
    (hsrc : ∀ el, pPort = some el → src n pHost el) : ValidTarget host port ∧ ConfiguredBy x src n host port := by
  obtain ⟨el, m, hel, hread, hrange⟩ := h.port
  obtain rfl : m = port := Except.ok.inj (hread.symm.trans (hport el hel))
  exact ⟨⟨hhost ▸ h.host, hrange⟩, pHost, el, hsrc el hel, hhost, hread⟩

/-- **A loaded configuration** is backed by its document's services if they give valid targets. -/
theorem Backed.load {pRoot : XMLElement} {c : ProxyConfig} (h : Represents x pRoot c)
    (hgiven : ∀ pEndPoint ∈ documentEndPoints pRoot, ∀ pService ∈ serviceElements pEndPoint,
      TargetGiven x (pService.firstChildElement "HOST") (pService.firstChildElement "PORT"))
    (hsrc : ∀ pEndPoint ∈ documentEndPoints pRoot, ∀ pService ∈ serviceElements pEndPoint, ∀ pPort,
      pService.firstChildElement "PORT" = some pPort → src (nameOf pEndPoint) (pService.firstChildElement "HOST") pPort) :
    Backed x src c := by
  intro e he service hs
  obtain ⟨pEndPoint, hmem, hof⟩ := forall₂_right (endPoints_document h) he
  obtain ⟨pServices, hservices, hall⟩ := hof.services
  obtain ⟨pService, hin, hserviceOf⟩ := forall₂_right hall hs
  have hin : pService ∈ serviceElements pEndPoint := by
    unfold serviceElements
    rw [hservices]
    exact hin
  rw [hof.endPointName]
  exact (hgiven pEndPoint hmem pService hin).target hserviceOf.host hserviceOf.port (hsrc pEndPoint hmem pService hin)

/-- **An update** keeps a backed configuration backed, if what it adds to an endpoint that is there is valid and
configured. -/
theorem Backed.edit {req : EndPointServiceConfig} {cs cs' : List Cluster} (h : Backed x src ⟨cs⟩)
    (hc : editClusters req cs = some cs')
    (hadd : req.operation = "add" → (∃ e ∈ (ProxyConfig.mk cs).endPoints, e.endPointName = req.name) →
      ValidTarget req.service.host req.service.port ∧
        ConfiguredBy x src req.name req.service.host req.service.port) : Backed x src ⟨cs'⟩ := by
  obtain ⟨pre, endpoint, post, hedit⟩ := editClusters_some hc
  have hthere : endpoint ∈ (ProxyConfig.mk cs).endPoints := by
    rw [hedit.before]
    simp
  intro e he service hs
  rw [hedit.after, List.mem_append, List.mem_cons] at he
  rcases he with he | rfl | he
  · exact h e (by rw [hedit.before]; exact List.mem_append_left _ he) service hs
  · unfold editEndPoint at hs
    dsimp only at hs
    split_ifs at hs with hop
    · rcases List.mem_append.1 hs with hs | hs
      · exact h endpoint hthere service hs
      · obtain rfl := List.mem_singleton.1 hs
        obtain ⟨hvalid, hconf⟩ := hadd hop ⟨endpoint, hthere, hedit.named⟩
        exact ⟨hvalid, by rw [← hedit.named] at hconf; exact hconf⟩
    · exact h endpoint hthere service (List.mem_of_mem_filter hs)
  · exact h e (by rw [hedit.before]; exact List.mem_append_right _ (List.mem_cons_of_mem _ he)) service hs

/-- **What a backed configuration resolves to.** -/
theorem Backed.resolve {c : ProxyConfig} (h : Backed x src c) {lib : Lib} {w : World} {f f' : PipelineFactory}
    {cfgs : List ResolvedProxyConfig} (hres : resolveProxyServerConfigurations lib w c f = (.ok cfgs, f')) :
    ∀ cfg ∈ cfgs, ∀ service ∈ cfg.services, ValidTarget service.ipaddress service.port ∧
      ConfiguredBy x src cfg.name service.ipaddress service.port := by
  intro cfg hcfg service hs
  obtain ⟨e, he, hto⟩ := forall₂_right (resolveProxy_ok hres) hcfg
  rw [hto.services] at hs
  obtain ⟨stored, hstored, rfl⟩ := List.mem_map.1 hs
  rw [hto.name]
  exact h e he stored hstored

end Backed

/-! ## Gateway tables -/

/-- the target that a URI of an end-point says for a hostname and path -/
structure UriTargetOf (pEndPoint : XMLElement) (hostname path : String) (target : ResolvedService) : Prop where
  uri : ∃ pServices pService pUri pUriPort, pEndPoint.firstChildElement "services" = some pServices ∧
    pService ∈ pServices.siblings "service" ∧ pService.attribute "hostname" = some hostname ∧
    pUri ∈ pService.siblings "uri" ∧ pUri.attribute "path" = some path ∧
    target.ipaddress = safeText (pUri.firstChildElement "host") ∧ pUri.firstChildElement "port" = some pUriPort ∧
    optionalPort 0 (some pUriPort) = .ok target.port

theorem table_target {pEndPoint : XMLElement} (hgiven : gatewayEndPointGiven pEndPoint) {hostname path : String}
    {uriMap : String → Option ResolvedService} {target : ResolvedService}
    (hmap : (documentTable pEndPoint).2 hostname = some uriMap) (hpath : uriMap path = some target) :
    ValidTarget target.ipaddress target.port ∧ UriTargetOf pEndPoint hostname path target := by
  unfold documentTable at hmap
  cases hs : pEndPoint.firstChildElement "services" with
  | none => rw [hs] at hmap; cases hmap
  | some pServices =>
    rw [hs] at hmap
    obtain ⟨pService, hlast, rfl⟩ := Option.map_eq_some_iff.1 hmap
    obtain ⟨pUri, hfirst, htarget⟩ := Option.bind_eq_some_iff.1 hpath
    -- the last service of the hostname, and its first eligible URI for the path
    obtain ⟨hservice, hhostname⟩ := List.mem_filter.1 (List.mem_of_getLast? hlast)
    have huri := List.mem_of_find?_eq_some hfirst
    have heligible := List.find?_some hfirst
    simp only [uriEligible, Bool.and_eq_true, decide_eq_true_eq] at heligible
    obtain ⟨⟨hhost, hport⟩, hattr⟩ := heligible
    obtain ⟨el, hel⟩ := Option.ne_none_iff_exists'.1 (hgiven.uris pServices hs hostname path pService pUri hlast hfirst)
    unfold uriTarget at htarget
    rw [hel] at hport htarget
    unfold portEligible at hport
    cases hread : optionalPort 0 (some el) with
    | error e => rw [hread] at htarget; cases htarget
    | ok port =>
      rw [hread] at htarget
      simp only [hread] at hport
      obtain rfl := Option.some.inj htarget
      exact ⟨⟨hhost, hport⟩, pServices, pService, pUri, el, hs, hservice, by simpa using hhostname, huri, hattr, rfl,
        hel, hread⟩

end Asabru.Server
