/-
The routing table of an API-gateway end-point, as its element says.

The table is built from loaded records. A URI without a port element has whatever its field held, so it is eligible for
its path as far as the document goes; a URI with an empty host, or with a port out of range, is not, whatever it holds.

Results:
- `hostMap_document`: where the first eligible URI of each path gives a port, the table is the one that the document
  says (`documentHostMap`), for any arbitrary values;
- `hostMap_distinguishes`: an end-point whose port and table are the same for two different values in range is such a one.
-/
import Mathlib.Tactic
import Asabru.Config.GatewayDocument
import Asabru.Config.Indeterminate
import Asabru.Server.GatewayServer

namespace Asabru.Server

open Asabru.Control Asabru.Xml Asabru.Config

/-! ## The document's side -/

/-- the port is not given, or it is in range -/
def portEligible (pUriPort : Option XMLElement) : Bool :=
  match pUriPort with
  | none => true
  | some el =>
    match optionalPort 0 (some el) with
    | .error _ => false
    | .ok port => portInRange port

/-- a URI that the document does not rule out for a path -/
def uriEligible (path : String) (pUri : XMLElement) : Bool :=
  safeText (pUri.firstChildElement "host") ≠ "" && portEligible (pUri.firstChildElement "port") &&
    pUri.attribute "path" = some path

def firstEligible (pService : XMLElement) (path : String) : Option XMLElement :=
  (pService.siblings "uri").find? (uriEligible path)

/-- the last service with a hostname -/
def lastServiceElement (pServices : XMLElement) (hostname : String) : Option XMLElement :=
  ((pServices.siblings "service").filter fun el => el.attribute "hostname" = some hostname).getLast?

/-- the target that a URI with a port stands for -/
def uriTarget (pUri : XMLElement) : Option ResolvedService :=
  match optionalPort 0 (pUri.firstChildElement "port") with
  | .error _ => none
  | .ok port => some (resolveUri ⟨"", safeText (pUri.firstChildElement "host"), port⟩)

/-- the table that the document says -/
def documentHostMap (pServices : XMLElement) : HostMap := fun hostname =>
  (lastServiceElement pServices hostname).map fun pService path => (firstEligible pService path).bind uriTarget

/-- in the last service of each hostname, the first eligible URI of each path gives a port -/
def uriPortsGiven (pServices : XMLElement) : Prop :=
  ∀ hostname path pService pUri, lastServiceElement pServices hostname = some pService →
    firstEligible pService path = some pUri → pUri.firstChildElement "port" ≠ none

/-- an end-point that gives its port and the ports of the URIs that it routes to -/
structure gatewayEndPointGiven (pEndPoint : XMLElement) : Prop where
  port : pEndPoint.firstChildElement "port" ≠ none
  uris : ∀ pServices, pEndPoint.firstChildElement "services" = some pServices → uriPortsGiven pServices

/-! ## Loaded records -/

/-- a usable URI is eligible, and an eligible one that gives a port is usable -/
theorem usable_eligible {u : Int} {pUri : XMLElement} {uri : ApiGatewayUri} (h : UriOf u pUri uri) (path : String) :
    ((uriUsable uri && uri.path = path) = true → uriEligible path pUri = true) ∧
      (pUri.firstChildElement "port" ≠ none ∨ portInRange u = true →
        uriEligible path pUri = (uriUsable uri && decide (uri.path = path))) := by
  have hpath : decide (pUri.attribute "path" = some path) = decide (uri.path = path) := by
    simp only [h.path, Option.some.injEq]
  cases hp : pUri.firstChildElement "port" with
  | none =>
    have hport : u = uri.port := by simpa [hp, optionalPort] using h.port
    unfold uriEligible uriUsable
    rw [hp, hpath, ← h.host, ← hport]
    constructor
    · intro husable
      simp only [Bool.and_eq_true, decide_eq_true_eq] at husable ⊢
      exact ⟨⟨husable.1.1.1, rfl⟩, husable.2⟩
    · rintro (habs | hu)
      · exact absurd rfl habs
      · unfold portInRange at hu
        simp [portEligible, hu, Bool.and_assoc]
  | some el =>
    have hport : optionalPort 0 (some el) = .ok uri.port := by
      rw [← h.port, hp]
      rfl
    have heq : uriEligible path pUri = (uriUsable uri && decide (uri.path = path)) := by
      unfold uriEligible uriUsable
      rw [hp, hpath, ← h.host]
      simp only [portEligible, hport, portInRange, Bool.and_assoc]
    exact ⟨fun hu => heq.trans hu, fun _ => heq⟩

theorem uriTarget_of {u : Int} {pUri : XMLElement} {uri : ApiGatewayUri} (h : UriOf u pUri uri)
    (hp : pUri.firstChildElement "port" ≠ none) : uriTarget pUri = some (resolveUri uri) := by
  unfold uriTarget
  rw [optionalPort_given hp 0 u, h.port, ← h.host]
  rfl

/-- the first usable URI is the first eligible one, if that one gives a port -/
theorem firstUsable_given {els : List XMLElement} {u : ℕ → Int} {uris : List ApiGatewayUri} {path : String}
    (h : forEach loadUri u els = .ok uris)
    (hgiven : ∀ pUri, els.find? (uriEligible path) = some pUri → pUri.firstChildElement "port" ≠ none) :
    (firstUsable uris path).map resolveUri = (els.find? (uriEligible path)).bind uriTarget := by
  induction els generalizing u uris with
  | nil => cases h; rfl
  | cons el els ih =>
    obtain ⟨uri, uris', huri, hrest, rfl⟩ := forEach_cons_ok h
    have hof := loadUri_spec huri
    obtain ⟨himp, heq⟩ := usable_eligible hof path
    unfold firstUsable at ih ⊢
    cases he : uriEligible path el with
    | true =>
      have hfirst : (el :: els).find? (uriEligible path) = some el := List.find?_cons_of_pos he
      have hp := hgiven el hfirst
      have husable : (uriUsable uri && decide (uri.path = path)) = true := (heq (Or.inl hp)).symm.trans he
      rw [hfirst, List.find?_cons_of_pos (p := fun uri : ApiGatewayUri => uriUsable uri && uri.path = path) husable,
        Option.bind_some, uriTarget_of hof hp]
      rfl
    | false =>
      have hne : ¬ uriEligible path el = true := by simp [he]
      have hskip : ¬ (uriUsable uri && decide (uri.path = path)) = true := fun hu => hne (himp hu)
      rw [List.find?_cons_of_neg hne] at hgiven ⊢
      rw [List.find?_cons_of_neg (p := fun uri : ApiGatewayUri => uriUsable uri && uri.path = path) hskip]
      exact ih hrest hgiven

/-- a service of a hostname is the record of the element with it -/
theorem hostname_of {P : (ℕ → Int) → Prop} {pService : XMLElement} {service : ApiGatewayService}
    (h : ∃ u, P u ∧ loadGatewayService u pService = .ok service) (hostname : String) :
    decide (pService.attribute "hostname" = some hostname) = decide (service.hostname = hostname) := by
  obtain ⟨u, -, h⟩ := h
  simp only [(loadGatewayService_spec h).hostname, Option.some.injEq]

/-- the last service with a hostname is the record of the last element with it -/
theorem lastService_document {P : (ℕ → Int) → Prop} {els : List XMLElement} {services : List ApiGatewayService}
    (h : List.Forall₂ (fun el service => ∃ u, P u ∧ loadGatewayService u el = .ok service) els services)
    (hostname : String) :
    ((els.filter fun el => el.attribute "hostname" = some hostname).getLast? = none ∧
      lastService services hostname = none) ∨
    ∃ pService service, (els.filter fun el => el.attribute "hostname" = some hostname).getLast? = some pService ∧
      lastService services hostname = some service ∧ ∃ u, P u ∧ loadGatewayService u pService = .ok service :=
  forall₂_last (p := fun el : XMLElement => decide (el.attribute "hostname" = some hostname))
    (q := fun service : ApiGatewayService => decide (service.hostname = hostname))
    (fun _ _ hload => hostname_of hload hostname) h

/-- **The table is the document's**, whatever the fields held, where the document gives the ports that it routes to. -/
theorem hostMap_document {pServices : XMLElement} {u : ℕ → ℕ → Int} {services : List ApiGatewayService}
    (h : forEach loadGatewayService u (pServices.siblings "service") = .ok services) (hgiven : uriPortsGiven pServices) :
    hostMapOf services = documentHostMap pServices := by
  funext hostname
  rw [hostMapOf_apply]
  unfold documentHostMap
  rcases lastService_document (forEach_ok_of (P := fun _ => True) (fun _ => trivial) h) hostname with
    ⟨hel, hservice⟩ | ⟨pService, service, hel, hservice, v, -, hload⟩
  · rw [hservice, lastServiceElement, hel]
    rfl
  · rw [hservice, lastServiceElement, hel]
    refine congrArg some (funext fun path => ?_)
    rw [uriMapOf_apply]
    exact firstUsable_given (loadGatewayService_spec hload).uris fun pUri hp => hgiven hostname path pService pUri hel hp

/-- the port and table that an end-point's element says -/
def documentTable (pEndPoint : XMLElement) : Int × HostMap :=
  (match optionalPort 0 (pEndPoint.firstChildElement "port") with
    | .ok port => port
    | .error _ => 0,
    match pEndPoint.firstChildElement "services" with
    | none => fun _ => none
    | some pServices => documentHostMap pServices)

theorem endPoint_document {u : GatewayEndPointUninit} {pEndPoint : XMLElement} {endpoint : ApiGatewayEndPoint}
    (h : loadGatewayEndPoint u pEndPoint = .ok endpoint) (hgiven : gatewayEndPointGiven pEndPoint) :
    (endpoint.port, hostMapOf endpoint.services) = documentTable pEndPoint := by
  have hof := loadGatewayEndPoint_spec h
  obtain ⟨pServices, hs, hl⟩ := hof.services
  unfold documentTable
  rw [optionalPort_given hgiven.port 0 u.port, hof.port, hs, hostMap_document hl (hgiven.uris pServices hs)]

/-! ## Two values -/

/-- a table entry whose URI does not give a port has the value that the field held -/
theorem uriMap_const {pService : XMLElement} {n : Int} (hn : portInRange n = true) {service : ApiGatewayService}
    (h : loadGatewayService (fun _ => n) pService = .ok service) {path : String} {pUri : XMLElement}
    (hp : firstEligible pService path = some pUri) (habs : pUri.firstChildElement "port" = none) :
    ∃ target, uriMapOf service path = some target ∧ target.port = n := by
  have huris := forEach_ok_of (P := (· = n)) (fun _ => rfl) (loadGatewayService_spec h).uris
  have hagree : ∀ (el : XMLElement) (uri : ApiGatewayUri), (∃ i, i = n ∧ loadUri i el = .ok uri) →
      uriEligible path el = (uriUsable uri && decide (uri.path = path)) := by
    rintro el uri ⟨i, rfl, hi⟩
    exact (usable_eligible (loadUri_spec hi) path).2 (Or.inr hn)
  rw [uriMapOf_apply]
  unfold firstEligible at hp
  rcases forall₂_find hagree huris with ⟨hnone, -⟩ | ⟨el, uri, hel, huri, i, rfl, hi⟩
  · rw [hnone] at hp
    cases hp
  · obtain rfl : el = pUri := Option.some.inj (hel.symm.trans hp)
    refine ⟨resolveUri uri, congrArg (Option.map resolveUri) huri, ?_⟩
    have hport := (loadUri_spec hi).port
    rw [habs] at hport
    exact (Except.ok.inj hport).symm

/-- **An end-point with one port and table for two values gives the ports that it routes to.** -/
theorem hostMap_distinguishes {n m : Int} (hnm : n ≠ m) (hn : portInRange n = true) (hm : portInRange m = true)
    {pEndPoint : XMLElement} {endpoint endpoint' : ApiGatewayEndPoint}
    (h : loadGatewayEndPoint ⟨n, fun _ _ => n⟩ pEndPoint = .ok endpoint)
    (h' : loadGatewayEndPoint ⟨m, fun _ _ => m⟩ pEndPoint = .ok endpoint') (hport : endpoint.port = endpoint'.port)
    (htable : hostMapOf endpoint.services = hostMapOf endpoint'.services) : gatewayEndPointGiven pEndPoint := by
  have hof := loadGatewayEndPoint_spec h
  have hof' := loadGatewayEndPoint_spec h'
  refine ⟨fun habs => hnm ?_, fun pServices hs hostname path pService pUri hlast hfirst habs => hnm ?_⟩
  · have hp := hof.port
    have hp' := hof'.port
    rw [habs] at hp hp'
    rw [show n = endpoint.port from Except.ok.inj hp, hport]
    exact (Except.ok.inj hp').symm
  · obtain ⟨_, hs₁, hl⟩ := hof.services
    obtain ⟨_, hs₂, hl'⟩ := hof'.services
    obtain rfl := Option.some.inj (hs.symm.trans hs₁)
    obtain rfl := Option.some.inj (hs.symm.trans hs₂)
    -- the entry of the hostname and path in each table
    have hentry : ∀ (k : Int) (services : List ApiGatewayService), portInRange k = true →
        forEach loadGatewayService (fun _ _ => k) (pServices.siblings "service") = .ok services →
        ∃ target, (hostMapOf services hostname).bind (fun uriMap => uriMap path) = some target ∧ target.port = k := by
      intro k services hk hload
      rcases lastService_document (forEach_ok_of (P := (· = fun _ => k)) (fun _ => rfl) hload) hostname with
        ⟨hel, -⟩ | ⟨el, service, hel, hservice, v, rfl, hv⟩
      · rw [lastServiceElement, hel] at hlast
        cases hlast
      · obtain rfl : el = pService := Option.some.inj (hel.symm.trans hlast)
        obtain ⟨target, htarget, hk⟩ := uriMap_const hk hv hfirst habs
        exact ⟨target, by rw [hostMapOf_apply, hservice]; exact htarget, hk⟩
    obtain ⟨target, ht, hn'⟩ := hentry n endpoint.services hn hl
    obtain ⟨target', ht', hm'⟩ := hentry m endpoint'.services hm hl'
    rw [htable] at ht
    rw [← hn', ← hm', Option.some.inj (ht.symm.trans ht')]

end Asabru.Server
