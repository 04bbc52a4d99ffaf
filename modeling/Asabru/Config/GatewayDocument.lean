/-
The API-gateway section as a document: which end-points the loader accepts, and where it is left otherwise.

The loader leaves at the first end-point that it does not accept. What it leaves by depends on what it reads first: an
end-point's name, port and pipeline come before its services, and a service's hostname before its uris.

Results:
- `loadGatewayEndPoint_isOk`, `gatewayLoop_isOk`: the loader accepts exactly the end-points with a name, readable port
  and pipeline, and services that are all well formed (`gatewayEndPointOk`);
- `UriOf`, `GatewayServiceOf`, `GatewayEndPointOf`: the records of accepted elements;
- `gatewayLoop_undefined`: a null pointer is used as a string exactly when an end-point that the loader gets to is null
  at a place that it reads (`endPointNull`);
- `gatewayLoop_hangs`: the loop is endless exactly when an end-point that the loader gets to has readable name, port and
  pipeline and no services.
-/
import Mathlib.Tactic
import Asabru.Config.GatewayLoader

namespace Asabru.Config

open Asabru.Control Asabru.Xml

/-- the end-point elements of a document root, none without a section -/
def gatewayElements (pRoot : XMLElement) : List XMLElement :=
  match pRoot.firstChildElement "api-gateway-server-config" with
  | none => []
  | some pApiGatewayConfig => pApiGatewayConfig.siblings "end-point"

/-! ## What is accepted -/

/-- if the element is there, it has a text -/
def textGiven (el : Option XMLElement) : Prop := ∀ e, el = some e → e.getText.isSome

/-- if the element is there, its text reads as an integer -/
def portReads (el : Option XMLElement) : Prop := ∀ e, el = some e → ∃ t n, e.getText = some t ∧ stoi t = .ok n

structure uriOk (pUri : XMLElement) : Prop where
  path : (pUri.attribute "path").isSome
  host : textGiven (pUri.firstChildElement "host")
  port : portReads (pUri.firstChildElement "port")

structure gatewayServiceOk (pService : XMLElement) : Prop where
  hostname : (pService.attribute "hostname").isSome
  uris : ∀ pUri ∈ pService.siblings "uri", uriOk pUri

/-- what is read of an end-point before its services -/
structure endPointHeadOk (pEndPoint : XMLElement) : Prop where
  name : (pEndPoint.attribute "name").isSome
  port : portReads (pEndPoint.firstChildElement "port")
  pipeline : textGiven (pEndPoint.firstChildElement "pipeline")

def gatewayEndPointOk (pEndPoint : XMLElement) : Prop :=
  endPointHeadOk pEndPoint ∧ ∃ pServices, pEndPoint.firstChildElement "services" = some pServices ∧
    ∀ pService ∈ pServices.siblings "service", gatewayServiceOk pService

theorem asString_isOk (t : Option String) : (∃ s, asString t = .ok s) ↔ t.isSome := by
  cases t <;> simp [asString]

theorem optionalText_isOk (el : Option XMLElement) : (∃ s, optionalText el = .ok s) ↔ textGiven el := by
  cases el with
  | none => simp [optionalText, textGiven]
  | some e => simpa [optionalText, textGiven] using asString_isOk e.getText

theorem optionalPort_isOk (n : Int) (el : Option XMLElement) : (∃ v, optionalPort n el = .ok v) ↔ portReads el := by
  unfold optionalPort portReads
  cases el with
  | none => simp
  | some e =>
    cases ht : e.getText with
    | none => simp [asString, ht]
    | some t => cases hs : stoi t <;> simp [asString, ht, hs]

theorem loadUri_isOk (u : Int) (e : XMLElement) : (∃ uri, loadUri u e = .ok uri) ↔ uriOk e := by
  unfold loadUri
  simp only [bind_ok_iff]
  constructor
  · rintro ⟨-, path, hpath, host, hhost, port, hport, -⟩
    exact ⟨(asString_isOk _).1 ⟨path, hpath⟩, (optionalText_isOk _).1 ⟨host, hhost⟩,
      (optionalPort_isOk u _).1 ⟨port, hport⟩⟩
  · rintro ⟨hpath, hhost, hport⟩
    obtain ⟨path, hpath⟩ := (asString_isOk _).2 hpath
    obtain ⟨host, hhost⟩ := (optionalText_isOk _).2 hhost
    obtain ⟨port, hport⟩ := (optionalPort_isOk u _).2 hport
    exact ⟨_, path, hpath, host, hhost, port, hport, rfl⟩

theorem loadGatewayService_isOk (u : ℕ → Int) (e : XMLElement) :
    (∃ service, loadGatewayService u e = .ok service) ↔ gatewayServiceOk e := by
  unfold loadGatewayService
  simp only [bind_ok_iff]
  constructor
  · rintro ⟨-, hostname, hhostname, uris, huris, -⟩
    exact ⟨(asString_isOk _).1 ⟨hostname, hhostname⟩, (forEach_isOk loadUri_isOk u _).1 ⟨uris, huris⟩⟩
  · rintro ⟨hhostname, huris⟩
    obtain ⟨hostname, hhostname⟩ := (asString_isOk _).2 hhostname
    obtain ⟨uris, huris⟩ := (forEach_isOk loadUri_isOk u _).2 huris
    exact ⟨_, hostname, hhostname, uris, huris, rfl⟩

/-- after a readable head, only the services decide -/
theorem loadGatewayEndPoint_head {e : XMLElement} (h : endPointHeadOk e) (u : GatewayEndPointUninit) :
    ∃ name port pipeline, loadGatewayEndPoint u e =
      match e.firstChildElement "services" with
      | none => .error .hangs
      | some pServices => (forEach loadGatewayService u.uris (pServices.siblings "service")).map fun services =>
        { name := name, port := port, pipeline := pipeline, services := services } := by
  obtain ⟨name, hname⟩ := (asString_isOk _).2 h.name
  obtain ⟨port, hport⟩ := (optionalPort_isOk u.port _).2 h.port
  obtain ⟨pipeline, hpipeline⟩ := (optionalText_isOk _).2 h.pipeline
  refine ⟨name, port, pipeline, ?_⟩
  unfold loadGatewayEndPoint
  rw [hname, hport, hpipeline]
  cases hs : e.firstChildElement "services" with
  | none => rfl
  | some pServices =>
    dsimp only
    cases forEach loadGatewayService u.uris (pServices.siblings "service") <;> rfl

/-- an end-point that is accepted has a readable head -/
theorem loadGatewayEndPoint_ok_head {u : GatewayEndPointUninit} {e : XMLElement} {p : ApiGatewayEndPoint}
    (h : loadGatewayEndPoint u e = .ok p) : endPointHeadOk e := by
  unfold loadGatewayEndPoint at h
  obtain ⟨name, hname, h⟩ := bind_ok_iff.1 h
  obtain ⟨port, hport, h⟩ := bind_ok_iff.1 h
  obtain ⟨pipeline, hpipeline, -⟩ := bind_ok_iff.1 h
  exact ⟨(asString_isOk _).1 ⟨name, hname⟩, (optionalPort_isOk _ _).1 ⟨port, hport⟩,
    (optionalText_isOk _).1 ⟨pipeline, hpipeline⟩⟩

theorem loadGatewayEndPoint_isOk (u : GatewayEndPointUninit) (e : XMLElement) :
    (∃ p, loadGatewayEndPoint u e = .ok p) ↔ gatewayEndPointOk e := by
  have hbody : endPointHeadOk e → ((∃ p, loadGatewayEndPoint u e = .ok p) ↔
      ∃ pServices, e.firstChildElement "services" = some pServices ∧
        ∀ pService ∈ pServices.siblings "service", gatewayServiceOk pService) := by
    intro h
    obtain ⟨name, port, pipeline, heq⟩ := loadGatewayEndPoint_head h u
    rw [heq]
    cases e.firstChildElement "services" with
    | none => simp
    | some pServices =>
      simp only [Option.some.injEq, exists_eq_left', ← forEach_isOk loadGatewayService_isOk u.uris]
      cases forEach loadGatewayService u.uris (pServices.siblings "service") <;> simp [Except.map]
  constructor
  · rintro ⟨p, hp⟩
    have hhead := loadGatewayEndPoint_ok_head hp
    exact ⟨hhead, (hbody hhead).1 ⟨p, hp⟩⟩
  · rintro ⟨hhead, hservices⟩
    exact (hbody hhead).2 hservices

/-- **The loop over end-points runs to its end** iff every end-point is accepted. -/
theorem gatewayLoop_isOk (u : Uninit) (pRoot : XMLElement) :
    (∃ g, gatewayLoop u pRoot = .ok g) ↔ pRoot.firstChildElement "api-gateway-server-config" ≠ none ∧
      ∀ pEndPoint ∈ gatewayElements pRoot, gatewayEndPointOk pEndPoint := by
  unfold gatewayLoop gatewayElements
  cases pRoot.firstChildElement "api-gateway-server-config" with
  | none => simp
  | some el =>
    dsimp only
    rw [← forEach_isOk loadGatewayEndPoint_isOk u.gatewayEndPoints]
    cases forEach loadGatewayEndPoint u.gatewayEndPoints (el.siblings "end-point") <;> simp

/-- it returns, with or without a section, iff no end-point keeps it from that -/
theorem gatewayLoop_returns_iff (u : Uninit) (pRoot : XMLElement) :
    Returns (gatewayLoop u pRoot) ↔ ∀ pEndPoint ∈ gatewayElements pRoot, gatewayEndPointOk pEndPoint := by
  by_cases hs : pRoot.firstChildElement "api-gateway-server-config" = none
  · rw [gatewayLoop_absent hs]
    simp [Returns, gatewayElements, hs]
  · constructor
    · intro hr
      exact ((gatewayLoop_isOk u pRoot).1 (gatewayLoop_present hr hs)).2
    · intro h
      obtain ⟨g, hg⟩ := (gatewayLoop_isOk u pRoot).2 ⟨hs, h⟩
      rw [hg]
      exact fun _ he => (by cases he)

/-- an exit of the loop over end-points is an exit of the loader -/
theorem gatewayLoop_error {u : Uninit} {pRoot : XMLElement} {e : Ending XMLFailure} (he : ∀ f, e ≠ .ret f) :
    gatewayLoop u pRoot = .error e ↔ forEach loadGatewayEndPoint u.gatewayEndPoints (gatewayElements pRoot) = .error e := by
  unfold gatewayLoop gatewayElements
  cases pRoot.firstChildElement "api-gateway-server-config" with
  | none => simpa [forEach] using (he parsingElement).symm
  | some el =>
    dsimp only
    cases forEach loadGatewayEndPoint u.gatewayEndPoints (el.siblings "end-point") <;> simp

/-! ## Records and their elements -/

/-- the record of a uri element, its port field starting with `u` -/
structure UriOf (u : Int) (pUri : XMLElement) (uri : ApiGatewayUri) : Prop where
  path : pUri.attribute "path" = some uri.path
  host : uri.host = safeText (pUri.firstChildElement "host")
  port : optionalPort u (pUri.firstChildElement "port") = .ok uri.port

/-- the record of a service element -/
structure GatewayServiceOf (u : ℕ → Int) (pService : XMLElement) (service : ApiGatewayService) : Prop where
  hostname : pService.attribute "hostname" = some service.hostname
  uris : forEach loadUri u (pService.siblings "uri") = .ok service.uris

/-- the record of an end-point element -/
structure GatewayEndPointOf (u : GatewayEndPointUninit) (pEndPoint : XMLElement) (endpoint : ApiGatewayEndPoint) :
    Prop where
  name : pEndPoint.attribute "name" = some endpoint.name
  port : optionalPort u.port (pEndPoint.firstChildElement "port") = .ok endpoint.port
  pipeline : endpoint.pipeline = safeText (pEndPoint.firstChildElement "pipeline")
  services : ∃ pServices, pEndPoint.firstChildElement "services" = some pServices ∧
    forEach loadGatewayService u.uris (pServices.siblings "service") = .ok endpoint.services

theorem asString_ok {t : Option String} {s : String} (h : asString t = .ok s) : t = some s := by
  cases t with
  | none => cases h
  | some t => exact congrArg some (Except.ok.inj h)

theorem optionalText_ok {el : Option XMLElement} {s : String} (h : optionalText el = .ok s) : s = safeText el := by
  cases el with
  | none => exact (Except.ok.inj h).symm
  | some e =>
    simp only [safeText, asString_ok h, Option.getD_some]

theorem loadUri_spec {u : Int} {e : XMLElement} {uri : ApiGatewayUri} (h : loadUri u e = .ok uri) : UriOf u e uri := by
  obtain ⟨path, hpath, h⟩ := bind_ok_iff.1 h
  obtain ⟨host, hhost, h⟩ := bind_ok_iff.1 h
  obtain ⟨port, hport, h⟩ := bind_ok_iff.1 h
  cases h
  exact ⟨asString_ok hpath, optionalText_ok hhost, hport⟩

theorem loadGatewayService_spec {u : ℕ → Int} {e : XMLElement} {service : ApiGatewayService}
    (h : loadGatewayService u e = .ok service) : GatewayServiceOf u e service := by
  obtain ⟨hostname, hhostname, h⟩ := bind_ok_iff.1 h
  obtain ⟨uris, huris, h⟩ := bind_ok_iff.1 h
  cases h
  exact ⟨asString_ok hhostname, huris⟩

theorem loadGatewayEndPoint_spec {u : GatewayEndPointUninit} {e : XMLElement} {endpoint : ApiGatewayEndPoint}
    (h : loadGatewayEndPoint u e = .ok endpoint) : GatewayEndPointOf u e endpoint := by
  obtain ⟨name, hname, h⟩ := bind_ok_iff.1 h
  obtain ⟨port, hport, h⟩ := bind_ok_iff.1 h
  obtain ⟨pipeline, hpipeline, h⟩ := bind_ok_iff.1 h
  cases hs : e.firstChildElement "services" with
  | none => rw [hs] at h; cases h
  | some pServices =>
    rw [hs] at h
    obtain ⟨services, hservices, h⟩ := bind_ok_iff.1 h
    cases h
    exact ⟨asString_ok hname, hport, optionalText_ok hpipeline, pServices, hs, hservices⟩

/-- the end-points of an accepted section -/
theorem gatewayLoop_endpoints {u : Uninit} {pRoot : XMLElement} {g : ApiGatewayServerConfig}
    (h : gatewayLoop u pRoot = .ok g) :
    forEach loadGatewayEndPoint u.gatewayEndPoints (gatewayElements pRoot) = .ok g.endpoints := by
  unfold gatewayLoop at h
  unfold gatewayElements
  cases hs : pRoot.firstChildElement "api-gateway-server-config" with
  | none => rw [hs] at h; cases h
  | some el =>
    rw [hs] at h
    dsimp only at h ⊢
    cases hl : forEach loadGatewayEndPoint u.gatewayEndPoints (el.siblings "end-point") with
    | error e => rw [hl] at h; cases h
    | ok endpoints => rw [hl] at h; cases h; rfl

/-! ## Where a null pointer is used -/

def uriNull (pUri : XMLElement) : Prop :=
  pUri.attribute "path" = none ∨ ¬ textGiven (pUri.firstChildElement "host") ∨ ¬ textGiven (pUri.firstChildElement "port")

/-- its hostname, or a uri that the loader gets to -/
def gatewayServiceNull (pService : XMLElement) : Prop :=
  pService.attribute "hostname" = none ∨ ∃ pUri, Reached uriOk (pService.siblings "uri") pUri ∧ uriNull pUri

/-- its name, its port, its pipeline after a readable port, or a service that the loader gets to after a readable head -/
def endPointNull (pEndPoint : XMLElement) : Prop :=
  pEndPoint.attribute "name" = none ∨ ¬ textGiven (pEndPoint.firstChildElement "port") ∨
  (portReads (pEndPoint.firstChildElement "port") ∧ ¬ textGiven (pEndPoint.firstChildElement "pipeline")) ∨
  (endPointHeadOk pEndPoint ∧ ∃ pServices, pEndPoint.firstChildElement "services" = some pServices ∧
    ∃ pService, Reached gatewayServiceOk (pServices.siblings "service") pService ∧ gatewayServiceNull pService)

theorem asString_undefined {t : Option String} : asString t = .error .undefined ↔ t = none := by
  cases t <;> simp [asString]

theorem optionalText_undefined {el : Option XMLElement} :
    optionalText el = .error .undefined ↔ ¬ textGiven el := by
  cases el with
  | none => simp [optionalText, textGiven]
  | some e => simp [optionalText, textGiven, asString_undefined]

theorem optionalPort_undefined {n : Int} {el : Option XMLElement} :
    optionalPort n el = .error .undefined ↔ ¬ textGiven el := by
  unfold optionalPort textGiven
  cases el with
  | none => simp
  | some e =>
    cases ht : e.getText with
    | none => simp [asString, ht]
    | some t => cases hs : stoi t <;> simp [asString, ht, hs]

theorem loadUri_undefined (u : Int) (e : XMLElement) : loadUri u e = .error .undefined ↔ uriNull e := by
  unfold loadUri uriNull
  simp only [bind_error_iff, asString_undefined, optionalText_undefined, optionalPort_undefined]
  constructor
  · rintro (h | ⟨path, -, h | ⟨host, -, h | ⟨port, -, h⟩⟩⟩)
    · exact Or.inl h
    · exact Or.inr (Or.inl h)
    · exact Or.inr (Or.inr h)
    · cases h
  · intro h
    cases hp : e.attribute "path" with
    | none => exact Or.inl rfl
    | some path =>
      refine Or.inr ⟨path, rfl, ?_⟩
      by_cases hhost : textGiven (e.firstChildElement "host")
      · obtain ⟨host, hhost'⟩ := (optionalText_isOk _).2 hhost
        rw [hp] at h
        exact Or.inr ⟨host, hhost', Or.inl ((h.resolve_left nofun).resolve_left (not_not_intro hhost))⟩
      · exact Or.inl hhost

theorem loadGatewayService_undefined (u : ℕ → Int) (e : XMLElement) :
    loadGatewayService u e = .error .undefined ↔ gatewayServiceNull e := by
  have hloop := forEach_left (· = Ending.undefined) loadUri_isOk
    (fun i a => by rw [exists_eq_left]; exact loadUri_undefined i a) u (e.siblings "uri")
  rw [exists_eq_left] at hloop
  unfold loadGatewayService gatewayServiceNull
  simp only [bind_error_iff, asString_undefined, hloop]
  constructor
  · rintro (h | ⟨hostname, -, h | ⟨uris, -, h⟩⟩)
    · exact Or.inl h
    · exact Or.inr h
    · cases h
  · rintro (h | h)
    · exact Or.inl h
    · cases hn : e.attribute "hostname" with
      | none => exact Or.inl rfl
      | some hostname => exact Or.inr ⟨hostname, rfl, Or.inl h⟩

theorem loadGatewayEndPoint_undefined (u : GatewayEndPointUninit) (e : XMLElement) :
    loadGatewayEndPoint u e = .error .undefined ↔ endPointNull e := by
  have hloop := fun el : XMLElement => forEach_left (· = Ending.undefined) loadGatewayService_isOk
    (fun i a => by rw [exists_eq_left]; exact loadGatewayService_undefined i a) u.uris (el.siblings "service")
  simp only [exists_eq_left] at hloop
  by_cases hhead : endPointHeadOk e
  · -- nothing is null before the services
    obtain ⟨name, port, pipeline, heq⟩ := loadGatewayEndPoint_head hhead u
    have hbefore : endPointNull e ↔ ∃ pServices, e.firstChildElement "services" = some pServices ∧
        ∃ pService, Reached gatewayServiceOk (pServices.siblings "service") pService ∧ gatewayServiceNull pService := by
      constructor
      · rintro (h | h | ⟨-, h⟩ | ⟨-, h⟩)
        · have := hhead.name
          rw [h] at this
          cases this
        · exact absurd (fun el hel => by obtain ⟨t, n, ht, -⟩ := hhead.port el hel; rw [ht]; rfl) h
        · exact absurd hhead.pipeline h
        · exact h
      · intro h
        exact Or.inr (Or.inr (Or.inr ⟨hhead, h⟩))
    rw [heq, hbefore]
    cases e.firstChildElement "services" with
    | none => simp
    | some pServices =>
      simp only [Option.some.injEq, exists_eq_left', ← hloop]
      cases forEach loadGatewayService u.uris (pServices.siblings "service") <;> simp [Except.map]
  · unfold loadGatewayEndPoint endPointNull
    simp only [bind_error_iff, asString_undefined, optionalText_undefined, optionalPort_undefined]
    constructor
    · rintro (h | ⟨name, hname, h | ⟨port, hport, h | ⟨pipeline, hpipeline, -⟩⟩⟩)
      · exact Or.inl h
      · exact Or.inr (Or.inl h)
      · exact Or.inr (Or.inr (Or.inl ⟨(optionalPort_isOk u.port _).1 ⟨port, hport⟩, h⟩))
      · exact absurd ⟨(asString_isOk _).1 ⟨name, hname⟩, (optionalPort_isOk u.port _).1 ⟨port, hport⟩,
          (optionalText_isOk _).1 ⟨pipeline, hpipeline⟩⟩ hhead
    · intro h
      cases hn : e.attribute "name" with
      | none => exact Or.inl rfl
      | some name =>
        refine Or.inr ⟨name, rfl, ?_⟩
        rcases h with h | h | ⟨hport, h⟩ | ⟨h, -⟩
        · rw [hn] at h
          cases h
        · exact Or.inl h
        · obtain ⟨port, hport⟩ := (optionalPort_isOk u.port _).2 hport
          exact Or.inr ⟨port, hport, Or.inl h⟩
        · exact absurd h hhead

/-- **A null pointer is used** iff an end-point that the loader gets to is null where it is read. -/
theorem gatewayLoop_undefined (u : Uninit) (pRoot : XMLElement) : gatewayLoop u pRoot = .error .undefined ↔
    ∃ pEndPoint, Reached gatewayEndPointOk (gatewayElements pRoot) pEndPoint ∧ endPointNull pEndPoint := by
  have hloop := forEach_left (· = Ending.undefined) loadGatewayEndPoint_isOk
    (fun i a => by rw [exists_eq_left]; exact loadGatewayEndPoint_undefined i a) u.gatewayEndPoints
    (gatewayElements pRoot)
  rw [exists_eq_left] at hloop
  rw [gatewayLoop_error (by simp), hloop]

/-! ## Where the loop is endless -/

theorem asString_hangs (t : Option String) : asString t ≠ .error .hangs := by
  cases t <;> exact nofun

theorem optionalText_hangs (el : Option XMLElement) : optionalText el ≠ .error .hangs := by
  cases el with
  | none => exact nofun
  | some e => exact asString_hangs e.getText

theorem optionalPort_hangs (n : Int) (el : Option XMLElement) : optionalPort n el ≠ .error .hangs := by
  unfold optionalPort
  cases el with
  | none => exact nofun
  | some e =>
    cases ht : e.getText with
    | none => simp [asString, ht]
    | some t => cases hs : stoi t <;> simp [asString, ht, hs]

theorem loadUri_hangs (u : Int) (e : XMLElement) : loadUri u e ≠ .error .hangs := by
  intro h
  rcases bind_error h with h | ⟨path, -, h⟩
  · exact asString_hangs _ h
  rcases bind_error h with h | ⟨host, -, h⟩
  · exact optionalText_hangs _ h
  rcases bind_error h with h | ⟨port, -, h⟩
  · exact optionalPort_hangs _ _ h
  cases h

theorem loadGatewayService_hangs (u : ℕ → Int) (e : XMLElement) : loadGatewayService u e ≠ .error .hangs := by
  intro h
  rcases bind_error h with h | ⟨hostname, -, h⟩
  · exact asString_hangs _ h
  rcases bind_error h with h | ⟨uris, -, h⟩
  · obtain ⟨i, a, -, ha⟩ := forEach_error h
    exact loadUri_hangs i a ha
  cases h

theorem loadGatewayEndPoint_hangs (u : GatewayEndPointUninit) (e : XMLElement) :
    loadGatewayEndPoint u e = .error .hangs ↔ endPointHeadOk e ∧ e.firstChildElement "services" = none := by
  constructor
  · intro h
    rcases bind_error h with h | ⟨name, hname, h⟩
    · exact absurd h (asString_hangs _)
    rcases bind_error h with h | ⟨port, hport, h⟩
    · exact absurd h (optionalPort_hangs _ _)
    rcases bind_error h with h | ⟨pipeline, hpipeline, h⟩
    · exact absurd h (optionalText_hangs _)
    refine ⟨⟨(asString_isOk _).1 ⟨name, hname⟩, (optionalPort_isOk u.port _).1 ⟨port, hport⟩,
      (optionalText_isOk _).1 ⟨pipeline, hpipeline⟩⟩, ?_⟩
    cases hs : e.firstChildElement "services" with
    | none => rfl
    | some pServices =>
      rw [hs] at h
      rcases bind_error h with h | ⟨services, -, h⟩
      · obtain ⟨i, a, -, ha⟩ := forEach_error h
        exact absurd ha (loadGatewayService_hangs i a)
      cases h
  · rintro ⟨hhead, hs⟩
    obtain ⟨name, port, pipeline, heq⟩ := loadGatewayEndPoint_head hhead u
    rw [heq, hs]

/-- **The loop is endless** iff an end-point that the loader gets to has a readable head and no services. -/
theorem gatewayLoop_hangs (u : Uninit) (pRoot : XMLElement) : gatewayLoop u pRoot = .error .hangs ↔
    ∃ pEndPoint, Reached gatewayEndPointOk (gatewayElements pRoot) pEndPoint ∧ endPointHeadOk pEndPoint ∧
      pEndPoint.firstChildElement "services" = none := by
  have hloop := forEach_left (· = Ending.hangs) loadGatewayEndPoint_isOk
    (fun i a => by rw [exists_eq_left]; exact loadGatewayEndPoint_hangs i a) u.gatewayEndPoints (gatewayElements pRoot)
  rw [exists_eq_left] at hloop
  rw [gatewayLoop_error (by simp), hloop]

end Asabru.Config
