/-
Service-update requests as documents: which are accepted, and how the request's record stands for its elements.

Results:
- `loadRequest_spec`: the record of an accepted request has the attributes and texts of its elements (`RequestOf`); its
  weight, and its port where there is no port element, are what the fields held;
- `loadRequest_isOk`: which requests are accepted (`requestOk`), a condition on the document alone;
- `loadRequest_exit`: so is how a refused one is refused.
-/
import Mathlib.Tactic
import Asabru.Config.Parse

namespace Asabru.Config

open Asabru.Control Asabru.Xml

/-- the document of a request's text, if it reads as one -/
def readRequest (x : TinyXml) (content : String) : Option XMLDocument :=
  if content = "" then none
  else
    match x.parse content with
    | .error _ => none
    | .ok doc => some doc

/-- the elements of a request that is accepted -/
structure requestOk (x : TinyXml) (doc : XMLDocument) (pEndPoint pService : XMLElement) : Prop where
  endPoint : doc.firstChildElement "end_point" = some pEndPoint
  operation : safeText (pEndPoint.firstChildElement "operation") = "add" ∨
    safeText (pEndPoint.firstChildElement "operation") = "delete"
  service : pEndPoint.firstChildElement "service" = some pService
  port : ∀ pPort, pService.firstChildElement "port" = some pPort → ∃ n, x.queryIntText pPort = .ok n

/-- the record of an accepted request, its fields starting with `u` -/
structure RequestOf (x : TinyXml) (u : ServiceUninit) (pEndPoint pService : XMLElement) (req : EndPointServiceConfig) :
    Prop where
  name : req.name = (pEndPoint.attribute "name").getD ""
  operation : req.operation = safeText (pEndPoint.firstChildElement "operation")
  serviceName : req.service.name = (pService.attribute "name").getD ""
  host : req.service.host = safeText (pService.firstChildElement "host")
  source_hostname : req.service.source_hostname = ""
  weight : req.service.weight = u.weight
  port : ∀ pPort, pService.firstChildElement "port" = some pPort → x.queryIntText pPort = .ok req.service.port
  noPort : pService.firstChildElement "port" = none → req.service.port = u.port

theorem parseRequest_isOk {x : TinyXml} {doc : XMLDocument} {pEndPoint pService : XMLElement}
    (h : requestOk x doc pEndPoint pService) (u : Uninit) :
    ∃ req, parseEndPointServiceConfiguration x u (some doc) = .ok req := by
  have hop : ¬ (safeText (pEndPoint.firstChildElement "operation") ≠ "add" ∧
      safeText (pEndPoint.firstChildElement "operation") ≠ "delete") := fun hne => h.operation.elim hne.1 hne.2
  simp only [parseEndPointServiceConfiguration, h.endPoint, if_neg hop, h.service]
  cases hp : pService.firstChildElement "port" with
  | none => exact ⟨_, rfl⟩
  | some pPort =>
    obtain ⟨n, hn⟩ := h.port pPort hp
    simp only [hn]
    exact ⟨_, rfl⟩

theorem parseRequest_spec {x : TinyXml} {u : Uninit} {doc : XMLDocument} {req : EndPointServiceConfig}
    (h : parseEndPointServiceConfiguration x u (some doc) = .ok req) :
    ∃ pEndPoint pService, requestOk x doc pEndPoint pService ∧ RequestOf x u.updateService pEndPoint pService req := by
  simp only [parseEndPointServiceConfiguration] at h
  cases he : doc.firstChildElement "end_point" with
  | none => simp only [he] at h; cases h
  | some pEndPoint =>
    simp only [he] at h
    split_ifs at h with hop
    have hvalid : safeText (pEndPoint.firstChildElement "operation") = "add" ∨
        safeText (pEndPoint.firstChildElement "operation") = "delete" := by
      by_contra hne
      exact hop (not_or.1 hne)
    cases hs : pEndPoint.firstChildElement "service" with
    | none => simp only [hs] at h; cases h
    | some pService =>
      simp only [hs] at h
      cases hport : pService.firstChildElement "port" with
      | none =>
        simp only [hport, Except.ok.injEq] at h
        subst h
        have hnone : ∀ p, pService.firstChildElement "port" ≠ some p := by
          intro p hp
          cases hport.symm.trans hp
        exact ⟨pEndPoint, pService, ⟨he, hvalid, hs, fun p hp => absurd hp (hnone p)⟩, rfl, rfl, rfl, rfl, rfl, rfl,
          fun p hp => absurd hp (hnone p), fun _ => rfl⟩
      | some pPort =>
        cases hq : x.queryIntText pPort with
        | error f => simp only [hport, hq] at h; cases h
        | ok port =>
          simp only [hport, hq, Except.ok.injEq] at h
          subst h
          have hread : ∀ p, pService.firstChildElement "port" = some p → x.queryIntText p = .ok port := by
            intro p hp
            obtain rfl := Option.some.inj (hport.symm.trans hp)
            exact hq
          exact ⟨pEndPoint, pService, ⟨he, hvalid, hs, fun p hp => ⟨port, hread p hp⟩⟩, rfl, rfl, rfl, rfl, rfl, rfl, hread,
            fun hnone => absurd (hport.symm.trans hnone) (Option.some_ne_none pPort)⟩

theorem parseRequest_exit (x : TinyXml) (u u' : Uninit) (doc : Option XMLDocument) :
    exitOf (parseEndPointServiceConfiguration x u doc) = exitOf (parseEndPointServiceConfiguration x u' doc) := by
  cases doc with
  | none => rfl
  | some d =>
    simp only [parseEndPointServiceConfiguration]
    cases d.firstChildElement "end_point" with
    | none => rfl
    | some pEndPoint =>
      dsimp only
      split_ifs
      · rfl
      · cases pEndPoint.firstChildElement "service" with
        | none => rfl
        | some pService =>
          dsimp only
          cases pService.firstChildElement "port" with
          | none => rfl
          | some pPort =>
            dsimp only
            cases x.queryIntText pPort <;> rfl

/-! ## Texts -/

/-- **How a request is refused** does not depend on what its fields held. -/
theorem loadRequest_exit (x : TinyXml) (u u' : Uninit) (content : String) :
    exitOf (loadEndpointServiceFromString x u content) = exitOf (loadEndpointServiceFromString x u' content) := by
  unfold loadEndpointServiceFromString
  split_ifs
  · rfl
  · cases x.parse content with
    | error f => rfl
    | ok doc => exact parseRequest_exit x u u' (some doc)

/-- a text that reads as a document is parsed as it is -/
theorem loadRequest_read {x : TinyXml} {content : String} {doc : XMLDocument} (h : readRequest x content = some doc)
    (u : Uninit) : loadEndpointServiceFromString x u content = parseEndPointServiceConfiguration x u (some doc) := by
  unfold readRequest at h
  unfold loadEndpointServiceFromString
  split_ifs at h ⊢
  cases hp : x.parse content with
  | error f => rw [hp] at h; cases h
  | ok d =>
    rw [hp] at h
    rw [Option.some.inj h]

theorem loadRequest_doc {x : TinyXml} {u : Uninit} {content : String} {req : EndPointServiceConfig}
    (h : loadEndpointServiceFromString x u content = .ok req) : ∃ doc, readRequest x content = some doc := by
  unfold loadEndpointServiceFromString at h
  unfold readRequest
  split_ifs at h ⊢
  cases hp : x.parse content with
  | error f => rw [hp] at h; cases h
  | ok d => exact ⟨d, rfl⟩

/-- **The record of an accepted request.** -/
theorem loadRequest_spec {x : TinyXml} {u : Uninit} {content : String} {req : EndPointServiceConfig}
    (h : loadEndpointServiceFromString x u content = .ok req) : ∃ doc pEndPoint pService, readRequest x content = some doc ∧
      requestOk x doc pEndPoint pService ∧ RequestOf x u.updateService pEndPoint pService req := by
  obtain ⟨doc, hdoc⟩ := loadRequest_doc h
  rw [loadRequest_read hdoc] at h
  obtain ⟨pEndPoint, pService, hok, hof⟩ := parseRequest_spec h
  exact ⟨doc, pEndPoint, pService, hdoc, hok, hof⟩

/-- **Acceptance of a request** is a condition on the document alone. -/
theorem loadRequest_isOk (x : TinyXml) (u : Uninit) (content : String) :
    (∃ req, loadEndpointServiceFromString x u content = .ok req) ↔
      ∃ doc pEndPoint pService, readRequest x content = some doc ∧ requestOk x doc pEndPoint pService := by
  constructor
  · rintro ⟨req, h⟩
    obtain ⟨doc, pEndPoint, pService, hdoc, hok, -⟩ := loadRequest_spec h
    exact ⟨doc, pEndPoint, pService, hdoc, hok⟩
  · rintro ⟨doc, pEndPoint, pService, hdoc, hok⟩
    rw [loadRequest_read hdoc]
    exact parseRequest_isOk hok u

/-- one text has one pair of elements -/
theorem requestOk.unique {x : TinyXml} {doc : XMLDocument} {pEndPoint pService pEndPoint' pService' : XMLElement}
    (h : requestOk x doc pEndPoint pService) (h' : requestOk x doc pEndPoint' pService') :
    pEndPoint = pEndPoint' ∧ pService = pService' := by
  obtain rfl := Option.some.inj (h.endPoint.symm.trans h'.endPoint)
  exact ⟨rfl, Option.some.inj (h.service.symm.trans h'.service)⟩

end Asabru.Config
