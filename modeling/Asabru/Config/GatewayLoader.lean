/-
ApiGatewayConfigParser.cpp: the loader of the API-gateway section.

Unlike the other two it assigns the results of `Attribute` and `GetText` to strings and hands them to `std::stoi` without
a null check (undefined behaviour on null), lets the exceptions of `std::stoi` out, and skips an end-point without
services by a `continue` that does not advance the cursor: the same element is then examined again, with the same
result, for ever (`hangs`).

Results:
- `gatewayLoop_returns`: the loader returns a failing code exactly when the section is absent; every other rejection is
  an exception, undefined behaviour or a hang.
-/
import Mathlib.Tactic
import Asabru.Config.Xml
import Asabru.Config.Types
import Asabru.Config.ProxyLoader

namespace Asabru.Config

open Asabru.Control Asabru.Xml

/-- a `const char *` used as a `std::string` -/
def asString (text : Option String) : Except (Ending XMLFailure) String :=
  match text with
  | some t => .ok t
  | none => .error .undefined

/-- a text element that is read only if it is there; without it the string stays empty -/
def optionalText (el : Option XMLElement) : Except (Ending XMLFailure) String :=
  match el with
  | none => .ok ""
  | some e => asString e.getText

/-- a port element that is read only if it is there; without it the field keeps what it held -/
def optionalPort (port : Int) (el : Option XMLElement) : Except (Ending XMLFailure) Int :=
  match el with
  | none => .ok port
  | some e =>
    match asString e.getText with
    | .error err => .error err
    | .ok text =>
      match stoi text with
      | .error err => .error (.throws err)
      | .ok v => .ok v

/-- body of the uri loop -/
def loadUri (u : Int) (pUri : XMLElement) : Except (Ending XMLFailure) ApiGatewayUri := do
  let path ← asString (pUri.attribute "path")
  let host ← optionalText (pUri.firstChildElement "host")
  let port ← optionalPort u (pUri.firstChildElement "port")
  return { path := path, host := host, port := port }

/-- body of the service loop -/
def loadGatewayService (u : ℕ → Int) (pService : XMLElement) : Except (Ending XMLFailure) ApiGatewayService := do
  let hostname ← asString (pService.attribute "hostname")
  let uris ← forEach loadUri u (pService.siblings "uri")
  return { hostname := hostname, uris := uris }

/-- body of the end-point loop -/
def loadGatewayEndPoint (u : GatewayEndPointUninit) (pEndPoint : XMLElement) :
    Except (Ending XMLFailure) ApiGatewayEndPoint := do
  let name ← asString (pEndPoint.attribute "name")
  let port ← optionalPort u.port (pEndPoint.firstChildElement "port")
  let pipeline ← optionalText (pEndPoint.firstChildElement "pipeline")
  match pEndPoint.firstChildElement "services" with
  -- `continue` with the cursor where it is
  | none => .error .hangs
  | some pServices =>
    let services ← forEach loadGatewayService u.uris (pServices.siblings "service")
    return { name := name, port := port, pipeline := pipeline, services := services }

/-- without the section's element the loader returns `XML_ERROR_PARSING_ELEMENT` -/
def gatewayLoop (u : Uninit) (pRoot : XMLElement) : Except (Ending XMLFailure) ApiGatewayServerConfig :=
  match pRoot.firstChildElement "api-gateway-server-config" with
  | none => .error (.ret parsingElement)
  | some pApiGatewayConfig =>
    match forEach loadGatewayEndPoint u.gatewayEndPoints (pApiGatewayConfig.siblings "end-point") with
    | .error e => .error e
    | .ok endpoints => .ok { endpoints := endpoints }

def loadApiGatewayConfigurations (u : Uninit) (pRoot : XMLElement) (config : ApiGatewayServerConfig) :
    Ending XMLError × ApiGatewayServerConfig :=
  assignAfter (gatewayLoop u pRoot) config

/-- `ApiGatewayConfigParser::ParseConfiguration`: the loader's code is dropped -/
def apiGatewayParseConfiguration (u : Uninit) (pRoot : XMLElement) (config : ApiGatewayServerConfig) :
    Ending XMLError × ApiGatewayServerConfig :=
  andThen (loadApiGatewayConfigurations u pRoot config) fun _ config' => (.ret .success, config')

/-! ## How the loops are left -/

/-- an exit other than a returned code -/
def Leaves (e : Ending XMLFailure) : Prop := ∀ f, e ≠ .ret f

/-- a null text, a port that is no number, or a section that the walk never gets past -/
inductive GatewayExit : Ending XMLFailure → Prop where
  | nullText : GatewayExit .undefined
  | port : GatewayExit (.throws stoiInvalid)
  | stuck : GatewayExit .hangs

theorem GatewayExit.leaves {e : Ending XMLFailure} (h : GatewayExit e) : Leaves e := by
  intro f heq
  subst heq
  cases h

theorem asString_exits {t : Option String} {e : Ending XMLFailure} (h : asString t = .error e) : GatewayExit e := by
  cases t <;> cases h
  exact .nullText

theorem optionalText_exits {el : Option XMLElement} {e : Ending XMLFailure} (h : optionalText el = .error e) :
    GatewayExit e := by
  cases el with
  | none => cases h
  | some a => exact asString_exits h

theorem optionalPort_exits {n : Int} {el : Option XMLElement} {e : Ending XMLFailure}
    (h : optionalPort n el = .error e) : GatewayExit e := by
  unfold optionalPort at h
  split at h
  · cases h
  · split at h
    · cases h; exact asString_exits ‹_›
    · split at h <;> cases h
      rename_i hs
      rw [stoi_error hs]
      exact .port

theorem loadUri_exits {u : Int} {el : XMLElement} {e : Ending XMLFailure} (h : loadUri u el = .error e) :
    GatewayExit e := by
  rcases bind_error h with h | ⟨path, -, h⟩
  · exact asString_exits h
  rcases bind_error h with h | ⟨host, -, h⟩
  · exact optionalText_exits h
  rcases bind_error h with h | ⟨port, -, h⟩
  · exact optionalPort_exits h
  cases h

theorem loadGatewayService_exits {u : ℕ → Int} {el : XMLElement} {e : Ending XMLFailure}
    (h : loadGatewayService u el = .error e) : GatewayExit e := by
  rcases bind_error h with h | ⟨hostname, -, h⟩
  · exact asString_exits h
  rcases bind_error h with h | ⟨uris, -, h⟩
  · obtain ⟨i, a, -, ha⟩ := forEach_error h
    exact loadUri_exits ha
  cases h

theorem loadGatewayEndPoint_exits {u : GatewayEndPointUninit} {el : XMLElement} {e : Ending XMLFailure}
    (h : loadGatewayEndPoint u el = .error e) : GatewayExit e := by
  rcases bind_error h with h | ⟨name, -, h⟩
  · exact asString_exits h
  rcases bind_error h with h | ⟨port, -, h⟩
  · exact optionalPort_exits h
  rcases bind_error h with h | ⟨pipeline, -, h⟩
  · exact optionalText_exits h
  split at h
  · cases h
    exact .stuck
  · rcases bind_error h with h | ⟨services, -, h⟩
    · obtain ⟨i, a, -, ha⟩ := forEach_error h
      exact loadGatewayService_exits ha
    cases h

/-- **The gateway loader returns a failing code exactly when the section is absent.** -/
theorem gatewayLoop_returns {u : Uninit} {pRoot : XMLElement} {f : XMLFailure}
    (h : gatewayLoop u pRoot = .error (.ret f)) : pRoot.firstChildElement "api-gateway-server-config" = none := by
  unfold gatewayLoop at h
  split at h
  · assumption
  · rename_i el _
    cases hl : forEach loadGatewayEndPoint u.gatewayEndPoints (el.siblings "end-point") with
    | ok endpoints => simp only [hl] at h; cases h
    | error e =>
      simp only [hl, Except.error.injEq] at h
      obtain ⟨i, a, -, ha⟩ := forEach_error hl
      exact absurd h ((loadGatewayEndPoint_exits ha).leaves f)

/-- the only exception of a gateway section is that of a port -/
theorem gatewayLoop_throws {u : Uninit} {pRoot : XMLElement} {err : Exn}
    (h : gatewayLoop u pRoot = .error (.throws err)) : err = stoiInvalid := by
  unfold gatewayLoop at h
  split at h
  · cases h
  · rename_i el _
    cases hl : forEach loadGatewayEndPoint u.gatewayEndPoints (el.siblings "end-point") with
    | ok endpoints => simp only [hl] at h; cases h
    | error e =>
      simp only [hl, Except.error.injEq] at h
      obtain ⟨i, a, -, ha⟩ := forEach_error hl
      have hexit := loadGatewayEndPoint_exits ha
      rw [h] at hexit
      cases hexit
      rfl

theorem gatewayLoop_absent {u : Uninit} {pRoot : XMLElement}
    (h : pRoot.firstChildElement "api-gateway-server-config" = none) :
    gatewayLoop u pRoot = .error (.ret parsingElement) := by
  simp only [gatewayLoop, h]

/-- a section that is there and makes the loader return is accepted -/
theorem gatewayLoop_present {u : Uninit} {pRoot : XMLElement} (hr : Returns (gatewayLoop u pRoot))
    (h : pRoot.firstChildElement "api-gateway-server-config" ≠ none) : ∃ g, gatewayLoop u pRoot = .ok g := by
  cases hg : gatewayLoop u pRoot with
  | ok g => exact ⟨g, rfl⟩
  | error e =>
    obtain ⟨f, rfl⟩ := hr e hg
    exact absurd (gatewayLoop_returns hg) h

end Asabru.Config
