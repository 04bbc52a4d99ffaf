/-
Which documents `ParseConfiguration` ends on, and on which of them it makes a string of a null pointer.

Everything that the code parses comes from a file or an HTTP request. The proxy and protocol loaders and the parser of
requests move their cursors on every path and guard every pointer. The gateway loader, which runs unless the protocol
loader throws, does neither: an end-point without services is skipped by a `continue` that does not move the cursor, and
an absent attribute or an empty element is assigned to a string.

- `load_terminates_iff`: the call ends iff every end-point that the gateway loader gets to, and whose name, port and
  pipeline it can read, has services (`ServicesPresent`). Undefined behaviour counts as an end here.
- `no_null_string_iff`: neither the call nor the parser of requests makes a string of a null pointer iff no end-point that
  the gateway loader gets to is null where it is read (`NothingNull`).
Counterexamples: `endPoint_without_services`, `endPoint_without_name`.
-/
import Mathlib.Tactic
import Asabru.Config.Pointers

namespace Asabru.DocumentSafety

open Asabru.Control Asabru.Cursor Asabru.Xml Asabru.Config

/-- the gateway loader does not run, or the end-points that it gets to have services if the rest of them can be read -/
def ServicesPresent (pRoot : XMLElement) : Prop :=
  protocolThrows pRoot ∨ ∀ pEndPoint, Reached gatewayEndPointOk (gatewayElements pRoot) pEndPoint →
    endPointHeadOk pEndPoint → pEndPoint.firstChildElement "services" ≠ none

/-- the gateway loader does not run, or the end-points that it gets to are not null where they are read -/
def NothingNull (pRoot : XMLElement) : Prop :=
  protocolThrows pRoot ∨ ∀ pEndPoint, Reached gatewayEndPointOk (gatewayElements pRoot) pEndPoint → ¬ endPointNull pEndPoint

/-- the configuration root of a document, if there are both -/
def rootOf (xmlDoc : Option XMLDocument) : Option XMLElement := xmlDoc.bind configRoot

/-! ## How a call ends -/

/-- the gateway loader's hang or undefined behaviour is the call's -/
theorem parseConfiguration_gateway {x : TinyXml} {u : Uninit} {xmlDoc : Option XMLDocument} {c : Configs}
    {e : Ending XMLError} {e' : Ending XMLFailure} (h : (e = .hangs ∧ e' = .hangs) ∨ (e = .undefined ∧ e' = .undefined)) :
    (parseConfiguration x u xmlDoc c).1 = e ↔
      ∃ pRoot, rootOf xmlDoc = some pRoot ∧ ¬ protocolThrows pRoot ∧ gatewayLoop u pRoot = .error e' := by
  have hroot : ∀ pRoot, (parseRoot x u pRoot c).1 = e ↔ ¬ protocolThrows pRoot ∧ gatewayLoop u pRoot = .error e' := by
    intro pRoot
    rw [← protocolServerLoop_returns (x := x) (u := u)]
    rcases protocolServerLoop_cases x u pRoot with hp | ⟨err, hp⟩
    · rw [parseRoot_returns hp]
      unfold gatewayEnding
      rcases h with ⟨rfl, rfl⟩ | ⟨rfl, rfl⟩ <;> cases gatewayLoop u pRoot with
      | ok g => simp
      | error e => cases e <;> simp [hp]
    · rw [parseRoot_throws hp]
      have hnot : ¬ Returns (protocolServerLoop x u pRoot) := fun hr => by
        obtain ⟨f, hf⟩ := hr _ hp
        cases hf
      rcases h with ⟨rfl, rfl⟩ | ⟨rfl, rfl⟩ <;> simp [hnot]
  have hcode : (Ending.ret XMLError.errorFileReadError : Ending XMLError) ≠ e := by
    rcases h with ⟨rfl, -⟩ | ⟨rfl, -⟩ <;> exact nofun
  unfold parseConfiguration rootOf
  cases xmlDoc with
  | none => simp [hcode]
  | some doc =>
    dsimp only
    rw [Option.bind_some]
    cases configRoot doc with
    | none => simp [hcode]
    | some pRoot => simpa using hroot pRoot

/-! ## Termination -/

/-- **The call ends** iff the end-points that the gateway loader gets to have services. -/
theorem load_terminates_iff (x : TinyXml) (u : Uninit) (xmlDoc : Option XMLDocument) (c : Configs) :
    (∃ fuel r, Pointers.parseConfiguration x fuel u xmlDoc c = some r) ↔
      ∀ pRoot, rootOf xmlDoc = some pRoot → ServicesPresent pRoot := by
  rw [Pointers.parseConfiguration_ends, ne_eq, parseConfiguration_gateway (Or.inl ⟨rfl, rfl⟩)]
  constructor
  · intro h pRoot hroot
    by_contra hnot
    unfold ServicesPresent at hnot
    push Not at hnot
    obtain ⟨hthrows, pEndPoint, hreached, hhead, hservices⟩ := hnot
    exact h ⟨pRoot, hroot, hthrows, (gatewayLoop_hangs u pRoot).2 ⟨pEndPoint, hreached, hhead, hservices⟩⟩
  · rintro h ⟨pRoot, hroot, hthrows, hloop⟩
    obtain ⟨pEndPoint, hreached, hhead, hservices⟩ := (gatewayLoop_hangs u pRoot).1 hloop
    exact (h pRoot hroot).elim hthrows fun hpresent => hpresent pEndPoint hreached hhead hservices

/-- a document with one gateway end-point -/
def gatewayDocument (pEndPoint : XMLElement) : XMLDocument :=
  document (elem "clickhouse-proxy-v2" [elem "api-gateway-server-config" [pEndPoint]])

/-- no bound is enough for `<end-point name="gw"/>` -/
theorem endPoint_without_services : ¬ ∃ fuel r, Pointers.parseConfiguration (.table []) fuel (.const 0)
    (some (gatewayDocument ⟨"end-point", [("name", "gw")], []⟩)) Configs.empty = some r := by
  rw [Pointers.parseConfiguration_ends, not_not]
  rfl

/-! ## Null pointers -/

/-- **No string is made of a null pointer** iff the end-points that the gateway loader gets to are not null where they are
read. -/
theorem no_null_string_iff (x : TinyXml) (u : Uninit) (xmlDoc : Option XMLDocument) (c : Configs) :
    ((∀ fuel r, Pointers.parseConfiguration x fuel u xmlDoc c = some r → r.1 ≠ .undefined) ∧
      Pointers.parseEndPointServiceConfiguration x u xmlDoc ≠ throw .undefined) ↔
      ∀ pRoot, rootOf xmlDoc = some pRoot → NothingNull pRoot := by
  have hrequest : Pointers.parseEndPointServiceConfiguration x u xmlDoc ≠ throw .undefined := by
    rw [Pointers.parseEndPointServiceConfiguration_eq]
    cases parseEndPointServiceConfiguration x u xmlDoc <;> exact fun h => (nomatch lift_injective (w := .error _) h)
  have hcall : (∀ fuel r, Pointers.parseConfiguration x fuel u xmlDoc c = some r → r.1 ≠ .undefined) ↔
      (parseConfiguration x u xmlDoc c).1 ≠ .undefined := by
    constructor
    · intro h hundefined
      obtain ⟨fuel, r, hr⟩ := Pointers.parseConfiguration_ends.2 (by rw [hundefined]; exact nofun)
      exact h fuel r hr (by rw [Pointers.parseConfiguration_sound hr]; exact hundefined)
    · intro h fuel r hr
      rw [Pointers.parseConfiguration_sound hr]
      exact h
  rw [hcall, and_iff_left hrequest, ne_eq, parseConfiguration_gateway (Or.inr ⟨rfl, rfl⟩)]
  constructor
  · intro h pRoot hroot
    by_contra hnot
    unfold NothingNull at hnot
    push Not at hnot
    obtain ⟨hthrows, pEndPoint, hreached, hnull⟩ := hnot
    exact h ⟨pRoot, hroot, hthrows, (gatewayLoop_undefined u pRoot).2 ⟨pEndPoint, hreached, hnull⟩⟩
  · rintro h ⟨pRoot, hroot, hthrows, hloop⟩
    obtain ⟨pEndPoint, hreached, hnull⟩ := (gatewayLoop_undefined u pRoot).1 hloop
    exact (h pRoot hroot).elim hthrows fun hnothing => hnothing pEndPoint hreached hnull

/-- `<end-point/>`: its name is assigned from a null pointer -/
theorem endPoint_without_name : ¬ ∀ fuel r, Pointers.parseConfiguration (.table []) fuel (.const 0)
    (some (gatewayDocument (elem "end-point" []))) Configs.empty = some r → r.1 ≠ .undefined := by
  intro h
  exact h 1 _ rfl rfl

end Asabru.DocumentSafety
