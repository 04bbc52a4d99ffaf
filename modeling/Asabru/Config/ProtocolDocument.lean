/-
The protocol-server section as a document: which element makes the loader give up and how, and how the loaded servers and
routes stand for the elements they come from.

Results:
- `protocolServerLoop_exit`: the loop is left as the first server at fault says (`protocolServerFault`), its port before its
  routes;
- `loadProtocolServer_document`, `loadProtocol_servers`: a loaded server has the attribute and texts of its own element, and
  one route for each of its route elements, in order (`ProtocolServerOf`, `RouteOf`);
- `RouteOf.unique`: a route is fixed by its own element and by whether its own server's element has an auth child.
-/
import Mathlib.Tactic
import Asabru.Config.ProtocolLoader

namespace Asabru.Config

open Asabru.Control Asabru.Xml

/-! ## The first server at fault -/

/-- a protocol-port without a text, or with one that `stoi` rejects -/
def badPort (ps : XMLElement) : Prop :=
  ∃ el, ps.firstChildElement "protocol-port" = some el ∧
    (el.getText = none ∨ ∃ t e, el.getText = some t ∧ stoi t = .error e)

/-- the texts that are read as a flag, lower-cased -/
def requiredTexts : List String := ["false", "0", "no", "true", "1", "yes"]

/-- the text is one of the words in some letter case -/
def ReadsAs (words : List String) (text : String) : Prop := ∃ word ∈ words, LowerCased text word

theorem readsAs_iff {words : List String} {text : String} : ReadsAs words text ↔ toLower text ∈ words := by
  simp only [ReadsAs, ← toLower_iff, exists_eq_right']

/-- a route's required element whose text is none of them -/
def badRequired (routeEl : XMLElement) : Prop :=
  ∃ el, routeAuthChild routeEl "required" = some el ∧ ¬ ReadsAs requiredTexts (safeText (some el))

/-- the exception of a route, if it has one -/
def requiredFault (routeEl : XMLElement) : Option Exn :=
  (routeAuthChild routeEl "required").bind fun el =>
    if (parseRequired (toLower (safeText (some el)))).isSome then none
    else some (invalidRequired (toLower (safeText (some el))) (safeText (routeEl.firstChildElement "path")))

/-- the failure of a port, if it has one -/
def portFault (ps : XMLElement) : Option XMLFailure :=
  (ps.firstChildElement "protocol-port").bind fun el =>
    match el.getText with
    | none => some parsingElement
    | some t => (exitOf (stoi t)).map fun _ => parsingElement

/-- the port is read before the routes -/
def protocolServerFault (ps : XMLElement) : Option (Ending XMLFailure) :=
  ((portFault ps).map .ret).or (((routeElements ps).findSome? requiredFault).map .throws)

theorem parseRequired_isSome {t : String} : (parseRequired t).isSome ↔ t ∈ requiredTexts := by
  unfold parseRequired requiredTexts
  split_ifs with hoff hon
  · simp only [Option.isSome_some, true_iff, List.mem_cons]
    tauto
  · simp only [Option.isSome_some, true_iff, List.mem_cons]
    tauto
  · simp only [Option.isSome_none, Bool.false_eq_true, false_iff, List.mem_cons, List.not_mem_nil, or_false]
    tauto

theorem loadRoute_exit (x : TinyXml) (b : Bool) (routeEl : XMLElement) :
    exitOf (loadRoute x b routeEl) = requiredFault routeEl := by
  unfold loadRoute loadRequired requiredFault
  cases routeAuthChild routeEl "required" with
  | none => rfl
  | some el => cases hp : parseRequired (toLower (safeText (some el))) <;> simp [hp]

theorem loadProtocolPort_exit (n : Int) (ps : XMLElement) :
    exitOf (loadProtocolPort n (ps.firstChildElement "protocol-port")) = portFault ps := by
  unfold loadProtocolPort portFault
  cases ps.firstChildElement "protocol-port" with
  | none => rfl
  | some el =>
    cases ht : el.getText with
    | none => simp [ht]
    | some t => cases hs : stoi t <;> simp [ht, hs]

theorem loadProtocolServer_exit (x : TinyXml) (u : Int) (ps : XMLElement) :
    exitOf (loadProtocolServer x u ps) = protocolServerFault ps := by
  have hroutes := forEach_exit
    (fun (_ : Unit) a => loadRoute_exit x ((ps.firstChildElement "auth").map (loadAuth x)).isSome a)
    (fun _ => ()) (routeElements ps)
  unfold loadProtocolServer protocolServerFault
  rw [← loadProtocolPort_exit u ps, ← hroutes]
  cases loadProtocolPort u (ps.firstChildElement "protocol-port") with
  | error f => rfl
  | ok v =>
    dsimp only
    cases forEach (fun (_ : Unit) => loadRoute x ((ps.firstChildElement "auth").map (loadAuth x)).isSome)
      (fun _ => ()) (routeElements ps) <;> rfl

/-- **The first server at fault decides** how the loop is left. -/
theorem protocolServerLoop_exit (x : TinyXml) (u : Uninit) (root : XMLElement) :
    exitOf (protocolServerLoop x u root) = (protocolServerElements root).findSome? protocolServerFault :=
  forEach_exit (loadProtocolServer_exit x) u.protocolPorts (protocolServerElements root)

theorem portFault_none {ps : XMLElement} : portFault ps = none ↔ ¬ badPort ps := by
  unfold portFault badPort
  cases hel : ps.firstChildElement "protocol-port" with
  | none => simp
  | some el =>
    cases ht : el.getText with
    | none => simp [ht]
    | some t => cases hs : stoi t <;> simp [ht, hs]

/-- every failure of a port is the same code -/
theorem portFault_some {ps : XMLElement} {f : XMLFailure} (h : portFault ps = some f) : f = parsingElement := by
  unfold portFault at h
  obtain ⟨el, -, hf⟩ := Option.bind_eq_some_iff.1 h
  cases ht : el.getText with
  | none =>
    rw [ht] at hf
    exact (Option.some.inj hf).symm
  | some t =>
    rw [ht] at hf
    obtain ⟨e, -, he⟩ := Option.map_eq_some_iff.1 hf
    exact he.symm

theorem requiredFault_none {routeEl : XMLElement} : requiredFault routeEl = none ↔ ¬ badRequired routeEl := by
  unfold requiredFault badRequired
  cases routeAuthChild routeEl "required" with
  | none => simp
  | some el => simp [parseRequired_isSome, readsAs_iff]

/-- the exception quotes the lower-cased text and the path -/
theorem requiredFault_some {routeEl : XMLElement} {e : Exn} (h : requiredFault routeEl = some e) :
    ∃ el, routeAuthChild routeEl "required" = some el ∧
      e = invalidRequired (toLower (safeText (some el))) (safeText (routeEl.firstChildElement "path")) := by
  obtain ⟨el, hel, hf⟩ := Option.bind_eq_some_iff.1 h
  split_ifs at hf
  exact ⟨el, hel, (Option.some.inj hf).symm⟩

theorem protocolServerFault_none {ps : XMLElement} :
    protocolServerFault ps = none ↔ ¬ badPort ps ∧ ∀ routeEl ∈ routeElements ps, ¬ badRequired routeEl := by
  simp only [protocolServerFault, Option.or_eq_none_iff, Option.map_eq_none_iff, List.findSome?_eq_none_iff,
    portFault_none, requiredFault_none]

/-! ## Records and their elements -/

/-- the text of a required element switches authentication off -/
def switchesOff (el : XMLElement) : Prop := ReadsAs ["false", "0", "no"] (safeText (some el))

/-- the route of an element, on a server with or without an auth block -/
structure RouteOf (x : TinyXml) (serverAuth : Bool) (routeEl : XMLElement) (r : Route) : Prop where
  path : r.path = safeText (routeEl.firstChildElement "path")
  method : r.method = safeText (routeEl.firstChildElement "method")
  request_handler : r.request_handler = safeText (routeEl.firstChildElement "request_handler")
  required : r.auth.required = false ↔ (∃ el, routeAuthChild routeEl "required" = some el ∧ switchesOff el) ∨
    (routeAuthChild routeEl "required" = none ∧ serverAuth = false)
  authorization : r.auth.authorization = ((routeAuthChild routeEl "authorization").map x.print).getD ""

/-- the server of an element; a port that the element does not give is any value -/
structure ProtocolServerOf (x : TinyXml) (ps : XMLElement) (s : ProtocolServerConfig) : Prop where
  protocol_name : s.protocol_name = (ps.attribute "protocol").getD ""
  protocol_port : ∀ el, ps.firstChildElement "protocol-port" = some el →
    ∃ t, el.getText = some t ∧ stoi t = .ok s.protocol_port
  pipeline : s.pipeline = safeText (ps.firstChildElement "pipeline")
  handler : s.handler = safeText (ps.firstChildElement "handler")
  auth : s.auth = (ps.firstChildElement "auth").map (loadAuth x)
  routes : List.Forall₂ (RouteOf x (ps.firstChildElement "auth").isSome) (routeElements ps) s.routes

/-- **A route inherits nothing**: its element and its server's auth block fix it. -/
theorem RouteOf.unique {x : TinyXml} {b : Bool} {routeEl : XMLElement} {r r' : Route} (h : RouteOf x b routeEl r)
    (h' : RouteOf x b routeEl r') : r = r' := by
  have hflag : r.auth.required = r'.auth.required := by
    rw [Bool.eq_iff_iff, ← not_iff_not, Bool.not_eq_true, Bool.not_eq_true]
    exact h.required.trans h'.required.symm
  have hauth : r.auth = r'.auth := by
    have hdata := h.authorization.trans h'.authorization.symm
    rcases ra : r.auth with ⟨required, authorization⟩
    rcases ra' : r'.auth with ⟨required', authorization'⟩
    rw [ra, ra'] at hflag hdata
    rw [show required = required' from hflag, show authorization = authorization' from hdata]
  have hpath := h.path.trans h'.path.symm
  have hmethod := h.method.trans h'.method.symm
  have hhandler := h.request_handler.trans h'.request_handler.symm
  cases r
  cases r'
  simp only [Route.mk.injEq]
  exact ⟨hpath, hmethod, hhandler, hauth⟩

theorem parseRequired_false {t : String} : parseRequired t = some false ↔ t ∈ ["false", "0", "no"] := by
  unfold parseRequired
  split_ifs with hoff hon
  · simpa using hoff
  · simpa using hoff
  · simpa using hoff

/-- the flag that a route is given -/
theorem loadRequired_false {b flag : Bool} {path : String} {reqEl : Option XMLElement}
    (h : loadRequired b path reqEl = .ok flag) :
    flag = false ↔ (∃ el, reqEl = some el ∧ switchesOff el) ∨ (reqEl = none ∧ b = false) := by
  unfold loadRequired at h
  cases reqEl with
  | none =>
    obtain rfl := Except.ok.inj h
    simp
  | some el =>
    simp only at h
    cases hp : parseRequired (toLower (safeText (some el))) with
    | none => simp only [hp] at h; cases h
    | some required =>
      simp only [hp, Except.ok.injEq] at h
      subst h
      have hoff := @parseRequired_false (toLower (safeText (some el)))
      rw [hp, Option.some.injEq] at hoff
      simpa [switchesOff, readsAs_iff] using hoff

theorem loadRoute_document {x : TinyXml} {b : Bool} {routeEl : XMLElement} {r : Route}
    (h : loadRoute x b routeEl = .ok r) : RouteOf x b routeEl r := by
  simp only [loadRoute] at h
  cases hr : loadRequired b (safeText (routeEl.firstChildElement "path")) (routeAuthChild routeEl "required") with
  | error f => simp only [hr] at h; cases h
  | ok required =>
    simp only [hr, Except.ok.injEq] at h
    subst h
    refine ⟨rfl, rfl, rfl, loadRequired_false hr, ?_⟩
    cases routeAuthChild routeEl "authorization" <;> rfl

theorem loadProtocolServer_document {x : TinyXml} {u : Int} {ps : XMLElement} {s : ProtocolServerConfig}
    (h : loadProtocolServer x u ps = .ok s) : ProtocolServerOf x ps s := by
  have hauth : ((ps.firstChildElement "auth").map (loadAuth x)).isSome = (ps.firstChildElement "auth").isSome :=
    Option.isSome_map
  unfold loadProtocolServer at h
  cases hp : loadProtocolPort u (ps.firstChildElement "protocol-port") with
  | error f => simp only [hp] at h; cases h
  | ok port =>
    cases hr : forEach (fun (_ : Unit) => loadRoute x ((ps.firstChildElement "auth").map (loadAuth x)).isSome)
        (fun _ => ()) (routeElements ps) with
    | error f => simp only [hp, hr] at h; cases h
    | ok routes =>
      simp only [hp, hr, Except.ok.injEq] at h
      subst h
      rw [hauth] at hr
      refine ⟨rfl, fun el hel => ?_, rfl, rfl, rfl, (forEach_ok hr).imp fun _ _ hread =>
        loadRoute_document hread.choose_spec⟩
      rw [hel, loadProtocolPort] at hp
      cases ht : el.getText with
      | none => simp only [ht] at hp; cases hp
      | some t =>
        cases hs : stoi t with
        | error e => simp only [ht, hs] at hp; cases hp
        | ok n =>
          simp only [ht, hs] at hp
          exact ⟨t, rfl, hs.trans (congrArg Except.ok (Except.ok.inj hp))⟩

/-- **From the document to the stored servers.** One server per element, in document order. -/
theorem loadProtocol_document {x : TinyXml} {u : Uninit} {root : XMLElement} {servers : List ProtocolServerConfig}
    (h : protocolServerLoop x u root = .ok servers) :
    List.Forall₂ (ProtocolServerOf x) (protocolServerElements root) servers :=
  (forEach_ok h).imp fun _ _ hread => loadProtocolServer_document hread.choose_spec

theorem loadProtocol_servers {x : TinyXml} {u : Uninit} {root : XMLElement} {c c' : List ProtocolServerConfig}
    (h : loadProtocolServerConfigurations x u root c = (.ret .success, c')) :
    List.Forall₂ (ProtocolServerOf x) (protocolServerElements root) c' := by
  obtain ⟨v, hv⟩ := assignAfter_success.1 (congrArg Prod.fst h)
  have hc : c' = v := (congrArg Prod.snd h).symm.trans (assignAfter_ok hv)
  rw [hc]
  exact loadProtocol_document hv

end Asabru.Config
