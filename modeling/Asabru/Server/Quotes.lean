/-
What the answers of the management callbacks quote.

An answer by error is a constant text around texts that come from outside: from the request, from the document, from the
plugins folder, from the dynamic linker or from an exception of the engine. `answerQuotes` lists them for the path that a
request takes.

Results:
- `loadPipeline_quotes`, `resolution_quotes`, `load_quotes`, `request_quotes`: what the exceptions quote (`Quoting`);
- `request_answer`: a message that is returned is the content of a JSON string iff everything that it quotes is, its status
  is ok exactly on the path that ends with a pass over a configuration that resolves (`Succeeds`), and a call that returns
  nothing quotes nothing.
-/
import Mathlib.Tactic
import Asabru.Core.Json
import Asabru.Config.ProtocolDocument
import Asabru.Server.Process

namespace Asabru.Server

open Asabru.Control Asabru.Xml Asabru.Config Asabru.Pipelines Asabru.Json

/-! ## Constant texts around quoted ones -/

/-- the content is that of the quoted texts -/
structure Quoting (failure : Option Exn) (quotes : List String) : Prop where
  text : ∀ what, failure = some (.std what) → (IsContent what ↔ ∀ t ∈ quotes, IsContent t)
  silent : (∀ what, failure ≠ some (.std what)) → quotes = []

theorem quoting_none : Quoting none [] := by
  refine ⟨fun what h => ?_, fun _ => rfl⟩
  cases h

theorem quoting_other : Quoting (some .other) [] := by
  refine ⟨fun what h => ?_, fun _ => rfl⟩
  cases h

theorem quoting_std {what : String} {quotes : List String} (h : IsContent what ↔ ∀ t ∈ quotes, IsContent t) :
    Quoting (some (.std what)) quotes := by
  refine ⟨fun what' heq => ?_, fun hne => absurd rfl (hne what)⟩
  cases heq
  exact h

/-- a constant text -/
theorem quoting_constant {what : String} (h : IsContent what) : Quoting (some (.std what)) [] :=
  quoting_std (by simp [h])

/-- a text before a constant that begins with an apostrophe, and what follows -/
theorem isContent_quoted {t b rest : String} (hb : IsContent b) (hstart : b.toList.head? = some apostrophe) :
    IsContent (t ++ (b ++ rest)) ↔ IsContent t ∧ IsContent rest := by
  obtain ⟨cs, hcs⟩ := List.head?_eq_some_iff.1 hstart
  have hlist : (b ++ rest).toList = apostrophe :: (cs ++ rest.toList) := by
    rw [String.toList_append, hcs]
    rfl
  rw [isContent_append hlist apostrophe_endsEscapes, isContent_append_left hb]

/-- the same with nothing after it -/
theorem isContent_quoted_last {t b : String} (hb : IsContent b) (hstart : b.toList.head? = some apostrophe) :
    IsContent (t ++ b) ↔ IsContent t := by
  obtain ⟨cs, hcs⟩ := List.head?_eq_some_iff.1 hstart
  rw [isContent_append hcs apostrophe_endsEscapes]
  exact and_iff_left hb

/-! ## Pipelines and endpoints -/

/-- what the exception of `loadPipeline` quotes -/
def loadPipelineQuotes (libnameothy : String → String × String) (dl : DynLink) (pluginName : String)
    (f : PipelineFactory) : List String :=
  match f.m_libNames.find? (fun libPath => pluginName = (libnameothy libPath).1) with
  | none => [pluginName]
  | some libPath =>
    match dl.dlopen libPath with
    | .error err => [libPath, err]
    | .ok handle =>
      match dl.dlsym handle (libnameothy libPath).2 with
      | .error err => [(libnameothy libPath).2, libPath, dl.afterDlclose handle err]
      | .ok _ => []

theorem loadPipeline_quotes {libnameothy : String → String × String} {dl : DynLink} {k : SocketKind} {n : String}
    {f : PipelineFactory} {e : Exn} (h : f.registerPipeline libnameothy dl k n = .error e) :
    Quoting (some e) (loadPipelineQuotes libnameothy dl n f) := by
  unfold PipelineFactory.registerPipeline PipelineFactory.loadPipeline at h
  unfold loadPipelineQuotes
  cases hfind : f.m_libNames.find? (fun libPath => n = (libnameothy libPath).1) with
  | none =>
    simp only [hfind] at h
    cases h
    refine quoting_std ?_
    rw [isContent_append_left (by decide)]
    simp
  | some libPath =>
    simp only [hfind] at h
    split_ifs at h
    cases hopen : dl.dlopen libPath with
    | error err =>
      simp only [hopen] at h
      cases h
      refine quoting_std ?_
      simp only [String.append_assoc]
      rw [isContent_append_left (by decide), isContent_quoted (by decide) (by decide)]
      simp [hopen]
    | ok handle =>
      cases hsym : dl.dlsym handle (libnameothy libPath).2 with
      | error err =>
        simp only [hopen, hsym] at h
        cases h
        refine quoting_std ?_
        simp only [String.append_assoc]
        rw [isContent_append_left (by decide), isContent_quoted (by decide) (by decide),
          isContent_quoted (by decide) (by decide)]
        simp [hopen, hsym]
      | ok p => simp only [hopen, hsym] at h; cases h

/-- what the exception of an endpoint's resolution quotes -/
def endPointQuotes (lib : Lib) (w : World) (endpoint : RemoteEndPoint) (f : PipelineFactory) : List String :=
  if endpoint.proxyPort ≤ 0 ∨ 65535 < endpoint.proxyPort then [endpoint.endPointName]
  else
    match f.registerPipeline lib.libnameothy w.dl .proxy endpoint.pipeline with
    | .error _ => loadPipelineQuotes lib.libnameothy w.dl endpoint.pipeline f
    | .ok _ =>
      match w.registerCommand endpoint.handler with
      | some (.std what) => [what]
      | _ => []

theorem endPoint_quotes {lib : Lib} {w : World} {endpoint : RemoteEndPoint} {f f' : PipelineFactory} {e : Exn}
    (h : resolveEndPoint lib w endpoint f = (.error e, f')) : Quoting (some e) (endPointQuotes lib w endpoint f) := by
  unfold resolveEndPoint at h
  unfold endPointQuotes
  split_ifs at h ⊢
  · cases h
    refine quoting_std ?_
    simp only [String.append_assoc]
    rw [isContent_append_left (by decide), isContent_append_left (isContent_intRepr _),
      isContent_append_left (by decide), isContent_quoted_last (by decide) (by decide)]
    simp
  · cases hl : f.registerPipeline lib.libnameothy w.dl .proxy endpoint.pipeline with
    | error err =>
      simp only [hl] at h
      cases h
      exact loadPipeline_quotes hl
    | ok f₁ =>
      simp only [hl] at h ⊢
      cases hr : w.registerCommand endpoint.handler with
      | none => simp only [hr] at h; cases h
      | some err =>
        simp only [hr] at h
        cases h
        cases e with
        | std what => exact quoting_std (by simp)
        | other => exact quoting_other

/-- what the exception of the first endpoint that does not resolve quotes -/
def resolutionQuotes (lib : Lib) (w : World) : List RemoteEndPoint → PipelineFactory → List String
  | [], _ => []
  | endpoint :: endPoints, f =>
    match resolveEndPoint lib w endpoint f with
    | (.error _, _) => endPointQuotes lib w endpoint f
    | (.ok _, f') => resolutionQuotes lib w endPoints f'

theorem resolveEndPoints_quotes (lib : Lib) (w : World) (endPoints : List RemoteEndPoint) (f : PipelineFactory) :
    Quoting (exitOf (Control.traverse (resolveEndPoint lib w) endPoints f).1) (resolutionQuotes lib w endPoints f) := by
  induction endPoints generalizing f with
  | nil => exact quoting_none
  | cons endpoint endPoints ih =>
    simp only [Control.traverse, resolutionQuotes]
    rcases hr : resolveEndPoint lib w endpoint f with ⟨r, f'⟩
    cases r with
    | error e => exact endPoint_quotes hr
    | ok cfg =>
      have hrest := ih f'
      dsimp only
      rcases htail : Control.traverse (resolveEndPoint lib w) endPoints f' with ⟨rest, f''⟩
      rw [htail] at hrest
      cases rest with
      | error e => exact hrest
      | ok cfgs => exact hrest

/-- **What the failure of a resolution quotes.** -/
theorem resolution_quotes (lib : Lib) (w : World) (s : State) :
    Quoting (resolutionFailure lib w s) (resolutionQuotes lib w s.configs.m_ProxyConfig.endPoints s.pipelineFactory) :=
  resolveEndPoints_quotes lib w _ _

/-! ## Loads and requests -/

/-- the exception that a call is left by -/
def thrown {α : Type} : Ending α → Option Exn
  | .throws e => some e
  | _ => none

/-- what the exception of a route's required text quotes -/
def routeQuotes (routeEl : XMLElement) : List String :=
  [toLower (safeText (routeAuthChild routeEl "required")), safeText (routeEl.firstChildElement "path")]

/-- an unreadable port is no exception -/
def serverQuotes (ps : XMLElement) : List String :=
  if (portFault ps).isSome then []
  else (((routeElements ps).find? fun routeEl => (requiredFault routeEl).isSome).map routeQuotes).getD []

/-- what the exception of the first protocol server at fault quotes -/
def sectionQuotes (root : XMLElement) : List String :=
  (((protocolServerElements root).find? fun ps => (protocolServerFault ps).isSome).map serverQuotes).getD []

/-- the first element with a fault has the first fault -/
theorem find_of_findSome {α β : Type} {f : α → Option β} {as : List α} {b : β} (h : as.findSome? f = some b) :
    ∃ a, as.find? (fun a => (f a).isSome) = some a ∧ f a = some b := by
  induction as with
  | nil => cases h
  | cons a as ih =>
    rw [List.findSome?_cons] at h
    rw [List.find?_cons]
    cases hf : f a with
    | none =>
      rw [hf] at h
      simpa using ih h
    | some b' =>
      rw [hf] at h
      exact ⟨a, by simp, by rw [hf, ← h]⟩

theorem route_quotes {routeEl : XMLElement} {e : Exn} (h : requiredFault routeEl = some e) :
    Quoting (some e) (routeQuotes routeEl) := by
  obtain ⟨el, hel, rfl⟩ := requiredFault_some h
  refine quoting_std ?_
  simp only [String.append_assoc]
  rw [isContent_append_left (by decide), isContent_quoted (by decide) (by decide)]
  simp [routeQuotes, hel]

theorem server_quotes {ps : XMLElement} {e : Ending XMLFailure} (h : protocolServerFault ps = some e) :
    Quoting (thrown e) (serverQuotes ps) := by
  unfold protocolServerFault at h
  unfold serverQuotes
  cases hp : portFault ps with
  | some f =>
    rw [hp] at h
    obtain rfl := Option.some.inj h
    exact quoting_none
  | none =>
    rw [hp] at h
    obtain ⟨err, herr, rfl⟩ := Option.map_eq_some_iff.1 h
    obtain ⟨routeEl, hfind, hfault⟩ := find_of_findSome herr
    rw [hfind]
    exact route_quotes hfault

/-- **What the failure of a protocol section quotes.** -/
theorem section_quotes (x : TinyXml) (u : Uninit) (root : XMLElement) :
    Quoting ((exitOf (protocolServerLoop x u root)).bind thrown) (sectionQuotes root) := by
  rw [protocolServerLoop_exit]
  unfold sectionQuotes
  cases h : (protocolServerElements root).findSome? protocolServerFault with
  | none =>
    have hfind : (protocolServerElements root).find? (fun ps => (protocolServerFault ps).isSome) = none := by
      rw [List.find?_eq_none]
      intro ps hps
      simp [List.findSome?_eq_none_iff.1 h ps hps]
    rw [hfind]
    exact quoting_none
  | some e =>
    obtain ⟨ps, hfind, hfault⟩ := find_of_findSome h
    rw [hfind]
    exact server_quotes hfault

/-- what the exception of a load quotes -/
def loadQuotes (x : TinyXml) (content : String) : List String :=
  match readRoot content x.parse with
  | none => []
  | some root => sectionQuotes root

/-- the exception of a gateway section is a constant text -/
theorem gateway_quotes (u : Uninit) (root : XMLElement) : Quoting (thrown (gatewayEnding u root)) [] := by
  unfold gatewayEnding
  cases h : gatewayLoop u root with
  | ok g => exact quoting_none
  | error e =>
    cases e with
    | ret f => exact quoting_none
    | throws err =>
      obtain rfl := gatewayLoop_throws h
      exact quoting_constant (by decide)
    | hangs => exact quoting_none
    | undefined => exact quoting_none

/-- a section whose loop returns quotes nothing -/
theorem sectionQuotes_nil {x : TinyXml} {u : Uninit} {root : XMLElement} (h : Returns (protocolServerLoop x u root)) :
    sectionQuotes root = [] := by
  refine (section_quotes x u root).silent fun what hthrown => ?_
  obtain ⟨e, he, hwhat⟩ := Option.bind_eq_some_iff.1 hthrown
  cases hloop : protocolServerLoop x u root with
  | ok v => rw [hloop] at he; cases he
  | error e' =>
    obtain ⟨f, rfl⟩ := h e' hloop
    rw [hloop] at he
    obtain rfl := Option.some.inj he
    cases hwhat

/-- **What the failure of a load quotes.** -/
theorem load_quotes (lib : Lib) (w : World) (content : String) (s : State) :
    Quoting (thrown (s.loadFromString lib w content).1) (loadQuotes lib.xml content) := by
  unfold loadQuotes
  cases hroot : readRoot content lib.xml.parse with
  | none =>
    have hnone : ∃ code, code ≠ .success ∧ ∀ c, loadConfigurationsFromString lib.xml w.uninit content c = (.ret code, c) :=
      load_none hroot
    obtain ⟨code, -, hload⟩ := hnone
    unfold State.loadFromString
    rw [hload]
    exact quoting_none
  | some root =>
    rw [loadFromString_root hroot]
    rcases protocolServerLoop_cases lib.xml w.uninit root with hreturns | ⟨err, hthrows⟩
    · rw [parseRoot_returns hreturns]
      dsimp only
      rw [sectionQuotes_nil hreturns]
      exact gateway_quotes w.uninit root
    · have hsection := section_quotes lib.xml w.uninit root
      rw [parseRoot_throws hthrows]
      rw [hthrows] at hsection
      exact hsection

/-- what the exception of a request's parser quotes -/
def requestQuotes (x : TinyXml) (text : String) : List String :=
  if text = "" then []
  else
    match x.parse text with
    | .error _ => []
    | .ok doc =>
      match doc.firstChildElement "end_point" with
      | none => []
      | some pEndPoint =>
        let operation := safeText (pEndPoint.firstChildElement "operation")
        if operation ≠ "add" ∧ operation ≠ "delete" then [operation] else []

/-- **What the failure of a request's parser quotes.** -/
theorem request_quotes (x : TinyXml) (u : Uninit) (text : String) :
    Quoting (exitOf (loadEndpointServiceFromString x u text)) (requestQuotes x text) := by
  unfold loadEndpointServiceFromString requestQuotes
  split_ifs
  · exact quoting_constant (by decide)
  cases x.parse text with
  | error f => exact quoting_constant ((isContent_append_left (by decide)).2 (isContent_natRepr _))
  | ok doc =>
    simp only [parseEndPointServiceConfiguration]
    cases doc.firstChildElement "end_point" with
    | none => exact quoting_constant (by decide)
    | some pEndPoint =>
      dsimp only
      split_ifs
      · refine quoting_std ?_
        simp only [String.append_assoc]
        rw [isContent_append_left (by decide), isContent_quoted_last (by decide) (by decide)]
        simp
      · cases pEndPoint.firstChildElement "service" with
        | none => exact quoting_constant (by decide)
        | some pService =>
          dsimp only
          cases pService.firstChildElement "port" with
          | none => exact quoting_none
          | some pPort =>
            cases hq : x.queryIntText pPort with
            | error f => simp only [hq]; exact quoting_constant (by decide)
            | ok port => simp only [hq]; exact quoting_none

/-! ## Answers -/

/-- how a call is answered that quotes the texts and has a success path -/
structure AnswerOf (quotes : List String) (success : Prop) (ending : Ending Reply) : Prop where
  message : ∀ r, ending = .ret r → (IsContent r.message ↔ ∀ t ∈ quotes, IsContent t)
  status : ∀ r, ending = .ret r → (r.status = .ok ↔ success)
  returns : success → ∃ r, ending = .ret r
  silent : (∀ r, ending ≠ .ret r) → quotes = []

/-- a call that returns nothing -/
theorem answer_lost {quotes : List String} {success : Prop} {ending : Ending Reply} (hlost : ∀ r, ending ≠ .ret r)
    (hquotes : quotes = []) (hs : ¬ success) : AnswerOf quotes success ending :=
  ⟨fun r hr => absurd hr (hlost r), fun r hr => absurd hr (hlost r), fun h => absurd h hs, fun _ => hquotes⟩

/-- an exception derived from std::exception is answered, any other one leaves the call -/
theorem answer_thrown {e : Exn} {quotes : List String} {success : Prop} (hq : Quoting (some e) quotes) (hs : ¬ success)
    (s : State) : AnswerOf quotes success (catchStd errorReply (.throws e, s)).1 := by
  cases e with
  | std what =>
    refine ⟨fun r hr => ?_, fun r hr => ?_, fun h => absurd h hs, fun hne => absurd rfl (hne (errorReply what))⟩
    · obtain rfl := Ending.ret.inj hr
      exact hq.text what rfl
    · obtain rfl := Ending.ret.inj hr
      exact iff_of_false (by simp [errorReply]) hs
  | other =>
    refine answer_lost (fun r hr => ?_) (hq.silent fun what h => ?_) hs
    · cases hr
    · cases h

/-- **How a pass is answered.** -/
theorem updateProxyServers_answer (lib : Lib) (w : World) (s : State) :
    AnswerOf (resolutionQuotes lib w s.configs.m_ProxyConfig.endPoints s.pipelineFactory)
      (resolutionFailure lib w s = none) (updateProxyServers lib w s).1 := by
  have hquotes := resolution_quotes lib w s
  cases h : resolutionFailure lib w s with
  | none =>
    rw [h] at hquotes
    obtain ⟨t, ht, -⟩ := updateProxyServers_ok h
    have hnil : resolutionQuotes lib w s.configs.m_ProxyConfig.endPoints s.pipelineFactory = [] :=
      hquotes.silent fun what heq => by cases heq
    rw [ht, hnil]
    refine ⟨fun r hr => ?_, fun r hr => ?_, fun _ => ⟨updatedReply, rfl⟩, fun _ => rfl⟩
    · obtain rfl := Ending.ret.inj hr
      exact iff_of_true (by decide) (by simp)
    · obtain rfl := Ending.ret.inj hr
      exact iff_of_true rfl rfl
  | some e =>
    rw [h] at hquotes
    obtain ⟨f, hf⟩ := updateProxyServers_fails h
    rw [hf]
    exact answer_thrown hquotes (by simp) _

/-- the path that ends with a pass over a configuration that resolves; the code of a load is dropped -/
def Succeeds (lib : Lib) (w : World) (s : State) : Request → Prop
  | .updateConfiguration content => (∃ code, (s.loadFromString lib w content).1 = .ret code) ∧
      resolutionFailure lib w (s.loadFromString lib w content).2 = none
  | .updateEndPointService content => ∃ req cs, loadEndpointServiceFromString lib.xml w.uninit content = .ok req ∧
      editClusters req s.configs.m_ProxyConfig.clusters = some cs ∧
      resolutionFailure lib w (s.setProxyConfig ⟨cs⟩) = none

/-- what the answer to a request quotes -/
def answerQuotes (lib : Lib) (w : World) (s : State) : Request → List String
  | .updateConfiguration content =>
    let loaded := s.loadFromString lib w content
    match loaded.1 with
    | .ret _ => resolutionQuotes lib w loaded.2.configs.m_ProxyConfig.endPoints loaded.2.pipelineFactory
    | _ => loadQuotes lib.xml content
  | .updateEndPointService content =>
    match loadEndpointServiceFromString lib.xml w.uninit content with
    | .error _ => requestQuotes lib.xml content
    | .ok req =>
      match editClusters req s.configs.m_ProxyConfig.clusters with
      | none => [req.name]
      | some clusters =>
        resolutionQuotes lib w (ProxyConfig.mk clusters).endPoints (s.setProxyConfig ⟨clusters⟩).pipelineFactory

theorem updateConfiguration_answer (lib : Lib) (w : World) (content : String) (s : State) :
    AnswerOf (answerQuotes lib w s (.updateConfiguration content)) (Succeeds lib w s (.updateConfiguration content))
      (updateConfiguration lib w content s).1 := by
  have hquotes := load_quotes lib w content s
  rcases hl : s.loadFromString lib w content with ⟨e, t⟩
  rw [hl] at hquotes
  cases e with
  | ret code =>
    have hanswer := updateProxyServers_answer lib w t
    simp only [answerQuotes, Succeeds, updateConfiguration, hl, andThen, updateProxyServers_caught, Ending.ret.injEq,
      exists_eq', true_and]
    exact hanswer
  | throws err =>
    simp only [answerQuotes, Succeeds, updateConfiguration, hl, andThen]
    exact answer_thrown hquotes (by simp) t
  | hangs =>
    have hnil : loadQuotes lib.xml content = [] := hquotes.silent fun what h => by cases h
    simp only [answerQuotes, Succeeds, updateConfiguration, hl, andThen, hnil]
    exact answer_lost (by simp [catchStd]) rfl (by simp)
  | undefined =>
    have hnil : loadQuotes lib.xml content = [] := hquotes.silent fun what h => by cases h
    simp only [answerQuotes, Succeeds, updateConfiguration, hl, andThen, hnil]
    exact answer_lost (by simp [catchStd]) rfl (by simp)

theorem updateEndPointService_answer (lib : Lib) (w : World) (content : String) (s : State) :
    AnswerOf (answerQuotes lib w s (.updateEndPointService content)) (Succeeds lib w s (.updateEndPointService content))
      (updateEndPointService lib w content s).1 := by
  have hquotes := request_quotes lib.xml w.uninit content
  cases hl : loadEndpointServiceFromString lib.xml w.uninit content with
  | error e =>
    rw [hl] at hquotes
    simp only [answerQuotes, Succeeds, updateEndPointService, hl]
    exact answer_thrown hquotes (by simp) s
  | ok req =>
    simp only [answerQuotes, Succeeds, updateEndPointService, hl,
      updateProxyEndPointService_eq (loadEndpointService_operation hl), Except.ok.injEq, exists_and_left, exists_eq_left']
    cases he : editClusters req s.configs.m_ProxyConfig.clusters with
    | none =>
      have hnotFound : IsContent ("Endpoint '" ++ req.name ++ "' not found.") ↔ IsContent req.name := by
        rw [String.append_assoc, isContent_append_left (by decide), isContent_quoted_last (by decide) (by decide)]
      refine ⟨fun r hr => ?_, fun r hr => ?_, by simp, fun hne => absurd rfl (hne _)⟩
      · obtain rfl := Ending.ret.inj hr
        simpa [errorReply] using hnotFound
      · obtain rfl := Ending.ret.inj hr
        exact iff_of_false (by simp [errorReply]) (by simp)
    | some clusters =>
      have hanswer := updateProxyServers_answer lib w (s.setProxyConfig ⟨clusters⟩)
      simp only [Option.some.injEq, exists_eq_left', updateProxyServers_caught]
      exact hanswer

/-- **How a request is answered.** -/
theorem request_answer (lib : Lib) (w : World) (s : State) (q : Request) :
    AnswerOf (answerQuotes lib w s q) (Succeeds lib w s q) (s.request lib w q).1 := by
  cases q with
  | updateConfiguration content => exact updateConfiguration_answer lib w content s
  | updateEndPointService content => exact updateEndPointService_answer lib w content s

end Asabru.Server
