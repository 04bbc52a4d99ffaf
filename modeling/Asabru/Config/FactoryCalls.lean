/-
PipelineFactory.h and PipelineFactory.cpp, statement by statement: the calls on one factory as a caller sees them that
catches their exceptions, and sequences of them.

`loadPipeline` works on the map of its socket class in place; `functionMap[symbolName]` inserts a name that is not there.
A call that throws is left with whatever it has done to the factory so far.

Results:
- `call_registerPipeline`: a call does to the factory what `registerPipeline` says, and nothing if it throws;
- `FactoryRun.error`, `FactoryRun.other_kind`: over a sequence of calls, what a call that throws and what a call for another
  kind leaves as it was.
-/
import Mathlib.Tactic
import Asabru.Config.Pipelines

namespace Asabru.Pipelines

open Asabru.Control

namespace PipelineFactory

/-! ## Calls -/

def setMap (f : PipelineFactory) (k : SocketKind) (functionMap : FunctionMap) : PipelineFactory :=
  match k with
  | .proxy => { f with m_proxyMap := functionMap }
  | .apiGateway => { f with m_apiGwMap := functionMap }
  | .protocol => { f with m_protocolMap := functionMap }
  | .libuvProxy => { f with m_libuvMap := functionMap }

/-- `functionMap[symbolName]`: a name that is not there is inserted with a null pointer -/
def subscript (symbolName : String) (functionMap : FunctionMap) : Option PipelineFunction × FunctionMap :=
  match functionMap symbolName with
  | some p => (p, functionMap)
  | none => (none, Function.update functionMap symbolName (some none))

/-- `functionMap.count(symbolName) && functionMap[symbolName] != nullptr` -/
def alreadyLoaded (symbolName : String) (functionMap : FunctionMap) : Bool × FunctionMap :=
  if (functionMap symbolName).isSome then
    let r := subscript symbolName functionMap
    (r.1.isSome, r.2)
  else (false, functionMap)

/-- `loadPipeline` on the map of its socket class -/
def loadInto (libnameothy : String → String × String) (dl : DynLink) (m_libNames : List String) (pluginName : String)
    (functionMap : FunctionMap) : Except Exn Unit × FunctionMap :=
  match m_libNames.find? (fun libPath => pluginName = (libnameothy libPath).1) with
  | none => (.error (.std ("Pipeline plugin not found in plugins folder: " ++ pluginName)), functionMap)
  | some libPath =>
    let symbolName := (libnameothy libPath).2
    let loaded := alreadyLoaded symbolName functionMap
    if loaded.1 then (.ok (), loaded.2)
    else
      match dl.dlopen libPath with
      | .error err => (.error (.std ("dlopen('" ++ libPath ++ "') failed: " ++ err)), loaded.2)
      | .ok handle =>
        match dl.dlsym handle symbolName with
        | .error err =>
          (.error (.std ("dlsym('" ++ symbolName ++ "') failed in '" ++ libPath ++ "': " ++ dl.afterDlclose handle err)),
            loaded.2)
        | .ok pipelineFunc =>
          (.ok (), Function.update (subscript symbolName loaded.2).2 symbolName (some pipelineFunc))

/-- a call on a factory: what the folder holds, or what the linker does, during the call -/
inductive FactoryCall where
  | updateLibs (filenames : Option (List String))
  | registerPipeline (k : SocketKind) (pipelineName : String) (dl : DynLink)

/-- a call that throws leaves the factory as it was -/
def settle (f : PipelineFactory) : Except Exn PipelineFactory → Except Exn Unit × PipelineFactory
  | .ok f' => (.ok (), f')
  | .error e => (.error e, f)

/-- `updateLibs` inserts the names after everything in it that can throw -/
def call (libnameothy : String → String × String) (f : PipelineFactory) : FactoryCall → Except Exn Unit × PipelineFactory
  | .updateLibs filenames => f.settle (f.updateLibs filenames)
  | .registerPipeline k pipelineName dl =>
    let r := loadInto libnameothy dl f.m_libNames pipelineName (f.map k)
    (r.1, f.setMap k r.2)

theorem setMap_map (f : PipelineFactory) (k : SocketKind) : f.setMap k (f.map k) = f := by
  cases k <;> rfl

theorem setMap_update (f : PipelineFactory) (k : SocketKind) (symbolName : String) (p : Option PipelineFunction) :
    f.setMap k (Function.update (f.map k) symbolName (some p)) = f.assign k symbolName p := by
  cases k <;> rfl

/-- the test inserts nothing -/
theorem alreadyLoaded_eq (symbolName : String) (functionMap : FunctionMap) :
    alreadyLoaded symbolName functionMap = ((functionMap symbolName).join.isSome, functionMap) := by
  unfold alreadyLoaded subscript
  cases functionMap symbolName with
  | none => rfl
  | some p => rfl

/-- an assignment through a subscript -/
theorem subscript_update (symbolName : String) (functionMap : FunctionMap) (p : Option PipelineFunction) :
    Function.update (subscript symbolName functionMap).2 symbolName (some p) =
      Function.update functionMap symbolName (some p) := by
  unfold subscript
  cases functionMap symbolName with
  | none => exact Function.update_idem _ _ _
  | some q => rfl

/-- **A call is what `registerPipeline` says**, and leaves the factory as it was if it throws. -/
theorem call_registerPipeline (libnameothy : String → String × String) (f : PipelineFactory) (k : SocketKind) (n : String)
    (dl : DynLink) : f.call libnameothy (.registerPipeline k n dl) = f.settle (f.registerPipeline libnameothy dl k n) := by
  unfold call registerPipeline loadPipeline loadInto
  cases hfind : f.m_libNames.find? (fun libPath => n = (libnameothy libPath).1) with
  | none => simp only [hfind, setMap_map, settle]
  | some libPath =>
    simp only [hfind, alreadyLoaded_eq, subscript_update]
    split_ifs
    · simp only [setMap_map, settle]
    · cases dl.dlopen libPath with
      | error err => simp only [setMap_map, settle]
      | ok handle =>
        cases hsym : dl.dlsym handle (libnameothy libPath).2 with
        | error err => simp only [hsym, setMap_map, settle]
        | ok p => simp only [hsym, setMap_update, settle]

theorem settle_error {f : PipelineFactory} {r : Except Exn PipelineFactory} {e : Exn} (h : (f.settle r).1 = .error e) :
    (f.settle r).2 = f := by
  cases r with
  | ok f' => cases h
  | error e => rfl

/-- a call that throws does nothing -/
theorem call_error {libnameothy : String → String × String} {f : PipelineFactory} {c : FactoryCall} {e : Exn}
    (h : (f.call libnameothy c).1 = .error e) : (f.call libnameothy c).2 = f := by
  cases c with
  | updateLibs filenames => exact settle_error h
  | registerPipeline k n dl =>
    rw [call_registerPipeline] at h ⊢
    exact settle_error h

/-- a scan changes the names of the libraries only -/
theorem call_updateLibs_map (libnameothy : String → String × String) (f : PipelineFactory)
    (filenames : Option (List String)) : ((f.call libnameothy (.updateLibs filenames)).2).map = f.map := by
  funext k
  cases filenames with
  | none => rfl
  | some plugins => cases k <;> rfl

/-! ## Sequences of calls -/

/-- one call of a sequence -/
structure FactoryStep where
  before : PipelineFactory
  call : FactoryCall
  result : Except Exn Unit
  after : PipelineFactory

/-- the step that a call makes from a factory -/
def step (libnameothy : String → String × String) (f : PipelineFactory) (c : FactoryCall) : FactoryStep where
  before := f
  call := c
  result := (f.call libnameothy c).1
  after := (f.call libnameothy c).2

/-- sequences of calls on a new factory, each made whatever the ones before it did -/
inductive FactoryRun (libnameothy : String → String × String) : List FactoryStep → PipelineFactory → Prop where
  | start : FactoryRun libnameothy [] .empty
  | call {trace : List FactoryStep} {f : PipelineFactory} (h : FactoryRun libnameothy trace f) (c : FactoryCall) :
      FactoryRun libnameothy (trace ++ [f.step libnameothy c]) (f.step libnameothy c).after

/-- every step of a run is a call on what was there -/
theorem FactoryRun.steps {libnameothy : String → String × String} {trace : List FactoryStep} {f : PipelineFactory}
    (h : FactoryRun libnameothy trace f) {s : FactoryStep} (hs : s ∈ trace) : s = s.before.step libnameothy s.call := by
  induction h with
  | start => cases hs
  | call _ c ih =>
    rcases List.mem_append.1 hs with hs | hs
    · exact ih hs
    · rw [List.mem_singleton.1 hs]
      rfl

/-- **A call that throws** leaves the factory as it was. -/
theorem FactoryRun.error {libnameothy : String → String × String} {trace : List FactoryStep} {f : PipelineFactory}
    (h : FactoryRun libnameothy trace f) {s : FactoryStep} (hs : s ∈ trace) {e : Exn} (he : s.result = .error e) :
    s.after = s.before := by
  rw [h.steps hs] at he ⊢
  exact call_error he

/-- **A call for one kind** leaves the maps of the others as they were. -/
theorem FactoryRun.other_kind {libnameothy : String → String × String} {trace : List FactoryStep} {f : PipelineFactory}
    (h : FactoryRun libnameothy trace f) {s : FactoryStep} (hs : s ∈ trace) {k k' : SocketKind} {n : String} {dl : DynLink}
    (hc : s.call = .registerPipeline k n dl) (hk : k' ≠ k) : s.after.map k' = s.before.map k' := by
  have hstep := h.steps hs
  rw [hc] at hstep
  have hafter : s.after = (s.before.settle (s.before.registerPipeline libnameothy dl k n)).2 := by
    rw [hstep, ← call_registerPipeline]
    rfl
  rw [hafter]
  cases hr : s.before.registerPipeline libnameothy dl k n with
  | error e => rfl
  | ok f' => exact (loadPipeline_frame hr).2 k' hk

end PipelineFactory

end Asabru.Pipelines
