/-
PipelineFactory.h and PipelineFactory.cpp: the plugin libraries found so far and the pipeline functions loaded from them.

The four socket classes a function can be for are `SocketKind`; each has its own map. A map value may be a null pointer:
`dlsym` can report no error and return null. The dynamic linker (`DynLink`) and the folder scan are arbitrary;
`libnameothy`, which gives the plugin name and the symbol name of a library path, is an arbitrary pure function. After a
failure of `dlsym` the text is read once the handle is closed, so it is an arbitrary one too.

Results:
- `loadPipeline_cases`: a load that returns found the function in the map or put there what the linker gave;
- `loadPipeline_frame`: loading for one kind changes no other kind's map, and a call that throws changes nothing (it
  returns no factory);
- `loadPipeline_loaded`: where a library's symbol is its plugin name, what is registered under a name is what the linker
  gives for the first library of the name (`LoadedFrom`).
-/
import Mathlib.Tactic
import Asabru.Core.Control

namespace Asabru.Pipelines

open Asabru.Control

inductive SocketKind where
  | proxy
  | apiGateway
  | protocol
  | libuvProxy
deriving DecidableEq, Repr

/-- the address of a pipeline function; a possibly null pointer is an option of it -/
abbrev PipelineFunction := ℕ

/-- a `std::map` from names to nullable function pointers -/
abbrev FunctionMap := String → Option (Option PipelineFunction)

structure PipelineFactory where
  m_protocolMap : FunctionMap
  m_proxyMap : FunctionMap
  m_libuvMap : FunctionMap
  m_apiGwMap : FunctionMap
  /-- a `std::set`, in its order -/
  m_libNames : List String

/-- the dynamic linker during one call; a failure carries the text that `dlerror` gives right after it -/
structure DynLink where
  dlopen : String → Except String ℕ
  dlsym : ℕ → String → Except String (Option PipelineFunction)
  /-- what is read where that text was, once the handle is closed: `dlclose` may have freed it -/
  afterDlclose : ℕ → String → String

namespace PipelineFactory

def map (f : PipelineFactory) : SocketKind → FunctionMap
  | .proxy => f.m_proxyMap
  | .apiGateway => f.m_apiGwMap
  | .protocol => f.m_protocolMap
  | .libuvProxy => f.m_libuvMap

/-- `functionMap[symbolName] = pipelineFunc` -/
def assign (f : PipelineFactory) (k : SocketKind) (symbolName : String) (pipelineFunc : Option PipelineFunction) :
    PipelineFactory :=
  match k with
  | .proxy => { f with m_proxyMap := Function.update f.m_proxyMap symbolName (some pipelineFunc) }
  | .apiGateway => { f with m_apiGwMap := Function.update f.m_apiGwMap symbolName (some pipelineFunc) }
  | .protocol => { f with m_protocolMap := Function.update f.m_protocolMap symbolName (some pipelineFunc) }
  | .libuvProxy => { f with m_libuvMap := Function.update f.m_libuvMap symbolName (some pipelineFunc) }

/-- no libraries scanned, nothing loaded -/
def empty : PipelineFactory := ⟨fun _ => none, fun _ => none, fun _ => none, fun _ => none, []⟩

/-- insertion into the ordered set -/
def insertLib (plugin : String) : List String → List String
  | [] => [plugin]
  | p :: ps => if plugin = p then p :: ps else if plugin < p then plugin :: p :: ps else p :: insertLib plugin ps

/-- `filenames` is what the folder scan finds, none when PLUGINS_FOLDER_PATH is not set -/
def updateLibs (filenames : Option (List String)) (f : PipelineFactory) : Except Exn PipelineFactory :=
  match filenames with
  | none => .error (.std "PLUGINS_FOLDER_PATH environment variable is missing")
  | some plugins => .ok { f with m_libNames := plugins.foldl (fun libs plugin => insertLib plugin libs) f.m_libNames }

/-- null if the name was never registered -/
def getPipeline (f : PipelineFactory) (k : SocketKind) (pipelineName : String) : Option PipelineFunction :=
  (f.map k pipelineName).join

def loadPipeline (libnameothy : String → String × String) (dl : DynLink) (k : SocketKind) (pluginName : String)
    (f : PipelineFactory) : Except Exn PipelineFactory :=
  match f.m_libNames.find? (fun libPath => pluginName = (libnameothy libPath).1) with
  | none => .error (.std ("Pipeline plugin not found in plugins folder: " ++ pluginName))
  | some libPath =>
    let symbolName := (libnameothy libPath).2
    -- already loaded, and not as a null pointer
    if (f.map k symbolName).join.isSome then .ok f
    else
      match dl.dlopen libPath with
      | .error err => .error (.std ("dlopen('" ++ libPath ++ "') failed: " ++ err))
      | .ok handle =>
        match dl.dlsym handle symbolName with
        | .error err =>
          -- `err` is quoted after `dlclose(handle)`
          .error (.std ("dlsym('" ++ symbolName ++ "') failed in '" ++ libPath ++ "': " ++ dl.afterDlclose handle err))
        | .ok pipelineFunc => .ok (f.assign k symbolName pipelineFunc)

/-- `registerPipeline<T>`: loads into the map of the socket class `T` -/
def registerPipeline (libnameothy : String → String × String) (dl : DynLink) (k : SocketKind) (pipelineName : String)
    (f : PipelineFactory) : Except Exn PipelineFactory :=
  loadPipeline libnameothy dl k pipelineName f

/-! ## What an assignment and a load change -/

theorem assign_libNames (f : PipelineFactory) (k : SocketKind) (n : String) (p : Option PipelineFunction) :
    (f.assign k n p).m_libNames = f.m_libNames := by
  cases k <;> rfl

theorem assign_self (f : PipelineFactory) (k : SocketKind) (n : String) (p : Option PipelineFunction) :
    (f.assign k n p).map k = Function.update (f.map k) n (some p) := by
  cases k <;> rfl

theorem assign_other (f : PipelineFactory) {k k' : SocketKind} (n : String) (p : Option PipelineFunction) (h : k' ≠ k) :
    (f.assign k n p).map k' = f.map k' := by
  cases k <;> cases k' <;> first | rfl | exact absurd rfl h

theorem assign_entry (f : PipelineFactory) (k : SocketKind) (n : String) (p : Option PipelineFunction) :
    (f.assign k n p).map k n = some p := by
  rw [assign_self, Function.update_self]

/-- an assignment changes one entry of one map -/
theorem assign_other_entry (f : PipelineFactory) {k k' : SocketKind} {n m : String} (p : Option PipelineFunction)
    (h : ¬ (k' = k ∧ m = n)) : (f.assign k n p).map k' m = f.map k' m := by
  by_cases hk : k' = k
  · subst hk
    rw [assign_self, Function.update_of_ne fun hm => h ⟨rfl, hm⟩]
  · rw [assign_other f n p hk]

/-- **A load that returns** found a function under the symbol of the first library of the name, or put there what the linker
gave. -/
theorem loadPipeline_cases {libnameothy : String → String × String} {dl : DynLink} {k : SocketKind} {n : String}
    {f f' : PipelineFactory} (h : loadPipeline libnameothy dl k n f = .ok f') : ∃ libPath,
    f.m_libNames.find? (fun libPath => n = (libnameothy libPath).1) = some libPath ∧
      ((f' = f ∧ (f.map k (libnameothy libPath).2).join.isSome) ∨
        (¬ (f.map k (libnameothy libPath).2).join.isSome ∧ ∃ handle p, dl.dlopen libPath = .ok handle ∧
          dl.dlsym handle (libnameothy libPath).2 = .ok p ∧ f' = f.assign k (libnameothy libPath).2 p)) := by
  unfold loadPipeline at h
  cases hfind : f.m_libNames.find? (fun libPath => n = (libnameothy libPath).1) with
  | none => simp only [hfind] at h; cases h
  | some libPath =>
    refine ⟨libPath, rfl, ?_⟩
    simp only [hfind] at h
    split_ifs at h with hloaded
    · exact Or.inl ⟨(Except.ok.inj h).symm, hloaded⟩
    · cases hopen : dl.dlopen libPath with
      | error err => simp only [hopen] at h; cases h
      | ok handle =>
        cases hsym : dl.dlsym handle (libnameothy libPath).2 with
        | error err => simp only [hopen, hsym] at h; cases h
        | ok p =>
          simp only [hopen, hsym] at h
          exact Or.inr ⟨hloaded, handle, p, rfl, hsym, (Except.ok.inj h).symm⟩

/-- loading for one kind changes no other kind's map and no library name -/
theorem loadPipeline_frame {libnameothy : String → String × String} {dl : DynLink} {k : SocketKind} {n : String}
    {f f' : PipelineFactory} (h : loadPipeline libnameothy dl k n f = .ok f') :
    f'.m_libNames = f.m_libNames ∧ ∀ k', k' ≠ k → f'.map k' = f.map k' := by
  obtain ⟨libPath, -, ⟨rfl, -⟩ | ⟨-, handle, p, -, -, rfl⟩⟩ := loadPipeline_cases h
  · exact ⟨rfl, fun _ _ => rfl⟩
  · exact ⟨assign_libNames f k _ p, fun k' hk => assign_other f _ p hk⟩

/-! ## Where functions come from -/

/-- the function that the linker gives for the first library whose plugin name is the name -/
def LoadedFrom (libnameothy : String → String × String) (dl : DynLink) (libs : List String) (pluginName : String)
    (p : Option PipelineFunction) : Prop :=
  ∃ libPath handle, libs.find? (fun libPath => pluginName = (libnameothy libPath).1) = some libPath ∧
    dl.dlopen libPath = .ok handle ∧ dl.dlsym handle (libnameothy libPath).2 = .ok p

/-- everything registered for a kind was loaded under its own name -/
def AllLoaded (libnameothy : String → String × String) (dl : DynLink) (k : SocketKind) (f : PipelineFactory) : Prop :=
  ∀ n p, f.map k n = some p → LoadedFrom libnameothy dl f.m_libNames n p

/-- the symbol of the library that is found under a plugin name -/
theorem symbol_of_find {libnameothy : String → String × String} {libs : List String} {n libPath : String}
    (hname : ∀ libPath ∈ libs, (libnameothy libPath).1 = (libnameothy libPath).2)
    (hfind : libs.find? (fun libPath => n = (libnameothy libPath).1) = some libPath) : (libnameothy libPath).2 = n := by
  have hplugin : decide (n = (libnameothy libPath).1) = true :=
    List.find?_some (p := fun libPath => decide (n = (libnameothy libPath).1)) hfind
  rw [← hname libPath (List.mem_of_find?_eq_some hfind)]
  exact (of_decide_eq_true hplugin).symm

/-- **Loading by name.** Where a library's symbol is its plugin name, loading keeps everything loaded under its own name,
and the name that was asked for is registered. -/
theorem loadPipeline_loaded {libnameothy : String → String × String} {dl : DynLink} {k : SocketKind} {n : String}
    {f f' : PipelineFactory} (h : loadPipeline libnameothy dl k n f = .ok f')
    (hname : ∀ libPath ∈ f.m_libNames, (libnameothy libPath).1 = (libnameothy libPath).2)
    (hf : AllLoaded libnameothy dl k f) :
    AllLoaded libnameothy dl k f' ∧ ∃ p, f'.map k n = some p ∧ LoadedFrom libnameothy dl f'.m_libNames n p := by
  obtain ⟨libPath, hfind, hcases⟩ := loadPipeline_cases h
  have hn : (libnameothy libPath).2 = n := symbol_of_find hname hfind
  rw [hn] at hcases
  rcases hcases with ⟨rfl, hloaded⟩ | ⟨-, handle, p, hopen, hsym, rfl⟩
  · obtain ⟨p, hp⟩ : ∃ p, f'.map k n = some p := by
      cases hm : f'.map k n with
      | none => rw [hm] at hloaded; cases hloaded
      | some p => exact ⟨p, rfl⟩
    exact ⟨hf, p, hp, hf n p hp⟩
  · have hnew : LoadedFrom libnameothy dl f.m_libNames n p := ⟨libPath, handle, hfind, hopen, by rw [hn]; exact hsym⟩
    rw [assign_libNames]
    refine ⟨fun m q hm => ?_, p, assign_entry f k n p, hnew⟩
    rw [assign_libNames]
    by_cases hmn : m = n
    · subst hmn
      rw [assign_entry] at hm
      obtain rfl := Option.some.inj hm
      exact hnew
    · rw [assign_other_entry f p fun heq => hmn heq.2] at hm
      exact hf m q hm

/-- a factory that only scanned the folder has no function of any kind -/
theorem updateLibs_map {plugins : Option (List String)} {f : PipelineFactory} (h : empty.updateLibs plugins = .ok f)
    (k : SocketKind) (n : String) : f.map k n = none := by
  cases plugins with
  | none => cases h
  | some libs =>
    cases h
    cases k <;> rfl

end PipelineFactory

end Asabru.Pipelines
