/-
THE PIPELINE STORE over any sequence of scans and registrations on one factory.

A registration looks its library up by plugin name, in the names scanned so far, and caches the function under the
library's symbol. The folder may change from scan to scan and the dynamic linker from call to call; a call may throw.

- `store_invariant`: a name is in the map of a kind iff a registration of it for that kind has returned, with the non-null
  function that the linker gave to the first one that did (`FirstLoad`);
- `pipeline_store`: what a lookup returns, now and after any further calls; a call that throws changes no map, and a call
  for one kind no lookup of another.
Witness: `store_of_two_kinds`.

Premises, as hypotheses: the two components of `libnameothy` coincide on the libraries that are scanned, and `dlsym` returns
no null pointer when it reports no error.
-/
import Mathlib.Tactic
import Asabru.Config.FactoryCalls

namespace Asabru.PipelineStore

open Asabru.Control Asabru.Pipelines Asabru.Pipelines.PipelineFactory

/-! ## Returned registrations -/

/-- a registration of the name for the kind that returned -/
def registers (k : SocketKind) (n : String) (s : FactoryStep) : Bool :=
  match s.call, s.result with
  | .registerPipeline k' n' _, .ok _ => k' = k && n' = n
  | _, _ => false

theorem registers_iff {k : SocketKind} {n : String} {s : FactoryStep} :
    registers k n s = true ↔ ∃ dl, s.call = .registerPipeline k n dl ∧ s.result = .ok () := by
  unfold registers
  cases hc : s.call with
  | updateLibs filenames => simp
  | registerPipeline k' n' dl =>
    cases hr : s.result with
    | error e => simp
    | ok u => simp

/-- what the linker gave to the first registration that returned -/
def FirstLoad (libnameothy : String → String × String) (trace : List FactoryStep) (k : SocketKind) (n : String)
    (p : PipelineFunction) : Prop :=
  ∃ s dl, trace.find? (registers k n) = some s ∧ s.call = .registerPipeline k n dl ∧
    LoadedFrom libnameothy dl s.before.m_libNames n (some p)

/-- what the calls are assumed to see of libraries and linker -/
structure Premises (libnameothy : String → String × String) (trace : List FactoryStep) : Prop where
  symbols : ∀ s ∈ trace, ∀ filenames, s.call = .updateLibs (some filenames) →
    ∀ libPath ∈ filenames, (libnameothy libPath).1 = (libnameothy libPath).2
  linker : ∀ s ∈ trace, ∀ k n dl, s.call = .registerPipeline k n dl → ∀ handle symbolName, dl.dlsym handle symbolName ≠ .ok none

variable {libnameothy : String → String × String} {trace rest : List FactoryStep} {f : PipelineFactory}

theorem Premises.left (h : Premises libnameothy (trace ++ rest)) : Premises libnameothy trace :=
  ⟨fun s hs => h.symbols s (List.mem_append_left rest hs), fun s hs => h.linker s (List.mem_append_left rest hs)⟩

theorem FirstLoad.append {k : SocketKind} {n : String} {p : PipelineFunction} (h : FirstLoad libnameothy trace k n p)
    (rest : List FactoryStep) : FirstLoad libnameothy (trace ++ rest) k n p := by
  obtain ⟨s, dl, hfind, hs⟩ := h
  exact ⟨s, dl, by rw [List.find?_append, hfind]; rfl, hs⟩

/-- the first load of a longer sequence is that of its beginning, if there is a registration in it -/
theorem FirstLoad.of_append {k : SocketKind} {n : String} {p : PipelineFunction}
    (h : FirstLoad libnameothy (trace ++ rest) k n p) (hreg : ∃ s ∈ trace, registers k n s) :
    FirstLoad libnameothy trace k n p := by
  obtain ⟨s, dl, hfind, hs⟩ := h
  obtain ⟨s', hs'⟩ := Option.isSome_iff_exists.1 (List.find?_isSome.2 hreg)
  rw [List.find?_append, hs'] at hfind
  exact ⟨s, dl, hs'.trans hfind, hs⟩

theorem FirstLoad.unique {k : SocketKind} {n : String} {p q : PipelineFunction} (hp : FirstLoad libnameothy trace k n p)
    (hq : FirstLoad libnameothy trace k n q) : p = q := by
  obtain ⟨s, dl, hs, hcall, libPath, handle, hfind, hopen, hsym⟩ := hp
  obtain ⟨s', dl', hs', hcall', libPath', handle', hfind', hopen', hsym'⟩ := hq
  obtain rfl := Option.some.inj (hs.symm.trans hs')
  cases hcall.symm.trans hcall'
  obtain rfl := Option.some.inj (hfind.symm.trans hfind')
  obtain rfl := Except.ok.inj (hopen.symm.trans hopen')
  exact Option.some.inj (Except.ok.inj (hsym.symm.trans hsym'))

/-! ## The invariant -/

/-- the maps and the history of a factory -/
structure StoreInvariant (libnameothy : String → String × String) (trace : List FactoryStep) (f : PipelineFactory) :
    Prop where
  libraries : ∀ libPath ∈ f.m_libNames, (libnameothy libPath).1 = (libnameothy libPath).2
  loaded : ∀ k n q, f.map k n = some q → ∃ p, q = some p ∧ FirstLoad libnameothy trace k n p
  registered : ∀ k n, (∃ s ∈ trace, registers k n s) → f.map k n ≠ none

theorem mem_insertLib {plugin libPath : String} {libs : List String} (h : libPath ∈ insertLib plugin libs) :
    libPath = plugin ∨ libPath ∈ libs := by
  induction libs with
  | nil => simpa [insertLib] using h
  | cons l libs ih =>
    unfold insertLib at h
    split_ifs at h
    · exact Or.inr h
    · exact List.mem_cons.1 h
    · rcases List.mem_cons.1 h with rfl | h
      · exact Or.inr List.mem_cons_self
      · exact (ih h).imp id (List.mem_cons_of_mem l)

theorem mem_insertLibs {plugins libs : List String} {libPath : String}
    (h : libPath ∈ plugins.foldl (fun libs plugin => insertLib plugin libs) libs) : libPath ∈ plugins ∨ libPath ∈ libs := by
  induction plugins generalizing libs with
  | nil => exact Or.inr h
  | cons plugin plugins ih =>
    rcases ih h with h | h
    · exact Or.inl (List.mem_cons_of_mem plugin h)
    · rcases mem_insertLib h with rfl | h
      · exact Or.inl List.mem_cons_self
      · exact Or.inr h

/-- a step that changes no map and registers nothing new -/
theorem StoreInvariant.unchanged {s : FactoryStep} {f' : PipelineFactory} (h : StoreInvariant libnameothy trace f)
    (hlibs : ∀ libPath ∈ f'.m_libNames, (libnameothy libPath).1 = (libnameothy libPath).2) (hmap : f'.map = f.map)
    (hreg : ∀ k n, registers k n s → f.map k n ≠ none) : StoreInvariant libnameothy (trace ++ [s]) f' := by
  refine ⟨hlibs, fun k n q hq => ?_, fun k n hsome => ?_⟩
  · rw [hmap] at hq
    obtain ⟨p, hp, hfirst⟩ := h.loaded k n q hq
    exact ⟨p, hp, hfirst.append [s]⟩
  · rw [hmap]
    obtain ⟨s', hs', hregisters⟩ := hsome
    rcases List.mem_append.1 hs' with hs' | hs'
    · exact h.registered k n ⟨s', hs', hregisters⟩
    · exact hreg k n (List.mem_singleton.1 hs' ▸ hregisters)

/-- a scan -/
theorem StoreInvariant.updateLibs (h : StoreInvariant libnameothy trace f) (filenames : Option (List String))
    (hsymbols : ∀ plugins, filenames = some plugins → ∀ libPath ∈ plugins, (libnameothy libPath).1 = (libnameothy libPath).2) :
    StoreInvariant libnameothy (trace ++ [f.step libnameothy (.updateLibs filenames)])
      (f.step libnameothy (.updateLibs filenames)).after := by
  refine h.unchanged ?_ (call_updateLibs_map libnameothy f filenames) fun k n hreg => ?_
  · cases filenames with
    | none => exact h.libraries
    | some plugins =>
      intro libPath hmem
      rcases mem_insertLibs hmem with hmem | hmem
      · exact hsymbols plugins rfl libPath hmem
      · exact h.libraries libPath hmem
  · obtain ⟨dl, hcall, -⟩ := registers_iff.1 hreg
    cases hcall

/-- a registration that found its function in the map, or threw -/
theorem StoreInvariant.kept {k : SocketKind} {n : String} {dl : DynLink} (h : StoreInvariant libnameothy trace f)
    (hafter : (f.step libnameothy (.registerPipeline k n dl)).after = f)
    (hreg : (f.step libnameothy (.registerPipeline k n dl)).result = .ok () → f.map k n ≠ none) :
    StoreInvariant libnameothy (trace ++ [f.step libnameothy (.registerPipeline k n dl)])
      (f.step libnameothy (.registerPipeline k n dl)).after := by
  rw [hafter]
  refine h.unchanged h.libraries rfl fun k' n' hregisters => ?_
  obtain ⟨dl', hcall, hres⟩ := registers_iff.1 hregisters
  cases hcall
  exact hreg hres

/-- what the loader does not find in the map was never registered -/
theorem StoreInvariant.fresh {k : SocketKind} {n : String} (h : StoreInvariant libnameothy trace f)
    (hnone : ¬ (f.map k n).join.isSome) : trace.find? (registers k n) = none := by
  have habsent : f.map k n = none := by
    cases hm : f.map k n with
    | none => rfl
    | some q =>
      obtain ⟨p, rfl, -⟩ := h.loaded k n q hm
      rw [hm] at hnone
      exact absurd rfl hnone
  rw [List.find?_eq_none]
  intro s hs hregisters
  exact h.registered k n ⟨s, hs, hregisters⟩ habsent

/-- a load after which the first registration has returned -/
theorem firstLoad_of_fresh {k : SocketKind} {n : String} {dl : DynLink} {p : PipelineFunction}
    (hfresh : trace.find? (registers k n) = none)
    (hres : (f.step libnameothy (.registerPipeline k n dl)).result = .ok ())
    (hfrom : LoadedFrom libnameothy dl f.m_libNames n (some p)) :
    FirstLoad libnameothy (trace ++ [f.step libnameothy (.registerPipeline k n dl)]) k n p := by
  have hnew : registers k n (f.step libnameothy (.registerPipeline k n dl)) = true := registers_iff.2 ⟨dl, rfl, hres⟩
  refine ⟨f.step libnameothy (.registerPipeline k n dl), dl, ?_, rfl, hfrom⟩
  rw [List.find?_append, hfresh, List.find?_cons_of_pos hnew]
  rfl

/-- a registration that loaded its function -/
theorem StoreInvariant.assigned {k : SocketKind} {n : String} {dl : DynLink} {p : PipelineFunction}
    (h : StoreInvariant libnameothy trace f) (hnone : ¬ (f.map k n).join.isSome)
    (hres : (f.step libnameothy (.registerPipeline k n dl)).result = .ok ())
    (hfrom : LoadedFrom libnameothy dl f.m_libNames n (some p)) :
    StoreInvariant libnameothy (trace ++ [f.step libnameothy (.registerPipeline k n dl)]) (f.assign k n (some p)) := by
  refine ⟨?_, fun k' n' q hq => ?_, fun k' n' hsome => ?_⟩
  · rw [assign_libNames]
    exact h.libraries
  · by_cases hsame : k' = k ∧ n' = n
    · obtain ⟨rfl, rfl⟩ := hsame
      rw [assign_entry] at hq
      exact ⟨p, (Option.some.inj hq).symm, firstLoad_of_fresh (h.fresh hnone) hres hfrom⟩
    · rw [assign_other_entry f (some p) hsame] at hq
      obtain ⟨p', hp', hfirst⟩ := h.loaded k' n' q hq
      exact ⟨p', hp', hfirst.append _⟩
  · by_cases hsame : k' = k ∧ n' = n
    · obtain ⟨rfl, rfl⟩ := hsame
      rw [assign_entry]
      exact Option.some_ne_none _
    · rw [assign_other_entry f (some p) hsame]
      obtain ⟨s, hs, hregisters⟩ := hsome
      rcases List.mem_append.1 hs with hs | hs
      · exact h.registered k' n' ⟨s, hs, hregisters⟩
      · obtain rfl := List.mem_singleton.1 hs
        obtain ⟨dl', hcall, -⟩ := registers_iff.1 hregisters
        cases hcall
        exact absurd ⟨rfl, rfl⟩ hsame

/-- a registration -/
theorem StoreInvariant.registerPipeline {k : SocketKind} {n : String} {dl : DynLink}
    (h : StoreInvariant libnameothy trace f) (hlinker : ∀ handle symbolName, dl.dlsym handle symbolName ≠ .ok none) :
    StoreInvariant libnameothy (trace ++ [f.step libnameothy (.registerPipeline k n dl)])
      (f.step libnameothy (.registerPipeline k n dl)).after := by
  have hcall : f.call libnameothy (.registerPipeline k n dl) = f.settle (f.registerPipeline libnameothy dl k n) :=
    call_registerPipeline libnameothy f k n dl
  cases hr : f.registerPipeline libnameothy dl k n with
  | error e =>
    rw [hr] at hcall
    refine h.kept (congrArg Prod.snd hcall) fun hres => ?_
    have hthrows : (f.call libnameothy (.registerPipeline k n dl)).1 = .error e := congrArg Prod.fst hcall
    cases hthrows.symm.trans hres
  | ok f' =>
    rw [hr] at hcall
    have hres : (f.step libnameothy (.registerPipeline k n dl)).result = .ok () := congrArg Prod.fst hcall
    have hafter : (f.step libnameothy (.registerPipeline k n dl)).after = f' := congrArg Prod.snd hcall
    obtain ⟨libPath, hfind, hcases⟩ := loadPipeline_cases hr
    have hn : (libnameothy libPath).2 = n := symbol_of_find h.libraries hfind
    rw [hn] at hcases
    rcases hcases with ⟨rfl, hloaded⟩ | ⟨hnone, handle, q, hopen, hsym, rfl⟩
    · refine h.kept hafter fun _ hm => ?_
      rw [hm] at hloaded
      cases hloaded
    · cases q with
      | none => exact absurd hsym (hlinker handle n)
      | some p =>
        rw [hafter]
        exact h.assigned hnone hres ⟨libPath, handle, hfind, hopen, by rw [hn]; exact hsym⟩

/-- **The invariant of the store** holds after every sequence of calls. -/
theorem store_invariant (h : FactoryRun libnameothy trace f) (hp : Premises libnameothy trace) :
    StoreInvariant libnameothy trace f := by
  induction h with
  | start =>
    refine ⟨fun libPath hmem => ?_, fun k n q hq => ?_, fun k n hsome => ?_⟩
    · cases hmem
    · cases k <;> cases hq
    · obtain ⟨s, hs, -⟩ := hsome
      cases hs
  | @call trace f _ c ih =>
    have hlast : f.step libnameothy c ∈ trace ++ [f.step libnameothy c] :=
      List.mem_append_right trace (List.mem_singleton_self _)
    cases c with
    | updateLibs filenames =>
      refine (ih hp.left).updateLibs filenames fun plugins hplugins => ?_
      exact hp.symbols _ hlast plugins (by rw [← hplugins]; rfl)
    | registerPipeline k n dl => exact (ih hp.left).registerPipeline (hp.linker _ hlast k n dl rfl)

/-! ## What a caller can rely on -/

structure StableStore (libnameothy : String → String × String) (trace : List FactoryStep) (f : PipelineFactory) : Prop where
  /-- from the first registration that returned on, whatever is called after it -/
  registered : ∀ k n, (∃ s ∈ trace, registers k n s) → ∃ p, FirstLoad libnameothy trace k n p ∧
    ∀ rest f', FactoryRun libnameothy (trace ++ rest) f' → Premises libnameothy (trace ++ rest) →
      f'.getPipeline k n = some p
  unregistered : ∀ k n, (∀ s ∈ trace, ¬ registers k n s) → f.getPipeline k n = none
  thrown : ∀ s ∈ trace, ∀ e, s.result = .error e → ∀ k, s.after.map k = s.before.map k
  kinds : ∀ s ∈ trace, ∀ k n dl, s.call = .registerPipeline k n dl → ∀ k', k' ≠ k → ∀ n',
    s.after.getPipeline k' n' = s.before.getPipeline k' n'

/-- a name in a map is the one its first load put there -/
theorem StoreInvariant.lookup {k : SocketKind} {n : String} (h : StoreInvariant libnameothy trace f)
    (hreg : ∃ s ∈ trace, registers k n s) : ∃ p, FirstLoad libnameothy trace k n p ∧ f.getPipeline k n = some p := by
  obtain ⟨q, hq⟩ := Option.ne_none_iff_exists'.1 (h.registered k n hreg)
  obtain ⟨p, rfl, hfirst⟩ := h.loaded k n q hq
  exact ⟨p, hfirst, by rw [getPipeline, hq]; rfl⟩

/-- **The store is stable and per kind**, for every sequence of calls. -/
theorem pipeline_store (h : FactoryRun libnameothy trace f) (hp : Premises libnameothy trace) :
    StableStore libnameothy trace f := by
  have hinv := store_invariant h hp
  refine ⟨fun k n hreg => ?_, fun k n hnone => ?_, fun s hs e he k => ?_, fun s hs k n dl hcall k' hk n' => ?_⟩
  · obtain ⟨p, hfirst, -⟩ := hinv.lookup hreg
    refine ⟨p, hfirst, fun rest f' h' hp' => ?_⟩
    obtain ⟨s, hs, hregisters⟩ := hreg
    obtain ⟨p', hfirst', hlookup⟩ := (store_invariant h' hp').lookup ⟨s, List.mem_append_left rest hs, hregisters⟩
    rw [hlookup, (hfirst'.of_append ⟨s, hs, hregisters⟩).unique hfirst]
  · cases hm : f.map k n with
    | none => rw [getPipeline, hm]; rfl
    | some q =>
      obtain ⟨p, -, s, dl, hfind, -⟩ := hinv.loaded k n q hm
      exact absurd (List.find?_some hfind) (hnone s (List.mem_of_find?_eq_some hfind))
  · rw [h.error hs he]
  · rw [getPipeline, getPipeline, h.other_kind hs hcall hk]

/-! ## One library, two kinds -/

/-- `libnameothy` on the library that is scanned -/
def stripped (_ : String) : String × String := ("Pipeline", "Pipeline")

def linker (p : PipelineFunction) : DynLink := ⟨fun _ => .ok 0, fun _ _ => .ok (some p), fun _ err => err⟩

def scanned : FactoryStep := PipelineFactory.empty.step stripped (.updateLibs (some ["/plugins/libPipeline.so"]))

def forProxy : FactoryStep := scanned.after.step stripped (.registerPipeline .proxy "Pipeline" (linker 1))

/-- a second registration, with another linker -/
def again : FactoryStep := forProxy.after.step stripped (.registerPipeline .proxy "Pipeline" (linker 3))

def forProtocol : FactoryStep := again.after.step stripped (.registerPipeline .protocol "Pipeline" (linker 2))

theorem run_of_two_kinds : FactoryRun stripped [scanned, forProxy, again, forProtocol] forProtocol.after :=
  (((FactoryRun.start.call _).call _).call _).call _

/-- **The store of two kinds** keeps for each what its first registration loaded. -/
theorem store_of_two_kinds :
    StableStore stripped [scanned, forProxy, again, forProtocol] forProtocol.after ∧
      forProtocol.after.getPipeline .proxy "Pipeline" = some 1 ∧
      forProtocol.after.getPipeline .protocol "Pipeline" = some 2 ∧
      forProtocol.after.getPipeline .apiGateway "Pipeline" = none := by
  refine ⟨pipeline_store run_of_two_kinds ⟨fun _ _ _ _ _ _ => rfl, ?_⟩, by decide, by decide, by decide⟩
  intro s hs k n dl hcall handle symbolName hnull
  simp only [List.mem_cons, List.not_mem_nil, or_false] at hs
  rcases hs with rfl | rfl | rfl | rfl
  · cases hcall
  all_goals
    cases hcall
    cases hnull

end Asabru.PipelineStore
