/-
Which pipeline a started proxy runs.

`ResolveProxyServerConfigurations` loads every pipeline as one for thread-per-connection sockets, into the singleton's
factory. A libuv endpoint takes its pipeline from a factory local to `initProxyServers`, which only scanned the folder:
nothing is ever registered for libuv sockets.

- `pipelines_configured_iff`: on a start that returns 0, every endpoint's socket was given the non-null function loaded
  from the library of its PIPELINE iff no endpoint is a libuv one.
Counterexample: `libuv_runs_null`. Witness: `one_endpoint_configured`.

Premises, as hypotheses: `libnameothy` gives a plugin library one name for both, and `dlsym` reports an error rather than
return null. A fresh process: its factory scanned the folder and has loaded nothing.
-/
import Mathlib.Tactic
import Asabru.Server.ProxyStart

namespace Asabru.StartedPipelines

open Asabru.Control Asabru.Config Asabru.Server Asabru.Pipelines Asabru.Pipelines.PipelineFactory

/-- the pipeline that the socket of an endpoint was given, by the endpoint's kind -/
def pipelineAt (pipelineName : String) (s : State) (sid : SocketId) : Option (Option PipelineFunction) :=
  if isLibuv pipelineName then (s.libuvSockets sid).map LibuvSocket.pipeline
  else (s.proxySockets sid).map ProxySocket.pipeline

/-- the socket runs the function loaded from the library of the name -/
def RunsPipeline (lib : Lib) (w : World) (libs : List String) (pipelineName : String) (s : State) (sid : SocketId) : Prop :=
  ∃ p, pipelineAt pipelineName s sid = some (some p) ∧ LoadedFrom lib.libnameothy w.dl libs pipelineName (some p)

/-- every endpoint runs its pipeline: the endpoints take the addresses in order -/
def AllRunPipelines (lib : Lib) (w : World) (libs : List String) (c : ProxyConfig) (s : State) : Prop :=
  ∀ sid endpoint, c.endPoints[sid]? = some endpoint → RunsPipeline lib w libs endpoint.pipeline s sid

/-! ## Resolution -/

section Resolution

variable {lib : Lib} {w : World} {libs : List String}

/-- a resolved endpoint has the function of its pipeline's library -/
structure ResolvesPipeline (lib : Lib) (w : World) (libs : List String) (endpoint : RemoteEndPoint)
    (cfg : ResolvedProxyConfig) : Prop where
  resolves : ResolvesTo endpoint cfg
  loaded : ∃ p, cfg.pipeline = p ∧ LoadedFrom lib.libnameothy w.dl libs endpoint.pipeline p

theorem resolveEndPoint_pipeline {endpoint : RemoteEndPoint} {f f' : PipelineFactory} {cfg : ResolvedProxyConfig}
    (h : resolveEndPoint lib w endpoint f = (.ok cfg, f')) :
    f.registerPipeline lib.libnameothy w.dl .proxy endpoint.pipeline = .ok f' ∧
      cfg.pipeline = f'.getPipeline .proxy endpoint.pipeline := by
  unfold resolveEndPoint at h
  split_ifs at h
  · cases h
  · cases hr : f.registerPipeline lib.libnameothy w.dl .proxy endpoint.pipeline with
    | error e => simp only [hr] at h; cases h
    | ok f₁ =>
      simp only [hr] at h
      cases hc : w.registerCommand endpoint.handler with
      | some e => simp only [hc] at h; cases h
      | none =>
        simp only [hc] at h
        cases h
        exact ⟨rfl, rfl⟩

theorem resolveProxy_pipelines {c : ProxyConfig} {f f' : PipelineFactory} {cfgs : List ResolvedProxyConfig}
    (hname : ∀ libPath ∈ f.m_libNames, (lib.libnameothy libPath).1 = (lib.libnameothy libPath).2)
    (hloaded : AllLoaded lib.libnameothy w.dl .proxy f)
    (h : resolveProxyServerConfigurations lib w c f = (.ok cfgs, f')) :
    List.Forall₂ (ResolvesPipeline lib w f.m_libNames) c.endPoints cfgs := by
  refine traverse_forall₂ (P := fun g => AllLoaded lib.libnameothy w.dl .proxy g ∧ g.m_libNames = f.m_libNames) ?_ h
    ⟨hloaded, rfl⟩
  rintro endpoint g cfg g' ⟨hg, hlibs⟩ hstep
  obtain ⟨hreg, hpipeline⟩ := resolveEndPoint_pipeline hstep
  have hlibs' : g'.m_libNames = f.m_libNames := (loadPipeline_frame hreg).1.trans hlibs
  obtain ⟨hg', p, hp, hfrom⟩ := loadPipeline_loaded hreg (by rw [hlibs]; exact hname) hg
  refine ⟨⟨hg', hlibs'⟩, resolveEndPoint_ok hstep, p, ?_, hlibs' ▸ hfrom⟩
  rw [hpipeline, getPipeline, hp]
  rfl

end Resolution

/-! ## Start -/

/-- the endpoints `done` have the first addresses, and their sockets the pipelines they were given -/
structure Given (done : List ResolvedProxyConfig) (s : State) : Prop where
  next : s.nextSocket = done.length
  pipelines : ∀ sid cfg, done[sid]? = some cfg →
    pipelineAt cfg.pipelineName s sid = some (if isLibuv cfg.pipelineName then none else cfg.pipeline)

theorem Given.append {done : List ResolvedProxyConfig} {s t : State} {cfg : ResolvedProxyConfig} (h : Given done s)
    (hnext : t.nextSocket = s.nextSocket + 1)
    (hold : ∀ name sid, sid ≠ s.nextSocket → pipelineAt name t sid = pipelineAt name s sid)
    (hnew : pipelineAt cfg.pipelineName t s.nextSocket =
      some (if isLibuv cfg.pipelineName then none else cfg.pipeline)) : Given (done ++ [cfg]) t := by
  refine ⟨by rw [hnext, h.next, List.length_append, List.length_singleton], fun sid cfg' hget => ?_⟩
  rcases Nat.lt_trichotomy sid done.length with hlt | heq | hgt
  · rw [List.getElem?_append_left hlt] at hget
    have hne : sid ≠ s.nextSocket := Nat.ne_of_lt (h.next ▸ hlt)
    rw [hold _ _ hne]
    exact h.pipelines sid cfg' hget
  · subst heq
    simp only [List.getElem?_concat_length, Option.some.injEq] at hget
    subst hget
    rw [← h.next]
    exact hnew
  · have hout : (done ++ [cfg]).length ≤ sid := by
      rw [List.length_append, List.length_singleton]
      omega
    rw [List.getElem?_eq_none hout] at hget
    cases hget

theorem Given.step {lib : Lib} {w : World} {f : PipelineFactory} {done : List ResolvedProxyConfig} {s t : State}
    {cfg : ResolvedProxyConfig} (hnull : ∀ n, f.getPipeline .libuvProxy n = none) (h : Given done s)
    (hb : initProxyServer lib w f cfg s = (.ok (), t)) : Given (done ++ [cfg]) t := by
  rw [initProxyServer_ok hb, hnull]
  cases hl : isLibuv cfg.pipelineName with
  | true =>
    refine h.append rfl (fun name sid hne => ?_) ?_
    · simp [pipelineAt, State.withLibuv, Function.update_of_ne hne]
    · simp [pipelineAt, State.withLibuv, hl, startedLibuvSocket]
  | false =>
    refine h.append rfl (fun name sid hne => ?_) ?_
    · simp [pipelineAt, State.withProxy, Function.update_of_ne hne]
    · simp [pipelineAt, State.withProxy, hl, startedSocket]

/-- **Every started proxy runs its pipeline iff none is a libuv one.** -/
theorem pipelines_configured_iff {lib : Lib} {w : World} {c : Configs} {plugins : Option (List String)}
    {factory : PipelineFactory} {t : State} (hscan : PipelineFactory.empty.updateLibs plugins = .ok factory)
    (hname : ∀ libPath ∈ factory.m_libNames, (lib.libnameothy libPath).1 = (lib.libnameothy libPath).2)
    (hsym : ∀ handle symbol p, w.dl.dlsym handle symbol = .ok p → p.isSome)
    (hret : initProxyServers lib w (.fresh c factory) = (.ret 0, t)) :
    AllRunPipelines lib w factory.m_libNames c.m_ProxyConfig t ↔
      ∀ endpoint ∈ c.m_ProxyConfig.endPoints, isLibuv endpoint.pipeline = false := by
  have hloaded : AllLoaded lib.libnameothy w.dl .proxy factory := fun n p hp => by
    rw [updateLibs_map hscan] at hp
    cases hp
  obtain ⟨f, f', cfgs, us, hres, hloop, hlocal⟩ := initProxyServers_ok hret le_rfl
  have hpipelines := resolveProxy_pipelines hname hloaded hres
  have hnull : ∀ n, f.getPipeline .libuvProxy n = none := fun n => by rw [getPipeline, updateLibs_map hlocal]; rfl
  have hgiven : Given cfgs t := traverse_inv [] (fun _ _ _ _ _ _ hP hb => hP.step hnull hb) hloop
    ⟨rfl, fun _ _ h => (nomatch h)⟩
  -- the socket of each endpoint, by how the endpoint resolved
  have hsocket : ∀ sid endpoint, c.m_ProxyConfig.endPoints[sid]? = some endpoint →
      ∃ p, LoadedFrom lib.libnameothy w.dl factory.m_libNames endpoint.pipeline p ∧
        pipelineAt endpoint.pipeline t sid = some (if isLibuv endpoint.pipeline then none else p) := by
    intro sid endpoint hsid
    obtain ⟨cfg, hcfg, hresolves, p, rfl, hfrom⟩ := forall₂_at hpipelines hsid
    have hsock := hgiven.pipelines sid cfg hcfg
    rw [hresolves.pipelineName] at hsock
    exact ⟨_, hfrom, hsock⟩
  constructor
  · intro h endpoint hmem
    obtain ⟨sid, hsid⟩ := List.getElem?_of_mem hmem
    obtain ⟨p, hp, -⟩ := h sid endpoint hsid
    obtain ⟨q, -, hq⟩ := hsocket sid endpoint hsid
    cases hl : isLibuv endpoint.pipeline with
    | false => rfl
    | true =>
      rw [hp, hl, if_pos rfl] at hq
      cases hq
  · intro h sid endpoint hsid
    obtain ⟨p, hfrom, hp⟩ := hsocket sid endpoint hsid
    obtain ⟨_, _, _, _, hdl⟩ := id hfrom
    obtain ⟨q, rfl⟩ := Option.isSome_iff_exists.1 (hsym _ _ _ hdl)
    rw [h endpoint (List.mem_of_getElem? hsid)] at hp
    exact ⟨q, hp, hfrom⟩

/-! ## Fixed starts -/

/-- the folder holds the libuv plugin -/
def libuvWorld : World := { World.calm with plugins := some ["ClickHouseLibuvPipeline"] }

def libuvFactory : PipelineFactory := { PipelineFactory.empty with m_libNames := ["ClickHouseLibuvPipeline"] }

def libuvConfigs : Configs := plainConfigs [{ plainEndPoint "a" "" [] with pipeline := "ClickHouseLibuvPipeline" }]

/-- **A libuv endpoint runs a null pipeline**, although its plugin is there and the start returned 0. -/
theorem libuv_runs_null :
    (initProxyServers (.plain (.table [])) libuvWorld (.fresh libuvConfigs libuvFactory)).1 = .ret 0 ∧
      ¬ AllRunPipelines (.plain (.table [])) libuvWorld libuvFactory.m_libNames libuvConfigs.m_ProxyConfig
        (initProxyServers (.plain (.table [])) libuvWorld (.fresh libuvConfigs libuvFactory)).2 := by
  refine ⟨by decide, fun h => ?_⟩
  obtain ⟨p, hp, -⟩ := h 0 _ rfl
  have hnull : pipelineAt "ClickHouseLibuvPipeline"
      (initProxyServers (.plain (.table [])) libuvWorld (.fresh libuvConfigs libuvFactory)).2 0 = some none := by decide
  cases hnull.symm.trans hp

/-- **Witness.** An endpoint served by the folder's only plugin. -/
theorem one_endpoint_configured : AllRunPipelines (.plain (.table [])) .calm plainFactory.m_libNames
    (plainConfigs [plainEndPoint "a" "" []]).m_ProxyConfig
    (initProxyServers (.plain (.table [])) .calm (.fresh (plainConfigs [plainEndPoint "a" "" []]) plainFactory)).2 := by
  refine (@pipelines_configured_iff _ _ _ (some ["Pipeline"]) _ _ rfl (fun _ _ => rfl) (fun _ _ p hp => ?_)
    (Prod.ext (by decide) rfl)).2 (by decide)
  cases hp
  rfl

end Asabru.StartedPipelines
