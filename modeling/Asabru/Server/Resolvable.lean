/-
What the resolvers tell apart.

A port out of range is refused whatever the environment. In an environment in which every library is found and nothing
else fails, every other record resolves, so that what resolves alike in every environment has the same ports and servers.

Results:
- `resolveEndPoint_range`, `resolveProtocol_range`: a record that resolves has a port in range;
- `same_endPoints`: configurations that resolve alike have the same ports and servers, endpoint by endpoint.
-/
import Mathlib.Tactic
import Asabru.Server.Resolve

namespace Asabru.Server

open Asabru.Control Asabru.Xml Asabru.Config Asabru.Pipelines

/-! ## Ports -/

theorem not_inRange {port : Int} : port ≤ 0 ∨ 65535 < port ↔ portInRange port = false := by
  rw [← Bool.not_eq_true, portInRange_iff]
  omega

theorem resolveEndPoint_range {lib : Lib} {w : World} {e : RemoteEndPoint} {f f' : PipelineFactory}
    {cfg : ResolvedProxyConfig} (h : resolveEndPoint lib w e f = (.ok cfg, f')) : portInRange e.proxyPort = true := by
  unfold resolveEndPoint at h
  split_ifs at h with hport
  · cases h
  · rwa [not_inRange, Bool.not_eq_false] at hport

theorem resolveProtocol_range {lib : Lib} {w : World} {proto : ProtocolServerConfig} {f f' : PipelineFactory}
    {cfg : ResolvedProtocolConfig} (h : resolveProtocol lib w proto f = (.ok cfg, f')) :
    portInRange proto.protocol_port = true := by
  unfold resolveProtocol at h
  split_ifs at h with hport
  · cases h
  · rwa [not_inRange, Bool.not_eq_false] at hport

theorem resolveProtocol_invalid {lib : Lib} {w : World} {proto : ProtocolServerConfig}
    (h : portInRange proto.protocol_port = false) (f : PipelineFactory) :
    resolveProtocol lib w proto f = (.error (invalidProtocolPort proto), f) := by
  unfold resolveProtocol
  exact if_pos (not_inRange.2 h)

/-! ## An environment that resolves everything -/

/-- a factory that has found a library for each name -/
def lenientFactory (names : List String) : PipelineFactory := { PipelineFactory.empty with m_libNames := names }

theorem loadPipeline_lenient {x : TinyXml} {k : SocketKind} {n : String} {f : PipelineFactory} (h : n ∈ f.m_libNames) :
    ∃ f', f.registerPipeline (Lib.plain x).libnameothy World.calm.dl k n = .ok f' ∧ f'.m_libNames = f.m_libNames ∧
      (f'.getPipeline k n).isSome := by
  have hfind : f.m_libNames.find? (fun libPath => n = ((Lib.plain x).libnameothy libPath).1) = some n := by
    cases hf : f.m_libNames.find? (fun libPath => n = ((Lib.plain x).libnameothy libPath).1) with
    | none => exact absurd (decide_eq_true rfl) (List.find?_eq_none.1 hf n h)
    | some p =>
      have hp := List.find?_some (p := fun libPath => decide (n = ((Lib.plain x).libnameothy libPath).1)) hf
      rw [show n = p from of_decide_eq_true hp]
  unfold PipelineFactory.registerPipeline PipelineFactory.loadPipeline
  rw [hfind]
  by_cases hl : (f.map k n).join.isSome
  · exact ⟨f, if_pos hl, rfl, hl⟩
  · refine ⟨f.assign k n (some 0), if_neg hl, by cases k <;> rfl, ?_⟩
    unfold PipelineFactory.getPipeline
    rw [PipelineFactory.assign_self, Function.update_self]
    rfl

theorem resolveEndPoint_lenient {x : TinyXml} {e : RemoteEndPoint} {f : PipelineFactory}
    (hport : portInRange e.proxyPort = true) (h : e.pipeline ∈ f.m_libNames) :
    ∃ cfg f', resolveEndPoint (.plain x) .calm e f = (.ok cfg, f') ∧ f'.m_libNames = f.m_libNames := by
  obtain ⟨f', hf, hlibs, -⟩ := loadPipeline_lenient (x := x) (k := .proxy) h
  have hrange : ¬ (e.proxyPort ≤ 0 ∨ 65535 < e.proxyPort) := by
    rw [not_inRange, hport]
    exact nofun
  unfold resolveEndPoint
  rw [if_neg hrange, hf]
  exact ⟨_, f', rfl, hlibs⟩

theorem resolveProxy_lenient (x : TinyXml) {c : ProxyConfig} (names : List String)
    (hports : ∀ e ∈ c.endPoints, portInRange e.proxyPort = true) (hnames : ∀ e ∈ c.endPoints, e.pipeline ∈ names) :
    ∃ cfgs f', resolveProxyServerConfigurations (.plain x) .calm c (lenientFactory names) = (.ok cfgs, f') := by
  obtain ⟨cfgs, f', hr, -⟩ := traverse_total (resolveEndPoint (.plain x) .calm) c.endPoints
    (P := fun f => f.m_libNames = names) (s := lenientFactory names)
    (fun e he f hf => by
      obtain ⟨cfg, f', hr, hlibs⟩ := resolveEndPoint_lenient (x := x) (hports e he) (hf ▸ hnames e he)
      exact ⟨cfg, f', hr, hlibs.trans hf⟩) rfl
  exact ⟨cfgs, f', hr⟩

/-- configurations that resolve alike have the same ports and servers, endpoint by endpoint -/
theorem same_endPoints {c c' : ProxyConfig}
    (h : ∀ lib w f, resolveProxyServerConfigurations lib w c f = resolveProxyServerConfigurations lib w c' f)
    (hports : ∀ e ∈ c.endPoints, portInRange e.proxyPort = true) :
    List.Forall₂ (fun e e' => e.proxyPort = e'.proxyPort ∧ resolveServices e = resolveServices e') c.endPoints
      c'.endPoints := by
  obtain ⟨cfgs, f', hr⟩ := resolveProxy_lenient (TinyXml.table []) (c.endPoints.map RemoteEndPoint.pipeline) hports
    fun e he => List.mem_map_of_mem he
  have hres := resolveProxy_ok hr
  rw [h] at hr
  have hres' := resolveProxy_ok hr
  refine List.forall₂_iff_get.2 ⟨hres.length_eq.trans hres'.length_eq.symm, fun i hi hi' => ?_⟩
  have hcfg := (List.forall₂_iff_get.1 hres).2 i hi (hres.length_eq ▸ hi)
  have hcfg' := (List.forall₂_iff_get.1 hres').2 i hi' (hres.length_eq ▸ hi)
  exact ⟨hcfg.proxyPort.symm.trans hcfg'.proxyPort, hcfg.services.symm.trans hcfg'.services⟩

theorem resolveProtocol_lenient {x : TinyXml} {proto : ProtocolServerConfig} {f : PipelineFactory}
    (hport : portInRange proto.protocol_port = true) (h : proto.pipeline ∈ f.m_libNames) :
    ∃ cfg f', resolveProtocol (.plain x) .calm proto f = (.ok cfg, f') ∧ f'.m_libNames = f.m_libNames := by
  obtain ⟨f', hf, hlibs, hsome⟩ := loadPipeline_lenient (x := x) (k := .protocol) h
  obtain ⟨pipeline, hpipeline⟩ := Option.isSome_iff_exists.1 hsome
  have hrange : ¬ (proto.protocol_port ≤ 0 ∨ 65535 < proto.protocol_port) := by
    rw [not_inRange, hport]
    exact nofun
  obtain ⟨auth, hauth⟩ : ∃ auth, resolveAuth .calm proto.auth = .ok auth := by
    unfold resolveAuth
    cases proto.auth with
    | none => exact ⟨_, rfl⟩
    | some a =>
      cases ha : a.authorization with
      | none => exact ⟨_, by simp only [World.calm, resolveAuthorization, ha]; rfl⟩
      | some z => exact ⟨_, by simp only [World.calm, resolveAuthorization, ha]; rfl⟩
  unfold resolveProtocol
  rw [if_neg hrange, hf]
  simp only [hpipeline, hauth]
  exact ⟨_, f', rfl, hlibs⟩

end Asabru.Server
