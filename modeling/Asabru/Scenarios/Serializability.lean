/-
CONCURRENT MANAGEMENT REQUESTS: when any interleaving of them is as good as one after another.

ConfigSingleton.h wants its writers serialised by the HTTP API and guards single accesses only. A request is a read, a
private edit, a store, a resolution and a pass of calls, and two of them may interleave anywhere in between.

- `serializable_when_apart`: any number of requests, valid or not, in any interleaving in which no request stores while
  another is between its read (or load) and its resolution, and none resolves while another is between its resolution and
  its last call, leaves what they leave one after another, in the order of their stores.
Witness: `apart_adds_are_kept`. Counterexample: `interleaved_add_is_lost`.
-/
import Mathlib.Tactic
import Asabru.Server.Interleaving

namespace Asabru.Serializability

open Asabru.Control Asabru.Xml Asabru.Config Asabru.Server Asabru.Interleave

/-! ## The property -/

variable {ι : Type}

/-- the stored proxy configuration and the list under every registered name -/
structure SameOutcome (s t : State) : Prop where
  stored : s.configs.m_ProxyConfig = t.configs.m_ProxyConfig
  lists : ∀ name, (s.reach name).map s.servers = (t.reach name).map t.servers

/-- a request as a whole -/
def act (lib : Lib) (requests : ι → World × Request) (i : ι) (s : State) : State :=
  (s.request lib (requests i).1 (requests i).2).2

/-- the state is the outcome of all requests one after another, in some order -/
def Serializable (lib : Lib) (requests : ι → World × Request) (s₀ s : State) : Prop :=
  ∃ order : List ι, order.Nodup ∧ (∀ i, i ∈ order) ∧ SameOutcome s (serially (act lib requests) order s₀)

/-- a step of the request of a thread -/
def step (lib : Lib) (requests : ι → World × Request) (i : ι) : Thread → State → Option (Thread × State) :=
  stepRequest lib (requests i).1 (requests i).2

/-- no request has begun -/
def begun (s₀ : State) : Machine ι Thread State := ⟨fun _ => .waiting, s₀⟩

def Finished (m : Machine ι Thread State) : Prop := ∀ i, ∃ ending, m.control i = .finished ending

/-! ## The discipline -/

/-- between its read, or its load, and its resolution -/
def preparing : Thread → Bool
  | .edited _ => true
  | .stored => true
  | _ => false

/-- what is left between its resolution and its last call -/
def applyingPart : Thread → Option (List ResolvedProxyConfig × List Call)
  | .applying configs calls => some (configs, calls)
  | _ => none

/-- between its store and its resolution -/
def storedPart : Thread → Option Unit
  | .stored => some ()
  | _ => none

/-- the next step stores a configuration -/
def stores (r : Request) : Thread → Bool
  | .edited _ => true
  | .waiting => match r with
    | .updateConfiguration _ => true
    | .updateEndPointService _ => false
  | _ => false

/-- no store while another request prepares, and no resolution while another one applies -/
def KeptApart (requests : ι → World × Request) (i : ι) (m : Machine ι Thread State) : Prop :=
  (stores (requests i).2 (m.control i) = true → ∀ j, j ≠ i → preparing (m.control j) = false) ∧
    (m.control i = .stored → ∀ j, j ≠ i → applyingPart (m.control j) = none)

/-! ## What is pending -/

section Pending

variable {lib : Lib} {requests : ι → World × Request}

/-- the copy is the edit of what is stored that the request asks for -/
def EditOf (lib : Lib) (w : World) (r : Request) (s : State) (copy : ProxyConfig) : Prop :=
  ∃ content req cs, r = .updateEndPointService content ∧
    loadEndpointServiceFromString lib.xml w.uninit content = .ok req ∧
    editClusters req s.configs.m_ProxyConfig.clusters = some cs ∧ copy = ⟨cs⟩

/-- the calls that are left of the pass in progress -/
def completeApplying (lib : Lib) (a : Option (ι × List ResolvedProxyConfig × List Call)) (s : State) : State :=
  match a with
  | none => s
  | some (_, configs, calls) => finishApplying lib configs calls s

/-- then the pass of the request that has stored -/
def complete (lib : Lib) (requests : ι → World × Request) (a : Option (ι × List ResolvedProxyConfig × List Call))
    (b : Option (ι × Unit)) (s : State) : State :=
  match b with
  | none => completeApplying lib a s
  | some (i, _) => (updateProxyServers lib (requests i).1 (completeApplying lib a s)).2

/-- `t` is what the machine comes to when the passes in progress are completed -/
structure Pending (lib : Lib) (requests : ι → World × Request) (m : Machine ι Thread State) (t : State) : Prop where
  edits : ∀ i copy, m.control i = .edited copy → EditOf lib (requests i).1 (requests i).2 m.shared copy
  passes : ∃ a b, Sole applyingPart m a ∧ Sole storedPart m b ∧ t = complete lib requests a b m.shared

theorem completeApplying_withConfigs (a : Option (ι × List ResolvedProxyConfig × List Call)) (c : Configs) (s : State) :
    completeApplying lib a (s.withConfigs c) = (completeApplying lib a s).withConfigs c := by
  cases a with
  | none => rfl
  | some a => exact finishApplying_withConfigs lib a.2.1 a.2.2 c s

theorem complete_configs (a : Option (ι × List ResolvedProxyConfig × List Call)) (b : Option (ι × Unit)) (s : State) :
    (complete lib requests a b s).configs = s.configs := by
  have ha : (completeApplying lib a s).configs = s.configs := by
    cases a with
    | none => rfl
    | some a => exact finishApplying_configs lib a.2.1 a.2.2 s
  cases b with
  | none => exact ha
  | some i => exact (updateProxyServers_untouched lib (requests i.1).1 _).configs.trans ha

/-- a service update that edits the copy it read stores the copy and passes over it -/
theorem act_edit {i : ι} {s t : State} {copy : ProxyConfig}
    (h : EditOf lib (requests i).1 (requests i).2 s copy) (hs : t.configs = s.configs) :
    act lib requests i t = (updateProxyServers lib (requests i).1 (t.setProxyConfig copy)).2 := by
  obtain ⟨content, req, cs, hr, hload, hedit, rfl⟩ := h
  unfold act
  rw [hr]
  simp only [State.request, updateEndPointService_eq, hload,
    updateProxyEndPointService_eq (loadEndpointService_operation hload), hs, hedit]

variable {m : Machine ι Thread State} {t : State} {i : ι}

theorem Pending.configs (h : Pending lib requests m t) : t.configs = m.shared.configs := by
  obtain ⟨a, b, -, -, rfl⟩ := h.passes
  exact complete_configs a b m.shared

/-- a machine whose requests have all finished has nothing pending -/
theorem Pending.finished (h : Pending lib requests m t) (hdone : Finished m) : t = m.shared := by
  obtain ⟨a, b, ha, hb, rfl⟩ := h.passes
  have hnone : ∀ j, applyingPart (m.control j) = none ∧ storedPart (m.control j) = none := by
    intro j
    obtain ⟨ending, hj⟩ := hdone j
    rw [hj]
    exact ⟨rfl, rfl⟩
  rw [ha.vacant fun j => (hnone j).1, hb.vacant fun j => (hnone j).2]
  rfl

/-! ## What a step does to it -/

variable [DecidableEq ι]

/-- a step that does not store keeps the edits of the copies -/
theorem edits_kept (h : Pending lib requests m t) {c : Thread} {s : State} (hs : s.configs = m.shared.configs)
    (hc : ∀ copy, c = .edited copy → EditOf lib (requests i).1 (requests i).2 m.shared copy) :
    ∀ j copy, (m.move i c s).control j = .edited copy → EditOf lib (requests j).1 (requests j).2 s copy := by
  intro j copy hj
  have hedit : EditOf lib (requests j).1 (requests j).2 m.shared copy := by
    by_cases hji : j = i
    · subst hji
      rw [move_self] at hj
      exact hc copy hj
    · rw [move_other m hji] at hj
      exact h.edits j copy hj
  unfold EditOf at hedit ⊢
  rwa [hs]

/-- a step that stores finds no other copy -/
theorem edits_gone {c : Thread} {s : State} (hfree : ∀ j, j ≠ i → preparing (m.control j) = false)
    (hc : ∀ copy, c ≠ .edited copy) :
    ∀ j copy, (m.move i c s).control j = .edited copy → EditOf lib (requests j).1 (requests j).2 s copy := by
  intro j copy hj
  by_cases hji : j = i
  · rw [hji, move_self] at hj
    exact absurd hj (hc copy)
  · rw [move_other m hji] at hj
    have := hfree j hji
    rw [hj] at this
    cases this

theorem storedPart_of_preparing {c : Thread} (h : preparing c = false) : storedPart c = none := by
  cases c <;> first | rfl | cases h

/-- a thread that is in no pass -/
def Outside (c : Thread) : Prop := applyingPart c = none ∧ storedPart c = none

/-- a step outside the passes that stores nothing -/
theorem Pending.quiet (h : Pending lib requests m t) (hi : Outside (m.control i)) {c : Thread} (hc : Outside c)
    (hedit : ∀ copy, c = .edited copy → EditOf lib (requests i).1 (requests i).2 m.shared copy) :
    Pending lib requests (m.move i c m.shared) t := by
  obtain ⟨a, b, ha, hb, ht⟩ := h.passes
  exact ⟨edits_kept h rfl hedit, a, b, ha.keep (hc.1.trans hi.1.symm), hb.keep (hc.2.trans hi.2.symm), ht⟩

/-- while no other request prepares, none has stored -/
theorem Pending.applying (h : Pending lib requests m t) (hi : Outside (m.control i))
    (hfree : ∀ j, j ≠ i → preparing (m.control j) = false) :
    ∃ a, Sole applyingPart m a ∧ t = completeApplying lib a m.shared := by
  obtain ⟨a, b, ha, hb, ht⟩ := h.passes
  have hnone : b = none := by
    refine hb.vacant fun j => ?_
    by_cases hj : j = i
    · rw [hj]
      exact hi.2
    · exact storedPart_of_preparing (hfree j hj)
  subst hnone
  exact ⟨a, ha, ht⟩

/-- **A store** comes after the pass in progress and before its own. -/
theorem Pending.store (h : Pending lib requests m t) (hi : Outside (m.control i))
    (hfree : ∀ j, j ≠ i → preparing (m.control j) = false) (configs : Configs) :
    Pending lib requests (m.move i .stored (m.shared.withConfigs configs))
      (updateProxyServers lib (requests i).1 (t.withConfigs configs)).2 := by
  obtain ⟨a, ha, rfl⟩ := h.applying hi hfree
  refine ⟨edits_gone hfree (fun _ h => (nomatch h)), a, some (i, ()), ha.keep hi.1.symm, ?_, ?_⟩
  · exact Sole.set fun j hj => storedPart_of_preparing (hfree j hj)
  · show _ = (updateProxyServers lib (requests i).1 (completeApplying lib a (m.shared.withConfigs configs))).2
    rw [completeApplying_withConfigs]

/-- a load that throws stores what it stored and is over -/
theorem Pending.abort (h : Pending lib requests m t) (hi : Outside (m.control i))
    (hfree : ∀ j, j ≠ i → preparing (m.control j) = false) (configs : Configs) (ending : Ending Reply) :
    Pending lib requests (m.move i (.finished ending) (m.shared.withConfigs configs)) (t.withConfigs configs) := by
  obtain ⟨a, ha, rfl⟩ := h.applying hi hfree
  refine ⟨edits_gone hfree (fun _ h => (nomatch h)), a, none, ha.keep hi.1.symm, ?_, ?_⟩
  · exact Sole.set fun j hj => storedPart_of_preparing (hfree j hj)
  · exact (completeApplying_withConfigs a configs m.shared).symm

/-- **A resolution** starts the pass of the request that stored. -/
theorem Pending.resolve (h : Pending lib requests m t) (hi : m.control i = .stored)
    (hfree : ∀ j, j ≠ i → applyingPart (m.control j) = none) {c : Thread} {s : State}
    (hn : resolveStored lib (requests i).1 m.shared = (c, s)) : Pending lib requests (m.move i c s) t := by
  obtain ⟨a, b, ha, hb, rfl⟩ := h.passes
  have hstored : storedPart (m.control i) = some () := by rw [hi]; rfl
  have hanone : a = none := by
    refine ha.vacant fun j => ?_
    by_cases hj : j = i
    · rw [hj, hi]
      rfl
    · exact hfree j hj
  obtain rfl := (hb i ()).1 hstored
  subst hanone
  have hothers : ∀ j, j ≠ i → storedPart (m.control j) = none := fun j hj => hb.others hstored hj
  unfold resolveStored at hn
  simp only [complete, completeApplying, updateProxyServers]
  rcases hr : resolveProxyServerConfigurations lib (requests i).1 m.shared.configs.m_ProxyConfig
    m.shared.pipelineFactory with ⟨r, f⟩
  rw [hr] at hn
  cases r with
  | error e =>
    obtain ⟨rfl, rfl⟩ := Prod.mk.inj hn
    refine ⟨edits_kept h rfl (fun _ h => (nomatch h)), none, none, Sole.set hfree, Sole.set hothers, ?_⟩
    exact catchStd_state _ _
  | ok configs =>
    obtain ⟨rfl, rfl⟩ := Prod.mk.inj hn
    exact ⟨edits_kept h rfl (fun _ h => (nomatch h)), some (i, configs, []), none, Sole.set hfree, Sole.set hothers, rfl⟩

/-- **A call** is one of those that were left. -/
theorem Pending.call (h : Pending lib requests m t) {configs : List ResolvedProxyConfig} {calls : List Call}
    (hi : m.control i = .applying configs calls) {c : Thread} {s : State}
    (hn : applyNext lib m.shared configs calls = (c, s)) : Pending lib requests (m.move i c s) t := by
  obtain ⟨a, b, ha, hb, rfl⟩ := h.passes
  have hpart : applyingPart (m.control i) = some (configs, calls) := by rw [hi]; rfl
  obtain rfl := (ha i _).1 hpart
  have hothers : ∀ j, j ≠ i → applyingPart (m.control j) = none := fun j hj => ha.others hpart hj
  obtain ⟨hedited, houtside, hconfigs, hleft⟩ : (∀ copy, c ≠ .edited copy) ∧ storedPart c = none ∧
      s.configs = m.shared.configs ∧
      completeApplying lib ((applyingPart c).map (i, ·)) s = finishApplying lib configs calls m.shared := by
    cases calls with
    | cons call calls =>
      obtain ⟨rfl, rfl⟩ := Prod.mk.inj hn
      exact ⟨fun _ h => (nomatch h), rfl, run_configs lib call m.shared, rfl⟩
    | nil =>
      cases configs with
      | nil =>
        obtain ⟨rfl, rfl⟩ := Prod.mk.inj hn
        exact ⟨fun _ h => (nomatch h), rfl, rfl, rfl⟩
      | cons cfg configs =>
        rw [finishApplying_lookup]
        simp only [applyNext] at hn
        cases hm : m.shared.proxySocketsMap cfg.name with
        | none =>
          rw [hm] at hn
          obtain ⟨rfl, rfl⟩ := Prod.mk.inj hn
          exact ⟨fun _ h => (nomatch h), rfl, rfl, rfl⟩
        | some sid =>
          rw [hm] at hn
          obtain ⟨rfl, rfl⟩ := Prod.mk.inj hn
          exact ⟨fun _ h => (nomatch h), rfl, rfl, rfl⟩
  refine ⟨edits_kept h hconfigs fun copy hc => absurd hc (hedited copy), _, b, Sole.set hothers,
    hb.keep (by rw [houtside, hi]; rfl), ?_⟩
  simp only [complete, hleft, move_shared]
  rfl

/-! ## Serialization -/

/-- a request that has not stored, nor ended without -/
def undecided : Thread → Bool
  | .waiting => true
  | .edited _ => true
  | _ => false

/-- a load depends on the stored configurations and changes nothing else -/
theorem load_configs (lib : Lib) (w : World) (content : String) {s t : State} (h : t.configs = s.configs) :
    s.loadFromString lib w content =
      ((t.loadFromString lib w content).1, s.withConfigs (t.loadFromString lib w content).2.configs) := by
  unfold State.loadFromString
  rw [h]
  rfl

/-- the first step of a reload -/
theorem sim_load (h : Pending lib requests m t) (hi : m.control i = .waiting) {content : String}
    (hr : (requests i).2 = .updateConfiguration content) (hfree : ∀ j, j ≠ i → preparing (m.control j) = false)
    {c : Thread} {s : State} (hn : beginRequest lib (requests i).1 m.shared (requests i).2 = some (c, s)) :
    undecided c = false ∧ Pending lib requests (m.move i c s) (act lib requests i t) := by
  have houtside : Outside (m.control i) := by rw [hi]; exact ⟨rfl, rfl⟩
  have hshared := load_configs lib (requests i).1 content h.configs
  have ht := load_configs lib (requests i).1 content (rfl : t.configs = t.configs)
  unfold act
  rw [hr] at hn ⊢
  simp only [beginRequest, hshared] at hn
  simp only [State.request]
  rw [updateConfiguration_eq, ht]
  generalize (t.loadFromString lib (requests i).1 content).2.configs = configs at hn
  generalize (t.loadFromString lib (requests i).1 content).1 = e at hn
  cases e with
  | ret code =>
    obtain ⟨rfl, rfl⟩ := Prod.mk.inj (Option.some.inj hn)
    exact ⟨rfl, h.store houtside hfree configs⟩
  | throws err =>
    obtain ⟨rfl, rfl⟩ := Prod.mk.inj (Option.some.inj hn)
    refine ⟨rfl, ?_⟩
    cases err <;> exact h.abort houtside hfree configs _
  | hangs => cases hn
  | undefined => cases hn

/-- the first step of a service update: it ends without effect, or holds its edited copy -/
theorem sim_read (h : Pending lib requests m t) (hi : m.control i = .waiting) {content : String}
    (hr : (requests i).2 = .updateEndPointService content) {c : Thread} {s : State}
    (hn : beginRequest lib (requests i).1 m.shared (requests i).2 = some (c, s)) :
    (undecided c = true ∧ Pending lib requests (m.move i c s) t) ∨
      (undecided c = false ∧ Pending lib requests (m.move i c s) (act lib requests i t)) := by
  have houtside : Outside (m.control i) := by rw [hi]; exact ⟨rfl, rfl⟩
  have hquiet : ∀ ending, Pending lib requests (m.move i (.finished ending) m.shared) t :=
    fun ending => h.quiet houtside ⟨rfl, rfl⟩ (fun _ hc => (nomatch hc))
  have hact : act lib requests i t = (updateEndPointService lib (requests i).1 content t).2 := by
    unfold act
    rw [hr]
    rfl
  rw [updateEndPointService_eq] at hact
  rw [hr] at hn
  simp only [beginRequest] at hn
  cases hl : loadEndpointServiceFromString lib.xml (requests i).1.uninit content with
  | error e =>
    rw [hl] at hn hact
    obtain ⟨rfl, rfl⟩ := Prod.mk.inj (Option.some.inj hn)
    have hsame : act lib requests i t = t := by rw [hact]; cases e <;> rfl
    rw [hsame]
    exact Or.inr ⟨rfl, hquiet _⟩
  | ok req =>
    have hop := loadEndpointService_operation hl
    have hpasses : ¬ (req.operation ≠ "add" ∧ req.operation ≠ "delete") := fun h => hop.elim h.1 h.2
    simp only [hl, if_neg hpasses] at hn
    simp only [hl, updateProxyEndPointService_eq hop, h.configs] at hact
    cases he : editClusters req m.shared.configs.m_ProxyConfig.clusters with
    | none =>
      simp only [he] at hn hact
      obtain ⟨rfl, rfl⟩ := Prod.mk.inj (Option.some.inj hn)
      rw [hact]
      exact Or.inr ⟨rfl, hquiet _⟩
    | some cs =>
      simp only [he] at hn
      obtain ⟨rfl, rfl⟩ := Prod.mk.inj (Option.some.inj hn)
      refine Or.inl ⟨rfl, h.quiet houtside ⟨rfl, rfl⟩ fun copy hc => ?_⟩
      exact ⟨content, req, cs, hr, hl, he, (Thread.edited.inj hc).symm⟩

theorem resolveStored_decided (lib : Lib) (w : World) (s : State) : undecided (resolveStored lib w s).1 = false := by
  unfold resolveStored
  split <;> rfl

theorem applyNext_decided (lib : Lib) (s : State) (configs : List ResolvedProxyConfig) (calls : List Call) :
    undecided (applyNext lib s configs calls).1 = false := by
  cases calls with
  | cons call calls => rfl
  | nil =>
    cases configs with
    | nil => rfl
    | cons cfg configs =>
      simp only [applyNext]
      split <;> rfl

/-- **Every step that keeps requests apart** completes to the same state, or to that of its whole request. -/
theorem step_sim (h : Pending lib requests m t) (hapart : KeptApart requests i m) {c : Thread} {s : State}
    (hn : step lib requests i (m.control i) m.shared = some (c, s)) :
    (undecided c = undecided (m.control i) ∧ Pending lib requests (m.move i c s) t) ∨
      (undecided (m.control i) = true ∧ undecided c = false ∧
        Pending lib requests (m.move i c s) (act lib requests i t)) := by
  obtain ⟨hstores, hresolves⟩ := hapart
  unfold step at hn
  cases hi : m.control i with
  | waiting =>
    rw [hi] at hn hstores
    cases hr : (requests i).2 with
    | updateConfiguration content =>
      rw [hr] at hstores
      obtain ⟨hc, hp⟩ := sim_load h hi hr (hstores rfl) hn
      exact Or.inr ⟨rfl, hc, hp⟩
    | updateEndPointService content =>
      rcases sim_read h hi hr hn with ⟨hc, hp⟩ | ⟨hc, hp⟩
      · exact Or.inl ⟨hc, hp⟩
      · exact Or.inr ⟨rfl, hc, hp⟩
  | edited copy =>
    rw [hi] at hn hstores
    obtain ⟨rfl, rfl⟩ := Prod.mk.inj (Option.some.inj hn)
    refine Or.inr ⟨rfl, rfl, ?_⟩
    have houtside : Outside (m.control i) := by rw [hi]; exact ⟨rfl, rfl⟩
    rw [act_edit (h.edits i copy hi) h.configs]
    have hstored := h.store houtside (hstores rfl) { m.shared.configs with m_ProxyConfig := copy }
    have hcopy : t.setProxyConfig copy = t.withConfigs { m.shared.configs with m_ProxyConfig := copy } := by
      rw [← h.configs]
      rfl
    rw [hcopy]
    exact hstored
  | stored =>
    rw [hi] at hn
    have hres : resolveStored lib (requests i).1 m.shared = (c, s) := Option.some.inj hn
    have hc := resolveStored_decided lib (requests i).1 m.shared
    rw [hres] at hc
    exact Or.inl ⟨hc, h.resolve hi (hresolves hi) hres⟩
  | applying configs calls =>
    rw [hi] at hn
    have hcall : applyNext lib m.shared configs calls = (c, s) := Option.some.inj hn
    have hc := applyNext_decided lib m.shared configs calls
    rw [hcall] at hc
    exact Or.inl ⟨hc, h.call hi hcall⟩
  | finished ending =>
    rw [hi] at hn
    cases hn

end Pending

/-- **Requests that are kept apart are serializable.** -/
theorem serializable_when_apart [DecidableEq ι] {lib : Lib} {requests : ι → World × Request} {s₀ : State}
    {m : Machine ι Thread State} (hrun : Run (step lib requests) (KeptApart requests) (begun s₀) m)
    (hdone : Finished m) : Serializable lib requests s₀ m.shared := by
  have hbegun : Pending lib requests (begun s₀ : Machine ι Thread State) s₀ := by
    refine ⟨fun _ _ hi => (nomatch hi), none, none, fun _ _ => ?_, fun _ _ => ?_, rfl⟩
    · simp [begun, applyingPart]
    · simp [begun, storedPart]
  have hwaiting : ∀ i, undecided ((begun s₀ : Machine ι Thread State).control i) = true := fun _ => rfl
  obtain ⟨order, hnodup, hmem, hpending⟩ :=
    hrun.serialized (R := Pending lib requests) (fun _ _ _ _ _ h hp hn => step_sim h hp hn) hbegun hwaiting
  refine ⟨order, hnodup, fun i => ?_, ?_⟩
  · obtain ⟨ending, hi⟩ := hdone i
    rw [hmem, hi]
    rfl
  · rw [hpending.finished hdone]
    exact ⟨rfl, fun _ => rfl⟩

/-! ## Fixed runs -/

/-- endpoint `a`, and two requests that add a service to it -/
def twoAdds : List (String × XMLDocument) :=
  [("config.xml", endPointsDocument [endPointElement "a" "Pipeline" "" [("a1", "10.0.0.1")]]),
    ("add2", updateDocument "add" "a" "a2" "10.0.0.2"), ("add3", updateDocument "add" "a" "a3" "10.0.0.3")]

def addRequests (i : Fin 2) : World × Request :=
  (.calm, .updateEndPointService (if i = 0 then "add2" else "add3"))

/-- a schedule of the two requests, with every step or with those of the discipline -/
def scheduled (permitted : Fin 2 → Machine (Fin 2) Thread State → Prop) [∀ i m, Decidable (permitted i m)]
    (schedule : List (Fin 2)) : Option (Machine (Fin 2) Thread State) :=
  execute (step (.plain (.table twoAdds)) addRequests) permitted schedule (begun (plainProcess twoAdds))

instance (i : Fin 2) (m : Machine (Fin 2) Thread State) : Decidable (KeptApart addRequests i m) :=
  inferInstanceAs (Decidable (_ ∧ _))

/-- the names of the services stored for each endpoint -/
def storedNames (s : State) : List (List String) :=
  s.configs.m_ProxyConfig.endPoints.map fun e => e.services.map Service.name

/-- the second request reads and stores during the pass of the first, and resolves after it -/
def apartSchedule : List (Fin 2) := [0, 0, 0, 1, 0, 1] ++ List.replicate 5 0 ++ List.replicate 8 1

/-- both requests read before either stores -/
def raceSchedule : List (Fin 2) := [0, 1, 0, 1] ++ List.replicate 7 0 ++ List.replicate 7 1

/-- the second request reads what the first one stored, and both empty the list before either fills it -/
def overlapSchedule : List (Fin 2) :=
  List.replicate 6 0 ++ List.replicate 6 1 ++ List.replicate 3 0 ++ List.replicate 4 1

theorem apart_adds_are_kept :
    ∃ m, scheduled (KeptApart addRequests) apartSchedule = some m ∧ storedNames m.shared = [["a1", "a2", "a3"]] ∧
      Serializable (.plain (.table twoAdds)) addRequests (plainProcess twoAdds) m.shared := by
  obtain ⟨m, hm⟩ : ∃ m, scheduled (KeptApart addRequests) apartSchedule = some m :=
    Option.isSome_iff_exists.1 (by decide)
  have hfinished : ((scheduled (KeptApart addRequests) apartSchedule).map fun m => (m.control 0, m.control 1)) =
      some (.finished (.ret updatedReply), .finished (.ret updatedReply)) := by decide
  have hnames : ((scheduled (KeptApart addRequests) apartSchedule).map fun m => storedNames m.shared) =
      some [["a1", "a2", "a3"]] := by decide
  rw [hm] at hfinished hnames
  obtain ⟨h0, h1⟩ := Prod.mk.inj (Option.some.inj hfinished)
  have hdone : Finished m := by
    intro i
    match i with
    | 0 => exact ⟨_, h0⟩
    | 1 => exact ⟨_, h1⟩
  exact ⟨m, hm, Option.some.inj hnames, serializable_when_apart (execute_run hm .start) hdone⟩

/-- both requests are answered by ok, and the service that the first one added is gone; or nothing is lost, and two
backends are listed twice -/
theorem interleaved_add_is_lost :
    (startProcess (.plain (.table twoAdds)) (fun _ => .calm) "config.xml").isSome ∧
    ((scheduled (fun _ _ => True) overlapSchedule).map fun m => (m.control 0, m.control 1, m.shared.hostsOf "a")) =
      some (.finished (.ret updatedReply), .finished (.ret updatedReply),
        ["10.0.0.1", "10.0.0.2", "10.0.0.1", "10.0.0.2", "10.0.0.3"]) ∧
    ∃ m, Run (step (.plain (.table twoAdds)) addRequests) (fun _ _ => True) (begun (plainProcess twoAdds)) m ∧
      (m.control 0 = .finished (.ret updatedReply) ∧ m.control 1 = .finished (.ret updatedReply)) ∧
      storedNames m.shared = [["a1", "a3"]] ∧ m.shared.hostsOf "a" = ["10.0.0.1", "10.0.0.3"] ∧
      ¬ Serializable (.plain (.table twoAdds)) addRequests (plainProcess twoAdds) m.shared := by
  obtain ⟨m, hm⟩ : ∃ m, scheduled (fun _ _ => True) raceSchedule = some m := Option.isSome_iff_exists.1 (by decide)
  have hfinished : ((scheduled (fun _ _ => True) raceSchedule).map fun m => (m.control 0, m.control 1)) =
      some (.finished (.ret updatedReply), .finished (.ret updatedReply)) := by decide
  have hnames : ((scheduled (fun _ _ => True) raceSchedule).map fun m => storedNames m.shared) =
      some [["a1", "a3"]] := by decide
  have hhosts : ((scheduled (fun _ _ => True) raceSchedule).map fun m => m.shared.hostsOf "a") =
      some ["10.0.0.1", "10.0.0.3"] := by decide
  rw [hm] at hfinished hnames hhosts
  refine ⟨by decide, by decide, m, execute_run hm .start, Prod.mk.inj (Option.some.inj hfinished), Option.some.inj hnames,
    Option.some.inj hhosts, ?_⟩
  rintro ⟨order, hnodup, hall, hsame⟩
  -- either order keeps both services
  have hserial : ∀ order ∈ ([0, 1] : List (Fin 2)).permutations',
      storedNames (serially (act (.plain (.table twoAdds)) addRequests) order (plainProcess twoAdds)) ≠
        [["a1", "a3"]] := by decide
  have hboth : ∀ i : Fin 2, i ∈ ([0, 1] : List (Fin 2)) := by decide
  have hperm : order.Perm [0, 1] :=
    (List.perm_ext_iff_of_nodup hnodup (by decide)).2 fun i => ⟨fun _ => hboth i, fun _ => hall i⟩
  refine hserial order (List.mem_permutations'.2 hperm) ?_
  have hstored : storedNames (serially (act (.plain (.table twoAdds)) addRequests) order (plainProcess twoAdds)) =
      storedNames m.shared := by
    unfold storedNames
    rw [hsame.stored]
  exact hstored.trans (Option.some.inj hnames)

end Asabru.Serializability
