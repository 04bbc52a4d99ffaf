/-
Writes through references that may be aliased.

Names refer to objects (`ref`, none for a name that refers to nothing), two names may refer to one object, and each object
holds a value. A replay is a sequence of writes (name, value) applied in order; a write through a name that refers to
nothing is skipped.

Results:
- `replay_apply`: after a replay an object holds the value of the last write that reached it, or what it held before;
- `replay_unreached`, `replay_idem`: a replay changes no object that it does not reach, and nothing when it is repeated;
- `replay_agree`: where all writes to an object say the same, that is what it holds;
- `replay_last`: the value of one write survives iff the last later write to the same object wrote the same;
- `replay_batches`: after batches of writes an object holds the last write of the last batch that reaches it;
- `writes_isolated_iff`: writes through one name never show through another one iff no two names share an object.
-/
import Mathlib.Tactic

namespace Asabru.Alias

variable {ν ο κ : Type} [DecidableEq ο]

/-- one write -/
def write (ref : ν → Option ο) (st : ο → κ) (p : ν × κ) : ο → κ :=
  match ref p.1 with
  | none => st
  | some o => Function.update st o p.2

/-- the writes in order -/
def replay (ref : ν → Option ο) (st : ο → κ) (ps : List (ν × κ)) : ο → κ := ps.foldl (write ref) st

/-- the value of the last write that reaches an object -/
def lastWrite (ref : ν → Option ο) (o : ο) (ps : List (ν × κ)) : Option κ :=
  ((ps.filter fun p => ref p.1 = some o).getLast?).map Prod.snd

theorem replay_cons (ref : ν → Option ο) (st : ο → κ) (p : ν × κ) (ps : List (ν × κ)) :
    replay ref st (p :: ps) = replay ref (write ref st p) ps := rfl

theorem replay_append (ref : ν → Option ο) (st : ο → κ) (ps qs : List (ν × κ)) :
    replay ref st (ps ++ qs) = replay ref (replay ref st ps) qs := by
  simp [replay, List.foldl_append]

theorem write_apply (ref : ν → Option ο) (st : ο → κ) (p : ν × κ) (o : ο) :
    write ref st p o = if ref p.1 = some o then p.2 else st o := by
  unfold write
  cases ref p.1 with
  | none => simp
  | some o' =>
    by_cases ho : o' = o
    · subst ho; simp
    · rw [if_neg (fun h' => ho (Option.some.inj h'))]
      exact Function.update_of_ne (Ne.symm ho) _ _

theorem lastWrite_append (ref : ν → Option ο) (o : ο) (ps qs : List (ν × κ)) :
    lastWrite ref o (ps ++ qs) = (lastWrite ref o qs).or (lastWrite ref o ps) := by
  simp only [lastWrite, List.filter_append, List.getLast?_append]
  cases (qs.filter fun p => ref p.1 = some o).getLast? <;> simp

/-- **The last writer wins.** -/
theorem replay_apply (ref : ν → Option ο) (st : ο → κ) (ps : List (ν × κ)) (o : ο) :
    replay ref st ps o = (lastWrite ref o ps).getD (st o) := by
  induction ps using List.reverseRecOn with
  | nil => rfl
  | append_singleton ps p ih =>
    rw [replay_append, lastWrite_append]
    show write ref (replay ref st ps) p o = _
    rw [write_apply, ih]
    by_cases h : ref p.1 = some o <;> simp [lastWrite, h]

theorem lastWrite_none {ref : ν → Option ο} {o : ο} {ps : List (ν × κ)} :
    lastWrite ref o ps = none ↔ ∀ p ∈ ps, ref p.1 ≠ some o := by
  simp [lastWrite]

/-- writes that agree on an object leave it what they say -/
theorem replay_agree {ref : ν → Option ο} {ps : List (ν × κ)} {o : ο} {v : κ} (hp : ∃ p ∈ ps, ref p.1 = some o)
    (hv : ∀ p ∈ ps, ref p.1 = some o → p.2 = v) (st : ο → κ) : replay ref st ps o = v := by
  rw [replay_apply]
  cases h : lastWrite ref o ps with
  | none =>
    obtain ⟨p, hmem, hr⟩ := hp
    exact absurd hr (lastWrite_none.1 h p hmem)
  | some v' =>
    obtain ⟨p, hlast, rfl⟩ := Option.map_eq_some_iff.1 h
    have hmem := List.mem_filter.1 (List.mem_of_getLast? hlast)
    exact hv p hmem.1 (by simpa using hmem.2)

/-- an object that no write reaches keeps its value -/
theorem replay_unreached {ref : ν → Option ο} {ps : List (ν × κ)} {o : ο} (h : ∀ p ∈ ps, ref p.1 ≠ some o)
    (st : ο → κ) : replay ref st ps o = st o := by
  rw [replay_apply, lastWrite_none.2 h]
  rfl

/-- **Replaying twice is replaying once.** -/
theorem replay_idem (ref : ν → Option ο) (st : ο → κ) (ps : List (ν × κ)) :
    replay ref (replay ref st ps) ps = replay ref st ps := by
  funext o
  rw [replay_apply, replay_apply]
  cases lastWrite ref o ps <;> rfl

/-- **Survival of one write.** Its value is what its object holds in the end iff the last later write to the object, if
there is one, wrote the same value. -/
theorem replay_last {ref : ν → Option ο} {n : ν} {v : κ} {o : ο} (hr : ref n = some o) (st : ο → κ)
    (pre post : List (ν × κ)) :
    replay ref st (pre ++ (n, v) :: post) o = v ↔ ∀ v', lastWrite ref o post = some v' → v' = v := by
  have hw : write ref (replay ref st pre) (n, v) o = v := by rw [write_apply, if_pos hr]
  rw [replay_append, replay_cons, replay_apply, hw]
  cases lastWrite ref o post <;> simp

theorem lastWrite_flatten (ref : ν → Option ο) (o : ο) (batches : List (List (ν × κ))) :
    lastWrite ref o batches.flatten = batches.reverse.findSome? (lastWrite ref o) := by
  induction batches with
  | nil => rfl
  | cons ps batches ih =>
    rw [List.flatten_cons, lastWrite_append, ih, List.reverse_cons, List.findSome?_append]
    cases h : lastWrite ref o ps <;> simp [h]

/-- **Batches.** Only the last batch that reaches an object is seen in it. -/
theorem replay_batches (ref : ν → Option ο) (st : ο → κ) (batches : List (List (ν × κ))) (o : ο) :
    replay ref st batches.flatten o = (batches.reverse.findSome? (lastWrite ref o)).getD (st o) := by
  rw [replay_apply, lastWrite_flatten]

/-- **Isolation is the absence of aliasing**, for values of which there are at least two. -/
theorem writes_isolated_iff [Nontrivial κ] (ref : ν → Option ο) (st : ο → κ) :
    (∀ (n m : ν) (o : ο) (v : κ), n ≠ m → ref m = some o → write ref st (n, v) o = st o) ↔
      ∀ n m o, n ≠ m → ref n = some o → ref m ≠ some o := by
  constructor
  · intro h n m o hne hn hm
    obtain ⟨v, hv⟩ := exists_ne (st o)
    have := h n m o v hne hm
    rw [write_apply, if_pos hn] at this
    exact hv this
  · intro h n m o v hne hm
    rw [write_apply, if_neg]
    intro hn
    exact h n m o hne hn hm

end Asabru.Alias
