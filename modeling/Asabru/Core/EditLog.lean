/-
Logs of edits, each one of the first element with its key.

Results:
- `applied_cons`: the first element with a key gets all edits of the key, in order;
- `applied_get`: what a log makes of each place of a list;
- `applied_set`: a log for one key changes the first element with it, and nothing else;
- `applied_agree`: logs that say the same of every key do the same, so edits of different keys commute.
-/
import Mathlib.Tactic
import Asabru.Core.FirstEdit

namespace Asabru.EditLog

open Asabru.FirstEdit

/-- edits `ε` of elements `α` with keys `κ` -/
structure Edits (α ε κ : Type) where
  key : α → κ
  target : ε → κ
  act : α → ε → α
  keeps : ∀ a e, key (act a e) = key a

variable {α ε κ : Type} [DecidableEq κ] (E : Edits α ε κ)

/-- the log, one edit after another -/
def Edits.applied (log : List ε) (l : List α) : List α :=
  log.foldl (fun l e => editFirst (fun a => E.key a = E.target e) (E.act · e) l) l

/-- the edits of a key -/
def Edits.of (k : κ) (log : List ε) : List ε := log.filter fun e => E.target e = k

def Edits.others (k : κ) (log : List ε) : List ε := log.filter fun e => E.target e ≠ k

/-- an element with all the edits of its key -/
def Edits.settled (log : List ε) (a : α) : α := (E.of (E.key a) log).foldl E.act a

theorem applied_nil (log : List ε) : E.applied log [] = [] := by
  induction log with
  | nil => rfl
  | cons e log ih => exact ih

/-- **The head** gets all edits of its key, and the rest the others. -/
theorem applied_cons (log : List ε) (a : α) (l : List α) :
    E.applied log (a :: l) = E.settled log a :: E.applied (E.others (E.key a) log) l := by
  induction log generalizing a l with
  | nil => rfl
  | cons e log ih =>
    have hstep : E.applied (e :: log) (a :: l) =
        E.applied log (editFirst (fun a => E.key a = E.target e) (E.act · e) (a :: l)) := rfl
    rw [hstep, editFirst_cons]
    by_cases he : E.key a = E.target e
    · rw [if_pos (decide_eq_true he), ih]
      simp only [Edits.settled, Edits.of, Edits.others, E.keeps]
      rw [List.filter_cons_of_pos (by simp [he]), List.filter_cons_of_neg (by simp [he])]
      rfl
    · rw [if_neg (by simpa using he), ih]
      simp only [Edits.settled, Edits.of, Edits.others]
      rw [List.filter_cons_of_neg (by simp [Ne.symm he]), List.filter_cons_of_pos (by simp [Ne.symm he])]
      rfl

theorem applied_keys (log : List ε) (l : List α) : (E.applied log l).map E.key = l.map E.key := by
  induction l generalizing log with
  | nil => rw [applied_nil]
  | cons a l ih =>
    have hkey : ∀ (es : List ε) (a : α), E.key (es.foldl E.act a) = E.key a := by
      intro es
      induction es with
      | nil => exact fun _ => rfl
      | cons e es ih => exact fun a => (ih _).trans (E.keeps a e)
    rw [applied_cons, List.map_cons, List.map_cons, ih, Edits.settled, hkey]

theorem of_others {k k' : κ} (log : List ε) : E.of k (E.others k' log) = if k = k' then [] else E.of k log := by
  unfold Edits.of Edits.others
  rw [List.filter_filter]
  split_ifs with hk
  · subst hk
    rw [List.filter_eq_nil_iff]
    intro e _
    simp
  · refine List.filter_congr fun e _ => ?_
    by_cases he : E.target e = k
    · simp [he, hk]
    · simp [he]

/-- **What a log makes of a list**: the first element with a key is settled, and every other one left. -/
theorem applied_get (log : List ε) (l : List α) (i : ℕ) : (E.applied log l)[i]? =
    l[i]?.map fun a => if E.key a ∈ (l.take i).map E.key then a else E.settled log a := by
  induction l generalizing log i with
  | nil => rw [applied_nil]; rfl
  | cons a l ih =>
    rw [applied_cons]
    cases i with
    | zero => simp
    | succ i =>
      rw [List.getElem?_cons_succ, List.getElem?_cons_succ, ih]
      congr 1
      funext b
      rw [List.take_succ_cons, List.map_cons]
      unfold Edits.settled
      rw [of_others]
      by_cases hkey : E.key b = E.key a
      · simp [hkey]
      · simp [hkey]

/-- **A log for one key** changes the first element with it. -/
theorem applied_set {log : List ε} {l : List α} {i : ℕ} {a : α} (ha : l[i]? = some a)
    (hfirst : E.key a ∉ (l.take i).map E.key) (hlog : ∀ e ∈ log, E.target e = E.key a) :
    E.applied log l = l.set i (log.foldl E.act a) := by
  refine List.ext_getElem? fun j => ?_
  rw [applied_get]
  by_cases hij : i = j
  · subst hij
    have hall : E.of (E.key a) log = log := List.filter_eq_self.2 fun e he => decide_eq_true (hlog e he)
    rw [List.getElem?_set_self (List.getElem?_eq_some_iff.1 ha).1, ha, Option.map_some, if_neg hfirst, Edits.settled,
      hall]
  · rw [List.getElem?_set_ne hij]
    cases hb : l[j]? with
    | none => rfl
    | some b =>
      rw [Option.map_some, Option.some_inj]
      split_ifs with hlater
      · rfl
      · -- with the same key `b` would come before the first one, or after it
        have hkey : E.key a ≠ E.key b := by
          intro hsame
          rcases Nat.lt_or_gt_of_ne hij with hbefore | hafter
          · have hmem : a ∈ l.take j := List.mem_of_getElem? ((List.getElem?_take_of_lt hbefore).trans ha)
            exact hlater (hsame ▸ List.mem_map_of_mem hmem)
          · have hmem : b ∈ l.take i := List.mem_of_getElem? ((List.getElem?_take_of_lt hafter).trans hb)
            exact hfirst (hsame ▸ List.mem_map_of_mem hmem)
        have hnone : E.of (E.key b) log = [] := by
          unfold Edits.of
          rw [List.filter_eq_nil_iff]
          intro e he heq
          exact hkey ((hlog e he).symm.trans (of_decide_eq_true heq))
        rw [Edits.settled, hnone]
        rfl

/-- **Logs that say the same of every key** do the same. -/
theorem applied_agree {log log' : List ε} (h : ∀ k, E.of k log = E.of k log') (l : List α) :
    E.applied log l = E.applied log' l := by
  refine List.ext_getElem? fun i => ?_
  rw [applied_get, applied_get]
  congr 1
  funext a
  rw [Edits.settled, Edits.settled, h]

end Asabru.EditLog
