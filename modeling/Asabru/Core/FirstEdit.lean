/-
Edits of the first element of a list that a test selects.

`editFirst sel f l` is `l` with `f` applied to its first selected element, and `l` itself if none is selected.

Results:
- `filter_editFirst`, `filterMap_editFirst`, `find?_editFirst`, `find?_editFirst_other`: what is seen of the edited list by
  someone who looks at a part of it;
- `editFirst_split`: where the edit happens;
- `forall₂_editFirst`: edits at corresponding places of related lists give related lists;
- `flatMap_editFirst`, `map_editFirst`: an edit in a list of parts is one of the whole, and keeps what it keeps of a part.
-/
import Mathlib.Tactic

namespace Asabru.FirstEdit

variable {α β : Type}

def editFirst (sel : α → Bool) (f : α → α) (l : List α) : List α := l.replaceF fun a => if sel a then some (f a) else none

variable {sel : α → Bool} {f : α → α}

@[simp] theorem editFirst_nil : editFirst sel f [] = [] := rfl

@[simp] theorem length_editFirst (l : List α) : (editFirst sel f l).length = l.length := List.length_replaceF

theorem editFirst_cons (a : α) (l : List α) :
    editFirst sel f (a :: l) = if sel a then f a :: l else a :: editFirst sel f l := by
  unfold editFirst
  cases ha : sel a <;> simp [List.replaceF, ha]

/-- where the edit happens, if anywhere -/
theorem editFirst_split (sel : α → Bool) (f : α → α) (l : List α) :
    ((∀ a ∈ l, sel a = false) ∧ editFirst sel f l = l) ∨ ∃ pre a post, l = pre ++ a :: post ∧ (∀ b ∈ pre, sel b = false) ∧
      sel a = true ∧ editFirst sel f l = pre ++ f a :: post := by
  induction l with
  | nil => exact Or.inl ⟨fun _ h => (nomatch h), rfl⟩
  | cons b l ih =>
    rw [editFirst_cons]
    by_cases hb : sel b = true
    · rw [if_pos hb]
      exact Or.inr ⟨[], b, l, rfl, fun _ h => (nomatch h), hb, rfl⟩
    · rw [if_neg hb]
      rw [Bool.not_eq_true] at hb
      rcases ih with ⟨hnone, heq⟩ | ⟨pre, a, post, hl, hpre, ha, heq⟩
      · exact Or.inl ⟨List.forall_mem_cons.2 ⟨hb, hnone⟩, by rw [heq]⟩
      · exact Or.inr ⟨b :: pre, a, post, by rw [hl]; rfl, List.forall_mem_cons.2 ⟨hb, hpre⟩, ha, by rw [heq]; rfl⟩

theorem editFirst_congr {sel' : α → Bool} {l : List α} (h : ∀ a ∈ l, sel a = sel' a) :
    editFirst sel f l = editFirst sel' f l := by
  induction l with
  | nil => rfl
  | cons a l ih =>
    rw [editFirst_cons, editFirst_cons, h a List.mem_cons_self, ih fun b hb => h b (List.mem_cons_of_mem a hb)]

/-- a test that the selected elements pass before and after the edit -/
theorem filter_editFirst {p : α → Bool} (hp : ∀ a, sel a = true → p a = true ∧ p (f a) = true) (l : List α) :
    (editFirst sel f l).filter p = editFirst sel f (l.filter p) := by
  induction l with
  | nil => rfl
  | cons a l ih =>
    rw [editFirst_cons]
    by_cases ha : sel a = true
    · rw [if_pos ha, List.filter_cons_of_pos (hp a ha).2, List.filter_cons_of_pos (hp a ha).1, editFirst_cons, if_pos ha]
    · rw [if_neg ha, List.filter_cons, List.filter_cons, ih]
      split_ifs with hpa
      · rw [editFirst_cons, if_neg ha]
      · rfl

/-- a projection through which the edit is one of the projected list -/
theorem filterMap_editFirst {g : α → Option β} {sel' : β → Bool} {f' : β → β}
    (hg : ∀ a b, g a = some b → sel a = sel' b ∧ (sel a = true → g (f a) = some (f' b)))
    (hnone : ∀ a, g a = none → sel a = false) (l : List α) :
    (editFirst sel f l).filterMap g = editFirst sel' f' (l.filterMap g) := by
  induction l with
  | nil => rfl
  | cons a l ih =>
    rw [editFirst_cons]
    cases ha : g a with
    | none => rw [hnone a ha, if_neg Bool.false_ne_true, List.filterMap_cons_none ha, List.filterMap_cons_none ha, ih]
    | some b =>
      obtain ⟨hsel, hf⟩ := hg a b ha
      rw [List.filterMap_cons_some ha, editFirst_cons, ← hsel]
      split_ifs with hs
      · rw [List.filterMap_cons_some (hf hs)]
      · rw [List.filterMap_cons_some ha, ih]

/-- the first selected element is the edited one -/
theorem find?_editFirst (hf : ∀ a, sel a = true → sel (f a) = true) (l : List α) :
    (editFirst sel f l).find? sel = (l.find? sel).map f := by
  induction l with
  | nil => rfl
  | cons a l ih =>
    rw [editFirst_cons]
    by_cases ha : sel a = true
    · rw [if_pos ha, List.find?_cons_of_pos (hf a ha), List.find?_cons_of_pos ha]
      rfl
    · rw [if_neg ha, List.find?_cons_of_neg ha, List.find?_cons_of_neg ha, ih]

/-- a test that no selected element passes, before or after the edit -/
theorem find?_editFirst_other {p : α → Bool} (hp : ∀ a, sel a = true → p a = false ∧ p (f a) = false) (l : List α) :
    (editFirst sel f l).find? p = l.find? p := by
  induction l with
  | nil => rfl
  | cons a l ih =>
    rw [editFirst_cons]
    by_cases ha : sel a = true
    · rw [if_pos ha, List.find?_cons_of_neg (by simp [(hp a ha).2]), List.find?_cons_of_neg (by simp [(hp a ha).1])]
    · rw [if_neg ha, List.find?_cons, List.find?_cons, ih]

/-- **Edits at corresponding places keep lists related.** -/
theorem forall₂_editFirst {R : α → β → Prop} {sel' : β → Bool} {g : β → β} {as : List α} {bs : List β}
    (h : List.Forall₂ R as bs) (hsel : ∀ a b, R a b → sel a = sel' b)
    (hf : ∀ a b, R a b → sel a = true → R (f a) (g b)) : List.Forall₂ R (editFirst sel f as) (editFirst sel' g bs) := by
  induction h with
  | nil => exact .nil
  | @cons a b as bs hab hrest ih =>
    rw [editFirst_cons, editFirst_cons, ← hsel a b hab]
    split_ifs with hs
    · exact .cons (hf a b hab hs) hrest
    · exact .cons hab ih

/-! ## Lists of parts -/

theorem append_editFirst (sel : α → Bool) (f : α → α) (l l' : List α) :
    editFirst sel f (l ++ l') = if l.any sel then editFirst sel f l ++ l' else l ++ editFirst sel f l' := by
  induction l with
  | nil => rfl
  | cons a l ih =>
    rw [List.cons_append, editFirst_cons, editFirst_cons, List.any_cons, ih]
    cases ha : sel a with
    | true => rfl
    | false =>
      rw [Bool.false_or, if_neg Bool.false_ne_true, if_neg Bool.false_ne_true]
      split_ifs <;> rfl

/-- **An edit of the first part** that has a selected element is one of the whole. -/
theorem flatMap_editFirst {sel : α → Bool} {f : α → α} {g : β → List α} {h : β → β}
    (hh : ∀ b, g (h b) = editFirst sel f (g b)) (l : List β) :
    (editFirst (fun b => (g b).any sel) h l).flatMap g = editFirst sel f (l.flatMap g) := by
  induction l with
  | nil => rfl
  | cons b l ih =>
    rw [editFirst_cons, List.flatMap_cons, append_editFirst]
    split_ifs with hany
    · rw [List.flatMap_cons, hh]
    · rw [List.flatMap_cons, ih]

theorem map_editFirst {sel : α → Bool} {f : α → α} {g : α → β} (hg : ∀ a, g (f a) = g a) (l : List α) :
    (editFirst sel f l).map g = l.map g := by
  induction l with
  | nil => rfl
  | cons a l ih =>
    rw [editFirst_cons]
    split_ifs
    · rw [List.map_cons, List.map_cons, hg]
    · rw [List.map_cons, List.map_cons, ih]

end Asabru.FirstEdit
