/-
Decimal texts of ints, as `std::to_string` writes and `std::stoi` reads them.

Results:
- `stoi_repr`: the text of a 32-bit int is read back as the int;
- `stoi_int32`: what is read is a 32-bit int.
-/
import Mathlib.Tactic
import Mathlib.Data.List.TakeWhile
import Asabru.Config.Xml

namespace Asabru.Xml

open Asabru.Control

/-- a value of C++'s `int` -/
def Int32 (n : Int) : Prop := -2147483648 ≤ n ∧ n ≤ 2147483647

theorem toDigits_isDigit {n : ℕ} {c : Char} (h : c ∈ Nat.toDigits 10 n) : c.isDigit = true :=
  Nat.isDigit_of_mem_toDigits (by decide) (by decide) h

/-- a digit is not a blank and not a sign -/
theorem isDigit_plain {c : Char} (h : c.isDigit = true) : isSpace c = false ∧ c ≠ '-' ∧ c ≠ '+' := by
  simp only [Char.isDigit, Bool.and_eq_true, decide_eq_true_eq] at h
  have hlo : 48 ≤ c.toNat := h.1
  have hhi : c.toNat ≤ 57 := h.2
  refine ⟨?_, ?_, ?_⟩
  · have hblank : c ≠ ' ' := by
      rintro rfl
      revert hlo
      decide
    have hcr : ¬ c ≤ '\r' := by
      intro hle
      have : c.toNat ≤ 13 := hle
      omega
    simp [isSpace, hblank, hcr]
  · rintro rfl
    revert hlo
    decide
  · rintro rfl
    revert hlo
    decide

/-- the whole text of a number is a run of digits -/
theorem takeWhile_toDigits (n : ℕ) : (Nat.toDigits 10 n).takeWhile Char.isDigit = Nat.toDigits 10 n :=
  List.takeWhile_eq_self_iff.2 fun _ hc => toDigits_isDigit hc

theorem digitsValue_toDigits (n : ℕ) : digitsValue (Nat.toDigits 10 n) = n := Nat.ofDigitChars_ten_toDigits

/-- a text without blanks and sign in front is all digits to `stoi` -/
theorem splitSign_toDigits (n : ℕ) :
    splitSign ((Nat.toDigits 10 n).dropWhile isSpace) = (1, Nat.toDigits 10 n) := by
  obtain ⟨c, cs, hcs⟩ := List.exists_cons_of_ne_nil (Nat.toDigits_ne_nil (b := 10) (n := n))
  obtain ⟨hspace, hminus, hplus⟩ := isDigit_plain (toDigits_isDigit (n := n) (by rw [hcs]; exact List.mem_cons_self))
  rw [hcs, List.dropWhile_cons_of_neg (by rw [hspace]; exact Bool.false_ne_true)]
  unfold splitSign
  split
  · rename_i heq
    exact absurd (List.cons.inj heq).1 hminus
  · rename_i heq
    exact absurd (List.cons.inj heq).1 hplus
  · rfl

/-- **The text of a 32-bit int is read back.** -/
theorem stoi_repr {n : Int} (h : Int32 n) : stoi n.repr = .ok n := by
  obtain ⟨hlo, hhi⟩ := h
  cases n with
  | ofNat m =>
    have htext : (Int.ofNat m).repr.toList = Nat.toDigits 10 m := Nat.toList_repr
    unfold stoi
    simp only [htext, splitSign_toDigits, takeWhile_toDigits, Nat.toDigits_ne_nil, digitsValue_toDigits, if_false, one_mul]
    rw [if_neg]
    · rfl
    · simp only [Int.ofNat_eq_natCast] at hlo hhi
      omega
  | negSucc m =>
    have htext : (Int.negSucc m).repr.toList = '-' :: Nat.toDigits 10 m.succ := by
      show ("-" ++ Nat.repr m.succ).toList = _
      rw [String.toList_append, Nat.toList_repr]
      rfl
    have hsign : splitSign (('-' :: Nat.toDigits 10 m.succ).dropWhile isSpace) = (-1, Nat.toDigits 10 m.succ) := rfl
    have hvalue : (-1 : Int) * (m.succ : ℕ) = Int.negSucc m := by
      rw [Int.negSucc_eq]
      push_cast
      omega
    unfold stoi
    simp only [htext, hsign, takeWhile_toDigits, Nat.toDigits_ne_nil, digitsValue_toDigits, if_false, hvalue]
    rw [if_neg]
    omega

/-- what is read is in range -/
theorem stoi_int32 {s : String} {n : Int} (h : stoi s = .ok n) : Int32 n := by
  unfold stoi at h
  dsimp only at h
  split_ifs at h with hdigits hrange
  obtain rfl := Except.ok.inj h
  push Not at hrange
  exact hrange

theorem repr_ne_empty (n : Int) : n.repr ≠ "" := by
  intro h
  have htext := congrArg String.toList h
  cases n with
  | ofNat m =>
    rw [show (Int.ofNat m).repr.toList = Nat.toDigits 10 m from Nat.toList_repr] at htext
    exact Nat.toDigits_ne_nil htext
  | negSucc m =>
    rw [show (Int.negSucc m).repr.toList = ("-" ++ Nat.repr m.succ).toList from rfl, String.toList_append] at htext
    cases htext

/-- tinyxml2's `QueryIntText`: the text of a 32-bit int is read, and nothing else is returned -/
structure ReadsInts (x : TinyXml) : Prop where
  reads : ∀ e n, e.getText = some n.repr → Int32 n → x.queryIntText e = .ok n
  int32 : ∀ e n, x.queryIntText e = .ok n → Int32 n

theorem table_readsInts (docs : List (String × XMLDocument)) : ReadsInts (.table docs) := by
  refine ⟨fun e n ht hn => ?_, fun e n hq => ?_⟩
  · show queryIntTextOf e = .ok n
    unfold queryIntTextOf
    rw [ht]
    simp only [stoi_repr hn]
  · have hq : queryIntTextOf e = .ok n := hq
    unfold queryIntTextOf at hq
    cases ht : e.getText with
    | none => rw [ht] at hq; cases hq
    | some t =>
      rw [ht] at hq
      cases hs : stoi t with
      | error err => simp only [hs] at hq; cases hq
      | ok v =>
        simp only [hs] at hq
        obtain rfl := Except.ok.inj hq
        exact stoi_int32 hs

end Asabru.Xml
