/-
JSON texts that are objects of string members, and what a text inserted into one of their strings does to them.

A string's content is accepted by an automaton (`StringState`): no control character, no quotation mark, and after a
backslash one of the escapes or four hexadecimal digits. A text is cut into tokens; an object is an opening brace, members
separated by commas, and a closing brace. Members are given as they are written, escapes included.

Results:
- `isContent_append`: a content followed by a text that can continue no escape is a content iff both parts are;
- `lastMember_iff`: a text inserted as the last string of an object leaves the members as they were meant exactly when it is
  a string's content.
-/
import Mathlib.Tactic

namespace Asabru.Json

/-! ## Contents of strings -/

/-- inside a string: after an escape's backslash, or before the last digits of a `\u` escape -/
inductive StringState where
  | plain
  | escape
  | hex (left : ℕ)
deriving DecidableEq, Repr

def quotationMark : Char := Char.ofNat 0x22
def reverseSolidus : Char := Char.ofNat 0x5c
def apostrophe : Char := Char.ofNat 0x27

/-- the characters that a backslash makes an escape of -/
def escaped : List Char := [quotationMark, reverseSolidus, '/', 'b', 'f', 'n', 'r', 't']

def isHexDigit (c : Char) : Bool := c.isDigit || ('a' ≤ c && c ≤ 'f') || ('A' ≤ c && c ≤ 'F')

/-- one character of a content; none if no content goes on with it -/
def step : StringState → Char → Option StringState
  | .plain, c =>
    if c = quotationMark ∨ c < ' ' then none else if c = reverseSolidus then some .escape else some .plain
  | .escape, c => if c ∈ escaped then some .plain else if c = 'u' then some (.hex 3) else none
  | .hex 0, c => if isHexDigit c then some .plain else none
  | .hex (n + 1), c => if isHexDigit c then some (.hex n) else none

/-- the text can stand between the quotation marks of a string -/
def IsContent (s : String) : Prop := s.toList.foldlM step .plain = some .plain

instance (s : String) : Decidable (IsContent s) := inferInstanceAs (Decidable (_ = _))

/-- no escape goes on with the character -/
def EndsEscapes (c : Char) : Prop := step .escape c = none ∧ ∀ n, step (.hex n) c = none

theorem endsEscapes_iff {c : Char} : EndsEscapes c ↔ c ∉ escaped ∧ c ≠ 'u' ∧ isHexDigit c = false := by
  constructor
  · rintro ⟨hescape, hhex⟩
    have hzero := hhex 0
    simp only [step] at hescape hzero
    split_ifs at hescape with hmem hu
    split_ifs at hzero with hx
    exact ⟨hmem, hu, by simpa using hx⟩
  · rintro ⟨hmem, hu, hx⟩
    refine ⟨by simp [step, hmem, hu], fun n => ?_⟩
    cases n <;> simp [step, hx]

theorem apostrophe_endsEscapes : EndsEscapes apostrophe := endsEscapes_iff.2 ⟨by decide, by decide, by decide⟩

/-- after a content another one begins -/
theorem isContent_append_left {a b : String} (ha : IsContent a) : IsContent (a ++ b) ↔ IsContent b := by
  unfold IsContent at ha ⊢
  rw [String.toList_append, List.foldlM_append, ha]
  rfl

/-- **Two parts**, of which the second begins with a character that continues no escape. -/
theorem isContent_append {a b : String} {c : Char} {cs : List Char} (hb : b.toList = c :: cs) (hc : EndsEscapes c) :
    IsContent (a ++ b) ↔ IsContent a ∧ IsContent b := by
  refine ⟨fun h => ?_, fun h => (isContent_append_left h.1).2 h.2⟩
  have ha : IsContent a := by
    unfold IsContent at h ⊢
    rw [String.toList_append, List.foldlM_append] at h
    cases hq : a.toList.foldlM step .plain with
    | none => rw [hq] at h; cases h
    | some q =>
      rw [hq, hb] at h
      cases q with
      | plain => rfl
      | escape =>
        simp only [Option.bind_eq_bind, Option.bind_some, List.foldlM_cons, hc.1] at h
        cases h
      | hex n =>
        simp only [Option.bind_eq_bind, Option.bind_some, List.foldlM_cons, hc.2 n] at h
        cases h
  exact ⟨ha, (isContent_append_left ha).1 h⟩

theorem isContent_of_plain {s : String} (h : ∀ c ∈ s.toList, step .plain c = some .plain) : IsContent s := by
  unfold IsContent
  generalize s.toList = cs at h ⊢
  induction cs with
  | nil => rfl
  | cons c cs ih =>
    rw [List.foldlM_cons, h c List.mem_cons_self]
    exact ih fun c' hc' => h c' (List.mem_cons_of_mem c hc')

theorem step_digit {c : Char} (h : c.isDigit) : step .plain c = some .plain := by
  have hrange : 48 ≤ c.val ∧ c.val ≤ 57 := by simpa [Char.isDigit] using h
  have hq : c ≠ quotationMark := by
    rintro rfl
    exact absurd hrange.1 (by decide)
  have hr : c ≠ reverseSolidus := by
    rintro rfl
    exact absurd hrange.2 (by decide)
  have hs : ¬ c < ' ' := by
    intro hlt
    exact absurd (UInt32.lt_of_le_of_lt hrange.1 hlt) (by decide)
  simp [step, hq, hr, hs]

theorem isContent_natRepr (n : ℕ) : IsContent n.repr := by
  refine isContent_of_plain fun c hc => step_digit ?_
  rw [Nat.repr, String.toList_ofList] at hc
  exact Nat.isDigit_of_mem_toDigits (by decide) (by decide) hc

/-- a number's text is a content -/
theorem isContent_intRepr (n : Int) : IsContent (toString n) := by
  show IsContent (Int.repr n)
  cases n with
  | ofNat m => exact isContent_natRepr m
  | negSucc m => exact (isContent_append_left (by decide)).2 (isContent_natRepr m.succ)

/-! ## Objects of string members -/

inductive Token where
  | openBrace
  | closeBrace
  | colon
  | comma
  | string (content : String)
deriving DecidableEq, Repr

def leftBrace : Char := Char.ofNat 0x7b
def rightBrace : Char := Char.ofNat 0x7d

def isBlank (c : Char) : Bool := c = ' ' || c = '\t' || c = '\n' || c = '\r'

def punctuation (c : Char) : Option Token :=
  if c = leftBrace then some .openBrace
  else if c = rightBrace then some .closeBrace
  else if c = ':' then some .colon
  else if c = ',' then some .comma
  else none

/-- where a reader stands: between two tokens, or after some of a string's content -/
inductive Place where
  | between
  | within (q : StringState) (content : List Char)

/-- the tokens of a text from a place on; none if it is no sequence of tokens -/
def tokens : Place → List Char → Option (List Token)
  | .between, [] => some []
  | .within _ _, [] => none
  | .between, c :: cs =>
    if isBlank c then tokens .between cs
    else if c = quotationMark then tokens (.within .plain []) cs
    else (punctuation c).bind fun t => (tokens .between cs).map (t :: ·)
  | .within q content, c :: cs =>
    if q = .plain ∧ c = quotationMark then (tokens .between cs).map (.string (String.ofList content) :: ·)
    else (step q c).bind fun q => tokens (.within q (content ++ [c])) cs

/-- the members up to the closing brace -/
def membersOf : List Token → Option (List (String × String))
  | [.string k, .colon, .string v, .closeBrace] => some [(k, v)]
  | .string k :: .colon :: .string v :: .comma :: rest => (membersOf rest).map ((k, v) :: ·)
  | _ => none

def objectOf : List Token → Option (List (String × String))
  | [.openBrace, .closeBrace] => some []
  | .openBrace :: rest => membersOf rest
  | _ => none

/-- the members of an object all of whose members are strings; none if the text is no such object -/
def stringMembers (text : String) : Option (List (String × String)) := (tokens .between text.toList).bind objectOf

/-! ## Inside a string -/

theorem step_some_not_closing {q q' : StringState} {c : Char} (h : step q c = some q') :
    ¬ (q = .plain ∧ c = quotationMark) := by
  rintro ⟨rfl, rfl⟩
  cases h

/-- a content is read to its end -/
theorem tokens_content {q q' : StringState} {cs : List Char} (h : cs.foldlM step q = some q') (content rest : List Char) :
    tokens (.within q content) (cs ++ rest) = tokens (.within q' (content ++ cs)) rest := by
  induction cs generalizing q content with
  | nil =>
    obtain rfl := Option.some.inj h
    rw [List.nil_append, List.append_nil]
  | cons c cs ih =>
    rw [List.foldlM_cons] at h
    obtain ⟨q₁, hc, hcs⟩ := Option.bind_eq_some_iff.1 h
    rw [List.cons_append, tokens, if_neg (step_some_not_closing hc), hc, Option.bind_some, ih hcs, List.append_assoc]
    rfl

/-- a text that is not content is not read, or it closes the string before its end -/
theorem tokens_not_content {q : StringState} {cs : List Char} (h : cs.foldlM step q = none) (content rest : List Char) :
    tokens (.within q content) (cs ++ rest) = none ∨ ∃ pre post, cs = pre ++ quotationMark :: post ∧
      tokens (.within q content) (cs ++ rest) =
        (tokens .between (post ++ rest)).map (.string (String.ofList (content ++ pre)) :: ·) := by
  induction cs generalizing q content with
  | nil => cases h
  | cons c cs ih =>
    rw [List.cons_append, tokens]
    by_cases hclose : q = .plain ∧ c = quotationMark
    · rw [if_pos hclose]
      exact Or.inr ⟨[], cs, by rw [hclose.2]; rfl, by rw [List.append_nil]⟩
    · rw [if_neg hclose]
      cases hc : step q c with
      | none => exact Or.inl rfl
      | some q₁ =>
        rw [List.foldlM_cons, hc] at h
        rcases ih h (content ++ [c]) with hnone | ⟨pre, post, hcs, ht⟩
        · exact Or.inl hnone
        · refine Or.inr ⟨c :: pre, post, by rw [hcs]; rfl, ?_⟩
          rw [Option.bind_some, ht, List.append_assoc]
          rfl

/-- from inside a string the first token is that string -/
theorem tokens_within {q : StringState} {content cs : List Char} {ts : List Token}
    (h : tokens (.within q content) cs = some ts) : ∃ s ts', ts = .string s :: ts' := by
  induction cs generalizing q content with
  | nil => cases h
  | cons c cs ih =>
    rw [tokens] at h
    split_ifs at h
    · obtain ⟨ts', -, rfl⟩ := Option.map_eq_some_iff.1 h
      exact ⟨_, ts', rfl⟩
    · obtain ⟨q₁, -, h₁⟩ := Option.bind_eq_some_iff.1 h
      exact ih h₁

/-- a quotation mark between tokens begins a string token -/
theorem tokens_quotationMark {cs : List Char} {ts : List Token} (h : tokens .between cs = some ts)
    (hq : quotationMark ∈ cs) : ∃ s, .string s ∈ ts := by
  induction cs generalizing ts with
  | nil => cases hq
  | cons c cs ih =>
    rw [tokens] at h
    split_ifs at h with hb hc
    · refine ih h ((List.mem_cons.1 hq).resolve_left ?_)
      rintro rfl
      exact absurd hb (by decide)
    · obtain ⟨s, ts', rfl⟩ := tokens_within h
      exact ⟨s, List.mem_cons_self⟩
    · obtain ⟨t, -, ht⟩ := Option.bind_eq_some_iff.1 h
      obtain ⟨ts', hts, rfl⟩ := Option.map_eq_some_iff.1 ht
      obtain ⟨s, hs⟩ := ih hts ((List.mem_cons.1 hq).resolve_left fun heq => hc heq.symm)
      exact ⟨s, List.mem_cons_of_mem t hs⟩

/-! ## The last member -/

/-- a text that closes a string and an object -/
def closing : List Char := [quotationMark, rightBrace]

/-- **A text inserted before the closing** is read as one string exactly if it is a content. -/
theorem tokens_closing {cs : List Char} {s : String} :
    tokens (.within .plain []) (cs ++ closing) = some [.string s, .closeBrace] ↔
      cs.foldlM step .plain = some .plain ∧ s = String.ofList cs := by
  cases h : cs.foldlM step .plain with
  | none =>
    simp only [reduceCtorEq, false_and, iff_false]
    intro ht
    rcases tokens_not_content h [] closing with hnone | ⟨pre, post, -, hpost⟩
    · rw [ht] at hnone
      cases hnone
    · -- what follows the early end holds the closing quotation mark
      rw [ht] at hpost
      obtain ⟨ts, hts, heq⟩ := Option.map_eq_some_iff.1 hpost.symm
      obtain ⟨-, rfl⟩ := List.cons.inj heq
      obtain ⟨s', hs'⟩ := tokens_quotationMark hts (by simp [closing])
      simp at hs'
  | some q =>
    rw [tokens_content h, List.nil_append]
    cases q with
    | plain =>
      have hclose : tokens (.within .plain cs) closing = some [.string (String.ofList cs), .closeBrace] := rfl
      rw [hclose]
      simp [eq_comm]
    | escape =>
      have hopen : tokens (.within .escape cs) closing = none := rfl
      simp [hopen]
    | hex n =>
      have hstuck : tokens (.within (.hex n) cs) closing = none := by cases n <;> rfl
      simp [hstuck]

/-- the text opens an object and its last string, after the tokens -/
def Opens (before : String) (ts : List Token) : Prop :=
  ∀ rest, tokens .between (before.toList ++ rest) = (tokens (.within .plain []) rest).map (ts ++ ·)

/-- the tokens one after the other, as the reader puts them -/
theorem opens_of_tokens {before : String} {ts : List Token}
    (h : ∀ rest, tokens .between (before.toList ++ rest) =
      ts.foldr (fun t o => o.map (t :: ·)) (tokens (.within .plain []) rest)) : Opens before ts := by
  intro rest
  rw [h rest]
  generalize tokens (.within .plain []) rest = o
  clear h
  induction ts with
  | nil => cases o <;> rfl
  | cons t ts ih => rw [List.foldr_cons, ih, Option.map_map]; rfl

theorem membersOf_ne_nil (ts : List Token) : membersOf ts ≠ some [] := by
  intro h
  unfold membersOf at h
  split at h
  · cases h
  · obtain ⟨_, -, h'⟩ := Option.map_eq_some_iff.1 h
    cases h'
  · cases h

/-- one member is a string and the closing brace -/
theorem membersOf_last {k : String} {last : String × String} {ts : List Token}
    (h : membersOf (.string k :: .colon :: ts) = some [last]) :
    ∃ v, last = (k, v) ∧ ts = [.string v, .closeBrace] := by
  unfold membersOf at h
  split at h
  · rename_i v heq
    cases heq
    cases h
    exact ⟨v, rfl, rfl⟩
  · rename_i heq
    cases heq
    obtain ⟨ms, hms, hcons⟩ := Option.map_eq_some_iff.1 h
    obtain rfl := (List.cons.inj hcons).2
    exact absurd hms (membersOf_ne_nil _)
  · cases h

/-- **The last of two members.** The object has two members iff the inserted text is a string's content. -/
theorem lastMember_iff {before k v k' : String}
    (hbefore : Opens before [.openBrace, .string k, .colon, .string v, .comma, .string k', .colon]) {m : String}
    {first last : String × String} :
    stringMembers (before ++ m ++ String.ofList closing) = some [first, last] ↔
      IsContent m ∧ first = (k, v) ∧ last = (k', m) := by
  have htokens : tokens .between (before ++ m ++ String.ofList closing).toList =
      (tokens (.within .plain []) (m.toList ++ closing)).map
        ([.openBrace, .string k, .colon, .string v, .comma, .string k', .colon] ++ ·) := by
    rw [String.toList_append, String.toList_append, List.append_assoc, String.toList_ofList, hbefore]
  unfold stringMembers
  rw [htokens]
  constructor
  · intro h
    obtain ⟨_, hts, hobject⟩ := Option.bind_eq_some_iff.1 h
    obtain ⟨ts, ht, rfl⟩ := Option.map_eq_some_iff.1 hts
    obtain ⟨ms, hms, hcons⟩ := Option.map_eq_some_iff.1 hobject
    obtain ⟨hfirst, rfl⟩ := List.cons.inj hcons
    obtain ⟨message, hlast, rfl⟩ := membersOf_last hms
    obtain ⟨hcontent, hmessage⟩ := tokens_closing.1 ht
    rw [hmessage, String.ofList_toList] at hlast
    exact ⟨hcontent, hfirst.symm, hlast⟩
  · rintro ⟨hcontent, rfl, rfl⟩
    rw [tokens_closing.2 ⟨hcontent, rfl⟩, String.ofList_toList]
    rfl

end Asabru.Json
