/-
XML documents as the loaders see them, and the few C++ library functions applied to their texts.

The tree is the one tinyxml2 builds: an element has a name, attributes and children (texts, comments, elements). The
accessors are the ones the code calls: `FirstChildElement`, the `NextSiblingElement` walk over siblings of one name,
`Attribute` and `GetText`, with null as `none`. tinyxml2 itself is not under src/: parsing, `QueryIntText` and the
printer are the fields of `TinyXml`, arbitrary functions. A failed call carries a code that is not `XML_SUCCESS`
(`XMLFailure`), so that a failure that reports success cannot be built.

`stoi` follows `std::stoi` at base 10 with a 32-bit int; `toLower` follows `std::tolower` in the "C" locale.
-/
import Mathlib.Tactic
import Asabru.Core.Control

namespace Asabru.Xml

open Asabru.Control

/-- tinyxml2's error codes, in its order: the position is the number that `std::to_string` prints -/
inductive XMLError where
  | success
  | noAttribute
  | wrongAttributeType
  | errorFileNotFound
  | errorFileCouldNotBeOpened
  | errorFileReadError
  | errorParsingElement
  | errorParsingAttribute
  | errorParsingText
  | errorParsingCdata
  | errorParsingComment
  | errorParsingDeclaration
  | errorParsingUnknown
  | errorEmptyDocument
  | errorMismatchedElement
  | errorParsing
  | canNotConvertText
  | noTextNode
  | elementDepthExceeded
deriving DecidableEq, Repr

/-- the code's number -/
def XMLError.toNat (e : XMLError) : ℕ := e.ctorIdx

/-- a code that reports a failure -/
structure XMLFailure where
  code : XMLError
  failed : code ≠ .success
deriving DecidableEq, Repr

/-- the file does not exist, or no path is given -/
def fileNotFound : XMLFailure := ⟨.errorFileNotFound, by decide⟩

/-- a child of an element of type `ε` -/
inductive XMLChild (ε : Type) where
  | text (value : String)
  | comment (value : String)
  | element (e : ε)

structure XMLElement where
  name : String
  attributes : List (String × String)
  children : List (XMLChild XMLElement)

structure XMLDocument where
  children : List (XMLChild XMLElement)

/-- the child elements, in document order -/
def elementsOf (children : List (XMLChild XMLElement)) : List XMLElement :=
  children.filterMap fun
    | .element e => some e
    | _ => none

/-- what the walk `FirstChildElement(n)`, `NextSiblingElement(n)`, ... visits: the child elements named `n`, in order -/
def XMLElement.siblings (e : XMLElement) (n : String) : List XMLElement :=
  (elementsOf e.children).filter fun c => c.name = n

def XMLElement.firstChildElement (e : XMLElement) (n : String) : Option XMLElement :=
  (elementsOf e.children).find? fun c => c.name = n

def XMLDocument.firstChildElement (d : XMLDocument) (n : String) : Option XMLElement :=
  (elementsOf d.children).find? fun c => c.name = n

def XMLElement.attribute (e : XMLElement) (n : String) : Option String := e.attributes.lookup n

/-- the leading text child (comments before it are skipped), null if there is none -/
def XMLElement.getText (e : XMLElement) : Option String :=
  match e.children.dropWhile (fun c => match c with | .comment _ => true | _ => false) with
  | .text s :: _ => some s
  | _ => none

/-- tinyxml2: arbitrary functions -/
structure TinyXml where
  parse : String → Except XMLFailure XMLDocument
  loadFile : String → Except XMLFailure XMLDocument
  queryIntText : XMLElement → Except XMLFailure Int
  /-- what `XMLPrinter::CStr` returns after visiting the element -/
  print : XMLElement → String

/-! ## Loaders that assign their output once -/

/-- a loader that assigns its output after its loops: an exit of the loops leaves the output as it was -/
def assignAfter {α : Type} (loops : Except (Ending XMLFailure) α) (output : α) : Ending XMLError × α :=
  match loops with
  | .ok v => (.ret .success, v)
  | .error (.ret f) => (.ret f.code, output)
  | .error (.throws e) => (.throws e, output)
  | .error .hangs => (.hangs, output)
  | .error .undefined => (.undefined, output)

/-- the loops end or are left by a returned code -/
def Returns {α : Type} (loops : Except (Ending XMLFailure) α) : Prop := ∀ e, loops = .error e → ∃ f, e = .ret f

section AssignAfter

variable {α : Type} {loops : Except (Ending XMLFailure) α} {output : α}

theorem assignAfter_success : (assignAfter loops output).1 = .ret .success ↔ ∃ v, loops = .ok v := by
  unfold assignAfter
  split <;> simp
  rename_i f
  exact f.failed

theorem assignAfter_returns (output : α) : (∃ c, (assignAfter loops output).1 = .ret c) ↔ Returns loops := by
  unfold assignAfter Returns
  split <;> simp

theorem assignAfter_error {e : Ending XMLFailure} (h : loops = .error e) : (assignAfter loops output).2 = output := by
  subst h
  cases e <;> rfl

theorem assignAfter_ok {v : α} (h : loops = .ok v) : (assignAfter loops output).2 = v := by
  subst h
  rfl

end AssignAfter

/-! ## Texts -/

/-- `safeText`: the element's text, or the default if the element or its text is null -/
def safeText (el : Option XMLElement) (defaultVal : String := "") : String :=
  match el with
  | none => defaultVal
  | some e => (e.getText).getD defaultVal

def toLower (s : String) : String := String.ofList (s.toList.map Char.toLower)

/-- `low` is the text with each upper-case letter made small -/
def LowerCased (text low : String) : Prop :=
  List.Forall₂ (fun c d : Char => if 'A' ≤ c ∧ c ≤ 'Z' then d.toNat = c.toNat + 32 else d = c) text.toList low.toList

theorem toLower_letter (c d : Char) :
    c.toLower = d ↔ if 'A' ≤ c ∧ c ≤ 'Z' then d.toNat = c.toNat + 32 else d = c := by
  unfold Char.toLower
  have hupper : (c.val ≥ 'A'.val ∧ c.val ≤ 'Z'.val) ↔ ('A' ≤ c ∧ c ≤ 'Z') := Iff.rfl
  by_cases h : 'A' ≤ c ∧ c ≤ 'Z'
  · rw [dif_pos (hupper.2 h), if_pos h]
    have hle : c.val.toNat ≤ 90 := h.2
    have hsum : (c.val + ('a'.val - 'A'.val)).toNat = c.toNat + 32 := by
      rw [UInt32.toNat_add]
      exact Nat.mod_eq_of_lt (by change c.val.toNat + 32 < _; omega)
    constructor
    · rintro rfl
      exact hsum
    · intro hd
      exact Char.ext (UInt32.toNat_inj.1 (hsum.trans hd.symm))
  · rw [dif_neg (hupper.not.2 h), if_neg h, eq_comm]

/-- **What `toLower` gives**, letter by letter. -/
theorem toLower_iff {text low : String} : toLower text = low ↔ LowerCased text low := by
  unfold toLower LowerCased
  rw [← String.toList_inj, String.toList_ofList, ← List.forall₂_eq_eq_eq, List.forall₂_map_left_iff]
  simp only [toLower_letter]

/-- `isspace` in the "C" locale -/
def isSpace (c : Char) : Bool := c = ' ' || ('\t' ≤ c && c ≤ '\r')

def stoiInvalid : Exn := .std "stoi"

/-- the value of a run of decimal digits -/
def digitsValue (ds : List Char) : ℕ := ds.foldl (fun v c => 10 * v + (c.toNat - '0'.toNat)) 0

/-- the sign of a number's text and what follows it -/
def splitSign : List Char → Int × List Char
  | '-' :: rest => (-1, rest)
  | '+' :: rest => (1, rest)
  | rest => (1, rest)

/-- `std::stoi`: blanks, an optional sign, then the longest run of digits; `invalid_argument` without a digit,
`out_of_range` beyond a 32-bit int (both report the function's name) -/
def stoi (s : String) : Except Exn Int :=
  let body := splitSign (s.toList.dropWhile isSpace)
  let digits := body.2.takeWhile Char.isDigit
  let v := body.1 * digitsValue digits
  if digits = [] then .error stoiInvalid
  else if v < -2147483648 ∨ 2147483647 < v then .error stoiInvalid
  else .ok v

theorem stoi_error {s : String} {e : Exn} (h : stoi s = .error e) : e = stoiInvalid := by
  unfold stoi at h
  dsimp only at h
  split_ifs at h
  · exact (Except.error.inj h).symm
  · exact (Except.error.inj h).symm

/-! ## A tinyxml2 for fixed documents -/

/-- `QueryIntText` as documented: the leading text read as an integer -/
def queryIntTextOf (e : XMLElement) : Except XMLFailure Int :=
  match e.getText with
  | none => .error ⟨.noTextNode, by decide⟩
  | some t =>
    match stoi t with
    | .error _ => .error ⟨.canNotConvertText, by decide⟩
    | .ok v => .ok v

/-- tinyxml2 on the documents of a table, by text and by path, whose printed elements have no attributes and no
children; any other text or path is not read -/
def TinyXml.table (docs : List (String × XMLDocument)) : TinyXml where
  parse text := match docs.lookup text with
    | some doc => .ok doc
    | none => .error ⟨.errorParsing, by decide⟩
  loadFile path := match docs.lookup path with
    | some doc => .ok doc
    | none => .error fileNotFound
  queryIntText := queryIntTextOf
  print e := "<" ++ e.name ++ "/>\n"

/-- an element without attributes -/
def elem (name : String) (children : List XMLElement) : XMLElement := ⟨name, [], children.map .element⟩

/-- an element that holds a text -/
def leaf (name text : String) : XMLElement := ⟨name, [], [.text text]⟩

/-- a document with one top-level element -/
def document (root : XMLElement) : XMLDocument := ⟨[.element root]⟩

example : stoi " -42x" = .ok (-42) ∧ stoi "2147483648" = .error stoiInvalid ∧ stoi "port" = .error stoiInvalid := by
  decide

end Asabru.Xml
