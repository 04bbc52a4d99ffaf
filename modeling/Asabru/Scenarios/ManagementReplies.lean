/-
THE JSON OF THE MANAGEMENT REPLIES: what `updateConfiguration` and `updateEndPointService` return as a text.

The reply is built by inserting the message between two constant texts, as it is. Everything that the message quotes, a
name or an operation of the request as much as a text of the dynamic linker, stands in the JSON string unescaped. What is
quoted after a failure of `dlsym` is what `dlclose` left where the linker's text was.

- `replies_iff`: for every request, state and environment, what is returned is an object with exactly the members status
  and message, both strings, with the right status, exactly when everything that the answer quotes is the content of a JSON
  string; counting a load that fails as an error path, exactly when besides no such load goes on to succeed.
Counterexample: `name_adds_a_status`.

Adversary: any content, with any decoding of it by tinyxml2 (texts are sequences of Unicode characters).
-/
import Mathlib.Tactic
import Asabru.Server.Quotes

namespace Asabru.ManagementReplies

open Asabru.Control Asabru.Xml Asabru.Config Asabru.Json Asabru.Server

/-! ## The property -/

/-- an object with the two members, both strings, whose status says whether the request succeeded -/
def WellFormed (success : Prop) (text : String) : Prop :=
  ∃ status message, stringMembers text = some [("status", status), ("message", message)] ∧
    ((status = "ok" ∧ success) ∨ (status = "error" ∧ ¬ success))

/-- what is returned, if anything is, is such an object -/
def RepliesWell (lib : Lib) (w : World) (s : State) (q : Request) (success : Prop) : Prop :=
  ∀ r, (s.request lib w q).1 = .ret r → WellFormed success r.text

/-- everything that the answer quotes can stand in a JSON string -/
def QuotesContents (lib : Lib) (w : World) (s : State) (q : Request) : Prop :=
  ∀ t ∈ answerQuotes lib w s q, IsContent t

/-- a load, if the request makes one, reports no failure -/
def LoadAccepted (lib : Lib) (w : World) (s : State) : Request → Prop
  | .updateConfiguration content => (s.loadFromString lib w content).1 = .ret .success
  | .updateEndPointService _ => True

/-! ## The text of a reply -/

/-- the part of a reply before its message -/
def opening (status : Status) : String := "\x7b\"status\":\"" ++ status.text ++ "\",\"message\":\""

theorem opening_opens (status : Status) : Opens (opening status)
    [.openBrace, .string "status", .colon, .string status.text, .comma, .string "message", .colon] := by
  refine opens_of_tokens fun rest => ?_
  cases status <;> rfl

/-- **A reply is an object of two string members** iff its message is the content of a string. -/
theorem text_iff (r : Reply) {first last : String × String} :
    stringMembers r.text = some [first, last] ↔
      IsContent r.message ∧ first = ("status", r.status.text) ∧ last = ("message", r.message) := by
  have htext : r.text = opening r.status ++ r.message ++ String.ofList closing := rfl
  rw [htext]
  exact lastMember_iff (opening_opens r.status)

theorem status_iff {r : Reply} {success : Prop} :
    ((r.status.text = "ok" ∧ success) ∨ (r.status.text = "error" ∧ ¬ success)) ↔ (r.status = .ok ↔ success) := by
  cases h : r.status with
  | ok => simp [Status.text]
  | error => simp [Status.text]

/-- a reply is well formed iff its message is a content and its status is right -/
theorem wellFormed_iff (r : Reply) (success : Prop) :
    WellFormed success r.text ↔ IsContent r.message ∧ (r.status = .ok ↔ success) := by
  rw [← status_iff]
  constructor
  · rintro ⟨status, message, hmembers, hstatus⟩
    obtain ⟨hcontent, hfirst, -⟩ := (text_iff r).1 hmembers
    obtain ⟨-, rfl⟩ := Prod.mk.inj hfirst
    exact ⟨hcontent, hstatus⟩
  · rintro ⟨hcontent, hstatus⟩
    exact ⟨r.status.text, r.message, (text_iff r).2 ⟨hcontent, rfl, rfl⟩, hstatus⟩

/-! ## All requests -/

/-- **The replies are well-formed JSON with the right status iff all that they quote is.** -/
theorem replies_iff (lib : Lib) (w : World) (s : State) (q : Request) :
    (RepliesWell lib w s q (Succeeds lib w s q) ↔ QuotesContents lib w s q) ∧
    (RepliesWell lib w s q (Succeeds lib w s q ∧ LoadAccepted lib w s q) ↔
      QuotesContents lib w s q ∧ (Succeeds lib w s q → LoadAccepted lib w s q)) := by
  have hanswer := request_answer lib w s q
  have replies : ∀ success, RepliesWell lib w s q success ↔
      QuotesContents lib w s q ∧ ((∃ r, (s.request lib w q).1 = .ret r) → (Succeeds lib w s q ↔ success)) := by
    intro success
    constructor
    · intro h
      by_cases hret : ∃ r, (s.request lib w q).1 = .ret r
      · obtain ⟨r, hr⟩ := hret
        obtain ⟨hcontent, hstatus⟩ := (wellFormed_iff r success).1 (h r hr)
        exact ⟨(hanswer.message r hr).1 hcontent, fun _ => (hanswer.status r hr).symm.trans hstatus⟩
      · refine ⟨fun t ht => ?_, fun hr => absurd hr hret⟩
        rw [hanswer.silent fun r hr => hret ⟨r, hr⟩] at ht
        cases ht
    · rintro ⟨hquotes, hsuccess⟩ r hr
      exact (wellFormed_iff r success).2
        ⟨(hanswer.message r hr).2 hquotes, (hanswer.status r hr).trans (hsuccess ⟨r, hr⟩)⟩
  constructor
  · rw [replies]
    exact and_iff_left fun _ => Iff.rfl
  · rw [replies]
    refine and_congr_right fun _ => ⟨fun h hs => ((h (hanswer.returns hs)).1 hs).2, fun h _ => ?_⟩
    exact ⟨fun hs => ⟨hs, h hs⟩, And.left⟩

/-! ## A name with quotation marks -/

/-- the name that the attribute text `x&quot;,&quot;status&quot;:&quot;ok&quot;,&quot;m&quot;:&quot;` stands for -/
def quotingName : String := "x\",\"status\":\"ok\",\"m\":\""

def quotingDocuments : List (String × XMLDocument) :=
  [("config.xml", endPointsDocument [endPointElement "a" "Pipeline" "" [("a1", "10.0.0.1")]]),
    ("request", updateDocument "add" quotingName "a2" "10.0.0.2")]

/-- **An unknown endpoint's name adds a status** to the answer that refuses it. -/
theorem name_adds_a_status :
    (∃ r, ((plainProcess quotingDocuments).request (.plain (.table quotingDocuments)) .calm
        (.updateEndPointService "request")).1 = .ret r ∧
      stringMembers r.text = some [("status", "error"), ("message", "Endpoint 'x"), ("status", "ok"),
        ("m", "' not found.")]) ∧
    ¬ RepliesWell (.plain (.table quotingDocuments)) .calm (plainProcess quotingDocuments)
      (.updateEndPointService "request") (Succeeds (.plain (.table quotingDocuments)) .calm (plainProcess quotingDocuments)
        (.updateEndPointService "request")) := by
  have hreply : ((plainProcess quotingDocuments).request (.plain (.table quotingDocuments)) .calm
      (.updateEndPointService "request")).1 = .ret (errorReply ("Endpoint '" ++ quotingName ++ "' not found.")) := by
    decide
  refine ⟨⟨_, hreply, by decide⟩, fun h => ?_⟩
  obtain ⟨hcontent, -⟩ := (wellFormed_iff _ _).1 (h _ hreply)
  exact absurd hcontent (by decide)

end Asabru.ManagementReplies
