import Logicless.Proofs.Template.Marks
import Logicless.Proofs.Template.OpenSections

/-!
Passes over tokens that follow one another. A pass over tokens that reads all of them leaves open
sections behind, and the pass over more tokens goes on from there. Where only the template itself is
open, the nodes of the tokens behind are appended to those before. Where a token stands, and what it
was cut from, makes no difference to the tree.
-/

set_option autoImplicit false

namespace Logicless.Template

namespace OpenSections

/-- The open sections behind some tokens, if the pass goes on to the last of them. -/
def behind? (closing : Closing) (sections : OpenSections) : List Token → Option OpenSections
  | [] => some sections
  | token :: rest =>
    match sections.step closing token with
    | .goOn next => next.behind? closing rest
    | .stop _ | .refuse _ => none

theorem behind?_append (closing : Closing) (sections : OpenSections) (first second : List Token) :
    sections.behind? closing (first ++ second) =
      (sections.behind? closing first).bind fun next => next.behind? closing second := by
  induction first generalizing sections with
  | nil => rfl
  | cons token rest ih =>
      rw [List.cons_append, behind?, behind?]
      cases sections.step closing token with
      | goOn next => exact ih next
      | stop template => rfl
      | refuse error => rfl

/-- The pass goes on from the sections that are open behind the first tokens. -/
theorem run_append {closing : Closing} {sections next : OpenSections} {first : List Token}
    (reached : sections.behind? closing first = some next) (second : List Token) :
    sections.run closing (first ++ second) = next.run closing second := by
  induction first generalizing sections with
  | nil =>
      cases reached
      rfl
  | cons token rest ih =>
      rw [behind?] at reached
      rw [List.cons_append, run]
      cases moved : sections.step closing token with
      | goOn other =>
          rw [moved] at reached
          exact ih reached
      | stop template =>
          rw [moved] at reached
          cases reached
      | refuse error =>
          rw [moved] at reached
          cases reached

/-- Behind tokens that are not all read, it makes no difference what stands there. -/
theorem run_append_congr {closing : Closing} {sections : OpenSections} {first second other : List Token}
    (same : ∀ next, sections.behind? closing first = some next →
      next.run closing second = next.run closing other) :
    sections.run closing (first ++ second) = sections.run closing (first ++ other) := by
  induction first generalizing sections with
  | nil => exact same sections rfl
  | cons token rest ih =>
      rw [List.cons_append, List.cons_append, run, run]
      cases moved : sections.step closing token with
      | goOn next =>
          apply ih
          intro last reached
          apply same
          rw [behind?, moved]
          exact reached
      | stop template => rfl
      | refuse error => rfl

/-- The closing tag of the innermost section ends it, strict closing or not. -/
theorem step_own_close {closed : Token} {sections : OpenSections}
    (closes : closed.mark = (.sectionClose, sections.innermost.name)) (closing : Closing) :
    sections.step closing closed = sections.leave := by
  obtain ⟨kind, value⟩ := Prod.mk.inj closes
  rw [step, kind]
  exact if_pos value

/-- Tokens that say the same move the pass alike, or are both refused. -/
theorem step_of_mark_eq {token other : Token} (same : token.mark = other.mark) (closing : Closing)
    (sections : OpenSections) :
    sections.step closing other = sections.step closing token ∨
      (∃ error, sections.step closing token = .refuse error) ∧
        ∃ error, sections.step closing other = .refuse error := by
  obtain ⟨kind, value⟩ := Prod.mk.inj same
  unfold step
  rw [← kind, ← value]
  split
  · exact .inl rfl
  · exact .inl rfl
  · exact .inl rfl
  · exact .inl rfl
  · exact .inl rfl
  · exact .inl rfl
  · split
    · exact .inl rfl
    · split
      · exact .inr ⟨⟨_, rfl⟩, _, rfl⟩
      · exact .inl rfl
  · exact .inr ⟨⟨_, rfl⟩, _, rfl⟩

/-- Tokens that say the same give the same template. -/
theorem run_of_marks_eq {closing : Closing} {sections : OpenSections} {tokens others : List Token}
    {template : Node} (same : others.map Token.mark = tokens.map Token.mark)
    (given : sections.run closing tokens = .ok template) :
    sections.run closing others = .ok template := by
  induction tokens generalizing sections others with
  | nil => rwa [List.map_eq_nil_iff.mp same]
  | cons token rest ih =>
      obtain ⟨other, later, rfl, first, restSame⟩ := List.map_eq_cons_iff.mp same
      rw [run] at given ⊢
      rcases step_of_mark_eq first.symm closing sections with
        equal | ⟨⟨error, refused⟩, otherError, otherRefused⟩
      · rw [equal]
        cases moved : sections.step closing token with
        | goOn next =>
            rw [moved] at given
            exact ih restSame given
        | stop ended =>
            rw [moved] at given
            exact given
        | refuse error =>
            rw [moved] at given
            cases given
      · rw [refused] at given
        cases given

/-- Tokens that say the same leave the same sections open. -/
theorem behind?_of_marks_eq {closing : Closing} {sections : OpenSections} {tokens others : List Token}
    (same : others.map Token.mark = tokens.map Token.mark) :
    sections.behind? closing others = sections.behind? closing tokens := by
  induction tokens generalizing sections others with
  | nil => rw [List.map_eq_nil_iff.mp same]
  | cons token rest ih =>
      obtain ⟨other, later, rfl, first, restSame⟩ := List.map_eq_cons_iff.mp same
      rw [behind?, behind?]
      rcases step_of_mark_eq first.symm closing sections with
        equal | ⟨⟨error, refused⟩, otherError, otherRefused⟩
      · rw [equal]
        cases sections.step closing token with
        | goOn next => exact ih restSame
        | stop template => rfl
        | refuse error => rfl
      · rw [refused, otherRefused]

/-- The template alone, with nodes that stand in it already. -/
def outermost (nodes : List Node) : OpenSections := ⟨⟨"", nodes⟩, []⟩

/-- Where only the template is open, the nodes of the tokens ahead are appended to those before. -/
theorem run_outermost (closing : Closing) (nodes : List Node) (tokens : List Token) :
    (outermost nodes).run closing tokens =
      (parseTokens closing tokens).result.map fun more => .block "" (nodes ++ more) := by
  rw [outermost, run_eq_bind_resume, parseTokens, Reported.result_bind]
  cases (parseSection closing "" tokens).result with
  | error failure => rfl
  | ok ended => rfl

end OpenSections

/-- Where two passes from the start end alike, the two parses do. -/
theorem parseTokens_congr {closing : Closing} {tokens others : List Token}
    (same : OpenSections.start.run closing tokens = OpenSections.start.run closing others) :
    (parseTokens closing tokens).result = (parseTokens closing others).result := by
  cases parsed : (parseTokens closing others).result with
  | ok nodes =>
      rw [OpenSections.parseTokens_eq_ok_iff] at parsed ⊢
      exact same.trans parsed
  | error failure =>
      rw [OpenSections.parseTokens_eq_error_iff] at parsed ⊢
      exact same.trans parsed

theorem parseTokens_of_marks_eq {closing : Closing} {tokens others : List Token} {nodes : List Node}
    (same : others.map Token.mark = tokens.map Token.mark)
    (parsed : (parseTokens closing tokens).result = .ok nodes) :
    (parseTokens closing others).result = .ok nodes := by
  rw [OpenSections.parseTokens_eq_ok_iff] at parsed ⊢
  exact OpenSections.run_of_marks_eq same parsed

theorem parseTokens_of_behind? {closing : Closing} {tokens : List Token} {nodes : List Node}
    (reached : OpenSections.start.behind? closing tokens = some (.outermost nodes)) :
    (parseTokens closing tokens).result = .ok nodes := by
  have ended := OpenSections.run_append reached []
  rw [List.append_nil] at ended
  exact (OpenSections.parseTokens_eq_ok_iff closing tokens nodes).mpr ended

/-- Tokens that leave only the template open, in front of others: the nodes of both in a row. -/
theorem parseTokens_append {closing : Closing} {first second : List Token} {nodes more : List Node}
    (reached : OpenSections.start.behind? closing first = some (.outermost nodes))
    (parsed : (parseTokens closing second).result = .ok more) :
    (parseTokens closing (first ++ second)).result = .ok (nodes ++ more) := by
  rw [OpenSections.parseTokens_eq_ok_iff, OpenSections.run_append reached,
    OpenSections.run_outermost, parsed]
  rfl

end Logicless.Template
