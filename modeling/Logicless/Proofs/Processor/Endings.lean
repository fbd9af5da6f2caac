import Logicless.Proofs.Document.Flaws
import Logicless.Proofs.Document.Parts
import Logicless.Proofs.Processor.Stages
import Logicless.Proofs.Template.Strictness
import Logicless.Template.Cursor

/-!
How rendering a template can end. A template is always cut into tokens that are all known, and always
parsed, but for a mismatched closing tag where closing is strict. What is left is the data, which
may be no document or hold an integer that is too long to be written, and a section that is bound to
a value of the wrong kind.
-/

set_option autoImplicit false

namespace Logicless

open Template Relation

/-- The ways in which rendering a template with some tokens against data can end. -/
inductive Ending (closing : Closing) (tokens : List Token) (datum : Datum) :
    Except ProcessError String → Prop where
  | whole (text : String) {document : Document} (accepted : Document.ofDatum datum = .ok document) :
    Ending closing tokens datum (.ok text)
  | sectionType (name : String) (kind : Kind) {document : Document}
    (accepted : Document.ofDatum datum = .ok document) (notBool : kind ≠ .bool)
    (notArray : kind ≠ .array) : Ending closing tokens datum (.error (.render (.sectionType name kind)))
  /-- Integers of any length are documents, but have a text up to a limit only. -/
  | unwritable {document : Document} (accepted : Document.ofDatum datum = .ok document)
    (long : document.isWritable = false) : Ending closing tokens datum (.error (.render .unwritable))
  | shape (error : ShapeError) (rejected : Document.ofDatum datum = .error error) :
    Ending closing tokens datum (.error (.load (.shape error)))
  | mismatch {token : Token} {openName : String} (among : token ∈ tokens)
    (mismatch : Mismatch closing token openName) :
    Ending closing tokens datum (.error (.template (.parse (.mismatchedClose token openName))))

namespace Attempt

/-- Known nodes fail in sections, and in variables where the document cannot be written. -/
theorem failure_of_known {nodes : List Node} (known : .unknown ∉ Node.labelsOf nodes)
    {document : Document} {error : RenderError}
    (failed : (Node.shownAll nodes (.ofRoot document)).failure = some error) :
    (∃ name kind, error = .sectionType name kind ∧ kind ≠ .bool ∧ kind ≠ .array) ∨
      (error = .unwritable ∧ document.isWritable = false) := by
  have root (hidden : ¬ (Scopes.ofRoot document).AreWritable) : document.isWritable = false :=
    Bool.eq_false_iff.mpr fun writable => hidden (List.forall_mem_singleton.mpr writable)
  have only : (Node.shownAll nodes (.ofRoot document)).FailsOnly fun error =>
      (∃ name kind, error = .sectionType name kind ∧ kind ≠ .bool ∧ kind ≠ .array) ∨
        (error = .unwritable ∧ document.isWritable = false) :=
    Node.shownAll_failsOnly
      (fun name kind notBool notArray => .inl ⟨name, kind, rfl, notBool, notArray⟩) nodes
      (fun among => absurd among known) _ fun hidden => .inr ⟨rfl, root hidden⟩
  exact only error failed

theorem ending_of_parsed {closing : Closing} {template : String} {tokens : List Token}
    {nodes : List Node} (made : tokenize template = .ok tokens)
    (parsed : (parseTokens closing tokens).result = .ok nodes)
    (known : .unknown ∉ Node.labelsOf nodes) (datum : Datum) :
    Ending closing tokens datum (renderTemplate closing template (.ok datum)).result := by
  rw [renderTemplate_of_parsed made parsed, wrap_result]
  cases accepted : Document.ofDatum datum with
  | error error => exact .shape error accepted
  | ok document =>
      change Ending closing tokens datum
        ((Node.shownAll nodes (.ofRoot document)).wholeText.mapError .render)
      rw [Shown.wholeText]
      split
      · exact .whole _ accepted
      · rename_i error failed
        rcases failure_of_known known failed with
          ⟨name, kind, rfl, notBool, notArray⟩ | ⟨rfl, long⟩
        · exact .sectionType name kind accepted notBool notArray
        · exact .unwritable accepted long

/-- A template that is parsed does not hide that the data are no document. -/
theorem shape_of_parsed {closing : Closing} {template : String} {tokens : List Token}
    {nodes : List Node} (made : tokenize template = .ok tokens)
    (parsed : (parseTokens closing tokens).result = .ok nodes) {datum : Datum} {error : ShapeError}
    (rejected : Document.ofDatum datum = .error error) :
    (renderTemplate closing template (.ok datum)).result = .error (.load (.shape error)) := by
  rw [renderTemplate_of_parsed made parsed, wrap_result, rejected]
  rfl

theorem ending_of_mismatch {closing : Closing} {template : String} {tokens : List Token}
    {token : Token} {openName : String} (made : tokenize template = .ok tokens)
    (among : token ∈ tokens) (mismatch : Mismatch closing token openName)
    (refused : (parseTokens closing tokens).result = .error (.mismatchedClose token openName))
    (datum : Datum) :
    Ending closing tokens datum (renderTemplate closing template (.ok datum)).result := by
  rw [renderTemplate_result, parseTemplate_result closing made, refused]
  exact .mismatch among mismatch

/-- Every template is cut into tokens, which a cursor reads to the end, and rendering it ends in one
of four ways: with a text; with a section of the wrong kind; with the error of data that are no
document, in lenient parsing exactly where they are none; or, where closing is strict, with a
mismatched closing tag. Data without an end hold themselves, and data that are refused for an
integer that is too long to be shown hold it in a key; in a document such an integer ends the
rendering where it would be written. Where data are a document, whatever can be reached from it is
that of a datum inside them, which by itself has this kind and this text. -/
theorem renderTemplate_ending (closing : Closing) (template : String) (datum : Datum) :
    (∃ tokens, tokenize template = .ok tokens ∧ Cursor.Reads ⟨tokens, 0⟩ tokens ∧
      Ending closing tokens datum (renderTemplate closing template (.ok datum)).result) ∧
    (closing.strict = false → ∀ error,
      (renderTemplate closing template (.ok datum)).result = .error (.load (.shape error)) ↔
        Document.ofDatum datum = .error error) ∧
    (Document.ofDatum datum = .error .endless →
      ∃ name, ReflTransGen Datum.HasPart datum (.cycle name)) ∧
    (Document.ofDatum datum = .error .unwritable → datum.HoldsLongKey) ∧
    ∀ source document, Document.ofDatumAt [] source = .ok document → ∀ part,
      document.Reaches part → ∃ inside, ReflTransGen Datum.HasPart source inside ∧
        inside.kind? = some part.kind ∧ inside.text? = some part.toText := by
  obtain ⟨tokens, made, -⟩ := tokenize_allCutFrom template
  have outcome := parseTokens_outcome closing tokens (known_of_tokenize made)
  refine ⟨⟨tokens, made, Cursor.reads_start tokens, ?_⟩, ?_, ?_, ?_, ?_⟩
  · rcases outcome with ⟨nodes, parsed, known⟩ | ⟨token, among, openName, mismatch, refused⟩
    · exact ending_of_parsed made parsed known datum
    · exact ending_of_mismatch made among mismatch refused datum
  · intro lenient error
    rcases outcome with ⟨nodes, parsed, known⟩ | ⟨_, -, _, mismatch, -⟩
    · constructor
      · intro ended
        have ending := ending_of_parsed made parsed known datum
        rw [ended] at ending
        cases ending with
        | shape _ rejected => exact rejected
      · exact shape_of_parsed made parsed
    · exact absurd mismatch.strict (by rw [lenient]; decide)
  · intro endless
    cases datum with
    | document value => cases endless
    | _ => exact @Document.exists_cycle_of_ofDatumAt [] _ endless
  · intro refused
    rcases Document.flaw_of_ofDatum refused rfl with ⟨other, -⟩ | ⟨-, long⟩
    · cases other
    · exact long
  · intro source document accepted part reached
    obtain ⟨inside, within, wraps⟩ := Document.Wraps.exists_reached ⟨[], accepted⟩ reached
    exact ⟨inside, within, wraps.kind?, wraps.text?⟩

end Attempt

end Logicless
