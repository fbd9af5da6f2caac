import Logicless.Document.Load
import Logicless.Proofs.Json.Failure
import Logicless.Proofs.Yaml.Composing
import Logicless.Proofs.Yaml.Data
import Logicless.Proofs.Yaml.Tokens
import Mathlib

/-!
How loading a document fails. Loading announces errors of its own: texts that are malformed, and
data that are no document. Others stray through it. Each of them shows in the text: a number of more
digits than an integer may have, an escape beyond the last character, or, in the tree of a YAML
text, a scalar without a value, a key that is a collection or comes twice, a collection inside
itself, and a key that no message can show.
-/

set_option autoImplicit false

namespace Logicless

open Number

def LoadError.isOwn : LoadError → Bool
  | .unknownFormat _ => false
  | .json (.number _) => false
  | .json _ => true
  | .yaml .malformed => true
  | .yaml _ => false
  | .shape error => error.isOwn

namespace Document

/-- The errors that stray through loading a text, with what shows them in the text. -/
inductive Stray (format : DataFormat) (text : String) : LoadError → Prop where
  /-- An integer of a JSON text. -/
  | tooManyDigits {count : Nat} (reads : format ≠ .yaml)
    (long : HoldsLongNumber maxDecimalDigits text.toList count) :
    Stray format text (.json (.number (.tooManyDigits maxDecimalDigits count)))
  /-- A YAML text that cannot be cut into tokens. -/
  | cut {error : Yaml.Error} (reads : format ≠ .json) (fault : Yaml.CutFault text.toList error) :
    Stray format text (.yaml error)
  /-- A node of a YAML text. -/
  | node {root node : Yaml.Node} {error : Yaml.Error} (reads : format ≠ .json)
    (tree : Yaml.Node.read (Yaml.tokens text.toList) = .ok (some root)) (holds : root.Holds node)
    (strays : node.Strays error) : Stray format text (.yaml error)
  /-- A collection of a YAML text inside itself. -/
  | endless {root : Yaml.Node} {error : LoadError} (reads : format ≠ .json)
    (tree : Yaml.Node.read (Yaml.tokens text.toList) = .ok (some root)) (around : root.HoldsAround)
    (endless : error = .yaml .endless ∨ error = .shape .endless) : Stray format text error
  /-- A key of a YAML text with an integer that is too long to be shown. -/
  | unwritable {root : Yaml.Node} (reads : format ≠ .json)
    (tree : Yaml.Node.read (Yaml.tokens text.toList) = .ok (some root)) (long : root.HoldsLongKey) :
    Stray format text (.shape .unwritable)

/-- A text is read as YAML, and its tree has some property. -/
def ReadsTree (format : DataFormat) (text : String) (property : Yaml.Node → Prop) : Prop :=
  format ≠ .json ∧
    ∃ root, Yaml.Node.read (Yaml.tokens text.toList) = .ok (some root) ∧ property root

/-- The flaws of data come from the tree of a YAML text. -/
def Traced (format : DataFormat) (text : String) (datum : Datum) : Prop :=
  datum.Explained (ReadsTree format text Yaml.Node.HoldsAround)
    (ReadsTree format text Yaml.Node.HoldsLongKey)

section

variable {format : DataFormat} {text : String}

def Fails (format : DataFormat) (text : String) (error : LoadError) : Prop :=
  error.isOwn = true ∨ Stray format text error

end

end Document

end Logicless
