import Logicless.Document.Datum

/-!
From data to documents. Data that are no document are refused for the first offence in the order of
reading: from the outside inwards, entries and elements in order, each key before its value.
-/

set_option autoImplicit false

namespace Logicless

open Number

/-- One step from a collection to a part. -/
inductive PathStep where
  | member (name : String)
  | element (index : Nat)
deriving Repr, DecidableEq

/-- The way from the root to a value, the last step first. -/
abbrev Path := List PathStep

def PathStep.text : PathStep → String
  | .member name => "." ++ name
  | .element index => "[" ++ toString index ++ "]"

def Path.text (path : Path) : String :=
  path.foldr (fun step before => before ++ step.text) "$"

inductive ShapeError where
  | unsupported (path : Path) (typeName : String)
  | notFinite (path : Path) (value : Binary64)
  | keyNotText (path : Path) (key : Key)
  /-- A key that is no text and cannot be shown. -/
  | unwritable
  /-- A collection that holds itself has no end. -/
  | endless
deriving Repr

def ShapeError.message : ShapeError → String
  | .unsupported path typeName => path.text ++ ": unsupported value of type " ++ typeName
  | .notFinite path value => path.text ++ ": non-finite number " ++ value.text
  | .keyNotText path key => path.text ++ ": object key " ++ key.describe ++ " is not a string"
  | .unwritable => unwritableMessage
  | .endless => "a collection holds itself"

/-- What a key that is no text is refused with. The message shows the key, if it can be shown. -/
def Key.refusal (path : Path) (key : Key) : ShapeError :=
  if key.isWritable then .keyNotText path key else .unwritable

namespace Document

def ofScalar (path : Path) : Scalar → Except ShapeError Document
  | .null => .ok .null
  | .bool value => .ok (.bool value)
  | .int value spelling => .ok (.number (.int value spelling))
  | .float (.finite value) spelling => .ok (.number (.float value spelling))
  | .float value _ => .error (.notFinite path value)
  | .text value => .ok (.string value)
  | other => .error (.unsupported path other.typeName)

mutual

def ofDatumAt (path : Path) : Datum → Except ShapeError Document
  | .scalar value => ofScalar path value
  | .list items => return .array .list (← ofItems path 0 items)
  | .tuple items => return .array .tuple (← ofItems path 0 items)
  | .dict entries => return .object (← ofEntries path entries)
  | .set _ => .error (.unsupported path "set")
  | .document _ => .error (.unsupported path "DocumentValue")
  | .cycle _ => .error .endless

def ofItems (path : Path) (index : Nat) : List Datum → Except ShapeError (List Document)
  | [] => .ok []
  | item :: rest => do
    let first ← ofDatumAt (.element index :: path) item
    let others ← ofItems path (index + 1) rest
    return first :: others

def ofEntries (path : Path) : List (Key × Datum) → Except ShapeError (List (String × Document))
  | [] => .ok []
  | (.scalar (.text name), value) :: rest => do
    let first ← ofDatumAt (.member name :: path) value
    let others ← ofEntries path rest
    return (name, first) :: others
  | (key, _) :: _ => .error (key.refusal path)

end

/-- The document that a datum is. A document is taken as it is. -/
def ofDatum : Datum → Except ShapeError Document
  | .document value => .ok value
  | other => ofDatumAt [] other

end Document

end Logicless
