import Logicless.Number.Numeral

/-!
Documents: the data that templates are rendered against. A document is null, a truth value, a
finite number, a string, an array of documents or an object whose members have names. Arrays come in
two forms that differ in equality alone.
-/

set_option autoImplicit false

namespace Logicless

open Number

inductive Kind where
  | object
  | array
  | string
  | number
  | bool
  | null
deriving Repr, DecidableEq

def Kind.name : Kind → String
  | .object => "object"
  | .array => "array"
  | .string => "string"
  | .number => "number"
  | .bool => "bool"
  | .null => "null"

/-- The form of an array. -/
inductive ArrayForm where
  | list
  | tuple
deriving Repr, DecidableEq

inductive Document where
  | null
  | bool (value : Bool)
  | number (numeral : Numeral)
  | string (text : String)
  | array (form : ArrayForm) (items : List Document)
  | object (members : List (String × Document))
deriving Repr, Inhabited

inductive AccessError where
  | notIterable (kind : Kind)
  | noLength (kind : Kind)
  | unhashable
deriving Repr, DecidableEq

def AccessError.message : AccessError → String
  | .notIterable kind => "Cannot iterate a " ++ kind.name ++ " value"
  | .noLength kind => "A " ++ kind.name ++ " value has no length"
  | .unhashable => "unhashable type: 'DocumentValue'"

namespace Document

def kind : Document → Kind
  | .null => .null
  | .bool _ => .bool
  | .number _ => .number
  | .string _ => .string
  | .array .. => .array
  | .object _ => .object

/-- The member of that name in an object; other documents have no members. -/
def get? (document : Document) (name : String) : Option Document :=
  match document with
  | .object members => members.lookup name
  | _ => none

def elements : Document → Except AccessError (List Document)
  | .array _ items => .ok items
  | other => .error (.notIterable other.kind)

def length : Document → Except AccessError Nat
  | .array _ items => .ok items.length
  | other => .error (.noLength other.kind)

/-- Documents have no hash. -/
def hash : Document → Except AccessError Nat
  | _ => .error .unhashable

end Document

end Logicless
