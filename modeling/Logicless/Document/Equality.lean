import Logicless.Document.Basic

/-!
Equality of documents. At the top two documents must be of one kind. Below it the values decide:
numbers are equal by their exact value, and a truth value equals the number one or zero. The order
of members does not matter, the form of an array does.
-/

set_option autoImplicit false

namespace Logicless.Document

open Number

/-- The exact value of a number, and of a truth value taken for one or zero. -/
def exactValue? : Document → Option Dyadic
  | .bool value => some (if value then 1 else 0)
  | .number numeral => some numeral.exact
  | _ => none

mutual

def sameValue : Document → Document → Bool
  | .null, .null => true
  | .bool value, other => other.exactValue? == some (if value then 1 else 0)
  | .number numeral, other => other.exactValue? == some numeral.exact
  | .string text, .string other => text == other
  | .array form items, .array otherForm others => form == otherForm && sameItems items others
  | .object members, .object others =>
    members.length == others.length && includedIn others members
  | _, _ => false

def sameItems : List Document → List Document → Bool
  | [], [] => true
  | item :: rest, other :: others => sameValue item other && sameItems rest others
  | _, _ => false

/-- Whether every member has an equal value under its name in `others`. -/
def includedIn (others : List (String × Document)) : List (String × Document) → Bool
  | [] => true
  | (name, value) :: rest =>
    (match others.lookup name with
      | some other => sameValue value other
      | none => false) && includedIn others rest

end

def same (first second : Document) : Bool := first.kind == second.kind && sameValue first second

end Logicless.Document
