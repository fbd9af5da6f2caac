import Logicless.Document.Basic
import Logicless.Json.Literal

/-!
Documents as texts: compact JSON, JSON laid out over lines, and the text that a template shows.
-/

set_option autoImplicit false

namespace Logicless

open Json Number

/-- Texts with a separator between them. -/
def joinWith (separator : List Char) : List (List Char) → List Char
  | [] => []
  | [text] => text
  | text :: next :: rest => text ++ separator ++ joinWith separator (next :: rest)

namespace Document

def boolText (value : Bool) : List Char := if value then "true".toList else "false".toList

mutual

/-- A document as JSON without blanks. -/
def compact : Document → List Char
  | .null => "null".toList
  | .bool value => boolText value
  | .number numeral => numeral.text.toList
  | .string text => literal text.toList
  | .array _ items => '[' :: joinWith [','] (compactItems items) ++ [']']
  | .object members => '{' :: joinWith [','] (compactMembers members) ++ ['}']

def compactItems : List Document → List (List Char)
  | [] => []
  | item :: rest => compact item :: compactItems rest

def compactMembers : List (String × Document) → List (List Char)
  | [] => []
  | (name, value) :: rest => (literal name.toList ++ ':' :: compact value) :: compactMembers rest

end

/-- A line break and the blanks in front of a line at a depth. -/
def newline (depth : Nat) : List Char := '\n' :: List.replicate (2 * depth) ' '

/-- Texts on lines of their own at a depth, between two brackets. -/
def bracketed (depth : Nat) (opening closing : Char) (texts : List (List Char)) : List Char :=
  if texts.isEmpty then [opening, closing]
  else
    opening :: newline (depth + 1) ++ joinWith (',' :: newline (depth + 1)) texts ++
      newline depth ++ [closing]

mutual

/-- A document as JSON over lines, each level two blanks further in. -/
def laidOut (depth : Nat) : Document → List Char
  | .null => "null".toList
  | .bool value => boolText value
  | .number numeral => numeral.text.toList
  | .string text => literal text.toList
  | .array _ items => bracketed depth '[' ']' (laidOutItems (depth + 1) items)
  | .object members => bracketed depth '{' '}' (laidOutMembers (depth + 1) members)

def laidOutItems (depth : Nat) : List Document → List (List Char)
  | [] => []
  | item :: rest => laidOut depth item :: laidOutItems depth rest

def laidOutMembers (depth : Nat) : List (String × Document) → List (List Char)
  | [] => []
  | (name, value) :: rest =>
    (literal name.toList ++ ':' :: ' ' :: laidOut depth value) :: laidOutMembers depth rest

end

/-- The text that a template shows: a string as it is, nothing for null, and JSON for the rest. -/
def toText : Document → String
  | .string text => text
  | .null => ""
  | other => String.ofList other.compact

mutual

/-- Whether all numbers in a document can be written. -/
def isWritable : Document → Bool
  | .number numeral => numeral.isWritable
  | .array _ items => areWritable items
  | .object members => membersAreWritable members
  | _ => true

def areWritable : List Document → Bool
  | [] => true
  | item :: rest => isWritable item && areWritable rest

def membersAreWritable : List (String × Document) → Bool
  | [] => true
  | (_, value) :: rest => isWritable value && membersAreWritable rest

end

def text? (document : Document) : Option String :=
  if document.isWritable then some document.toText else none

/-- A document in a listing for people. -/
def describe (document : Document) : String :=
  "DocumentValue(" ++ document.kind.name.toUpper ++ ", " ++ Text.quoted document.toText ++ ")"

end Document

end Logicless
