import Logicless.Calendar
import Logicless.Document.Basic

/-!
Data as their source gives them, before it is known whether they are documents: scalars of more
kinds than documents have, dictionaries with keys of any kind, sets, and collections that hold
themselves.
-/

set_option autoImplicit false

namespace Logicless

open Number Calendar

/-- Data without parts. A number that was read from a text may keep its spelling. -/
inductive Scalar where
  | null
  | bool (value : Bool)
  | int (value : Int) (spelling : Option String)
  | float (value : Binary64) (spelling : Option String)
  | text (value : String)
  | bytes (value : List UInt8)
  | date (value : Date)
  | moment (value : Moment)
  | object
deriving Repr, DecidableEq, Inhabited

/-- Data that can be a key of a dictionary. -/
inductive Key where
  | scalar (value : Scalar)
  | tuple (items : List Key)
deriving Repr, Inhabited

inductive Datum where
  | scalar (value : Scalar)
  | list (items : List Datum)
  | tuple (items : List Datum)
  | dict (entries : List (Key × Datum))
  | set (items : List Key)
  | document (value : Document)
  /-- A collection in one of its own parts. -/
  | cycle (name : String)
deriving Repr, Inhabited

namespace Scalar

/-- The exact value of a finite number, and of a truth value taken for one or zero. -/
def exactValue? : Scalar → Option Dyadic
  | .bool value => some (if value then 1 else 0)
  | .int value _ => some (.ofIntWithPrec value 0)
  | .float (.finite value) _ => some value.exact
  | _ => none

/-- Whether two scalars are the same key. -/
def same : Scalar → Scalar → Bool
  | .null, .null => true
  | .float (.infinite negative) _, .float (.infinite other) _ => negative == other
  | .text value, .text other => value == other
  | .bytes value, .bytes other => value == other
  | .date value, .date other => value == other
  | .moment value, .moment other => value.same other
  | first, second =>
    match first.exactValue?, second.exactValue? with
    | some value, some other => value == other
    | _, _ => false

def typeName : Scalar → String
  | .null => "NoneType"
  | .bool _ => "bool"
  | .int .. => "int"
  | .float .. => "float"
  | .text _ => "str"
  | .bytes _ => "bytes"
  | .date _ => "date"
  | .moment _ => "datetime"
  | .object => "object"

/-- A scalar in messages, such that its type shows. -/
def describe : Scalar → String
  | .null => "None"
  | .bool value => if value then "True" else "False"
  | .int value _ => toString value
  | .float value _ => value.text
  | .text value => Text.quoted value
  | .bytes value => Text.quotedBytes value
  | .date value => value.describe
  | .moment value => value.describe
  | .object => "<object object>"

/-- Messages show the value of a number, not its spelling. -/
def isWritable : Scalar → Bool
  | .int value _ => Number.isWritable value
  | _ => true

/-- A scalar in running text: a text as it is, dates in their common form. -/
def plainText : Scalar → String
  | .text value => value
  | .date value => value.iso
  | .moment value => value.render " "
  | other => other.describe

end Scalar

/-- Descriptions between parentheses; a single one is followed by a comma. -/
def describeTuple : List String → String
  | [item] => "(" ++ item ++ ",)"
  | items => "(" ++ ", ".intercalate items ++ ")"

namespace Key

mutual

def same : Key → Key → Bool
  | .scalar value, .scalar other => value.same other
  | .tuple items, .tuple others => sameItems items others
  | _, _ => false

def sameItems : List Key → List Key → Bool
  | [], [] => true
  | key :: rest, other :: others => same key other && sameItems rest others
  | _, _ => false

end

mutual

/-- A key in messages, such that its type shows. -/
def describe : Key → String
  | .scalar value => value.describe
  | .tuple items => describeTuple (describeItems items)

def describeItems : List Key → List String
  | [] => []
  | key :: rest => describe key :: describeItems rest

end

mutual

def isWritable : Key → Bool
  | .scalar value => value.isWritable
  | .tuple items => areWritable items

def areWritable : List Key → Bool
  | [] => true
  | key :: rest => isWritable key && areWritable rest

end

def plainText : Key → String
  | .scalar value => value.plainText
  | key => key.describe

end Key

namespace Datum

def text (value : String) : Datum := .scalar (.text value)

/-- Entries with one more: the value of an equal key is replaced where it stands, and a new key
comes last. -/
def insert {α : Type} (entries : List (Key × α)) (key : Key) (value : α) : List (Key × α) :=
  match entries with
  | [] => [(key, value)]
  | (other, old) :: rest =>
    if other.same key then (other, value) :: rest else (other, old) :: insert rest key value

/-- Entries with others inserted one after the other. -/
def insertAll {α : Type} (entries others : List (Key × α)) : List (Key × α) :=
  others.foldl (fun entries entry => insert entries entry.1 entry.2) entries

/-- Entries in the order in which their keys came first, each with the last value of its key. -/
def ofEntries {α : Type} (entries : List (Key × α)) : List (Key × α) := insertAll [] entries

def lookup? (entries : List (Key × Datum)) (name : String) : Option Datum :=
  (entries.find? fun entry => entry.1.same (.scalar (.text name))).map (·.2)

def typeName : Datum → String
  | .scalar value => value.typeName
  | .list _ => "list"
  | .tuple _ => "tuple"
  | .dict _ => "dict"
  | .set _ => "set"
  | .document _ => "DocumentValue"
  | .cycle name => name

mutual

/-- A datum in messages, such that its type shows. -/
def describe : Datum → String
  | .scalar value => value.describe
  | .list items => "[" ++ ", ".intercalate (describeItems items) ++ "]"
  | .tuple items => describeTuple (describeItems items)
  | .dict entries => "\x7b" ++ ", ".intercalate (describeEntries entries) ++ "\x7d"
  | .set [] => "set()"
  | .set items => "\x7b" ++ ", ".intercalate (Key.describeItems items) ++ "\x7d"
  | .document _ => "<document>"
  | .cycle name => if name = "dict" then "\x7b...\x7d" else "[...]"

def describeItems : List Datum → List String
  | [] => []
  | item :: rest => describe item :: describeItems rest

def describeEntries : List (Key × Datum) → List String
  | [] => []
  | (key, value) :: rest => (key.describe ++ ": " ++ describe value) :: describeEntries rest

end

mutual

def isWritable : Datum → Bool
  | .scalar value => value.isWritable
  | .list items => areWritable items
  | .tuple items => areWritable items
  | .dict entries => entriesAreWritable entries
  | .set items => Key.areWritable items
  | .document _ => true
  | .cycle _ => true

def areWritable : List Datum → Bool
  | [] => true
  | item :: rest => isWritable item && areWritable rest

def entriesAreWritable : List (Key × Datum) → Bool
  | [] => true
  | (key, value) :: rest => key.isWritable && isWritable value && entriesAreWritable rest

end

def plainText : Datum → String
  | .scalar value => value.plainText
  | other => other.describe

end Datum

end Logicless
