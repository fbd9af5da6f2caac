import Logicless.Text.Quoted

/-!
Names of files: an optional root and the parts between slashes. Empty parts and single dots say
nothing and are left out; two dots are kept.
-/

set_option autoImplicit false

namespace Logicless.Files

structure PathName where
  /-- Nothing, one slash, or exactly two. -/
  root : String
  parts : List String
deriving Repr, DecidableEq

/-- The pieces of a text between slashes. -/
def splitSlashes : List Char → List (List Char)
  | [] => [[]]
  | c :: rest =>
    if c = '/' then [] :: splitSlashes rest
    else match splitSlashes rest with
      | piece :: pieces => (c :: piece) :: pieces
      | [] => [[c]]

/-- The parts of a name that say something. -/
def nameParts (text : String) : List String :=
  ((splitSlashes text.toList).map String.ofList).filter fun part => part ≠ "" && part ≠ "."

/-- Why a name cannot take the place of another. -/
structure NameError where
  name : String
deriving Repr, DecidableEq

def NameError.message (error : NameError) : String := "Invalid name " ++ Text.quoted error.name

namespace PathName

def ofString (text : String) : PathName :=
  let root := match text.toList with
    | '/' :: '/' :: '/' :: _ => "/"
    | '/' :: '/' :: _ => "//"
    | '/' :: _ => "/"
    | _ => ""
  ⟨root, nameParts text⟩

def toString (path : PathName) : String :=
  if path.root = "" ∧ path.parts = [] then "." else path.root ++ "/".intercalate path.parts

def name (path : PathName) : String := path.parts.getLastD ""

/-- The last part from its last dot on; a dot at the start or at the end of it does not count. -/
def suffix (path : PathName) : String :=
  let behind := path.name.toList.reverse.takeWhile (· ≠ '.')
  let before := path.name.length - behind.length
  if behind ≠ [] ∧ 1 < before then String.ofList ('.' :: behind.reverse) else ""

/-- The same place under another name, which may not hold a slash. -/
def withName (path : PathName) (name : String) : Except NameError PathName :=
  if name = "" ∨ name.toList.getLast? = some '/' ∨ name.toList.head? = some '/' ∨
      (nameParts name).length ≠ 1 then .error ⟨name⟩
  else .ok { path with parts := path.parts.dropLast ++ [name] }

/-- The parts as they are looked up. -/
def steps (path : PathName) : List String := path.parts.flatMap nameParts

end PathName

end Logicless.Files
