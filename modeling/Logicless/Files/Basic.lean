import Logicless.Files.PathName
import Logicless.Text.Utf8

/-!
Files as a program sees them: what stands under a name, and reading it as text.
-/

set_option autoImplicit false

namespace Logicless.Files

open Text

inductive Entry where
  | file (bytes : List UInt8)
  | directory
  | missing
  /-- A part before the last one is a file. -/
  | behindFile
  /-- A part is longer than names may be. -/
  | tooLong
  /-- The name holds a null character. -/
  | nullCharacter
deriving Repr, DecidableEq

inductive FileError where
  | notFound
  | isDirectory
  | notDirectory
  | nameTooLong
  | nullCharacter
  | decoding (error : Utf8Error)
deriving Repr, DecidableEq

def FileError.message : FileError → String
  | .notFound => "no such file or directory"
  | .isDirectory => "is a directory"
  | .notDirectory => "not a directory"
  | .nameTooLong => "file name too long"
  | .nullCharacter => "embedded null byte"
  | .decoding error => error.message

namespace Entry

def exists? : Entry → Except FileError Bool
  | .file _ => .ok true
  | .directory => .ok true
  | .tooLong => .error .nameTooLong
  | _ => .ok false

def bytes : Entry → Except FileError (List UInt8)
  | .file bytes => .ok bytes
  | .directory => .error .isDirectory
  | .missing => .error .notFound
  | .behindFile => .error .notDirectory
  | .tooLong => .error .nameTooLong
  | .nullCharacter => .error .nullCharacter

end Entry

/-- A tree of files, by what stands under each name. -/
structure FileTree where
  look : PathName → Entry

/-- The text that bytes hold, with one kind of line end. -/
def textOf (bytes : List UInt8) : Except FileError String := do
  let chars ← (decodeUtf8 bytes).mapError .decoding
  return String.ofList (unifyNewlines chars)

namespace FileTree

/-- Most bytes of a part of a name. -/
def maxPartSize : Nat := 255

/-- Looks a name up step by step. `here` holds the steps taken so far, the last one first; `outside`
counts the directories above the first one. -/
def lookFrom (files : List (List String × List UInt8)) (here : List String) (outside : Nat) :
    List String → Entry
  | [] =>
    if outside > 0 then .directory
    else match files.lookup here.reverse with
      | some bytes => .file bytes
      | none =>
        if here.isEmpty || files.any fun file => here.reverse.isPrefixOf file.1 then .directory
        else .missing
  | step :: rest =>
    match files.lookup here.reverse with
    | some _ => .behindFile
    | none =>
      if outside > 0 then
        if step = ".." then lookFrom files [] (outside + 1) rest else .missing
      else if !(here.isEmpty || files.any fun file => here.reverse.isPrefixOf file.1) then .missing
      else if step.utf8ByteSize > maxPartSize then .tooLong
      else if step = ".." then
        match here with
        | [] => lookFrom files [] 1 rest
        | _ :: before => lookFrom files before 0 rest
      else lookFrom files (step :: here) 0 rest

/-- The tree of files with given names under the present directory. Of two files with one name the
last one counts. -/
def ofFiles (files : List (String × List UInt8)) : FileTree :=
  let named := files.reverse.map fun file => ((PathName.ofString file.1).steps, file.2)
  ⟨fun path =>
    if path.toString.toList.contains '\x00' then .nullCharacter
    else if path.root ≠ "" then (if path.steps.isEmpty then .directory else .missing)
    else lookFrom named [] 0 path.steps⟩

def exists? (files : FileTree) (path : PathName) : Except FileError Bool :=
  (files.look path).exists?

def readText (files : FileTree) (path : PathName) : Except FileError String := do
  textOf (← (files.look path).bytes)

/-- The text of a file that is read in pieces: a character that the file ends in is located from its
own start. -/
def readStream (files : FileTree) (path : PathName) : Except FileError String :=
  match files.readText path with
  | .error (.decoding ⟨.unexpectedEnd, _, bytes⟩) => .error (.decoding ⟨.unexpectedEnd, 0, bytes⟩)
  | other => other

end FileTree

end Logicless.Files
