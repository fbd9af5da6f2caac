import Logicless.Document.Load
import Logicless.Files.Basic

/-!
Documents from files. Where the format is left open, the ending of the file's name decides.
-/

set_option autoImplicit false

namespace Logicless

open Files

inductive DocumentFileError where
  | file (error : FileError)
  | load (error : LoadError)
deriving Repr

/-- The name of the format that the ending of a file's name stands for. -/
def DataFormat.detect (path : PathName) (default : String) : String :=
  let suffix := String.ofList (path.suffix.toList.map Char.toLower)
  if suffix = ".json" then "json"
  else if suffix = ".yaml" ∨ suffix = ".yml" then "yaml"
  else default

def Document.loadFile (files : FileTree) (path : PathName) (format : String) :
    Except DocumentFileError Document := do
  let format := if format = "auto" then DataFormat.detect path "auto" else format
  let text ← (files.readText path).mapError .file
  (Document.load text format).mapError .load

end Logicless
