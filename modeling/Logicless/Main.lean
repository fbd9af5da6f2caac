import Logicless.CommandLine.Outcome

/-!
The program. What a command may look at is fetched first; then the command runs on it.
-/

set_option autoImplicit false

namespace Logicless

open Files CommandLine

/-- What an error of reading says about a name. -/
def Files.Entry.ofError : IO.Error → Entry
  | .inappropriateType _ 21 _ => .directory
  | .inappropriateType .. => .behindFile
  | .invalidArgument _ 22 _ => .nullCharacter
  | .invalidArgument .. => .tooLong
  | _ => .missing

def Files.Entry.fetch (path : PathName) : IO Entry := do
  try
    let bytes ← IO.FS.readBinFile path.toString
    return .file bytes.toList
  catch error => return .ofError error

def Files.FileTree.fetch (paths : List PathName) : IO FileTree := do
  let entries ← paths.mapM fun path => do return (path, ← Entry.fetch path)
  return ⟨fun path => (entries.lookup path).getD .missing⟩

namespace CommandLine

def Surroundings.fetch (command : Command) : IO Surroundings := do
  let directory := (← IO.currentDir).toString
  let configFiles ← FileTree.fetch [command.configPath]
  let settings := (loadSettings ⟨configFiles, directory, []⟩ command.config).result.toOption.getD {}
  let files ← FileTree.fetch (command.configPath :: command.action.paths settings)
  let input ← if command.action.readsInput then (← IO.getStdin).readBinToEnd else pure .empty
  return ⟨files, directory, input.toList⟩

def surroundingsFor (arguments : List String) : IO Surroundings :=
  match Request.ofArguments arguments with
  | .ok (.run command) => Surroundings.fetch command
  | _ => return ⟨.ofFiles [], "", []⟩

/-- Shows an outcome and gives its exit code. -/
def Outcome.print (outcome : Outcome) : IO UInt32 := do
  IO.print outcome.output
  IO.eprint outcome.errors
  return outcome.exitCode.toUInt32

end CommandLine

end Logicless

def main (arguments : List String) : IO UInt32 := do
  let debug := (← IO.getEnv "STACHE_DEBUG").any (· ≠ "")
  let surroundings ← Logicless.CommandLine.surroundingsFor arguments
  (Logicless.CommandLine.main surroundings debug arguments).print
