import Logicless.CommandLine.Command
import Logicless.Processor
import Logicless.Template.Outline

/-!
Running a command. A run gives its whole result, or a message about what the user can mend, or stops
at an error of another kind. Nothing of a result is shown unless all of it is.
-/

set_option autoImplicit false

namespace Logicless.CommandLine

open Files Template

inductive Failure where
  | configMissing (path : String)
  | templateMissing (path : String)
  | dataMissing (path : String)
  /-- No file of data is named. -/
  | dataUnnamed
  | name (error : NameError)
  | file (error : FileError)
  | settings (error : SettingsError)
  | process (error : ProcessError)
  | node (error : NodeError)
deriving Repr

def Failure.message : Failure → String
  | .configMissing path => "Config file not found: " ++ path
  | .templateMissing path => "Template file not found: " ++ path
  | .dataMissing path => "Data file not found: " ++ path
  | .dataUnnamed => "No data file is named"
  | .name error => error.message
  | .file error => error.message
  | .settings error => error.message
  | .process error => error.message
  | .node error => error.message

structure Surroundings where
  files : FileTree
  /-- The present directory, as messages show it. -/
  directory : String
  input : List UInt8

abbrev Step (α : Type) := Reported Notice Failure α

namespace Step

def ofAttempt {α : Type} (process : Attempt α) : Step α := process.adapt id .process

def ofFile {α : Type} (result : Except FileError α) : Step α := .ofExcept (result.mapError .file)

end Step

/-- The settings of a command: those of the file that it names, which must exist, or those of the
present directory. -/
def loadSettings (surroundings : Surroundings) (config : Option String) : Step Settings :=
  match config with
  | some text =>
    if text = "" then fromDirectory else do
      let path := PathName.ofString text
      if ← Step.ofFile (surroundings.files.exists? path) then read path path.toString
      else .fail (.configMissing path.toString)
  | none => fromDirectory
where
  read (path : PathName) (shown : String) : Step Settings :=
    .ofExcept ((Settings.load surroundings.files path shown).mapError .settings)
  fromDirectory : Step Settings :=
    read (PathName.ofString Settings.fileName) (surroundings.directory ++ "/" ++ Settings.fileName)

def withSuffix (settings : Settings) (path : PathName) : Except NameError PathName :=
  path.withName (path.name ++ settings.templateSuffix)

/-- The file of a template; a name without a file is tried with the ending of the settings. -/
def templatePath (surroundings : Surroundings) (settings : Settings) (text : String) :
    Step PathName := do
  let path := PathName.ofString text
  if ← Step.ofFile (surroundings.files.exists? path) then return path
  else
    let suffixed ← Reported.ofExcept ((withSuffix settings path).mapError .name)
    let found ← if settings.templateSuffix = "" then pure false
      else Step.ofFile (surroundings.files.exists? suffixed)
    if found then return suffixed else .fail (.templateMissing path.toString)

def readTemplate (surroundings : Surroundings) (settings : Settings) (text : String) :
    Step String := do
  let path ← templatePath surroundings settings text
  Step.ofFile (surroundings.files.readText path)

def renderStep (surroundings : Surroundings) (settings : Settings) (template data : String) :
    Step String :=
  let processor := Processor.ofSettings settings
  if data = "-" then do
    let text ← readTemplate surroundings settings template
    let input ← Step.ofFile (textOf surroundings.input)
    let document ← Step.ofAttempt (Attempt.ofLoad (Document.load input settings.dataFormat))
    Step.ofAttempt (processor.renderText text (.document document)).1
  else do
    let path := PathName.ofString data
    if ← Step.ofFile (surroundings.files.exists? path) then
      let template ← templatePath surroundings settings template
      Step.ofAttempt (processor.renderFile surroundings.files template path).1
    else .fail (.dataMissing path.toString)

def listing (document : Document) : String := String.ofList (document.laidOut 0 ++ ['\n'])

def tokensStep (surroundings : Surroundings) (settings : Settings) (template : String) :
    Step String := do
  let text ← readTemplate surroundings settings template
  let tokens ← Step.ofAttempt
    (.ofExcept ((tokenize text).mapError fun error => .template (.lex error)))
  return listing (.array .list (tokens.map Token.outline))

def treeStep (surroundings : Surroundings) (settings : Settings) (template : String) :
    Step String := do
  let text ← readTemplate surroundings settings template
  let compiled ← Step.ofAttempt ((Processor.ofSettings settings).compile text).1
  let outline ← .ofExcept ((Node.block "" compiled.nodes).outline.mapError .node)
  return listing outline

def resultOf (surroundings : Surroundings) (command : Command) : Step String := do
  let settings ← loadSettings surroundings command.config
  match command.action with
  | .render template data format strict =>
    let settings := { settings with
      strictClosing := settings.strictClosing || strict
      dataFormat := format.getD settings.dataFormat }
    match data with
    | some data => renderStep surroundings settings template data
    | none => .fail .dataUnnamed
  | .tokens template => tokensStep surroundings settings template
  | .tree template strict =>
    let settings := { settings with strictClosing := settings.strictClosing || strict }
    treeStep surroundings settings template

/-! The files that a run may look at, for those who have to fetch them first. -/

def Command.configPath (command : Command) : PathName :=
  match command.config with
  | some text => PathName.ofString (if text = "" then Settings.fileName else text)
  | none => PathName.ofString Settings.fileName

/-- The files that a template may stand in. -/
def templatePaths (settings : Settings) (template : String) : List PathName :=
  let path := PathName.ofString template
  path :: (withSuffix settings path).toOption.toList

def Action.paths (settings : Settings) : Action → List PathName
  | .render template data _ _ =>
    templatePaths settings template ++ data.toList.map PathName.ofString
  | .tokens template => templatePaths settings template
  | .tree template _ => templatePaths settings template

def Action.readsInput : Action → Bool
  | .render _ data _ _ => data = some "-"
  | _ => false

end Logicless.CommandLine
