import Logicless.CommandLine.Options
import Logicless.Document.Load

/-!
The commands of the program, and the command lines that ask for them.
-/

set_option autoImplicit false

namespace Logicless.CommandLine

/-- What the options mean. -/
inductive Flag where
  | help
  | version
  | config
  | format
  | strict
deriving Repr, DecidableEq

inductive Action where
  /-- Shows a template for the document of a file, or of the input if the file is a hyphen. The file
  may be left out by two hyphens in its place. -/
  | render (template : String) (data : Option String) (format : Option String) (strict : Bool)
  /-- Lists the tokens of a template. -/
  | tokens (template : String)
  /-- Lists the tree of a template. -/
  | tree (template : String) (strict : Bool)
deriving Repr, DecidableEq

/-- What a command line asks for: an action, with a file of settings if one is named. -/
structure Command where
  config : Option String
  action : Action
deriving Repr, DecidableEq

/-- What a command line may be. -/
inductive Request where
  | run (command : Command)
  | version
  | help
deriving Repr, DecidableEq

inductive ActionName where
  | render
  | tokens
  | tree
deriving Repr, DecidableEq

def ActionName.ofName? : String → Option ActionName
  | "render" => some .render
  | "tokens" => some .tokens
  | "tree" => some .tree
  | _ => none

def helpOption : OptionSpec Flag := ⟨.help, ["-h", "--help"], false⟩

/-- The options in front of the name of the action. -/
def mainOptions : List (OptionSpec Flag) :=
  [helpOption, ⟨.version, ["-v", "--version"], false⟩, ⟨.config, ["--config"], true⟩]

def ActionName.options : ActionName → List (OptionSpec Flag)
  | .render => [helpOption, ⟨.format, ["--format"], true⟩, ⟨.strict, ["--strict"], false⟩]
  | .tokens => [helpOption]
  | .tree => [helpOption, ⟨.strict, ["--strict"], false⟩]

/-- The number of files that an action needs. -/
def ActionName.arity : ActionName → Nat
  | .render => 2
  | .tokens => 1
  | .tree => 1

inductive Stop where
  | error (error : UsageError)
  | version
  | help
deriving Repr, DecidableEq

/-- The values of options that were given so far. -/
structure Values where
  config : Option String := none
  format : Option String := none
  strict : Bool := false
deriving Repr, DecidableEq

def Values.follow (values : Values) (given : Given Flag) : Except Stop Values :=
  match given.meaning, given.value with
  | .help, _ => .error .help
  | .version, _ => .error .version
  | .strict, _ => .ok { values with strict := true }
  | .config, value => .ok { values with config := value }
  | .format, some value =>
    if (DataFormat.ofName? value).isSome then .ok { values with format := some value }
    else .error (.error (.badChoice value))
  | .format, none => .ok values

def Values.followAll (values : Values) : List (Given Flag) → Except Stop Values
  | [] => .ok values
  | given :: rest => do (← values.follow given).followAll rest

/-- What two hyphens belong to: to the file behind them, or to what stands before them. -/
inductive Divider where
  | absent
  | beforeFile
  | behind
deriving Repr, DecidableEq

structure ActionArguments where
  values : Values := {}
  /-- A file is missing where two hyphens stand that do not divide. -/
  files : List (Option String) := []
  /-- What does not belong there. -/
  extras : List String := []
  divider : Divider := .absent
  /-- Whether the argument before was one of the files. -/
  behindFile : Bool := false

namespace ActionArguments

def addFile (read : ActionArguments) (text : String) : ActionArguments :=
  let file := if text = "--" ∧ read.divider = .behind then none else some text
  let divider := if read.divider = .beforeFile then .behind else read.divider
  { read with files := read.files ++ [file], divider, behindFile := true }

/-- One more argument that does not belong there. -/
def addExtra (read : ActionArguments) (text : String) : ActionArguments :=
  { read with extras := read.extras ++ [text], behindFile := false }

/-- Two hyphens that divide, where `needed` more files are to come. -/
def addDivider (read : ActionArguments) (needed : Nat) : ActionArguments :=
  if read.behindFile then { read with divider := .behind }
  else if needed > 0 then { read with divider := .beforeFile }
  else read.addExtra "--"

end ActionArguments

/-- Reads the arguments of an action that needs `needed` more files. -/
def readArguments (options : List (OptionSpec Flag)) :
    (fuel needed : Nat) → ActionArguments → List (Argument Flag) → Except Stop ActionArguments
  | 0, _, read, _ => .ok read
  | _, _, read, [] => .ok read
  | fuel + 1, needed, read, argument :: rest =>
    match argument with
    | .known option name attached =>
      match takeOption options option name attached rest with
      | .error error => .error (.error error)
      | .ok (expansion, rest) => do
        let values ← read.values.followAll expansion.given
        let extras := read.extras ++ expansion.unrecognized
        readArguments options fuel needed { read with values, extras, behindFile := false } rest
    | .plain text =>
      match needed with
      | needed + 1 => readArguments options fuel needed (read.addFile text) rest
      | 0 => readArguments options fuel 0 (read.addExtra text) rest
    | .divider => readArguments options fuel needed (read.addDivider needed) rest
    | .unknown text => readArguments options fuel needed (read.addExtra text) rest

/-- The action of a name with its arguments, and what does not belong to them. -/
def readAction (name : ActionName) (arguments : List String) :
    Except Stop (Action × List String) := do
  let classified ← (classifyAll name.options arguments).mapError .error
  let read ← readArguments name.options (arguments.length + 1) name.arity {} classified
  match name, read.files with
  | .render, [some template, data] =>
    return (.render template data read.values.format read.values.strict, read.extras)
  | .tokens, [some template] => return (.tokens template, read.extras)
  | .tree, [some template] => return (.tree template read.values.strict, read.extras)
  | _, _ => throw (.error .argumentMissing)

/-- Reads the options in front of an action, and the action. `texts` are the arguments as they were
given. -/
def readCommand : (fuel : Nat) → Values → (extras : List String) → (texts : List String) →
    List (Argument Flag) → Except Stop Command
  | 0, _, _, _, _ => .error (.error .argumentMissing)
  | _, _, _, _, [] => .error (.error .argumentMissing)
  | fuel + 1, values, extras, texts, argument :: rest =>
    match argument with
    | .known option name attached =>
      match takeOption mainOptions option name attached rest with
      | .error error => .error (.error error)
      | .ok (expansion, behind) => do
        let values ← values.followAll expansion.given
        readCommand fuel values (extras ++ expansion.unrecognized)
          (texts.drop (texts.length - behind.length)) behind
    | .unknown text => readCommand fuel values (extras ++ [text]) (texts.drop 1) rest
    | .divider => .error (.error (.badChoice "--"))
    | .plain text =>
      match ActionName.ofName? text with
      | none => .error (.error (.badChoice text))
      | some name => do
        let (action, others) ← readAction name (texts.drop 1)
        if extras.isEmpty && others.isEmpty then return ⟨values.config, action⟩
        else throw (.error (.unrecognized (extras ++ others)))

def Request.ofArguments (arguments : List String) : Except UsageError Request :=
  let command : Except Stop Command := do
    let classified ← (classifyAll mainOptions arguments).mapError .error
    readCommand (arguments.length + 1) {} [] arguments classified
  match command with
  | .ok command => .ok (.run command)
  | .error (.error error) => .error error
  | .error .version => .ok .version
  | .error .help => .ok .help

end Logicless.CommandLine
