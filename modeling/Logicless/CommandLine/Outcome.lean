import Logicless.CommandLine.Run

/-!
What a run of the program leaves behind: an exit code and two texts, or an error that is not meant
for the user.
-/

set_option autoImplicit false

namespace Logicless

open Number Calendar Files

/-! Errors that the user can mend: of templates, data, settings and files. -/

def Number.NumberError.isMendable : NumberError → Bool
  | .empty => false
  | _ => true

def Calendar.CalendarError.isMendable : CalendarError → Bool
  | .overflow => false
  | _ => true

def Yaml.Error.isMendable : Yaml.Error → Bool
  | .malformed => true
  | .number error => error.isMendable
  | .calendar error => error.isMendable
  | .codePoint value => value < 0x80000000
  | .unwritable => true
  | _ => false

def ShapeError.isMendable : ShapeError → Bool
  | .endless => false
  | _ => true

def LoadError.isMendable : LoadError → Bool
  | .yaml error => error.isMendable
  | .shape error => error.isMendable
  | _ => true

def RenderError.isMendable : RenderError → Bool
  | .sectionType .. => true
  | .unwritable => true
  | _ => false

def Files.FileError.isMendable : FileError → Bool
  | .decoding _ => true
  | .nullCharacter => true
  | _ => false

def SettingsError.isMendable : SettingsError → Bool
  | .file error => error.isMendable
  | .yaml _ error => error.isMendable
  | _ => true

def ProcessError.isMendable : ProcessError → Bool
  | .template _ => true
  | .load error => error.isMendable
  | .render error => error.isMendable
  | .file error => error.isMendable
  | _ => false

namespace CommandLine

def Failure.isMendable : Failure → Bool
  | .file error => error.isMendable
  | .settings error => error.isMendable
  | .process error => error.isMendable
  | .node _ => false
  | .dataUnnamed => false
  | _ => true

inductive Outcome where
  | finished (exitCode : Nat) (output errors : String)
  /-- The command line is not understood. -/
  | misused (error : UsageError)
  | crashed (failure : Failure)
deriving Repr

namespace Outcome

def output : Outcome → String
  | .finished _ output _ => output
  | .misused _ => ""
  | .crashed _ => ""

def errors : Outcome → String
  | .finished _ _ errors => errors
  | .misused _ => "usage: stache [-h] [-v] [--config PATH] \x7brender,tokens,tree\x7d ...\n"
  | .crashed failure => failure.message ++ "\n"

def exitCode : Outcome → Nat
  | .finished exitCode _ _ => exitCode
  | .misused _ => 2
  | .crashed _ => 1

end Outcome

/-- The name and the version of the program. -/
def versionLine : String := "stache 0.1.0\n"

/-- Notices as lines for people who look for errors. -/
def noticeLines (debug : Bool) (notices : List Notice) : String :=
  if debug then String.join (notices.map fun notice => "[DEBUG] " ++ notice.message ++ "\n") else ""

def messageLine (message : String) : String :=
  String.ofList (Text.trimRight message.toList) ++ "\n"

/-- The end of a command: its result and exit code zero; a message and exit code two; or neither. -/
def conclude (debug : Bool) (step : Step String) : Outcome :=
  let notices := noticeLines debug step.notices
  match step.result with
  | .ok output => .finished 0 output notices
  | .error failure =>
    if failure.isMendable then .finished 2 "" (notices ++ messageLine failure.message)
    else .crashed failure

def main (surroundings : Surroundings) (debug : Bool) (arguments : List String) : Outcome :=
  match Request.ofArguments arguments with
  | .error error => .misused error
  | .ok .version => .finished 0 versionLine ""
  | .ok .help => .finished 0 "" ""
  | .ok (.run command) => conclude debug (resultOf surroundings command)

end CommandLine

end Logicless
