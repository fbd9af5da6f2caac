import Logicless.Proofs.Document.Content
import Logicless.Proofs.Document.Failure
import Logicless.Proofs.Processor.FromFiles

/-!
The settings that a file holds. A mapping is accepted if it binds known names only, each to a value of
the right type, the version to the present one and the format to one that is known. Null stands for the
defaults, and so do false, zero, and empty texts and collections.
-/

set_option autoImplicit false

namespace Logicless

open Files Number Text

namespace Datum

def asInt? : Datum → Option Int
  | .scalar (.int value _) => some value
  | _ => none

def asBool? : Datum → Option Bool
  | .scalar (.bool value) => some value
  | _ => none

def asText? : Datum → Option String
  | .scalar (.text value) => some value
  | _ => none

end Datum

def SettingsError.isOwn : SettingsError → Bool
  | .file _ => false
  | .yaml _ error => error = .malformed
  | .unwritable => false
  | _ => true

namespace Settings

/-- What entries give for a name: its value if that is of the type that is read, and the standard if
the name is missing. -/
def given {α : Type} (entries : List (Key × Datum)) (name : String) (read : Datum → Option α)
    (standard : α) : Option α :=
  match Datum.lookup? entries name with
  | none => some standard
  | some value => read value

/-- Settings are what entries give, each of its own type. -/
structure GivenBy (settings : Settings) (entries : List (Key × Datum)) : Prop where
  schemaVersion : given entries "schema_version" Datum.asInt? 1 = some settings.schemaVersion
  strictClosing : given entries "strict_closing_tags" Datum.asBool? false = some settings.strictClosing
  dataFormat : given entries "data_format" Datum.asText? "auto" = some settings.dataFormat
  templateSuffix : given entries "template_suffix" Datum.asText? ".mustache" =
    some settings.templateSuffix

/-- Entries give no two settings. -/
theorem GivenBy.unique {entries : List (Key × Datum)} {first second : Settings}
    (gives : first.GivenBy entries) (givesOther : second.GivenBy entries) : first = second := by
  have version := gives.schemaVersion.symm.trans givesOther.schemaVersion
  have strict := gives.strictClosing.symm.trans givesOther.strictClosing
  have format := gives.dataFormat.symm.trans givesOther.dataFormat
  have suffix := gives.templateSuffix.symm.trans givesOther.templateSuffix
  cases first
  cases second
  cases version
  cases strict
  cases format
  cases suffix
  rfl

section Places

variable {path : String} {entries : List (Key × Datum)} {settings : Settings}

/-- The setting of a name is put in its place if it is given. -/
def place (path : String) (entries : List (Key × Datum)) (settings : Settings) (name : String) :
    Except SettingsError Settings :=
  match Datum.lookup? entries name with
  | none => .ok settings
  | some value => put path settings (.scalar (.text name)) value

end Places

section

variable {files : FileTree} {path : PathName} {text : String} {datum : Datum}

end

end Settings

end Logicless
