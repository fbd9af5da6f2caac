import Logicless.Document.Load
import Logicless.Files.Basic

/-!
Settings of the template processor, from a YAML mapping in a file. What the file does not say has a
default; what it says must be known and of the right type.
-/

set_option autoImplicit false

namespace Logicless

open Files Number

structure Settings where
  schemaVersion : Int := 1
  strictClosing : Bool := false
  dataFormat : String := "auto"
  templateSuffix : String := ".mustache"
deriving Repr, DecidableEq

inductive SettingsError where
  | file (error : FileError)
  | yaml (path : String) (error : Yaml.Error)
  | notMapping (path : String)
  /-- A version of the settings that is not the present one. -/
  | schema (version : String)
  | unknownKey (path key : String)
  | wrongType (path key expected actual : String)
  | dataFormat (path value : String)
  /-- A version or an unknown key that cannot be shown. -/
  | unwritable
deriving Repr, DecidableEq

namespace SettingsError

def message : SettingsError → String
  | .file error => error.message
  | .yaml path .malformed => path ++ ": invalid YAML"
  | .yaml _ error => error.message
  | .notMapping path => path ++ ": top level must be a mapping"
  | .schema version => "Unsupported config schema " ++ version ++ " (tool expects 1)"
  | .unknownKey path key => path ++ ": unknown key '" ++ key ++ "'"
  | .wrongType path key expected actual =>
    path ++ ": '" ++ key ++ "' must be " ++ expected ++ ", got " ++ actual
  | .dataFormat path value =>
    path ++ ": 'data_format' must be one of " ++ DataFormat.choices ++ ", got '" ++ value ++ "'"
  | .unwritable => unwritableMessage

end SettingsError

namespace Settings

def fileName : String := "stache.yaml"

/-- Data that stand for nothing: null, false, zero, and empty texts and collections. -/
def isNothing : Datum → Bool
  | .scalar .null => true
  | .scalar (.bool value) => !value
  | .scalar (.int value _) => value = 0
  | .scalar (.float (.finite value) _) => value.significand = 0
  | .scalar (.text value) => value = ""
  | .scalar (.bytes value) => value.isEmpty
  | .list items => items.isEmpty
  | .tuple items => items.isEmpty
  | .dict entries => entries.isEmpty
  | .set items => items.isEmpty
  | _ => false

/-- Whether a value equals the present version of the settings. -/
def isPresentVersion : Datum → Bool
  | .scalar value => value.same (.int 1 none)
  | _ => false

/-- What a message shows for a version. One that refers to a collection around it is the mapping of
the settings itself. -/
def shownVersion (entries : List (Key × Datum)) : Datum → Datum
  | .cycle _ => .dict entries
  | version => version

/-- One setting, put in its place if its value has the right type. -/
def put (path : String) (settings : Settings) (key : Key) (value : Datum) :
    Except SettingsError Settings :=
  match key, value with
  | .scalar (.text "schema_version"), .scalar (.int version _) =>
    .ok { settings with schemaVersion := version }
  | .scalar (.text "strict_closing_tags"), .scalar (.bool strict) =>
    .ok { settings with strictClosing := strict }
  | .scalar (.text "data_format"), .scalar (.text format) =>
    .ok { settings with dataFormat := format }
  | .scalar (.text "template_suffix"), .scalar (.text suffix) =>
    .ok { settings with templateSuffix := suffix }
  | .scalar (.text "schema_version"), other =>
    .error (.wrongType path "schema_version" "int" other.typeName)
  | .scalar (.text "strict_closing_tags"), other =>
    .error (.wrongType path "strict_closing_tags" "bool" other.typeName)
  | .scalar (.text "data_format"), other =>
    .error (.wrongType path "data_format" "str" other.typeName)
  | .scalar (.text "template_suffix"), other =>
    .error (.wrongType path "template_suffix" "str" other.typeName)
  | other, _ =>
    .error (if other.isWritable then .unknownKey path other.plainText else .unwritable)

/-- The settings, in the order in which they are checked. -/
def keyNames : List String :=
  ["schema_version", "strict_closing_tags", "data_format", "template_suffix"]

/-- Entries with those of known keys first. -/
def knownFirst (entries : List (Key × Datum)) : List (Key × Datum) :=
  let known := keyNames.filterMap fun name =>
    (Datum.lookup? entries name).map fun value => (Key.scalar (.text name), value)
  known ++ entries.filter fun entry =>
    !keyNames.any fun name => entry.1.same (.scalar (.text name))

def putAll (path : String) (settings : Settings) :
    List (Key × Datum) → Except SettingsError Settings
  | [] => .ok settings
  | (key, value) :: rest => do putAll path (← put path settings key value) rest

def ofEntries (path : String) (entries : List (Key × Datum)) : Except SettingsError Settings := do
  if let some version := Datum.lookup? entries "schema_version" then
    if !isPresentVersion version then
      let shown := shownVersion entries version
      throw (if shown.isWritable then .schema shown.plainText else .unwritable)
  let settings ← putAll path {} (knownFirst entries)
  if (DataFormat.ofName? settings.dataFormat).isNone then
    throw (.dataFormat path settings.dataFormat)
  return settings

/-- The settings that data hold; data that stand for nothing hold the defaults. -/
def ofDatum (path : String) (datum : Datum) : Except SettingsError Settings :=
  if isNothing datum then .ok {}
  else match datum with
    | .dict entries => ofEntries path entries
    | _ => .error (.notMapping path)

/-- The settings of a file, which is called `shown` in messages; a file that is missing holds the
defaults. -/
def load (files : FileTree) (path : PathName) (shown : String) : Except SettingsError Settings := do
  if ← (files.exists? path).mapError .file then
    let text ← (files.readStream path).mapError .file
    let datum ← (Yaml.read text).mapError (.yaml shown)
    ofDatum shown datum
  else return {}

end Settings

end Logicless
