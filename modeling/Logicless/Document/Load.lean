import Logicless.Document.Undated
import Logicless.Document.Wrap
import Logicless.Json.Reader
import Logicless.Yaml.Reader

/-!
Documents from texts. A text is JSON or YAML; where the format is left open, YAML is tried on what
is no JSON.
-/

set_option autoImplicit false

namespace Logicless

inductive DataFormat where
  | json
  | yaml
  | auto
deriving Repr, DecidableEq

namespace DataFormat

def name : DataFormat → String
  | .json => "json"
  | .yaml => "yaml"
  | .auto => "auto"

def all : List DataFormat := [json, yaml, auto]

def ofName? (name : String) : Option DataFormat := all.find? (·.name == name)

def choices : String := ", ".intercalate (all.map name)

end DataFormat

inductive LoadError where
  | unknownFormat (name : String)
  | json (error : Json.Error)
  | yaml (error : Yaml.Error)
  | shape (error : ShapeError)
deriving Repr

def LoadError.message : LoadError → String
  | .unknownFormat name =>
    "Unknown data format '" ++ name ++ "'. Expected one of: " ++ DataFormat.choices
  | .json error => error.message
  | .yaml error => error.message
  | .shape error => error.message

namespace Document

def readJson (text : String) : Except LoadError Datum := (Json.read text).mapError .json

/-- The data of a YAML text; dates in them become texts. -/
def readYaml (text : String) : Except LoadError Datum := do
  let datum ← (Yaml.read text).mapError .yaml
  if datum.isEndless then .error (.yaml .endless) else return datum.undated

def readAs (format : DataFormat) (text : String) : Except LoadError Datum :=
  match format with
  | .json => readJson text
  | .yaml => readYaml text
  | .auto =>
    match readJson text with
    | .error (.json (.malformed ..)) => readYaml text
    | .error (.json (.constant _)) => readYaml text
    | other => other

def loadAs (format : DataFormat) (text : String) : Except LoadError Document := do
  let datum ← readAs format text
  (ofDatum datum).mapError .shape

/-- The document of a JSON text whose integers are within a limit, if there is one. -/
def loadJsonWithin (limit : Option Nat) (text : String) : Except LoadError Document := do
  let datum ← (Json.readWithin limit text).mapError .json
  (ofDatum datum).mapError .shape

def load (text format : String) : Except LoadError Document :=
  match DataFormat.ofName? format with
  | some format => loadAs format text
  | none => .error (.unknownFormat format)

theorem load_json (text : String) :
    load text "json" = loadJsonWithin (some Number.maxDecimalDigits) text := rfl

end Document

end Logicless
