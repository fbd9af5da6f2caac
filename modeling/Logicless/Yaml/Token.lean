import Logicless.Yaml.Error

/-!
The tokens of a YAML text. Where a collection starts or ends by indentation alone, there are tokens
for it too.
-/

set_option autoImplicit false

namespace Logicless.Yaml

inductive Token where
  /-- The version of the language. -/
  | versionDirective (major minor : Nat)
  /-- A short name for the start of tags. -/
  | tagDirective (handle start : String)
  | otherDirective
  | documentStart
  | documentEnd
  | streamEnd
  | blockSequenceStart
  | blockMappingStart
  | blockEnd
  | flowSequenceStart
  | flowSequenceEnd
  | flowMappingStart
  | flowMappingEnd
  | flowEntry
  | blockEntry
  | key
  | value
  | anchor (name : String)
  | reference (name : String)
  | tag (handle : Option String) (suffix : String)
  | scalar (text : String) (plain : Bool)
  /-- The place where cutting the text failed. -/
  | fault (error : Error)
deriving Repr, DecidableEq

end Logicless.Yaml
