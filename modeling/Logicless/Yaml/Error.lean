import Logicless.Calendar
import Logicless.Number.Reading

/-!
Why a text is no YAML document. Most faults of form are not told apart.
-/

set_option autoImplicit false

namespace Logicless.Yaml

open Number Calendar

inductive Error where
  /-- A fault of form, an unknown tag, a repeated key, an alias without its anchor. -/
  | malformed
  | number (error : NumberError)
  | calendar (error : CalendarError)
  /-- An escape that names no character. -/
  | codePoint (value : Nat)
  /-- A word that is tagged as a truth value and is none. -/
  | word (text : String)
  /-- A key that holds a collection which cannot be part of a key. -/
  | unhashable (typeName : String)
  /-- A key that an ordered mapping holds already. -/
  | repeatedKey
  /-- A repeated key that cannot be shown, or whose values cannot. -/
  | unwritable
  /-- A collection that holds itself. -/
  | endless
deriving Repr, DecidableEq

end Logicless.Yaml
