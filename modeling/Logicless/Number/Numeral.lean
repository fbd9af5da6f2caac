import Logicless.Number.Reading
import Logicless.Number.Shortest

/-!
Numbers together with their spelling. A number that was read from a text is written as it was
spelled; any other number has one text of its own.
-/

set_option autoImplicit false

namespace Logicless.Number

inductive Numeral where
  | int (value : Int) (spelling : Option String)
  | float (value : Finite64) (spelling : Option String)
deriving Repr, DecidableEq

namespace Numeral

/-- The exact value; the spelling has no part in it. -/
def exact : Numeral → Dyadic
  | .int value _ => .ofIntWithPrec value 0
  | .float value _ => value.exact

def text : Numeral → String
  | .int _ (some spelling) => spelling
  | .float _ (some spelling) => spelling
  | .int value none => toString value
  | .float value none => value.text

/-- A spelling can always be written. -/
def isWritable : Numeral → Bool
  | .int value none => Number.isWritable value
  | _ => true

end Numeral

end Logicless.Number
