import Logicless.Text.Quoted

/-!
Strings as JSON writes them. Quotes, backslashes and control characters are escaped, and nothing
else is.
-/

set_option autoImplicit false

namespace Logicless.Json

open Text

def literalChar : Char → List Char
  | '"' => ['\\', '"']
  | '\\' => ['\\', '\\']
  | '\n' => ['\\', 'n']
  | '\r' => ['\\', 'r']
  | '\t' => ['\\', 't']
  | '\x08' => ['\\', 'b']
  | '\x0c' => ['\\', 'f']
  | c => if c.toNat < 0x20 then '\\' :: 'u' :: hexDigits 4 c.toNat else [c]

def literal (cs : List Char) : List Char := '"' :: cs.flatMap literalChar ++ ['"']

end Logicless.Json
