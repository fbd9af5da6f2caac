import Logicless.Document.Text
import Logicless.Template.Node
import Logicless.Template.Token

/-!
Trees and tokens of templates as documents, for listings in JSON.
-/

set_option autoImplicit false

namespace Logicless.Template

open Number

namespace Node

mutual

/-- A node as an object that names its kind. -/
def outline : Node → Except NodeError Document
  | .content text => .ok (.object [("type", .string "content"), ("text", .string text)])
  | .escaped name => .ok (.object [("type", .string "escaped"), ("name", .string name)])
  | .unescaped name => .ok (.object [("type", .string "unescaped"), ("name", .string name)])
  | .block name children => do
    let children ← outlines children
    return .object [("type", .string "section"), ("name", .string name),
      ("children", .array .list children)]
  | .unknown => .error .unknown

def outlines : List Node → Except NodeError (List Document)
  | [] => .ok []
  | node :: rest => do
    let first ← outline node
    let others ← outlines rest
    return first :: others

end

end Node

/-- A token as an object: its kind, its value, and the line and column where it starts. -/
def Token.outline (token : Token) : Document :=
  .object [("type", .string token.kind.name), ("value", .string token.value),
    ("line", .number (.int token.place.line none)),
    ("column", .number (.int token.place.column none))]

end Logicless.Template
