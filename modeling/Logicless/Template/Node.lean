/-!
The tree of a template: texts, variables, and sections with nodes of their own.
-/

set_option autoImplicit false

namespace Logicless.Template

/-- A node of a template. A template as a whole is a section with an empty name. An `unknown` node
is one that no template text gives and that nothing can be done with. -/
inductive Node where
  | content (text : String)
  | escaped (name : String)
  | unescaped (name : String)
  | block (name : String) (children : List Node)
  | unknown
deriving Repr, Inhabited

namespace Node

mutual

def beq : Node → Node → Bool
  | .content first, .content second => first == second
  | .escaped first, .escaped second => first == second
  | .unescaped first, .unescaped second => first == second
  | .block first children, .block second others => first == second && beqs children others
  | .unknown, .unknown => true
  | _, _ => false

def beqs : List Node → List Node → Bool
  | [], [] => true
  | node :: rest, other :: others => beq node other && beqs rest others
  | _, _ => false

end

instance : BEq Node := ⟨beq⟩

end Node

/-- A node whose kind nothing knows. -/
inductive NodeError where
  | unknown
deriving Repr, DecidableEq

def NodeError.message : NodeError → String
  | .unknown => "Unknown node type: TemplateNode"

end Logicless.Template
