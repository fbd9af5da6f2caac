/-!
Characters with a meaning in HTML, written as entities.
-/

set_option autoImplicit false

namespace Logicless.Text

/-- The entity of a character, or the character itself. -/
def entity : Char → List Char
  | '&' => ['&', 'a', 'm', 'p', ';']
  | '<' => ['&', 'l', 't', ';']
  | '>' => ['&', 'g', 't', ';']
  | '"' => ['&', 'q', 'u', 'o', 't', ';']
  | '\'' => ['&', '#', 'x', '2', '7', ';']
  | c => [c]

/-- A text safe to stand in HTML, also inside an attribute. -/
def escapeHtml (text : String) : String := String.ofList (text.toList.flatMap entity)

@[simp] theorem toList_escapeHtml (text : String) :
    (escapeHtml text).toList = text.toList.flatMap entity := String.toList_ofList

theorem escapeHtml_append (first second : String) :
    escapeHtml (first ++ second) = escapeHtml first ++ escapeHtml second := by
  apply String.toList_inj.mp
  simp

end Logicless.Text
