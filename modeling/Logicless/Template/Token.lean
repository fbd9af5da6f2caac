import Logicless.Text.Place
import Logicless.Text.Quoted

/-!
Tokens: the pieces that a template is cut into. A token keeps the text it was cut from, so that the
tokens of a template give the template back.
-/

set_option autoImplicit false

namespace Logicless.Template

open Text

/-- The seven kinds of a piece of a template, and kinds that no template holds. -/
inductive TokenKind where
  | content
  | comment
  | sectionOpen
  | sectionClose
  | invertedSection
  | escapedVariable
  | unescapedVariable
  | foreign (name : String)
deriving Repr, DecidableEq

/-- The name of a kind in messages and listings. -/
def TokenKind.name : TokenKind → String
  | .content => "CONTENT"
  | .comment => "COMMENT"
  | .sectionOpen => "SECTION_OPEN"
  | .sectionClose => "SECTION_CLOSE"
  | .invertedSection => "INVERTED_SECTION"
  | .escapedVariable => "ESCAPED_VAR"
  | .unescapedVariable => "UNESCAPED_VAR"
  | .foreign name => name

def TokenKind.ofName (name : String) : TokenKind :=
  let known := [content, comment, sectionOpen, sectionClose, invertedSection, escapedVariable,
    unescapedVariable]
  (known.find? (·.name == name)).getD (.foreign name)

/-- A piece of a template: its kind, what it says, where it starts, and the text it was cut from
(empty for a token that was not cut from a text). -/
structure Token where
  kind : TokenKind
  value : String
  place : Place
  raw : String
deriving Repr, DecidableEq

namespace Token

/-- The form of a token that was not cut from a text. Blanks inside the tag and the mark of an
unescaped variable are not kept. -/
def canonicalForm? (kind : TokenKind) (value : String) : Option String :=
  match kind with
  | .content => some value
  | .comment => some ("\x7b\x7b!" ++ value ++ "\x7d\x7d")
  | .sectionOpen => some ("\x7b\x7b#" ++ value ++ "\x7d\x7d")
  | .sectionClose => some ("\x7b\x7b/" ++ value ++ "\x7d\x7d")
  | .invertedSection => some ("\x7b\x7b^" ++ value ++ "\x7d\x7d")
  | .unescapedVariable => some ("\x7b\x7b\x7b" ++ value ++ "\x7d\x7d\x7d")
  | .escapedVariable => some ("\x7b\x7b" ++ value ++ "\x7d\x7d")
  | .foreign _ => none

/-- The text of a token in a template. Kinds that no template holds have none. -/
def source? (token : Token) : Option String :=
  if token.raw ≠ "" then some token.raw else canonicalForm? token.kind token.value

/-- A token in a listing for people. -/
def describe (token : Token) : String :=
  "Token(" ++ token.kind.name ++ ", " ++ quoted token.value ++ ", " ++ toString token.place.line ++
    ":" ++ toString token.place.column ++ ")"

end Token

end Logicless.Template
