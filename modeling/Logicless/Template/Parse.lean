import Logicless.Reported
import Logicless.Template.Lexer
import Logicless.Template.Node

/-!
From tokens to the tree of a template. A section lasts to the closing tag of its name or to the end
of the input. A closing tag of another name is dropped, or refused where closing is strict. Inverted
sections are not part of the language: their opening tag is dropped.
-/

set_option autoImplicit false

namespace Logicless.Template

/-- How closing tags are treated that do not match the open section. -/
structure Closing where
  strict : Bool := false
deriving Repr, DecidableEq

inductive ParseError where
  /-- A closing tag in a section of another name. -/
  | mismatchedClose (token : Token) (openName : String)
  /-- A token of a kind that no template holds. -/
  | unexpected (token : Token)
deriving Repr, DecidableEq

namespace ParseError

/-- The token at fault. -/
def token : ParseError → Token
  | .mismatchedClose token _ => token
  | .unexpected token => token

def cause : ParseError → String
  | .mismatchedClose token openName =>
    let expected :=
      if openName = "" then "no closing tag" else "'\x7b\x7b/" ++ openName ++ "\x7d\x7d'"
    "Closing tag '" ++ token.value ++ "' does not match, expected " ++ expected
  | .unexpected token => "Unexpected token " ++ token.kind.name

def message (error : ParseError) : String :=
  let token := error.token
  error.cause ++ " at " ++ toString token.place.line ++ ":" ++ toString token.place.column ++
    " (token: " ++ token.kind.name ++ ")"

end ParseError

/-- What a parse passes over in silence. -/
inductive ParseNotice where
  | invertedDropped (token : Token)
  | closeDiscarded (token : Token) (openName : String)
  | closedAtEnd (name : String)
deriving Repr, DecidableEq

def ParseNotice.message : ParseNotice → String
  | .invertedDropped token =>
    "Inverted section '" ++ token.value ++ "' at " ++ toString token.place.line ++ ":" ++
      toString token.place.column ++ " is not supported, dropped"
  | .closeDiscarded token openName =>
    "Discarding mismatched closing tag '" ++ token.value ++ "' at " ++ toString token.place.line ++
      ":" ++ toString token.place.column ++ " (open section: '" ++ openName ++ "')"
  | .closedAtEnd name => "Section '" ++ name ++ "' closed implicitly at end of input"

/-- A section that has ended: its nodes, and the tokens behind its end, at most `bound` of them. -/
structure Ended (bound : Nat) where
  children : List Node
  rest : List Token
  rest_le : rest.length ≤ bound

/-- The same end, seen from one token earlier, behind no further node. -/
def Ended.skip {bound : Nat} (ended : Ended bound) : Ended (bound + 1) :=
  ⟨ended.children, ended.rest, Nat.le_succ_of_le ended.rest_le⟩

/-- The same end, seen from one token earlier, behind one more node. -/
def Ended.cons {bound : Nat} (node : Node) (ended : Ended bound) : Ended (bound + 1) :=
  ⟨node :: ended.children, ended.rest, Nat.le_succ_of_le ended.rest_le⟩

/-- The rest of the open section called `name`, up to its end. -/
def parseSection (closing : Closing) (name : String) (tokens : List Token) :
    Reported ParseNotice ParseError (Ended tokens.length) :=
  match tokens with
  | [] => do
    if name ≠ "" then .note (.closedAtEnd name)
    return ⟨[], [], Nat.le_refl _⟩
  | token :: rest =>
    match token.kind with
    | .content => return (← parseSection closing name rest).cons (.content token.value)
    | .escapedVariable => return (← parseSection closing name rest).cons (.escaped token.value)
    | .unescapedVariable => return (← parseSection closing name rest).cons (.unescaped token.value)
    | .comment => return (← parseSection closing name rest).skip
    | .invertedSection => do
      .note (.invertedDropped token)
      return (← parseSection closing name rest).skip
    | .sectionOpen => do
      let inner ← parseSection closing token.value rest
      let outer ← parseSection closing name inner.rest
      return ⟨.block token.value inner.children :: outer.children, outer.rest,
        Nat.le_succ_of_le (Nat.le_trans outer.rest_le inner.rest_le)⟩
    | .sectionClose =>
      if token.value = name then return ⟨[], rest, Nat.le_succ _⟩
      else if closing.strict then .fail (.mismatchedClose token name)
      else do
        .note (.closeDiscarded token name)
        return (← parseSection closing name rest).skip
    | .foreign _ => .fail (.unexpected token)
termination_by tokens.length
decreasing_by
  all_goals first
    | exact Nat.lt_succ_self _
    | exact Nat.lt_succ_of_le inner.rest_le

/-- The nodes of a template with the given tokens. A closing tag without a name ends the template;
tokens behind it are not looked at. -/
def parseTokens (closing : Closing) (tokens : List Token) :
    Reported ParseNotice ParseError (List Node) := do
  return (← parseSection closing "" tokens).children

/-- A template text that is no template. -/
inductive TemplateError where
  | lex (error : LexError)
  | parse (error : ParseError)
deriving Repr, DecidableEq

def TemplateError.message : TemplateError → String
  | .lex error => error.message
  | .parse error => error.message

def parse (closing : Closing) (template : String) :
    Reported ParseNotice TemplateError (List Node) := do
  let tokens ← .ofExcept ((tokenize template).mapError .lex)
  (parseTokens closing tokens).adapt id .parse

end Logicless.Template
