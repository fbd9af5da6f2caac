import Logicless.Text.Blank
import Logicless.Template.Token

/-!
Cutting a template into tokens. A tag is two opening braces, one or more characters that are not
braces, and two closing braces; or the same with three braces on both sides. Tags are looked for
from the left, the form with two braces first; what stands between two tags is content.
-/

set_option autoImplicit false

namespace Logicless.Template

open Text

def isBrace (c : Char) : Bool := c = '{' || c = '}'

abbrev run (count : Nat) (c : Char) : List Char := List.replicate count c

/-- The tag with `width` braces on both sides that a text starts with. -/
def fencedTag? (width : Nat) (cs : List Char) : Option (List Char) :=
  if (run width '{').isPrefixOf cs then
    let inside := (cs.drop width).takeWhile (!isBrace ·)
    let behind := cs.drop (width + inside.length)
    if !inside.isEmpty && (run width '}').isPrefixOf behind then
      some (run width '{' ++ inside ++ run width '}')
    else none
  else none

def tagAt? (cs : List Char) : Option (List Char) :=
  (fencedTag? 2 cs).or (fencedTag? 3 cs)

/-- A piece of a template before it is classified. -/
inductive Piece where
  | content (raw : List Char)
  | tag (raw : List Char)
deriving Repr, DecidableEq

/-- The content gathered so far, latest character first, as a piece in front of others. -/
def Piece.flush (gathered : List Char) (pieces : List Piece) : List Piece :=
  if gathered.isEmpty then pieces else .content gathered.reverse :: pieces

/-- Cuts a text into pieces. The first `skip` characters belong to a tag that is already cut;
`gathered` is the content before the text, latest character first. -/
def cut (skip : Nat) (gathered : List Char) : List Char → List Piece
  | [] => Piece.flush gathered []
  | c :: rest =>
    match skip with
    | skip + 1 => cut skip gathered rest
    | 0 =>
      match tagAt? (c :: rest) with
      | some raw => Piece.flush gathered (.tag raw :: cut (raw.length - 1) [] rest)
      | none => cut 0 (c :: gathered) rest

/-- A text that was taken for a tag but has no braces around it. -/
structure LexError where
  raw : String
  place : Place
deriving Repr, DecidableEq

def LexError.message (error : LexError) : String :=
  "Unknown mustache tag: " ++ quoted error.raw ++ " at " ++ toString error.place.line ++ ":" ++
    toString error.place.column

def isFenced (width : Nat) (cs : List Char) : Bool :=
  (run width '{').isPrefixOf cs && (run width '}').isSuffixOf cs

/-- A text without its first and its last `width` characters. -/
def interior (width : Nat) (cs : List Char) : List Char :=
  (cs.drop width).take (cs.length - 2 * width)

/-- The kind of a tag with two braces, and its value, by the first character inside. A comment
keeps its blanks; all other values are trimmed. -/
def classify : List Char → TokenKind × List Char
  | '#' :: name => (.sectionOpen, trim name)
  | '/' :: name => (.sectionClose, trim name)
  | '^' :: name => (.invertedSection, trim name)
  | '&' :: name => (.unescapedVariable, trim name)
  | '!' :: text => (.comment, text)
  | name => (.escapedVariable, trim name)

/-- A name between three braces; one leading ampersand adds nothing. -/
def unescapedName : List Char → List Char
  | '&' :: name => trim name
  | name => trim name

/-- The kind and the value of a tag; `none` if there are no braces around it. -/
def classifyTag? (raw : List Char) : Option (TokenKind × List Char) :=
  if isFenced 3 raw then some (.unescapedVariable, unescapedName (interior 3 raw))
  else if isFenced 2 raw then some (classify (interior 2 raw))
  else none

namespace Token

def ofContent (place : Place) (raw : List Char) : Token :=
  ⟨.content, String.ofList raw, place, String.ofList raw⟩

def ofTag (place : Place) (raw : List Char) : Except LexError Token :=
  match classifyTag? raw with
  | some (kind, value) => .ok ⟨kind, String.ofList value, place, String.ofList raw⟩
  | none => .error ⟨String.ofList raw, place⟩

/-- Takes a piece at a place: its token, and the place behind it. Where there is no token, the place
stays. -/
def take (place : Place) : Piece → Except LexError Token × Place
  | .content raw => (.ok (ofContent place raw), place.advance raw)
  | .tag raw =>
    match ofTag place raw with
    | .ok token => (.ok token, place.advance raw)
    | .error error => (.error error, place)

/-- The tokens of pieces, the first at `place` and each behind the one before. -/
def ofPieces (place : Place) : List Piece → Except LexError (List Token)
  | [] => .ok []
  | .content raw :: pieces => do
    let tokens ← ofPieces (place.advance raw) pieces
    return ofContent place raw :: tokens
  | .tag raw :: pieces => do
    let token ← ofTag place raw
    let tokens ← ofPieces (place.advance raw) pieces
    return token :: tokens

end Token

def tokenize (template : String) : Except LexError (List Token) :=
  Token.ofPieces .start (cut 0 [] template.toList)

end Logicless.Template
