import Logicless.Number.Reading
import Logicless.Yaml.Error
import Logicless.Yaml.Head

/-!
Scalars between quotes. A line break between words counts as a space, and empty lines as line
breaks. Between double quotes a backslash starts an escape.
-/

set_option autoImplicit false

namespace Logicless.Yaml

open Number

def simpleEscape? : Char → Option Char
  | '0' => some '\x00'
  | 'a' => some '\x07'
  | 'b' => some '\x08'
  | 't' => some '\t'
  | '\t' => some '\t'
  | 'n' => some '\n'
  | 'v' => some '\x0b'
  | 'f' => some '\x0c'
  | 'r' => some '\r'
  | 'e' => some '\x1b'
  | ' ' => some ' '
  | '"' => some '"'
  | '/' => some '/'
  | '\\' => some '\\'
  | 'N' => some '\x85'
  | '_' => some '\xa0'
  | 'L' => some '\u2028'
  | 'P' => some '\u2029'
  | _ => none

/-- The number of digits behind the letter of an escape by code point. -/
def escapeWidth? : Char → Option Nat
  | 'x' => some 2
  | 'u' => some 4
  | 'U' => some 8
  | _ => none

/-- The number that the next `width` hexadecimal digits spell. -/
def codePoint? (width : Nat) (cs : List Char) : Option Nat :=
  let digits := cs.take width
  if digits.length = width ∧ digits.all (isDigitTo 16) then some (ofDigits 16 digits) else none

/-- The second half of a pair of surrogates, written as an escape of its own. -/
def lowSurrogate? (cs : List Char) : Option Nat :=
  match cs with
  | '\\' :: 'u' :: rest =>
    (codePoint? 4 rest).bind fun unit => if 0xDC00 ≤ unit ∧ unit ≤ 0xDFFF then some unit else none
  | _ => none

/-- The character of an escape by code point in front of `head`, and the head behind it. Two escapes
may form a pair of surrogates; a single surrogate stands for the replacement character. -/
def escapedCodePoint (width : Nat) (head : Head) : Except Error (Char × Head) :=
  match codePoint? width head.rest with
  | none => .error .malformed
  | some code =>
    let behind := head.advance width
    if code > 0x10FFFF then .error (.codePoint code)
    else if 0xD800 ≤ code ∧ code ≤ 0xDBFF then
      match lowSurrogate? behind.rest with
      | some low =>
        .ok (Char.ofNat (0x10000 + (code - 0xD800) * 0x400 + (low - 0xDC00)), behind.advance 6)
      | none => .ok ('\uFFFD', behind)
    else if 0xDC00 ≤ code ∧ code ≤ 0xDFFF then .ok ('\uFFFD', behind)
    else .ok (Char.ofNat code, behind)

/-- The line breaks of empty lines in front, and the head behind them and the blanks of the line
that follows. The lines may not start or end a document. -/
def emptyLines : (fuel : Nat) → Head → Except Error (List Char × Head)
  | 0, _ => .error .malformed
  | fuel + 1, head =>
    if head.atDocumentMark then .error .malformed
    else
      let head := head.skipWhile isBlank
      if isBreak head.next then do
        let (first, head) := head.lineBreak
        let (rest, head) ← emptyLines fuel head
        return (first ++ rest, head)
      else .ok ([], head)

/-- What a line break and the empty lines behind it stand for. -/
def folded (first breaks : List Char) : List Char :=
  if first ≠ ['\n'] then first ++ breaks
  else if breaks.isEmpty then [' ']
  else breaks

/-- What blanks and line breaks in front stand for, and the head behind them. -/
def foldedGap (head : Head) : Except Error (List Char × Head) :=
  let (blanks, head) := head.takeWhile isBlank
  if isNull head.next then .error .malformed
  else if isBreak head.next then do
    let (first, head) := head.lineBreak
    let (breaks, head) ← emptyLines (head.rest.length + 1) head
    return (folded first breaks, head)
  else .ok (blanks, head)

/-- What an escape stands for; `head` is behind the backslash. -/
def escape (head : Head) : Except Error (List Char × Head) :=
  match simpleEscape? head.next with
  | some c => .ok ([c], head.step)
  | none =>
    match escapeWidth? head.next with
    | some width => do
      let (c, head) ← escapedCodePoint width head.step
      return ([c], head)
    | none =>
      if isBreak head.next then
        let (_, head) := head.lineBreak
        emptyLines (head.rest.length + 1) head
      else .error .malformed

/-- The rest of a scalar between quotes, and the head behind the closing quote. -/
def quotedRest (quote : Char) : (fuel : Nat) → Head → Except Error (List Char × Head)
  | 0, _ => .error .malformed
  | fuel + 1, head => do
    let c := head.next
    if c = quote then
      if quote = '\'' ∧ head.peek 1 = '\'' then
        let (text, behind) ← quotedRest quote fuel (head.advance 2)
        return ('\'' :: text, behind)
      else return ([], head.step)
    else
      let (piece, head) ←
        if quote = '"' ∧ c = '\\' then escape head.step
        else if isBlank c || isBreak c || isNull c then foldedGap head
        else .ok ([c], head.step)
      let (text, behind) ← quotedRest quote fuel head
      return (piece ++ text, behind)

/-- The scalar between quotes at a head, and the head behind it. -/
def quotedScalar (head : Head) : Except Error (List Char × Head) :=
  quotedRest head.next (head.rest.length + 1) head.step

end Logicless.Yaml
