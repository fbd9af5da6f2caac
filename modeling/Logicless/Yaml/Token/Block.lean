import Logicless.Yaml.Error
import Logicless.Yaml.Head

/-!
Block scalars: lines that are taken as they stand, or folded into paragraphs. The indentation is
that of the first line with text, or given in the header; the header also says what becomes of the
line breaks at the end.
-/

set_option autoImplicit false

namespace Logicless.Yaml

/-- What becomes of the line breaks at the end of a block scalar. -/
inductive Chomping where
  /-- One is kept. -/
  | clip
  | strip
  | keep
deriving Repr, DecidableEq

structure BlockHeader where
  chomping : Chomping
  /-- The indentation against the collection around. -/
  increment : Option Nat
deriving Repr, DecidableEq

def chompingMark (head : Head) : Option Chomping × Head :=
  if head.next = '+' then (some .keep, head.step)
  else if head.next = '-' then (some .strip, head.step)
  else (none, head)

/-- The digit of the indentation in front, if there is one; it may not be zero. -/
def incrementMark (head : Head) : Except Error (Option Nat × Head) :=
  if head.next = '0' then .error .malformed
  else if head.next.isDigit then .ok (some (head.next.toNat - '0'.toNat), head.step)
  else .ok (none, head)

/-- The marks of a header, in either order. -/
def blockMarks (head : Head) : Except Error (BlockHeader × Head) := do
  let (before, head) := chompingMark head
  let (increment, head) ← incrementMark head
  let (after, head) :=
    if before.isNone && increment.isSome then chompingMark head else (none, head)
  return (⟨(before.or after).getD .clip, increment⟩, head)

/-- The header, an optional comment and the end of their line. -/
def blockHeader (head : Head) : Except Error (BlockHeader × Head) := do
  let (header, head) ← blockMarks head
  if !isSpaceOrBreak head.next then .error .malformed
  else
    let head := head.skipWhile (· = ' ')
    let head := if head.next = '#' then head.skipWhile (!isLineEnd ·) else head
    if isLineEnd head.next then return (header, head.lineBreak.2) else .error .malformed

/-- The blank lines in front of the text of a block scalar. -/
structure BlankLines where
  breaks : List Char
  /-- The column of the first line break, if there is one. -/
  firstColumn : Option Nat
  /-- The greatest column that spaces reach. -/
  maxColumn : Nat
  head : Head

def blankLines : (fuel : Nat) → BlankLines → BlankLines
  | 0, lines => lines
  | fuel + 1, lines =>
    if lines.head.next = ' ' then
      let head := lines.head.step
      blankLines fuel { lines with head, maxColumn := max lines.maxColumn head.column }
    else if isBreak lines.head.next then
      let (text, head) := lines.head.lineBreak
      let firstColumn := lines.firstColumn.or (some lines.head.column)
      blankLines fuel { lines with head, breaks := lines.breaks ++ text, firstColumn }
    else lines

/-- Skips at most the spaces up to a column. -/
def skipIndent (indent : Nat) (head : Head) : Head :=
  let spaces := head.rest.takeWhile (· = ' ')
  head.advance (min spaces.length (indent - head.column))

/-- The line breaks of lines without text, and the head at the text of the next line. -/
def blockBreaks (indent : Nat) : (fuel : Nat) → Head → List Char × Head
  | 0, head => ([], head)
  | fuel + 1, head =>
    let head := skipIndent indent head
    if isBreak head.next then
      let (first, head) := head.lineBreak
      let (rest, head) := blockBreaks indent fuel head
      (first ++ rest, head)
    else ([], head)

/-- What is read of a block scalar: its text so far without the last line break, that line break,
and the breaks of the empty lines behind it. -/
structure BlockText where
  text : List Char
  lineBreak : List Char
  breaks : List Char
  head : Head

/-- Reads the lines of a block scalar. A line break between two lines that start with words counts
as a space where lines are folded. A scalar without indentation ends with the document. -/
def blockLines (fold : Bool) (atTop : Bool) (indent : Nat) : (fuel : Nat) → BlockText → BlockText
  | 0, block => block
  | fuel + 1, block =>
    let startsWithWord := !isBlank block.head.next
    let (line, head) := block.head.takeWhile (!isLineEnd ·)
    let (lineBreak, head) := head.lineBreak
    let (breaks, head) := blockBreaks indent (head.rest.length + 1) head
    let text := block.text ++ block.breaks ++ line
    let stops := (atTop && head.column = 0 && head.atDocumentMark) || head.column ≠ indent ||
      isNull head.next
    if stops then ⟨text, lineBreak, breaks, head⟩
    else
      let between :=
        if fold && lineBreak = ['\n'] && startsWithWord && !isBlank head.next then
          if breaks.isEmpty then [' '] else []
        else lineBreak
      blockLines fold atTop indent fuel ⟨text ++ between, [], breaks, head⟩

/-- The indentation of a block scalar, the breaks before its text and the head at its text. The
blank lines before the text may not be indented further than the first of them. -/
def blockIndent (around : Int) (increment : Option Nat) (head : Head) :
    Except Error (Nat × List Char × Head) :=
  match increment with
  | some increment =>
    let indent := (max (around + 1) 1).toNat + increment - 1
    let (breaks, head) := blockBreaks indent (head.rest.length + 1) head
    .ok (indent, breaks, head)
  | none =>
    let lines := blankLines (head.rest.length + 1) ⟨[], none, 0, head⟩
    if lines.firstColumn.any fun first => 0 < first && first < lines.maxColumn then
      .error .malformed
    else .ok (max (around + 1).toNat lines.maxColumn, lines.breaks, lines.head)

/-- The block scalar at a head inside a collection with the indentation `around`, and the head
behind it. -/
def blockScalar (around : Int) (head : Head) : Except Error (List Char × Head) := do
  let fold := head.next = '>'
  let (header, head) ← blockHeader head.step
  let (indent, breaks, head) ← blockIndent around header.increment head
  let atTop := header.increment.isNone && around + 1 ≤ 0
  let block :=
    if head.column = indent ∧ !isNull head.next then
      blockLines fold atTop indent (head.rest.length + 1) ⟨[], [], breaks, head⟩
    else ⟨[], [], breaks, head⟩
  let trailing := match header.chomping with
    | .strip => []
    | .clip => block.lineBreak
    | .keep => block.lineBreak ++ block.breaks
  return (block.text ++ trailing, block.head)

end Logicless.Yaml
