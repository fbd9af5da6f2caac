import Logicless.Yaml.Head
import Logicless.Yaml.Token.Quoted

/-!
Plain scalars: words without quotes. A plain scalar goes on over line breaks as long as its lines
are indented further than the collection around it.
-/

set_option autoImplicit false

namespace Logicless.Yaml

/-- Characters with a meaning of their own inside brackets. -/
def isFlowIndicator (c : Char) : Bool :=
  c = ',' || c = '[' || c = ']' || c = '{' || c = '}'

/-- Whether a plain scalar may start at a head. -/
def startsPlain (inFlow : Bool) (head : Head) : Bool :=
  let c := head.next
  let indicators := "-?:,[]\x7b\x7d#&*!|>'\"%@`".toList
  if !isNull c && !isBlank c && !isBreak c && !indicators.contains c then true
  else if c = '-' then !isGap (head.peek 1)
  else if c = ':' then !isGap (head.peek 1) || (inFlow && !isBlank (head.peek 1))
  else c = '?' && !inFlow && !isGap (head.peek 1)

/-- The number of characters up to a blank, a line end, a colon with a gap behind it or, inside
brackets, an indicator. -/
def wordLength (inFlow : Bool) : List Char → Nat
  | [] => 0
  | c :: rest =>
    if c = ':' then
      if isGap (rest.headD '\x00') then 0 else wordLength inFlow rest + 1
    else if isGap c || (inFlow && isFlowIndicator c) then 0
    else wordLength inFlow rest + 1

/-- Spaces and line breaks in front, and the head behind them; `none` at a line that starts or ends
a document. -/
def plainBreaks : (fuel : Nat) → Head → Option (List Char) × Head
  | 0, head => (some [], head)
  | fuel + 1, head =>
    if head.next = ' ' then plainBreaks fuel head.step
    else if isBreak head.next then
      let (first, head) := head.lineBreak
      if head.atDocumentMark then (none, head)
      else
        let (rest, head) := plainBreaks fuel head
        (rest.map (first ++ ·), head)
    else (some [], head)

structure PlainGap where
  /-- What the gap stands for; empty where the scalar ends. -/
  text : List Char
  head : Head
  overLines : Bool

def plainGap (head : Head) : PlainGap :=
  let (spaces, head) := head.takeWhile (· = ' ')
  if isBreak head.next then
    let (first, head) := head.lineBreak
    if head.atDocumentMark then ⟨[], head, true⟩
    else match plainBreaks (head.rest.length + 1) head with
      | (some breaks, head) => ⟨folded first breaks, head, true⟩
      | (none, head) => ⟨[], head, true⟩
  else ⟨spaces, head, false⟩

/-- A plain scalar that was read: its text, the head behind it, and whether line breaks stand
between the two. -/
structure PlainScalar where
  text : List Char
  head : Head
  overLines : Bool

/-- The rest of a plain scalar behind a gap. -/
def plainRest (inFlow : Bool) (indent : Int) : (fuel : Nat) → PlainGap → PlainScalar
  | 0, gap => ⟨[], gap.head, gap.overLines⟩
  | fuel + 1, gap =>
    let length := wordLength inFlow gap.head.rest
    if gap.head.next = '#' || length = 0 then ⟨[], gap.head, gap.overLines⟩
    else
      let word := gap.head.rest.take length
      let behind := plainGap (gap.head.advance length)
      let ends := behind.text.isEmpty || behind.head.next = '#' ||
        (!inFlow && (behind.head.column : Int) < indent)
      if ends then ⟨gap.text ++ word, behind.head, behind.overLines⟩
      else
        let rest := plainRest inFlow indent fuel behind
        { rest with text := gap.text ++ word ++ rest.text }

/-- The plain scalar at a head; its further lines are indented by `indent` at least. -/
def plainScalar (inFlow : Bool) (indent : Int) (head : Head) : PlainScalar :=
  plainRest inFlow indent (head.rest.length + 1) ⟨[], head, false⟩

end Logicless.Yaml
