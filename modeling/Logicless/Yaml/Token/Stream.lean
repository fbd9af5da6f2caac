import Logicless.Yaml.Token.Block
import Logicless.Yaml.Token.Plain
import Logicless.Yaml.Token.Property
import Logicless.Yaml.Token.Quoted

/-!
Cutting a YAML text into tokens. Indentation opens and closes block collections. Whether a scalar is
the key of a mapping shows only at the colon behind it; until then it is pending, and its tokens
wait in a queue. A pending key lies on one line and within 1024 characters.
-/

set_option autoImplicit false

namespace Logicless.Yaml

/-- A token that becomes a key if a colon follows. -/
structure PendingKey where
  /-- The bracket depth that the colon must have. -/
  depth : Nat
  /-- The number of tokens before it. -/
  number : Nat
  /-- Whether nothing but a key can stand there. -/
  required : Bool
  index : Nat
  line : Nat
  column : Nat
deriving Repr

/-- The brackets that a token may stand in. -/
inductive Bracket where
  | square
  | curly
deriving Repr, DecidableEq

structure Stream where
  head : Head
  /-- The tokens that are certain, the latest first, and how many they are. -/
  certain : List Token
  taken : Nat
  /-- The tokens behind a pending key. -/
  queue : List Token
  /-- The indentation of the innermost block collection; `-1` outside of all. -/
  indent : Int
  outerIndents : List Int
  /-- The open brackets, the innermost first. -/
  brackets : List Bracket
  pending : List PendingKey
  /-- Whether a key may start here. -/
  keyAllowed : Bool
  finished : Bool

namespace Stream

def ofText (cs : List Char) : Stream where
  head := .ofText cs
  certain := []
  taken := 0
  queue := []
  indent := -1
  outerIndents := []
  brackets := []
  pending := []
  keyAllowed := true
  finished := false

def depth (stream : Stream) : Nat := stream.brackets.length

def inFlow (stream : Stream) : Bool := !stream.brackets.isEmpty

def push (stream : Stream) (token : Token) : Stream :=
  { stream with queue := stream.queue ++ [token] }

def insertAt (stream : Stream) (number : Nat) (token : Token) : Stream :=
  let offset := number - stream.taken
  { stream with queue := stream.queue.take offset ++ token :: stream.queue.drop offset }

/-- Whether a pending key lies too far behind. -/
def isStale (stream : Stream) (key : PendingKey) : Bool :=
  key.line ≠ stream.head.line || stream.head.index - key.index > 1024

/-- Gives up the pending keys that lie too far behind. -/
def dropStale (stream : Stream) : Except Error Stream :=
  if stream.pending.any fun key => stream.isStale key && key.required then .error .malformed
  else .ok { stream with pending := stream.pending.filter (!stream.isStale ·) }

/-- Gives up the pending key at the present bracket depth. -/
def dropPending (stream : Stream) : Except Error Stream :=
  if stream.pending.any fun key => key.depth = stream.depth && key.required then .error .malformed
  else .ok { stream with pending := stream.pending.filter (·.depth ≠ stream.depth) }

/-- Makes the next token a pending key, where a key may start. -/
def savePending (stream : Stream) : Except Error Stream :=
  if stream.keyAllowed then do
    let required := !stream.inFlow && stream.indent = stream.head.column
    let stream ← stream.dropPending
    let key : PendingKey := ⟨stream.depth, stream.taken + stream.queue.length, required,
      stream.head.index, stream.head.line, stream.head.column⟩
    return { stream with pending := key :: stream.pending }
  else .ok stream

/-- Closes the block collections that are indented further than a column. -/
def closeBlocks (column : Int) : List Int → Stream → Stream
  | [], stream => stream
  | outer :: rest, stream =>
    if stream.indent > column then
      closeBlocks column rest
        { stream.push .blockEnd with indent := outer, outerIndents := rest }
    else stream

/-- Closes block collections; indentation means nothing inside brackets. -/
def unwind (stream : Stream) (column : Int) : Stream :=
  if stream.inFlow then stream else closeBlocks column stream.outerIndents stream

/-- Opens a block collection at a column, unless one is open there. -/
def indentTo (stream : Stream) (column : Nat) : Option Stream :=
  if stream.indent < column then
    some { stream with indent := column, outerIndents := stream.indent :: stream.outerIndents }
  else none

/-- Opens a block collection with a token of its own at the end of the queue. -/
def openBlock (stream : Stream) (token : Token) : Stream :=
  match stream.indentTo stream.head.column with
  | some stream => stream.push token
  | none => stream

/-- Skips spaces, comments and line breaks; after a line break a key may start. -/
def skipGap : (fuel : Nat) → Stream → Stream
  | 0, stream => stream
  | fuel + 1, stream =>
    let head := stream.head.skipWhile fun c => c = ' ' || (stream.inFlow && c = '\t')
    let head := if head.next = '#' then head.skipWhile (!isLineEnd ·) else head
    if isBreak head.next then
      let head := head.lineBreak.2
      skipGap fuel { stream with head, keyAllowed := stream.keyAllowed || !stream.inFlow }
    else { stream with head }

/-- A token of `width` characters after which no key may start. -/
def mark (stream : Stream) (token : Token) (width : Nat) : Stream :=
  { stream.push token with head := stream.head.advance width, keyAllowed := false }

/-- The end of the text closes all block collections. -/
def endStream (stream : Stream) : Except Error Stream := do
  let stream ← (stream.unwind (-1)).dropPending
  return { stream.push .streamEnd with keyAllowed := false, pending := [], finished := true }

def directive (stream : Stream) : Except Error Stream := do
  let stream ← (stream.unwind (-1)).dropPending
  let (token, head) ← directiveToken stream.head
  return { stream.push token with head, keyAllowed := false }

/-- A line that starts or ends a document. -/
def documentMark (stream : Stream) (token : Token) : Except Error Stream := do
  let stream ← (stream.unwind (-1)).dropPending
  return stream.mark token 3

def openBracket (stream : Stream) (token : Token) (bracket : Bracket) : Except Error Stream := do
  let stream ← stream.savePending
  return { stream.mark token 1 with brackets := bracket :: stream.brackets, keyAllowed := true }

def closeBracket (stream : Stream) (token : Token) : Except Error Stream := do
  let stream ← stream.dropPending
  return { stream.mark token 1 with brackets := stream.brackets.drop 1 }

def flowEntry (stream : Stream) : Except Error Stream := do
  let stream ← stream.dropPending
  return { stream.mark .flowEntry 1 with keyAllowed := true }

/-- The hyphen of an element. Outside of brackets it may open a sequence. -/
def blockEntry (stream : Stream) : Except Error Stream := do
  if !stream.inFlow && !stream.keyAllowed then .error .malformed
  else
    let stream := if stream.inFlow then stream else stream.openBlock .blockSequenceStart
    let stream ← stream.dropPending
    return { stream.mark .blockEntry 1 with keyAllowed := true }

/-- The question mark of a key. Outside of brackets it may open a mapping. -/
def keyMark (stream : Stream) : Except Error Stream := do
  if !stream.inFlow && !stream.keyAllowed then .error .malformed
  else
    let stream := if stream.inFlow then stream else stream.openBlock .blockMappingStart
    let stream ← stream.dropPending
    return { stream.mark .key 1 with keyAllowed := !stream.inFlow }

/-- A colon that makes a pending token a key. Outside of brackets the key may open a mapping. -/
def valueOf (stream : Stream) (key : PendingKey) : Stream :=
  let stream := { stream with pending := stream.pending.filter (·.depth ≠ stream.depth) }
  let stream := stream.insertAt key.number .key
  let stream := if stream.inFlow then stream else
    match stream.indentTo key.column with
    | some stream => stream.insertAt key.number .blockMappingStart
    | none => stream
  stream.mark .value 1

def valueMark (stream : Stream) : Except Error Stream :=
  match stream.pending.find? (·.depth = stream.depth) with
  | some key => .ok (stream.valueOf key)
  | none => do
    if !stream.inFlow && !stream.keyAllowed then .error .malformed
    else
      let stream := if stream.inFlow then stream else stream.openBlock .blockMappingStart
      let stream ← stream.dropPending
      return { stream.mark .value 1 with keyAllowed := !stream.inFlow }

def anchor (stream : Stream) (token : String → Token) : Except Error Stream := do
  let stream ← stream.savePending
  let (name, head) ← anchorName stream.head
  return { stream.push (token name) with head, keyAllowed := false }

def tag (stream : Stream) : Except Error Stream := do
  let stream ← stream.savePending
  let (token, head) ← tagToken stream.head
  return { stream.push token with head, keyAllowed := false }

/-- A block scalar; behind it a key may start. -/
def block (stream : Stream) : Except Error Stream := do
  let stream ← stream.dropPending
  let (text, head) ← blockScalar stream.indent stream.head
  return { stream.push (.scalar (String.ofList text) false) with head, keyAllowed := true }

def quoted (stream : Stream) : Except Error Stream := do
  let stream ← stream.savePending
  let (text, head) ← quotedScalar stream.head
  return { stream.push (.scalar (String.ofList text) false) with head, keyAllowed := false }

/-- A plain scalar; a key may start behind it if a line break follows. -/
def plain (stream : Stream) : Except Error Stream := do
  let stream ← stream.savePending
  let scalar := plainScalar stream.inFlow (stream.indent + 1) stream.head
  return { stream.push (.scalar (String.ofList scalar.text) true) with
    head := scalar.head, keyAllowed := scalar.overLines }

/-- Whether a colon is that of a value. Outside of brackets and between square ones a gap must
follow it; between curly ones only where a value is waiting in the queue already. -/
def isValueMark (stream : Stream) : Bool :=
  let gapFollows := isGap (stream.head.peek 1)
  match stream.brackets with
  | [] => gapFollows
  | .square :: _ => gapFollows
  | .curly :: _ => stream.queue.getLast? != some .value || gapFollows

def cut (stream : Stream) : Except Error Stream :=
  let head := stream.head
  let c := head.next
  let gapFollows := isGap (head.peek 1)
  if isNull c then stream.endStream
  else if c = '%' && head.column = 0 then stream.directive
  else if head.column = 0 && head.atMarker '-' then stream.documentMark .documentStart
  else if head.column = 0 && head.atMarker '.' then stream.documentMark .documentEnd
  else if c = '[' then stream.openBracket .flowSequenceStart .square
  else if c = '{' then stream.openBracket .flowMappingStart .curly
  else if c = ']' then stream.closeBracket .flowSequenceEnd
  else if c = '}' then stream.closeBracket .flowMappingEnd
  else if c = ',' then stream.flowEntry
  else if c = '-' && gapFollows then stream.blockEntry
  else if c = '?' && (stream.inFlow || gapFollows) then stream.keyMark
  else if c = ':' && stream.isValueMark then stream.valueMark
  else if c = '*' then stream.anchor .reference
  else if c = '&' then stream.anchor .anchor
  else if c = '!' then stream.tag
  else if (c = '|' || c = '>') && !stream.inFlow then stream.block
  else if c = '\'' || c = '"' then stream.quoted
  else if startsPlain stream.inFlow head then stream.plain
  else .error .malformed

/-- Skips to the next token and cuts it off. -/
def advance (stream : Stream) : Except Error Stream := do
  let stream ← (skipGap (stream.head.rest.length + 1) stream).dropStale
  (stream.unwind stream.head.column).cut

/-- Moves the tokens in front of the first pending key out of the queue. -/
def settle (stream : Stream) : Except Error Stream := do
  let stream ← stream.dropStale
  let first := (stream.pending.map (·.number)).min?
  let count := match first with
    | some number => number - stream.taken
    | none => stream.queue.length
  return { stream with
    certain := (stream.queue.take count).reverse ++ stream.certain
    taken := stream.taken + count
    queue := stream.queue.drop count }

/-- The tokens up to the end of the text, or to the first fault. -/
def run : (fuel : Nat) → Stream → List Token
  | 0, stream => stream.certain.reverse
  | fuel + 1, stream =>
    match stream.advance with
    | .error error => (.fault error :: stream.certain).reverse
    | .ok stream =>
      if stream.finished then stream.certain.reverse ++ stream.queue
      else
        match stream.settle with
        | .error error => (.fault error :: stream.certain).reverse
        | .ok stream => run fuel stream

end Stream

/-- A text without the byte order mark in front. -/
def withoutMark (head : Head) : Head := if head.next = '\uFEFF' then head.step else head

/-- The tokens of a text. A character that no YAML text may hold is a fault by itself. -/
def tokens (cs : List Char) : List Token :=
  if cs.all isPermitted then
    let stream := Stream.ofText cs
    Stream.run (cs.length + 2) { stream with head := withoutMark stream.head }
  else [.fault .malformed]

end Logicless.Yaml
