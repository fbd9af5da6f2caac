/-!
Reading a YAML text from left to right: classes of characters, and the place that reading has come
to. Behind the end of a text stands a null character, which no text holds.
-/

set_option autoImplicit false

namespace Logicless.Yaml

/-- Characters that a YAML text may hold. -/
def isPermitted (c : Char) : Bool :=
  let n := c.toNat
  c = '\t' || c = '\n' || c = '\r' || (0x20 ≤ n && n ≤ 0x7E) || n = 0x85 ||
    (0xA0 ≤ n && n ≤ 0xD7FF) || (0xE000 ≤ n && n ≤ 0xFFFD) || 0x10000 ≤ n

def isNull (c : Char) : Bool := c = '\x00'

def isBreak (c : Char) : Bool :=
  c = '\n' || c = '\r' || c = '\x85' || c = '\u2028' || c = '\u2029'

/-- Line ends that a comment or the line of a block scalar stops at, and the end of the text. -/
def isLineEnd (c : Char) : Bool := c = '\n' || c = '\r' || c = '\x85' || isNull c

def isBlank (c : Char) : Bool := c = ' ' || c = '\t'

/-- Characters that separate an indicator from what follows it. -/
def isGap (c : Char) : Bool := isLineEnd c || isBlank c

/-- A space, a line break or the end of the text. -/
def isSpaceOrBreak (c : Char) : Bool := c = ' ' || isBreak c || isNull c

def isWordChar (c : Char) : Bool := c.isAlphanum || c = '-' || c = '_'

/-- The text that is not read yet, and the place of its start. Lines and columns count from zero. -/
structure Head where
  rest : List Char
  index : Nat
  line : Nat
  column : Nat
deriving Repr

namespace Head

def ofText (cs : List Char) : Head := ⟨cs, 0, 0, 0⟩

/-- The character that is `ahead` characters away. -/
def peek (head : Head) (ahead : Nat) : Char := head.rest.getD ahead '\x00'

def next (head : Head) : Char := head.rest.headD '\x00'

/-- The head behind the next character. A carriage return ends a line unless a line feed follows;
a byte order mark has no width. -/
def step (head : Head) : Head :=
  match head.rest with
  | [] => head
  | c :: rest =>
    if c = '\n' ∨ c = '\x85' ∨ c = '\u2028' ∨ c = '\u2029' ∨
        (c = '\r' ∧ rest.head? ≠ some '\n') then
      ⟨rest, head.index + 1, head.line + 1, 0⟩
    else if c = '\uFEFF' then ⟨rest, head.index + 1, head.line, head.column⟩
    else ⟨rest, head.index + 1, head.line, head.column + 1⟩

def advance (head : Head) : (count : Nat) → Head
  | 0 => head
  | count + 1 => head.step.advance count

/-- The characters of a class in front, and the head behind them. -/
def takeWhile (head : Head) (inClass : Char → Bool) : List Char × Head :=
  let taken := head.rest.takeWhile inClass
  (taken, head.advance taken.length)

def skipWhile (head : Head) (inClass : Char → Bool) : Head := (head.takeWhile inClass).2

/-- Whether the text goes on with three given characters and a gap. -/
def atMarker (head : Head) (marker : Char) : Bool :=
  head.rest.take 3 == List.replicate 3 marker && isGap (head.peek 3)

/-- Whether a line starts here that begins or ends a document. -/
def atDocumentMark (head : Head) : Bool := head.atMarker '-' || head.atMarker '.'

/-- The line break in front, as a value holds it, and the head behind it. -/
def lineBreak (head : Head) : List Char × Head :=
  match head.rest with
  | '\r' :: '\n' :: _ => (['\n'], head.advance 2)
  | c :: _ =>
    if c = '\n' ∨ c = '\r' ∨ c = '\x85' then (['\n'], head.step)
    else if isBreak c then ([c], head.step)
    else ([], head)
  | [] => ([], head)

end Head

end Logicless.Yaml
