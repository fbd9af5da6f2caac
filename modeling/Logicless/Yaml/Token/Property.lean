import Logicless.Text.Utf8
import Logicless.Yaml.Head
import Logicless.Yaml.Token
import Logicless.Yaml.Token.Quoted

/-!
Names in a YAML text: anchors and references to them, tags, and directives.
-/

set_option autoImplicit false

namespace Logicless.Yaml

/-- Characters of the name of an anchor: visible ones, without the brackets and the comma. -/
def isAnchorChar (c : Char) : Bool :=
  let n := c.toNat
  let visible := (0x21 ≤ n && n ≤ 0x7E) || (0xA0 ≤ n && n ≤ 0xD7FF) ||
    (0xE000 ≤ n && n ≤ 0xFFFD && n ≠ 0xFEFF) || 0x10000 ≤ n
  visible && !(c = ',' || c = '[' || c = ']' || c = '{' || c = '}')

/-- Characters that may stand behind the name of an anchor. -/
def endsAnchor (c : Char) : Bool :=
  isNull c || isBlank c || isBreak c || "?:,[]\x7b\x7d%@\x60".toList.contains c

/-- The name behind the mark of an anchor or of a reference. -/
def anchorName (head : Head) : Except Error (String × Head) :=
  let (name, head) := head.step.takeWhile isAnchorChar
  if name.isEmpty || !endsAnchor head.next then .error .malformed
  else .ok (String.ofList name, head)

def isTagChar (c : Char) : Bool :=
  c.isAlphanum || "-;/?:@&=+$,_.!~*'()[]%#".toList.contains c

/-- The bytes of the percent escapes in front, and the head behind them. -/
def percentBytes : (fuel : Nat) → Head → Except Error (List UInt8 × Head)
  | 0, head => .ok ([], head)
  | fuel + 1, head =>
    if head.next = '%' then
      match codePoint? 2 head.step.rest with
      | none => .error .malformed
      | some byte => do
        let (bytes, head) ← percentBytes fuel (head.advance 3)
        return (UInt8.ofNat byte :: bytes, head)
    else .ok ([], head)

/-- The characters of a tag in front, percent escapes decoded. -/
def tagChars : (fuel : Nat) → Head → Except Error (List Char × Head)
  | 0, head => .ok ([], head)
  | fuel + 1, head =>
    if head.next = '%' then do
      let (bytes, head) ← percentBytes fuel head
      match Text.decodeUtf8 bytes with
      | .error _ => .error .malformed
      | .ok decoded =>
        let (rest, head) ← tagChars fuel head
        return (decoded ++ rest, head)
    else if isTagChar head.next then do
      let (rest, behind) ← tagChars fuel head.step
      return (head.next :: rest, behind)
    else .ok ([], head)

def tagText (head : Head) : Except Error (String × Head) := do
  let (text, behind) ← tagChars (head.rest.length + 1) head
  if text.isEmpty && behind.index = head.index then .error .malformed
  else return (String.ofList text, behind)

/-- The handle of a tag: an exclamation mark, or a word between two. -/
def tagHandle (head : Head) : Except Error (String × Head) :=
  if head.next ≠ '!' then .error .malformed
  else if head.peek 1 = ' ' then .ok ("!", head.step)
  else
    let (word, behind) := head.step.takeWhile isWordChar
    if behind.next = '!' then .ok (String.ofList ('!' :: word ++ ['!']), behind.step)
    else .error .malformed

/-- Whether a tag names its handle: a second exclamation mark comes before the next space. -/
def namesHandle (head : Head) : Bool :=
  (head.step.rest.takeWhile (!isSpaceOrBreak ·)).contains '!'

/-- The tag at a head. A space, a line break or the end of the text must follow. -/
def tagToken (head : Head) : Except Error (Token × Head) := do
  let (token, head) ←
    if head.peek 1 = '<' then do
      let (text, head) ← tagText (head.advance 2)
      if head.next = '>' then pure (Token.tag none text, head.step) else .error .malformed
    else if isGap (head.peek 1) then .ok (Token.tag none "!", head.step)
    else do
      let (handle, head) ← if namesHandle head then tagHandle head else .ok ("!", head.step)
      let (suffix, head) ← tagText head
      pure (Token.tag (some handle) suffix, head)
  if isSpaceOrBreak head.next then return (token, head) else .error .malformed

/-- A number in decimal digits, which are limited like those of an integer. -/
def decimalNumber (head : Head) : Except Error (Nat × Head) :=
  let (digits, head) := head.takeWhile Char.isDigit
  if digits.isEmpty then .error .malformed
  else match Number.readInt 10 digits with
    | .ok value => .ok (value.toNat, head)
    | .error error => .error (.number error)

def versionDirective (head : Head) : Except Error (Token × Head) := do
  let (major, head) ← decimalNumber (head.skipWhile (· = ' '))
  if head.next ≠ '.' then .error .malformed
  else
    let (minor, head) ← decimalNumber head.step
    if isSpaceOrBreak head.next then return (.versionDirective major minor, head)
    else .error .malformed

/-- The handle and the start of tags behind the name of their directive. -/
def tagDirective (head : Head) : Except Error (Token × Head) := do
  let (handle, head) ← tagHandle (head.skipWhile (· = ' '))
  if head.next ≠ ' ' then .error .malformed
  else
    let (start, head) ← tagText (head.skipWhile (· = ' '))
    if isSpaceOrBreak head.next then return (.tagDirective handle start, head)
    else .error .malformed

/-- The directive at a head, up to the end of its line. Directives of other names are passed
over. -/
def directiveToken (head : Head) : Except Error (Token × Head) := do
  let (name, head) := head.step.takeWhile fun c => isWordChar c || c = ':' || c = '.'
  if name.isEmpty || !isSpaceOrBreak head.next then .error .malformed
  else
    let (token, head) ←
      if name = "YAML".toList then versionDirective head
      else if name = "TAG".toList then tagDirective head
      else .ok (.otherDirective, head.skipWhile (!isLineEnd ·))
    let head := head.skipWhile (· = ' ')
    let head := if head.next = '#' then head.skipWhile (!isLineEnd ·) else head
    if isLineEnd head.next then return (token, head.lineBreak.2) else .error .malformed

end Logicless.Yaml
