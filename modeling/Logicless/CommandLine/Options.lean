import Logicless.Text.Digit

/-!
Command lines in general: options with names, with or without a value, and the arguments between
them. The value of an option follows it, or stands behind an equality sign in the same argument. A
long name may be shortened as long as only one option fits. Behind two hyphens all arguments are
taken as they are.
-/

set_option autoImplicit false

namespace Logicless.CommandLine

/-- An option: what it means, its names, and whether a value belongs to it. -/
structure OptionSpec (α : Type) where
  meaning : α
  names : List String
  takesValue : Bool

/-- What stands behind the name of an option in the same argument. -/
structure Attached where
  /-- Whether an equality sign stands between them. -/
  assigned : Bool
  text : String

inductive Argument (α : Type) where
  /-- An option that is known. -/
  | known (option : OptionSpec α) (name : String) (attached : Option Attached)
  /-- What looks like an option and is none. -/
  | unknown (text : String)
  | plain (text : String)
  /-- Two hyphens. -/
  | divider

inductive UsageError where
  | ambiguous (text : String)
  | valueMissing (name : String)
  | valueUnexpected (name : String)
  | badChoice (text : String)
  | argumentMissing
  | unrecognized (texts : List String)
deriving Repr, DecidableEq

/-- The text before and behind the first equality sign. -/
def splitEquals (cs : List Char) : Option (String × String) :=
  match cs.dropWhile (· ≠ '=') with
  | '=' :: value => some (String.ofList (cs.takeWhile (· ≠ '=')), String.ofList value)
  | _ => none

def namedOptions {α : Type} (options : List (OptionSpec α)) : List (String × OptionSpec α) :=
  options.flatMap fun option => option.names.map fun name => (name, option)

/-- The options that a text may be a shortened name of. -/
def candidates {α : Type} (options : List (OptionSpec α)) (text : String) :
    List (OptionSpec α × String × Option Attached) :=
  let cs := text.toList
  match cs with
  | '-' :: '-' :: _ =>
    let (start, value) : String × Option Attached := match splitEquals cs with
      | some (name, value) => (name, some ⟨true, value⟩)
      | none => (text, none)
    (namedOptions options).filterMap fun (name, option) =>
      if start.toList.isPrefixOf name.toList then some (option, name, value) else none
  | _ =>
    (namedOptions options).filterMap fun (name, option) =>
      if name.toList = cs.take 2 then some (option, name, some ⟨false, String.ofList (cs.drop 2)⟩)
      else if cs.isPrefixOf name.toList then some (option, name, none)
      else none

/-- A text without the line feed at its end, if there is one. -/
def withoutLineFeed (cs : List Char) : List Char :=
  if cs.getLast? = some '\n' then cs.dropLast else cs

/-- A negative number: a hyphen, digits, and maybe a point with digits behind it. -/
def isNegativeNumber (cs : List Char) : Bool :=
  match Text.commonDigits (withoutLineFeed cs) with
  | '-' :: digits =>
    match digits.dropWhile Char.isDigit with
    | [] => !digits.isEmpty
    | '.' :: fraction => !fraction.isEmpty && fraction.all Char.isDigit
    | _ => false
  | _ => false

def classify {α : Type} (options : List (OptionSpec α)) (text : String) :
    Except UsageError (Argument α) :=
  let cs := text.toList
  let named := namedOptions options
  if cs.head? ≠ some '-' then .ok (.plain text)
  else match named.lookup text with
    | some option => .ok (.known option text none)
    | none =>
      if cs.length = 1 then .ok (.plain text)
      else
        let assigned := (splitEquals cs).bind fun (name, value) =>
          (named.lookup name).map fun option =>
            Argument.known option name (some ⟨true, value⟩)
        match assigned with
        | some argument => .ok argument
        | none =>
          match candidates options text with
          | [(option, name, value)] => .ok (.known option name value)
          | _ :: _ :: _ => .error (.ambiguous text)
          | [] =>
            if isNegativeNumber cs || cs.contains ' ' then .ok (.plain text)
            else .ok (.unknown text)

/-- What the arguments are; behind two hyphens all are plain. -/
def classifyAll {α : Type} (options : List (OptionSpec α)) :
    List String → Except UsageError (List (Argument α))
  | [] => .ok []
  | "--" :: rest => .ok (.divider :: rest.map .plain)
  | text :: rest => do
    let first ← classify options text
    let others ← classifyAll options rest
    return first :: others

structure Given (α : Type) where
  meaning : α
  value : Option String

/-- What one argument gives. -/
structure Expansion (α : Type) where
  given : List (Given α)
  /-- Whether the next argument is the value of the last option. -/
  waits : Bool
  /-- Letters that are no options. -/
  unrecognized : List String

/-- An option that nothing is attached to. -/
def Expansion.single {α : Type} (option : OptionSpec α) : Expansion α :=
  ⟨[⟨option.meaning, none⟩], option.takesValue, []⟩

/-- What an option gives whose name is followed by a text in the same argument. Letters behind a
short name without a value are further short names. -/
def expandText {α : Type} (options : List (OptionSpec α)) (option : OptionSpec α) (name : String)
    (assigned : Bool) (text : List Char) : Except UsageError (Expansion α) :=
  if option.takesValue then .ok ⟨[⟨option.meaning, some (String.ofList text)⟩], false, []⟩
  else match text with
    | [] => .error (.valueUnexpected name)
    | letter :: more =>
      if assigned || letter = '-' || ['-', '-'].isPrefixOf name.toList then
        .error (.valueUnexpected name)
      else
        let next := String.ofList ['-', letter]
        match (namedOptions options).lookup next with
        | none => .ok ⟨[⟨option.meaning, none⟩], false, [String.ofList ('-' :: letter :: more)]⟩
        | some following => do
          let expansion ← match more with
            | [] => .ok (.single following)
            | '=' :: value => expandText options following next true value
            | letter :: others => expandText options following next false (letter :: others)
          return { expansion with given := ⟨option.meaning, none⟩ :: expansion.given }

def withLastValue {α : Type} (value : String) : List (Given α) → List (Given α)
  | [] => []
  | [last] => [{ last with value := some value }]
  | given :: rest => given :: withLastValue value rest

/-- What the argument at the front gives, with the value of its last option, and the arguments
behind that value. -/
def takeOption {α : Type} (options : List (OptionSpec α)) (option : OptionSpec α) (name : String)
    (attached : Option Attached) (rest : List (Argument α)) :
    Except UsageError (Expansion α × List (Argument α)) := do
  let expansion ← match attached with
    | none => .ok (.single option)
    | some ⟨assigned, text⟩ => expandText options option name assigned text.toList
  if expansion.waits then
    match rest with
    | .plain value :: rest =>
      return ({ expansion with given := withLastValue value expansion.given }, rest)
    | _ => throw (.valueMissing name)
  else return (expansion, rest)

end Logicless.CommandLine
