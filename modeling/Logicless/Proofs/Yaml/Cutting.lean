import Logicless.Proofs.Json.NumberValue
import Logicless.Proofs.Number.Digits
import Logicless.Proofs.Reading
import Logicless.Yaml.Token.Block
import Logicless.Yaml.Token.Plain
import Logicless.Yaml.Token.Property
import Logicless.Yaml.Token.Quoted

/-!
How cutting single tokens off a YAML text fails. Every part of a token is read from where the one
before it ended, and what is left to read stays an end of the text. Faults of form apart, an escape
may name no character, and the version of a directive may have too many digits.
-/

set_option autoImplicit false

namespace Logicless.Yaml

open Number

inductive CutFault (cs : List Char) : Error → Prop where
  | malformed : CutFault cs .malformed
  /-- An escape by eight digits, beyond the last code point. -/
  | codePoint {digits : List Char} (written : '\\' :: 'U' :: digits <:+: cs)
    (isEscape : codePoint? 8 digits = some (ofDigits 16 digits))
    (beyond : 0x10FFFF < ofDigits 16 digits) : CutFault cs (.codePoint (ofDigits 16 digits))
  /-- A number in the directive of a version. -/
  | version {rest : List Char} {count : Nat} (written : "%YAML".toList ++ rest <:+ cs)
    (long : HoldsLongNumber maxDecimalDigits rest count) :
    CutFault cs (.number (.tooManyDigits maxDecimalDigits count))

namespace Head

@[simp] theorem step_rest (head : Head) : head.step.rest = head.rest.tail := by
  unfold step
  split
  · rename_i empty
    rw [empty, List.tail_nil]
  · rename_i c rest start
    split
    · rw [start, List.tail_cons]
    · split <;> rw [start, List.tail_cons]

@[simp] theorem advance_rest (head : Head) (count : Nat) :
    (head.advance count).rest = head.rest.drop count := by
  induction count generalizing head with
  | zero => rfl
  | succ count ih => rw [advance, ih, step_rest, List.drop_tail]

/-- What is left to read is an end of a text. -/
def Within (cs : List Char) (head : Head) : Prop := head.rest <:+ cs

variable {cs : List Char} {head : Head}

theorem Within.step (within : head.Within cs) : head.step.Within cs := by
  rw [Within, step_rest]
  exact (List.tail_suffix head.rest).trans within

theorem Within.advance (within : head.Within cs) (count : Nat) :
    (head.advance count).Within cs := by
  rw [Within, advance_rest]
  exact (List.drop_suffix count head.rest).trans within

theorem Within.takeWhile (within : head.Within cs) (inClass : Char → Bool) :
    (head.takeWhile inClass).2.Within cs :=
  within.advance _

theorem Within.skipWhile (within : head.Within cs) (inClass : Char → Bool) :
    (head.skipWhile inClass).Within cs :=
  within.takeWhile inClass

theorem Within.lineBreak (within : head.Within cs) : head.lineBreak.2.Within cs := by
  unfold Head.lineBreak
  split
  · exact within.advance 2
  · split
    · exact within.step
    · split
      · exact within.step
      · exact within
  · exact within

end Head

/-- A token that was cut off, other than the place of a fault. -/
def Token.IsCut (token : Token) : Prop := ∀ error, token ≠ .fault error

section

variable {cs : List Char} {head : Head}

end

end Logicless.Yaml
