import Logicless.Template.Token

/-!
A place in a list of tokens that only moves forward. Places below zero count from the end of the
list.
-/

set_option autoImplicit false

namespace Logicless.Template

structure Cursor where
  tokens : List Token
  position : Int
deriving Repr

namespace Cursor

def isAtEnd (cursor : Cursor) : Bool := cursor.tokens.length ≤ cursor.position

def current? (cursor : Cursor) : Option Token :=
  if 0 ≤ cursor.position then cursor.tokens[cursor.position.toNat]?
  else
    let fromEnd := cursor.position + cursor.tokens.length
    if 0 ≤ fromEnd then cursor.tokens[fromEnd.toNat]? else none

/-- The token at a place, and the cursor behind it. -/
def advance? (cursor : Cursor) : Option (Token × Cursor) :=
  cursor.current?.map fun token => (token, { cursor with position := cursor.position + 1 })

/-- Moved on as long as it is not at the end, a cursor meets these tokens: there is one wherever it
looks. -/
inductive Reads : Cursor → List Token → Prop where
  | done {cursor : Cursor} (ended : cursor.isAtEnd = true) : Reads cursor []
  | token {cursor next : Cursor} {token : Token} {rest : List Token}
    (inside : cursor.isAtEnd = false) (moved : cursor.advance? = some (token, next))
    (behind : Reads next rest) : Reads cursor (token :: rest)

/-- Behind some tokens a cursor reads the others. -/
theorem reads_append (before rest : List Token) : Reads ⟨before ++ rest, before.length⟩ rest := by
  induction rest generalizing before with
  | nil =>
      apply Reads.done
      rw [isAtEnd, List.append_nil]
      exact decide_eq_true (Int.le_refl _)
  | cons token rest ih =>
      have behind := ih (before ++ [token])
      rw [List.append_assoc, List.singleton_append, List.length_append] at behind
      have shorter : before.length < (before ++ token :: rest).length := by simp
      refine .token ?_ ?_ behind
      · exact decide_eq_false (Int.not_le.mpr (Int.ofNat_lt.mpr shorter))
      · simp [advance?, current?]

/-- From the first token on, a cursor reads all tokens in order. -/
theorem reads_start (tokens : List Token) : Reads ⟨tokens, 0⟩ tokens := reads_append [] tokens

end Cursor

end Logicless.Template
