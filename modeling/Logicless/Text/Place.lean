/-!
Places in a text. A place counts the characters before it; a line ends with a line feed and with
nothing else; lines and columns start at one.
-/

set_option autoImplicit false

namespace Logicless.Text

structure Place where
  offset : Nat
  line : Nat
  column : Nat
deriving Repr, DecidableEq

namespace Place

def start : Place := ⟨0, 1, 1⟩

/-- The place behind one more character. -/
def step (place : Place) (c : Char) : Place :=
  if c = '\n' then ⟨place.offset + 1, place.line + 1, 1⟩
  else ⟨place.offset + 1, place.line, place.column + 1⟩

/-- The place behind a text that starts at `place`. -/
def advance (place : Place) (consumed : List Char) : Place := consumed.foldl step place

@[simp] theorem advance_nil (place : Place) : place.advance [] = place := rfl

@[simp] theorem advance_cons (place : Place) (c : Char) (rest : List Char) :
    place.advance (c :: rest) = (place.step c).advance rest := rfl

theorem advance_append (place : Place) (first second : List Char) :
    place.advance (first ++ second) = (place.advance first).advance second :=
  List.foldl_append

theorem step_offset (place : Place) (c : Char) : (place.step c).offset = place.offset + 1 := by
  unfold step
  split <;> rfl

/-- The offset counts the characters. -/
theorem advance_offset (place : Place) (consumed : List Char) :
    (place.advance consumed).offset = place.offset + consumed.length := by
  induction consumed generalizing place with
  | nil => rfl
  | cons c rest ih =>
      rw [advance_cons, ih, step_offset, List.length_cons]
      omega

end Place

end Logicless.Text
