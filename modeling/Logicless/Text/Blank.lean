/-!
Blank characters, and a text without the blanks around it.
-/

set_option autoImplicit false

namespace Logicless.Text

/-- The white space of Unicode. -/
def isWhite (c : Char) : Bool :=
  let n := c.toNat
  (0x09 ≤ n && n ≤ 0x0D) || n == 0x20 || n == 0x85 || n == 0xA0 || n == 0x1680 ||
    (0x2000 ≤ n && n ≤ 0x200A) || n == 0x2028 || n == 0x2029 || n == 0x202F || n == 0x205F ||
    n == 0x3000

/-- The white space of Unicode together with the four information separators. -/
def isBlank (c : Char) : Bool := isWhite c || (0x1C ≤ c.toNat && c.toNat ≤ 0x1F)

/-- A text without the characters of a class at its end. -/
def dropEndOf (inClass : Char → Bool) (cs : List Char) : List Char :=
  (cs.reverse.dropWhile inClass).reverse

/-- A text without the characters of a class at its start and its end. -/
def dropAroundOf (inClass : Char → Bool) (cs : List Char) : List Char :=
  dropEndOf inClass (cs.dropWhile inClass)

def trimRight (cs : List Char) : List Char := dropEndOf isBlank cs

def trim (cs : List Char) : List Char := dropAroundOf isBlank cs

theorem trim_sublist (cs : List Char) : (trim cs).Sublist cs := by
  unfold trim dropAroundOf dropEndOf
  have ending := (List.dropWhile_sublist isBlank (l := (cs.dropWhile isBlank).reverse)).reverse
  rw [List.reverse_reverse] at ending
  exact ending.trans (List.dropWhile_sublist isBlank)

theorem mem_of_mem_trim {c : Char} {cs : List Char} (kept : c ∈ trim cs) : c ∈ cs :=
  (trim_sublist cs).mem kept

/-- Neither the first nor the last character is a blank. -/
structure IsTrimmed (cs : List Char) : Prop where
  first : ∀ c, cs.head? = some c → isBlank c = false
  last : ∀ c, cs.getLast? = some c → isBlank c = false

theorem not_of_head?_dropWhile {inClass : Char → Bool} {cs : List Char} {c : Char}
    (first : (cs.dropWhile inClass).head? = some c) : inClass c = false := by
  have stopped := List.head?_dropWhile_not inClass cs
  rw [first] at stopped
  exact stopped

theorem dropWhile_of_first {inClass : Char → Bool} {cs : List Char}
    (first : ∀ c, cs.head? = some c → inClass c = false) : cs.dropWhile inClass = cs := by
  cases cs with
  | nil => rfl
  | cons c cs =>
      apply List.dropWhile_cons_of_neg
      rw [first c rfl]
      exact Bool.false_ne_true

theorem dropWhile_of_none {inClass : Char → Bool} {cs : List Char}
    (none : ∀ c ∈ cs, inClass c = false) : cs.dropWhile inClass = cs :=
  dropWhile_of_first fun c first => none c (List.mem_of_mem_head? first)

/-- A text without characters of a class has none of them to lose. -/
theorem dropAroundOf_of_none {inClass : Char → Bool} {cs : List Char}
    (none : ∀ c ∈ cs, inClass c = false) : dropAroundOf inClass cs = cs := by
  have reversed : ∀ c ∈ cs.reverse, inClass c = false :=
    fun c among => none c (List.mem_reverse.mp among)
  rw [dropAroundOf, dropEndOf, dropWhile_of_none none, dropWhile_of_none reversed,
    List.reverse_reverse]

theorem isTrimmed_trim (cs : List Char) : IsTrimmed (trim cs) := by
  constructor
  · intro c first
    obtain ⟨dropped, split⟩ : trim cs <+: cs.dropWhile isBlank := by
      rw [← List.reverse_suffix]
      unfold trim dropAroundOf dropEndOf
      rw [List.reverse_reverse]
      exact List.dropWhile_suffix isBlank
    have start : (cs.dropWhile isBlank).head? = some c := by
      rw [← split, List.head?_append, first]
      rfl
    exact not_of_head?_dropWhile start
  · intro c last
    unfold trim dropAroundOf dropEndOf at last
    rw [List.getLast?_reverse] at last
    exact not_of_head?_dropWhile last

/-- A text without blanks around it has none of them to lose. -/
theorem IsTrimmed.trim_eq {cs : List Char} (trimmed : IsTrimmed cs) : trim cs = cs := by
  have reversed : ∀ c, cs.reverse.head? = some c → isBlank c = false := by
    intro c first
    rw [List.head?_reverse] at first
    exact trimmed.last c first
  rw [trim, dropAroundOf, dropEndOf, dropWhile_of_first trimmed.first,
    dropWhile_of_first reversed, List.reverse_reverse]

end Logicless.Text
