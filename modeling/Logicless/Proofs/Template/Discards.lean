import Logicless.Template.Parse

/-!
Closing tags that a lenient parse discards. Such a parse gives a notice of each of them, in the order
of the tokens. A strict parse has the outcome of the lenient one if there is no such notice, and
refuses the closing tag of the first one otherwise, however deep it stands in open sections and
whatever happens to the lenient parse behind it.
-/

set_option autoImplicit false

namespace Logicless.Template

open Reported

/-- The closing tag that a notice says was discarded, and the name of the section that was open. -/
def ParseNotice.discarded? : ParseNotice → Option (Token × String)
  | .closeDiscarded token openName => some (token, openName)
  | .invertedDropped _ | .closedAtEnd _ => none

section

variable {α β : Type}

/-- The closing tags that a parse discards, each with the name of the section that was open. -/
def discards (parsing : Reported ParseNotice ParseError α) : List (Token × String) :=
  parsing.notices.filterMap ParseNotice.discarded?

/-- The outcome of a parse if its first discarded closing tag is refused instead. -/
def refusing (parsing : Reported ParseNotice ParseError α) : Except ParseError α :=
  match discards parsing with
  | [] => parsing.result
  | (token, openName) :: _ => .error (.mismatchedClose token openName)

@[simp] theorem discards_pure (value : α) :
    discards (pure value : Reported ParseNotice ParseError α) = [] := rfl

@[simp] theorem discards_fail (error : ParseError) :
    discards (fail error : Reported ParseNotice ParseError α) = [] := rfl

@[simp] theorem discards_note (notice : ParseNotice) :
    discards (note notice : Reported ParseNotice ParseError Unit) = notice.discarded?.toList := by
  cases notice <;> rfl

/-- A parse that goes on discards more, unless it has failed. -/
theorem discards_bind (parsing : Reported ParseNotice ParseError α)
    (next : α → Reported ParseNotice ParseError β) :
    discards (parsing >>= next) =
      discards parsing ++
        match parsing.result with
        | .ok value => discards (next value)
        | .error _ => [] := by
  obtain ⟨notices, result⟩ := parsing
  cases result with
  | ok value => exact List.filterMap_append
  | error failure => exact (List.append_nil _).symm

@[simp] theorem refusing_pure (value : α) :
    refusing (pure value : Reported ParseNotice ParseError α) = .ok value := rfl

@[simp] theorem refusing_fail (error : ParseError) :
    refusing (fail error : Reported ParseNotice ParseError α) = .error error := rfl

/-- To refuse the first closing tag that is discarded in two parses one behind the other is to refuse
that of the first parse, or else that of the second. -/
theorem refusing_bind (parsing : Reported ParseNotice ParseError α)
    (next : α → Reported ParseNotice ParseError β) :
    refusing (parsing >>= next) = (refusing parsing).bind fun value => refusing (next value) := by
  unfold refusing
  rw [discards_bind, result_bind]
  cases discards parsing with
  | nil => cases parsing.result <;> rfl
  | cons first later => rfl

end

/-- A strict parse of a section is the lenient one, refused at the first closing tag that this one
discards. -/
theorem parseSection_strict (name : String) (tokens : List Token) :
    (parseSection { strict := true } name tokens).result = refusing (parseSection {} name tokens) := by
  induction name, tokens using parseSection.induct {} with
  | case1 name named =>
      unfold parseSection
      rw [if_pos named]
      rfl
  | case2 name unnamed =>
      unfold parseSection
      rw [if_neg unnamed]
      rfl
  | case3 name token rest kind ih | case4 name token rest kind ih | case5 name token rest kind ih
  | case6 name token rest kind ih =>
      unfold parseSection
      simp only [kind, result_bind, refusing_bind, ih, result_pure, refusing_pure]
  | case7 name token rest kind ih =>
      unfold parseSection
      simp only [kind, result_bind, refusing_bind, ih, result_pure, refusing_pure, result_note]
      rfl
  | case8 name token rest kind inner outer =>
      unfold parseSection
      simp only [kind, result_bind, refusing_bind, inner, outer, result_pure, refusing_pure]
  | case9 token rest kind =>
      unfold parseSection
      simp only [kind, ↓reduceIte, result_pure, refusing_pure]
  | case10 name token rest kind other impossible => cases impossible
  | case11 name token rest kind other lenient ih =>
      -- The strict parse ends here, and the lenient one gives the first notice of all here.
      unfold parseSection
      simp only [kind, other, ↓reduceIte, result_fail]
      rfl
  | case12 name token rest foreign kind =>
      unfold parseSection
      simp only [kind, result_fail, refusing_fail]

/-- The closing tags that the parse of a section discards, followed by the tokens behind the section.
A parse that fails looks at no tokens behind its failure. -/
def discardsAndRest {bound : Nat} (parsing : Reported ParseNotice ParseError (Ended bound)) :
    List Token :=
  (discards parsing).map Prod.fst ++
    match parsing.result with
    | .ok ended => ended.rest
    | .error _ => []

theorem discardsAndRest_note {bound : Nat} (notice : ParseNotice)
    (parsing : Reported ParseNotice ParseError (Ended bound)) :
    discardsAndRest (note notice >>= fun _ => parsing) =
      notice.discarded?.toList.map Prod.fst ++ discardsAndRest parsing := by
  rw [discardsAndRest, discards_bind, result_bind, discards_note, List.map_append, List.append_assoc]
  rfl

/-- A parse that goes on behind a section finds all that it discards behind the section. -/
theorem discardsAndRest_bind {bound wider : Nat}
    {parsing : Reported ParseNotice ParseError (Ended bound)}
    {next : Ended bound → Reported ParseNotice ParseError (Ended wider)}
    (behind : ∀ ended, (discardsAndRest (next ended)).Sublist ended.rest) :
    (discardsAndRest (parsing >>= next)).Sublist (discardsAndRest parsing) := by
  rw [discardsAndRest, discards_bind, result_bind, List.map_append, List.append_assoc]
  apply List.Sublist.append_left
  cases parsing.result with
  | ok ended => exact behind ended
  | error failure => exact List.Sublist.refl _

/-- What a section discards stands among its tokens, in this order and before the tokens behind. -/
theorem discardsAndRest_parseSection (name : String) (tokens : List Token) :
    (discardsAndRest (parseSection {} name tokens)).Sublist tokens := by
  induction name, tokens using parseSection.induct {} with
  | case1 name named =>
      unfold parseSection
      rw [if_pos named]
      exact List.Sublist.refl _
  | case2 name unnamed =>
      unfold parseSection
      rw [if_neg unnamed]
      exact List.Sublist.refl _
  | case3 name token rest kind ih | case4 name token rest kind ih | case5 name token rest kind ih
  | case6 name token rest kind ih =>
      unfold parseSection
      simp only [kind]
      refine .trans (discardsAndRest_bind fun ended => ?_) (.cons token ih)
      exact List.Sublist.refl _
  | case7 name token rest kind ih =>
      unfold parseSection
      simp only [kind, discardsAndRest_note]
      refine .trans (discardsAndRest_bind fun ended => ?_) (.cons token ih)
      exact List.Sublist.refl _
  | case8 name token rest kind inner outer =>
      unfold parseSection
      simp only [kind]
      refine .trans (discardsAndRest_bind fun entered => ?_) (.cons token inner)
      refine .trans (discardsAndRest_bind fun ended => ?_) (outer entered)
      exact List.Sublist.refl _
  | case9 token rest kind =>
      unfold parseSection
      simp only [kind, ↓reduceIte]
      exact List.sublist_cons_self token rest
  | case10 name token rest kind other impossible => cases impossible
  | case11 name token rest kind other lenient ih =>
      unfold parseSection
      simp only [kind, other, ↓reduceIte, Bool.false_eq_true, discardsAndRest_note]
      refine .cons_cons token (.trans (discardsAndRest_bind fun ended => ?_) ih)
      exact List.Sublist.refl _
  | case12 name token rest foreign kind =>
      unfold parseSection
      simp only [kind]
      exact List.nil_sublist _

theorem discards_parseTokens (tokens : List Token) :
    discards (parseTokens {} tokens) = discards (parseSection {} "" tokens) := by
  rw [parseTokens, discards_bind]
  cases (parseSection {} "" tokens).result <;> exact List.append_nil _

theorem parseTokens_refusing (tokens : List Token) :
    (parseTokens { strict := true } tokens).result = refusing (parseTokens {} tokens) := by
  rw [parseTokens, parseTokens, refusing_bind, result_bind, parseSection_strict]
  rfl

theorem refusing_eq_ok_iff {α : Type} (parsing : Reported ParseNotice ParseError α) (value : α) :
    refusing parsing = .ok value ↔ parsing.result = .ok value ∧ discards parsing = [] := by
  unfold refusing
  cases discards parsing with
  | nil => exact ⟨fun given => ⟨given, rfl⟩, And.left⟩
  | cons first later => exact ⟨nofun, nofun⟩

/-- Strict parsing is lenient parsing but for the closing tags that the latter discards. Without such
tags both have the same outcome, a failure included; otherwise strict parsing refuses the first of
them in the order of the tokens. So it gives nodes exactly where lenient parsing gives the same nodes
and discards nothing. -/
theorem parseTokens_strict (tokens : List Token) :
    (parseTokens { strict := true } tokens).result =
        (match discards (parseTokens {} tokens) with
          | [] => (parseTokens {} tokens).result
          | (token, openName) :: _ => .error (.mismatchedClose token openName)) ∧
      ((discards (parseTokens {} tokens)).map Prod.fst).Sublist tokens ∧
      ∀ nodes, (parseTokens { strict := true } tokens).result = .ok nodes ↔
        (parseTokens {} tokens).result = .ok nodes ∧ discards (parseTokens {} tokens) = [] := by
  refine ⟨parseTokens_refusing tokens, ?_, fun nodes => ?_⟩
  · rw [discards_parseTokens]
    exact .trans (List.sublist_append_left _ _) (discardsAndRest_parseSection "" tokens)
  · rw [parseTokens_refusing]
    exact refusing_eq_ok_iff _ nodes

end Logicless.Template
