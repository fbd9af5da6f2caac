import Logicless.Proofs.Json.Complete

/-!
The canonical text of a tree: its lexemes in their canonical form without white space. It is a
layout of the tree, and it is put together in the same way as the text of a document.
-/

set_option autoImplicit false

namespace Logicless.Json

/-- A lexeme with text of its own has characters that stand outside of strings. -/
def Lexeme.IsSober : Lexeme → Prop
  | .plain text => IsPlain text
  | .string _ => True

theorem isSober_mark {c : Char} (isPlain : isPlainChar c = true) : (Lexeme.mark c).IsSober := by
  refine ⟨List.cons_ne_nil c [], fun other among => ?_⟩
  cases List.mem_singleton.mp among
  exact isPlain

theorem laid_canonical {lexemes : List Lexeme} (sober : ∀ lexeme ∈ lexemes, lexeme.IsSober) :
    Laid lexemes (lexemes.flatMap Lexeme.canonical) := by
  induction lexemes with
  | nil => exact .done
  | cons lexeme lexemes ih =>
      obtain ⟨first, others⟩ := List.forall_mem_cons.mp sober
      have rest := ih others
      cases lexeme with
      | plain text => exact .plain first rest
      | string text =>
          have split : (Lexeme.string text :: lexemes).flatMap Lexeme.canonical =
              '"' :: (text.flatMap literalChar ++ '"' :: lexemes.flatMap Lexeme.canonical) := by
            simp [Lexeme.canonical, literal]
          rw [split]
          exact .string (spelledString_literal text _) rest

namespace Tree

/-- The text of a tree without white space, with its strings in their canonical literals. -/
def canonical (tree : Tree) : List Char := tree.lexemes.flatMap Lexeme.canonical

mutual

theorem isSober_lexemes (tree : Tree) : ∀ lexeme ∈ tree.lexemes, lexeme.IsSober := by
  match tree with
  | .null =>
      intro lexeme among
      cases List.mem_singleton.mp among
      exact isPlain_null
  | .bool value =>
      intro lexeme among
      cases List.mem_singleton.mp among
      exact isPlain_boolText value
  | .number form =>
      intro lexeme among
      cases List.mem_singleton.mp among
      exact form.isPlain
  | .string text =>
      intro lexeme among
      cases List.mem_singleton.mp among
      trivial
  | .array items =>
      have inside := isSober_itemLexemes items
      simp only [lexemes, List.mem_cons, List.mem_append, List.not_mem_nil, or_false]
      rintro lexeme (rfl | among | rfl)
      · exact isSober_mark rfl
      · exact inside lexeme among
      · exact isSober_mark rfl
  | .object members =>
      have inside := isSober_memberLexemes members
      simp only [lexemes, List.mem_cons, List.mem_append, List.not_mem_nil, or_false]
      rintro lexeme (rfl | among | rfl)
      · exact isSober_mark rfl
      · exact inside lexeme among
      · exact isSober_mark rfl

theorem isSober_itemLexemes (items : List Tree) :
    ∀ lexeme ∈ itemLexemes items, lexeme.IsSober := by
  match items with
  | [] => nofun
  | [item] => exact isSober_lexemes item
  | item :: next :: rest =>
      have first := isSober_lexemes item
      have others := isSober_itemLexemes (next :: rest)
      simp only [itemLexemes, List.mem_cons, List.mem_append]
      rintro lexeme (among | rfl | among)
      · exact first lexeme among
      · exact isSober_mark rfl
      · exact others lexeme among

theorem isSober_memberLexemes (members : List (List Char × Tree)) :
    ∀ lexeme ∈ memberLexemes members, lexeme.IsSober := by
  match members with
  | [] => nofun
  | [(name, value)] =>
      have only := isSober_lexemes value
      simp only [memberLexemes, List.mem_cons]
      rintro lexeme (rfl | rfl | among)
      · trivial
      · exact isSober_mark rfl
      · exact only lexeme among
  | (name, value) :: next :: rest =>
      have first := isSober_lexemes value
      have others := isSober_memberLexemes (next :: rest)
      simp only [memberLexemes, List.mem_cons, List.mem_append]
      rintro lexeme (rfl | rfl | among | rfl | among)
      · trivial
      · exact isSober_mark rfl
      · exact first lexeme among
      · exact isSober_mark rfl
      · exact others lexeme among

end

/-- The canonical text of a tree is a layout of it. -/
theorem laid_canonical (tree : Tree) : Laid tree.lexemes tree.canonical :=
  Json.laid_canonical tree.isSober_lexemes

theorem flatMap_itemLexemes (items : List Tree) :
    (itemLexemes items).flatMap Lexeme.canonical = joinWith [','] (items.map canonical) := by
  match items with
  | [] => rfl
  | [item] => rfl
  | item :: next :: rest =>
      have others := flatMap_itemLexemes (next :: rest)
      rw [itemLexemes, List.flatMap_append, List.flatMap_cons, others]
      simp [joinWith, canonical, Lexeme.canonical, Lexeme.mark]

def canonicalMember (member : List Char × Tree) : List Char :=
  literal member.1 ++ ':' :: member.2.canonical

theorem flatMap_memberLexemes (members : List (List Char × Tree)) :
    (memberLexemes members).flatMap Lexeme.canonical =
      joinWith [','] (members.map canonicalMember) := by
  match members with
  | [] => rfl
  | [(name, value)] => rfl
  | (name, value) :: next :: rest =>
      have others := flatMap_memberLexemes (next :: rest)
      rw [memberLexemes, List.flatMap_cons, List.flatMap_cons, List.flatMap_append,
        List.flatMap_cons, others]
      simp [joinWith, canonicalMember, canonical, Lexeme.canonical, Lexeme.mark]

theorem canonical_array (items : List Tree) :
    (array items).canonical = '[' :: joinWith [','] (items.map canonical) ++ [']'] := by
  rw [canonical, lexemes, List.flatMap_cons, List.flatMap_append, flatMap_itemLexemes]
  rfl

theorem canonical_object (members : List (List Char × Tree)) :
    (object members).canonical = '{' :: joinWith [','] (members.map canonicalMember) ++ ['}'] := by
  rw [canonical, lexemes, List.flatMap_cons, List.flatMap_append, flatMap_memberLexemes]
  rfl

end Tree

end Logicless.Json
