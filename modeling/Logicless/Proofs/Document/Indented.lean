import Logicless.Document.Text
import Logicless.Proofs.Document.Minimal

/-!
JSON that is laid out over lines. The line breaks and the blanks stand between the lexemes, so what is
read from the lines is what is read from the same lexemes without them. A document of texts, truth
values, lists and objects comes back as it was.
-/

set_option autoImplicit false

namespace Logicless

open Json Number

namespace Json

/-- A text is made up of lexemes, whatever follows it. -/
def Spells (lexemes : List Lexeme) (text : List Char) : Prop :=
  ∀ behind, LaidUpTo lexemes (text ++ behind) behind

namespace Spells

variable {lexemes others : List Lexeme} {text other : List Char}

theorem append (first : Spells lexemes text) (second : Spells others other) :
    Spells (lexemes ++ others) (text ++ other) := by
  intro behind
  rw [List.append_assoc]
  exact (first _).append (second behind)

theorem plain (isPlain : IsPlain text) : Spells [.plain text] text :=
  fun _ _ rest => .plain isPlain rest

theorem mark {c : Char} (isPlain : isPlainChar c = true) : Spells [.mark c] [c] :=
  plain ⟨List.cons_ne_nil c [], by simpa using isPlain⟩

theorem literal (text : List Char) : Spells [.string text] (literal text) := by
  intro behind
  have split : Json.literal text ++ behind = '"' :: (text.flatMap literalChar ++ '"' :: behind) := by
    simp [Json.literal]
  rw [split]
  exact .string (spelledString_literal text behind)

theorem blank {c : Char} (isBlank : isSpace c = true) (spells : Spells lexemes text) :
    Spells lexemes (c :: text) :=
  fun behind more rest => .space isBlank (spells behind more rest)

theorem newline (depth : Nat) (spells : Spells lexemes text) :
    Spells lexemes (Document.newline depth ++ text) := by
  have blanks : Spells lexemes (List.replicate (2 * depth) ' ' ++ text) := by
    induction 2 * depth with
    | zero => exact spells
    | succ count ih => exact ih.blank rfl
  exact blanks.blank rfl

/-- Lexemes between two brackets, each bracket on a line of its own unless nothing stands between
them. -/
theorem bracketed {opening closing : Char} (plainOpening : isPlainChar opening = true)
    (plainClosing : isPlainChar closing = true) (depth : Nat) {texts : List (List Char)}
    (empty : texts = [] → lexemes = [])
    (filled : Spells lexemes (joinWith (',' :: Document.newline (depth + 1)) texts)) :
    Spells (.mark opening :: (lexemes ++ [.mark closing]))
      (Document.bracketed depth opening closing texts) := by
  have last := mark plainClosing
  cases texts with
  | nil =>
      rw [empty rfl]
      exact (mark plainOpening).append last
  | cons first rest =>
      have whole := (mark plainOpening).append
        ((filled.newline (depth + 1)).append (last.newline depth))
      simp only [List.singleton_append, List.append_assoc] at whole
      simpa [Document.bracketed] using whole

end Spells

end Json

namespace Document

mutual

def tree : Document → Tree
  | .null | .number _ => .null
  | .bool value => .bool value
  | .string text => .string text.toList
  | .array _ items => .array (itemTrees items)
  | .object members => .object (memberTrees members)

def itemTrees : List Document → List Tree
  | [] => []
  | item :: rest => tree item :: itemTrees rest

def memberTrees : List (String × Document) → List (List Char × Tree)
  | [] => []
  | (name, value) :: rest => (name.toList, tree value) :: memberTrees rest

end

/-- A document of truth values, texts, lists and objects that bind each name once. -/
inductive Textual : Document → Prop where
  | null : Textual .null
  | bool (value : Bool) : Textual (.bool value)
  | string (text : String) : Textual (.string text)
  | list {items : List Document} (each : ∀ item ∈ items, Textual item) : Textual (.array .list items)
  | object {members : List (String × Document)} (names : (members.map (·.1)).Nodup)
    (each : ∀ member ∈ members, Textual member.2) : Textual (.object members)

theorem itemTrees_eq_map (items : List Document) : itemTrees items = items.map tree := by
  induction items with
  | nil => rfl
  | cons item items ih => rw [itemTrees, List.map_cons, ih]

theorem memberTrees_eq_map (members : List (String × Document)) :
    memberTrees members = members.map fun member => (member.1.toList, member.2.tree) := by
  induction members with
  | nil => rfl
  | cons member members ih => rw [memberTrees, List.map_cons, ih]

/-- The lines of a document, at any depth, are made up of the lexemes of a tree. -/
def LinesOf (tree : Tree) (document : Document) : Prop :=
  ∀ depth, Spells tree.lexemes (document.laidOut depth)

/-- The lines of a member: the name in front of the lines of the value. -/
def MemberLinesOf (member : List Char × Tree) (other : String × Document) : Prop :=
  other.1.toList = member.1 ∧ LinesOf member.2 other.2

theorem spells_items {trees : List Tree} {items : List Document}
    (each : List.Forall₂ LinesOf trees items) (depth : Nat) :
    Spells (Tree.itemLexemes trees) (joinWith (',' :: newline depth) (laidOutItems depth items)) := by
  induction each with
  | nil => exact fun _ _ rest => rest
  | cons first others ih =>
      cases others with
      | nil => exact first depth
      | cons next rest =>
          have comma : Spells [.mark ','] [','] := .mark rfl
          have whole := (first depth).append (comma.append (ih.newline depth))
          simpa [Tree.itemLexemes, laidOutItems, joinWith] using whole

theorem spells_members {trees : List (List Char × Tree)} {members : List (String × Document)}
    (each : List.Forall₂ MemberLinesOf trees members) (depth : Nat) :
    Spells (Tree.memberLexemes trees)
      (joinWith (',' :: newline depth) (laidOutMembers depth members)) := by
  have colon : Spells [.mark ':'] [':'] := .mark rfl
  induction each with
  | nil => exact fun _ _ rest => rest
  | @cons tree member trees members first others ih =>
      obtain ⟨name, lines⟩ := first
      have value : Spells tree.2.lexemes (' ' :: member.2.laidOut depth) := (lines depth).blank rfl
      have bound := (Spells.literal tree.1).append (colon.append value)
      rw [← name] at bound
      cases others with
      | nil => simpa [Tree.memberLexemes, laidOutMembers, joinWith, name] using bound
      | cons next rest =>
          have comma : Spells [.mark ','] [','] := .mark rfl
          have whole := bound.append (comma.append (ih.newline depth))
          simpa [Tree.memberLexemes, laidOutMembers, joinWith, name] using whole

theorem linesOf_array {trees : List Tree} {items : List Document}
    (each : List.Forall₂ LinesOf trees items) (form : ArrayForm) :
    LinesOf (.array trees) (.array form items) := by
  intro depth
  refine .bracketed rfl rfl depth (fun empty => ?_) (spells_items each (depth + 1))
  cases each with
  | nil => rfl
  | cons first others => cases empty

theorem linesOf_object {trees : List (List Char × Tree)} {members : List (String × Document)}
    (each : List.Forall₂ MemberLinesOf trees members) : LinesOf (.object trees) (.object members) := by
  intro depth
  refine .bracketed rfl rfl depth (fun empty => ?_) (spells_members each (depth + 1))
  cases each with
  | nil => rfl
  | cons first others => cases empty

/-- The lines of a document are made up of the lexemes of its tree. -/
theorem Textual.linesOf {document : Document} (textual : document.Textual) :
    LinesOf document.tree document := by
  induction textual with
  | null => exact fun _ => .plain isPlain_null
  | bool value => exact fun _ => .plain (isPlain_boolText value)
  | string text => exact fun _ => .literal text.toList
  | @list items each ih =>
      rw [tree, itemTrees_eq_map]
      exact linesOf_array (List.forall₂_map_left_iff.mpr (List.forall₂_same.mpr ih)) .list
  | @object members names each ih =>
      rw [tree, memberTrees_eq_map]
      refine linesOf_object (List.forall₂_map_left_iff.mpr (List.forall₂_same.mpr ?_))
      exact fun member among => ⟨rfl, ih member among⟩

/-- A document is read from its own tree. -/
theorem Textual.gives {document : Document} (textual : document.Textual) (limit : Option Nat) :
    Gives limit document.tree document := by
  induction textual with
  | null => exact ⟨_, rfl, fun _ => rfl⟩
  | bool value => exact ⟨_, rfl, fun _ => rfl⟩
  | string text =>
      refine ⟨_, rfl, fun path => ?_⟩
      rw [String.ofList_toList]
      rfl
  | @list items each ih =>
      rw [tree, itemTrees_eq_map]
      exact gives_array (List.forall₂_map_left_iff.mpr (List.forall₂_same.mpr ih))
  | @object members names each ih =>
      rw [tree, memberTrees_eq_map]
      refine gives_object (List.forall₂_map_left_iff.mpr (List.forall₂_same.mpr ?_)) ?_
      · exact fun member among => ⟨rfl, ih member among⟩
      · rw [List.map_map]
        exact nodup_toList names

end Document

end Logicless
