import Logicless.Document.Equality
import Logicless.Proofs.Document.Names
import Mathlib.Data.List.Perm.Subperm

/-!
Equal documents seen from inside. Whatever the same steps lead to in two equal documents is equal
again, but for one case: below the top a truth value counts as the number one or zero, and where one
document has a truth value the other may have that number. Steps lead on from both or from neither.
-/

set_option autoImplicit false

namespace Logicless.Document

open Number

/-- What stands in one place of two equal documents: equal documents, or a truth value and its
number, which are of different kinds. -/
inductive Alike : Document → Document → Prop where
  | same {first second : Document} (equal : first.same second = true) : Alike first second
  | truthNumber {value : Bool} {numeral : Numeral} (exact : numeral.exact = if value then 1 else 0) :
    Alike (.bool value) (.number numeral)
  | numberTruth {value : Bool} {numeral : Numeral} (exact : numeral.exact = if value then 1 else 0) :
    Alike (.number numeral) (.bool value)

/-- Below the top of a document, values are equal if they are alike. -/
theorem sameValue_iff_alike {first second : Document} :
    sameValue first second = true ↔ Alike first second := by
  constructor
  · intro equal
    by_cases kinds : first.kind = second.kind
    · exact .same (by rw [same, kinds, equal, beq_self_eq_true, Bool.and_self])
    · cases first with
      | bool value =>
          cases second with
          | number numeral => exact .truthNumber (by simpa [sameValue, exactValue?] using equal)
          | bool other => exact absurd rfl kinds
          | null | string | array | object => simp [sameValue, exactValue?] at equal
      | number numeral =>
          cases second with
          | bool value =>
              exact .numberTruth (Eq.symm (by simpa [sameValue, exactValue?] using equal))
          | number other => exact absurd rfl kinds
          | null | string | array | object => simp [sameValue, exactValue?] at equal
      | null | string | array | object =>
          cases second <;> simp_all [sameValue, kind]
  · intro alike
    cases alike with
    | same equal => exact (Bool.and_eq_true_iff.mp equal).2
    | truthNumber exact => simp [sameValue, exactValue?, exact]
    | numberTruth exact => simp [sameValue, exactValue?, exact]

theorem sameItems_iff {items others : List Document} :
    sameItems items others = true ↔ List.Forall₂ Alike items others := by
  induction items generalizing others with
  | nil => cases others <;> simp [sameItems]
  | cons item rest ih =>
      cases others with
      | nil => simp [sameItems]
      | cons other more =>
          rw [sameItems, Bool.and_eq_true, sameValue_iff_alike, ih, List.forall₂_cons]

theorem includedIn_iff {others members : List (String × Document)} :
    includedIn others members = true ↔
      ∀ member ∈ members, ∃ other, others.lookup member.1 = some other ∧ Alike member.2 other := by
  induction members with
  | nil => simp [includedIn]
  | cons member rest ih =>
      obtain ⟨name, value⟩ := member
      rw [includedIn, Bool.and_eq_true, ih, List.forall_mem_cons]
      refine and_congr_left fun _ => ?_
      cases others.lookup name with
      | none => simp
      | some other => simp [sameValue_iff_alike]

/-- Objects of as many members, each of which has one of its name in the other, bind the same names. -/
theorem names_perm {members others : List (String × Document)}
    (distinct : (members.map (·.1)).Nodup) (count : members.length = others.length)
    (included : includedIn others members = true) :
    (members.map (·.1)).Perm (others.map (·.1)) := by
  have sub : members.map (·.1) ⊆ others.map (·.1) := by
    intro name among
    obtain ⟨member, present, rfl⟩ := List.mem_map.mp among
    obtain ⟨other, found, -⟩ := includedIn_iff.mp included member present
    obtain ⟨before, behind, rfl, -⟩ := List.lookup_eq_some_iff.mp found
    simp
  refine (List.subperm_of_subset distinct sub).perm_of_length_le ?_
  rw [List.length_map, List.length_map]
  exact Nat.le_of_eq count.symm

theorem lookup_alike {members others : List (String × Document)}
    (distinct : (members.map (·.1)).Nodup) (count : members.length = others.length)
    (included : includedIn others members = true) (name : String) :
    Option.Rel Alike (members.lookup name) (others.lookup name) := by
  cases found : members.lookup name with
  | none =>
      have absent := lookup_eq_none_iff_not_mem.mp found
      rw [(names_perm distinct count included).mem_iff] at absent
      rw [lookup_eq_none_iff_not_mem.mpr absent]
      exact .none
  | some value =>
      obtain ⟨other, bound, alike⟩ := includedIn_iff.mp included _ (mem_of_lookup found)
      rw [bound]
      exact .some alike

def step? (document : Document) : PathStep → Option Document
  | .member name => document.get? name
  | .element index => document.elements.toOption.bind (·[index]?)

/-- What steps lead to, taken in order. -/
def follow? (document : Document) : List PathStep → Option Document
  | [] => some document
  | step :: rest => (document.step? step).bind fun part => part.follow? rest

theorem hasPart_of_step? {document part : Document} {step : PathStep}
    (found : document.step? step = some part) : document.HasPart part := by
  cases step with
  | member name => exact hasPart_of_get? found
  | element index =>
      cases document with
      | array form items => exact List.mem_of_getElem? found
      | null | bool | number | string | object => cases found

theorem Distinct.of_step? {document part : Document} {step : PathStep} (distinct : document.Distinct)
    (found : document.step? step = some part) : part.Distinct := by
  obtain ⟨-, each⟩ := distinct
  exact each part (hasPart_of_step? found)

/-- Equal objects bind the same names, each to values that are alike. -/
theorem get?_alike {first second : Document} (distinct : first.Distinct)
    (equal : first.same second = true) :
    first.names.Perm second.names ∧
      ∀ name, Option.Rel Alike (first.get? name) (second.get? name) := by
  obtain ⟨kinds, values⟩ := Bool.and_eq_true_iff.mp equal
  obtain ⟨nodup, -⟩ := distinct
  cases first with
  | object members =>
      cases second with
      | object others =>
          rw [sameValue, Bool.and_eq_true] at values
          have count := beq_iff_eq.mp values.1
          exact ⟨names_perm nodup count values.2, lookup_alike nodup count values.2⟩
      | null | bool | number | string | array => cases kinds
  | null | bool | number | string | array =>
      cases second with
      | object others => cases kinds
      | null | bool | number | string | array => exact ⟨.refl _, fun _ => .none⟩

/-- Equal arrays have as many elements, which are alike pair by pair. -/
theorem elements_alike {first second : Document} (equal : first.same second = true) :
    Option.Rel (List.Forall₂ Alike) first.elements.toOption second.elements.toOption := by
  obtain ⟨kinds, values⟩ := Bool.and_eq_true_iff.mp equal
  cases first with
  | array form items =>
      cases second with
      | array otherForm others =>
          rw [sameValue, Bool.and_eq_true, sameItems_iff] at values
          exact .some values.2
      | null | bool | number | string | object => cases kinds
  | null | bool | number | string | object =>
      cases second with
      | array form others => cases kinds
      | null | bool | number | string | object => exact .none

theorem getElem?_alike {items others : List Document} (alike : List.Forall₂ Alike items others)
    (index : Nat) : Option.Rel Alike items[index]? others[index]? := by
  induction alike generalizing index with
  | nil => exact .none
  | cons first _ ih =>
      cases index with
      | zero => exact .some first
      | succ index => exact ih index

/-- A step leads on from both of two that are alike, to values that are alike, or from neither. -/
theorem Alike.step? {first second : Document} (alike : Alike first second)
    (distinct : first.Distinct) (step : PathStep) :
    Option.Rel Alike (first.step? step) (second.step? step) := by
  cases alike with
  | same equal =>
      cases step with
      | member name => exact (get?_alike distinct equal).2 name
      | element index =>
          have listed := elements_alike equal
          rw [Document.step?, Document.step?]
          generalize first.elements.toOption = items, second.elements.toOption = others at listed ⊢
          cases listed with
          | none => exact .none
          | some each => exact getElem?_alike each index
  | truthNumber exact | numberTruth exact => cases step <;> exact .none

theorem Alike.follow? {first second : Document} (alike : Alike first second)
    (distinct : first.Distinct) (steps : List PathStep) :
    Option.Rel Alike (first.follow? steps) (second.follow? steps) := by
  induction steps generalizing first second with
  | nil => exact .some alike
  | cons step rest ih =>
      have onward := alike.step? distinct step
      rw [Document.follow?, Document.follow?]
      generalize second.step? step = reached at onward ⊢
      cases found : first.step? step with
      | none =>
          rw [found] at onward
          cases onward
          exact .none
      | some part =>
          rw [found] at onward
          cases onward with
          | some next => exact ih next (distinct.of_step? found)

/-- A truth value in one place and a number in the other. -/
def Crossed (first second : Document) : Prop :=
  first.kind = .bool ∧ second.kind = .number ∨ first.kind = .number ∧ second.kind = .bool

/-- Only where kinds are crossed are values alike and not equal. -/
theorem Alike.same_iff {first second : Document} (alike : Alike first second) :
    first.same second = true ↔ ¬ Crossed first second := by
  cases alike with
  | same equal =>
      have kinds := beq_iff_eq.mp (Bool.and_eq_true_iff.mp equal).1
      refine iff_of_true equal ?_
      rintro (⟨one, other⟩ | ⟨one, other⟩) <;> rw [one, other] at kinds <;> cases kinds
  | truthNumber exact => exact iff_of_false nofun (not_not_intro (.inl ⟨rfl, rfl⟩))
  | numberTruth exact => exact iff_of_false nofun (not_not_intro (.inr ⟨rfl, rfl⟩))

/-- Equal documents bind the same names to values that are alike, and have as many elements, which are
alike pair by pair. The same steps lead to nothing in both of them or to values that are alike. These
are equal, and of one kind, everywhere if and only if no steps lead to a truth value in one document
and to a number in the other. -/
theorem access_of_same {first second : Document} (distinct : first.Distinct)
    (equal : first.same second = true) :
    first.names.Perm second.names ∧
      (∀ name, Option.Rel Alike (first.get? name) (second.get? name)) ∧
      Option.Rel (List.Forall₂ Alike) first.elements.toOption second.elements.toOption ∧
      (∀ steps, Option.Rel Alike (first.follow? steps) (second.follow? steps)) ∧
      ((∀ steps, Option.Rel (fun part other => part.kind = other.kind ∧ part.same other = true)
          (first.follow? steps) (second.follow? steps)) ↔
        ∀ steps part other, first.follow? steps = some part → second.follow? steps = some other →
          ¬ Crossed part other) := by
  have everywhere := (Alike.same equal).follow? distinct
  obtain ⟨names, members⟩ := get?_alike distinct equal
  refine ⟨names, members, elements_alike equal, everywhere, ?_⟩
  constructor
  · intro whole steps part other found reached
    have pair := whole steps
    rw [found, reached] at pair
    cases pair with
    | some both => exact (Alike.same both.2).same_iff.mp both.2
  · intro straight steps
    have pair := everywhere steps
    cases found : first.follow? steps with
    | none =>
        rw [found] at pair
        generalize second.follow? steps = reached at pair ⊢
        cases pair
        exact .none
    | some part =>
        cases reached : second.follow? steps with
        | none =>
            rw [found, reached] at pair
            cases pair
        | some other =>
            rw [found, reached] at pair
            cases pair with
            | some alike =>
                have same := alike.same_iff.mpr (straight steps part other found reached)
                exact .some ⟨beq_iff_eq.mp (Bool.and_eq_true_iff.mp same).1, same⟩

/-- The members stand in another order, and a number stands where the other document has a truth value. -/
theorem access_of_same_reordered :
    let data := Datum.dict [(.scalar (.text "x"), .scalar (.int 1 none)),
      (.scalar (.text "y"), .list [.scalar (.bool true)])]
    let first := object [("x", .number (.int 1 none)), ("y", .array .list [.bool true])]
    let second := object [("y", .array .list [.number (.float ⟨false, 1, 0⟩ none)]),
      ("x", .number (.int 1 (some "1")))]
    Wraps data first ∧ first.Distinct ∧ first.same second = true ∧ first.names.Perm second.names ∧
      first.follow? [.member "y", .element 0] = some (.bool true) ∧
      Option.Rel Alike (first.follow? [.member "y", .element 0])
        (second.follow? [.member "y", .element 0]) := by
  intro data first second
  have single : (Datum.list [.scalar (.bool true)]).Distinct := by
    refine .intro .nil ?_
    simp only [Datum.HasPart, Datum.parts, List.mem_cons, List.not_mem_nil, or_false, forall_eq]
    exact .of_parts_nil rfl
  have keys : data.Distinct := by
    refine .intro (List.pairwise_pair.mpr rfl) ?_
    simp only [data, Datum.HasPart, Datum.parts, List.map_cons, List.map_nil, List.mem_cons,
      List.not_mem_nil, or_false, forall_eq_or_imp, forall_eq]
    exact ⟨.of_parts_nil rfl, single⟩
  have wraps : Wraps data first := ⟨[], rfl⟩
  have equal : first.same second = true := by decide
  obtain ⟨names, -, -, everywhere, -⟩ := access_of_same (wraps.distinct keys) equal
  exact ⟨wraps, wraps.distinct keys, equal, names, rfl, everywhere _⟩

/-- Data that are the same but for a truth value in the place of the number one are wrapped into equal
documents, and the members of these are of different kinds and not equal. -/
theorem same_with_crossed_members :
    let name := Key.scalar (.text "x")
    let number := Document.number (.int 1 none)
    let first := object [("x", number)]
    let second := object [("x", .bool true)]
    ofDatum (.dict [(name, .scalar (.int 1 none))]) = .ok first ∧
      ofDatum (.dict [(name, .scalar (.bool true))]) = .ok second ∧
      first.same second = true ∧ first.get? "x" = some number ∧
      second.get? "x" = some (.bool true) ∧ number.kind ≠ (Document.bool true).kind ∧
      number.same (.bool true) = false := by
  intro name number first second
  exact ⟨rfl, rfl, by decide, rfl, rfl, nofun, by decide⟩

end Logicless.Document
