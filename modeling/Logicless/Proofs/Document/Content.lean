import Logicless.Proofs.Document.Access
import Mathlib

/-!
Equality of documents as equality of what they hold. The content of a document forgets how its numbers
are spelled and in which order its members stand, and keeps everything else. Documents are equal if
and only if they are of one kind and of one content, so equality is an equivalence relation.
-/

set_option autoImplicit false

namespace Logicless

open Number

namespace Number

def Finite64.value (number : Finite64) : ℚ :=
  (if number.negative then -1 else 1) * number.significand * 2 ^ number.exponent

def Numeral.value : Numeral → ℚ
  | .int value _ => value
  | .float value _ => value.value

theorem Finite64.toRat_exact (number : Finite64) : number.exact.toRat = number.value := by
  rw [exact, value, Dyadic.toRat_ofIntWithPrec_eq_mul_two_pow, neg_neg]
  cases number.negative <;> simp

theorem Numeral.toRat_exact (numeral : Numeral) : numeral.exact.toRat = numeral.value := by
  cases numeral with
  | int value spelling =>
      rw [exact, Dyadic.toRat_ofIntWithPrec_eq_mul_two_pow, neg_zero, zpow_zero, mul_one]
      rfl
  | float value spelling => exact value.toRat_exact

end Number

/-- What a document holds. A truth value counts as one or zero, and an object is a function of names. -/
inductive Content where
  | null
  | number (value : ℚ)
  | string (text : String)
  | array (form : ArrayForm) (items : List Content)
  | object (members : String → Option Content)

namespace Document

mutual

def content : Document → Content
  | .null => .null
  | .bool value => .number (if value then 1 else 0)
  | .number numeral => .number numeral.value
  | .string text => .string text
  | .array form items => .array form (itemContents items)
  | .object members => .object (memberContents members)

def itemContents : List Document → List Content
  | [] => []
  | item :: rest => content item :: itemContents rest

def memberContents : List (String × Document) → String → Option Content
  | [], _ => none
  | (name, value) :: rest, asked =>
    if asked = name then some (content value) else memberContents rest asked

end

theorem memberContents_eq_lookup (members : List (String × Document)) (name : String) :
    memberContents members name = (members.lookup name).map content := by
  induction members with
  | nil => rfl
  | cons member rest ih =>
      rw [memberContents, ih, List.lookup_cons]
      by_cases same : name = member.1
      · rw [if_pos same, beq_iff_eq.mpr same]
        rfl
      · rw [if_neg same, beq_eq_false_iff_ne.mpr same]

theorem exactValue?_eq_some_iff {document : Document} {value : Dyadic} :
    document.exactValue? = some value ↔ document.content = .number value.toRat := by
  cases document with
  | bool truth =>
      have one : (1 : Dyadic).toRat = 1 := Dyadic.toRat_natCast 1
      have zero : (0 : Dyadic).toRat = 0 := Dyadic.toRat_zero
      cases truth <;> simp [exactValue?, content, ← Dyadic.toRat_inj, one, zero]
  | number numeral =>
      rw [exactValue?, content, Option.some_inj, Content.number.injEq, ← numeral.toRat_exact,
        Dyadic.toRat_inj]
  | null | string | array | object => simp [exactValue?, content]

section

variable {first second : Document} {members others : List (String × Document)}

theorem sameItems_iff_content {items others : List Document}
    (each : ∀ item ∈ items, ∀ other ∈ others, Alike item other ↔ item.content = other.content) :
    sameItems items others = true ↔ itemContents items = itemContents others := by
  induction items generalizing others with
  | nil => cases others <;> simp [sameItems, itemContents]
  | cons item rest ih =>
      cases others with
      | nil => simp [sameItems, itemContents]
      | cons other more =>
          have here := each item List.mem_cons_self other List.mem_cons_self
          have later := ih fun next among last behind =>
            each next (List.mem_cons_of_mem _ among) last (List.mem_cons_of_mem _ behind)
          rw [sameItems, Bool.and_eq_true, sameValue_iff_alike, here, later, itemContents,
            itemContents, List.cons_eq_cons]

/-- Lists of members in which no name comes twice hold the same if and only if they are as long and
each member of one of them is in the other. -/
theorem sameMembers_iff_content (distinct : (members.map (·.1)).Nodup)
    (distinctToo : (others.map (·.1)).Nodup)
    (each : ∀ member ∈ members, ∀ other ∈ others,
      Alike member.2 other.2 ↔ member.2.content = other.2.content) :
    members.length = others.length ∧ includedIn others members = true ↔
      memberContents members = memberContents others := by
  constructor
  · rintro ⟨count, included⟩
    funext name
    rw [memberContents_eq_lookup, memberContents_eq_lookup]
    have pair := lookup_alike distinct count included name
    generalize found : members.lookup name = bound at pair ⊢
    generalize reached : others.lookup name = counterpart at pair ⊢
    cases pair with
    | none => rfl
    | some alike =>
        have same := each _ (mem_of_lookup found) _ (mem_of_lookup reached)
        exact congrArg some (same.mp alike)
  · intro same
    have lookups (name : String) :
        (members.lookup name).map content = (others.lookup name).map content := by
      rw [← memberContents_eq_lookup, ← memberContents_eq_lookup, same]
    have names (name : String) : name ∈ members.map (·.1) ↔ name ∈ others.map (·.1) := by
      have absent := congrArg Option.isNone (lookups name)
      simp only [Option.isNone_map] at absent
      rw [← not_iff_not, ← lookup_eq_none_iff_not_mem, ← lookup_eq_none_iff_not_mem,
        ← Option.isNone_iff_eq_none, absent, Option.isNone_iff_eq_none]
    have reordered := (List.perm_ext_iff_of_nodup distinct distinctToo).mpr names
    refine ⟨by simpa using reordered.length_eq, includedIn_iff.mpr fun member among => ?_⟩
    have bound := lookups member.1
    rw [lookup_of_mem distinct among, Option.map_some, eq_comm, Option.map_eq_some_iff] at bound
    obtain ⟨other, found, equal⟩ := bound
    exact ⟨other, found, (each member among _ (mem_of_lookup found)).mpr equal.symm⟩

/-- Below the top of a document, values are equal if and only if their contents are. -/
theorem alike_iff_content (distinct : first.Distinct) (distinctToo : second.Distinct) :
    Alike first second ↔ first.content = second.content := by
  induction distinct generalizing second with
  | @intro first names each ih =>
      obtain ⟨namesToo, eachToo⟩ := distinctToo
      rw [← sameValue_iff_alike]
      cases first with
      | bool value =>
          have counts : (Document.bool value).exactValue? = some (if value then 1 else 0) := rfl
          rw [sameValue, beq_iff_eq, exactValue?_eq_some_iff, exactValue?_eq_some_iff.mp counts]
          exact eq_comm
      | number numeral =>
          have counts : (Document.number numeral).exactValue? = some numeral.exact := rfl
          rw [sameValue, beq_iff_eq, exactValue?_eq_some_iff, exactValue?_eq_some_iff.mp counts]
          exact eq_comm
      | null => cases second <;> simp [sameValue, content]
      | string text => cases second <;> simp [sameValue, content]
      | array form items =>
          cases second with
          | array otherForm others =>
              have pairs : sameItems items others = true ↔ itemContents items = itemContents others :=
                sameItems_iff_content fun item among other behind =>
                  ih item among (eachToo other behind)
              rw [sameValue, Bool.and_eq_true, beq_iff_eq, pairs, content, content,
                Content.array.injEq]
          | null | bool | number | string | object => simp [sameValue, content]
      | object members =>
          cases second with
          | object others =>
              have pairs := sameMembers_iff_content names namesToo fun member among other behind =>
                ih member.2 (List.mem_map_of_mem among) (eachToo other.2 (List.mem_map_of_mem behind))
              rw [sameValue, Bool.and_eq_true, beq_iff_eq, pairs, content, content,
                Content.object.injEq]
          | null | bool | number | string | array => simp [sameValue, content]

/-- Documents are equal if and only if they are of one kind and of one content. -/
theorem same_iff_content (distinct : first.Distinct) (distinctToo : second.Distinct) :
    first.same second = true ↔ first.kind = second.kind ∧ first.content = second.content := by
  rw [same, Bool.and_eq_true, beq_iff_eq, sameValue_iff_alike, alike_iff_content distinct distinctToo]

end

/-- Data whose dictionaries hold each key once are wrapped into a document. -/
def IsWrapped (document : Document) : Prop := ∃ datum : Datum, datum.Distinct ∧ Wraps datum document

theorem IsWrapped.distinct {document : Document} (wrapped : document.IsWrapped) :
    document.Distinct := by
  obtain ⟨datum, keys, wraps⟩ := wrapped
  exact wraps.distinct keys

theorem content_of_perm {members others : List (String × Document)}
    (distinct : (members.map (·.1)).Nodup) (reordered : members.Perm others) :
    (object members).content = (object others).content := by
  rw [content, content]
  congr 1
  funext name
  rw [memberContents_eq_lookup, memberContents_eq_lookup, lookup_of_perm reordered distinct]

theorem Distinct.of_perm {members others : List (String × Document)}
    (distinct : (object members).Distinct) (reordered : members.Perm others) :
    (object others).Distinct := by
  obtain ⟨names, each⟩ := distinct
  refine .intro ((reordered.map _).nodup names) fun part inside => each part ?_
  exact (reordered.map _).mem_iff.mpr inside

/-- Equality of documents is reflexive, symmetric and transitive. Documents are equal if and only if
they are of one kind and of one content: the order of members does not count, a list is never equal to
a tuple, and numbers are compared by their exact value, however they are spelled. -/
theorem same_equivalence :
    Equivalence (fun first second : {document : Document // document.IsWrapped} =>
      first.1.same second.1 = true) ∧
    (∀ first second : Document, first.IsWrapped → second.IsWrapped →
      (first.same second = true ↔ first.kind = second.kind ∧ first.content = second.content)) ∧
    (∀ members others : List (String × Document), (object members).IsWrapped →
      members.Perm others → (object members).content = (object others).content ∧
        (object members).same (object others) = true) ∧
    (∀ items others : List Document,
      (array .list items).content ≠ (array .tuple others).content ∧
        (array .list items).same (array .tuple others) = false) ∧
    ∀ numeral other : Numeral, (number numeral).same (number other) = true ↔
      numeral.value = other.value := by
  have byContent (first second : Document) (wrapped : first.IsWrapped)
      (wrappedToo : second.IsWrapped) := same_iff_content wrapped.distinct wrappedToo.distinct
  refine ⟨⟨?_, ?_, ?_⟩, byContent, ?_, ?_, ?_⟩
  · intro first
    exact (byContent _ _ first.2 first.2).mpr ⟨rfl, rfl⟩
  · intro first second equal
    obtain ⟨kinds, contents⟩ := (byContent _ _ first.2 second.2).mp equal
    exact (byContent _ _ second.2 first.2).mpr ⟨kinds.symm, contents.symm⟩
  · intro first second third equal equalToo
    obtain ⟨kinds, contents⟩ := (byContent _ _ first.2 second.2).mp equal
    obtain ⟨kindsToo, contentsToo⟩ := (byContent _ _ second.2 third.2).mp equalToo
    exact (byContent _ _ first.2 third.2).mpr ⟨kinds.trans kindsToo, contents.trans contentsToo⟩
  · intro members others wrapped reordered
    have distinct := wrapped.distinct
    obtain ⟨names, -⟩ := wrapped.distinct
    have contents := content_of_perm names reordered
    exact ⟨contents, (same_iff_content distinct (distinct.of_perm reordered)).mpr ⟨rfl, contents⟩⟩
  · intro items others
    refine ⟨?_, rfl⟩
    rw [content, content]
    exact fun same => nomatch (Content.array.inj same).1
  · intro numeral other
    rw [← numeral.toRat_exact, ← other.toRat_exact, Dyadic.toRat_inj]
    simpa [same, sameValue, exactValue?, kind] using eq_comm

/-- The members stand in another order in the second document, and its numbers are of another form. -/
theorem same_equivalence_reordered :
    let first := object [("x", .number (.int 1 (some "1"))), ("y", .bool true)]
    let second := object [("y", .number (.float ⟨false, 1, 0⟩ none)), ("x", .number (.int 1 none))]
    first.IsWrapped ∧ second.IsWrapped ∧ first.content = second.content ∧
      first.same second = true ∧ second.same first = true ∧
      first.same (object [("y", .bool true), ("x", .number (.int 1 (some "1")))]) = true := by
  intro first second
  have wrapped {one other : Scalar} {members : List (String × Document)} {name next : String}
      (apart : name ≠ next)
      (wraps : Wraps (.dict [(.scalar (.text name), .scalar one), (.scalar (.text next), .scalar other)])
        (.object members)) : (object members).IsWrapped := by
    refine ⟨_, .intro (List.pairwise_pair.mpr ?_) ?_, wraps⟩
    · simpa [Key.same, Scalar.same] using apart
    · simp only [Datum.HasPart, Datum.parts, List.map_cons, List.map_nil, List.mem_cons,
        List.not_mem_nil, or_false, forall_eq_or_imp, forall_eq]
      exact ⟨.of_parts_nil rfl, .of_parts_nil rfl⟩
  have firstWrapped : first.IsWrapped :=
    @wrapped (.int 1 (some "1")) (.bool true) _ "x" "y" (by decide) ⟨[], rfl⟩
  have secondWrapped : second.IsWrapped :=
    @wrapped (.float (.finite ⟨false, 1, 0⟩) none) (.int 1 none) _ "y" "x" (by decide) ⟨[], rfl⟩
  obtain ⟨equivalence, byContent, reordered, -⟩ := same_equivalence
  have contents : first.content = second.content := by
    rw [content, content]
    congr 1
    funext name
    simp only [memberContents, content, Numeral.value, Finite64.value]
    by_cases isX : name = "x"
    · simp [isX]
    · by_cases isY : name = "y" <;> simp [isX, isY]
  have equal : first.same second = true :=
    (byContent first second firstWrapped secondWrapped).mpr ⟨rfl, contents⟩
  have back : second.same first = true :=
    @equivalence.symm ⟨first, firstWrapped⟩ ⟨second, secondWrapped⟩ equal
  exact ⟨firstWrapped, secondWrapped, contents, equal, back,
    (reordered _ _ firstWrapped (List.Perm.swap _ _ _)).2⟩

end Document

end Logicless
