import Logicless.Document.Load
import Logicless.Proofs.Document.Parts
import Logicless.Proofs.Json.Canonical
import Logicless.Proofs.Json.Sound
import Mathlib.Data.List.Forall2

/-!
The text of a document that was read from JSON. If no object repeats a name, it is the text that was
read in its minimal form: nothing is lost but white space, and the spelling of strings.
-/

set_option autoImplicit false

namespace Logicless

open Json Number

namespace Datum

theorem insert_of_new {α : Type} {entries : List (Key × α)} {key : Key}
    (new : ∀ entry ∈ entries, entry.1.same key = false) (value : α) :
    insert entries key value = entries ++ [(key, value)] := by
  induction entries with
  | nil => rfl
  | cons entry entries ih =>
      obtain ⟨first, others⟩ := List.forall_mem_cons.mp new
      rw [insert, first, ih others]
      rfl

/-- Entries with different keys are kept as they are. -/
theorem ofEntries_of_distinct {α : Type} {entries : List (Key × α)}
    (distinct : entries.Pairwise fun first second => first.1.same second.1 = false) :
    ofEntries entries = entries := by
  have kept : ∀ before : List (Key × α),
      (before ++ entries).Pairwise (fun first second => first.1.same second.1 = false) →
        insertAll before entries = before ++ entries := by
    clear distinct
    induction entries with
    | nil =>
        intro before apart
        exact (List.append_nil before).symm
    | cons entry entries ih =>
        intro before apart
        have new : ∀ other ∈ before, other.1.same entry.1 = false :=
          fun other among =>
            (List.pairwise_append.mp apart).2.2 other among entry List.mem_cons_self
        have step := ih (before ++ [entry])
        rw [List.append_assoc, List.singleton_append] at step
        rw [← step apart, insertAll, List.foldl_cons, insert_of_new new]
        rfl
  exact kept [] distinct

end Datum

namespace Json.Tree

/-- No object in a tree has two members of one name. -/
inductive Distinct : Tree → Prop where
  | null : Distinct .null
  | bool (value : Bool) : Distinct (.bool value)
  | number (form : NumberForm) : Distinct (.number form)
  | string (text : List Char) : Distinct (.string text)
  | array {items : List Tree} (each : ∀ item ∈ items, Distinct item) : Distinct (.array items)
  | object {members : List (List Char × Tree)} (names : (members.map (·.1)).Nodup)
    (each : ∀ member ∈ members, Distinct member.2) : Distinct (.object members)

end Json.Tree

theorem numberOf_eq_ok {limit : Option Nat} {spelling : List Char} {isInt : Bool} {value : Scalar}
    (read : numberOf limit spelling isInt = .ok value) :
    (∃ number, value = .int number (some (String.ofList spelling))) ∨
      ∃ number, value = .float number (some (String.ofList spelling)) := by
  unfold numberOf at read
  split at read
  · split at read
    · cases read
      exact .inl ⟨_, rfl⟩
    · cases read
  · split at read
    · cases read
      exact .inr ⟨_, rfl⟩
    · cases read

/-- A number is written as it was spelled. -/
theorem compact_of_numberOf {limit : Option Nat} {spelling : List Char} {isInt : Bool}
    {value : Scalar} (read : numberOf limit spelling isInt = .ok value) {path : Path}
    {document : Document}
    (accepted : Document.ofScalar path value = .ok document) : document.compact = spelling := by
  rcases numberOf_eq_ok read with ⟨number, rfl⟩ | ⟨number, rfl⟩
  · cases accepted
    exact String.toList_ofList
  · cases number with
    | finite number =>
        cases accepted
        exact String.toList_ofList
    | _ => cases accepted

namespace Document

variable {limit : Option Nat}

/-- The keys of the data of members are their names. -/
theorem keys_of_memberData {members : List (List Char × Tree)} {entries : List (Key × Datum)}
    (stands : Tree.memberData limit members = .ok entries) :
    entries.map (·.1) = members.map fun member => .scalar (.text (String.ofList member.1)) := by
  induction members generalizing entries with
  | nil =>
      cases stands
      rfl
  | cons member members ih =>
      obtain ⟨name, value⟩ := member
      rw [Tree.memberData] at stands
      obtain ⟨first, one, stands⟩ := exists_of_bind_eq_ok stands
      obtain ⟨others, later, same⟩ := exists_of_bind_eq_ok stands
      cases same
      rw [List.map_cons, List.map_cons, ih later]

theorem ofEntries_memberData {members : List (List Char × Tree)} {entries : List (Key × Datum)}
    (stands : Tree.memberData limit members = .ok entries) (names : (members.map (·.1)).Nodup) :
    Datum.ofEntries entries = entries := by
  apply Datum.ofEntries_of_distinct
  have apart : (entries.map (·.1)).Pairwise fun first second : Key => first.same second = false := by
    rw [keys_of_memberData stands, List.pairwise_map]
    refine (List.pairwise_map.mp names).imp fun {first second} different => ?_
    have texts : String.ofList first.1 ≠ String.ofList second.1 :=
      fun same => different (String.ofList_inj.mp same)
    simpa [Key.same, Scalar.same] using texts
  exact List.pairwise_map.mp apart

mutual

theorem compact_of_tree (tree : Tree) {path : Path} {datum : Datum} {document : Document}
    (distinct : tree.Distinct) (stands : tree.datum limit = .ok datum)
    (accepted : ofDatumAt path datum = .ok document) : document.compact = tree.canonical := by
  match tree with
  | .null =>
      cases stands
      cases accepted
      rfl
  | .bool value =>
      cases stands
      cases accepted
      exact (List.append_nil (boolText value)).symm
  | .number form =>
      obtain ⟨value, read, same⟩ := exists_of_bind_eq_ok stands
      cases same
      rw [ofDatumAt] at accepted
      rw [compact_of_numberOf read accepted]
      exact (List.append_nil form.spelling).symm
  | .string text =>
      cases stands
      cases accepted
      have written : literal (String.ofList text).toList = literal text := by
        rw [String.toList_ofList]
      exact written.trans (List.append_nil (literal text)).symm
  | .array items =>
      obtain ⟨data, each, same⟩ := exists_of_bind_eq_ok stands
      cases same
      rw [ofDatumAt] at accepted
      obtain ⟨documents, wrapped, same⟩ := exists_of_bind_eq_ok accepted
      cases same
      cases distinct with
      | array distinctItems =>
          rw [compact, Tree.canonical_array, compactItems_of_trees items distinctItems each wrapped]
  | .object members =>
      obtain ⟨entries, each, same⟩ := exists_of_bind_eq_ok stands
      cases same
      rw [ofDatumAt] at accepted
      obtain ⟨documents, wrapped, same⟩ := exists_of_bind_eq_ok accepted
      cases same
      cases distinct with
      | object names distinctMembers =>
          rw [ofEntries_memberData each names] at wrapped
          rw [compact, Tree.canonical_object,
            compactMembers_of_trees members distinctMembers each wrapped]

theorem compactItems_of_trees (items : List Tree) {path : Path} {index : Nat} {data : List Datum}
    {documents : List Document} (distinct : ∀ item ∈ items, item.Distinct)
    (stands : Tree.itemData limit items = .ok data)
    (accepted : ofItems path index data = .ok documents) :
    compactItems documents = items.map Tree.canonical := by
  match items with
  | [] =>
      cases stands
      cases accepted
      rfl
  | item :: rest =>
      obtain ⟨distinctFirst, distinctRest⟩ := List.forall_mem_cons.mp distinct
      rw [Tree.itemData] at stands
      obtain ⟨first, one, stands⟩ := exists_of_bind_eq_ok stands
      obtain ⟨others, later, same⟩ := exists_of_bind_eq_ok stands
      cases same
      obtain ⟨document, documents, wrapped, wrappedRest, rfl⟩ := ofItems_cons_eq_ok accepted
      rw [compactItems, List.map_cons, compact_of_tree item distinctFirst one wrapped,
        compactItems_of_trees rest distinctRest later wrappedRest]

theorem compactMembers_of_trees (members : List (List Char × Tree)) {path : Path}
    {entries : List (Key × Datum)} {documents : List (String × Document)}
    (distinct : ∀ member ∈ members, member.2.Distinct)
    (stands : Tree.memberData limit members = .ok entries)
    (accepted : ofEntries path entries = .ok documents) :
    compactMembers documents = members.map Tree.canonicalMember := by
  match members with
  | [] =>
      cases stands
      cases accepted
      rfl
  | (name, value) :: rest =>
      obtain ⟨distinctFirst, distinctRest⟩ := List.forall_mem_cons.mp distinct
      rw [Tree.memberData] at stands
      obtain ⟨first, one, stands⟩ := exists_of_bind_eq_ok stands
      obtain ⟨others, later, same⟩ := exists_of_bind_eq_ok stands
      cases same
      obtain ⟨text, document, documents, key, wrapped, wrappedRest, rfl⟩ :=
        ofEntries_cons_eq_ok accepted
      cases key
      rw [compactMembers, List.map_cons, compact_of_tree value distinctFirst one wrapped,
        compactMembers_of_trees rest distinctRest later wrappedRest, String.toList_ofList]
      rfl

end

/-- Data that were read are no document but make up one. -/
theorem ofDatum_of_tree {tree : Tree} {datum : Datum} (stands : tree.datum limit = .ok datum) :
    ofDatum datum = ofDatumAt [] datum := by
  cases tree with
  | null | bool | string =>
      cases stands
      rfl
  | number | array | object =>
      obtain ⟨value, -, same⟩ := exists_of_bind_eq_ok stands
      cases same
      rfl

theorem loadJsonWithin_eq_ok_iff {text : String} {document : Document} :
    loadJsonWithin limit text = .ok document ↔
      ∃ datum, readAll limit text.toList = .ok datum ∧ ofDatum datum = .ok document := by
  constructor
  · intro loaded
    obtain ⟨datum, read, accepted⟩ := exists_of_bind_eq_ok loaded
    rw [readWithin, mapError_eq_ok_iff, mapError_eq_ok_iff] at read
    exact ⟨datum, read, mapError_eq_ok_iff.mp accepted⟩
  · rintro ⟨datum, read, accepted⟩
    rw [loadJsonWithin, readWithin, read]
    exact mapError_eq_ok_iff.mpr accepted

theorem nodup_toList {α : Type} {members : List (String × α)} (names : (members.map (·.1)).Nodup) :
    (members.map fun member => member.1.toList).Nodup := by
  have apart := List.pairwise_map.mp names
  exact List.pairwise_map.mpr (apart.imp fun different same => different (String.toList_inj.mp same))

/-- The data of a tree make up a document, wherever they stand. -/
def Gives (limit : Option Nat) (tree : Tree) (document : Document) : Prop :=
  ∃ datum, tree.datum limit = .ok datum ∧ ∀ path, ofDatumAt path datum = .ok document

/-- A member gives another one: the names are the same, and the value gives the other. -/
def GivesMember (limit : Option Nat) (member : List Char × Tree) (other : String × Document) : Prop :=
  other.1.toList = member.1 ∧ Gives limit member.2 other.2

theorem exists_itemData_of_gives {trees : List Tree} {documents : List Document}
    (each : List.Forall₂ (Gives limit) trees documents) :
    ∃ data, Tree.itemData limit trees = .ok data ∧
      ∀ path index, ofItems path index data = .ok documents := by
  induction each with
  | nil => exact ⟨[], rfl, fun _ _ => rfl⟩
  | cons first others ih =>
      obtain ⟨datum, stands, accepted⟩ := first
      obtain ⟨data, standOthers, acceptedOthers⟩ := ih
      refine ⟨datum :: data, ?_, fun path index => ?_⟩
      · rw [Tree.itemData, stands, standOthers]
        rfl
      · rw [ofItems, accepted, acceptedOthers]
        rfl

theorem gives_array {trees : List Tree} {documents : List Document}
    (each : List.Forall₂ (Gives limit) trees documents) :
    Gives limit (.array trees) (.array .list documents) := by
  obtain ⟨data, stand, accepted⟩ := exists_itemData_of_gives each
  refine ⟨.list data, ?_, fun path => ?_⟩
  · rw [Tree.datum, stand]
    rfl
  · rw [ofDatumAt, accepted]
    rfl

theorem exists_memberData_of_gives {members : List (List Char × Tree)}
    {documents : List (String × Document)}
    (each : List.Forall₂ (GivesMember limit) members documents) :
    ∃ entries, Tree.memberData limit members = .ok entries ∧
      ∀ path, ofEntries path entries = .ok documents := by
  induction each with
  | nil => exact ⟨[], rfl, fun _ => rfl⟩
  | @cons member document members documents first others ih =>
      obtain ⟨name, tree⟩ := member
      obtain ⟨same, datum, stands, accepted⟩ :
          document.1.toList = name ∧ Gives limit tree document.2 := first
      obtain ⟨entries, standOthers, acceptedOthers⟩ := ih
      refine ⟨(.scalar (.text document.1), datum) :: entries, ?_, fun path => ?_⟩
      · have key : String.ofList name = document.1 := by rw [← same, String.ofList_toList]
        rw [Tree.memberData, stands, standOthers, key]
        rfl
      · rw [ofEntries, accepted, acceptedOthers]
        rfl

theorem gives_object {members : List (List Char × Tree)} {documents : List (String × Document)}
    (each : List.Forall₂ (GivesMember limit) members documents)
    (names : (members.map (·.1)).Nodup) : Gives limit (.object members) (.object documents) := by
  obtain ⟨entries, stand, accepted⟩ := exists_memberData_of_gives each
  have kept := ofEntries_memberData stand names
  refine ⟨.dict entries, ?_, fun path => ?_⟩
  · rw [Tree.datum, stand]
    change Except.ok (Datum.dict (Datum.ofEntries entries)) = _
    rw [kept]
  · rw [ofDatumAt, accepted]
    rfl

/-- A text that is laid out from a tree loads as the document that the tree gives. -/
theorem loadJsonWithin_of_gives {tree : Tree} {document : Document} (gives : Gives limit tree document)
    {text : String} (laid : Laid tree.lexemes text.toList) :
    loadJsonWithin limit text = .ok document := by
  obtain ⟨datum, stands, accepted⟩ := gives
  refine loadJsonWithin_eq_ok_iff.mpr ⟨datum, ?_, ?_⟩
  · rw [readAll_of_laid limit tree laid, stands]
  · rw [ofDatum_of_tree stands]
    exact accepted []

/-- A document that was loaded from a text whose objects repeat no name, and that is not a string or
null, has the minimal form of the text as its own text, which loads as the same document again. -/
theorem toText_of_load {text : String} {document : Document}
    (loaded : load text "json" = .ok document) (noString : document.kind ≠ .string)
    (noNull : document.kind ≠ .null) :
    (∃ tree : Tree, Laid tree.lexemes text.toList) ∧
      ∀ tree : Tree, Laid tree.lexemes text.toList → tree.Distinct →
        document.toText.toList = tree.canonical ∧
          (∀ minimal, Minified text.toList minimal ↔ minimal = document.toText.toList) ∧
          load document.toText "json" = .ok document := by
  rw [load_json] at loaded
  obtain ⟨datum, read, accepted⟩ := loadJsonWithin_eq_ok_iff.mp loaded
  refine ⟨exists_tree_of_readAll read, fun tree laid distinct => ?_⟩
  -- The reader takes the text for the data of any tree that it is a layout of.
  have stands : tree.datum (some maxDecimalDigits) = .ok datum := by
    rw [← readAll_of_laid _ tree laid, read]
  have written : document.toText.toList = tree.canonical := by
    rw [ofDatum_of_tree stands] at accepted
    rw [← compact_of_tree tree distinct stands accepted]
    cases document with
    | null => exact absurd rfl noNull
    | string text => exact absurd rfl noString
    | _ => exact String.toList_ofList
  refine ⟨written, fun minimal => ⟨fun minified => ?_, ?_⟩, ?_⟩
  · rw [written]
    exact minified.unique laid.minified
  · rintro rfl
    rw [written]
    exact laid.minified
  · have again : readAll (some maxDecimalDigits) document.toText.toList = .ok datum := by
      rw [written, readAll_of_laid _ tree tree.laid_canonical, stands]
    rw [load_json]
    exact loadJsonWithin_eq_ok_iff.mpr ⟨datum, again, accepted⟩

theorem toText_of_load_spaced :
    ∃ (tree : Tree) (document : Document),
      load "[ 1E-2 ,\n\x7b\"a\" : \"\\u0041\"\x7d ]" "json" = .ok document ∧
        document.kind = .array ∧ Laid tree.lexemes "[ 1E-2 ,\n\x7b\"a\" : \"\\u0041\"\x7d ]".toList ∧
        tree.Distinct ∧ document.toText.toList = "[1E-2,\x7b\"a\":\"A\"\x7d]".toList ∧
        load document.toText "json" = .ok document := by
  have one : IsWhole ['1'] := ⟨.of_all nofun rfl, nofun⟩
  have two : IsExponent ['E', '-', '2'] :=
    .power (.inr rfl) (.inr (.inr rfl)) (.of_all nofun rfl)
  let form : NumberForm := ⟨[], ['1'], [], ['E', '-', '2'], .inl rfl, one, .none, two⟩
  let tree : Tree := .array [.number form, .object [(['a'], .string ['A'])]]
  have laid : Laid tree.lexemes "[ 1E-2 ,\n\x7b\"a\" : \"\\u0041\"\x7d ]".toList := by
    have chars : "[ 1E-2 ,\n\x7b\"a\" : \"\\u0041\"\x7d ]".toList =
        ['[', ' ', '1', 'E', '-', '2', ' ', ',', '\n', '{', '"', 'a', '"', ' ', ':', ' ', '"', '\\',
          'u', '0', '0', '4', '1', '"', '}', ' ', ']'] := by
      simp
    rw [chars]
    exact .plain (isSober_mark rfl) <| .space rfl <| .plain form.isPlain <| .space rfl <|
      .plain (isSober_mark rfl) <| .space rfl <| .plain (isSober_mark rfl) <|
      .string (@spelled_of_readString 0 _ _ _ rfl) <| .space rfl <| .plain (isSober_mark rfl) <|
      .space rfl <| .string (@spelled_of_readString 0 _ _ _ rfl) <| .plain (isSober_mark rfl) <|
      .space rfl <| .plain (isSober_mark rfl) .done
  have distinct : tree.Distinct := by
    refine .array fun item among => ?_
    rcases List.mem_cons.mp among with rfl | among
    · exact .number form
    · cases List.mem_singleton.mp among
      refine .object (by decide) fun member among => ?_
      cases List.mem_singleton.mp among
      exact .string ['A']
  have loaded : load "[ 1E-2 ,\n\x7b\"a\" : \"\\u0041\"\x7d ]" "json" =
      .ok (.array .list [.number (.float ⟨false, 5764607523034235, -59⟩ (some "1E-2")),
        .object [("a", .string "A")]]) := by
    have read := readAll_of_laid (some maxDecimalDigits) tree laid
    rw [load_json]
    exact loadJsonWithin_eq_ok_iff.mpr ⟨_, read.trans rfl, rfl⟩
  obtain ⟨written, -, again⟩ := (toText_of_load loaded nofun nofun).2 tree laid distinct
  refine ⟨tree, _, loaded, rfl, laid, distinct, ?_, again⟩
  rw [written]
  simp [tree, form, Tree.canonical, Tree.lexemes, Tree.itemLexemes, Tree.memberLexemes,
    NumberForm.spelling, Lexeme.mark, Lexeme.canonical, literal, literalChar]

end Document

end Logicless
