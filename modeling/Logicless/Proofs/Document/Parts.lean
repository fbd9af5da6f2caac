import Logicless.Document.Text
import Logicless.Document.Wrap
import Logicless.Reported
import Mathlib.Logic.Relation

/-!
The parts of data and those of documents. Data are looked at once, from the root on. Where they are
a document, every part of the document that can be reached is that of a part of the data, and this
part by itself has the same kind and the same text: it need not be looked at again.
-/

set_option autoImplicit false

namespace Logicless

open Number Relation

def Scalar.kind? : Scalar → Option Kind
  | .null => some .null
  | .bool _ => some .bool
  | .int .. | .float .. => some .number
  | .text _ => some .string
  | .bytes _ | .date _ | .moment _ | .object => none

def Scalar.compact? : Scalar → Option (List Char)
  | .null => some "null".toList
  | .bool value => some (Document.boolText value)
  | .int value spelling => some (Numeral.int value spelling).text.toList
  | .float (.finite value) spelling => some (Numeral.float value spelling).text.toList
  | .text value => some (Json.literal value.toList)
  | .float .. | .bytes _ | .date _ | .moment _ | .object => none

namespace Datum

/-- The elements of a sequence, or the values of a dictionary. -/
def parts : Datum → List Datum
  | .list items | .tuple items => items
  | .dict entries => entries.map (·.2)
  | .scalar _ | .set _ | .document _ | .cycle _ => []

def HasPart (whole part : Datum) : Prop := part ∈ whole.parts

/-- The kind of document that a datum is by itself, whatever its parts are. -/
def kind? : Datum → Option Kind
  | .scalar value => value.kind?
  | .list _ | .tuple _ => some .array
  | .dict _ => some .object
  | .set _ | .document _ | .cycle _ => none

mutual

/-- A datum as JSON without blanks. -/
def compact? : Datum → Option (List Char)
  | .scalar value => value.compact?
  | .list items | .tuple items => do
    let texts ← compactItems? items
    return '[' :: joinWith [','] texts ++ [']']
  | .dict entries => do
    let texts ← compactEntries? entries
    return '{' :: joinWith [','] texts ++ ['}']
  | .set _ | .document _ | .cycle _ => none

def compactItems? : List Datum → Option (List (List Char))
  | [] => some []
  | item :: rest => do
    let first ← compact? item
    let others ← compactItems? rest
    return first :: others

def compactEntries? : List (Key × Datum) → Option (List (List Char))
  | [] => some []
  | (.scalar (.text name), value) :: rest => do
    let first ← compact? value
    let others ← compactEntries? rest
    return (Json.literal name.toList ++ ':' :: first) :: others
  | (_, _) :: _ => none

end

/-- The text that a template shows for a datum by itself. -/
def text? : Datum → Option String
  | .scalar (.text value) => some value
  | .scalar .null => some ""
  | other => other.compact?.map String.ofList

end Datum

namespace Document

/-- The elements of an array, or the members of an object. -/
def parts : Document → List Document
  | .array _ items => items
  | .object members => members.map (·.2)
  | .null | .bool _ | .number _ | .string _ => []

def HasPart (whole part : Document) : Prop := part ∈ whole.parts

/-- What rendering can reach from a document: members of objects by their names, and elements of
arrays. -/
inductive Reaches (root : Document) : Document → Prop where
  | root : Reaches root root
  | member {outer part : Document} (before : Reaches root outer) (name : String)
    (found : outer.get? name = some part) : Reaches root part
  | element {outer part : Document} {items : List Document} (before : Reaches root outer)
    (listed : outer.elements = .ok items) (among : part ∈ items) : Reaches root part

theorem mem_of_lookup {members : List (String × Document)} {name : String} {value : Document}
    (found : members.lookup name = some value) : (name, value) ∈ members := by
  obtain ⟨before, behind, rfl, -⟩ := List.lookup_eq_some_iff.mp found
  exact List.mem_append_right _ List.mem_cons_self

theorem hasPart_of_get? {document part : Document} {name : String}
    (found : document.get? name = some part) : document.HasPart part := by
  cases document with
  | object members => exact List.mem_map.mpr ⟨(name, part), mem_of_lookup found, rfl⟩
  | _ => cases found

theorem hasPart_of_elements {document part : Document} {items : List Document}
    (listed : document.elements = .ok items) (among : part ∈ items) : document.HasPart part := by
  cases document with
  | array form items =>
      cases listed
      exact among
  | _ => cases listed

theorem Reaches.trans {root middle part : Document} (first : root.Reaches middle)
    (second : middle.Reaches part) : root.Reaches part := by
  induction second with
  | root => exact first
  | member _ name found ih => exact .member ih name found
  | element _ listed among ih => exact .element ih listed among

/-- What is reached from a document is the document, or is reached from one of its parts. -/
theorem Reaches.root_or_part {document inner : Document} (reached : document.Reaches inner) :
    inner = document ∨ ∃ part, document.HasPart part ∧ part.Reaches inner := by
  induction reached with
  | root => exact .inl rfl
  | @member outer inner _ name found ih =>
      rcases ih with rfl | ⟨part, inside, within⟩
      · exact .inr ⟨inner, hasPart_of_get? found, .root⟩
      · exact .inr ⟨part, inside, .member within name found⟩
  | @element outer inner items _ listed among ih =>
      rcases ih with rfl | ⟨part, inside, within⟩
      · exact .inr ⟨inner, hasPart_of_elements listed among, .root⟩
      · exact .inr ⟨part, inside, .element within listed among⟩

theorem ofItems_cons_eq_ok {path : Path} {index : Nat} {item : Datum} {rest : List Datum}
    {documents : List Document} (accepted : ofItems path index (item :: rest) = .ok documents) :
    ∃ first others, ofDatumAt (.element index :: path) item = .ok first ∧
      ofItems path (index + 1) rest = .ok others ∧ documents = first :: others := by
  rw [ofItems] at accepted
  obtain ⟨first, one, accepted⟩ := exists_of_bind_eq_ok accepted
  obtain ⟨others, later, same⟩ := exists_of_bind_eq_ok accepted
  cases same
  exact ⟨first, others, one, later, rfl⟩

/-- Only entries with text keys are members. -/
theorem ofEntries_cons_eq_ok {path : Path} {key : Key} {value : Datum} {rest : List (Key × Datum)}
    {members : List (String × Document)}
    (accepted : ofEntries path ((key, value) :: rest) = .ok members) :
    ∃ name first others, key = .scalar (.text name) ∧
      ofDatumAt (.member name :: path) value = .ok first ∧ ofEntries path rest = .ok others ∧
      members = (name, first) :: others := by
  unfold ofEntries at accepted
  split at accepted
  · rename_i empty
    cases empty
  · rename_i name other later same
    cases same
    obtain ⟨first, one, accepted⟩ := exists_of_bind_eq_ok accepted
    obtain ⟨others, behind, same⟩ := exists_of_bind_eq_ok accepted
    cases same
    exact ⟨name, first, others, rfl, one, behind, rfl⟩
  · cases accepted

/-- A document is that of some data, at some place. -/
def Wraps (datum : Datum) (document : Document) : Prop :=
  ∃ path, ofDatumAt path datum = .ok document

/-- The documents of elements are those of the elements. -/
theorem exists_item_of_ofItems {path : Path} {index : Nat} {items : List Datum}
    {documents : List Document} (accepted : ofItems path index items = .ok documents) :
    ∀ document ∈ documents, ∃ item ∈ items, Wraps item document := by
  induction items generalizing index documents with
  | nil =>
      cases accepted
      nofun
  | cons item rest ih =>
      obtain ⟨first, others, one, later, rfl⟩ := ofItems_cons_eq_ok accepted
      intro document among
      rcases List.mem_cons.mp among with rfl | behind
      · exact ⟨item, List.mem_cons_self, _, one⟩
      · obtain ⟨other, member, wraps⟩ := ih later document behind
        exact ⟨other, List.mem_cons_of_mem _ member, wraps⟩

theorem exists_entry_of_ofEntries {path : Path} {entries : List (Key × Datum)}
    {members : List (String × Document)} (accepted : ofEntries path entries = .ok members) :
    ∀ member ∈ members, ∃ entry ∈ entries, Wraps entry.2 member.2 := by
  induction entries generalizing members with
  | nil =>
      cases accepted
      nofun
  | cons entry rest ih =>
      obtain ⟨key, value⟩ := entry
      obtain ⟨name, first, others, -, one, later, rfl⟩ := ofEntries_cons_eq_ok accepted
      intro member among
      rcases List.mem_cons.mp among with rfl | behind
      · exact ⟨(key, value), List.mem_cons_self, _, one⟩
      · obtain ⟨other, present, wraps⟩ := ih later member behind
        exact ⟨other, List.mem_cons_of_mem _ present, wraps⟩

theorem parts_of_ofScalar {path : Path} {value : Scalar} {document : Document}
    (accepted : ofScalar path value = .ok document) : document.parts = [] := by
  unfold ofScalar at accepted
  split at accepted <;> cases accepted <;> rfl

/-- Each part of a document is the document of a part of the data. -/
theorem Wraps.exists_part {datum : Datum} {document part : Document} (wraps : Wraps datum document)
    (inside : document.HasPart part) : ∃ source, datum.HasPart source ∧ Wraps source part := by
  obtain ⟨path, accepted⟩ := wraps
  cases datum with
  | scalar value =>
      rw [ofDatumAt] at accepted
      rw [HasPart, parts_of_ofScalar accepted] at inside
      cases inside
  | list items | tuple items =>
      rw [ofDatumAt] at accepted
      obtain ⟨documents, each, same⟩ := exists_of_bind_eq_ok accepted
      cases same
      exact exists_item_of_ofItems each part inside
  | dict entries =>
      rw [ofDatumAt] at accepted
      obtain ⟨members, each, same⟩ := exists_of_bind_eq_ok accepted
      cases same
      obtain ⟨member, among, rfl⟩ := List.mem_map.mp inside
      obtain ⟨entry, present, wraps⟩ := exists_entry_of_ofEntries each member among
      exact ⟨entry.2, List.mem_map_of_mem present, wraps⟩
  | set items | document value | cycle name =>
      rw [ofDatumAt] at accepted
      cases accepted

/-- What can be reached from a document is the document of something inside the data. -/
theorem Wraps.exists_reached {datum : Datum} {document part : Document} (wraps : Wraps datum document)
    (reached : Reaches document part) :
    ∃ source, ReflTransGen Datum.HasPart datum source ∧ Wraps source part := by
  have onward {outer inner : Document} (inside : outer.HasPart inner)
      (stood : ∃ source, ReflTransGen Datum.HasPart datum source ∧ Wraps source outer) :
      ∃ source, ReflTransGen Datum.HasPart datum source ∧ Wraps source inner := by
    obtain ⟨source, before, outerWraps⟩ := stood
    obtain ⟨next, last, innerWraps⟩ := outerWraps.exists_part inside
    exact ⟨next, before.tail last, innerWraps⟩
  induction reached with
  | root => exact ⟨datum, .refl, wraps⟩
  | member _ _ found ih => exact onward (hasPart_of_get? found) ih
  | element _ listed among ih => exact onward (hasPart_of_elements listed among) ih

theorem kind?_of_ofScalar {path : Path} {value : Scalar} {document : Document}
    (accepted : ofScalar path value = .ok document) : value.kind? = some document.kind := by
  unfold ofScalar at accepted
  split at accepted <;> cases accepted <;> rfl

theorem compact?_of_ofScalar {path : Path} {value : Scalar} {document : Document}
    (accepted : ofScalar path value = .ok document) : value.compact? = some document.compact := by
  unfold ofScalar at accepted
  split at accepted <;> cases accepted <;> rfl

/-- By itself a datum has the kind of its document. -/
theorem Wraps.kind? {datum : Datum} {document : Document} (wraps : Wraps datum document) :
    datum.kind? = some document.kind := by
  obtain ⟨path, accepted⟩ := wraps
  cases datum with
  | scalar value =>
      rw [ofDatumAt] at accepted
      exact kind?_of_ofScalar accepted
  | list items | tuple items | dict entries =>
      rw [ofDatumAt] at accepted
      obtain ⟨parts, -, same⟩ := exists_of_bind_eq_ok accepted
      cases same
      rfl
  | set items | document value | cycle name =>
      rw [ofDatumAt] at accepted
      cases accepted

mutual

theorem compact?_of_ofDatumAt {path : Path} (datum : Datum) {document : Document}
    (accepted : ofDatumAt path datum = .ok document) : datum.compact? = some document.compact := by
  match datum with
  | .scalar value =>
      rw [ofDatumAt] at accepted
      exact compact?_of_ofScalar accepted
  | .list items | .tuple items =>
      rw [ofDatumAt] at accepted
      obtain ⟨documents, each, same⟩ := exists_of_bind_eq_ok accepted
      cases same
      rw [Datum.compact?, compactItems?_of_ofItems items each]
      rfl
  | .dict entries =>
      rw [ofDatumAt] at accepted
      obtain ⟨members, each, same⟩ := exists_of_bind_eq_ok accepted
      cases same
      rw [Datum.compact?, compactEntries?_of_ofEntries entries each]
      rfl
  | .set _ | .document _ | .cycle _ =>
      rw [ofDatumAt] at accepted
      cases accepted

theorem compactItems?_of_ofItems {path : Path} {index : Nat} (items : List Datum)
    {documents : List Document} (accepted : ofItems path index items = .ok documents) :
    Datum.compactItems? items = some (compactItems documents) := by
  match items with
  | [] =>
      cases accepted
      rfl
  | item :: rest =>
      obtain ⟨first, others, one, later, rfl⟩ := ofItems_cons_eq_ok accepted
      rw [Datum.compactItems?, compact?_of_ofDatumAt item one, compactItems?_of_ofItems rest later]
      rfl

theorem compactEntries?_of_ofEntries {path : Path} (entries : List (Key × Datum))
    {members : List (String × Document)} (accepted : ofEntries path entries = .ok members) :
    Datum.compactEntries? entries = some (compactMembers members) := by
  match entries with
  | [] =>
      cases accepted
      rfl
  | (key, value) :: rest =>
      obtain ⟨name, first, others, rfl, one, later, rfl⟩ := ofEntries_cons_eq_ok accepted
      rw [Datum.compactEntries?, compact?_of_ofDatumAt value one,
        compactEntries?_of_ofEntries rest later]
      rfl

end

/-- By itself a datum shows the text of its document. -/
theorem Wraps.text? {datum : Datum} {document : Document} (wraps : Wraps datum document) :
    datum.text? = some document.toText := by
  obtain ⟨path, accepted⟩ := wraps
  have json := compact?_of_ofDatumAt datum accepted
  cases datum with
  | scalar value =>
      rw [ofDatumAt] at accepted
      unfold ofScalar at accepted
      split at accepted <;> cases accepted <;> rfl
  | list items | tuple items | dict entries =>
      rw [ofDatumAt] at accepted
      obtain ⟨parts, -, same⟩ := exists_of_bind_eq_ok accepted
      cases same
      rw [Datum.text?, json]
      · rfl
      · nofun
      · nofun
  | set items | document value | cycle name =>
      rw [ofDatumAt] at accepted
      cases accepted

theorem ofScalar_ne_endless (path : Path) (value : Scalar) :
    ofScalar path value ≠ .error .endless := by
  unfold ofScalar
  split <;> nofun

theorem refusal_ne_endless (path : Path) (key : Key) : key.refusal path ≠ .endless := by
  unfold Key.refusal
  split <;> nofun

mutual

/-- Data without an end hold themselves somewhere. -/
theorem exists_cycle_of_ofDatumAt {path : Path} (datum : Datum)
    (endless : ofDatumAt path datum = .error .endless) :
    ∃ name, ReflTransGen Datum.HasPart datum (.cycle name) := by
  match datum with
  | .scalar value =>
      rw [ofDatumAt] at endless
      exact absurd endless (ofScalar_ne_endless path value)
  | .list items | .tuple items =>
      rw [ofDatumAt] at endless
      rcases bind_eq_error endless with failed | ⟨documents, -, made⟩
      · obtain ⟨item, among, name, inside⟩ := exists_cycle_of_ofItems items failed
        exact ⟨name, .head among inside⟩
      · cases made
  | .dict entries =>
      rw [ofDatumAt] at endless
      rcases bind_eq_error endless with failed | ⟨members, -, made⟩
      · obtain ⟨entry, among, name, inside⟩ := exists_cycle_of_ofEntries entries failed
        exact ⟨name, .head (List.mem_map_of_mem among) inside⟩
      · cases made
  | .cycle name => exact ⟨name, .refl⟩
  | .set _ | .document _ =>
      rw [ofDatumAt] at endless
      cases endless

theorem exists_cycle_of_ofItems {path : Path} {index : Nat} (items : List Datum)
    (endless : ofItems path index items = .error .endless) :
    ∃ item ∈ items, ∃ name, ReflTransGen Datum.HasPart item (.cycle name) := by
  match items with
  | [] => cases endless
  | item :: rest =>
      rw [ofItems] at endless
      rcases bind_eq_error endless with first | ⟨document, -, later⟩
      · exact ⟨item, List.mem_cons_self, exists_cycle_of_ofDatumAt item first⟩
      · rcases bind_eq_error later with behind | ⟨documents, -, made⟩
        · obtain ⟨other, among, cycle⟩ := exists_cycle_of_ofItems rest behind
          exact ⟨other, List.mem_cons_of_mem _ among, cycle⟩
        · cases made

theorem exists_cycle_of_ofEntries {path : Path} (entries : List (Key × Datum))
    (endless : ofEntries path entries = .error .endless) :
    ∃ entry ∈ entries, ∃ name, ReflTransGen Datum.HasPart entry.2 (.cycle name) := by
  match entries with
  | [] => cases endless
  | (key, value) :: rest =>
      unfold ofEntries at endless
      split at endless
      · rename_i empty
        cases empty
      · rename_i name other later same
        cases same
        rcases bind_eq_error endless with first | ⟨document, -, afterFirst⟩
        · exact ⟨_, List.mem_cons_self, exists_cycle_of_ofDatumAt value first⟩
        · rcases bind_eq_error afterFirst with behind | ⟨members, -, made⟩
          · obtain ⟨entry, among, cycle⟩ := exists_cycle_of_ofEntries rest behind
            exact ⟨entry, List.mem_cons_of_mem _ among, cycle⟩
          · cases made
      · exact absurd (Except.error.inj endless) (refusal_ne_endless path _)

end

end Document

end Logicless
