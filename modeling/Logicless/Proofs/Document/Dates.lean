import Logicless.Document.Load
import Logicless.Proofs.Document.Flaws
import Logicless.Proofs.Document.Places
import Mathlib

/-!
Dates in data that are made documents. Outside of tuples every date becomes its text, however deep it
stands, and nothing else changes. What is inside a tuple stays as it is, so that a date there is not
replaced, and the data are then no document.
-/

set_option autoImplicit false

namespace Logicless

namespace Datum

def isDate : Datum → Bool
  | .scalar (.date _) | .scalar (.moment _) => true
  | _ => false

def isTuple : Datum → Bool
  | .tuple _ => true
  | _ => false

/-- A date as the text of its common form; any other datum as it is. -/
def dateText : Datum → Datum
  | .scalar (.date value) => .text value.iso
  | .scalar (.moment value) => .text value.iso
  | other => other

/-- Whether there is a tuple on the way to a place. -/
def crossesTuple (datum : Datum) : List Nat → Bool
  | [] => false
  | number :: place =>
    datum.isTuple || datum.parts[number]?.any fun part => part.crossesTuple place

/-- Apart from its parts, a datum changes only if it is a date itself. -/
theorem shell_undated (datum : Datum) : datum.undated.shell = datum.dateText.shell := by
  cases datum with
  | scalar value => cases value <;> rfl
  | list items =>
      simp only [undated, undatedItems_eq_map, shell, dateText, List.map_map, Function.comp_def]
  | dict entries =>
      simp only [undated, undatedEntries_eq_map, shell, dateText, List.map_map, Function.comp_def]
  | tuple items | set items | document value | cycle name => rfl

theorem isDate_undated (datum : Datum) : datum.undated.isDate = false := by
  cases datum with
  | scalar value => cases value <;> rfl
  | _ => rfl

/-- What becomes of a datum inside a tuple and of one elsewhere. -/
def undatedUnless (inTuple : Bool) (datum : Datum) : Datum := if inTuple then datum else datum.undated

theorem shell_undatedUnless (inTuple : Bool) (datum : Datum) :
    (datum.undatedUnless inTuple).shell = (if inTuple then datum else datum.dateText).shell := by
  cases inTuple with
  | true => rfl
  | false => exact datum.shell_undated

theorem isDate_undatedUnless_iff (inTuple : Bool) (datum : Datum) :
    (datum.undatedUnless inTuple).isDate = true ↔ datum.isDate = true ∧ inTuple = true := by
  cases inTuple with
  | true => exact ⟨fun date => ⟨date, rfl⟩, And.left⟩
  | false =>
      rw [undatedUnless, if_neg Bool.false_ne_true, isDate_undated]
      exact ⟨nofun, nofun⟩

theorem elements_undatedUnless (inTuple : Bool) (datum : Datum) :
    (datum.undatedUnless inTuple).elements =
      datum.elements.map (undatedUnless (inTuple || datum.isTuple)) := by
  cases inTuple with
  | true => exact (List.map_id _).symm
  | false =>
      cases datum with
      | scalar value => cases value <;> rfl
      | list items => exact undatedItems_eq_map items
      | tuple items => exact (List.map_id _).symm
      | dict entries | set items | document value | cycle name => rfl

theorem entries_undatedUnless (inTuple : Bool) (datum : Datum) :
    (datum.undatedUnless inTuple).entries =
      datum.entries.map fun entry =>
        (entry.1, entry.2.undatedUnless (inTuple || datum.isTuple)) := by
  cases inTuple with
  | true => exact (List.map_id _).symm
  | false =>
      cases datum with
      | scalar value => cases value <;> rfl
      | dict entries => exact undatedEntries_eq_map entries
      | list items | tuple items | set items | document value | cycle name => rfl

theorem parts_undatedUnless (inTuple : Bool) (datum : Datum) :
    (datum.undatedUnless inTuple).parts =
      datum.parts.map (undatedUnless (inTuple || datum.isTuple)) := by
  simp only [parts_eq, elements_undatedUnless, entries_undatedUnless, List.map_append, List.map_map,
    Function.comp_def]

/-- The same places are filled before and after, and what becomes of a datum depends on the way to it
alone. The induction follows the way; a tuple on it decides for everything behind. -/
theorem at?_undatedUnless (inTuple : Bool) (root : Datum) (place : List Nat) :
    (root.undatedUnless inTuple).at? place =
      (root.at? place).map (undatedUnless (inTuple || root.crossesTuple place)) := by
  induction place generalizing inTuple root with
  | nil =>
      rw [crossesTuple, Bool.or_false]
      rfl
  | cons number place ih =>
      rw [at?_cons, at?_cons, parts_undatedUnless, List.getElem?_map, crossesTuple]
      cases root.parts[number]? with
      | none => rfl
      | some part =>
          have below := ih (inTuple || root.isTuple) part
          rw [Bool.or_assoc] at below
          exact below

theorem at?_undated (root : Datum) (place : List Nat) :
    root.undated.at? place = (root.at? place).map (undatedUnless (root.crossesTuple place)) :=
  at?_undatedUnless false root place

theorem crossesTuple_concat {root outer : Datum} {place : List Nat}
    (stands : root.at? place = some outer) (number : Nat) :
    root.crossesTuple (place ++ [number]) = (root.crossesTuple place || outer.isTuple) := by
  induction place generalizing root with
  | nil =>
      cases stands
      rw [List.nil_append, crossesTuple, crossesTuple]
      cases outer.parts[number]? <;> simp [crossesTuple]
  | cons first place ih =>
      obtain ⟨part, found, below⟩ := Option.bind_eq_some_iff.mp stands
      rw [List.cons_append, crossesTuple, crossesTuple, found, Option.any_some, Option.any_some,
        ih below, Bool.or_assoc]

/-- A path through data with their dates replaced is a path through the data themselves, to what it was
before. -/
theorem Leads.of_undated {root part : Datum} {path : Path} (leads : root.undated.Leads path part) :
    ∃ place source, root.at? place = some source ∧ root.Leads path source ∧
      part = source.undatedUnless (root.crossesTuple place) := by
  induction leads with
  | root => exact ⟨[], root, rfl, .root, rfl⟩
  | @element path outer item index before found ih =>
      obtain ⟨place, source, stands, leads, rfl⟩ := ih
      rw [elements_undatedUnless, List.getElem?_map, Option.map_eq_some_iff] at found
      obtain ⟨inner, listed, rfl⟩ := found
      refine ⟨place ++ [index], inner, at?_concat stands (parts_of_elements listed),
        leads.element listed, ?_⟩
      rw [crossesTuple_concat stands]
  | @member path outer value key before found ih =>
      obtain ⟨place, source, stands, leads, rfl⟩ := ih
      rw [entries_undatedUnless, List.mem_map] at found
      obtain ⟨entry, among, same⟩ := found
      cases same
      obtain ⟨number, listed⟩ := List.getElem?_of_mem (hasPart_of_entries among)
      refine ⟨place ++ [number], entry.2, at?_concat stands listed, leads.member among, ?_⟩
      rw [crossesTuple_concat stands]

theorem fits_dict_iff (entries : List (Key × Datum)) :
    (Datum.dict entries).Fits ↔ ∀ key ∈ entries.map Prod.fst, ∃ name, key = .scalar (.text name) := by
  rw [List.forall_mem_map]
  constructor
  · rintro ⟨⟩
    assumption
  · exact .dict entries

theorem fits_undated_of_eq {datum : Datum} (same : datum.undated = datum)
    (other : datum.isDate = false) : datum.undated.Fits ↔ datum.Fits ∨ datum.isDate = true := by
  rw [same, other]
  exact ⟨.inl, fun either => either.resolve_right Bool.false_ne_true⟩

/-- With its dates replaced, a datum fits if it did before or if it was a date. -/
theorem fits_undated_iff (datum : Datum) : datum.undated.Fits ↔ datum.Fits ∨ datum.isDate = true := by
  cases datum with
  | scalar value =>
      cases value with
      | date value | moment value => exact ⟨fun _ => .inr rfl, fun _ => .text _⟩
      | _ => exact fits_undated_of_eq rfl rfl
  | list items => exact ⟨fun _ => .inl (.list items), fun _ => .list _⟩
  | dict entries =>
      have keys : (undatedEntries entries).map Prod.fst = entries.map Prod.fst := by
        rw [undatedEntries_eq_map, List.map_map]
        rfl
      rw [undated, fits_dict_iff, fits_dict_iff, keys]
      exact ⟨.inl, fun either => either.resolve_right Bool.false_ne_true⟩
  | tuple items | set items | document value | cycle name => exact fits_undated_of_eq rfl rfl

theorem fits_undatedUnless_iff (inTuple : Bool) (datum : Datum) :
    (datum.undatedUnless inTuple).Fits ↔ datum.Fits ∨ datum.isDate = true ∧ inTuple = false := by
  cases inTuple with
  | true => simp [undatedUnless]
  | false => simpa [undatedUnless] using datum.fits_undated_iff

/-- With dates replaced everything fits if and only if everything did before, dates outside of tuples
aside. -/
theorem forall_fits_undated_iff (root : Datum) :
    (∀ path part, root.undated.Leads path part → part.Fits) ↔
      ∀ place part, root.at? place = some part →
        part.Fits ∨ part.isDate = true ∧ root.crossesTuple place = false := by
  constructor
  · intro fits place part stands
    have becomes := at?_undated root place
    rw [stands] at becomes
    obtain ⟨path, leads⟩ := Leads.root.exists_of_at? becomes
    exact (fits_undatedUnless_iff _ part).mp (fits path _ leads)
  · intro given path part leads
    obtain ⟨place, source, stands, -, rfl⟩ := leads.of_undated
    exact (fits_undatedUnless_iff _ source).mpr (given place source stands)

/-- What is refused for being a date is one, and the error names its path. -/
theorem isDate_of_offence {datum : Datum} {path other : Path} {name : String}
    (offence : datum.offence? path = some (.unsupported other name))
    (dated : name = "date" ∨ name = "datetime") : other = path ∧ datum.isDate = true := by
  cases datum with
  | scalar value =>
      cases value with
      | date value | moment value =>
          cases offence
          exact ⟨rfl, rfl⟩
      | float value spelling => cases value <;> cases offence
      | bytes value | object =>
          cases offence
          simp [typeName, Scalar.typeName] at dated
      | null | bool value | int value spelling | text value => cases offence
  | set items | document value =>
      cases offence
      simp [typeName] at dated
  | list items | tuple items | dict entries | cycle name => cases offence

/-- A date that is refused though dates were replaced stands inside a tuple. -/
theorem exists_date_of_refused {root : Datum} {path : Path} {name : String}
    (refused : Document.ofDatum root.undated = .error (.unsupported path name))
    (dated : name = "date" ∨ name = "datetime") :
    ∃ place part, root.at? place = some part ∧ root.Leads path part ∧ part.isDate = true ∧
      root.crossesTuple place = true := by
  have raw : ∀ value, root.undated ≠ .document value := by
    intro value same
    rw [same] at refused
    cases refused
  rw [Document.ofDatum_of_raw raw] at refused
  have judged := Document.judged_ofDatumAt [] root.undated
  obtain ⟨before, visit, after, split, offence, -⟩ := (judged.error_iff _).mp refused
  have among : visit ∈ root.undated.visits [] := by
    rw [split]
    exact List.mem_append_right _ List.mem_cons_self
  have stands := (root.undated.mem_visits_iff visit).mp among
  cases visit with
  | atKey route key =>
      obtain ⟨-, refusal⟩ := Key.offence?_eq_some_iff.mp offence
      unfold Key.refusal at refusal
      split at refusal <;> cases refusal
  | atValue route part =>
      obtain ⟨rfl, date⟩ := isDate_of_offence offence dated
      obtain ⟨place, source, found, leads, rfl⟩ := Leads.of_undated stands
      obtain ⟨dateBefore, crosses⟩ := (isDate_undatedUnless_iff _ source).mp date
      exact ⟨place, source, found, leads, dateBefore, crosses⟩

/-- Replacing dates gives no document that was not there before. -/
theorem undated_ne_document {datum : Datum} (raw : ¬ ∃ value, datum = .document value)
    (value : Document) : datum.undated ≠ .document value := by
  cases datum with
  | document other => exact absurd ⟨other, rfl⟩ raw
  | scalar other => cases other <;> nofun
  | list items | tuple items | dict entries | set items | cycle name => nofun

/-- Data with their dates replaced are the only data with the same in every place, but for the dates
outside of tuples, each of which is its text. They are a document if and only if everything in the data
fits, such dates aside. So a date that is still refused is inside a tuple, and the error names a path to
it. -/
theorem undated_outcome (root : Datum) :
    (∀ other, other = root.undated ↔
      ∀ place, (other.at? place).map shell = (root.at? place).map fun part =>
        (if root.crossesTuple place then part else part.dateText).shell) ∧
    ((∃ document, Document.ofDatum root.undated = .ok document) ↔
      (∃ value, root = .document value) ∨
        ∀ place part, root.at? place = some part →
          part.Fits ∨ part.isDate = true ∧ root.crossesTuple place = false) ∧
    ∀ path name, Document.ofDatum root.undated = .error (.unsupported path name) →
      name = "date" ∨ name = "datetime" →
        ∃ place part, root.at? place = some part ∧ root.Leads path part ∧ part.isDate = true ∧
          root.crossesTuple place = true := by
  refine ⟨fun other => ?_, ?_, fun path name => exists_date_of_refused⟩
  · have shells (place : List Nat) : (root.undated.at? place).map shell =
        (root.at? place).map fun part =>
          (if root.crossesTuple place then part else part.dateText).shell := by
      rw [at?_undated, Option.map_map]
      exact congrArg (Option.map · _) (funext (shell_undatedUnless _))
    constructor
    · rintro rfl
      exact shells
    · intro same
      exact eq_of_shells_eq fun place => (same place).trans (shells place).symm
  · by_cases document : ∃ value, root = .document value
    · obtain ⟨value, rfl⟩ := document
      exact ⟨fun _ => .inl ⟨value, rfl⟩, fun _ => ⟨value, rfl⟩⟩
    · rw [Document.ofDatum_of_raw (undated_ne_document document),
        (Document.judged_ofDatumAt [] root.undated).ok_iff, visits_fine_iff, forall_fits_undated_iff]
      exact ⟨.inr, fun either => either.resolve_left document⟩

def datedPair : Datum := .list [.tuple [.text "a", .scalar (.date ⟨2024, 5, 1⟩)]]

/-- The date of a pair is refused, and it is inside a tuple. -/
theorem undated_outcome_datedPair :
    Document.ofDatum datedPair.undated = .error (.unsupported [.element 1, .element 0] "date") ∧
      ∃ place part, datedPair.at? place = some part ∧
        datedPair.Leads [.element 1, .element 0] part ∧ part.isDate = true ∧
        datedPair.crossesTuple place = true :=
  ⟨rfl, (undated_outcome datedPair).2.2 _ _ rfl (.inl rfl)⟩

theorem read_datedPair : Yaml.read "!!pairs [a: 2024-05-01]" = .ok datedPair := by
  have cut : Yaml.tokens "!!pairs [a: 2024-05-01]".toList =
      [.tag (some "!!") "pairs", .flowSequenceStart, .key, .scalar "a" true, .value,
        .scalar "2024-05-01" true, .flowSequenceEnd, .streamEnd] := by decide +kernel
  have tree : Yaml.Node.read [.tag (some "!!") "pairs", .flowSequenceStart, .key, .scalar "a" true,
        .value, .scalar "2024-05-01" true, .flowSequenceEnd, .streamEnd] =
      .ok (some (.sequence .pairs [.mapping .map
        [(.scalar .str "a".toList, .scalar .timestamp "2024-05-01".toList)]])) := by cbv
  have built : (Yaml.Node.sequence .pairs [.mapping .map
      [(.scalar .str "a".toList, .scalar .timestamp "2024-05-01".toList)]]).toDatum =
        .ok datedPair := by cbv
  rw [Yaml.read, cut, tree]
  exact built

/-- Not every date is replaced: that of a pair in a text is left, and the text gives no document. -/
theorem date_left_in_pair :
    Yaml.read "!!pairs [a: 2024-05-01]" = .ok datedPair ∧
      datedPair.undated.at? [0, 1] = some (.scalar (.date ⟨2024, 5, 1⟩)) ∧
      Document.load "!!pairs [a: 2024-05-01]" "yaml" =
        .error (.shape (.unsupported [.element 1, .element 0] "date")) := by
  refine ⟨read_datedPair, rfl, ?_⟩
  have data : Document.readYaml "!!pairs [a: 2024-05-01]" = .ok datedPair := by
    rw [Document.readYaml, read_datedPair]
    rfl
  calc Document.load "!!pairs [a: 2024-05-01]" "yaml"
    _ = Document.loadAs .yaml "!!pairs [a: 2024-05-01]" := rfl
    _ = .error (.shape (.unsupported [.element 1, .element 0] "date")) := by
      rw [Document.loadAs, Document.readAs, data]
      rfl

end Datum

end Logicless
