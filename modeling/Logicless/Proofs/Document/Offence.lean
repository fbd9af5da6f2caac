import Logicless.Proofs.Document.Parts
import Mathlib.Algebra.Group.Nat.Defs

/-!
Which data are documents, and why the others are not. Data are looked at in depth-first order: each
value before its parts, elements and entries in order, each key just before its value. What is met
first that no document can hold is the error, whatever stands behind it; and data without such a
place are a document.
-/

set_option autoImplicit false

namespace Logicless

open Number

namespace Datum

/-- What a document can hold in one place, whatever is inside it. -/
inductive Fits : Datum → Prop where
  | null : Fits (.scalar .null)
  | bool (value : Bool) : Fits (.scalar (.bool value))
  | int (value : Int) (spelling : Option String) : Fits (.scalar (.int value spelling))
  | float (value : Finite64) (spelling : Option String) :
    Fits (.scalar (.float (.finite value) spelling))
  | text (value : String) : Fits (.scalar (.text value))
  | list (items : List Datum) : Fits (.list items)
  | tuple (items : List Datum) : Fits (.tuple items)
  | dict (entries : List (Key × Datum))
    (named : ∀ entry ∈ entries, ∃ name, entry.1 = .scalar (.text name)) : Fits (.dict entries)

def elements : Datum → List Datum
  | .list items | .tuple items => items
  | .scalar _ | .dict _ | .set _ | .document _ | .cycle _ => []

def entries : Datum → List (Key × Datum)
  | .dict entries => entries
  | .scalar _ | .list _ | .tuple _ | .set _ | .document _ | .cycle _ => []

/-- A path leads from the root to a value inside it, through elements and values of entries. -/
inductive Leads (root : Datum) : Path → Datum → Prop where
  | root : Leads root [] root
  | element {path : Path} {outer item : Datum} {index : Nat} (before : Leads root path outer)
    (found : outer.elements[index]? = some item) : Leads root (.element index :: path) item
  | member {path : Path} {outer value : Datum} {key : Key} (before : Leads root path outer)
    (found : (key, value) ∈ outer.entries) : Leads root (.member key.plainText :: path) value

end Datum

/-- What keeps a value at a path out of a document, whatever is inside it. -/
def Datum.offence? (path : Path) : Datum → Option ShapeError
  | .scalar (.float (.finite _) _) => none
  | .scalar (.float value _) => some (.notFinite path value)
  | .cycle _ => some .endless
  | datum => if datum.kind?.isSome then none else some (.unsupported path datum.typeName)

/-- What keeps a key of the dictionary at a path out of a document. -/
def Key.offence? (path : Path) : Key → Option ShapeError
  | .scalar (.text _) => none
  | key => some (key.refusal path)

theorem Key.offence?_of_unnamed (path : Path) {key : Key}
    (unnamed : ∀ name, key ≠ .scalar (.text name)) :
    key.offence? path = some (key.refusal path) := by
  unfold offence?
  split
  · rename_i name
    exact absurd rfl (unnamed name)
  · rfl

/-- The key of a text is no offence, and any other key is one. -/
theorem Key.offence?_eq_some_iff {path : Path} {key : Key} {error : ShapeError} :
    key.offence? path = some error ↔
      (∀ name, key ≠ .scalar (.text name)) ∧ error = key.refusal path := by
  constructor
  · intro offence
    have unnamed : ∀ name, key ≠ .scalar (.text name) := by
      rintro name rfl
      cases offence
    rw [key.offence?_of_unnamed path unnamed] at offence
    exact ⟨unnamed, (Option.some.inj offence).symm⟩
  · rintro ⟨unnamed, rfl⟩
    exact key.offence?_of_unnamed path unnamed

/-- What is looked at in data: a value at its path, or a key of the dictionary at that path. -/
inductive Visit where
  | atValue (path : Path) (datum : Datum)
  | atKey (path : Path) (key : Key)

namespace Visit

def path : Visit → Path
  | .atValue path _ | .atKey path _ => path

def offence? : Visit → Option ShapeError
  | .atValue path datum => datum.offence? path
  | .atKey path key => key.offence? path

/-- The value or the key stands in data at that path. -/
def StandsIn (root : Datum) : Visit → Prop
  | .atValue path datum => root.Leads path datum
  | .atKey path key => ∃ outer value, root.Leads path outer ∧ (key, value) ∈ outer.entries

end Visit

namespace Datum

mutual

/-- All that is looked at in a datum at a path, in depth-first order. -/
def visits (path : Path) : Datum → List Visit
  | .list items => .atValue path (.list items) :: visitsOfItems path 0 items
  | .tuple items => .atValue path (.tuple items) :: visitsOfItems path 0 items
  | .dict entries => .atValue path (.dict entries) :: visitsOfEntries path entries
  | other => [.atValue path other]

def visitsOfItems (path : Path) (index : Nat) : List Datum → List Visit
  | [] => []
  | item :: rest =>
    visits (.element index :: path) item ++ visitsOfItems path (index + 1) rest

def visitsOfEntries (path : Path) : List (Key × Datum) → List Visit
  | [] => []
  | (key, value) :: rest =>
    .atKey path key :: (visits (.member key.plainText :: path) value ++ visitsOfEntries path rest)

end

end Datum

/-! The first offence is the error -/

/-- A result is that of looking at all visits in order: the first offence is the error. -/
def Judged {α : Type} (visits : List Visit) (result : Except ShapeError α) : Prop :=
  match visits.findSome? Visit.offence? with
  | some error => result = .error error
  | none => ∃ value, result = .ok value

namespace Judged

variable {α β : Type}

theorem nil (value : α) : Judged [] (.ok value) := ⟨value, rfl⟩

theorem of_offence {visit : Visit} {error : ShapeError} (offence : visit.offence? = some error)
    (rest : List Visit) : Judged (visit :: rest) (.error error : Except ShapeError α) := by
  rw [Judged, List.findSome?_cons, offence]

theorem cons {visit : Visit} {rest : List Visit} {result : Except ShapeError α}
    (fine : visit.offence? = none) (judged : Judged rest result) : Judged (visit :: rest) result := by
  rw [Judged, List.findSome?_cons, fine]
  exact judged

/-- What is looked at behind some visits counts only where these are without offence. -/
theorem bind {first second : List Visit} {result : Except ShapeError α}
    {next : α → Except ShapeError β} (judged : Judged first result)
    (onward : ∀ value, Judged second (next value)) : Judged (first ++ second) (result.bind next) := by
  unfold Judged at judged ⊢
  rw [List.findSome?_append]
  cases found : first.findSome? Visit.offence? with
  | some error =>
      rw [found] at judged
      rw [judged]
      rfl
  | none =>
      rw [found] at judged
      obtain ⟨value, rfl⟩ := judged
      exact onward value

theorem ok_iff {visits : List Visit} {result : Except ShapeError α} (judged : Judged visits result) :
    (∃ value, result = .ok value) ↔ ∀ visit ∈ visits, visit.offence? = none := by
  rw [← List.findSome?_eq_none_iff]
  unfold Judged at judged
  cases found : visits.findSome? Visit.offence? with
  | some error =>
      rw [found] at judged
      rw [judged]
      exact ⟨nofun, nofun⟩
  | none =>
      rw [found] at judged
      exact ⟨fun _ => rfl, fun _ => judged⟩

theorem error_iff {visits : List Visit} {result : Except ShapeError α} (judged : Judged visits result)
    (error : ShapeError) :
    result = .error error ↔ ∃ before visit after, visits = before ++ visit :: after ∧
      visit.offence? = some error ∧ ∀ earlier ∈ before, earlier.offence? = none := by
  rw [← List.findSome?_eq_some_iff]
  unfold Judged at judged
  cases found : visits.findSome? Visit.offence? with
  | some first =>
      rw [found] at judged
      rw [judged, Except.error.injEq, Option.some.injEq]
  | none =>
      rw [found] at judged
      obtain ⟨value, rfl⟩ := judged
      exact ⟨nofun, nofun⟩

end Judged

open Datum in
theorem judged_ofScalar (path : Path) (value : Scalar) :
    Judged (visits path (.scalar value)) (Document.ofScalar path value) := by
  cases value with
  | float value spelling =>
      cases value with
      | finite value => exact .cons rfl (.nil _)
      | infinite negative | notANumber => exact .of_offence rfl _
  | null | bool | int | text => exact .cons rfl (.nil _)
  | bytes | date | moment | object => exact .of_offence rfl _

namespace Document

open Datum

mutual

/-- The check of a datum is that of all that is looked at in it. -/
theorem judged_ofDatumAt (path : Path) (datum : Datum) :
    Judged (visits path datum) (ofDatumAt path datum) := by
  match datum with
  | .scalar value =>
      rw [ofDatumAt]
      exact judged_ofScalar path value
  | .list items | .tuple items =>
      rw [ofDatumAt, visits, ← List.append_nil (visitsOfItems path 0 items)]
      exact .cons rfl (.bind (judged_ofItems path 0 items) fun _ => .nil _)
  | .dict entries =>
      rw [ofDatumAt, visits, ← List.append_nil (visitsOfEntries path entries)]
      exact .cons rfl (.bind (judged_ofEntries path entries) fun _ => .nil _)
  | .set _ | .document _ | .cycle _ =>
      rw [ofDatumAt]
      exact .of_offence rfl _

theorem judged_ofItems (path : Path) (index : Nat) (items : List Datum) :
    Judged (visitsOfItems path index items) (ofItems path index items) := by
  match items with
  | [] => exact .nil _
  | item :: rest =>
      rw [ofItems, visitsOfItems]
      refine .bind (judged_ofDatumAt _ item) fun first => ?_
      rw [← List.append_nil (visitsOfItems path (index + 1) rest)]
      exact .bind (judged_ofItems path (index + 1) rest) fun _ => .nil _

theorem judged_ofEntries (path : Path) (entries : List (Key × Datum)) :
    Judged (visitsOfEntries path entries) (ofEntries path entries) := by
  match entries with
  | [] => exact .nil _
  | (key, value) :: rest =>
      unfold ofEntries
      split
      · rename_i empty
        cases empty
      · rename_i name part later same
        cases same
        rw [visitsOfEntries]
        refine .cons rfl (.bind (judged_ofDatumAt _ value) fun first => ?_)
        rw [← List.append_nil (visitsOfEntries path rest)]
        exact .bind (judged_ofEntries path rest) fun _ => .nil _
      · rename_i other part later unnamed same
        cases same
        have offence : (Visit.atKey path key).offence? = some (key.refusal path) :=
          key.offence?_of_unnamed path unnamed
        exact .of_offence offence _

end

end Document

/-! What is looked at is all that stands in the data -/

theorem Key.offence?_eq_none_iff (path : Path) (key : Key) :
    key.offence? path = none ↔ ∃ name, key = .scalar (.text name) := by
  constructor
  · intro fine
    by_cases named : ∃ name, key = .scalar (.text name)
    · exact named
    · rw [key.offence?_of_unnamed path (not_exists.mp named)] at fine
      cases fine
  · rintro ⟨name, rfl⟩
    rfl

namespace Datum

/-- A value fits if neither it nor, in a dictionary, one of its keys is an offence. -/
theorem fits_iff (path : Path) (datum : Datum) :
    datum.Fits ↔
      datum.offence? path = none ∧ ∀ entry ∈ datum.entries, entry.1.offence? path = none := by
  constructor
  · rintro (_ | _ | _ | _ | _ | _ | _ | ⟨entries, named⟩)
    case dict =>
        refine ⟨rfl, fun entry among => ?_⟩
        exact (entry.1.offence?_eq_none_iff path).mpr (named entry among)
    all_goals exact ⟨rfl, nofun⟩
  · rintro ⟨fine, named⟩
    cases datum with
    | scalar value =>
        cases value with
        | float value spelling =>
            cases value with
            | finite value => exact .float value spelling
            | infinite | notANumber => cases fine
        | null => exact .null
        | bool value => exact .bool value
        | int value spelling => exact .int value spelling
        | text value => exact .text value
        | bytes | date | moment | object => cases fine
    | list items => exact .list items
    | tuple items => exact .tuple items
    | dict entries =>
        exact .dict entries fun entry among => (entry.1.offence?_eq_none_iff path).mp (named entry among)
    | set | document | cycle => cases fine

theorem atValue_mem_visits (path : Path) (datum : Datum) : .atValue path datum ∈ visits path datum := by
  cases datum <;> exact List.mem_cons_self

theorem atKey_mem_visitsOfEntries (path : Path) {entries : List (Key × Datum)} {entry : Key × Datum}
    (among : entry ∈ entries) : .atKey path entry.1 ∈ visitsOfEntries path entries := by
  induction entries with
  | nil => cases among
  | cons first rest ih =>
      rw [visitsOfEntries]
      rcases List.mem_cons.mp among with rfl | later
      · exact List.mem_cons_self
      · exact List.mem_cons_of_mem _ (List.mem_append_right _ (ih later))

theorem atKey_mem_visits (path : Path) {datum : Datum} {entry : Key × Datum}
    (among : entry ∈ datum.entries) : .atKey path entry.1 ∈ visits path datum := by
  cases datum with
  | dict entries => exact List.mem_cons_of_mem _ (atKey_mem_visitsOfEntries path among)
  | _ => cases among

theorem visits_item_subset (path : Path) (index : Nat) {items : List Datum} {offset : Nat}
    {item : Datum} (found : items[offset]? = some item) :
    visits (.element (index + offset) :: path) item ⊆ visitsOfItems path index items := by
  induction items generalizing index offset with
  | nil => cases found
  | cons first rest ih =>
      rw [visitsOfItems]
      cases offset with
      | zero =>
          cases found
          exact List.subset_append_left _ _
      | succ offset =>
          have later := ih (index + 1) found
          rw [Nat.succ_add_eq_add_succ] at later
          exact List.subset_append_of_subset_right _ later

theorem visits_value_subset (path : Path) {entries : List (Key × Datum)} {key : Key} {value : Datum}
    (among : (key, value) ∈ entries) :
    visits (.member key.plainText :: path) value ⊆ visitsOfEntries path entries := by
  induction entries with
  | nil => cases among
  | cons first rest ih =>
      rw [visitsOfEntries]
      rcases List.mem_cons.mp among with rfl | later
      · exact List.subset_cons_of_subset _ (List.subset_append_left _ _)
      · exact List.subset_cons_of_subset _ (List.subset_append_of_subset_right _ (ih later))

/-- Where a path leads, everything is looked at. -/
theorem Leads.visits_subset {root part : Datum} {path : Path} (leads : root.Leads path part) :
    visits path part ⊆ visits [] root := by
  induction leads with
  | root => exact List.Subset.refl _
  | @element path outer item index before found ih =>
      refine List.Subset.trans ?_ ih
      have inside := visits_item_subset path 0 found
      rw [Nat.zero_add] at inside
      cases outer with
      | list items | tuple items => exact List.subset_cons_of_subset _ inside
      | _ => cases found
  | @member path outer value key before found ih =>
      refine List.Subset.trans ?_ ih
      cases outer with
      | dict entries => exact List.subset_cons_of_subset _ (visits_value_subset path found)
      | _ => cases found

mutual

/-- Everything that is looked at stands in the data at its path. -/
theorem Leads.standsIn {root : Datum} {path : Path} (datum : Datum) (leads : root.Leads path datum) :
    ∀ visit ∈ visits path datum, visit.StandsIn root := by
  intro visit among
  match datum with
  | .list items | .tuple items =>
      rcases List.mem_cons.mp among with rfl | inside
      · exact leads
      · refine leads.standsIn_items items ?_ visit inside
        intro offset item found
        rw [Nat.zero_add]
        exact found
  | .dict entries =>
      rcases List.mem_cons.mp among with rfl | inside
      · exact leads
      · exact leads.standsIn_entries entries (fun _ => id) visit inside
  | .scalar _ | .set _ | .document _ | .cycle _ =>
      obtain rfl := List.mem_singleton.mp among
      exact leads

theorem Leads.standsIn_items {root outer : Datum} {path : Path} {index : Nat} (items : List Datum)
    (leads : root.Leads path outer)
    (inside : ∀ offset item, items[offset]? = some item → outer.elements[index + offset]? = some item) :
    ∀ visit ∈ visitsOfItems path index items, visit.StandsIn root := by
  intro visit among
  match items with
  | [] => cases among
  | item :: rest =>
      rw [visitsOfItems] at among
      rcases List.mem_append.mp among with first | later
      · exact Leads.standsIn item (leads.element (inside 0 item rfl)) visit first
      · refine leads.standsIn_items rest ?_ visit later
        intro offset other found
        rw [Nat.succ_add_eq_add_succ]
        exact inside (offset + 1) other found

theorem Leads.standsIn_entries {root outer : Datum} {path : Path} (entries : List (Key × Datum))
    (leads : root.Leads path outer) (inside : ∀ entry ∈ entries, entry ∈ outer.entries) :
    ∀ visit ∈ visitsOfEntries path entries, visit.StandsIn root := by
  intro visit among
  match entries with
  | [] => cases among
  | (key, value) :: rest =>
      rw [visitsOfEntries] at among
      have stands := inside (key, value) List.mem_cons_self
      rcases List.mem_cons.mp among with rfl | behind
      · exact ⟨outer, value, leads, stands⟩
      · rcases List.mem_append.mp behind with first | later
        · exact Leads.standsIn value (leads.member stands) visit first
        · exact leads.standsIn_entries rest
            (fun entry member => inside entry (List.mem_cons_of_mem _ member)) visit later

end

/-- What is looked at is all that stands in the data. -/
theorem mem_visits_iff (root : Datum) (visit : Visit) : visit ∈ root.visits [] ↔ visit.StandsIn root := by
  constructor
  · exact Leads.standsIn root .root visit
  · intro stands
    cases visit with
    | atValue path part => exact stands.visits_subset (atValue_mem_visits path part)
    | atKey path key =>
        obtain ⟨outer, value, leads, inside⟩ := stands
        exact leads.visits_subset (atKey_mem_visits path inside)

/-- Nothing that is looked at is an offence if and only if all that can be reached fits. -/
theorem visits_fine_iff (root : Datum) :
    (∀ visit ∈ root.visits [], visit.offence? = none) ↔
      ∀ path part, root.Leads path part → part.Fits := by
  simp only [mem_visits_iff]
  constructor
  · intro fine path part leads
    rw [fits_iff path]
    exact ⟨fine (.atValue path part) leads,
      fun entry among => fine (.atKey path entry.1) ⟨part, entry.2, leads, among⟩⟩
  · intro fits visit stands
    cases visit with
    | atValue path part => exact ((fits_iff path part).mp (fits path part stands)).1
    | atKey path key =>
        obtain ⟨outer, value, leads, inside⟩ := stands
        exact ((fits_iff path outer).mp (fits path outer leads)).2 (key, value) inside

end Datum

theorem append_colon {mark first : String} (split : mark = ": " ++ first) (path rest : String) :
    path ++ mark ++ rest = path ++ ": " ++ (first ++ rest) := by
  rw [split, String.append_assoc, String.append_assoc, String.append_assoc]

/-- The errors that name the place of an offence. -/
def ShapeError.isOwn : ShapeError → Bool
  | .unsupported .. | .notFinite .. | .keyNotText .. => true
  | .unwritable | .endless => false

theorem Scalar.isWritable_int_iff (value : Int) (spelling : Option String) :
    (Scalar.int value spelling).isWritable = true ↔ value.natAbs < 10 ^ maxDecimalDigits := by
  have base : 1 < 10 := by decide
  have some : 0 < maxDecimalDigits := by decide
  rw [isWritable, Number.isWritable, decide_eq_true_iff, Nat.length_toDigits_le_iff base some]

/-- The error of an offence names its place: its message starts with the path of the value, or of the
dictionary with the key. Two offences have errors that name none: a key that cannot be shown, and a
collection inside itself. -/
theorem Visit.message_of_offence {visit : Visit} {error : ShapeError}
    (offence : visit.offence? = some error) :
    (error.isOwn = true ∧ ∃ cause, error.message = visit.path.text ++ ": " ++ cause) ∨
      (error = .unwritable ∧ ∃ key, visit = .atKey visit.path key ∧ key.isWritable = false) ∨
      error = .endless ∧ ∃ name, visit = .atValue visit.path (.cycle name) := by
  cases visit with
  | atValue path datum =>
      rw [offence?] at offence
      unfold Datum.offence? at offence
      split at offence
      · cases offence
      · cases offence
        exact .inl ⟨rfl, _, append_colon
          (show ": non-finite number " = _ ++ "non-finite number " from rfl) _ _⟩
      · cases offence
        exact .inr (.inr ⟨rfl, _, rfl⟩)
      · split at offence
        · cases offence
        · cases offence
          exact .inl ⟨rfl, _, append_colon
            (show ": unsupported value of type " = _ ++ "unsupported value of type " from rfl) _ _⟩
  | atKey path key =>
      obtain ⟨-, rfl⟩ := Key.offence?_eq_some_iff.mp offence
      unfold Key.refusal
      split
      · refine .inl ⟨rfl, "object key " ++ key.describe ++ " is not a string", ?_⟩
        rw [ShapeError.message, append_colon (show ": object key " = _ ++ "object key " from rfl),
          String.append_assoc]
        rfl
      · rename_i long
        exact .inr (.inl ⟨rfl, key, rfl, Bool.eq_false_iff.mpr long⟩)

namespace Document

theorem ofDatum_of_raw {datum : Datum} (raw : ∀ value, datum ≠ .document value) :
    ofDatum datum = ofDatumAt [] datum := by
  unfold ofDatum
  split
  · rename_i value
    exact absurd rfl (raw value)
  · rfl

/-- Data are a document if and only if all that can be reached in them fits. Otherwise the error is
that of the first offence in depth-first order, whatever stands behind it, and its message starts
with the path that leads there; where the offence is a key that cannot be shown, the error is that of
showing it. A document is taken as it is; it is an offence inside other data. -/
theorem ofDatum_outcome (datum : Datum) :
    (∀ value, datum = .document value → ofDatum datum = .ok value) ∧
    ((∀ value, datum ≠ .document value) →
      ((∃ document, ofDatum datum = .ok document) ↔
        ∀ path part, datum.Leads path part → part.Fits) ∧
      ∀ error, ofDatum datum = .error error ↔
        ∃ before visit after, datum.visits [] = before ++ visit :: after ∧
          visit.offence? = some error ∧ ∀ earlier ∈ before, earlier.offence? = none) ∧
    (∀ visit, visit ∈ datum.visits [] ↔ visit.StandsIn datum) ∧
    ∀ (visit : Visit) (error : ShapeError), visit.offence? = some error →
      (error.isOwn = true ∧ ∃ cause, error.message = visit.path.text ++ ": " ++ cause) ∨
        (error = .unwritable ∧ ∃ key, visit = .atKey visit.path key ∧ key.isWritable = false) ∨
        error = .endless ∧ ∃ name, visit = .atValue visit.path (.cycle name) := by
  refine ⟨?_, ?_, datum.mem_visits_iff, fun _ _ => Visit.message_of_offence⟩
  · rintro value rfl
    rfl
  · intro raw
    have judged := judged_ofDatumAt [] datum
    rw [ofDatum_of_raw raw, ← datum.visits_fine_iff]
    exact ⟨judged.ok_iff, judged.error_iff⟩

/-- A key of too many digits is an offence, but its error does not name the place. -/
theorem refused_without_place :
    ¬ ∀ (datum : Datum) (error : ShapeError), (∀ path name, ¬ datum.Leads path (.cycle name)) →
      ofDatum datum = .error error → error.isOwn = true := by
  intro announced
  have long : (Scalar.int (10 ^ maxDecimalDigits) none).isWritable = false := by
    rw [Bool.eq_false_iff, Ne, Scalar.isWritable_int_iff]
    simp
  let key : Key := .scalar (.int (10 ^ maxDecimalDigits) none)
  have refused : ofDatum (.dict [(key, .scalar .null)]) = .error .unwritable := by
    have refusal : key.refusal [] = .unwritable := by
      rw [Key.refusal, Key.isWritable, long]
      rfl
    rw [← refusal]
    rfl
  have straight : ∀ path name, ¬ (Datum.dict [(key, .scalar .null)]).Leads path (.cycle name) := by
    intro path name leads
    have met := leads.visits_subset (Datum.atValue_mem_visits path (.cycle name))
    simp [Datum.visits, Datum.visitsOfEntries] at met
  cases announced _ _ straight refused

/-- Of a number that is not finite, a set and a key that is no text, the first one counts. -/
example :
    (ofDatum (.dict [
      (.scalar (.text "a"), .list [.scalar .null, .scalar (.float .notANumber none), .set []]),
      (.scalar .null, .scalar .null)])).mapError ShapeError.message =
        .error "$.a[1]: non-finite number nan" := by rfl

end Document

end Logicless
