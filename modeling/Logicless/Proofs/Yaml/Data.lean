import Logicless.Proofs.Document.Flaws
import Logicless.Proofs.Yaml.Nodes
import Logicless.Proofs.Yaml.Scalars

/-!
How the data of a YAML tree fail to be built. Each failure belongs to one node of the tree: a scalar
whose text has no value under its tag, a key that is a collection, or a key that comes twice in an
ordered mapping. The flaws of data that are built come from the tree too: data that hold themselves
from a reference to a node around it, and a key that cannot be shown from a long integer in a key.
-/

set_option autoImplicit false

namespace Logicless.Yaml

open Number

namespace Node

/-- A collection, or a reference to one around it. -/
def isCompound (node : Node) : Bool := node.tag?.all Tag.isCollection

/-- An element of an ordered mapping whose key is built as the given one. -/
def BuildsKey (item : Node) (key : Key) : Prop :=
  ∃ tag name value, item = .mapping tag [(name, value)] ∧
    ∃ inKey fuel, (build inKey fuel name).bind hashable = .ok key

/-- The key that a node is built as. -/
def BuildsAs (name : Node) (key : Key) : Prop :=
  ∃ inKey fuel, ((build (some inKey) fuel name).bind keyForm).bind hashable = .ok key

/-- The node of an integer that is too long to be shown. -/
def IsLong (node : Node) : Prop :=
  ∃ text value, node.tag? = some .int ∧ scalarText node = .ok text ∧ intValue text = .ok value ∧
    10 ^ maxDecimalDigits ≤ value.natAbs

/-- Some node of a tree is an integer that is too long to be shown. -/
def HoldsLong (root : Node) : Prop := ∃ part, root.Holds part ∧ part.IsLong

/-- The failures that a single node shows. -/
inductive Strays (node : Node) : Error → Prop where
  /-- A number, a truth value or a point in time whose text has no value. -/
  | scalar {tag : Tag} {text : List Char} {error : Error} (tagged : node.tag? = some tag)
    (written : scalarText node = .ok text) (fault : ScalarFault tag text error) : Strays node error
  /-- A mapping with a collection for a key. -/
  | compoundKey {tag : Tag} {entries : List Entry} {key value : Node} {typeName : String}
    (mapping : node = .mapping tag entries) (among : (key, value) ∈ entries)
    (compound : key.isCompound = true) : Strays node (.unhashable typeName)
  /-- An ordered mapping that has a key twice. -/
  | repeatedKey {items : List Node} {first second : Node} {key other : Key}
    (ordered : node = .sequence .omap items) (apart : [first, second].Sublist items)
    (builds : first.BuildsKey key) (buildsOther : second.BuildsKey other)
    (same : key.same other = true) : Strays node .repeatedKey
  /-- A mapping that has a key twice, and an integer with it that is too long to be shown. -/
  | longRepeated {tag : Tag} {entries all : List Entry} {first second : Entry} {key other : Key}
    (mapping : node = .mapping tag entries) (flat : allEntries entries = .ok (all, true))
    (apart : [first, second].Sublist all) (builds : first.1.BuildsAs key)
    (buildsOther : second.1.BuildsAs other) (same : key.same other = true)
    (long : second.1.HoldsLong ∨ second.2.HoldsLong ∨ first.2.HoldsLong) : Strays node .unwritable

/-- A failure of form, or one that a node of a tree shows. -/
def Accounts (root : Node) (error : Error) : Prop :=
  error = .malformed ∨ ∃ part, root.Holds part ∧ part.Strays error

/-- Some node of a tree refers to a node around it. -/
def HoldsAround (root : Node) : Prop := ∃ form between, root.Holds (.around form between)

/-- Some key of a mapping in a tree holds an integer that is too long to be shown. -/
def HoldsLongKey (root : Node) : Prop :=
  ∃ key value, root.HoldsEntry key value ∧ key.HoldsLong

theorem Accounts.malformed (root : Node) : root.Accounts .malformed := .inl rfl

theorem Accounts.of_holds {root part : Node} {error : Error} (holds : root.Holds part)
    (accounts : part.Accounts error) : root.Accounts error := by
  rcases accounts with same | ⟨inner, inside, strays⟩
  · exact .inl same
  · exact .inr ⟨inner, holds.trans inside, strays⟩

theorem HoldsAround.of_holds {root part : Node} (holds : root.Holds part)
    (around : part.HoldsAround) : root.HoldsAround := by
  obtain ⟨form, between, inside⟩ := around
  exact ⟨form, between, holds.trans inside⟩

theorem HoldsLong.of_holds {root part : Node} (holds : root.Holds part) (long : part.HoldsLong) :
    root.HoldsLong := by
  obtain ⟨inner, inside, isLong⟩ := long
  exact ⟨inner, holds.trans inside, isLong⟩

theorem HoldsLongKey.of_holds {root part : Node} (holds : root.Holds part)
    (long : part.HoldsLongKey) : root.HoldsLongKey := by
  obtain ⟨key, value, ⟨tag, entries, inside, among⟩, isLong⟩ := long
  exact ⟨key, value, ⟨tag, entries, holds.trans inside, among⟩, isLong⟩

theorem HoldsLongKey.holdsLong {root : Node} (long : root.HoldsLongKey) : root.HoldsLong := by
  obtain ⟨key, value, entry, holdsLong⟩ := long
  exact holdsLong.of_holds entry.holds_key

end Node

/-! ### Scalars -/

mutual

theorem scalarText_ends (node : Node) :
    Ends (fun _ => True) (· = .malformed) (scalarText node) := by
  match node with
  | .scalar _ _ =>
      rw [scalarText]
      exact .ok trivial
  | .mapping _ entries =>
      rw [scalarText]
      exact defaultText_ends entries
  | .sequence _ _ | .around _ _ =>
      simp only [scalarText]
      exact .error rfl

theorem defaultText_ends (entries : List Entry) :
    Ends (fun _ => True) (· = .malformed) (defaultText entries) := by
  match entries with
  | [] =>
      rw [defaultText]
      exact .error rfl
  | (key, value) :: rest =>
      rw [defaultText]
      exact .ite (fun _ => scalarText_ends value) fun _ => defaultText_ends rest

end

mutual

theorem hashable_ends (datum : Datum) :
    Ends (fun _ => True) (fun error => ∃ typeName, error = .unhashable typeName)
      (hashable datum) := by
  match datum with
  | .scalar _ =>
      rw [hashable]
      exact .ok trivial
  | .tuple items =>
      rw [hashable]
      exact (hashableItems_ends items).bind fun _ _ => .ok trivial
  | .list _ | .dict _ | .set _ | .document _ | .cycle _ =>
      simp only [hashable]
      exact .error ⟨_, rfl⟩

theorem hashableItems_ends (items : List Datum) :
    Ends (fun _ => True) (fun error => ∃ typeName, error = .unhashable typeName)
      (hashableItems items) := by
  match items with
  | [] =>
      rw [hashableItems]
      exact .ok trivial
  | item :: rest =>
      rw [hashableItems]
      exact (hashable_ends item).bind fun _ _ =>
        (hashableItems_ends rest).bind fun _ _ => .ok trivial

end

mutual

/-- A key can be shown if the data that it is made of can. -/
theorem isWritable_of_hashable {datum : Datum} {key : Key} (hashes : hashable datum = .ok key) :
    key.isWritable = datum.isWritable := by
  match datum with
  | .scalar value =>
      rw [hashable] at hashes
      cases hashes
      rfl
  | .tuple items =>
      rw [hashable] at hashes
      obtain ⟨keys, each, same⟩ := exists_of_bind_eq_ok hashes
      cases same
      exact areWritable_of_hashableItems each
  | .list _ | .dict _ | .set _ | .document _ | .cycle _ =>
      simp only [hashable] at hashes
      cases hashes

theorem areWritable_of_hashableItems {items : List Datum} {keys : List Key}
    (hashes : hashableItems items = .ok keys) : Key.areWritable keys = Datum.areWritable items := by
  match items with
  | [] =>
      rw [hashableItems] at hashes
      cases hashes
      rfl
  | item :: rest =>
      rw [hashableItems] at hashes
      obtain ⟨key, first, later⟩ := exists_of_bind_eq_ok hashes
      obtain ⟨others, behind, same⟩ := exists_of_bind_eq_ok later
      cases same
      rw [Key.areWritable, Datum.areWritable, isWritable_of_hashable first,
        areWritable_of_hashableItems behind]

end

/-- The flaws of data come from a tree, and so do integers that are too long to be shown. -/
structure Traced (root : Node) (datum : Datum) : Prop where
  explained : datum.Explained root.HoldsAround root.HoldsLongKey
  long : datum.isWritable = false → root.HoldsLong

namespace Traced

variable {root part : Node}

theorem of_holds {datum : Datum} (holds : root.Holds part) (traced : Traced part datum) :
    Traced root datum :=
  ⟨traced.explained.mono (.of_holds holds) (.of_holds holds), .of_holds holds ∘ traced.long⟩

theorem holdsLong_of_items {items : List Datum} (each : ∀ item ∈ items, Traced root item)
    (long : Datum.areWritable items = false) : root.HoldsLong := by
  rw [Datum.areWritable_eq_all, List.all_eq_false] at long
  obtain ⟨item, among, long⟩ := long
  exact (each item among).long (Bool.eq_false_iff.mpr long)

theorem list {items : List Datum} (each : ∀ item ∈ items, Traced root item) :
    Traced root (.list items) :=
  ⟨Datum.explained_list fun item among => (each item among).explained, holdsLong_of_items each⟩

theorem tuple {items : List Datum} (each : ∀ item ∈ items, Traced root item) :
    Traced root (.tuple items) :=
  ⟨Datum.explained_tuple fun item among => (each item among).explained, holdsLong_of_items each⟩

/-- A long key of a dictionary comes from a key of the tree. -/
theorem dict {entries : List (Key × Datum)}
    (each : ∀ entry ∈ entries, entry.1.Explained root.HoldsLongKey ∧ Traced root entry.2) :
    Traced root (.dict entries) := by
  refine ⟨Datum.explained_dict fun entry among =>
    ⟨(each entry among).1, (each entry among).2.explained⟩, fun long => ?_⟩
  rw [Datum.isWritable, Datum.entriesAreWritable_eq_all, List.all_eq_false] at long
  obtain ⟨entry, among, long⟩ := long
  rw [Bool.not_eq_true, Bool.and_eq_false_iff] at long
  rcases long with key | value
  · exact ((each entry among).1 key).holdsLong
  · exact (each entry among).2.long value

theorem set {items : List Key} (each : ∀ key ∈ items, key.Explained root.HoldsLongKey) :
    Traced root (.set items) := by
  refine ⟨Datum.explained_set items, fun long => ?_⟩
  rw [Datum.isWritable, Key.areWritable_eq_all, List.all_eq_false] at long
  obtain ⟨key, among, long⟩ := long
  exact (each key among (Bool.eq_false_iff.mpr long)).holdsLong

end Traced

section

variable {root : Node}

/-- An entry that was built from one of some entries of a tree. -/
def BuiltAmong (entries : List Entry) (entry : Key × Datum) : Prop :=
  ∃ name value, (name, value) ∈ entries ∧ name.BuildsAs entry.1 ∧
    (entry.2.isWritable = false → value.HoldsLong)

theorem BuiltAmong.append {entries : List Entry} {entry : Key × Datum}
    (built : BuiltAmong entries entry) (others : List Entry) :
    BuiltAmong (entries ++ others) entry := by
  obtain ⟨name, value, among, rest⟩ := built
  exact ⟨name, value, List.mem_append_left others among, rest⟩

variable {part : Node → Except Error Datum}

end

/-! ### Whole trees -/

end Logicless.Yaml
