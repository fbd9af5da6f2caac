import Logicless.Proofs.Document.Names
import Logicless.Render.Scopes

/-!
How a variable is looked up. An object owns the names that it binds, and a variable has the value that
the innermost owner of its name binds it to. So values that do not own the name are looked through,
wherever they stand, and an owner hides the owners behind it and no others.
-/

set_option autoImplicit false

namespace Logicless

namespace Document

/-- An object owns the names that it binds. Other documents own no names. -/
def Owns (document : Document) (name : String) : Prop := name ∈ document.names

instance (document : Document) (name : String) : Decidable (document.Owns name) :=
  inferInstanceAs (Decidable (name ∈ document.names))

/-- A document is an object with a member of that name and that value. -/
def Binds (document : Document) (name : String) (value : Document) : Prop :=
  ∃ members, document = .object members ∧ (name, value) ∈ members

variable {document value : Document} {name : String}

theorem get?_eq_none_iff : document.get? name = none ↔ ¬ document.Owns name := by
  cases document with
  | object members => exact lookup_eq_none_iff_not_mem
  | null | bool | number | string | array => exact iff_of_true rfl List.not_mem_nil

theorem exists_get?_iff : (∃ value, document.get? name = some value) ↔ document.Owns name := by
  rw [← Option.ne_none_iff_exists', ne_eq, get?_eq_none_iff, not_not]

theorem get?_eq_some_iff (distinct : document.names.Nodup) :
    document.get? name = some value ↔ document.Binds name value := by
  cases document with
  | object members =>
      constructor
      · intro found
        exact ⟨members, rfl, mem_of_lookup found⟩
      · rintro ⟨others, same, among⟩
        cases same
        exact lookup_of_mem distinct among
  | null | bool | number | string | array =>
      refine iff_of_false nofun ?_
      rintro ⟨members, same, -⟩
      cases same

end Document

namespace Scopes

/-- The values that own a name, the innermost first. -/
def owners (scopes : Scopes) (name : String) : List Document :=
  scopes.frames.filter fun frame => frame.Owns name

/-- A name is looked up in the first of its owners. -/
theorem lookup_eq_owner (scopes : Scopes) (name : String) :
    scopes.lookup name = (scopes.owners name).head?.bind (·.get? name) := by
  rw [lookup, owners]
  induction scopes.frames with
  | nil => rfl
  | cons frame rest ih =>
      rw [List.findSome?_cons, List.filter_cons]
      by_cases owns : frame.Owns name
      · obtain ⟨value, found⟩ := Document.exists_get?_iff.mpr owns
        simp [owns, found]
      · simp [owns, Document.get?_eq_none_iff.mpr owns, ih]

theorem owners_of_frames {scopes : Scopes} {above below : List Document}
    (split : scopes.frames = above ++ below) (name : String) :
    scopes.owners name = above.filter (fun frame => frame.Owns name) ++
      below.filter fun frame => frame.Owns name := by
  rw [owners, split, List.filter_append]

variable {scopes other : Scopes} {name : String} {above others below : List Document}

theorem filter_owns_eq_nil_iff {frames : List Document} :
    (frames.filter fun frame => frame.Owns name) = [] ↔ ∀ frame ∈ frames, ¬ frame.Owns name := by
  simp [List.filter_eq_nil_iff]

theorem lookup_eq_none_iff :
    scopes.lookup name = none ↔ ∀ frame ∈ scopes.frames, ¬ frame.Owns name := by
  rw [lookup, List.findSome?_eq_none_iff]
  simp only [Document.get?_eq_none_iff]

/-- The value that a name is looked up as stands in the innermost owner. -/
theorem lookup_eq_some_iff {value : Document} : scopes.lookup name = some value ↔
    ∃ above owner below, scopes.frames = above ++ owner :: below ∧
      (∀ frame ∈ above, ¬ frame.Owns name) ∧ owner.get? name = some value := by
  rw [lookup, List.findSome?_eq_some_iff]
  simp only [Document.get?_eq_none_iff]
  constructor
  · rintro ⟨above, owner, below, split, found, absent⟩
    exact ⟨above, owner, below, split, absent, found⟩
  · rintro ⟨above, owner, below, split, absent, found⟩
    exact ⟨above, owner, below, split, found, absent⟩

/-- Values that do not own a name have no part in its owners. -/
theorem owners_insert (before : scopes.frames = above ++ below)
    (behind : other.frames = above ++ others ++ below) (absent : ∀ frame ∈ others, ¬ frame.Owns name) :
    other.owners name = scopes.owners name := by
  rw [owners_of_frames before, owners_of_frames behind, List.filter_append,
    filter_owns_eq_nil_iff.mpr absent, List.append_nil]

/-- What stands behind an owner has no part in what a name is looked up as. -/
theorem lookup_behind_owner {rest : List Document} (before : scopes.frames = above ++ below)
    (behind : other.frames = above ++ rest) (present : ∃ frame ∈ above, frame.Owns name) :
    other.lookup name = scopes.lookup name := by
  have filled : (above.filter fun frame => frame.Owns name) ≠ [] := by
    obtain ⟨frame, among, owns⟩ := present
    exact fun empty => filter_owns_eq_nil_iff.mp empty frame among owns
  obtain ⟨first, hidden, listed⟩ := List.exists_cons_of_ne_nil filled
  rw [lookup_eq_owner, lookup_eq_owner, owners_of_frames before, owners_of_frames behind, listed]
  rfl

/-- A name is looked up as the value that its innermost owner binds it to, whatever this value is, and
as nothing if and only if no value in scope owns it. So the owners of the name decide alone: values that
do not own it may be put in or left out anywhere, any number of them, and nothing changes. One more
owner is the one that counts if no owner stands above it, and has no part otherwise. -/
theorem lookup_innermost_owner (name : String) :
    (∀ scopes : Scopes, (∀ frame ∈ scopes.frames, frame.names.Nodup) →
      ∀ value, scopes.lookup name = some value ↔
        ∃ above owner below, scopes.frames = above ++ owner :: below ∧
          (∀ frame ∈ above, ¬ frame.Owns name) ∧ owner.Binds name value) ∧
    (∀ scopes : Scopes, scopes.lookup name = none ↔ ∀ frame ∈ scopes.frames, ¬ frame.Owns name) ∧
    (∀ first second : Scopes, first.owners name = second.owners name →
      first.lookup name = second.lookup name) ∧
    (∀ (first second : Scopes) (above others below : List Document),
      first.frames = above ++ below → second.frames = above ++ others ++ below →
      (∀ frame ∈ others, ¬ frame.Owns name) → second.lookup name = first.lookup name) ∧
    ∀ (first second : Scopes) (above below : List Document) (owner value : Document),
      first.frames = above ++ below → second.frames = above ++ owner :: below →
      owner.names.Nodup → owner.Binds name value →
        ((∀ frame ∈ above, ¬ frame.Owns name) → second.lookup name = some value) ∧
        ((∃ frame ∈ above, frame.Owns name) → second.lookup name = first.lookup name) := by
  have decided (first second : Scopes) (same : first.owners name = second.owners name) :
      first.lookup name = second.lookup name := by
    rw [lookup_eq_owner, lookup_eq_owner, same]
  refine ⟨?_, fun scopes => lookup_eq_none_iff, decided, ?_, ?_⟩
  · intro scopes distinct value
    rw [lookup_eq_some_iff]
    constructor
    · rintro ⟨above, owner, below, split, absent, found⟩
      have names := distinct owner (split ▸ List.mem_append_right _ List.mem_cons_self)
      exact ⟨above, owner, below, split, absent, (Document.get?_eq_some_iff names).mp found⟩
    · rintro ⟨above, owner, below, split, absent, binds⟩
      have names := distinct owner (split ▸ List.mem_append_right _ List.mem_cons_self)
      exact ⟨above, owner, below, split, absent, (Document.get?_eq_some_iff names).mpr binds⟩
  · intro first second above others below before behind absent
    exact decided _ _ (owners_insert before behind absent)
  · intro first second above below owner value before behind names binds
    have found := (Document.get?_eq_some_iff names).mpr binds
    exact ⟨fun absent => lookup_eq_some_iff.mpr ⟨above, owner, below, behind, absent, found⟩,
      fun present => lookup_behind_owner before behind present⟩

/-- Null hides what stands behind it; a number and an object with another member do not. -/
theorem lookup_innermost_owner_hidden :
    let below := [.object [("m", .bool false)], .object [("n", .string "outer")]]
    let owner := Document.object [("m", .null), ("n", .null)]
    let first : Scopes := ⟨[.number (.int 1 none), .object [("m", .bool false)]],
      .object [("n", .string "outer")]⟩
    let second : Scopes := ⟨[.number (.int 1 none), owner, .object [("m", .bool false)]],
      .object [("n", .string "outer")]⟩
    first.frames = [.number (.int 1 none)] ++ below ∧
      second.frames = [.number (.int 1 none)] ++ owner :: below ∧
      owner.names.Nodup ∧ owner.Binds "n" .null ∧
      (∀ frame ∈ [Document.number (.int 1 none)], ¬ frame.Owns "n") ∧
      second.lookup "n" = some .null ∧ first.lookup "n" = some (.string "outer") := by
  intro below owner first second
  have distinct : ∀ frame ∈ first.frames, frame.names.Nodup := by decide
  have names : owner.names.Nodup := by decide
  have binds : owner.Binds "n" .null := ⟨_, rfl, by simp⟩
  have absent : ∀ frame ∈ [Document.number (.int 1 none)], ¬ frame.Owns "n" := by decide
  obtain ⟨found, -, -, -, inserted⟩ := lookup_innermost_owner "n"
  refine ⟨rfl, rfl, names, binds, absent, ?_, ?_⟩
  · exact (inserted first second _ below owner .null rfl rfl names binds).1 absent
  · refine (found first distinct _).mpr ⟨[.number (.int 1 none), .object [("m", .bool false)]],
      .object [("n", .string "outer")], [], rfl, by decide, _, rfl, by simp⟩

end Scopes

end Logicless
