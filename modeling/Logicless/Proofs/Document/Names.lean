import Logicless.Proofs.Document.Offence
import Mathlib.Data.List.Nodup

/-!
The names in a document. A dictionary holds each key once, so that an object that data are wrapped
into binds each of its names once, and so does every object inside.
-/

set_option autoImplicit false

namespace Logicless

/-- Where names are distinct, the order of members does not change what is found under a name. -/
theorem lookup_of_perm {members others : List (String × Document)} (reordered : members.Perm others)
    (distinct : (members.map Prod.fst).Nodup) (name : String) :
    members.lookup name = others.lookup name := by
  induction reordered with
  | nil => rfl
  | cons member rest ih =>
      have found := ih (List.nodup_cons.mp distinct).2
      rw [List.lookup_cons, List.lookup_cons, found]
  | swap member next rest =>
      have apart : next.1 ≠ member.1 := by
        have notAmong := (List.nodup_cons.mp distinct).1
        exact fun same => notAmong (by simp [same])
      rw [List.lookup_cons, List.lookup_cons, List.lookup_cons, List.lookup_cons]
      by_cases first : name = next.1
      · have second : (name == member.1) = false := beq_eq_false_iff_ne.mpr (first ▸ apart)
        rw [second]
      · have second : (name == next.1) = false := beq_eq_false_iff_ne.mpr first
        rw [second]
  | trans one other ih ihOther =>
      have distinctToo := (one.map Prod.fst).nodup_iff.mp distinct
      exact (ih distinct).trans (ihOther distinctToo)

namespace Datum

/-- No dictionary in data holds a key twice. -/
inductive Distinct : Datum → Prop where
  | intro {datum : Datum}
    (keys : datum.entries.Pairwise fun first second => first.1.same second.1 = false)
    (each : ∀ part, datum.HasPart part → Distinct part) : Distinct datum

theorem Distinct.of_parts_nil {datum : Datum} (alone : datum.parts = []) : datum.Distinct := by
  have empty : datum.entries = [] := by
    cases datum with
    | dict entries => exact List.map_eq_nil_iff.mp alone
    | scalar | list | tuple | set | document | cycle => rfl
  refine .intro ?_ fun part inside => ?_
  · rw [empty]
    exact .nil
  · rw [HasPart, alone] at inside
    cases inside

end Datum

namespace Document

def names : Document → List String
  | .object members => members.map (·.1)
  | .null | .bool _ | .number _ | .string _ | .array .. => []

/-- No object in a document binds a name twice. -/
inductive Distinct : Document → Prop where
  | intro {document : Document} (names : document.names.Nodup)
    (each : ∀ part, document.HasPart part → Distinct part) : Distinct document

theorem lookup_eq_none_iff_not_mem {members : List (String × Document)} {name : String} :
    members.lookup name = none ↔ name ∉ members.map (·.1) := by
  rw [List.lookup_eq_none_iff, List.mem_map]
  constructor
  · rintro apart ⟨member, among, rfl⟩
    simpa using apart member among
  · intro absent member among
    exact bne_iff_ne.mpr fun same => absent ⟨member, among, same.symm⟩

theorem lookup_of_mem {members : List (String × Document)} (distinct : (members.map (·.1)).Nodup)
    {member : String × Document} (among : member ∈ members) :
    members.lookup member.1 = some member.2 := by
  obtain ⟨before, behind, rfl⟩ := List.append_of_mem among
  rw [List.map_append, List.map_cons, List.nodup_middle, List.nodup_cons, List.mem_append] at distinct
  refine List.lookup_eq_some_iff.mpr ⟨before, behind, rfl, fun other earlier => ?_⟩
  refine bne_iff_ne.mpr fun same => distinct.1 (.inl ?_)
  exact List.mem_map.mpr ⟨other, earlier, same.symm⟩

/-- The names of members are the keys of their entries. -/
theorem keys_of_ofEntries {path : Path} {entries : List (Key × Datum)}
    {members : List (String × Document)} (accepted : ofEntries path entries = .ok members) :
    entries.map (·.1) = members.map fun member => .scalar (.text member.1) := by
  induction entries generalizing members with
  | nil =>
      cases accepted
      rfl
  | cons entry rest ih =>
      obtain ⟨key, value⟩ := entry
      obtain ⟨name, first, others, rfl, -, later, rfl⟩ := ofEntries_cons_eq_ok accepted
      rw [List.map_cons, List.map_cons, ih later]

theorem nodup_of_ofEntries {path : Path} {entries : List (Key × Datum)}
    {members : List (String × Document)} (accepted : ofEntries path entries = .ok members)
    (keys : entries.Pairwise fun first second => first.1.same second.1 = false) :
    (members.map (·.1)).Nodup := by
  have apart : (entries.map (·.1)).Pairwise fun first second : Key => first.same second = false :=
    List.pairwise_map.mpr keys
  rw [keys_of_ofEntries accepted, List.pairwise_map] at apart
  refine List.pairwise_map.mpr (apart.imp fun different => ?_)
  simpa [Key.same, Scalar.same] using different

theorem Wraps.names_nodup {datum : Datum} {document : Document} (wraps : Wraps datum document)
    (keys : datum.entries.Pairwise fun first second => first.1.same second.1 = false) :
    document.names.Nodup := by
  obtain ⟨path, accepted⟩ := wraps
  cases datum with
  | dict entries =>
      rw [ofDatumAt] at accepted
      obtain ⟨members, each, same⟩ := exists_of_bind_eq_ok accepted
      cases same
      exact nodup_of_ofEntries each keys
  | list items | tuple items =>
      rw [ofDatumAt] at accepted
      obtain ⟨documents, -, same⟩ := exists_of_bind_eq_ok accepted
      cases same
      exact List.nodup_nil
  | scalar value =>
      rw [ofDatumAt] at accepted
      unfold ofScalar at accepted
      split at accepted <;> cases accepted <;> exact List.nodup_nil
  | set items | document value | cycle name =>
      rw [ofDatumAt] at accepted
      cases accepted

/-- Data whose dictionaries hold each key once are wrapped into objects that bind each name once. -/
theorem Wraps.distinct {datum : Datum} {document : Document} (wraps : Wraps datum document)
    (distinct : datum.Distinct) : document.Distinct := by
  induction distinct generalizing document with
  | intro keys _ ih =>
      refine .intro (wraps.names_nodup keys) fun part inside => ?_
      obtain ⟨source, within, wrapsPart⟩ := wraps.exists_part inside
      exact ih source within wrapsPart

end Document

end Logicless
