import Logicless.Proofs.Reading
import Logicless.Yaml.Reader
import Mathlib.Logic.Relation

/-!
The nodes in the tree of a YAML text, and the entries that a mapping has once others are merged into
it. Each of these entries stands in some mapping of the tree.
-/

set_option autoImplicit false

namespace Logicless.Yaml

open Relation

namespace Node

inductive HasPart : Node → Node → Prop where
  | item {tag : Tag} {items : List Node} {item : Node} (among : item ∈ items) :
    HasPart (.sequence tag items) item
  | key {tag : Tag} {entries : List Entry} {key value : Node} (among : (key, value) ∈ entries) :
    HasPart (.mapping tag entries) key
  | value {tag : Tag} {entries : List Entry} {key value : Node} (among : (key, value) ∈ entries) :
    HasPart (.mapping tag entries) value

/-- A node is a tree, or somewhere below its root. -/
abbrev Holds : Node → Node → Prop := ReflTransGen HasPart

/-- An entry of some mapping in a tree. -/
def HoldsEntry (root key value : Node) : Prop :=
  ∃ tag entries, root.Holds (.mapping tag entries) ∧ (key, value) ∈ entries

theorem HoldsEntry.holds_key {root key value : Node} (entry : root.HoldsEntry key value) :
    root.Holds key := by
  obtain ⟨tag, entries, inside, among⟩ := entry
  exact inside.tail (.key among)

theorem HoldsEntry.holds_value {root key value : Node} (entry : root.HoldsEntry key value) :
    root.Holds value := by
  obtain ⟨tag, entries, inside, among⟩ := entry
  exact inside.tail (.value among)

/-- An entry of some mapping in a tree, its key taken for a string if it stands for a default. -/
def Gives (root : Node) (entry : Entry) : Prop :=
  ∃ key, root.HoldsEntry key entry.2 ∧ entry.1 = asKey key

end Node

section

variable {root : Node}

mutual

theorem flatten_ends {merged : List Entry} (entries : List Entry)
    (before : ∀ entry ∈ merged, root.Gives entry)
    (inside : ∀ entry ∈ entries, root.HoldsEntry entry.1 entry.2) :
    Ends (fun found => (∀ entry ∈ found.1, root.Gives entry) ∧ ∀ entry ∈ found.2, root.Gives entry)
      (· = .malformed) (flatten merged entries) := by
  match entries with
  | [] =>
      rw [flatten]
      exact .ok ⟨before, List.forall_mem_nil _⟩
  | (key, value) :: rest =>
      obtain ⟨first, others⟩ := List.forall_mem_cons.mp inside
      rw [flatten]
      split
      · split
        · exact (mergeable_ends value first.holds_value).bind fun found given =>
            flatten_ends rest given others
        · exact .error rfl
      · exact (flatten_ends rest before others).bind fun found ⟨given, own⟩ =>
          .ok ⟨given, List.forall_mem_cons.mpr ⟨⟨key, first, rfl⟩, own⟩⟩

theorem mergeable_ends (node : Node) (holds : root.Holds node) :
    Ends (fun found => ∀ entry ∈ found, root.Gives entry) (· = .malformed) (mergeable node) := by
  match node with
  | .mapping tag entries =>
      rw [mergeable]
      have inside : ∀ entry ∈ entries, root.HoldsEntry entry.1 entry.2 :=
        fun entry among => ⟨tag, entries, holds, among⟩
      exact (flatten_ends entries (List.forall_mem_nil _) inside).bind fun found ⟨given, own⟩ =>
        .ok (List.forall_mem_append.mpr ⟨given, own⟩)
  | .sequence tag items =>
      rw [mergeable]
      exact mergeableItems_ends items fun item among => holds.tail (.item among)
  | .around .mapping _ =>
      rw [mergeable]
      exact .ok (List.forall_mem_nil _)
  | .around .sequence _ | .scalar _ _ =>
      simp only [mergeable]
      exact .error rfl

theorem mergeableItems_ends (items : List Node) (holds : ∀ item ∈ items, root.Holds item) :
    Ends (fun found => ∀ entry ∈ found, root.Gives entry) (· = .malformed)
      (mergeableItems items) := by
  match items with
  | [] =>
      rw [mergeableItems]
      exact .ok (List.forall_mem_nil _)
  | .mapping tag entries :: rest =>
      obtain ⟨first, others⟩ := List.forall_mem_cons.mp holds
      rw [mergeableItems]
      have inside : ∀ entry ∈ entries, root.HoldsEntry entry.1 entry.2 :=
        fun entry among => ⟨tag, entries, first, among⟩
      refine (flatten_ends entries (List.forall_mem_nil _) inside).bind fun found ⟨given, own⟩ => ?_
      exact (mergeableItems_ends rest others).bind fun more later =>
        .ok (List.forall_mem_append.mpr ⟨later, List.forall_mem_append.mpr ⟨given, own⟩⟩)
  | .sequence _ _ :: rest | .scalar _ _ :: rest | .around _ _ :: rest =>
      simp only [mergeableItems]
      exact .error rfl

end

end

end Logicless.Yaml
