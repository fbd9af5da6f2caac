import Logicless.Proofs.Document.Names
import Logicless.Proofs.Render.Meaning

/-!
What a template asks of its document. A template mentions the names that its variables and sections
look up. Members of other names have no part in its text, and neither has the order of the members:
documents that agree on what a template mentions are rendered alike.
-/

set_option autoImplicit false

namespace Logicless

open Template

def Template.Label.name? : Label → Option String
  | .escaped name | .unescaped name | .block name => some name
  | .content _ | .unknown => none

/-- The names that nodes look up, and the nodes inside their sections. -/
def Template.Node.mentioned (nodes : List Node) : List String :=
  (Node.labelsOf nodes).filterMap Label.name?

/-- The same scopes above two roots that agree on some names. -/
structure Scopes.Agree (names : List String) (first second : Scopes) : Prop where
  inner : first.inner = second.inner
  root : ∀ name ∈ names, first.root.get? name = second.root.get? name

namespace Scopes.Agree

variable {names : List String} {first second : Scopes}

theorem mono {fewer : List String} (agree : Agree names first second) (sub : fewer ⊆ names) :
    Agree fewer first second :=
  ⟨agree.inner, fun name among => agree.root name (sub among)⟩

theorem push (agree : Agree names first second) (value : Document) :
    Agree names (first.push value) (second.push value) :=
  ⟨congrArg (value :: ·) agree.inner, agree.root⟩

/-- Where no inner scope has a member of the name, the roots are asked. -/
theorem lookup (agree : Agree names first second) {name : String} (among : name ∈ names) :
    first.lookup name = second.lookup name := by
  have roots := agree.root name among
  simp only [Scopes.lookup, frames, List.findSome?_append, List.findSome?_cons, agree.inner, roots]

theorem variable_eq (agree : Agree names first second) {name : String} (among : name ∈ names) :
    first.variable name = second.variable name := by
  rw [Scopes.variable, Scopes.variable, agree.lookup among]

theorem top (agree : Agree names first second) {name : String} (among : name ∈ names) :
    first.top.get? name = second.top.get? name := by
  have roots := agree.root name among
  rw [Scopes.top, Scopes.top, agree.inner]
  cases second.inner with
  | nil => exact roots
  | cons value rest => rfl

end Scopes.Agree

namespace Template.Node

mutual

/-- Nodes show the same in scopes that agree on the names which they mention. -/
theorem shown_congr (node : Node) {first second : Scopes}
    (agree : Scopes.Agree (node.labels.filterMap Label.name?) first second) :
    node.shown first = node.shown second := by
  match node with
  | .content _ | .unknown => rfl
  | .escaped name | .unescaped name =>
      have mentions : name ∈ [name] := List.mem_singleton_self name
      simp only [shown, agree.variable_eq mentions]
  | .block name children =>
      have mentions : name ∈ name :: mentioned children := List.mem_cons_self
      have inside : Scopes.Agree (mentioned children) first second :=
        agree.mono (List.subset_cons_self _ _)
      rw [shown, shown, agree.top mentions]
      have same (value : Document) := shownAll_congr children (inside.push value)
      exact Shown.ofBlock_congr name (same _) fun _ _ _ item _ => same item

theorem shownAll_congr (nodes : List Node) {first second : Scopes}
    (agree : Scopes.Agree (mentioned nodes) first second) :
    shownAll nodes first = shownAll nodes second := by
  match nodes with
  | [] => rfl
  | node :: rest =>
      have names : mentioned (node :: rest) = node.labels.filterMap Label.name? ++ mentioned rest :=
        List.filterMap_append
      rw [names] at agree
      have here := agree.mono (List.subset_append_left _ _)
      have later := agree.mono (List.subset_append_right _ _)
      rw [shownAll, shownAll, shown_congr node here, shownAll_congr rest later]

end

end Template.Node

/-- Leaving out members of other names does not change what is found under a name. -/
theorem lookup_filter_of_kept {keeps : String → Bool} {name : String} (kept : keeps name = true)
    (members : List (String × Document)) :
    (members.filter fun member => keeps member.1).lookup name = members.lookup name := by
  induction members with
  | nil => rfl
  | cons member rest ih =>
      rw [List.filter_cons, List.lookup_cons]
      by_cases same : name = member.1
      · rw [← same, if_pos kept, List.lookup_cons, ← same, beq_self_eq_true]
      · have apart : (name == member.1) = false := beq_eq_false_iff_ne.mpr same
        rw [apart]
        split
        · rw [List.lookup_cons, apart]
          exact ih
        · exact ih

/-- Documents that agree on the names which a template mentions are rendered alike: to the same text
or with the same error. So of an object the members of other names may as well be left out, and its
members may stand in any order. -/
theorem render_result_of_agree (nodes : List Node) :
    (∀ first second : Document,
      (∀ name ∈ Node.mentioned nodes, first.get? name = second.get? name) →
        (render nodes first).result = (render nodes second).result) ∧
    (∀ members : List (String × Document),
      (render nodes (.object members)).result =
        (render nodes (.object (members.filter fun member =>
          (Node.mentioned nodes).contains member.1))).result) ∧
    ∀ members others : List (String × Document), members.Perm others →
      (members.map Prod.fst).Nodup →
        (render nodes (.object members)).result = (render nodes (.object others)).result := by
  have alike (first second : Document)
      (agree : ∀ name ∈ Node.mentioned nodes, first.get? name = second.get? name) :
      (render nodes first).result = (render nodes second).result := by
    have scopes : Scopes.Agree (Node.mentioned nodes) (.ofRoot first) (.ofRoot second) :=
      ⟨rfl, agree⟩
    rw [render_result, render_result, Node.shownAll_congr nodes scopes]
  refine ⟨alike, ?_, ?_⟩
  · intro members
    apply alike
    intro name among
    exact (lookup_filter_of_kept (List.contains_iff_mem.mpr among) members).symm
  · intro members others reordered distinct
    apply alike
    intro name _
    exact lookup_of_perm reordered distinct name

/-- A section whose elements may fall back on the root for a name, and a whole object as text. -/
def listing : List Node := [.block "xs" [.escaped "n", .content ";"], .unescaped "o"]

/-- Members that `listing` shows; of the two elements one has the name itself. -/
def listed : List (String × Document) :=
  [("xs", .array .list [.null, .object [("n", .string "<")]]), ("n", .string "&"),
    ("o", .object [("k", .null)])]

/-- One more member in front, and the members in reverse. -/
theorem render_result_of_agree_listing :
    (∀ name ∈ Node.mentioned listing, (Document.object listed).get? name =
      (Document.object (("salt", .null) :: listed)).get? name) ∧
    (render listing (.object (("salt", .null) :: listed))).result =
      .ok "&amp;;&lt;;\x7b\"k\":null\x7d" ∧
    listed.Perm listed.reverse ∧ (listed.map Prod.fst).Nodup ∧
    (render listing (.object listed.reverse)).result = .ok "&amp;;&lt;;\x7b\"k\":null\x7d" := by
  have agree : ∀ name ∈ Node.mentioned listing, (Document.object listed).get? name =
      (Document.object (("salt", .null) :: listed)).get? name := by
    intro name among
    have mentions : name ∈ ["xs", "n", "o"] := among
    simp only [List.mem_cons, List.not_mem_nil, or_false] at mentions
    rcases mentions with rfl | rfl | rfl <;> rfl
  have shown : (render listing (.object listed)).result = .ok "&amp;;&lt;;\x7b\"k\":null\x7d" := by
    rfl
  have reordered : listed.Perm listed.reverse := (List.reverse_perm listed).symm
  have distinct : (listed.map Prod.fst).Nodup := by decide
  obtain ⟨alike, -, permuted⟩ := render_result_of_agree listing
  refine ⟨agree, ?_, reordered, distinct, ?_⟩
  · exact (alike _ _ agree).symm.trans shown
  · exact (permuted _ _ reordered distinct).symm.trans shown

end Logicless
