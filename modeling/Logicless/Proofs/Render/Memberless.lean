import Logicless.Proofs.Render.Meaning

/-!
Scopes of values that are no objects. Such a value has no members: variables look through it to the
scopes around, and sections, which look at it alone, find nothing and show nothing. So nodes inside
such a scope show what those of them that are no sections show outside of it.
-/

set_option autoImplicit false

namespace Logicless

open Template

theorem Document.get?_of_not_object {document : Document} (other : document.kind ≠ .object)
    (name : String) : document.get? name = none := by
  cases document with
  | object members => exact absurd rfl other
  | null | bool | number | string | array => rfl

namespace Scopes

/-- A variable is looked up as if an innermost value without that name were not there. -/
theorem lookup_push_of_none {value : Document} {name : String} (absent : value.get? name = none)
    (scopes : Scopes) : (scopes.push value).lookup name = scopes.lookup name := by
  rw [lookup, frames_push, List.findSome?_cons, absent, lookup]

theorem variable_push_of_not_object {value : Document} (other : value.kind ≠ .object)
    (scopes : Scopes) (name : String) :
    (scopes.push value).variable name = scopes.variable name := by
  rw [Scopes.variable, Scopes.variable,
    lookup_push_of_none (Document.get?_of_not_object other name)]

end Scopes

namespace Shown

theorem eq_ofText_of_outcome {shown : Shown} (whole : shown.outcome = .ok ()) :
    shown = ofText shown.text := by
  obtain ⟨text, failure⟩ := shown
  cases failure with
  | none => rfl
  | some error => cases whole

theorem concat_replicate_ofText (count : Nat) (text : String) :
    concat (List.replicate count (ofText text)) =
      ofText (String.join (List.replicate count text)) := by
  induction count with
  | zero => rfl
  | succ count ih =>
      rw [List.replicate_succ, concat, ih, List.replicate_succ, String.join_cons]
      rfl

end Shown

namespace Template.Node

def isBlock : Node → Bool
  | .block .. => true
  | .content _ | .escaped _ | .unescaped _ | .unknown => false

/-- Nodes without the sections among them; what is inside these goes with them. -/
def withoutBlocks (nodes : List Node) : List Node := nodes.filter fun node => !node.isBlock

/-- In the scope of a value that is no object, a section shows nothing. -/
theorem shown_block_push {value : Document} (other : value.kind ≠ .object) (name : String)
    (children : List Node) (scopes : Scopes) :
    (Node.block name children).shown (scopes.push value) = .nothing := by
  have absent : (scopes.push value).top.get? name = none := Document.get?_of_not_object other name
  rw [shown, absent]
  rfl

/-- All other nodes show what they show outside of it. -/
theorem shown_push_of_not_block {value : Document} (other : value.kind ≠ .object) {node : Node}
    (leaf : node.isBlock = false) (scopes : Scopes) :
    node.shown (scopes.push value) = node.shown scopes := by
  cases node with
  | content text => rfl
  | escaped name => rw [shown, shown, Scopes.variable_push_of_not_object other]
  | unescaped name => rw [shown, shown, Scopes.variable_push_of_not_object other]
  | block name children => cases leaf
  | unknown => rfl

theorem shownAll_push_of_not_object {value : Document} (other : value.kind ≠ .object)
    (nodes : List Node) (scopes : Scopes) :
    shownAll nodes (scopes.push value) = shownAll (withoutBlocks nodes) scopes := by
  induction nodes with
  | nil => rfl
  | cons node rest ih =>
      rw [withoutBlocks, List.filter_cons, shownAll, ih]
      cases leaf : node.isBlock with
      | false => rw [shown_push_of_not_block other leaf]; rfl
      | true =>
          cases node with
          | block name children => rw [shown_block_push other, Shown.nothing_andThen]; rfl
          | content | escaped | unescaped | unknown => cases leaf

/-- Where there are no sections, none fails. -/
theorem withoutBlocks_failsOnly (nodes : List Node) (scopes : Scopes) :
    (shownAll (withoutBlocks nodes) scopes).FailsOnly
      fun error => error = .node .unknown ∨ error = .unwritable := by
  induction nodes with
  | nil => exact Shown.failsOnly_of_whole rfl
  | cons node rest ih =>
      rw [withoutBlocks, List.filter_cons]
      cases node with
      | block name children => exact ih
      | content text => exact Shown.andThen_failsOnly (Shown.failsOnly_of_whole rfl) ih
      | escaped name | unescaped name =>
          exact Shown.andThen_failsOnly (scopes.variable_failsOnly name fun _ => .inr rfl) ih
      | unknown =>
          intro error failed
          cases failed
          exact .inl rfl

theorem shownAll_replicate (count : Nat) (nodes : List Node) (scopes : Scopes) :
    shownAll (List.replicate count nodes).flatten scopes =
      .concat (List.replicate count (shownAll nodes scopes)) := by
  induction count with
  | zero => rfl
  | succ count ih =>
      rw [List.replicate_succ, List.flatten_cons, shownAll_append, ih, List.replicate_succ]
      rfl

/-- A section for an array without objects shows as many copies of its nodes without their sections. -/
theorem shown_block_of_no_objects {name : String} {children : List Node} {scopes : Scopes}
    {form : ArrayForm} {items : List Document}
    (bound : scopes.lookupTop name = some (.array form items))
    (others : ∀ item ∈ items, item.kind ≠ .object) :
    (Node.block name children).shown scopes =
      shownAll (List.replicate items.length (withoutBlocks children)).flatten scopes := by
  have copies : items.map (fun item => shownAll children (scopes.push item)) =
      List.replicate items.length (shownAll (withoutBlocks children) scopes) := by
    rw [← List.map_const']
    exact List.map_congr_left fun item among => shownAll_push_of_not_object (others item among) _ _
  rw [Scopes.lookupTop] at bound
  rw [shown, bound, shownAll_replicate, ← copies]
  rfl

end Template.Node

/-- Inside the scope of a value that is no object, nodes append the text and end with the error that
they have outside of it without the sections among them, and no section fails there. So a section for
an array of values none of which is an object is as many copies of its nodes without their sections. -/
theorem nodes_push_of_not_object :
    (∀ (value : Document) (nodes : List Node) (scopes : Scopes), value.kind ≠ .object →
      let inside := (Renderer.nodes nodes (scopes.push value)).1
      let outside := (Renderer.nodes (Node.withoutBlocks nodes) scopes).1
      inside.text = outside.text ∧ inside.result = outside.result ∧
        ∀ name kind, inside.result ≠ .error (.sectionType name kind)) ∧
    ∀ (name : String) (children : List Node) (scopes : Scopes) (form : ArrayForm)
      (items : List Document), scopes.lookupTop name = some (.array form items) →
      (∀ item ∈ items, item.kind ≠ .object) →
        let whole := (Renderer.node (.block name children) scopes).1
        let once := (Renderer.nodes (Node.withoutBlocks children) scopes).1
        let copies := (Renderer.nodes
          (List.replicate items.length (Node.withoutBlocks children)).flatten scopes).1
        whole.text = copies.text ∧ whole.result = copies.result ∧
          (once.result = .ok () → whole.result = .ok () ∧
            whole.text = String.join (List.replicate items.length once.text)) := by
  constructor
  · intro value nodes scopes other
    have inside := Renderer.nodes_shows nodes (scopes.push value)
    have outside := Renderer.nodes_shows (Node.withoutBlocks nodes) scopes
    rw [Node.shownAll_push_of_not_object other] at inside
    refine ⟨inside.text.trans outside.text.symm, inside.result.trans outside.result.symm, ?_⟩
    intro name kind failed
    rw [inside.result, Shown.outcome] at failed
    split at failed
    · cases failed
    · rename_i error shows
      cases failed
      rcases Node.withoutBlocks_failsOnly nodes scopes _ shows with same | same <;> cases same
  · intro name children scopes form items bound others
    have whole := Renderer.node_shows (.block name children) scopes
    have once := Renderer.nodes_shows (Node.withoutBlocks children) scopes
    have copies := Renderer.nodes_shows
      (List.replicate items.length (Node.withoutBlocks children)).flatten scopes
    rw [Node.shown_block_of_no_objects bound others] at whole
    refine ⟨whole.text.trans copies.text.symm, whole.result.trans copies.result.symm, ?_⟩
    intro succeeded
    have text := Shown.eq_ofText_of_outcome (once.result.symm.trans succeeded)
    rw [← once.text] at text
    rw [Node.shownAll_replicate, text, Shown.concat_replicate_ofText] at whole
    exact ⟨whole.result, whole.text⟩

/-- A root with an array of a number and of an array, and a name that its scopes look up in the root. -/
def ranking : Document :=
  .object [("xs", .array .list [.number (.int 1 none), .array .tuple [.null]]), ("n", .string "<")]

/-- The section inside the section for the array would fail if it stood outside. -/
theorem nodes_push_of_not_object_ranking :
    let children := [.escaped "n", .block "n" [.unknown], .content ";"]
    (Document.bool true).kind ≠ .object ∧
      (∀ item ∈ [Document.number (.int 1 none), .array .tuple [.null]], item.kind ≠ .object) ∧
      (Scopes.ofRoot ranking).lookupTop "xs" =
        some (.array .list [.number (.int 1 none), .array .tuple [.null]]) ∧
      (Renderer.nodes children ((Scopes.ofRoot ranking).push (.bool true))).1.text = "&lt;;" ∧
      (Renderer.node (.block "xs" children) (.ofRoot ranking)).1.text = "&lt;;&lt;;" ∧
      (Renderer.node (.block "xs" children) (.ofRoot ranking)).1.result = .ok () := by
  intro children
  have others : ∀ item ∈ [Document.number (.int 1 none), .array .tuple [.null]],
      item.kind ≠ .object := by
    simp [Document.kind]
  have once : (Renderer.nodes (Node.withoutBlocks children) (.ofRoot ranking)).1.text = "&lt;;" := by
    rfl
  obtain ⟨inside, copied⟩ := nodes_push_of_not_object
  have truth : (Document.bool true).kind ≠ .object := by decide
  obtain ⟨text, -, -⟩ := inside (.bool true) children (.ofRoot ranking) truth
  obtain ⟨-, -, joined⟩ := copied "xs" children (.ofRoot ranking) .list _ rfl others
  obtain ⟨succeeded, whole⟩ := joined rfl
  refine ⟨truth, others, rfl, text.trans once, whole.trans ?_, succeeded⟩
  rw [once]
  rfl

end Logicless
