import Logicless.Proofs.Document.Parts
import Logicless.Proofs.Render.Meaning

/-!
Sections that never show anything. Where no object of a document binds a name to anything but false
or an array without elements, the sections of that name may be taken out of a template wherever they
stand: inside other sections, and where these are shown for the elements of an array.
-/

set_option autoImplicit false

namespace Logicless

open Template

namespace Document

/-- A value for which a section shows nothing: false, or an array without elements. -/
inductive Falsy : Document → Prop where
  | bool : Falsy (.bool false)
  | array (form : ArrayForm) : Falsy (.array form [])

/-- No object in a document, at any depth, binds the name to anything but a falsy value. -/
def Suppresses (name : String) (document : Document) : Prop :=
  ∀ part value, document.Reaches part → part.get? name = some value → value.Falsy

namespace Suppresses

variable {name : String} {document : Document}

theorem of_parts (bound : ∀ value, document.get? name = some value → value.Falsy)
    (each : ∀ part ∈ document.parts, part.Suppresses name) : document.Suppresses name := by
  intro inner value reached found
  rcases reached.root_or_part with rfl | ⟨part, inside, within⟩
  · exact bound value found
  · exact each part inside inner value within found

theorem of_reaches (suppresses : document.Suppresses name) {part : Document}
    (reached : document.Reaches part) : part.Suppresses name :=
  fun inner value within bound => suppresses inner value (reached.trans within) bound

/-- What has no parts binds no names. -/
theorem of_parts_nil (alone : document.parts = []) : document.Suppresses name := by
  refine of_parts (fun value found => ?_) (fun part inside => ?_)
  · have inside : value ∈ document.parts := hasPart_of_get? found
    rw [alone] at inside
    cases inside
  · rw [alone] at inside
    cases inside

theorem element (suppresses : document.Suppresses name) {other : String} {form : ArrayForm}
    {items : List Document} (bound : document.get? other = some (.array form items))
    {item : Document} (among : item ∈ items) : item.Suppresses name :=
  suppresses.of_reaches (.element (.member .root other bound) rfl among)

end Suppresses

end Document

/-- A section shows nothing for a falsy value, whatever is inside it. -/
theorem Shown.ofBlock_of_falsy (name : String) (body : Scopes → Shown) (scopes : Scopes)
    {value : Option Document} (falsy : ∀ bound, value = some bound → bound.Falsy) :
    ofBlock name body scopes value = nothing := by
  cases value with
  | none => rfl
  | some bound => cases falsy bound rfl <;> rfl

namespace Template.Node

mutual

/-- What is left of a node when the sections of a name are taken out: nothing of such a section, and
otherwise the node with what is left inside. -/
def without (name : String) : Node → List Node
  | .block other children =>
    if other = name then [] else [.block other (withoutAll name children)]
  | .content text => [.content text]
  | .escaped other => [.escaped other]
  | .unescaped other => [.unescaped other]
  | .unknown => [.unknown]

/-- What is left of nodes when the sections of a name are taken out at every depth. -/
def withoutAll (name : String) : List Node → List Node
  | [] => []
  | node :: rest => without name node ++ withoutAll name rest

end

mutual

theorem block_not_mem_labelsOf_without (name : String) (node : Node) :
    .block name ∉ labelsOf (without name node) := by
  match node with
  | .content _ | .escaped _ | .unescaped _ | .unknown =>
      exact List.not_mem_cons_of_ne_of_not_mem nofun List.not_mem_nil
  | .block other children =>
      rw [without]
      by_cases same : other = name
      · rw [if_pos same]
        exact List.not_mem_nil
      · have apart : Label.block name ≠ .block other := fun equal => same (Label.block.inj equal).symm
        rw [if_neg same, labelsOf_singleton, labels]
        exact List.not_mem_cons_of_ne_of_not_mem apart
          (block_not_mem_labelsOf_withoutAll name children)

/-- No section of the name is left. -/
theorem block_not_mem_labelsOf_withoutAll (name : String) (nodes : List Node) :
    .block name ∉ labelsOf (withoutAll name nodes) := by
  match nodes with
  | [] => exact List.not_mem_nil
  | node :: rest =>
      rw [withoutAll, labelsOf_append, List.mem_append, not_or]
      exact ⟨block_not_mem_labelsOf_without name node, block_not_mem_labelsOf_withoutAll name rest⟩

end

theorem shownAll_singleton (node : Node) (scopes : Scopes) :
    shownAll [node] scopes = node.shown scopes := Shown.andThen_nothing _

mutual

/-- Sections of a name that the innermost scope suppresses may be taken out. The induction is on the
node with the scopes arbitrary: a section opens scopes only for parts of the innermost one and for
true, and these suppress the name as well. -/
theorem shownAll_without {name : String} (node : Node) {scopes : Scopes}
    (suppresses : scopes.top.Suppresses name) :
    shownAll (without name node) scopes = node.shown scopes := by
  match node with
  | .content _ | .escaped _ | .unescaped _ | .unknown => exact shownAll_singleton _ scopes
  | .block other children =>
      rw [without]
      by_cases same : other = name
      · rw [if_pos same, shown, same]
        exact (Shown.ofBlock_of_falsy _ _ _ fun bound => suppresses _ bound .root).symm
      · rw [if_neg same, shownAll_singleton, shown, shown]
        apply Shown.ofBlock_congr
        · exact shownAll_withoutAll children (.of_parts_nil rfl)
        · intro form items bound item among
          exact shownAll_withoutAll children (suppresses.element bound among)

theorem shownAll_withoutAll {name : String} (nodes : List Node) {scopes : Scopes}
    (suppresses : scopes.top.Suppresses name) :
    shownAll (withoutAll name nodes) scopes = shownAll nodes scopes := by
  match nodes with
  | [] => rfl
  | node :: rest =>
      rw [withoutAll, shownAll_append, shownAll_without node suppresses,
        shownAll_withoutAll rest suppresses, shownAll]

end

end Template.Node

/-- Where no object of a document binds a name to anything but false or an array without elements, a
template is rendered as it is without the sections of that name, none of which is left at any depth:
to the same text or with the same error. -/
theorem render_withoutAll {name : String} {document : Document}
    (suppresses : document.Suppresses name) (nodes : List Node) :
    .block name ∉ Node.labelsOf (Node.withoutAll name nodes) ∧
      (render (Node.withoutAll name nodes) document).result = (render nodes document).result := by
  refine ⟨Node.block_not_mem_labelsOf_withoutAll name nodes, ?_⟩
  rw [render_result, render_result, Node.shownAll_withoutAll nodes suppresses]

/-- A root that binds a name to false, and an array of which one element binds it to an array without
elements and one binds nothing. -/
def hushed : Document :=
  .object [("s", .bool false), ("xs", .array .list
    [.object [("s", .array .tuple []), ("n", .string "1")], .null])]

theorem suppresses_hushed : hushed.Suppresses "s" := by
  have element : (Document.object [("s", .array .tuple []), ("n", .string "1")]).Suppresses "s" := by
    apply Document.Suppresses.of_parts
    · rintro value ⟨⟩
      exact .array .tuple
    · simp only [Document.parts, List.map_cons, List.map_nil, List.mem_cons, List.not_mem_nil,
        or_false, forall_eq_or_imp, forall_eq]
      exact ⟨.of_parts_nil rfl, .of_parts_nil rfl⟩
  have elements : (Document.array .list
      [.object [("s", .array .tuple []), ("n", .string "1")], .null]).Suppresses "s" := by
    apply Document.Suppresses.of_parts
    · rintro value ⟨⟩
    · simp only [Document.parts, List.mem_cons, List.not_mem_nil, or_false, forall_eq_or_imp,
        forall_eq]
      exact ⟨element, .of_parts_nil rfl⟩
  apply Document.Suppresses.of_parts
  · rintro value ⟨⟩
    exact .bool
  · simp only [hushed, Document.parts, List.map_cons, List.map_nil, List.mem_cons,
      List.not_mem_nil, or_false, forall_eq_or_imp, forall_eq]
    exact ⟨.of_parts_nil rfl, elements⟩

/-- The sections are taken out inside and outside of the section for the array. -/
theorem render_withoutAll_hushed :
    let nodes := [.block "xs" [.block "s" [.unknown], .escaped "n", .content ";"],
      .block "s" [.block "xs" []], .block "n" []]
    hushed.Suppresses "s" ∧
      Node.withoutAll "s" nodes = [.block "xs" [.escaped "n", .content ";"], .block "n" []] ∧
      (render nodes hushed).result = .ok "1;;" := by
  intro nodes
  have taken : Node.withoutAll "s" nodes =
      [.block "xs" [.escaped "n", .content ";"], .block "n" []] := by
    rfl
  refine ⟨suppresses_hushed, taken, ?_⟩
  rw [← (render_withoutAll suppresses_hushed nodes).2, taken]
  rfl

end Logicless
