import Logicless.Proofs.Render.Meaning
import Logicless.Proofs.Template.Labels

/-!
What can reach the text of a template as markup. An escaped text holds no character that opens or
closes markup, and no ampersand but those of its entities. So where a template escapes all of its
variables, all else that stands in its text was written by the author of the template, whatever the
document holds.
-/

set_option autoImplicit false

namespace Logicless

open Template

namespace Text

/-- The characters that open or close markup, or the value of an attribute. -/
def markup : List Char := ['<', '>', '"', '\'']

def entities : List (List Char) :=
  ["&amp;".toList, "&lt;".toList, "&gt;".toList, "&quot;".toList, "&#x27;".toList]

/-- A text without markup, in which every ampersand begins an entity. -/
structure Harmless (cs : List Char) : Prop where
  unmarked : ∀ c ∈ cs, c ∉ markup
  ampersand : ∀ before behind, cs = before ++ '&' :: behind → ∃ name ∈ entities, name <+: '&' :: behind

namespace Harmless

theorem nil : Harmless [] := ⟨nofun, fun before _ split => by cases before <;> cases split⟩

theorem append {first second : List Char} (one : Harmless first) (other : Harmless second) :
    Harmless (first ++ second) := by
  constructor
  · intro c among
    rcases List.mem_append.mp among with inFirst | inSecond
    · exact one.unmarked c inFirst
    · exact other.unmarked c inSecond
  · intro before behind split
    rcases List.append_eq_append_iff.mp split with ⟨between, rfl, later⟩ | ⟨between, rfl, later⟩
    · exact other.ampersand between behind later
    · cases between with
      | nil => exact other.ampersand [] behind (by rw [List.nil_append]; exact later.symm)
      | cons c between =>
          rw [List.cons_append, List.cons.injEq] at later
          obtain ⟨rfl, rfl⟩ := later
          obtain ⟨name, known, opens⟩ := one.ampersand before between rfl
          exact ⟨name, known, opens.trans (List.prefix_append _ second)⟩

end Harmless

theorem entities_form :
    ∀ name ∈ entities, name.head? = some '&' ∧ '&' ∉ name.tail ∧ ∀ c ∈ name, c ∉ markup := by
  simp [entities, markup]

theorem harmless_of_mem_entities {name : List Char} (known : name ∈ entities) : Harmless name := by
  obtain ⟨opens, once, unmarked⟩ := entities_form name known
  refine ⟨unmarked, ?_⟩
  intro before behind split
  cases before with
  | nil => exact ⟨name, known, split ▸ List.prefix_refl _⟩
  | cons c before =>
      rw [split] at once
      exact absurd (List.mem_append_right before List.mem_cons_self) once

theorem harmless_singleton {c : Char} (unmarked : c ∉ markup) (plain : c ≠ '&') : Harmless [c] := by
  constructor
  · intro other same
    rwa [List.mem_singleton.mp same]
  · intro before behind split
    have among : '&' ∈ [c] := split ▸ List.mem_append_right before List.mem_cons_self
    exact absurd (List.mem_singleton.mp among).symm plain

theorem harmless_entity (c : Char) : Harmless (entity c) := by
  unfold entity
  split
  · exact harmless_of_mem_entities (by decide)
  · exact harmless_of_mem_entities (by decide)
  · exact harmless_of_mem_entities (by decide)
  · exact harmless_of_mem_entities (by decide)
  · exact harmless_of_mem_entities (by decide)
  · rename_i notAmpersand notLess notGreater notQuote notApostrophe
    refine harmless_singleton ?_ notAmpersand
    simp only [markup, List.mem_cons, List.not_mem_nil, or_false, not_or]
    exact ⟨notLess, notGreater, notQuote, notApostrophe⟩

/-- Whatever a text holds, nothing of it is markup once it is escaped. -/
theorem harmless_escapeHtml (text : String) : Harmless (escapeHtml text).toList := by
  rw [toList_escapeHtml]
  induction text.toList with
  | nil => exact .nil
  | cons c rest ih =>
      rw [List.flatMap_cons]
      exact (harmless_entity c).append ih

/-- A text with another text in the place of each occurrence of a character. -/
def replace (c : Char) (replacement cs : List Char) : List Char :=
  cs.flatMap fun other => if other = c then replacement else [other]

/-- The ampersand may also be replaced first and the other characters one after the other: no
replacement disturbs those made before it. -/
theorem toList_escapeHtml_eq_replace (text : String) :
    (escapeHtml text).toList =
      replace '\'' "&#x27;".toList (replace '"' "&quot;".toList (replace '>' "&gt;".toList
        (replace '<' "&lt;".toList (replace '&' "&amp;".toList text.toList)))) := by
  rw [toList_escapeHtml]
  simp only [replace, List.flatMap_assoc]
  congr 1
  funext c
  unfold entity
  split
  · rfl
  · rfl
  · rfl
  · rfl
  · rfl
  · rename_i notAmpersand notLess notGreater notQuote notApostrophe
    rw [if_neg notAmpersand, List.flatMap_singleton, if_neg notLess, List.flatMap_singleton,
      if_neg notGreater, List.flatMap_singleton, if_neg notQuote, List.flatMap_singleton,
      if_neg notApostrophe]

end Text

/-- What a label adds to the text of a template, without the nodes inside. -/
def Template.Label.text (scopes : Scopes) : Label → String
  | .content text => text
  | .escaped name => Text.escapeHtml (scopes.variable name).text
  | .unescaped name => (scopes.variable name).text
  | .block _ | .unknown => ""

/-- A property of texts that holds of nothing, and of two texts one behind the other if it holds of
both. -/
structure JoinClosed (holds : String → Prop) : Prop where
  nothing : holds ""
  append : ∀ first second, holds first → holds second → holds (first ++ second)

namespace Shown

variable {holds : String → Prop}

theorem andThen_text (closed : JoinClosed holds) {first next : Shown} (one : holds first.text)
    (other : holds next.text) : holds (first.andThen next).text := by
  unfold andThen
  split
  · exact closed.append _ _ one other
  · exact one

theorem concat_text (closed : JoinClosed holds) {parts : List Shown}
    (all : ∀ part ∈ parts, holds part.text) : holds (concat parts).text := by
  induction parts with
  | nil => exact closed.nothing
  | cons first rest ih =>
      have later := ih fun part among => all part (List.mem_cons_of_mem _ among)
      exact andThen_text closed (all first List.mem_cons_self) later

theorem ofBlock_text (closed : JoinClosed holds) (name : String) {body : Scopes → Shown}
    (inside : ∀ scopes, holds (body scopes).text) (scopes : Scopes) (value : Option Document) :
    holds (ofBlock name body scopes value).text := by
  unfold ofBlock
  split
  · exact closed.nothing
  · exact closed.nothing
  · exact inside _
  · apply concat_text closed
    intro part among
    obtain ⟨item, _, rfl⟩ := List.mem_map.mp among
    exact inside _
  · exact closed.nothing

end Shown

namespace Template.Node

mutual

/-- What holds of all that the labels of a node add holds of the text that the node shows. -/
theorem shown_text {holds : String → Prop} (closed : JoinClosed holds) (node : Node)
    (scopes : Scopes) (added : ∀ label ∈ node.labels, ∀ scopes, holds (label.text scopes)) :
    holds (node.shown scopes).text := by
  match node with
  | .content text => exact added (.content text) List.mem_cons_self scopes
  | .escaped name => exact added (.escaped name) List.mem_cons_self scopes
  | .unescaped name => exact added (.unescaped name) List.mem_cons_self scopes
  | .block name children =>
      apply Shown.ofBlock_text closed
      intro inside
      exact shownAll_text closed children inside fun label among =>
        added label (List.mem_cons_of_mem _ among)
  | .unknown => exact closed.nothing

theorem shownAll_text {holds : String → Prop} (closed : JoinClosed holds) (nodes : List Node)
    (scopes : Scopes) (added : ∀ label ∈ labelsOf nodes, ∀ scopes, holds (label.text scopes)) :
    holds (shownAll nodes scopes).text := by
  match nodes with
  | [] => exact closed.nothing
  | first :: rest =>
      apply Shown.andThen_text closed
      · exact shown_text closed first scopes fun label among =>
          added label (List.mem_append_left _ among)
      · exact shownAll_text closed rest scopes fun label among =>
          added label (List.mem_append_right _ among)

end

end Template.Node

/-- A text is a row of segments that are all admitted. -/
def IsRowOf (admitted : String → Prop) (text : String) : Prop :=
  ∃ segments, String.join segments = text ∧ ∀ segment ∈ segments, admitted segment

theorem joinClosed_isRowOf (admitted : String → Prop) : JoinClosed (IsRowOf admitted) := by
  constructor
  · exact ⟨[], rfl, nofun⟩
  · rintro _ _ ⟨first, rfl, inFirst⟩ ⟨second, rfl, inSecond⟩
    refine ⟨first ++ second, String.join_append, ?_⟩
    intro segment among
    rcases List.mem_append.mp among with before | behind
    · exact inFirst segment before
    · exact inSecond segment behind

theorem isRowOf_singleton {admitted : String → Prop} {text : String} (one : admitted text) :
    IsRowOf admitted text := by
  refine ⟨[text], ?_, ?_⟩
  · rw [String.join_cons, String.join_nil, String.append_empty]
  · intro segment among
    rwa [List.mem_singleton.mp among]

/-- What no segment holds does not stand in the row. -/
theorem IsRowOf.forall_not_mem {admitted : String → Prop} {text : String}
    (row : IsRowOf admitted text) {unwanted : List Char}
    (each : ∀ segment, admitted segment → ∀ c ∈ segment.toList, c ∉ unwanted) :
    ∀ c ∈ text.toList, c ∉ unwanted := by
  obtain ⟨segments, rfl, all⟩ := row
  intro c among
  rw [String.toList_join, List.mem_flatMap] at among
  obtain ⟨segment, member, inside⟩ := among
  exact each segment (all segment member) c inside

/-- Where all variables of a template are escaped, its text is a row of contents of the template
and of harmless texts. So no markup comes from the document: without markup in the contents there is
none in the text. -/
theorem render_isRowOf_harmless (nodes : List Node) (document : Document) (text : String)
    (escaped : ∀ name, .unescaped name ∉ Node.labelsOf nodes)
    (rendered : (render nodes document).result = .ok text) :
    IsRowOf (fun segment => .content segment ∈ Node.labelsOf nodes ∨ Text.Harmless segment.toList)
        text ∧
      ((∀ content, .content content ∈ Node.labelsOf nodes → ∀ c ∈ content.toList, c ∉ Text.markup) →
        ∀ c ∈ text.toList, c ∉ Text.markup) := by
  have row : IsRowOf
      (fun segment => .content segment ∈ Node.labelsOf nodes ∨ Text.Harmless segment.toList)
      (Node.shownAll nodes (.ofRoot document)).text := by
    apply Node.shownAll_text (joinClosed_isRowOf _)
    intro label among scopes
    cases label with
    | content text => exact isRowOf_singleton (.inl among)
    | escaped name => exact isRowOf_singleton (.inr (Text.harmless_escapeHtml _))
    | unescaped name => exact absurd among (escaped name)
    | block name => exact (joinClosed_isRowOf _).nothing
    | unknown => exact (joinClosed_isRowOf _).nothing
  have whole : (Node.shownAll nodes (.ofRoot document)).text = text := by
    rw [render_result, Shown.wholeText] at rendered
    split at rendered
    · exact Except.ok.inj rendered
    · cases rendered
  rw [whole] at row
  refine ⟨row, ?_⟩
  intro unmarked
  apply row.forall_not_mem
  rintro segment (content | harmless)
  · exact unmarked segment content
  · exact harmless.unmarked

/-- Markup in a member, and the quotes of an array that is shown as a whole. -/
theorem render_isRowOf_harmless_members :
    (∀ name, .unescaped name ∉ Node.labelsOf
      [.content "xs: ", .block "xs" [.escaped "v"], .escaped "xs"]) ∧
    (render [.content "xs: ", .block "xs" [.escaped "v"], .escaped "xs"]
        (.object [("xs", .array .list [.object [("v", .string "<&>")]])])).result =
      .ok "xs: &lt;&amp;&gt;[\x7b&quot;v&quot;:&quot;&lt;&amp;&gt;&quot;\x7d]" ∧
    IsRowOf (fun segment => .content segment ∈ Node.labelsOf
        [.content "xs: ", .block "xs" [.escaped "v"], .escaped "xs"] ∨
          Text.Harmless segment.toList)
      "xs: &lt;&amp;&gt;[\x7b&quot;v&quot;:&quot;&lt;&amp;&gt;&quot;\x7d]" ∧
    ∀ c ∈ "xs: &lt;&amp;&gt;[\x7b&quot;v&quot;:&quot;&lt;&amp;&gt;&quot;\x7d]".toList,
      c ∉ Text.markup := by
  have escaped : ∀ name, .unescaped name ∉ Node.labelsOf
      [.content "xs: ", .block "xs" [.escaped "v"], .escaped "xs"] := by
    simp [Node.labelsOf, Node.labels]
  have rendered : (render [.content "xs: ", .block "xs" [.escaped "v"], .escaped "xs"]
        (.object [("xs", .array .list [.object [("v", .string "<&>")]])])).result =
      .ok "xs: &lt;&amp;&gt;[\x7b&quot;v&quot;:&quot;&lt;&amp;&gt;&quot;\x7d]" := by
    rfl
  have unmarked : ∀ content, .content content ∈ Node.labelsOf
      [.content "xs: ", .block "xs" [.escaped "v"], .escaped "xs"] →
        ∀ c ∈ content.toList, c ∉ Text.markup := by
    intro content among
    have only : content = "xs: " := by simpa [Node.labelsOf, Node.labels] using among
    simp [only, Text.markup]
  obtain ⟨row, free⟩ := render_isRowOf_harmless _ _ _ escaped rendered
  exact ⟨escaped, rendered, row, free unmarked⟩

end Logicless
