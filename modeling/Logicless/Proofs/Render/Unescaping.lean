import Logicless.Proofs.Render.Meaning
import Mathlib.Logic.Function.Basic

/-!
Escaping a whole template. A template that shows all of its variables as they are has a twin that
escapes them, with its own contents escaped as well. What the twin shows is the escaped text of the
template, and taking back the entities from left to right gives the text of the template again.
-/

set_option autoImplicit false

namespace Logicless

open Template

namespace Text

/-- A text with the characters of its entities in their place, taken back from left to right. What
an entity gives is not looked at again. -/
def unescape : List Char → List Char
  | '&' :: 'a' :: 'm' :: 'p' :: ';' :: rest => '&' :: unescape rest
  | '&' :: 'l' :: 't' :: ';' :: rest => '<' :: unescape rest
  | '&' :: 'g' :: 't' :: ';' :: rest => '>' :: unescape rest
  | '&' :: 'q' :: 'u' :: 'o' :: 't' :: ';' :: rest => '"' :: unescape rest
  | '&' :: '#' :: 'x' :: '2' :: '7' :: ';' :: rest => '\'' :: unescape rest
  | c :: rest => c :: unescape rest
  | [] => []

def unescapeHtml (text : String) : String := String.ofList (unescape text.toList)

/-- Only an ampersand can begin an entity. -/
theorem unescape_cons {c : Char} (plain : c ≠ '&') (rest : List Char) :
    unescape (c :: rest) = c :: unescape rest := by
  rw [unescape] <;> exact fun _ same => absurd same plain

theorem unescape_entity (c : Char) (rest : List Char) :
    unescape (entity c ++ rest) = c :: unescape rest := by
  unfold entity
  split
  · rfl
  · rfl
  · rfl
  · rfl
  · rfl
  · rename_i notAmpersand _ _ _ _
    exact unescape_cons notAmpersand rest

theorem unescape_flatMap_entity (cs : List Char) : unescape (cs.flatMap entity) = cs := by
  induction cs with
  | nil => rfl
  | cons c rest ih => rw [List.flatMap_cons, unescape_entity, ih]

theorem unescapeHtml_escapeHtml (text : String) : unescapeHtml (escapeHtml text) = text := by
  rw [unescapeHtml, toList_escapeHtml, unescape_flatMap_entity, String.ofList_toList]

end Text

namespace Shown

theorem escaped_nothing : nothing.escaped = nothing := rfl

theorem escaped_andThen (first next : Shown) :
    (first.andThen next).escaped = first.escaped.andThen next.escaped := by
  obtain ⟨text, failure⟩ := first
  cases failure with
  | none => simp only [andThen, escaped, Text.escapeHtml_append]
  | some error => rfl

theorem escaped_concat (parts : List Shown) :
    (concat parts).escaped = concat (parts.map escaped) := by
  induction parts with
  | nil => exact escaped_nothing
  | cons first rest ih => rw [List.map_cons, concat, concat, escaped_andThen, ih]

/-- A section shows the escaped text where its body does. -/
theorem escaped_ofBlock (name : String) {body twin : Scopes → Shown}
    (inside : ∀ scopes, twin scopes = (body scopes).escaped) (scopes : Scopes)
    (value : Option Document) :
    ofBlock name twin scopes value = (ofBlock name body scopes value).escaped := by
  unfold ofBlock
  split
  · exact escaped_nothing.symm
  · exact escaped_nothing.symm
  · exact inside _
  · rw [escaped_concat, List.map_map]
    exact congrArg concat (List.map_congr_left fun item _ => inside _)
  · rfl

theorem wholeText_escaped (shown : Shown) :
    shown.escaped.wholeText = shown.wholeText.map Text.escapeHtml := by
  obtain ⟨text, failure⟩ := shown
  cases failure <;> rfl

end Shown

namespace Template.Node

mutual

def escaping : Node → Node
  | .content text => .content (Text.escapeHtml text)
  | .unescaped name => .escaped name
  | .block name children => .block name (escapingAll children)
  | .escaped name => .escaped name
  | .unknown => .unknown

def escapingAll : List Node → List Node
  | [] => []
  | node :: rest => escaping node :: escapingAll rest

end

mutual

/-- Where no variable is escaped yet, the twin shows the escaped text. -/
theorem shown_escaping (node : Node) (unescaped : ∀ name, .escaped name ∉ node.labels)
    (scopes : Scopes) : node.escaping.shown scopes = (node.shown scopes).escaped := by
  match node with
  | .content _ | .unescaped _ | .unknown => rfl
  | .escaped name => exact absurd List.mem_cons_self (unescaped name)
  | .block name children =>
      have inside : ∀ other, .escaped other ∉ labelsOf children :=
        fun other among => unescaped other (List.mem_cons_of_mem _ among)
      exact Shown.escaped_ofBlock name (shownAll_escapingAll children inside) scopes _

theorem shownAll_escapingAll (nodes : List Node)
    (unescaped : ∀ name, .escaped name ∉ labelsOf nodes) (scopes : Scopes) :
    shownAll (escapingAll nodes) scopes = (shownAll nodes scopes).escaped := by
  match nodes with
  | [] => rfl
  | first :: rest =>
      have here := shown_escaping first
        (fun name among => unescaped name (List.mem_append_left _ among)) scopes
      have later := shownAll_escapingAll rest
        (fun name among => unescaped name (List.mem_append_right _ among)) scopes
      rw [escapingAll, shownAll, shownAll, here, later, Shown.escaped_andThen]

end

end Template.Node

/-- Of a template that escapes no variable, the twin that escapes its variables and contents has the
escaped text, or the same error. Its entities taken back from left to right give the text of the
template again: escaping never makes two texts one. -/
theorem render_escapingAll (nodes : List Node) (document : Document)
    (unescaped : ∀ name, .escaped name ∉ Node.labelsOf nodes) :
    (render (Node.escapingAll nodes) document).result =
        (render nodes document).result.map Text.escapeHtml ∧
      (render (Node.escapingAll nodes) document).result.map Text.unescapeHtml =
        (render nodes document).result ∧
      Function.Injective Text.escapeHtml := by
  have twin : (render (Node.escapingAll nodes) document).result =
      (render nodes document).result.map Text.escapeHtml := by
    rw [render_result, render_result, Node.shownAll_escapingAll nodes unescaped,
      Shown.wholeText_escaped]
  refine ⟨twin, ?_, Function.LeftInverse.injective Text.unescapeHtml_escapeHtml⟩
  rw [twin]
  cases (render nodes document).result with
  | error failure => rfl
  | ok text => exact congrArg Except.ok (Text.unescapeHtml_escapeHtml text)

/-- A text that looks escaped already, shown once for each of two elements. -/
theorem render_escapingAll_entities :
    (∀ name, .escaped name ∉ Node.labelsOf [.block "xs" [.content "&lt;", .unescaped "n"]]) ∧
    (render (Node.escapingAll [.block "xs" [.content "&lt;", .unescaped "n"]])
        (.object [("xs", .array .list [.null, .null]), ("n", .string "'&amp;")])).result =
      .ok "&amp;lt;&#x27;&amp;amp;&amp;lt;&#x27;&amp;amp;" ∧
    Text.unescapeHtml "&amp;lt;&#x27;&amp;amp;&amp;lt;&#x27;&amp;amp;" = "&lt;'&amp;&lt;'&amp;" := by
  have unescaped : ∀ name, .escaped name ∉
      Node.labelsOf [.block "xs" [.content "&lt;", .unescaped "n"]] := by
    simp [Node.labelsOf, Node.labels]
  have plain : (render [.block "xs" [.content "&lt;", .unescaped "n"]]
      (.object [("xs", .array .list [.null, .null]), ("n", .string "'&amp;")])).result =
        .ok "&lt;'&amp;&lt;'&amp;" := by rfl
  obtain ⟨twin, back, -⟩ := render_escapingAll _ (.object
    [("xs", .array .list [.null, .null]), ("n", .string "'&amp;")]) unescaped
  rw [plain] at twin back
  rw [twin] at back
  exact ⟨unescaped, twin, Except.ok.inj back⟩

end Logicless
