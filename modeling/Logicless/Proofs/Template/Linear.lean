import Logicless.Proofs.Template.Labels
import Logicless.Proofs.Template.Passage

/-!
Nodes written as tokens in a row: a section as an opening tag, what is inside, and a closing tag. To
parse such a row gives the nodes back, however closing tags are treated and whatever the sections are
called, one inside another of the same name and sections without a name included. So what a parse
gives, written as tokens, is parsed to the same even where closing is strict.
-/

set_option autoImplicit false

namespace Logicless.Template

/-- A token that was not cut from a text. -/
def Token.bare (kind : TokenKind) (value : String) : Token := ⟨kind, value, .start, ""⟩

namespace Node

mutual

/-- The tokens of a node. No token stands for an unknown node. -/
def tokens : Node → List Token
  | .content text => [.bare .content text]
  | .escaped name => [.bare .escapedVariable name]
  | .unescaped name => [.bare .unescapedVariable name]
  | .block name children =>
    .bare .sectionOpen name :: tokensOf children ++ [.bare .sectionClose name]
  | .unknown => []

def tokensOf : List Node → List Token
  | [] => []
  | node :: rest => tokens node ++ tokensOf rest

end

end Node

namespace OpenSections

def addAll (sections : OpenSections) (nodes : List Node) : OpenSections :=
  { sections with innermost.nodes := sections.innermost.nodes ++ nodes }

theorem addAll_nil (sections : OpenSections) : sections.addAll [] = sections := by
  rw [addAll, List.append_nil]

theorem addAll_singleton (sections : OpenSections) (node : Node) :
    sections.addAll [node] = sections.add node := rfl

theorem addAll_append (sections : OpenSections) (first second : List Node) :
    (sections.addAll first).addAll second = sections.addAll (first ++ second) := by
  rw [addAll, addAll, addAll, List.append_assoc]

/-- The closing tag of a section with all its nodes leaves the sections around, and the node of the
section in the innermost of them. -/
theorem step_close (closing : Closing) (sections : OpenSections) (name : String)
    (children : List Node) :
    ((sections.enter name).addAll children).step closing (.bare .sectionClose name) =
      .goOn (sections.add (.block name children)) := by
  rw [step, Token.bare]
  exact if_pos rfl

mutual

/-- The pass over the tokens of a node puts the node into the innermost section. The sections
are arbitrary, so that it applies inside the section of another node. -/
theorem behind?_tokens (closing : Closing) (sections : OpenSections) (node : Node)
    (known : .unknown ∉ node.labels) :
    sections.behind? closing node.tokens = some (sections.add node) := by
  match node with
  | .content _ | .escaped _ | .unescaped _ => rfl
  | .block name children =>
      have inside : .unknown ∉ Node.labelsOf children :=
        fun among => known (List.mem_cons_of_mem _ among)
      have entered := behind?_tokensOf closing (sections.enter name) children inside
      rw [Node.tokens, List.cons_append, behind?]
      change (sections.enter name).behind? closing _ = _
      rw [behind?_append, entered, Option.bind_some, behind?, step_close]
      rfl
  | .unknown => exact absurd List.mem_cons_self known

theorem behind?_tokensOf (closing : Closing) (sections : OpenSections) (nodes : List Node)
    (known : .unknown ∉ Node.labelsOf nodes) :
    sections.behind? closing (Node.tokensOf nodes) = some (sections.addAll nodes) := by
  match nodes with
  | [] => rw [addAll_nil]; rfl
  | node :: rest =>
      rw [Node.labelsOf, List.mem_append, not_or] at known
      rw [Node.tokensOf, behind?_append, behind?_tokens closing sections node known.1,
        Option.bind_some, behind?_tokensOf closing _ rest known.2, ← addAll_singleton,
        addAll_append]
      rfl

end

end OpenSections

theorem parseTokens_of_known (closing : Closing) {nodes : List Node} {tokens : List Token}
    (known : .unknown ∉ Node.labelsOf nodes)
    (written : tokens.map Token.mark = (Node.tokensOf nodes).map Token.mark) :
    (parseTokens closing tokens).result = .ok nodes := by
  apply parseTokens_of_marks_eq written
  apply parseTokens_of_behind?
  rw [OpenSections.behind?_tokensOf closing .start nodes known]
  rfl

/-- What the parser reads of a section holds no unknown node. -/
theorem known_of_parseSection {closing : Closing} {name : String} {tokens : List Token}
    {ended : Ended tokens.length} (parsed : (parseSection closing name tokens).result = .ok ended) :
    .unknown ∉ Node.labelsOf ended.children := by
  induction name, tokens using parseSection.induct closing with
  | case1 name named =>
      rw [parseSection, if_pos named] at parsed
      cases parsed
      exact List.not_mem_nil
  | case2 name unnamed =>
      rw [parseSection, if_neg unnamed] at parsed
      cases parsed
      exact List.not_mem_nil
  | case3 name token rest kind ih | case4 name token rest kind ih | case5 name token rest kind ih =>
      rw [parseSection, kind] at parsed
      simp only [Reported.result_bind] at parsed
      obtain ⟨behind, later, same⟩ := exists_of_bind_eq_ok parsed
      cases same
      exact List.not_mem_cons_of_ne_of_not_mem (by simp) (ih later)
  | case6 name token rest kind ih | case7 name token rest kind ih =>
      rw [parseSection, kind] at parsed
      simp only [Reported.result_bind, Reported.result_note, Except.bind] at parsed
      obtain ⟨behind, later, same⟩ := exists_of_bind_eq_ok parsed
      cases same
      exact ih later
  | case8 name token rest kind inner outer =>
      rw [parseSection, kind] at parsed
      simp only [Reported.result_bind] at parsed
      obtain ⟨entered, first, onward⟩ := exists_of_bind_eq_ok parsed
      obtain ⟨behind, later, same⟩ := exists_of_bind_eq_ok onward
      cases same
      have both : .unknown ∉ Node.labelsOf entered.children ++ Node.labelsOf behind.children := by
        rw [List.mem_append, not_or]
        exact ⟨inner first, outer entered later⟩
      exact List.not_mem_cons_of_ne_of_not_mem (by simp) both
  | case9 token rest kind =>
      rw [parseSection, kind] at parsed
      simp only [↓reduceIte] at parsed
      cases parsed
      exact List.not_mem_nil
  | case10 name token rest kind other strict =>
      rw [parseSection, kind] at parsed
      simp only [other, strict, ↓reduceIte] at parsed
      cases parsed
  | case11 name token rest kind other lenient ih =>
      rw [parseSection, kind] at parsed
      simp only [other, lenient, Bool.false_eq_true, ↓reduceIte, Reported.result_bind,
        Reported.result_note, Except.bind] at parsed
      obtain ⟨behind, later, same⟩ := exists_of_bind_eq_ok parsed
      cases same
      exact ih later
  | case12 name token rest foreign kind =>
      rw [parseSection, kind] at parsed
      cases parsed

theorem known_of_parseTokens {closing : Closing} {tokens : List Token} {nodes : List Node}
    (parsed : (parseTokens closing tokens).result = .ok nodes) : .unknown ∉ Node.labelsOf nodes := by
  rw [parseTokens, Reported.result_bind] at parsed
  obtain ⟨ended, first, same⟩ := exists_of_bind_eq_ok parsed
  cases same
  exact known_of_parseSection first

/-- Nodes of the four known kinds, written as tokens wherever these stand, are parsed to the same
nodes however closing tags are treated. In particular what a lenient parse gives is what a strict
parse gives of its tokens. -/
theorem parseTokens_tokensOf :
    (∀ (closing : Closing) (nodes : List Node) (tokens : List Token), .unknown ∉ Node.labelsOf nodes →
      tokens.map Token.mark = (Node.tokensOf nodes).map Token.mark →
        (parseTokens closing tokens).result = .ok nodes) ∧
    ∀ (given tokens : List Token) (nodes : List Node), (parseTokens {} given).result = .ok nodes →
      tokens.map Token.mark = (Node.tokensOf nodes).map Token.mark →
        (parseTokens { strict := true } tokens).result = .ok nodes := by
  refine ⟨fun closing _ _ known written => parseTokens_of_known closing known written, ?_⟩
  intro given tokens nodes parsed written
  exact parseTokens_of_known _ (known_of_parseTokens parsed) written

/-- A section inside one of the same name with a section without a name inside, and the tree of tokens
without closing tags. -/
theorem parseTokens_tokensOf_nested :
    (.unknown ∉ Node.labelsOf [.block "a" [.block "a" [.block "" [.content "x"]], .escaped "b"]] ∧
      (parseTokens { strict := true } (Node.tokensOf
        [.block "a" [.block "a" [.block "" [.content "x"]], .escaped "b"]])).result =
          .ok [.block "a" [.block "a" [.block "" [.content "x"]], .escaped "b"]]) ∧
    (parseTokens {} [.bare .sectionOpen "a", .bare .sectionClose "b", .bare .content "x"]).result =
        .ok [.block "a" [.content "x"]] ∧
      (parseTokens { strict := true } (Node.tokensOf [.block "a" [.content "x"]])).result =
        .ok [.block "a" [.content "x"]] := by
  have known : .unknown ∉
      Node.labelsOf [.block "a" [.block "a" [.block "" [.content "x"]], .escaped "b"]] := by decide
  have parsed : (parseTokens {} [.bare .sectionOpen "a", .bare .sectionClose "b",
      .bare .content "x"]).result = .ok [.block "a" [.content "x"]] := by cbv
  exact ⟨⟨known, parseTokens_tokensOf.1 _ _ _ known rfl⟩, parsed,
    parseTokens_tokensOf.2 _ _ _ parsed rfl⟩

end Logicless.Template
