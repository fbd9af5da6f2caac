import Logicless.Proofs.Template.Linear

/-!
Sections that are open where the tokens end. The end of the input ends them all, and so do their
closing tags, the innermost first: the tree is the same. Behind these tags only the template is open,
so that what follows is parsed as if it stood alone.
-/

set_option autoImplicit false

namespace Logicless.Template

namespace OpenSections

/-- The closing tags of all open sections, the innermost first, leave the template alone, as the end
of the input would make it. The induction is on the sections around, which become the innermost one
in turn. -/
theorem behind?_closers (closing : Closing) (innermost : OpenSection) (around : List OpenSection)
    {closers : List Token}
    (closes : closers.map Token.mark = (namesUpTo innermost around).map (.sectionClose, ·)) :
    ∃ template : OpenSection, behind? closing ⟨innermost, around⟩ closers = some ⟨template, []⟩ ∧
      collapse innermost around = template.toNode := by
  induction around generalizing innermost closers with
  | nil =>
      obtain rfl := List.map_eq_nil_iff.mp closes
      exact ⟨innermost, rfl, rfl⟩
  | cons outer around ih =>
      obtain ⟨closed, later, rfl, own, others⟩ := List.map_eq_cons_iff.mp closes
      rw [← namesUpTo_add outer around innermost.toNode] at others
      obtain ⟨template, left, collapsed⟩ := ih (outer.add innermost.toNode) others
      refine ⟨template, ?_, collapsed⟩
      rw [behind?, step_own_close own]
      exact left

/-- What the pass ends with is a template without a name, and its nodes are those of the parse. -/
theorem exists_nodes_of_run {closing : Closing} {tokens : List Token} {template : Node}
    (ended : start.run closing tokens = .ok template) :
    ∃ nodes, template = .block "" nodes ∧ (parseTokens closing tokens).result = .ok nodes := by
  have shape := ended
  rw [run_start] at shape
  cases parsed : (parseSection closing "" tokens).result with
  | error failure =>
      rw [parsed] at shape
      cases shape
  | ok whole =>
      rw [parsed] at shape
      cases shape
      exact ⟨whole.children, rfl, (parseTokens_eq_ok_iff closing tokens _).mpr ended⟩

end OpenSections

/-- Behind tokens that leave only the template open, others end as they do alone. -/
theorem parseTokens_append_result {closing : Closing} {first : List Token} {nodes : List Node}
    (reached : OpenSections.start.behind? closing first = some (.outermost nodes))
    (second : List Token) :
    (parseTokens closing (first ++ second)).result =
      (parseTokens closing second).result.map (nodes ++ ·) := by
  cases parsed : (parseTokens closing second).result with
  | ok more => exact parseTokens_append reached parsed
  | error failure =>
      apply (OpenSections.parseTokens_eq_error_iff _ _ _).mpr
      rw [OpenSections.run_append reached, OpenSections.run_outermost, parsed]
      rfl

/-- Tokens that are all read and the closing tags of the sections which they leave open, the innermost
first, give the tree of these tokens alone, strict closing or not. Behind the tags all that follows is
parsed as it is alone: its nodes stand behind those of the tree, and its error is the error. -/
theorem parseTokens_closed {closing : Closing} {tokens closers : List Token} {sections : OpenSections}
    (reached : OpenSections.start.behind? closing tokens = some sections)
    (closes : closers.map Token.mark =
      (OpenSections.namesUpTo sections.innermost sections.around).map (.sectionClose, ·)) :
    ∃ nodes, (parseTokens closing tokens).result = .ok nodes ∧
      (parseTokens closing (tokens ++ closers)).result = .ok nodes ∧
      ∀ others, (parseTokens closing (tokens ++ closers ++ others)).result =
        (parseTokens closing others).result.map (nodes ++ ·) := by
  obtain ⟨⟨name, nodes⟩, left, collapsed⟩ :=
    OpenSections.behind?_closers closing sections.innermost sections.around closes
  have ended : OpenSections.start.run closing tokens = .ok (.block name nodes) := by
    have whole := OpenSections.run_append reached []
    rw [List.append_nil, OpenSections.run, collapsed] at whole
    exact whole
  obtain ⟨_, shape, parsed⟩ := OpenSections.exists_nodes_of_run ended
  obtain ⟨rfl, rfl⟩ := Node.block.inj shape
  have alone : OpenSections.start.behind? closing (tokens ++ closers) = some (.outermost nodes) := by
    rw [OpenSections.behind?_append, reached]
    exact left
  exact ⟨nodes, parsed, parseTokens_of_behind? alone, parseTokens_append_result alone⟩

/-- A section inside one without a name inside one of its own name, and a closing tag that is dropped. -/
theorem parseTokens_closed_nested :
    let tokens := [.bare .sectionOpen "a", .bare .content "x", .bare .sectionOpen "",
      .bare .sectionOpen "a", .bare .sectionClose "b"]
    let sections := ⟨⟨"a", []⟩, [⟨"", []⟩, ⟨"a", [.content "x"]⟩, ⟨"", []⟩]⟩
    let closers := [.bare .sectionClose "a", .bare .sectionClose "", .bare .sectionClose "a"]
    OpenSections.start.behind? {} tokens = some sections ∧
      closers.map Token.mark =
        (OpenSections.namesUpTo sections.innermost sections.around).map (.sectionClose, ·) ∧
      (parseTokens {} (tokens ++ closers)).result = (parseTokens {} tokens).result ∧
      (parseTokens {} (tokens ++ closers ++ [.bare .sectionOpen "c"])).result =
        .ok [.block "a" [.content "x", .block "" [.block "a" []]], .block "c" []] := by
  intro tokens sections closers
  have reached : OpenSections.start.behind? {} tokens = some sections := by rfl
  have closes : closers.map Token.mark =
      (OpenSections.namesUpTo sections.innermost sections.around).map (.sectionClose, ·) := by rfl
  have parsed : (parseTokens {} tokens).result =
      .ok [.block "a" [.content "x", .block "" [.block "a" []]]] := by cbv
  have other : (parseTokens {} [.bare .sectionOpen "c"]).result = .ok [.block "c" []] := by cbv
  obtain ⟨nodes, alone, closed, behind⟩ := parseTokens_closed reached closes
  cases parsed.symm.trans alone
  refine ⟨reached, closes, closed.trans alone.symm, ?_⟩
  rw [behind, other]
  rfl

end Logicless.Template
