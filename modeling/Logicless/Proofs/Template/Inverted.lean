import Logicless.Proofs.Template.Linear

/-!
Inverted sections. The opening tag of an inverted section opens nothing, so that its nodes stand in the
section around it, and its closing tag is a closing tag like any other. It is dropped where the
innermost open section has another name, and the inverted section is then as good as its nodes alone.
Inside a section of the same name it closes that one.
-/

set_option autoImplicit false

namespace Logicless.Template

namespace OpenSections

theorem step_inverted {opened : Token} {name : String} (opens : opened.mark = (.invertedSection, name))
    (closing : Closing) (sections : OpenSections) : sections.step closing opened = .goOn sections := by
  obtain ⟨kind, -⟩ := Prod.mk.inj opens
  rw [step, kind]

/-- Lenient closing drops the closing tag of another section than the innermost one. -/
theorem step_other_close {closed : Token} {name : String} (closes : closed.mark = (.sectionClose, name))
    {sections : OpenSections} (other : sections.innermost.name ≠ name) :
    sections.step {} closed = .goOn sections := by
  obtain ⟨kind, rfl⟩ := Prod.mk.inj closes
  simp only [step, kind, if_neg (Ne.symm other), Bool.false_eq_true, if_false]

/-- The closing tag of the innermost section ends it, and the template if that is the innermost one. -/
theorem run_own_close {closed : Token} {sections : OpenSections}
    (closes : closed.mark = (.sectionClose, sections.innermost.name)) (closing : Closing)
    (after : List Token) :
    sections.run closing (closed :: after) =
      match sections.around with
      | [] => .ok sections.innermost.toNode
      | outer :: around => run closing ⟨outer.add sections.innermost.toNode, around⟩ after := by
  rw [run, step_own_close closes]
  obtain ⟨innermost, around⟩ := sections
  cases around <;> rfl

/-- Wherever it stands, the opening tag of an inverted section is passed over. -/
theorem run_inverted {opened : Token} {name : String} (opens : opened.mark = (.invertedSection, name))
    (closing : Closing) (sections : OpenSections) (before after : List Token) :
    sections.run closing (before ++ opened :: after) = sections.run closing (before ++ after) := by
  apply run_append_congr
  intro next _
  rw [run, step_inverted opens]

/-- Nodes in a row are added to the innermost of the sections that are open in front of them. -/
theorem behind?_append_written {sections next : OpenSections} {before body : List Token}
    {nodes : List Node} (known : .unknown ∉ Node.labelsOf nodes)
    (written : body.map Token.mark = (Node.tokensOf nodes).map Token.mark) (closing : Closing)
    (reached : sections.behind? closing before = some next) :
    sections.behind? closing (before ++ body) = some (next.addAll nodes) := by
  rw [behind?_append, reached, Option.bind_some, behind?_of_marks_eq written,
    behind?_tokensOf closing next nodes known]

/-- Behind nodes in a row, the closing tag of another section than the innermost one is passed over. -/
theorem run_other_close {closed : Token} {name : String} (closes : closed.mark = (.sectionClose, name))
    {sections : OpenSections} {before body after : List Token} {nodes : List Node}
    (known : .unknown ∉ Node.labelsOf nodes)
    (written : body.map Token.mark = (Node.tokensOf nodes).map Token.mark)
    (other : ∀ next, sections.behind? {} before = some next → next.innermost.name ≠ name) :
    sections.run {} (before ++ body ++ closed :: after) = sections.run {} (before ++ body ++ after) := by
  apply run_append_congr
  intro last reached
  have split := reached
  rw [behind?_append, Option.bind_eq_some_iff] at split
  obtain ⟨next, stood, -⟩ := split
  rw [behind?_append_written known written {} stood] at reached
  cases reached
  have unmatched : (next.addAll nodes).innermost.name ≠ name := other next stood
  rw [run, step_other_close closes unmatched]

end OpenSections

/-- In lenient parsing, an inverted section around nodes that are written as tokens is those tokens
with its closing tag behind them. Where the innermost section that is open in front of it has another
name, the template itself having the empty one, the closing tag is dropped as well: the inverted
section is no node, and what stands in it stands one level up. Where the innermost section has the
same name, the closing tag ends that section, with the nodes in it, and the tokens behind belong to
the sections around; if it is the template itself, they are not read. -/
theorem parseTokens_inverted {before body after : List Token} {opened closed : Token} {name : String}
    {nodes : List Node} (opens : opened.mark = (.invertedSection, name))
    (closes : closed.mark = (.sectionClose, name)) (known : .unknown ∉ Node.labelsOf nodes)
    (written : body.map Token.mark = (Node.tokensOf nodes).map Token.mark) :
    (parseTokens {} (before ++ opened :: (body ++ closed :: after))).result =
        (parseTokens {} (before ++ body ++ closed :: after)).result ∧
      ((∀ sections, OpenSections.start.behind? {} before = some sections →
          sections.innermost.name ≠ name) →
        (parseTokens {} (before ++ opened :: (body ++ closed :: after))).result =
          (parseTokens {} (before ++ body ++ after)).result) ∧
      ∀ sections, OpenSections.start.behind? {} before = some sections →
        sections.innermost.name = name →
          OpenSections.start.run {} (before ++ opened :: (body ++ closed :: after)) =
            let ended := .block name (sections.innermost.nodes ++ nodes)
            match sections.around with
            | [] => .ok ended
            | outer :: around => OpenSections.run {} ⟨outer.add ended, around⟩ after := by
  have unopened : OpenSections.start.run {} (before ++ opened :: (body ++ closed :: after)) =
      OpenSections.start.run {} (before ++ body ++ closed :: after) := by
    rw [OpenSections.run_inverted opens, List.append_assoc]
  refine ⟨parseTokens_congr unopened, fun other => parseTokens_congr ?_, ?_⟩
  · rw [unopened, OpenSections.run_other_close closes known written other]
  · rintro sections reached rfl
    have inside := OpenSections.behind?_append_written known written {} reached
    have own : closed.mark = (.sectionClose, (sections.addAll nodes).innermost.name) := closes
    rw [unopened, OpenSections.run_append inside]
    exact OpenSections.run_own_close own {} after

/-- An inverted section with a section of its own name inside it, in a section of another name. -/
theorem parseTokens_inverted_between :
    .unknown ∉ Node.labelsOf [.block "x" [.content "s"], .content "t"] ∧
      (∀ sections, OpenSections.start.behind? {} [.bare .sectionOpen "a"] = some sections →
        sections.innermost.name ≠ "x") ∧
      (parseTokens {} ([.bare .sectionOpen "a"] ++ .bare .invertedSection "x" ::
        (Node.tokensOf [.block "x" [.content "s"], .content "t"] ++ .bare .sectionClose "x" ::
          [.bare .content "u", .bare .sectionClose "a"]))).result =
        .ok [.block "a" [.block "x" [.content "s"], .content "t", .content "u"]] := by
  have known : .unknown ∉ Node.labelsOf [.block "x" [.content "s"], .content "t"] := by decide
  have other : ∀ sections,
      OpenSections.start.behind? {} [.bare .sectionOpen "a"] = some sections →
        sections.innermost.name ≠ "x" := by
    intro sections reached
    cases reached
    decide
  refine ⟨known, other, ?_⟩
  rw [(parseTokens_inverted rfl rfl known rfl).2.1 other]
  cbv

/-- Inside a section of the same name the closing tag of an inverted section closes that one: what
follows is left outside, so that this is not the parse of the nodes alone. -/
theorem inverted_close_ends_section :
    let body := Node.tokensOf [.content "a"]
    let after := [.bare .content "b", .bare .sectionClose "x"]
    let inverted := [.bare .sectionOpen "x"] ++ .bare .invertedSection "x" ::
      (body ++ .bare .sectionClose "x" :: after)
    let plain := [.bare .sectionOpen "x"] ++ body ++ after
    (parseTokens {} inverted).result = .ok [.block "x" [.content "a"], .content "b"] ∧
      (parseTokens {} plain).result = .ok [.block "x" [.content "a", .content "b"]] ∧
      (parseTokens {} inverted).result ≠ (parseTokens {} plain).result := by
  intro body after inverted plain
  have one : (parseTokens {} inverted).result = .ok [.block "x" [.content "a"], .content "b"] := by cbv
  have other : (parseTokens {} plain).result = .ok [.block "x" [.content "a", .content "b"]] := by cbv
  refine ⟨one, other, ?_⟩
  rw [one, other]
  intro same
  cases same

end Logicless.Template
