import Logicless.Proofs.Processor.Stages
import Logicless.Proofs.Template.Passage
import Logicless.Proofs.Template.Seam
import Logicless.Proofs.Template.Strictness

/-!
Templates one behind the other. Where no tag crosses the seam and the first template leaves no
section open and is not ended early, the text of the whole is that of the first template and then
that of the second one, and the first error of the two is the error of the whole.
-/

set_option autoImplicit false

namespace Logicless

open Template

namespace Template

theorem parseTokens_content_cons (closing : Closing) {token : Token} {value : String}
    (content : token.mark = (.content, value)) (rest : List Token) :
    (parseTokens closing (token :: rest)).result =
      (parseTokens closing rest).result.map (.content value :: ·) := by
  obtain ⟨kind, rfl⟩ := Prod.mk.inj content
  rw [parseTokens, parseTokens, parseSection, kind]
  simp only [Reported.result_bind, Reported.result_pure]
  cases (parseSection closing "" rest).result <;> rfl

namespace OpenSections

/-- Only the template is open behind content if it is open before it. -/
theorem behind?_content {closing : Closing} {sections : OpenSections} {first : List Token}
    {token : Token} {value : String} {nodes : List Node} (content : token.mark = (.content, value))
    (reached : sections.behind? closing (first ++ [token]) = some (.outermost nodes)) :
    ∃ before, sections.behind? closing first = some (.outermost before) ∧
      nodes = before ++ [.content value] := by
  obtain ⟨kind, rfl⟩ := Prod.mk.inj content
  rw [behind?_append, Option.bind_eq_some_iff] at reached
  obtain ⟨⟨⟨name, before⟩, around⟩, stood, last⟩ := reached
  simp only [behind?, step, kind, add, OpenSection.add, outermost, Option.some.injEq, mk.injEq,
    OpenSection.mk.injEq] at last
  obtain ⟨⟨rfl, rfl⟩, rfl⟩ := last
  exact ⟨before, stood, rfl⟩

end OpenSections

/-- The nodes of a whole are those of its parts in a row, but for content on both sides of the
seam, which is one node of the whole. -/
theorem parseTokens_tokenize_append {closing : Closing} {first second : String}
    {tokens before behind : List Token} {nodes more : List Node}
    (whole : tokenize (first ++ second) = .ok tokens)
    (uncrossed : Token.Uncrossed first.length tokens)
    (one : tokenize first = .ok before) (other : tokenize second = .ok behind)
    (reached : OpenSections.start.behind? closing before = some (.outermost nodes))
    (parsed : (parseTokens closing behind).result = .ok more) :
    (parseTokens closing tokens).result = .ok (nodes ++ more) ∨
      ∃ front left right rest, nodes = front ++ [.content left] ∧ more = .content right :: rest ∧
        (parseTokens closing tokens).result = .ok (front ++ .content (left ++ right) :: rest) := by
  rcases marks_tokenize_append whole uncrossed one other with
    apart | ⟨front, left, right, rest, firstMarks, secondMarks, merged⟩
  · rw [← List.map_append] at apart
    exact .inl (parseTokens_of_marks_eq apart (parseTokens_append reached parsed))
  · obtain ⟨frontTokens, lastTokens, rfl, frontMarks, lastMarks⟩ := List.map_eq_append_iff.mp firstMarks
    obtain ⟨last, none, rfl, lastMark, nothing⟩ := List.map_eq_cons_iff.mp lastMarks
    rw [List.map_eq_nil_iff] at nothing
    subst nothing
    obtain ⟨head, restTokens, rfl, headMark, restMarks⟩ := List.map_eq_cons_iff.mp secondMarks
    obtain ⟨frontNodes, stood, rfl⟩ := OpenSections.behind?_content lastMark reached
    rw [parseTokens_content_cons closing headMark] at parsed
    cases behindParsed : (parseTokens closing restTokens).result with
    | error failure =>
        rw [behindParsed] at parsed
        cases parsed
    | ok restNodes =>
        rw [behindParsed] at parsed
        cases parsed
        -- A token that says what the one at the seam says, and may stand anywhere.
        let joint : Token := ⟨.content, left ++ right, .start, ""⟩
        have seam : (parseTokens closing (joint :: restTokens)).result =
            .ok (.content (left ++ right) :: restNodes) := by
          rw [parseTokens_content_cons closing (show joint.mark = (.content, left ++ right) from rfl),
            behindParsed]
          rfl
        refine .inr ⟨frontNodes, left, right, restNodes, rfl, rfl, ?_⟩
        refine parseTokens_of_marks_eq ?_ (parseTokens_append stood seam)
        rw [merged, List.map_append, List.map_cons, frontMarks, restMarks]
        rfl

/-- A whole shows what its parts show, one behind the other. -/
theorem exists_shownAll_tokenize_append {closing : Closing} {first second : String}
    {tokens before behind : List Token} {nodes more : List Node}
    (whole : tokenize (first ++ second) = .ok tokens)
    (uncrossed : Token.Uncrossed first.length tokens)
    (one : tokenize first = .ok before) (other : tokenize second = .ok behind)
    (reached : OpenSections.start.behind? closing before = some (.outermost nodes))
    (parsed : (parseTokens closing behind).result = .ok more) :
    ∃ all, (parseTokens closing tokens).result = .ok all ∧ ∀ scopes,
      Node.shownAll all scopes = (Node.shownAll nodes scopes).andThen (Node.shownAll more scopes) := by
  rcases parseTokens_tokenize_append whole uncrossed one other reached parsed with
    apart | ⟨front, left, right, rest, rfl, rfl, merged⟩
  · exact ⟨_, apart, Node.shownAll_append nodes more⟩
  · refine ⟨_, merged, fun scopes => ?_⟩
    have lone : Node.shownAll [.content left] scopes = Node.shown (.content left) scopes := by
      rw [Node.shownAll, Node.shownAll, Shown.andThen_nothing]
    rw [Node.shownAll_append, Node.shownAll_content_append, Node.shownAll_append, lone,
      Shown.andThen_assoc]

end Template

/-- Rendering a template in front of another one, in lenient parsing: no tag crosses the seam, and
the pass over the tokens of the first one goes on to the last of them, with only the template open
behind it. The texts follow one another; the error of the first template counts before that of the
second. -/
theorem renderTemplate_append {first second : String} {tokens before : List Token}
    {nodes : List Node} (whole : tokenize (first ++ second) = .ok tokens)
    (uncrossed : Token.Uncrossed first.length tokens) (one : tokenize first = .ok before)
    (reached : OpenSections.start.behind? {} before = some (.outermost nodes)) (datum : Datum) :
    (Attempt.renderTemplate {} (first ++ second) (.ok datum)).result = (do
      let text ← (Attempt.renderTemplate {} first (.ok datum)).result
      let more ← (Attempt.renderTemplate {} second (.ok datum)).result
      return text ++ more) := by
  obtain ⟨behind, other, -⟩ := tokenize_allCutFrom second
  have known := known_of_tokenize other
  obtain ⟨more, parsed, -⟩ | ⟨_, -, _, mismatch, -⟩ := parseTokens_outcome {} behind known
  · obtain ⟨all, wholeParsed, inRow⟩ :=
      exists_shownAll_tokenize_append whole uncrossed one other reached parsed
    rw [Attempt.renderTemplate_of_parsed whole wholeParsed,
      Attempt.renderTemplate_of_parsed one (parseTokens_of_behind? reached),
      Attempt.renderTemplate_of_parsed other parsed]
    cases (Attempt.wrap datum).result with
    | error failure => rfl
    | ok document =>
        change (Node.shownAll all (.ofRoot document)).wholeText.mapError ProcessError.render = _
        rw [inRow]
        exact Shown.mapError_wholeText_andThen ProcessError.render _ _
  · cases mismatch.strict

/-- A section that shows its content twice, with content on both sides of the seam. -/
theorem renderTemplate_append_content :
    ∃ tokens before nodes,
      tokenize ("\x7b\x7b#a\x7d\x7dx\x7b\x7b/a\x7d\x7dy" ++ "z\x7b\x7bn\x7d\x7d") = .ok tokens ∧
      Token.Uncrossed "\x7b\x7b#a\x7d\x7dx\x7b\x7b/a\x7d\x7dy".length tokens ∧
      tokenize "\x7b\x7b#a\x7d\x7dx\x7b\x7b/a\x7d\x7dy" = .ok before ∧
      OpenSections.start.behind? {} before = some (.outermost nodes) ∧
      (Attempt.renderTemplate {} ("\x7b\x7b#a\x7d\x7dx\x7b\x7b/a\x7d\x7dy" ++ "z\x7b\x7bn\x7d\x7d")
        (.ok (.document (.object [("a", .array .list [.null, .null]), ("n", .string "<")])))).result =
        .ok "xxyz&lt;" := by
  let opened : Token := ⟨.sectionOpen, "a", ⟨0, 1, 1⟩, "\x7b\x7b#a\x7d\x7d"⟩
  let inside : Token := ⟨.content, "x", ⟨6, 1, 7⟩, "x"⟩
  let closed : Token := ⟨.sectionClose, "a", ⟨7, 1, 8⟩, "\x7b\x7b/a\x7d\x7d"⟩
  let left : Token := ⟨.content, "y", ⟨13, 1, 14⟩, "y"⟩
  let joint : Token := ⟨.content, "yz", ⟨13, 1, 14⟩, "yz"⟩
  let shown : Token := ⟨.escapedVariable, "n", ⟨15, 1, 16⟩, "\x7b\x7bn\x7d\x7d"⟩
  let right : Token := ⟨.content, "z", ⟨0, 1, 1⟩, "z"⟩
  let last : Token := ⟨.escapedVariable, "n", ⟨1, 1, 2⟩, "\x7b\x7bn\x7d\x7d"⟩
  have whole : tokenize ("\x7b\x7b#a\x7d\x7dx\x7b\x7b/a\x7d\x7dy" ++ "z\x7b\x7bn\x7d\x7d") =
      .ok [opened, inside, closed, joint, shown] := by rfl
  have uncrossed : Token.Uncrossed "\x7b\x7b#a\x7d\x7dx\x7b\x7b/a\x7d\x7dy".length
      [opened, inside, closed, joint, shown] := by
    unfold Token.Uncrossed
    decide
  have one : tokenize "\x7b\x7b#a\x7d\x7dx\x7b\x7b/a\x7d\x7dy" = .ok [opened, inside, closed, left] := by
    rfl
  have reached : OpenSections.start.behind? {} [opened, inside, closed, left] =
      some (.outermost [.block "a" [.content "x"], .content "y"]) := by rfl
  have other : tokenize "z\x7b\x7bn\x7d\x7d" = .ok [right, last] := by rfl
  have otherReached : OpenSections.start.behind? {} [right, last] =
      some (.outermost [.content "z", .escaped "n"]) := by rfl
  refine ⟨_, _, _, whole, uncrossed, one, reached, ?_⟩
  rw [renderTemplate_append whole uncrossed one reached,
    Attempt.renderTemplate_of_parsed one (parseTokens_of_behind? reached),
    Attempt.renderTemplate_of_parsed other (parseTokens_of_behind? otherReached)]
  rfl

end Logicless
