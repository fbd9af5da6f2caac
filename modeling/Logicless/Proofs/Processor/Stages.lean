import Logicless.Processor
import Logicless.Proofs.Render.Meaning
import Logicless.Proofs.Template.Marks

/-!
Rendering a template in stages: its tokens, their tree, the document that the data are, and the text.
The first stage that fails decides.
-/

set_option autoImplicit false

namespace Logicless.Attempt

open Template

/-- The result of parsing a template is that of parsing its tokens. -/
theorem parseTemplate_result (closing : Closing) {template : String} {tokens : List Token}
    (made : tokenize template = .ok tokens) :
    (parseTemplate closing template).result =
      (parseTokens closing tokens).result.mapError fun error => .template (.parse error) := by
  rw [parseTemplate, Reported.result_adapt, parse, made]
  simp only [Reported.result_bind, Reported.result_ofExcept]
  change ((parseTokens closing tokens).result.mapError _).mapError _ = _
  cases (parseTokens closing tokens).result <;> rfl

theorem wrap_result (datum : Datum) :
    (wrap datum).result = (Document.ofDatum datum).mapError fun error => .load (.shape error) := by
  change ((Document.ofDatum datum).mapError LoadError.shape).mapError ProcessError.load = _
  cases Document.ofDatum datum <;> rfl

theorem renderNodes_result (nodes : List Node) (document : Document) :
    (renderNodes nodes document).result =
      (Node.shownAll nodes (.ofRoot document)).wholeText.mapError .render := by
  rw [renderNodes, Reported.result_adapt, render_result]

/-- Parsing comes first, then the data are looked at, and then the nodes are rendered. -/
theorem renderTemplate_result (closing : Closing) (template : String) (datum : Datum) :
    (renderTemplate closing template (.ok datum)).result =
      (parseTemplate closing template).result.bind fun nodes =>
        (wrap datum).result.bind fun document => (renderNodes nodes document).result := by
  simp only [renderTemplate, Reported.result_bind]
  rfl

/-- Behind a parse that succeeds, the data and the nodes decide. -/
theorem renderTemplate_of_parsed {closing : Closing} {template : String} {tokens : List Token}
    {nodes : List Node} (made : tokenize template = .ok tokens)
    (parsed : (parseTokens closing tokens).result = .ok nodes) (datum : Datum) :
    (renderTemplate closing template (.ok datum)).result =
      (wrap datum).result.bind fun document =>
        (Node.shownAll nodes (.ofRoot document)).wholeText.mapError .render := by
  rw [renderTemplate_result, parseTemplate_result closing made, parsed]
  simp only [renderNodes_result]
  rfl

end Logicless.Attempt
