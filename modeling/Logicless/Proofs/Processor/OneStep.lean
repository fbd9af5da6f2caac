import Logicless.Proofs.Processor.Cache
import Logicless.Proofs.Processor.Stages
import Logicless.Proofs.Template.Discards
import Logicless.Proofs.Template.Strictness
import Mathlib

/-!
Two ways to render a text: by a processor, which compiles the template before it looks at the data
and may have done so long ago, and in one step, which looks at the data first. Where the processor
takes texts for JSON and its closing is lenient, both give the same answer, since such a template
always has a tree. Where its closing is strict, it refuses some templates, and gives the same text
for all others.
-/

set_option autoImplicit false

namespace Logicless

open Template Files

/-- The document that data are; a text stands for the JSON document that it holds. -/
def Document.ofData : Datum → Except LoadError Document
  | .scalar (.text text) => loadAs .json text
  | other => (ofDatum other).mapError .shape

theorem Document.ofData_of_not_text {data : Datum}
    (notText : ∀ text, data = .scalar (.text text) → False) :
    ofData data = (ofDatum data).mapError .shape := by
  unfold ofData
  split
  · rename_i text
    exact absurd rfl (notText text)
  · rfl

/-- A processor with these settings behind some calls, whatever the files were at each of them. -/
inductive Processor.Reachable (settings : Settings) : Processor → Prop where
  | new : Reachable settings (ofSettings settings)
  | call {processor : Processor} (before : Reachable settings processor) (files : FileTree)
    (call : Call) : Reachable settings (processor.perform files call).2

theorem Processor.Reachable.sound {settings : Settings} {processor : Processor}
    (reachable : Reachable settings processor) : Sound settings processor := by
  induction reachable with
  | new => exact ofSettings_sound settings
  | call before files call ih => exact perform_sound ih files call

namespace Attempt

/-- Where closing is lenient, every template has a tree. -/
theorem exists_parseTemplate_lenient (template : String) :
    ∃ nodes, (parseTemplate {} template).result = .ok nodes := by
  obtain ⟨tokens, made, -⟩ := tokenize_allCutFrom template
  rw [parseTemplate_result {} made]
  obtain ⟨nodes, parsed, -⟩ | ⟨_, -, _, mismatch, -⟩ :=
    parseTokens_outcome {} tokens (known_of_tokenize made)
  · exact ⟨nodes, by rw [parsed]; rfl⟩
  · cases mismatch.strict

/-- A tree that strict closing allows is the one that lenient closing gives. -/
theorem parseTemplate_lenient_of_strict {template : String} {nodes : List Node}
    (parsed : (parseTemplate { strict := true } template).result = .ok nodes) :
    (parseTemplate {} template).result = .ok nodes := by
  obtain ⟨tokens, made, -⟩ := tokenize_allCutFrom template
  rw [parseTemplate_result _ made, mapError_eq_ok_iff] at parsed ⊢
  rw [parseTokens_refusing, refusing_eq_ok_iff] at parsed
  exact parsed.1

/-- Since parsing does not fail, it does not matter that a text is loaded before. -/
theorem renderText_result (template : String) (data : Datum) :
    (renderText template data).result =
      (parseTemplate {} template).result.bind fun nodes =>
        ((Document.ofData data).mapError .load).bind fun document =>
          (renderNodes nodes document).result := by
  obtain ⟨nodes, parsed⟩ := exists_parseTemplate_lenient template
  unfold renderText
  split
  · rename_i text
    rw [Reported.result_bind, parsed]
    simp only [renderTemplate_result, parsed]
    rfl
  · rename_i notText
    rw [renderTemplate_result, Document.ofData_of_not_text notText]
    rfl

end Attempt

/-- What the data of a processor are, where it takes texts for JSON. -/
theorem Processor.documentOf_result {settings : Settings} (json : settings.dataFormat = "json")
    (data : Datum) :
    ((ofSettings settings).documentOf data).result = (Document.ofData data).mapError .load := by
  have format : (ofSettings settings).settings.dataFormat = "json" := json
  unfold documentOf
  rw [format]
  split
  · rfl
  · rename_i notText
    rw [Document.ofData_of_not_text notText]
    rfl

/-- A processor that takes texts for JSON, behind any calls, against rendering in one step. With
lenient closing both have the same answer. With strict closing the processor has a text exactly where
the template has a tree, the data are a document, and rendering the tree has that text; it is then
that of rendering in one step. -/
theorem Processor.renderText_eq_oneStep {settings : Settings} {processor : Processor}
    (reachable : Reachable settings processor) (json : settings.dataFormat = "json")
    (template : String) (data : Datum) :
    (settings.strictClosing = false →
      (processor.renderText template data).1.result = (Attempt.renderText template data).result) ∧
    (settings.strictClosing = true → ∀ text,
      ((processor.renderText template data).1.result = .ok text ↔
        ∃ nodes document, (parse { strict := true } template).result = .ok nodes ∧
          Document.ofData data = .ok document ∧ (render nodes document).result = .ok text) ∧
      ((processor.renderText template data).1.result = .ok text →
        (Attempt.renderText template data).result = .ok text)) := by
  have stages := renderText_result reachable.sound template data
  rw [documentOf_result json] at stages
  refine ⟨?_, ?_⟩
  · intro lenient
    have closing : (ofSettings settings).closing = {} := congrArg Closing.mk lenient
    rw [stages, closing, Attempt.renderText_result]
  · intro strict text
    have closing : (ofSettings settings).closing = { strict := true } := congrArg Closing.mk strict
    rw [closing] at stages
    have succeeds : (processor.renderText template data).1.result = .ok text ↔
        ∃ nodes document, (Attempt.parseTemplate { strict := true } template).result = .ok nodes ∧
          Document.ofData data = .ok document ∧
          (Attempt.renderNodes nodes document).result = .ok text := by
      rw [stages]
      constructor
      · intro whole
        obtain ⟨nodes, parsed, rest⟩ := exists_of_bind_eq_ok whole
        obtain ⟨document, loaded, shown⟩ := exists_of_bind_eq_ok rest
        exact ⟨nodes, document, parsed, mapError_eq_ok_iff.mp loaded, shown⟩
      · rintro ⟨nodes, document, parsed, loaded, shown⟩
        rw [parsed, loaded]
        exact shown
    refine ⟨?_, ?_⟩
    · rw [succeeds]
      simp only [Attempt.parseTemplate, Attempt.renderNodes, Reported.result_adapt,
        mapError_eq_ok_iff]
    · intro whole
      obtain ⟨nodes, document, parsed, loaded, shown⟩ := succeeds.mp whole
      rw [Attempt.renderText_result, Attempt.parseTemplate_lenient_of_strict parsed, loaded]
      exact shown

/-- A tree that a processor with strict closing keeps already, and a closing tag that one with
lenient closing passes over. -/
theorem Processor.renderText_eq_oneStep_kept :
    (((ofSettings { strictClosing := true, dataFormat := "json" }).perform ⟨fun _ => .missing⟩
      (.compile "x\x7b\x7bn\x7d\x7d")).2.renderText "x\x7b\x7bn\x7d\x7d"
        (.text "\x7b\"n\":\"<\"\x7d")).1.result = .ok "x&lt;" ∧
    (((ofSettings { dataFormat := "json" }).perform ⟨fun _ => .missing⟩
      .clear).2.renderText "\x7b\x7b/a\x7d\x7dx\x7b\x7bn\x7d\x7d"
        (.text "\x7b\"n\":\"<\"\x7d")).1.result = .ok "x&lt;" := by
  have parsed : (parse { strict := true } "x\x7b\x7bn\x7d\x7d").result =
      .ok [.content "x", .escaped "n"] := by cbv
  have loaded : Document.ofData (.text "\x7b\"n\":\"<\"\x7d") =
      .ok (.object [("n", .string "<")]) := by
    cbv
  have oneStep : (Attempt.renderText "\x7b\x7b/a\x7d\x7dx\x7b\x7bn\x7d\x7d"
      (.text "\x7b\"n\":\"<\"\x7d")).result = .ok "x&lt;" := by cbv
  constructor
  · have reachable : Reachable { strictClosing := true, dataFormat := "json" } _ :=
      .call .new ⟨fun _ => .missing⟩ (.compile "x\x7b\x7bn\x7d\x7d")
    have strict := (renderText_eq_oneStep reachable rfl "x\x7b\x7bn\x7d\x7d"
      (.text "\x7b\"n\":\"<\"\x7d")).2 rfl "x&lt;"
    exact strict.1.mpr ⟨_, _, parsed, loaded, rfl⟩
  · have reachable : Reachable { dataFormat := "json" } _ := .call .new ⟨fun _ => .missing⟩ .clear
    have lenient := (renderText_eq_oneStep reachable rfl "\x7b\x7b/a\x7d\x7dx\x7b\x7bn\x7d\x7d"
      (.text "\x7b\"n\":\"<\"\x7d")).1 rfl
    exact lenient.trans oneStep

end Logicless
