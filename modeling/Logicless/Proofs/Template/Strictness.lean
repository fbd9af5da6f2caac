import Logicless.Proofs.Template.Labels

/-!
Strict and lenient closing. A strict pass over tokens is the lenient pass up to the first closing tag
of another name, which it refuses. So parsing what a template can hold fails in one way only, and
only where closing is strict.
-/

set_option autoImplicit false

namespace Logicless.Template

/-- A closing tag of another name than that of the open section, where this is refused. -/
structure Mismatch (closing : Closing) (token : Token) (openName : String) : Prop where
  strict : closing.strict = true
  closes : token.kind = .sectionClose
  other : token.value ≠ openName

namespace OpenSections

/-- A step is the lenient step, or it refuses a closing tag of another name. -/
theorem step_eq_lenient_or_mismatch (closing : Closing) (sections : OpenSections) (token : Token) :
    sections.step closing token = sections.step {} token ∨
      Mismatch closing token sections.innermost.name ∧
        sections.step closing token = .refuse (.mismatchedClose token sections.innermost.name) := by
  cases kind : token.kind with
  | sectionClose =>
      simp only [step, kind]
      by_cases same : token.value = sections.innermost.name
      · rw [if_pos same, if_pos same]
        exact .inl rfl
      · rw [if_neg same, if_neg same]
        by_cases strict : closing.strict = true
        · rw [if_pos strict]
          exact .inr ⟨⟨strict, kind, same⟩, rfl⟩
        · rw [if_neg strict]
          exact .inl rfl
  | _ =>
      simp only [step, kind]
      exact .inl trivial

/-- A pass ends as the lenient pass, or with a closing tag of another name. -/
theorem run_eq_lenient_or_mismatch (closing : Closing) (sections : OpenSections)
    (tokens : List Token) :
    sections.run closing tokens = sections.run {} tokens ∨
      ∃ token ∈ tokens, ∃ openName, Mismatch closing token openName ∧
        sections.run closing tokens = .error (.mismatchedClose token openName) := by
  induction tokens generalizing sections with
  | nil => exact .inl rfl
  | cons token rest ih =>
      rw [run, run]
      rcases step_eq_lenient_or_mismatch closing sections token with same | ⟨mismatch, refused⟩
      · rw [same]
        cases sections.step {} token with
        | goOn next =>
            rcases ih next with equal | ⟨other, among, rest⟩
            · exact .inl equal
            · exact .inr ⟨other, List.mem_cons_of_mem _ among, rest⟩
        | stop template => exact .inl rfl
        | refuse error => exact .inl rfl
      · rw [refused]
        exact .inr ⟨token, List.mem_cons_self, _, mismatch, rfl⟩

end OpenSections

/-- No token stands for an unknown node. -/
theorem Token.label?_ne_unknown (token : Token) : token.label? ≠ some .unknown := by
  unfold label?
  split <;> nofun

/-- The outcomes of parsing tokens that a template can hold: nodes that are all known, or, where
closing is strict, a closing tag of another name. -/
theorem parseTokens_outcome (closing : Closing) (tokens : List Token)
    (known : ∀ token ∈ tokens, ∀ name, token.kind ≠ .foreign name) :
    (∃ nodes, (parseTokens closing tokens).result = .ok nodes ∧
      .unknown ∉ Node.labelsOf nodes) ∨
    ∃ token ∈ tokens, ∃ openName, Mismatch closing token openName ∧
      (parseTokens closing tokens).result = .error (.mismatchedClose token openName) := by
  obtain ⟨nodes, finished, kept⟩ := OpenSections.run_labels .start tokens rfl known
  have plain : .unknown ∉ Node.labelsOf nodes := by
    intro among
    have inRow := List.mem_append_left ((unread [] tokens).filterMap Token.label?) among
    change .unknown ∈ Node.labelsOf nodes ++ (unread [] tokens).filterMap Token.label? at inRow
    change Node.labelsOf nodes ++ (unread [] tokens).filterMap Token.label? = _ at kept
    rw [kept] at inRow
    obtain ⟨token, -, labelled⟩ := List.mem_filterMap.mp inRow
    exact token.label?_ne_unknown labelled
  rcases OpenSections.run_eq_lenient_or_mismatch closing .start tokens with
    same | ⟨token, among, openName, mismatch, refused⟩
  · refine .inl ⟨nodes, ?_, plain⟩
    exact (OpenSections.parseTokens_eq_ok_iff closing tokens nodes).mpr (same.trans finished)
  · refine .inr ⟨token, among, openName, mismatch, ?_⟩
    exact (OpenSections.parseTokens_eq_error_iff closing tokens _).mpr refused

end Logicless.Template
