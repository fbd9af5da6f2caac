import Logicless.Template.Parse

/-!
Parsing as a single pass over the tokens with an explicit stack of open sections. The parser, which
calls itself for each section, has the outcome of that pass for every list of tokens: the same tree,
or the same error at the same token.
-/

set_option autoImplicit false

namespace Logicless.Template

/-- A section that has not ended: its name, and its nodes so far. -/
structure OpenSection where
  name : String
  nodes : List Node

namespace OpenSection

def add (opened : OpenSection) (node : Node) : OpenSection :=
  { opened with nodes := opened.nodes ++ [node] }

/-- The node that a section becomes when it ends. -/
def toNode (opened : OpenSection) : Node := .block opened.name opened.nodes

end OpenSection

/-- The open sections: the innermost, and those around it from the inside outwards. The outermost
one is the template as a whole. -/
structure OpenSections where
  innermost : OpenSection
  around : List OpenSection

namespace OpenSections

/-- The template alone, before its first token. -/
def start : OpenSections := ⟨⟨"", []⟩, []⟩

def add (sections : OpenSections) (node : Node) : OpenSections :=
  { sections with innermost := sections.innermost.add node }

def enter (sections : OpenSections) (name : String) : OpenSections :=
  ⟨⟨name, []⟩, sections.innermost :: sections.around⟩

/-- The template if all open sections end at once, the innermost first. -/
def collapse (innermost : OpenSection) : List OpenSection → Node
  | [] => innermost.toNode
  | outer :: around => collapse (outer.add innermost.toNode) around

/-- What a token does to the open sections. -/
inductive Move where
  | goOn (sections : OpenSections)
  | stop (template : Node)
  | refuse (error : ParseError)

/-- Ends the innermost section. The end of the template is the end of the pass. -/
def leave (sections : OpenSections) : Move :=
  match sections.around with
  | [] => .stop sections.innermost.toNode
  | outer :: around => .goOn ⟨outer.add sections.innermost.toNode, around⟩

def step (closing : Closing) (sections : OpenSections) (token : Token) : Move :=
  match token.kind with
  | .content => .goOn (sections.add (.content token.value))
  | .escapedVariable => .goOn (sections.add (.escaped token.value))
  | .unescapedVariable => .goOn (sections.add (.unescaped token.value))
  | .comment => .goOn sections
  | .invertedSection => .goOn sections
  | .sectionOpen => .goOn (sections.enter token.value)
  | .sectionClose =>
    if token.value = sections.innermost.name then sections.leave
    else if closing.strict then .refuse (.mismatchedClose token sections.innermost.name)
    else .goOn sections
  | .foreign _ => .refuse (.unexpected token)

def run (closing : Closing) (sections : OpenSections) : List Token → Except ParseError Node
  | [] => .ok (collapse sections.innermost sections.around)
  | token :: rest =>
    match sections.step closing token with
    | .goOn next => next.run closing rest
    | .stop template => .ok template
    | .refuse error => .error error

/-- The pass behind the end of the innermost section: it goes on in the section around it, and ends
with the template. -/
def resume (closing : Closing) (sections : OpenSections) {bound : Nat} (ended : Ended bound) :
    Except ParseError Node :=
  let node := .block sections.innermost.name (sections.innermost.nodes ++ ended.children)
  match sections.around with
  | [] => .ok node
  | outer :: around => run closing ⟨outer.add node, around⟩ ended.rest

theorem resume_cons (closing : Closing) (sections : OpenSections) {bound wider : Nat} (node : Node)
    (ended : Ended bound) (within : ended.rest.length ≤ wider) :
    sections.resume closing (⟨node :: ended.children, ended.rest, within⟩ : Ended wider) =
      (sections.add node).resume closing ended := by
  simp only [resume, add, OpenSection.add, List.append_assoc, List.singleton_append]

/-- The end of a section that was entered makes it a node of the section around it. -/
theorem resume_enter (closing : Closing) (sections : OpenSections) (name : String) {bound : Nat}
    (ended : Ended bound) :
    (sections.enter name).resume closing ended =
      (sections.add (.block name ended.children)).run closing ended.rest := rfl

/-- A section without further nodes ends as if the pass had just met its closing tag. -/
theorem resume_empty (closing : Closing) (sections : OpenSections) {bound : Nat}
    (rest : List Token) (within : rest.length ≤ bound) :
    sections.resume closing ⟨[], rest, within⟩ =
      match sections.leave with
      | .goOn next => next.run closing rest
      | .stop template => .ok template
      | .refuse error => .error error := by
  unfold resume leave
  rw [List.append_nil]
  split <;> rfl

/-- At the end of the input it makes no difference whether one section ends or all of them. -/
theorem resume_end (closing : Closing) (sections : OpenSections) {bound : Nat}
    (within : ([] : List Token).length ≤ bound) :
    sections.resume closing ⟨[], [], within⟩ = sections.run closing [] := by
  unfold resume
  rw [List.append_nil, run]
  split
  · rename_i outermost
    rw [outermost]
    rfl
  · rename_i outer around inside
    rw [inside]
    rfl

/-- The pass over what the parser reads of a section, and over all that stands behind it, in any
sections around. The induction follows the parser; the sections around are arbitrary, so that it
applies to a section inside another one and then to the rest of that one. -/
theorem run_eq_bind_resume (closing : Closing) (name : String) (tokens : List Token)
    (nodes : List Node) (around : List OpenSection) :
    run closing ⟨⟨name, nodes⟩, around⟩ tokens =
      (parseSection closing name tokens).result.bind (resume closing ⟨⟨name, nodes⟩, around⟩) := by
  induction name, tokens using parseSection.induct closing generalizing nodes around with
  | case1 name named =>
      rw [parseSection, if_pos named]
      exact (resume_end closing _ _).symm
  | case2 name unnamed =>
      rw [parseSection, if_neg unnamed]
      exact (resume_end closing _ _).symm
  | case3 name token rest kind ih | case4 name token rest kind ih | case5 name token rest kind ih =>
      rw [parseSection, kind, run]
      simp only [step, kind, Reported.result_bind, Reported.result_pure, Reported.bind_bind]
      rw [add, OpenSection.add, ih]
      congr 1
      funext ended
      exact (resume_cons closing _ _ ended _).symm
  | case6 name token rest kind ih | case7 name token rest kind ih =>
      rw [parseSection, kind, run]
      simp only [step, kind, Reported.result_bind, Reported.result_pure, Reported.bind_bind]
      exact ih nodes around
  | case8 name token rest kind inner outer =>
      rw [parseSection, kind, run]
      simp only [step, kind, Reported.result_bind, Reported.result_pure, Reported.bind_bind]
      rw [enter, inner]
      congr 1
      funext entered
      -- The section that was entered has become a node; the parser reads on in the one around it.
      have entering := resume_enter closing ⟨⟨name, nodes⟩, around⟩ token.value entered
      rw [enter] at entering
      rw [entering, add, OpenSection.add, outer]
      congr 1
      funext ended
      exact (resume_cons closing _ _ ended _).symm
  | case9 token rest kind =>
      rw [parseSection, kind, run]
      simp only [step, kind, ↓reduceIte, Reported.result_pure]
      exact (resume_empty closing _ rest _).symm
  | case10 name token rest kind other strict =>
      rw [parseSection, kind, run]
      simp only [step, kind, other, strict, ↓reduceIte, Reported.result_fail]
      rfl
  | case11 name token rest kind other lenient ih =>
      rw [parseSection, kind, run]
      simp only [step, kind, other, lenient, Bool.false_eq_true, ↓reduceIte, Reported.result_bind,
        Reported.result_note, Reported.result_pure, Reported.bind_bind]
      exact ih nodes around
  | case12 name token rest foreign kind =>
      rw [parseSection, kind, run]
      simp only [step, kind, Reported.result_fail]
      rfl

theorem run_start (closing : Closing) (tokens : List Token) :
    start.run closing tokens =
      (parseSection closing "" tokens).result.map fun ended => .block "" ended.children := by
  rw [start, run_eq_bind_resume]
  cases (parseSection closing "" tokens).result with
  | error failure => rfl
  | ok ended => rfl

theorem parseTokens_eq_ok_iff (closing : Closing) (tokens : List Token) (nodes : List Node) :
    (parseTokens closing tokens).result = .ok nodes ↔
      start.run closing tokens = .ok (.block "" nodes) := by
  rw [run_start, parseTokens, Reported.result_bind]
  cases (parseSection closing "" tokens).result with
  | error failure => constructor <;> intro impossible <;> cases impossible
  | ok ended => constructor <;> intro same <;> cases same <;> rfl

theorem parseTokens_eq_error_iff (closing : Closing) (tokens : List Token) (error : ParseError) :
    (parseTokens closing tokens).result = .error error ↔ start.run closing tokens = .error error := by
  rw [run_start, parseTokens, Reported.result_bind]
  cases (parseSection closing "" tokens).result with
  | error failure => constructor <;> intro same <;> cases same <;> rfl
  | ok ended => constructor <;> intro impossible <;> cases impossible

end OpenSections

/-- The parser and the pass with an explicit stack have the same outcome, whatever the tokens are
and however closing tags are treated: the same tree, or the same error at the same token. -/
theorem parseTokens_eq_run (closing : Closing) (tokens : List Token) :
    (parseTokens closing tokens).result.map (Node.block "") =
      OpenSections.start.run closing tokens := by
  rw [OpenSections.run_start, parseTokens, Reported.result_bind]
  cases (parseSection closing "" tokens).result with
  | error failure => rfl
  | ok ended => rfl

end Logicless.Template
