import Logicless.Proofs.Template.OpenSections

/-!
What the tree of a template keeps of the tokens. Read from the top, the tree names every content,
variable and opened section in the order of the tokens, each once. Only a closing tag without a
name that stands outside of all sections costs something: it ends the template, and what stands
behind it is lost.
-/

set_option autoImplicit false

namespace Logicless.Template

/-- What a node says by itself, without the nodes inside it. -/
inductive Label where
  | content (text : String)
  | escaped (name : String)
  | unescaped (name : String)
  | block (name : String)
  | unknown
deriving Repr, DecidableEq

namespace Node

mutual

/-- The labels of a node and of the nodes inside it, each node before those inside it. -/
def labels : Node → List Label
  | .content text => [.content text]
  | .escaped name => [.escaped name]
  | .unescaped name => [.unescaped name]
  | .block name children => .block name :: labelsOf children
  | .unknown => [.unknown]

def labelsOf : List Node → List Label
  | [] => []
  | node :: rest => labels node ++ labelsOf rest

end

theorem labelsOf_append (first second : List Node) :
    labelsOf (first ++ second) = labelsOf first ++ labelsOf second := by
  induction first with
  | nil => rfl
  | cons node rest ih => rw [List.cons_append, labelsOf, labelsOf, ih, List.append_assoc]

theorem labelsOf_singleton (node : Node) : labelsOf [node] = node.labels := by
  rw [labelsOf, labelsOf, List.append_nil]

end Node

/-- The label of the node that a token stands for, if it stands for one. -/
def Token.label? (token : Token) : Option Label :=
  match token.kind with
  | .content => some (.content token.value)
  | .escapedVariable => some (.escaped token.value)
  | .unescapedVariable => some (.unescaped token.value)
  | .sectionOpen => some (.block token.value)
  | .comment | .invertedSection | .sectionClose | .foreign _ => none

/-- The names of the open sections behind a token, the innermost first. A closing tag of another
name changes nothing. -/
def namesBehind (names : List String) (token : Token) : List String :=
  match token.kind with
  | .sectionOpen => token.value :: names
  | .sectionClose => if names.head? = some token.value then names.tail else names
  | _ => names

/-- A closing tag without a name where no section is open. -/
def EndsTemplate (names : List String) (token : Token) : Prop :=
  names = [] ∧ token.kind = .sectionClose ∧ token.value = ""

instance (names : List String) (token : Token) : Decidable (EndsTemplate names token) :=
  inferInstanceAs (Decidable (_ ∧ _))

/-- The tokens behind the first one that ends the template. -/
def unread (names : List String) : List Token → List Token
  | [] => []
  | token :: rest =>
    if EndsTemplate names token then rest else unread (namesBehind names token) rest

namespace OpenSections

/-- The labels of all nodes so far, those of open sections included, but not that of the template. -/
def labelsUpTo (innermost : OpenSection) : List OpenSection → List Label
  | [] => Node.labelsOf innermost.nodes
  | outer :: around =>
    labelsUpTo outer around ++ .block innermost.name :: Node.labelsOf innermost.nodes

/-- The names of the open sections without the template, the innermost first. -/
def namesUpTo (innermost : OpenSection) : List OpenSection → List String
  | [] => []
  | outer :: around => innermost.name :: namesUpTo outer around

def outermostName (innermost : OpenSection) : List OpenSection → String
  | [] => innermost.name
  | outer :: around => outermostName outer around

theorem labelsUpTo_add (innermost : OpenSection) (around : List OpenSection) (node : Node) :
    labelsUpTo (innermost.add node) around = labelsUpTo innermost around ++ node.labels := by
  cases around with
  | nil => simp only [labelsUpTo, OpenSection.add, Node.labelsOf_append, Node.labelsOf_singleton]
  | cons outer around =>
      simp only [labelsUpTo, OpenSection.add, Node.labelsOf_append, Node.labelsOf_singleton,
        List.append_assoc, List.cons_append]

theorem namesUpTo_add (innermost : OpenSection) (around : List OpenSection) (node : Node) :
    namesUpTo (innermost.add node) around = namesUpTo innermost around := by
  cases around <;> rfl

theorem outermostName_add (innermost : OpenSection) (around : List OpenSection) (node : Node) :
    outermostName (innermost.add node) around = outermostName innermost around := by
  cases around <;> rfl

/-- Ending a section does not change what has been said so far. -/
theorem labelsUpTo_toNode (innermost outer : OpenSection) (around : List OpenSection) :
    labelsUpTo (outer.add innermost.toNode) around = labelsUpTo innermost (outer :: around) := by
  rw [labelsUpTo_add, OpenSection.toNode, Node.labels, labelsUpTo]

/-- All sections may end at once without a change to what has been said. -/
theorem collapse_labels (innermost : OpenSection) (around : List OpenSection) :
    ∃ nodes, collapse innermost around = .block (outermostName innermost around) nodes ∧
      Node.labelsOf nodes = labelsUpTo innermost around := by
  induction around generalizing innermost with
  | nil => exact ⟨innermost.nodes, rfl, rfl⟩
  | cons outer around ih =>
      obtain ⟨nodes, collapsed, same⟩ := ih (outer.add innermost.toNode)
      rw [outermostName_add] at collapsed
      rw [labelsUpTo_toNode] at same
      exact ⟨nodes, collapsed, same⟩

/-- What a token that is known does to labels and names. -/
def Follows (sections : OpenSections) (token : Token) : Move → Prop
  | .goOn next =>
    ¬ EndsTemplate (namesUpTo sections.innermost sections.around) token ∧
      labelsUpTo next.innermost next.around =
        labelsUpTo sections.innermost sections.around ++ token.label?.toList ∧
      namesUpTo next.innermost next.around =
        namesBehind (namesUpTo sections.innermost sections.around) token ∧
      outermostName next.innermost next.around = ""
  | .stop template =>
    EndsTemplate (namesUpTo sections.innermost sections.around) token ∧
      ∃ nodes, template = .block "" nodes ∧
        Node.labelsOf nodes = labelsUpTo sections.innermost sections.around
  | .refuse _ => False

theorem leave_follows (sections : OpenSections) (token : Token)
    (unnamed : outermostName sections.innermost sections.around = "")
    (kind : token.kind = .sectionClose) (same : token.value = sections.innermost.name) :
    Follows sections token sections.leave := by
  obtain ⟨innermost, around⟩ := sections
  cases around with
  | nil =>
      have nameless : innermost.name = "" := unnamed
      refine ⟨⟨rfl, kind, same.trans nameless⟩, innermost.nodes, ?_, rfl⟩
      rw [OpenSection.toNode, nameless]
  | cons outer around =>
      refine ⟨fun ends => List.cons_ne_nil _ _ ends.1, ?_, ?_, ?_⟩
      · simp only [Token.label?, kind, Option.toList_none, List.append_nil]
        exact labelsUpTo_toNode innermost outer around
      · simp only [namesUpTo_add, namesUpTo, namesBehind, kind, same, List.head?_cons, ↓reduceIte,
          List.tail_cons]
      · rw [outermostName_add]
        exact unnamed

/-- A closing tag of another name is dropped. It cannot end the template, which has no name. -/
theorem discard_follows (sections : OpenSections) (token : Token)
    (unnamed : outermostName sections.innermost sections.around = "")
    (kind : token.kind = .sectionClose) (other : token.value ≠ sections.innermost.name) :
    Follows sections token (.goOn sections) := by
  obtain ⟨innermost, around⟩ := sections
  refine ⟨?_, ?_, ?_, unnamed⟩
  · rintro ⟨outside, -, nameless⟩
    cases around with
    | nil => exact other (nameless.trans unnamed.symm)
    | cons outer around => cases outside
  · simp only [Token.label?, kind, Option.toList_none, List.append_nil]
  · have kept : (namesUpTo innermost around).head? ≠ some token.value := by
      cases around with
      | nil => exact fun impossible => by cases impossible
      | cons outer around => exact fun equal => other (Option.some.inj equal).symm
    simp only [namesBehind, kind, kept, ↓reduceIte]

theorem step_follows (sections : OpenSections) (token : Token)
    (unnamed : outermostName sections.innermost sections.around = "")
    (known : ∀ name, token.kind ≠ .foreign name) :
    Follows sections token (sections.step {} token) := by
  have goesOn (other : token.kind ≠ .sectionClose) :
      ¬ EndsTemplate (namesUpTo sections.innermost sections.around) token :=
    fun ends => other ends.2.1
  cases kind : token.kind with
  | content | escapedVariable | unescapedVariable =>
      simp only [step, kind]
      refine ⟨goesOn (by rw [kind]; decide), ?_, ?_, ?_⟩
      · simp only [add, labelsUpTo_add, Token.label?, kind, Option.toList_some, Node.labels]
      · simp only [add, namesUpTo_add, namesBehind, kind]
      · simp only [add, outermostName_add, unnamed]
  | comment | invertedSection =>
      simp only [step, kind]
      refine ⟨goesOn (by rw [kind]; decide), ?_, ?_, unnamed⟩
      · simp only [Token.label?, kind, Option.toList_none, List.append_nil]
      · simp only [namesBehind, kind]
  | sectionOpen =>
      simp only [step, kind]
      refine ⟨goesOn (by rw [kind]; decide), ?_, ?_, unnamed⟩
      · simp only [enter, labelsUpTo, Token.label?, kind, Option.toList_some, Node.labelsOf]
      · simp only [enter, namesUpTo, namesBehind, kind]
  | sectionClose =>
      simp only [step, kind]
      by_cases same : token.value = sections.innermost.name
      · rw [if_pos same]
        exact leave_follows sections token unnamed kind same
      · rw [if_neg same, if_neg Bool.false_ne_true]
        exact discard_follows sections token unnamed kind same
  | foreign name => exact absurd kind (known name)

/-- A whole pass keeps the labels of all tokens but the unread ones. -/
theorem run_labels (sections : OpenSections) (tokens : List Token)
    (unnamed : outermostName sections.innermost sections.around = "")
    (known : ∀ token ∈ tokens, ∀ name, token.kind ≠ .foreign name) :
    ∃ nodes, sections.run {} tokens = .ok (.block "" nodes) ∧
      Node.labelsOf nodes ++
          (unread (namesUpTo sections.innermost sections.around) tokens).filterMap Token.label? =
        labelsUpTo sections.innermost sections.around ++ tokens.filterMap Token.label? := by
  induction tokens generalizing sections with
  | nil =>
      obtain ⟨nodes, collapsed, same⟩ := collapse_labels sections.innermost sections.around
      rw [unnamed] at collapsed
      refine ⟨nodes, congrArg Except.ok collapsed, ?_⟩
      rw [unread, same]
  | cons token rest ih =>
      have follows := step_follows sections token unnamed (known token List.mem_cons_self)
      have restKnown : ∀ other ∈ rest, ∀ name, other.kind ≠ .foreign name :=
        fun other member => known other (List.mem_cons_of_mem _ member)
      rw [run, unread]
      cases moved : sections.step {} token with
      | goOn next =>
          rw [moved] at follows
          obtain ⟨goesOn, labels, names, nextUnnamed⟩ := follows
          obtain ⟨nodes, finished, kept⟩ := ih next nextUnnamed restKnown
          refine ⟨nodes, finished, ?_⟩
          rw [if_neg goesOn, ← names, kept, labels, List.append_assoc]
          cases labelled : token.label? with
          | none => rw [List.filterMap_cons_none labelled]; rfl
          | some label => rw [List.filterMap_cons_some labelled]; rfl
      | stop template =>
          rw [moved] at follows
          obtain ⟨ends, nodes, same, labels⟩ := follows
          refine ⟨nodes, congrArg Except.ok same, ?_⟩
          have silent : token.label? = none := by simp only [Token.label?, ends.2.1]
          rw [if_pos ends, labels, List.filterMap_cons_none silent]
      | refuse failure =>
          rw [moved] at follows
          exact follows.elim

end OpenSections

/-- In lenient parsing of tokens that a template can hold, the tree and the unread tokens together
name all that the tokens name, in order and each once. So the tree loses something exactly where
something with a label stands behind a closing tag that ends the template. -/
theorem labels_parseTokens (tokens : List Token)
    (known : ∀ token ∈ tokens, ∀ name, token.kind ≠ .foreign name) :
    ∃ nodes, (parseTokens {} tokens).result = .ok nodes ∧
      Node.labelsOf nodes ++ (unread [] tokens).filterMap Token.label? =
        tokens.filterMap Token.label? ∧
      (Node.labelsOf nodes = tokens.filterMap Token.label? ↔
        (unread [] tokens).filterMap Token.label? = []) := by
  obtain ⟨nodes, finished, kept⟩ := OpenSections.run_labels .start tokens rfl known
  refine ⟨nodes, (OpenSections.parseTokens_eq_ok_iff {} tokens nodes).mpr finished, kept, ?_⟩
  change Node.labelsOf nodes ++ (unread [] tokens).filterMap Token.label? =
    tokens.filterMap Token.label? at kept
  rw [← kept]
  exact ⟨fun same => List.append_cancel_left (same.symm.trans (List.append_nil _).symm),
    fun nothing => by rw [nothing, List.append_nil]⟩

/-- A closing tag without a name inside of a section is dropped, and nothing is lost. -/
theorem labels_parseTokens_inside :
    (∀ token ∈ [⟨.sectionOpen, "a", .start, ""⟩, ⟨.sectionClose, "", .start, ""⟩,
        (⟨.content, "x", .start, ""⟩ : Token)], ∀ name, token.kind ≠ .foreign name) ∧
      ∃ nodes, (parseTokens {} [⟨.sectionOpen, "a", .start, ""⟩, ⟨.sectionClose, "", .start, ""⟩,
          ⟨.content, "x", .start, ""⟩]).result = .ok nodes ∧
        Node.labelsOf nodes = [.block "a", .content "x"] := by
  have known : ∀ token ∈ [⟨.sectionOpen, "a", .start, ""⟩, ⟨.sectionClose, "", .start, ""⟩,
      (⟨.content, "x", .start, ""⟩ : Token)], ∀ name, token.kind ≠ .foreign name := by simp
  obtain ⟨nodes, parsed, -, exact⟩ := labels_parseTokens _ known
  exact ⟨known, nodes, parsed, exact.mpr (by decide)⟩

/-- Outside of all sections it ends the template: the content behind it has no node. -/
theorem label_lost_behind_nameless_close :
    (parseTokens {} [⟨.content, "a", .start, ""⟩, ⟨.sectionClose, "", .start, ""⟩,
        ⟨.content, "b", .start, ""⟩]).result = .ok [.content "a"] ∧
      Node.labelsOf [.content "a"] ≠
        [⟨.content, "a", .start, ""⟩, ⟨.sectionClose, "", .start, ""⟩,
          (⟨.content, "b", .start, ""⟩ : Token)].filterMap Token.label? :=
  ⟨by cbv, by decide⟩

end Logicless.Template
