import Logicless.Proofs.Template.Linear
import Logicless.Template.Outline

/-!
Outlines of trees. A tree has one unless there is an unknown node in it, and no template has an
unknown node.
-/

set_option autoImplicit false

namespace Logicless.Template

mutual

/-- Nodes that are known have an outline. -/
theorem exists_outline : (node : Node) → .unknown ∉ node.labels →
    ∃ outline, node.outline = .ok outline
  | .content _, _ => ⟨_, rfl⟩
  | .escaped _, _ => ⟨_, rfl⟩
  | .unescaped _, _ => ⟨_, rfl⟩
  | .block name children, known => by
      have inside : .unknown ∉ Node.labelsOf children :=
        fun among => known (List.mem_cons_of_mem _ among)
      obtain ⟨outlines, made⟩ := exists_outlines children inside
      rw [Node.outline, made]
      exact ⟨_, rfl⟩
  | .unknown, known => absurd List.mem_cons_self known

theorem exists_outlines : (nodes : List Node) → .unknown ∉ Node.labelsOf nodes →
    ∃ outlines, Node.outlines nodes = .ok outlines
  | [], _ => ⟨_, rfl⟩
  | node :: rest, known => by
      rw [Node.labelsOf, List.mem_append, not_or] at known
      obtain ⟨first, made⟩ := exists_outline node known.1
      obtain ⟨others, behind⟩ := exists_outlines rest known.2
      rw [Node.outlines, made, behind]
      exact ⟨_, rfl⟩

end

variable {closing : Closing} {template : String} {nodes : List Node}

/-- The nodes of a template are known. -/
theorem known_of_parse (parsed : (parse closing template).result = .ok nodes) :
    .unknown ∉ Node.labelsOf nodes := by
  rw [parse, Reported.result_bind] at parsed
  obtain ⟨tokens, -, finished⟩ := exists_of_bind_eq_ok parsed
  exact known_of_parseTokens (mapError_eq_ok_iff.mp finished)

/-- The tree of a template has an outline. -/
theorem exists_outline_of_parse (name : String)
    (parsed : (parse closing template).result = .ok nodes) :
    ∃ outline, (Node.block name nodes).outline = .ok outline := by
  apply exists_outline
  intro among
  rcases List.mem_cons.mp among with same | inside
  · cases same
  · exact known_of_parse parsed inside

end Logicless.Template
