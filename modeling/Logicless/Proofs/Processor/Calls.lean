import Logicless.Processor
import Mathlib.Data.List.Basic

/-!
A processor under a row of calls. A call gets at most one template to compile, and all that it can do
to the processor is to add the tree of that template, or to give up all trees.
-/

set_option autoImplicit false

namespace Logicless

open Files

inductive Call where
  | compile (template : String)
  | renderText (template : String) (data : Datum)
  | renderFile (template data : PathName)
  | clear

inductive Answer (tree : Type) where
  | compiled (value : tree)
  | rendered (text : String)
  | cleared

/-- An answer without the number of a tree. -/
def Answer.unnumbered : Answer Compiled → Answer (List Template.Node)
  | .compiled value => .compiled value.nodes
  | .rendered text => .rendered text
  | .cleared => .cleared

namespace Processor

/-- The answer to a call, and the processor behind the call. -/
def perform (files : FileTree) (processor : Processor) :
    Call → Except ProcessError (Answer Compiled) × Processor
  | .compile template =>
    let (compiled, processor) := processor.compile template
    (compiled.result.map .compiled, processor)
  | .renderText template data =>
    let (text, processor) := processor.renderText template data
    (text.result.map .rendered, processor)
  | .renderFile template data =>
    let (text, processor) := processor.renderFile files template data
    (text.result.map .rendered, processor)
  | .clear => (.ok .cleared, processor.clear)

def behind (files : FileTree) (processor : Processor) (calls : List Call) : Processor :=
  calls.foldl (fun processor call => (processor.perform files call).2) processor

def templates (processor : Processor) : List String := processor.cache.map (·.1)

/-- The template that a call compiles. A template file is compiled only once both files have been
read. -/
def template? (files : FileTree) (processor : Processor) : Call → Option String
  | .compile template | .renderText template _ => some template
  | .renderFile template data =>
    match (processor.readFiles files template data).result with
    | .error _ => none
    | .ok (text, _) => some text
  | .clear => none

/-- A call compiles this template with success, however the call ends. -/
def Compiles (files : FileTree) (processor : Processor) (call : Call) (template : String) : Prop :=
  processor.template? files call = some template ∧
    ∃ compiled, (processor.compile template).1.result = .ok compiled

def keep (processor : Processor) (template : String) (nodes : List Template.Node) : Processor :=
  { processor with
    cache := (template, ⟨processor.nextNumber, nodes⟩) :: processor.cache
    nextNumber := processor.nextNumber + 1 }

/-- The ways in which compiling a template goes: its tree is kept, or parsing refuses it, or its tree
is added. -/
inductive Compiling (processor : Processor) (template : String) :
    Attempt Compiled × Processor → Prop where
  | hit {compiled : Compiled} (kept : processor.cache.lookup template = some compiled) :
    Compiling processor template (⟨[.cacheHit template.length], .ok compiled⟩, processor)
  | refused {notices : List Notice} {error : ProcessError}
    (absent : processor.cache.lookup template = none)
    (parsed : Attempt.parseTemplate processor.closing template = ⟨notices, .error error⟩) :
    Compiling processor template (⟨notices, .error error⟩, processor)
  | added {notices : List Notice} {nodes : List Template.Node}
    (absent : processor.cache.lookup template = none)
    (parsed : Attempt.parseTemplate processor.closing template = ⟨notices, .ok nodes⟩) :
    Compiling processor template
      (⟨notices, .ok ⟨processor.nextNumber, nodes⟩⟩, processor.keep template nodes)

theorem compiling_compile (processor : Processor) (template : String) :
    Compiling processor template (processor.compile template) := by
  rw [compile]
  cases looked : processor.cache.lookup template with
  | some compiled => exact .hit looked
  | none =>
      rcases parsed : Attempt.parseTemplate processor.closing template with ⟨notices, result⟩
      cases result with
      | error error => exact .refused looked parsed
      | ok nodes => exact .added looked parsed

inductive Effect (files : FileTree) (processor : Processor) (call : Call) : Processor → Prop where
  | cleared (asked : call = .clear) : Effect files processor call processor.clear
  | unchanged (other : call ≠ .clear)
    (kept : ∀ template, Compiles files processor call template → template ∈ processor.templates) :
    Effect files processor call processor
  | added {template : String} {nodes : List Template.Node}
    (compiles : Compiles files processor call template)
    (absent : processor.cache.lookup template = none)
    (parsed : (Attempt.parseTemplate processor.closing template).result = .ok nodes) :
    Effect files processor call (processor.keep template nodes)

section Lookup

variable {processor : Processor} {template : String} {compiled : Compiled}

theorem mem_cache_of_lookup (kept : processor.cache.lookup template = some compiled) :
    (template, compiled) ∈ processor.cache := by
  obtain ⟨newer, older, split, -⟩ := List.lookup_eq_some_iff.mp kept
  rw [split]
  exact List.mem_append_right newer List.mem_cons_self

theorem mem_templates_of_lookup (kept : processor.cache.lookup template = some compiled) :
    template ∈ processor.templates := List.mem_map_of_mem (mem_cache_of_lookup kept)

theorem not_mem_templates_of_lookup (absent : processor.cache.lookup template = none) :
    template ∉ processor.templates := by
  intro among
  obtain ⟨entry, member, same⟩ := List.mem_map.mp among
  have apart := List.lookup_eq_none_iff.mp absent entry member
  rw [same, bne_self_eq_false] at apart
  cases apart

end Lookup

/-- A call that compiles a template does no more to the processor than that. -/
theorem perform_compile {files : FileTree} {processor : Processor} {call : Call} {template : String}
    (asked : processor.template? files call = some template) :
    (processor.perform files call).2 = (processor.compile template).2 := by
  cases call with
  | compile other | renderText other data =>
      cases asked
      rfl
  | renderFile path data =>
      rw [perform, renderFile]
      rw [template?] at asked
      cases read : (processor.readFiles files path data).result with
      | error error =>
          rw [read] at asked
          cases asked
      | ok both =>
          rw [read] at asked
          cases asked
          rfl
  | clear => cases asked

/-- A call that neither compiles a template nor clears leaves the processor as it was. -/
theorem perform_idle {files : FileTree} {processor : Processor} {call : Call} (other : call ≠ .clear)
    (idle : processor.template? files call = none) : (processor.perform files call).2 = processor := by
  cases call with
  | compile template | renderText template data => cases idle
  | renderFile path data =>
      rw [perform, renderFile]
      rw [template?] at idle
      cases read : (processor.readFiles files path data).result with
      | error error => rfl
      | ok both =>
          rw [read] at idle
          cases idle
  | clear => exact absurd rfl other

theorem effect_perform (files : FileTree) (processor : Processor) (call : Call) :
    Effect files processor call (processor.perform files call).2 := by
  by_cases clear : call = .clear
  · subst clear
    exact .cleared rfl
  cases asked : processor.template? files call with
  | none =>
      rw [perform_idle clear asked]
      refine .unchanged clear ?_
      intro template compiles
      cases asked.symm.trans compiles.1
  | some template =>
      rw [perform_compile asked]
      have only {other : String} (compiles : Compiles files processor call other) :
          other = template := Option.some.inj (compiles.1.symm.trans asked)
      have how := compiling_compile processor template
      generalize made : processor.compile template = outcome at how
      cases how with
      | hit kept =>
          refine .unchanged clear ?_
          intro other compiles
          rw [only compiles]
          exact mem_templates_of_lookup kept
      | refused absent parsed =>
          refine .unchanged clear ?_
          intro other compiles
          obtain ⟨compiled, success⟩ := compiles.2
          rw [only compiles, made] at success
          cases success
      | @added notices nodes absent parsed =>
          have success : (processor.compile template).1.result = .ok ⟨processor.nextNumber, nodes⟩ :=
            congrArg (·.1.result) made
          exact .added ⟨asked, _, success⟩ absent (congrArg Reported.result parsed)

/-- Behind a call, the trees kept are those from before, unless the call clears, and that of the
template which the call compiles with success. -/
theorem mem_templates_perform (files : FileTree) (processor : Processor) (call : Call)
    (template : String) :
    template ∈ (processor.perform files call).2.templates ↔
      (call ≠ .clear ∧ template ∈ processor.templates) ∨ Compiles files processor call template := by
  have effect := effect_perform files processor call
  generalize (processor.perform files call).2 = after at effect
  cases effect with
  | cleared asked =>
      subst asked
      constructor
      · nofun
      · rintro (⟨other, -⟩ | ⟨idle, -⟩)
        · exact absurd rfl other
        · cases idle
  | unchanged other kept =>
      constructor
      · exact fun among => .inl ⟨other, among⟩
      · rintro (⟨-, among⟩ | compiles)
        · exact among
        · exact kept template compiles
  | @added fresh nodes compiles absent parsed =>
      have other : call ≠ .clear := by
        rintro rfl
        cases compiles.1
      change template ∈ fresh :: processor.templates ↔ _
      rw [List.mem_cons]
      constructor
      · rintro (rfl | among)
        · exact .inr compiles
        · exact .inl ⟨other, among⟩
      · rintro (⟨-, among⟩ | same)
        · exact .inr among
        · exact .inl (Option.some.inj (same.1.symm.trans compiles.1))

/-- The trees kept behind some calls are those from before, if no call clears, and those of the
templates that were compiled with success since the last call that clears. -/
theorem mem_templates_behind (files : FileTree) (processor : Processor) (calls : List Call)
    (template : String) :
    template ∈ (processor.behind files calls).templates ↔
      (.clear ∉ calls ∧ template ∈ processor.templates) ∨
      ∃ before call rest, calls = before ++ call :: rest ∧ .clear ∉ rest ∧
        Compiles files (processor.behind files before) call template := by
  induction calls generalizing processor with
  | nil =>
      constructor
      · exact fun among => .inl ⟨List.not_mem_nil, among⟩
      · rintro (⟨-, among⟩ | ⟨before, call, rest, empty, -⟩)
        · exact among
        · cases List.append_eq_nil_iff.mp empty.symm |>.2
  | cons first calls ih =>
      change template ∈ (behind files (processor.perform files first).2 calls).templates ↔ _
      rw [ih, mem_templates_perform, List.mem_cons, not_or]
      constructor
      · rintro (⟨clear, ⟨other, among⟩ | compiles⟩ | ⟨before, call, rest, rfl, clear, compiles⟩)
        · exact .inl ⟨⟨Ne.symm other, clear⟩, among⟩
        · exact .inr ⟨[], first, calls, rfl, clear, compiles⟩
        · exact .inr ⟨first :: before, call, rest, rfl, clear, compiles⟩
      · rintro (⟨⟨other, clear⟩, among⟩ | ⟨before, call, rest, split, clear, compiles⟩)
        · exact .inl ⟨clear, .inl ⟨Ne.symm other, among⟩⟩
        · rcases List.cons_eq_append_iff.mp split with ⟨rfl, same⟩ | ⟨between, rfl, rfl⟩
          · cases same
            exact .inl ⟨clear, .inr compiles⟩
          · exact .inr ⟨between, call, rest, rfl, clear, compiles⟩

end Processor

end Logicless
