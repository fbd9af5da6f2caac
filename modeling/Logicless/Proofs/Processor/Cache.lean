import Logicless.Proofs.Processor.Calls

/-!
The trees that a processor keeps save work and change nothing else: behind any calls, the answer to
the next one is that of a new processor with the same settings. Which trees are kept is a matter of
the calls that compile and of those that clear.
-/

set_option autoImplicit false

namespace Logicless.Processor

open Files

/-- A processor with these settings that keeps one tree of each of its templates, with a number that
no later tree has. -/
structure Sound (settings : Settings) (processor : Processor) : Prop where
  settled : processor.settings = settings
  parsed : ∀ entry ∈ processor.cache,
    (Attempt.parseTemplate (ofSettings settings).closing entry.1).result = .ok entry.2.nodes
  distinct : processor.templates.Nodup
  numbered : ∀ entry ∈ processor.cache, entry.2.number < processor.nextNumber

theorem ofSettings_sound (settings : Settings) : Sound settings (ofSettings settings) :=
  ⟨rfl, nofun, List.nodup_nil, nofun⟩

section Lookup

variable {processor : Processor} {template : String} {compiled : Compiled}

/-- A tree that is kept is found again. -/
theorem compile_of_lookup (kept : processor.cache.lookup template = some compiled) :
    (processor.compile template).1.result = .ok compiled := by
  rw [compile, kept]

/-- The tree of a template that was compiled with success is kept. -/
theorem lookup_compile (success : (processor.compile template).1.result = .ok compiled) :
    (processor.compile template).2.cache.lookup template = some compiled := by
  have how := compiling_compile processor template
  generalize processor.compile template = outcome at how success ⊢
  cases how with
  | hit kept =>
      cases success
      exact kept
  | refused absent parsed => cases success
  | added absent parsed =>
      cases success
      exact List.lookup_cons_self

end Lookup

theorem compile_settings (processor : Processor) (template : String) :
    (processor.compile template).2.settings = processor.settings := by
  have how := compiling_compile processor template
  generalize processor.compile template = outcome at how ⊢
  cases how <;> rfl

theorem perform_sound {settings : Settings} {processor : Processor} (sound : Sound settings processor)
    (files : FileTree) (call : Call) : Sound settings (processor.perform files call).2 := by
  have effect := effect_perform files processor call
  generalize (processor.perform files call).2 = after at effect ⊢
  cases effect with
  | cleared => exact ⟨sound.settled, nofun, List.nodup_nil, nofun⟩
  | unchanged => exact sound
  | @added template nodes compiles absent parsed =>
      rw [closing, sound.settled] at parsed
      refine ⟨sound.settled, ?_, ?_, ?_⟩
      · intro entry among
        rcases List.mem_cons.mp among with rfl | older
        · exact parsed
        · exact sound.parsed entry older
      · exact List.nodup_cons.mpr ⟨not_mem_templates_of_lookup absent, sound.distinct⟩
      · intro entry among
        rcases List.mem_cons.mp among with rfl | older
        · exact Nat.lt_succ_self _
        · exact Nat.lt_succ_of_lt (sound.numbered entry older)

theorem behind_sound {settings : Settings} {processor : Processor} (sound : Sound settings processor)
    (files : FileTree) (calls : List Call) : Sound settings (processor.behind files calls) := by
  apply List.foldlRecOn calls _ sound
  intro stage before call _
  exact perform_sound before files call

/-! ## The answers -/

section Answers

variable {settings : Settings} {processor : Processor}

/-- Whether its tree is kept or not, compiling a template gives what parsing gives. -/
theorem compile_nodes (sound : Sound settings processor) (template : String) :
    (processor.compile template).1.result.map Compiled.nodes =
      (Attempt.parseTemplate (ofSettings settings).closing template).result := by
  have same : (ofSettings settings).closing = processor.closing := by
    rw [closing, closing, sound.settled]
    rfl
  have how := compiling_compile processor template
  generalize processor.compile template = outcome at how ⊢
  cases how with
  | hit kept => exact (sound.parsed _ (mem_cache_of_lookup kept)).symm
  | refused absent parsed | added absent parsed =>
      rw [same, parsed]
      rfl

theorem compile_bind (sound : Sound settings processor) {β : Type} (template : String)
    (next : List Template.Node → Except ProcessError β) :
    ((processor.compile template).1.result.bind fun compiled => next compiled.nodes) =
      (Attempt.parseTemplate (ofSettings settings).closing template).result.bind next := by
  rw [← compile_nodes sound template]
  cases (processor.compile template).1.result <;> rfl

theorem documentOf_congr {other : Processor} (same : processor.settings = other.settings)
    (data : Datum) : processor.documentOf data = other.documentOf data := by
  unfold documentOf
  rw [same]

/-- Rendering a text in stages: the nodes of the template, the document of the data, the text. -/
theorem renderText_result (sound : Sound settings processor) (template : String) (data : Datum) :
    (processor.renderText template data).1.result =
      (Attempt.parseTemplate (ofSettings settings).closing template).result.bind fun nodes =>
        ((ofSettings settings).documentOf data).result.bind fun document =>
          (Attempt.renderNodes nodes document).result := by
  have same : (processor.compile template).2.settings = (ofSettings settings).settings :=
    (compile_settings processor template).trans sound.settled
  simp only [renderText, Reported.result_bind, documentOf_congr same]
  exact compile_bind sound template fun nodes =>
    ((ofSettings settings).documentOf data).result.bind fun document =>
      (Attempt.renderNodes nodes document).result

theorem readFiles_congr {other : Processor} (same : processor.settings = other.settings)
    (files : FileTree) (template data : PathName) :
    processor.readFiles files template data = other.readFiles files template data := by
  rw [readFiles, readFiles, same]

/-- Rendering a file in stages: both files are read before the template is parsed. -/
theorem renderFile_result (sound : Sound settings processor) (files : FileTree)
    (template data : PathName) :
    (processor.renderFile files template data).1.result =
      ((ofSettings settings).readFiles files template data).result.bind fun both =>
        (Attempt.parseTemplate (ofSettings settings).closing both.1).result.bind fun nodes =>
          (Attempt.renderNodes nodes both.2).result := by
  have same : processor.settings = (ofSettings settings).settings := sound.settled
  rw [renderFile, readFiles_congr same]
  cases ((ofSettings settings).readFiles files template data).result with
  | error error => rfl
  | ok both =>
      simp only [Reported.result_bind]
      exact compile_bind sound both.1 fun nodes => (Attempt.renderNodes nodes both.2).result

/-- The trees that are kept have no part in the answer to a call. -/
theorem perform_unnumbered (sound : Sound settings processor) (files : FileTree) (call : Call) :
    (processor.perform files call).1.map Answer.unnumbered =
      ((ofSettings settings).perform files call).1.map Answer.unnumbered := by
  have new := ofSettings_sound settings
  cases call with
  | compile template =>
      have stripped (other : Processor) :
          (other.perform files (.compile template)).1.map Answer.unnumbered =
            (other.compile template).1.result.bind fun compiled => .ok (.compiled compiled.nodes) := by
        change ((other.compile template).1.result.map Answer.compiled).map Answer.unnumbered = _
        cases (other.compile template).1.result <;> rfl
      have answer {other : Processor} (otherSound : Sound settings other) :=
        compile_bind otherSound template fun nodes => .ok (Answer.compiled nodes)
      rw [stripped, stripped]
      exact (answer sound).trans (answer new).symm
  | renderText template data =>
      simp only [perform, renderText_result sound, renderText_result new]
  | renderFile template data =>
      simp only [perform, renderFile_result sound, renderFile_result new]
  | clear => rfl

end Answers

/-! ## The trees -/

section Trees

variable {files : FileTree} {processor : Processor} {template : String} {compiled : Compiled}

/-- Only a call that clears gives up a tree. -/
theorem lookup_perform (kept : processor.cache.lookup template = some compiled) {call : Call}
    (other : call ≠ .clear) :
    (processor.perform files call).2.cache.lookup template = some compiled := by
  have effect := effect_perform files processor call
  generalize (processor.perform files call).2 = after at effect ⊢
  cases effect with
  | cleared asked => exact absurd asked other
  | unchanged => exact kept
  | @added fresh nodes compiles absent parsed =>
      have apart : (template == fresh) = false := by
        rw [beq_eq_false_iff_ne]
        rintro rfl
        rw [absent] at kept
        cases kept
      change List.lookup template ((fresh, _) :: processor.cache) = _
      rw [List.lookup_cons, apart]
      exact kept

theorem lookup_behind (kept : processor.cache.lookup template = some compiled) {calls : List Call}
    (uncleared : .clear ∉ calls) :
    (processor.behind files calls).cache.lookup template = some compiled := by
  apply List.foldlRecOn (motive := fun after : Processor => after.cache.lookup template = some compiled) calls _ kept
  intro stage before call among
  apply lookup_perform before
  rintro rfl
  exact uncleared among

/-- All trees that a processor keeps, and the next one, have this number or a later one. -/
structure Since (number : Nat) (processor : Processor) : Prop where
  kept : ∀ entry ∈ processor.cache, number ≤ entry.2.number
  next : number ≤ processor.nextNumber

theorem perform_since {number : Nat} (since : Since number processor) (call : Call) :
    Since number (processor.perform files call).2 := by
  have effect := effect_perform files processor call
  generalize (processor.perform files call).2 = after at effect ⊢
  cases effect with
  | cleared => exact ⟨nofun, since.next⟩
  | unchanged => exact since
  | added compiles absent parsed =>
      refine ⟨?_, Nat.le_succ_of_le since.next⟩
      intro entry among
      rcases List.mem_cons.mp among with rfl | older
      · exact since.next
      · exact since.kept entry older

theorem behind_since {number : Nat} (since : Since number processor) (calls : List Call) :
    Since number (processor.behind files calls) := by
  apply List.foldlRecOn calls _ since
  intro stage before call _
  exact perform_since before call

theorem Since.le_of_compile {number : Nat} (since : Since number processor)
    (success : (processor.compile template).1.result = .ok compiled) : number ≤ compiled.number := by
  have how := compiling_compile processor template
  generalize processor.compile template = outcome at how success
  cases how with
  | hit kept =>
      cases success
      exact since.kept _ (mem_cache_of_lookup kept)
  | refused absent parsed => cases success
  | added absent parsed =>
      cases success
      exact since.next

theorem nextNumber_perform (files : FileTree) (processor : Processor) (call : Call) :
    processor.nextNumber ≤ (processor.perform files call).2.nextNumber := by
  have effect := effect_perform files processor call
  generalize (processor.perform files call).2 = after at effect ⊢
  cases effect with
  | cleared | unchanged => exact Nat.le_refl _
  | added => exact Nat.le_succ _

theorem nextNumber_behind (files : FileTree) (processor : Processor) (calls : List Call) :
    processor.nextNumber ≤ (processor.behind files calls).nextNumber := by
  induction calls generalizing processor with
  | nil => exact Nat.le_refl _
  | cons call rest ih =>
      calc processor.nextNumber
        _ ≤ (processor.perform files call).2.nextNumber := nextNumber_perform files processor call
        _ ≤ (processor.behind files (call :: rest)).nextNumber := ih _

/-- Behind a call that clears, all trees are new. -/
theorem behind_since_of_clear {calls : List Call} (clear : .clear ∈ calls) :
    Since processor.nextNumber (processor.behind files calls) := by
  obtain ⟨before, rest, rfl⟩ := List.append_of_mem clear
  rw [behind, List.foldl_append]
  change Since processor.nextNumber (behind files (processor.behind files before).clear rest)
  apply behind_since
  exact ⟨nofun, nextNumber_behind files processor before⟩

/-- A template that is compiled twice gives the same tree, unless there is a call that clears in
between. -/
theorem number_eq_iff {settings : Settings} (sound : Sound settings processor) {call : Call}
    (asked : processor.template? files call = some template) {between : List Call}
    {first second : Compiled} (one : (processor.compile template).1.result = .ok first)
    (other : (((processor.perform files call).2.behind files between).compile template).1.result =
      .ok second) : first.number = second.number ↔ .clear ∉ between := by
  have kept : (processor.perform files call).2.cache.lookup template = some first := by
    rw [perform_compile asked]
    exact lookup_compile one
  constructor
  · intro same clear
    have below := (perform_sound sound files call).numbered _ (mem_cache_of_lookup kept)
    have above := (behind_since_of_clear clear).le_of_compile other
    change first.number < _ at below
    omega
  · intro uncleared
    have stays : ((processor.perform files call).2.behind files between).cache.lookup template =
        some first := lookup_behind kept uncleared
    have same := (compile_of_lookup stays).symm.trans other
    exact congrArg Compiled.number (Except.ok.inj same)

end Trees

/-- The trees that a processor keeps, behind any calls from the start on: the next call has the
answer that a new processor gives to it alone; a tree that is kept is the parse of its template, and
each template has one; the templates are those that were compiled with success since the last call
that clears, whether the calls that compiled them succeeded or not; and a template that is compiled
twice with success gives the same tree exactly when no call in between clears. -/
theorem cache_transparent (files : FileTree) (settings : Settings) (calls : List Call) :
    let processor := (ofSettings settings).behind files calls
    (∀ call, (processor.perform files call).1.map Answer.unnumbered =
      ((ofSettings settings).perform files call).1.map Answer.unnumbered) ∧
    (∀ template compiled, processor.cache.lookup template = some compiled →
      (Attempt.parseTemplate (ofSettings settings).closing template).result = .ok compiled.nodes) ∧
    processor.templates.Nodup ∧
    (∀ template, template ∈ processor.templates ↔
      ∃ before call rest, calls = before ++ call :: rest ∧ .clear ∉ rest ∧
        Compiles files ((ofSettings settings).behind files before) call template) ∧
    ∀ template call between first second, processor.template? files call = some template →
      (processor.compile template).1.result = .ok first →
      (((processor.perform files call).2.behind files between).compile template).1.result =
        .ok second →
      first.nodes = second.nodes ∧ (first.number = second.number ↔ .clear ∉ between) := by
  intro processor
  have sound : Sound settings processor := behind_sound (ofSettings_sound settings) files calls
  refine ⟨perform_unnumbered sound files, ?_, sound.distinct, ?_, ?_⟩
  · intro template compiled kept
    exact sound.parsed (template, compiled) (mem_cache_of_lookup kept)
  · intro template
    rw [mem_templates_behind]
    constructor
    · rintro (⟨-, none⟩ | compiled)
      · cases none
      · exact compiled
    · exact .inr
  · intro template call between first second asked one other
    refine ⟨?_, number_eq_iff sound asked one other⟩
    have later := behind_sound (perform_sound sound files call) files between
    have same := (compile_nodes sound template).trans (compile_nodes later template).symm
    rw [one, other] at same
    exact Except.ok.inj same

end Logicless.Processor
