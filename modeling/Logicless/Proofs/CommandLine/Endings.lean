import Logicless.Proofs.CommandLine.Messages
import Logicless.Proofs.CommandLine.Runs
import Logicless.Proofs.Processor.Endings
import Logicless.Proofs.Template.Listing

/-!
How a run of the program ends: with its whole result, with a message about what the user can mend, or
at an error of another kind. Only the first shows anything on the output.
-/

set_option autoImplicit false

namespace Logicless.CommandLine

open Files Template

section

variable {surroundings : Surroundings} {command : Command} {stage : Stage} {failure : Failure}

/-- Rendering the nodes of a template fails in sections, and in variables that cannot be written. -/
theorem isMendable_of_render {closing : Closing} {template : String} {nodes : List Node}
    {document : Document} {error : RenderError}
    (parsed : (parse closing template).result = .ok nodes)
    (failed : (render nodes document).result = .error error) : error.isMendable = true := by
  rw [render_result, Shown.wholeText] at failed
  split at failed
  · cases failed
  · rename_i other unshown
    cases failed
    rcases Attempt.failure_of_known (known_of_parse parsed) unshown with
      ⟨name, kind, rfl, -⟩ | ⟨rfl, -⟩ <;> rfl

/-- What stops a run behind its document is for the user to mend. -/
theorem Runs.isMendable (runs : Runs surroundings command (.error (stage, failure)))
    (late : stage = .parsing ∨ stage = .rendering) : failure.isMendable = true := by
  cases runs with
  | unparsed supplied failed => rfl
  | treeless opened asked failed => rfl
  | unrendered supplied parsed failed => exact isMendable_of_render parsed failed
  | _ => rcases late with other | other <;> cases other

end

/-- A listing tells what it lists: each token of a template, or its tree. -/
inductive Tells (closing : Closing) (template : String) : Action → String → Prop where
  | tokens {name text : String} {tokens : List Token} {loaded : Document}
    (cut : tokenize template = .ok tokens) (read : Document.loadJsonWithin none text = .ok loaded)
    (seen : loaded.appearance = .array (tokens.map Token.listed)) :
    Tells closing template (.tokens name) text
  | tree {name text : String} {strict : Bool} {nodes : List Node} {outline : Document}
    (parsed : (parse closing template).result = .ok nodes)
    (read : Document.load text "json" = .ok outline)
    (described : Node.ofOutline? outline = some (.block "" nodes)) :
    Tells closing template (.tree name strict) text

/-- The result of a command that needs no data tells what is in the template. -/
theorem Runs.tells {surroundings : Surroundings} {command : Command} {text : String}
    (runs : Runs surroundings command (.ok text))
    (sourceless : command.action.source surroundings = .ok none) :
    ∃ settings template, Opened surroundings command settings none template ∧
      Tells ⟨settings.strictClosing⟩ template command.action text := by
  cases runs with
  | rendered supplied parsed shown =>
      rw [supplied.sourced] at sourceless
      cases sourceless
  | @tokens settings name template tokens opened asked cut =>
      obtain ⟨loaded, read, seen⟩ := Token.load_listing tokens
      rw [asked]
      exact ⟨settings, template, opened, .tokens cut read seen⟩
  | @tree settings name template strict nodes outline opened asked parsed outlined =>
      rw [asked]
      exact ⟨settings, template, opened, .tree parsed
        (Node.textual_outline _ outlined).load_listing (Node.ofOutline?_outline _ outlined)⟩

/-- How courses are concluded, by the exit code, the output and the lines about errors. -/
inductive Concluded (notices : String) : Except (Stage × Failure) String → Outcome → Prop where
  | whole (text : String) : Concluded notices (.ok text) (.finished 0 text notices)
  /-- The message is no empty line. -/
  | refused {stage : Stage} {failure : Failure} (mendable : failure.isMendable = true)
    (speaks : Text.Speaks (messageLine failure.message)) :
    Concluded notices (.error (stage, failure))
      (.finished 2 "" (notices ++ messageLine failure.message))
  /-- The error comes from settings, names, files or data, never from parsing or rendering. -/
  | crashed {stage : Stage} {failure : Failure} (beyond : failure.isMendable = false)
    (early : stage ≠ .parsing ∧ stage ≠ .rendering) :
    Concluded notices (.error (stage, failure)) (.crashed failure)

namespace Concluded

variable {notices text : String} {stage : Stage} {failure : Failure} {stopped : Stage × Failure}
  {outcome : Outcome}

theorem of_ok (concluded : Concluded notices (.ok text) outcome) :
    outcome = .finished 0 text notices := by
  cases concluded
  rfl

theorem of_mendable (concluded : Concluded notices (.error (stage, failure)) outcome)
    (mendable : failure.isMendable = true) :
    outcome = .finished 2 "" (notices ++ messageLine failure.message) := by
  cases concluded with
  | refused _ speaks => rfl
  | crashed beyond early =>
      rw [mendable] at beyond
      cases beyond

theorem of_beyond (concluded : Concluded notices (.error (stage, failure)) outcome)
    (beyond : failure.isMendable = false) : outcome = .crashed failure := by
  cases concluded with
  | crashed _ early => rfl
  | refused mendable speaks =>
      rw [mendable] at beyond
      cases beyond

theorem output_of_error (concluded : Concluded notices (.error stopped) outcome) :
    outcome.output = "" := by
  cases concluded with
  | refused mendable speaks => rfl
  | crashed beyond early => rfl

end Concluded

section

variable {surroundings : Surroundings} {command : Command}

theorem concluded_conclude (debug : Bool) {course : Except (Stage × Failure) String}
    (runs : Runs surroundings command course) :
    Concluded (noticeLines debug (resultOf surroundings command).notices) course
      (conclude debug (resultOf surroundings command)) := by
  have result := runs.result
  unfold conclude
  cases course with
  | ok text =>
      rw [result]
      exact .whole text
  | error stopped =>
      obtain ⟨stage, failure⟩ := stopped
      rw [result]
      cases mendable : failure.isMendable with
      | true =>
          have speaks : Text.Speaks (messageLine failure.message) :=
            speaks_messageLine (failure.speaks mendable)
          simp only [error_mapError, mendable, if_true]
          exact .refused mendable speaks
      | false =>
          have early : stage ≠ .parsing ∧ stage ≠ .rendering := by
            rw [← not_or]
            intro late
            rw [runs.isMendable late] at mendable
            cases mendable
          simp only [error_mapError, mendable]
          exact .crashed mendable early

/-- The run of a command that is understood takes a course, and every course is concluded in one of
three ways. So the run finishes with zero if and only if it has its whole result, which then is its
output, and from a listing the tokens or the tree can be read again; with two if and only if it
stopped at something that the user can mend; and it passes on an error if and only if it stopped at
that and the user cannot mend it. A run that stopped has written nothing to its output. -/
theorem main_concluded (surroundings : Surroundings) (debug : Bool) {arguments : List String}
    {command : Command} (asked : Request.ofArguments arguments = .ok (.run command)) :
    (∃ course, Runs surroundings command course ∧
      Concluded (noticeLines debug (resultOf surroundings command).notices) course
        (main surroundings debug arguments)) ∧
    (∀ text, (∃ errors, main surroundings debug arguments = .finished 0 text errors) ↔
      Runs surroundings command (.ok text)) ∧
    (∀ text, Runs surroundings command (.ok text) → command.action.source surroundings = .ok none →
      ∃ settings template, Opened surroundings command settings none template ∧
        Tells ⟨settings.strictClosing⟩ template command.action text) ∧
    ((∃ output errors, main surroundings debug arguments = .finished 2 output errors) ↔
      ∃ stage failure, Runs surroundings command (.error (stage, failure)) ∧
        failure.isMendable = true) ∧
    (∀ failure, main surroundings debug arguments = .crashed failure ↔
      ∃ stage, Runs surroundings command (.error (stage, failure)) ∧
        failure.isMendable = false) ∧
    ∀ stopped, Runs surroundings command (.error stopped) →
      (main surroundings debug arguments).output = "" := by
  have ran : main surroundings debug arguments = conclude debug (resultOf surroundings command) := by
    rw [main, asked]
  obtain ⟨course, runs⟩ := exists_runs surroundings command
  have concluded := concluded_conclude debug runs
  rw [ran]
  refine ⟨⟨course, runs, concluded⟩, ?_, fun _ => Runs.tells, ?_, ?_, ?_⟩
  · intro text
    constructor
    · rintro ⟨errors, whole⟩
      rw [whole] at concluded
      cases concluded
      exact runs
    · intro whole
      exact ⟨_, (concluded_conclude debug whole).of_ok⟩
  · constructor
    · rintro ⟨output, errors, refused⟩
      rw [refused] at concluded
      cases concluded with
      | refused mendable speaks => exact ⟨_, _, runs, mendable⟩
    · rintro ⟨stage, failure, stopped, mendable⟩
      exact ⟨"", _, (concluded_conclude debug stopped).of_mendable mendable⟩
  · intro failure
    constructor
    · intro crashed
      rw [crashed] at concluded
      cases concluded with
      | crashed beyond early => exact ⟨_, runs, beyond⟩
    · rintro ⟨stage, stopped, beyond⟩
      exact (concluded_conclude debug stopped).of_beyond beyond
  · intro stopped failed
    exact (concluded_conclude debug failed).output_of_error

end

end Logicless.CommandLine
