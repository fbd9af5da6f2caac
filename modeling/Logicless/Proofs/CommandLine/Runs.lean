import Logicless.CommandLine.Outcome
import Logicless.Proofs.Processor.FromFiles
import Logicless.Proofs.Template.Outlines

/-!
The course of a run, stage by stage: the settings, the names of the files, their texts, the document,
the nodes of the template, and the text that is shown. The first stage that fails ends the run.
-/

set_option autoImplicit false

namespace Logicless.CommandLine

open Files Template

/-- What a run is at when it fails. -/
inductive Stage where
  | settings
  | resolving
  | reading
  | loading
  | parsing
  | rendering
deriving Repr, DecidableEq

inductive Source where
  | input
  | file (path : PathName)

namespace Source

variable (surroundings : Surroundings) (settings : Settings)

def read : Source → Except FileError String
  | .input => textOf surroundings.input
  | .file path => surroundings.files.readText path

def format : Source → String
  | .input => settings.dataFormat
  | .file path => settings.formatOf path

end Source

namespace Action

def template : Action → String
  | .render template _ _ _ => template
  | .tokens template => template
  | .tree template _ => template

/-- The settings of an action: what its options say goes before what the file says. -/
def settings (stored : Settings) : Action → Settings
  | .render _ _ format strict =>
    { stored with
      strictClosing := stored.strictClosing || strict
      dataFormat := format.getD stored.dataFormat }
  | .tokens _ => stored
  | .tree _ strict => { stored with strictClosing := stored.strictClosing || strict }

/-- Where an action has its data from. A listing needs none. -/
def source (surroundings : Surroundings) : Action → Except Failure (Option Source)
  | .render _ none _ _ => .error .dataUnnamed
  | .render _ (some data) _ _ =>
    if data = "-" then .ok (some .input)
    else match surroundings.files.exists? (.ofString data) with
      | .error error => .error (.file error)
      | .ok true => .ok (some (.file (.ofString data)))
      | .ok false => .error (.dataMissing (PathName.ofString data).toString)
  | .tokens _ => .ok none
  | .tree _ _ => .ok none

end Action

/-- The failure of a run whose template or data cannot be read. Where the data are in a file too, a
processor reads both. -/
def unread : Option Source → FileError → Failure
  | some (.file _), error => .process (.file error)
  | _, error => .file error

def Configured (surroundings : Surroundings) (command : Command) (settings : Settings) : Prop :=
  ∃ stored, (loadSettings surroundings command.config).result = .ok stored ∧
    settings = command.action.settings stored

/-- A run that also knows where its data come from. -/
structure Sourced (surroundings : Surroundings) (command : Command) (settings : Settings)
    (source : Option Source) : Prop where
  configured : Configured surroundings command settings
  sourced : command.action.source surroundings = .ok source

/-- A run that also has the text of its template. -/
structure Opened (surroundings : Surroundings) (command : Command) (settings : Settings)
    (source : Option Source) (template : String) : Prop
    extends Sourced surroundings command settings source where
  opened : ∃ path, (templatePath surroundings settings command.action.template).result = .ok path ∧
    surroundings.files.readText path = .ok template

/-- A run that also has the document of its data. -/
structure Supplied (surroundings : Surroundings) (command : Command) (settings : Settings)
    (source : Source) (template : String) (document : Document) : Prop
    extends Opened surroundings command settings (some source) template where
  supplied : ∃ data, source.read surroundings = .ok data ∧
    Document.load data (source.format settings) = .ok document

/-- The courses that the run of a command can take. Cutting a template into tokens and outlining its
tree have no failures of their own. -/
inductive Runs (surroundings : Surroundings) (command : Command) :
    Except (Stage × Failure) String → Prop where
  | unset {failure : Failure}
    (failed : (loadSettings surroundings command.config).result = .error failure) :
    Runs surroundings command (.error (.settings, failure))
  | sourceless {settings : Settings} {failure : Failure}
    (configured : Configured surroundings command settings)
    (failed : command.action.source surroundings = .error failure) :
    Runs surroundings command (.error (.resolving, failure))
  | unresolved {settings : Settings} {source : Option Source} {failure : Failure}
    (sourced : Sourced surroundings command settings source)
    (failed : (templatePath surroundings settings command.action.template).result =
      .error failure) :
    Runs surroundings command (.error (.resolving, failure))
  | templateUnread {settings : Settings} {source : Option Source} {path : PathName}
    {error : FileError} (sourced : Sourced surroundings command settings source)
    (resolved : (templatePath surroundings settings command.action.template).result = .ok path)
    (failed : surroundings.files.readText path = .error error) :
    Runs surroundings command (.error (.reading, unread source error))
  | dataUnread {settings : Settings} {source : Source} {template : String} {error : FileError}
    (opened : Opened surroundings command settings (some source) template)
    (failed : source.read surroundings = .error error) :
    Runs surroundings command (.error (.reading, unread (some source) error))
  | unloaded {settings : Settings} {source : Source} {template data : String} {error : LoadError}
    (opened : Opened surroundings command settings (some source) template)
    (read : source.read surroundings = .ok data)
    (failed : Document.load data (source.format settings) = .error error) :
    Runs surroundings command (.error (.loading, .process (.load error)))
  | unparsed {settings : Settings} {source : Source} {template : String} {document : Document}
    {error : TemplateError}
    (supplied : Supplied surroundings command settings source template document)
    (failed : (parse ⟨settings.strictClosing⟩ template).result = .error error) :
    Runs surroundings command (.error (.parsing, .process (.template error)))
  | unrendered {settings : Settings} {source : Source} {template : String} {document : Document}
    {nodes : List Node} {error : RenderError}
    (supplied : Supplied surroundings command settings source template document)
    (parsed : (parse ⟨settings.strictClosing⟩ template).result = .ok nodes)
    (failed : (render nodes document).result = .error error) :
    Runs surroundings command (.error (.rendering, .process (.render error)))
  | rendered {settings : Settings} {source : Source} {template text : String} {document : Document}
    {nodes : List Node}
    (supplied : Supplied surroundings command settings source template document)
    (parsed : (parse ⟨settings.strictClosing⟩ template).result = .ok nodes)
    (shown : (render nodes document).result = .ok text) :
    Runs surroundings command (.ok text)
  | tokens {settings : Settings} {name template : String} {tokens : List Token}
    (opened : Opened surroundings command settings none template)
    (asked : command.action = .tokens name)
    (cut : tokenize template = .ok tokens) :
    Runs surroundings command (.ok (listing (.array .list (tokens.map Token.outline))))
  | treeless {settings : Settings} {name template : String} {strict : Bool} {error : TemplateError}
    (opened : Opened surroundings command settings none template)
    (asked : command.action = .tree name strict)
    (failed : (parse ⟨settings.strictClosing⟩ template).result = .error error) :
    Runs surroundings command (.error (.parsing, .process (.template error)))
  | tree {settings : Settings} {name template : String} {strict : Bool} {nodes : List Node}
    {outline : Document}
    (opened : Opened surroundings command settings none template)
    (asked : command.action = .tree name strict)
    (parsed : (parse ⟨settings.strictClosing⟩ template).result = .ok nodes)
    (outlined : (Node.block "" nodes).outline = .ok outline) :
    Runs surroundings command (.ok (listing outline))

/-! ## The result of a command -/

section Results

variable {surroundings : Surroundings} {settings : Settings}

/-- Reading a template is finding its file and then reading that. -/
theorem readTemplate_result (surroundings : Surroundings) (settings : Settings) (name : String) :
    (readTemplate surroundings settings name).result =
      (templatePath surroundings settings name).result.bind fun path =>
        (surroundings.files.readText path).mapError .file := by
  rw [readTemplate, Reported.result_bind]
  rfl

theorem renderText_stages (settings : Settings) (template : String) (document : Document) :
    ((Processor.ofSettings settings).renderText template (.document document)).1.result =
      ((parse ⟨settings.strictClosing⟩ template).result.mapError .template).bind fun nodes =>
        (render nodes document).result.mapError .render := by
  rw [Processor.renderText_document_result (Processor.ofSettings_sound settings)]
  rfl

theorem renderFile_stages (settings : Settings) (files : FileTree) (template data : PathName) :
    ((Processor.ofSettings settings).renderFile files template data).1.result =
      ((files.readText template).mapError .file).bind fun text =>
        ((files.readText data).mapError .file).bind fun source =>
          ((Document.load source (settings.formatOf data)).mapError .load).bind fun document =>
            ((parse ⟨settings.strictClosing⟩ text).result.mapError .template).bind fun nodes =>
              (render nodes document).result.mapError .render := by
  rw [Processor.renderFile_result (Processor.ofSettings_sound settings), Processor.readFiles_result]
  simp only [Reported.bind_bind]
  rfl

/-- The data of a rendering are in the input, or in a file that exists. -/
theorem source_of_render {name data : String} {format : Option String} {strict : Bool}
    {source : Option Source}
    (found : (Action.render name (some data) format strict).source surroundings = .ok source) :
    (data = "-" ∧ source = some .input) ∨
      (data ≠ "-" ∧ surroundings.files.exists? (.ofString data) = .ok true ∧
        source = some (.file (.ofString data))) := by
  rw [Action.source] at found
  split at found
  · rename_i hyphen
    cases found
    exact .inl ⟨hyphen, rfl⟩
  · rename_i named
    split at found
    · cases found
    · rename_i there
      cases found
      exact .inr ⟨named, there, rfl⟩
    · cases found

/-- What needs no data is a listing. -/
theorem source_ne_none {name : String} {data format : Option String} {strict : Bool} :
    (Action.render name data format strict).source surroundings ≠ .ok none := by
  intro found
  cases data with
  | none => cases found
  | some data =>
      rcases source_of_render found with ⟨-, same⟩ | ⟨-, -, same⟩
      · cases same
      · cases same

/-- Wherever the data come from, rendering goes through the same stages. -/
theorem renderStep_result (settings : Settings) {name data : String} {format : Option String}
    {strict : Bool} {source : Source}
    (found : (Action.render name (some data) format strict).source surroundings =
      .ok (some source)) :
    (renderStep surroundings settings name data).result =
      (templatePath surroundings settings name).result.bind fun path =>
        ((surroundings.files.readText path).mapError (unread (some source))).bind fun template =>
          ((source.read surroundings).mapError (unread (some source))).bind fun text =>
            ((Document.load text (source.format settings)).mapError (.process ∘ .load)).bind
              fun document =>
                ((parse ⟨settings.strictClosing⟩ template).result.mapError
                  (.process ∘ .template)).bind fun nodes =>
                    (render nodes document).result.mapError (.process ∘ .render) := by
  rcases source_of_render found with ⟨hyphen, same⟩ | ⟨named, exist, same⟩
  · cases same
    rw [renderStep, if_pos hyphen]
    simp only [Reported.result_bind, readTemplate_result, Reported.bind_bind, Step.ofFile,
      Step.ofAttempt, Attempt.ofLoad, Reported.result_ofExcept, Reported.result_adapt,
      renderText_stages, mapError_mapError, mapError_bind]
    rfl
  · cases same
    have there : (Step.ofFile (surroundings.files.exists? (.ofString data))).result = .ok true := by
      rw [exist]
      rfl
    rw [renderStep, if_neg named, Reported.result_bind, there]
    change Reported.result (if true = true then _ else _) = _
    rw [if_pos rfl]
    simp only [Reported.result_bind, Step.ofAttempt, Reported.result_adapt, renderFile_stages,
      mapError_mapError, mapError_bind]
    rfl

theorem tokensStep_result (surroundings : Surroundings) (settings : Settings) (name : String) :
    (tokensStep surroundings settings name).result =
      (templatePath surroundings settings name).result.bind fun path =>
        ((surroundings.files.readText path).mapError .file).bind fun template =>
          ((tokenize template).mapError (.process ∘ .template ∘ .lex)).bind fun tokens =>
            .ok (listing (.array .list (tokens.map Token.outline))) := by
  rw [tokensStep, Reported.result_bind, readTemplate_result, Reported.bind_bind]
  simp only [Reported.result_bind, Step.ofAttempt, Reported.result_adapt, Reported.result_ofExcept,
    mapError_mapError]
  rfl

theorem treeStep_result (surroundings : Surroundings) (settings : Settings) (name : String) :
    (treeStep surroundings settings name).result =
      (templatePath surroundings settings name).result.bind fun path =>
        ((surroundings.files.readText path).mapError .file).bind fun template =>
          ((parse ⟨settings.strictClosing⟩ template).result.mapError
            (.process ∘ .template)).bind fun nodes =>
              ((Node.block "" nodes).outline.mapError .node).bind fun outline =>
                .ok (listing outline) := by
  rw [treeStep, Reported.result_bind, readTemplate_result, Reported.bind_bind]
  simp only [Reported.result_bind, Step.ofAttempt, Reported.result_adapt, Reported.result_ofExcept]
  refine congrArg _ (funext fun path => congrArg _ (funext fun template => ?_))
  have nodes : (((Processor.ofSettings settings).compile template).1.result.map
      Compiled.nodes).mapError Failure.process =
        (parse ⟨settings.strictClosing⟩ template).result.mapError (.process ∘ .template) := by
    rw [Processor.compile_nodes (Processor.ofSettings_sound settings)]
    exact mapError_mapError _ _ _
  rw [← nodes]
  cases ((Processor.ofSettings settings).compile template).1.result <;> rfl

end Results

def answer (surroundings : Surroundings) (settings : Settings) (template : String)
    (action : Action) : Option Source → Except Failure String
  | some source =>
    ((source.read surroundings).mapError (unread (some source))).bind fun text =>
      ((Document.load text (source.format settings)).mapError (.process ∘ .load)).bind
        fun document =>
          ((parse ⟨settings.strictClosing⟩ template).result.mapError
            (.process ∘ .template)).bind fun nodes =>
              (render nodes document).result.mapError (.process ∘ .render)
  | none =>
    match action with
    | .tree _ _ =>
      ((parse ⟨settings.strictClosing⟩ template).result.mapError (.process ∘ .template)).bind
        fun nodes => ((Node.block "" nodes).outline.mapError .node).bind fun outline =>
          .ok (listing outline)
    | _ =>
      ((tokenize template).mapError (.process ∘ .template ∘ .lex)).bind fun tokens =>
        .ok (listing (.array .list (tokens.map Token.outline)))

section Opening

variable {surroundings : Surroundings} {command : Command} {settings : Settings}
  {source : Option Source} {template : String}

/-- Every command finds its template and reads it before it does anything else with it. -/
theorem Sourced.result (sourced : Sourced surroundings command settings source) :
    (resultOf surroundings command).result =
      (templatePath surroundings settings command.action.template).result.bind fun path =>
        ((surroundings.files.readText path).mapError (unread source)).bind fun template =>
          answer surroundings settings template command.action source := by
  obtain ⟨⟨stored, loaded, rfl⟩, found⟩ := sourced
  obtain ⟨config, action⟩ := command
  rw [resultOf, Reported.result_bind, loaded]
  cases action with
  | tokens name =>
      cases found
      exact tokensStep_result surroundings stored name
  | tree name strict =>
      cases found
      exact treeStep_result surroundings _ name
  | render name data format strict =>
      cases data with
      | none => cases found
      | some data =>
          cases source with
          | none => exact absurd found source_ne_none
          | some source => exact renderStep_result _ found

theorem Opened.result (opened : Opened surroundings command settings source template) :
    (resultOf surroundings command).result =
      answer surroundings settings template command.action source := by
  obtain ⟨path, resolved, read⟩ := opened.opened
  simp [opened.toSourced.result, resolved, read]

/-- An action that has no data to work on ends before it looks for its template. -/
theorem result_of_sourceless {failure : Failure}
    (configured : Configured surroundings command settings)
    (failed : command.action.source surroundings = .error failure) :
    (resultOf surroundings command).result = .error failure := by
  obtain ⟨stored, loaded, -⟩ := configured
  obtain ⟨config, action⟩ := command
  rw [resultOf, Reported.result_bind, loaded]
  cases action with
  | tokens name => cases failed
  | tree name strict => cases failed
  | render name data format strict =>
      cases data with
      | none =>
          cases failed
          rfl
      | some data =>
          change (renderStep surroundings _ name data).result = _
          rw [Action.source] at failed
          split at failed
          · cases failed
          · rename_i named
            rw [renderStep, if_neg named, Reported.result_bind]
            split at failed
            · rename_i error unknown
              cases failed
              simp only [Step.ofFile, Reported.result_ofExcept, unknown]
              rfl
            · cases failed
            · rename_i missing
              cases failed
              simp only [Step.ofFile, Reported.result_ofExcept, missing]
              rfl

/-- Behind its document, rendering is parsing and then showing. -/
theorem Supplied.result {source : Source} {document : Document}
    (supplied : Supplied surroundings command settings source template document) :
    (resultOf surroundings command).result =
      ((parse ⟨settings.strictClosing⟩ template).result.mapError (.process ∘ .template)).bind
        fun nodes => (render nodes document).result.mapError (.process ∘ .render) := by
  obtain ⟨data, read, loaded⟩ := supplied.supplied
  simp [supplied.toOpened.result, answer, read, loaded]

end Opening

section

variable {surroundings : Surroundings} {command : Command}

/-- A course says how the command ends. -/
theorem Runs.result {course : Except (Stage × Failure) String}
    (runs : Runs surroundings command course) :
    (resultOf surroundings command).result = course.mapError Prod.snd := by
  cases runs with
  | unset failed => simp [resultOf, failed]
  | sourceless configured failed => exact result_of_sourceless configured failed
  | unresolved sourced failed => simp [sourced.result, failed]
  | templateUnread sourced resolved failed => simp [sourced.result, resolved, failed]
  | dataUnread opened failed => simp [opened.result, answer, failed]
  | unloaded opened read failed => simp [opened.result, answer, read, failed]
  | unparsed supplied failed => simp [supplied.result, failed]
  | unrendered supplied parsed failed => simp [supplied.result, parsed, failed]
  | rendered supplied parsed shown => simp [supplied.result, parsed, shown]
  | tokens opened asked cut => simp [opened.result, answer, asked, cut]
  | treeless opened asked failed => simp [opened.result, answer, asked, failed]
  | tree opened asked parsed outlined => simp [opened.result, answer, asked, parsed, outlined]

theorem exists_runs_of_source {settings : Settings} {source : Source} {template : String}
    (opened : Opened surroundings command settings (some source) template) :
    ∃ course, Runs surroundings command course := by
  cases read : source.read surroundings with
  | error error => exact ⟨_, .dataUnread opened read⟩
  | ok data =>
      cases loaded : Document.load data (source.format settings) with
      | error error => exact ⟨_, .unloaded opened read loaded⟩
      | ok document =>
          have supplied : Supplied surroundings command settings source template document :=
            ⟨opened, data, read, loaded⟩
          cases parsed : (parse ⟨settings.strictClosing⟩ template).result with
          | error error => exact ⟨_, .unparsed supplied parsed⟩
          | ok nodes =>
              cases shown : (render nodes document).result with
              | error error => exact ⟨_, .unrendered supplied parsed shown⟩
              | ok text => exact ⟨_, .rendered supplied parsed shown⟩

theorem exists_runs_of_listing {settings : Settings} {template : String}
    (opened : Opened surroundings command settings none template) :
    ∃ course, Runs surroundings command course := by
  cases asked : command.action with
  | tokens name =>
      obtain ⟨tokens, made, -⟩ := tokenize_allCutFrom template
      exact ⟨_, .tokens opened asked made⟩
  | tree name strict =>
      cases parsed : (parse ⟨settings.strictClosing⟩ template).result with
      | error error => exact ⟨_, .treeless opened asked parsed⟩
      | ok nodes =>
          obtain ⟨outline, outlined⟩ := exists_outline_of_parse "" parsed
          exact ⟨_, .tree opened asked parsed outlined⟩
  | render name data format strict =>
      have found := opened.sourced
      rw [asked] at found
      exact absurd found source_ne_none

/-- Every command takes a course. -/
theorem exists_runs (surroundings : Surroundings) (command : Command) :
    ∃ course, Runs surroundings command course := by
  cases loaded : (loadSettings surroundings command.config).result with
  | error failure => exact ⟨_, .unset loaded⟩
  | ok stored =>
      have configured : Configured surroundings command (command.action.settings stored) :=
        ⟨stored, loaded, rfl⟩
      cases found : command.action.source surroundings with
      | error failure => exact ⟨_, .sourceless configured found⟩
      | ok source =>
          have sourced : Sourced surroundings command _ source := ⟨configured, found⟩
          cases resolved : (templatePath surroundings (command.action.settings stored)
              command.action.template).result with
          | error failure => exact ⟨_, .unresolved sourced resolved⟩
          | ok path =>
              cases read : surroundings.files.readText path with
              | error error => exact ⟨_, .templateUnread sourced resolved read⟩
              | ok template =>
                  have opened : Opened surroundings command _ source template :=
                    ⟨sourced, path, resolved, read⟩
                  cases source with
                  | none => exact exists_runs_of_listing opened
                  | some source => exact exists_runs_of_source opened

end

end Logicless.CommandLine
