import Logicless.Document.File
import Logicless.Render.Renderer
import Logicless.Settings
import Logicless.Template.Parse

/-!
Templates and documents together. A processor keeps the trees of templates that it has parsed, so
that each is parsed once.
-/

set_option autoImplicit false

namespace Logicless

open Template Files

inductive ProcessError where
  | template (error : TemplateError)
  | load (error : LoadError)
  | render (error : RenderError)
  | file (error : FileError)
  /-- No list of tokens where one is needed. -/
  | noTokens
  /-- No tree where one is needed. -/
  | noTree
  /-- A tree whose root is no section. -/
  | rootless
deriving Repr

def ProcessError.message : ProcessError → String
  | .template error => error.message
  | .load error => error.message
  | .render error => error.message
  | .file error => error.message
  | .noTokens => "tokens must not be None"
  | .noTree => "tree must not be None"
  | .rootless => "the root of a tree must be a section"

inductive Notice where
  | parse (notice : ParseNotice)
  | render (notice : RenderNotice)
  /-- A tree that was kept, of a template of so many characters. -/
  | cacheHit (length : Nat)
deriving Repr, DecidableEq

namespace Notice

def message : Notice → String
  | .parse notice => notice.message
  | .render notice => notice.message
  | .cacheHit length => "Template cache hit (" ++ toString length ++ " chars)"

/-- The stage that gives a notice. -/
def source : Notice → String
  | .parse _ => "stache.parser"
  | .render _ => "stache.renderer"
  | .cacheHit _ => "stache.processor"

end Notice

abbrev Attempt (α : Type) := Reported Notice ProcessError α

namespace Attempt

def parseTemplate (closing : Closing) (template : String) : Attempt (List Node) :=
  (parse closing template).adapt .parse .template

def renderNodes (nodes : List Node) (document : Document) : Attempt String :=
  (render nodes document).adapt .render .render

def ofLoad {α : Type} (result : Except LoadError α) : Attempt α :=
  .ofExcept (result.mapError .load)

def wrap (datum : Datum) : Attempt Document :=
  ofLoad ((Document.ofDatum datum).mapError .shape)

def parseGiven (closing : Closing) (tokens : Option (List Token)) : Attempt (List Node) :=
  match tokens with
  | none => .fail .noTokens
  | some tokens => (parseTokens closing tokens).adapt .parse fun error => .template (.parse error)

/-- Renders a tree that is given by its root; the root's own name does not matter. -/
def renderGiven (tree : Option Node) (datum : Datum) : Attempt String :=
  match tree with
  | none => .fail .noTree
  | some root => do
    let document ← wrap datum
    match root with
    | .block _ children => renderNodes children document
    | _ => .fail .rootless

/-- Parses a template and renders it; data are looked at when the template is parsed. -/
def renderTemplate (closing : Closing) (template : String) (data : Except LoadError Datum) :
    Attempt String := do
  let nodes ← parseTemplate closing template
  let datum ← ofLoad data
  renderNodes nodes (← wrap datum)

/-- Renders a template in one step. A text stands for the JSON document that it holds, which is read
before the template. -/
def renderText (template : String) (data : Datum) : Attempt String :=
  match data with
  | .scalar (.text text) => do
    let document ← ofLoad (Document.loadAs .json text)
    renderTemplate {} template (.ok (.document document))
  | other => renderTemplate {} template (.ok other)

end Attempt

/-- A tree that a processor keeps. Each parse gives a tree with a number of its own. -/
structure Compiled where
  number : Nat
  nodes : List Node

/-- A processor: its settings, the trees it keeps, and the number of the next tree. -/
structure Processor where
  settings : Settings
  cache : List (String × Compiled)
  nextNumber : Nat

namespace Processor

def ofSettings (settings : Settings) : Processor := ⟨settings, [], 0⟩

def closing (processor : Processor) : Closing := ⟨processor.settings.strictClosing⟩

/-- The tree of a template, parsed unless it is kept. A template that is none is not kept. -/
def compile (processor : Processor) (template : String) : Attempt Compiled × Processor :=
  match processor.cache.lookup template with
  | some compiled => (⟨[.cacheHit template.length], .ok compiled⟩, processor)
  | none =>
    let parsed := Attempt.parseTemplate processor.closing template
    match parsed.result with
    | .error error => (⟨parsed.notices, .error error⟩, processor)
    | .ok nodes =>
      let compiled : Compiled := ⟨processor.nextNumber, nodes⟩
      (⟨parsed.notices, .ok compiled⟩,
        { processor with
          cache := (template, compiled) :: processor.cache
          nextNumber := processor.nextNumber + 1 })

/-- The document that data are; a text stands for the document it holds in the format of the
settings. -/
def documentOf (processor : Processor) : Datum → Attempt Document
  | .scalar (.text text) => Attempt.ofLoad (Document.load text processor.settings.dataFormat)
  | other => Attempt.wrap other

/-- Renders a template against data, which are looked at when the template is compiled. -/
def renderText (processor : Processor) (template : String) (data : Datum) :
    Attempt String × Processor :=
  let (compiled, processor) := processor.compile template
  (do
    let tree ← compiled
    let document ← processor.documentOf data
    Attempt.renderNodes tree.nodes document, processor)

def ofFileResult {α : Type} (result : Except DocumentFileError α) : Attempt α :=
  .ofExcept <| result.mapError fun
    | .file error => .file error
    | .load error => .load error

/-- The text of a template file, and then the document of a document file. -/
def readFiles (processor : Processor) (files : FileTree) (template data : PathName) :
    Attempt (String × Document) := do
  let text ← .ofExcept ((files.readText template).mapError .file)
  let document ← ofFileResult (Document.loadFile files data processor.settings.dataFormat)
  return (text, document)

/-- Renders a template file against a document file. Both are read before the template is
compiled. -/
def renderFile (processor : Processor) (files : FileTree) (template data : PathName) :
    Attempt String × Processor :=
  match (processor.readFiles files template data).result with
  | .error error => (.fail error, processor)
  | .ok (text, document) =>
    let (compiled, processor) := processor.compile text
    (do
      let tree ← compiled
      Attempt.renderNodes tree.nodes document, processor)

def clear (processor : Processor) : Processor := { processor with cache := [] }

end Processor

end Logicless
