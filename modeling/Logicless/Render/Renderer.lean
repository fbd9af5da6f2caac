import Logicless.Reported
import Logicless.Render.Scopes
import Logicless.Template.Node
import Logicless.Text.Entity

/-!
Rendering a template against a document. Variables show the innermost member of their name, or
nothing. Sections look at the innermost scope alone: they show their nodes once for true, once for
each element of an array, and not at all for false or where the name is not bound.
-/

set_option autoImplicit false

namespace Logicless

open Template

inductive RenderError where
  /-- A section whose name is bound to neither a truth value nor an array. -/
  | sectionType (name : String) (kind : Kind)
  | node (error : NodeError)
  /-- A variable whose value cannot be written. -/
  | unwritable
  | scope (error : ScopeError)
  | access (error : AccessError)
deriving Repr, DecidableEq

def RenderError.message : RenderError → String
  | .sectionType name kind =>
    "Section '" ++ name ++ "' is bound to " ++ kind.name ++ "; expected a bool or an array"
  | .node error => error.message
  | .unwritable => Number.unwritableMessage
  | .scope error => error.message
  | .access error => error.message

/-- What rendering passes over in silence. -/
inductive RenderNotice where
  | unbound (name : String)
deriving Repr, DecidableEq

def RenderNotice.message : RenderNotice → String
  | .unbound name => "Section '" ++ name ++ "' is not bound, skipped"

/-- What a step of rendering gives: the text it appends, its notices, and how it ended. The text
before a failure is kept. -/
structure Emission (α : Type) where
  text : String
  notices : List RenderNotice
  result : Except RenderError α

/-- A step of rendering, which may change the scopes. -/
def Renderer (α : Type) := Scopes → Emission α × Scopes

namespace Renderer

instance : Monad Renderer where
  pure value := fun scopes => (⟨"", [], .ok value⟩, scopes)
  bind step next := fun scopes =>
    match step scopes with
    | (⟨text, notices, .error error⟩, scopes) => (⟨text, notices, .error error⟩, scopes)
    | (⟨text, notices, .ok value⟩, scopes) =>
      let (emission, scopes) := next value scopes
      (⟨text ++ emission.text, notices ++ emission.notices, emission.result⟩, scopes)

def emit (text : String) : Renderer Unit := fun scopes => (⟨text, [], .ok ()⟩, scopes)

def note (notice : RenderNotice) : Renderer Unit := fun scopes => (⟨"", [notice], .ok ()⟩, scopes)

def fail {α : Type} (error : RenderError) : Renderer α :=
  fun scopes => (⟨"", [], .error error⟩, scopes)

/-- Reads the scopes, which may give no answer. -/
def demand {α : Type} (question : Scopes → Except RenderError α) : Renderer α :=
  fun scopes => (⟨"", [], question scopes⟩, scopes)

def ask {α : Type} (question : Scopes → α) : Renderer α := demand fun scopes => .ok (question scopes)

/-- Renders inside a scope of its own, which is left however the step ends. -/
def inScope (value : Document) (step : Renderer Unit) : Renderer Unit := fun scopes =>
  match Scopes.within value step scopes with
  | ((emission, none), scopes) => (emission, scopes)
  | ((emission, some error), scopes) => ({ emission with result := .error (.scope error) }, scopes)

/-- The text of a variable; a name without a binding has none. -/
def variableText (name : String) : Renderer String :=
  demand fun scopes => match scopes.lookup name with
    | some value => value.text?.elim (.error .unwritable) .ok
    | none => .ok ""

/-- Renders a step once inside a scope for each of some documents. -/
def forEach (values : List Document) (step : Renderer Unit) : Renderer Unit :=
  match values with
  | [] => pure ()
  | value :: rest => do
    inScope value step
    forEach rest step

/-- The body of a section as often as the value of its name asks for. -/
def block (name : String) (value : Option Document) (body : Renderer Unit) : Renderer Unit :=
  match value with
  | none => note (.unbound name)
  | some value =>
    match value.kind with
    | .bool => if value matches .bool true then inScope value body else pure ()
    | .array =>
      match value.elements with
      | .ok elements => forEach elements body
      | .error error => fail (.access error)
    | kind => fail (.sectionType name kind)

mutual

def node : Node → Renderer Unit
  | .content text => emit text
  | .escaped name => do emit (Text.escapeHtml (← variableText name))
  | .unescaped name => do emit (← variableText name)
  | .block name children => do
    let value ← ask fun scopes => scopes.lookupTop name
    block name value (nodes children)
  | .unknown => fail (.node .unknown)

def nodes : List Node → Renderer Unit
  | [] => pure ()
  | first :: rest => do
    node first
    nodes rest

end

end Renderer

def render (nodes : List Node) (document : Document) : Reported RenderNotice RenderError String :=
  let emission := (Renderer.nodes nodes (.ofRoot document)).1
  ⟨emission.notices, emission.result.map fun _ => emission.text⟩

end Logicless
