import Logicless.Document.Text

/-!
The documents that names are looked up in while a template is rendered: the root, and the scopes
that sections opened inside it. There is always a root.
-/

set_option autoImplicit false

namespace Logicless

/-- The root document and the scopes above it, the innermost first. -/
structure Scopes where
  inner : List Document
  root : Document
deriving Repr

/-- The root cannot be left. -/
inductive ScopeError where
  | atRoot
deriving Repr, DecidableEq

def ScopeError.message : ScopeError → String
  | .atRoot => "Cannot pop the root frame of a context stack"

namespace Scopes

def ofRoot (root : Document) : Scopes := ⟨[], root⟩

/-- All documents, the innermost first and the root last. -/
def frames (scopes : Scopes) : List Document := scopes.inner ++ [scopes.root]

def depth (scopes : Scopes) : Nat := scopes.inner.length + 1

/-- The innermost document. -/
def top (scopes : Scopes) : Document := scopes.inner.headD scopes.root

def push (scopes : Scopes) (value : Document) : Scopes :=
  { scopes with inner := value :: scopes.inner }

/-- The innermost document, and the scopes without it. -/
def pop (scopes : Scopes) : Except ScopeError (Document × Scopes) :=
  match scopes.inner with
  | [] => .error .atRoot
  | value :: rest => .ok (value, { scopes with inner := rest })

/-- The member of that name in the innermost object that has one. -/
def lookup (scopes : Scopes) (name : String) : Option Document :=
  scopes.frames.findSome? (·.get? name)

def lookupTop (scopes : Scopes) (name : String) : Option Document := scopes.top.get? name

/-- Opens a scope for a block and leaves one scope behind it. The block's answer is kept however the
block ended; leaving fails if the block has left all scopes above the root itself. -/
def within {α : Type} (value : Document) (block : Scopes → α × Scopes) (scopes : Scopes) :
    (α × Option ScopeError) × Scopes :=
  let (answer, inside) := block (scopes.push value)
  match inside.pop with
  | .ok (_, outside) => ((answer, none), outside)
  | .error error => ((answer, some error), inside)

@[simp] theorem frames_push (scopes : Scopes) (value : Document) :
    (scopes.push value).frames = value :: scopes.frames := rfl

@[simp] theorem pop_push (scopes : Scopes) (value : Document) :
    (scopes.push value).pop = .ok (value, scopes) := rfl

end Scopes

end Logicless
