/-!
The tree of a YAML document: scalars, sequences and mappings with their tags. References stand for
the node that they name; a reference to a node around it cannot be written out and stays.
-/

set_option autoImplicit false

namespace Logicless.Yaml

/-- The tags that data can be built from; a tag of another name is kept as it is. -/
inductive Tag where
  | str
  | int
  | float
  | bool
  | null
  | timestamp
  | binary
  /-- The key of a mapping whose value is merged into it. -/
  | merge
  /-- The key of a default value. -/
  | value
  | seq
  | map
  | set
  | omap
  | pairs
  | other (name : String)
deriving Repr, DecidableEq

namespace Tag

/-- The tags of the language with their short names. -/
def known : List (String × Tag) :=
  [("str", str), ("int", int), ("float", float), ("bool", bool), ("null", null),
    ("timestamp", timestamp), ("binary", binary), ("merge", merge), ("value", value), ("seq", seq),
    ("map", map), ("set", set), ("omap", omap), ("pairs", pairs)]

/-- What the tags of the language start with. -/
def namespaceName : String := "tag:yaml.org,2002:"

/-- The tag of a full name. -/
def ofName (name : String) : Tag :=
  ((known.find? fun entry => namespaceName ++ entry.1 == name).map (·.2)).getD (.other name)

end Tag

inductive CollectionForm where
  | sequence
  | mapping
deriving Repr, DecidableEq

inductive Node where
  | scalar (tag : Tag) (text : List Char)
  | sequence (tag : Tag) (items : List Node)
  | mapping (tag : Tag) (entries : List (Node × Node))
  /-- A collection around this place, with `between` other collections between the two. -/
  | around (form : CollectionForm) (between : Nat)
deriving Repr

namespace Node

def tag? : Node → Option Tag
  | .scalar tag _ => some tag
  | .sequence tag _ => some tag
  | .mapping tag _ => some tag
  | .around .. => none

mutual

def size : Node → Nat
  | .sequence _ items => 1 + sizeItems items
  | .mapping _ entries => 1 + sizeEntries entries
  | _ => 1

def sizeItems : List Node → Nat
  | [] => 0
  | item :: rest => size item + sizeItems rest

def sizeEntries : List (Node × Node) → Nat
  | [] => 0
  | (key, value) :: rest => size key + size value + sizeEntries rest

end

end Node

end Logicless.Yaml
