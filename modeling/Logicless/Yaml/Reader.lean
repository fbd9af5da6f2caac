import Logicless.Yaml.Node.Build
import Logicless.Yaml.Token.Stream
import Logicless.Yaml.Value

/-!
The data of YAML texts. Keys are built as a whole when they are met, values one level of the tree
after the other; of several faults the first in this order counts.
-/

set_option autoImplicit false

namespace Logicless.Yaml

open Number

abbrev Entry := Node × Node

/-- A key that stands for a default value is a string like others. -/
def asKey : Node → Node
  | .scalar .value text => .scalar .str text
  | node => node

mutual

/-- The entries of a mapping: those that are merged in, after the given ones, and its own. Entries
may be merged in once. -/
def flatten (merged : List Entry) : List Entry → Except Error (List Entry × List Entry)
  | [] => .ok (merged, [])
  | (key, value) :: rest =>
    if key.tag? = some .merge then
      if merged.isEmpty then do
        let entries ← mergeable value
        flatten entries rest
      else .error .malformed
    else do
      let (merged, own) ← flatten merged rest
      return (merged, (asKey key, value) :: own)

/-- The entries that a node merges into a mapping. -/
def mergeable : Node → Except Error (List Entry)
  | .mapping _ entries => do
    let (merged, own) ← flatten [] entries
    return merged ++ own
  | .sequence _ items => mergeableItems items
  | .around .mapping _ => .ok []
  | _ => .error .malformed

/-- The entries that a list of mappings merges into a mapping, those of the first mapping last. -/
def mergeableItems : List Node → Except Error (List Entry)
  | [] => .ok []
  | .mapping _ entries :: rest => do
    let (merged, own) ← flatten [] entries
    let others ← mergeableItems rest
    return others ++ (merged ++ own)
  | _ => .error .malformed

end

/-- All entries of a mapping, and whether a key may not come twice. -/
def allEntries (entries : List Entry) : Except Error (List Entry × Bool) := do
  let (merged, own) ← flatten [] entries
  return (merged ++ own, merged.isEmpty)

mutual

/-- The text of a node that is taken for a scalar; a mapping has the text of its default value. -/
def scalarText : Node → Except Error (List Char)
  | .scalar _ text => .ok text
  | .mapping _ entries => defaultText entries
  | _ => .error .malformed

/-- The text of the first default value of a mapping. -/
def defaultText : List Entry → Except Error (List Char)
  | [] => .error .malformed
  | (key, value) :: rest => if key.tag? = some .value then scalarText value else defaultText rest

end

/-- Whether a tag asks for a collection. -/
def Tag.isCollection : Tag → Bool
  | .seq => true
  | .map => true
  | .set => true
  | .omap => true
  | .pairs => true
  | _ => false

def Node.isCollection (node : Node) : Bool := node.tag?.any Tag.isCollection

mutual

/-- Data as part of a key; collections other than tuples cannot be. -/
def hashable : Datum → Except Error Key
  | .scalar value => .ok (.scalar value)
  | .tuple items => return .tuple (← hashableItems items)
  | other => .error (.unhashable other.typeName)

def hashableItems : List Datum → Except Error (List Key)
  | [] => .ok []
  | item :: rest => do
    let first ← hashable item
    let others ← hashableItems rest
    return first :: others

end

/-- A key as data: a list becomes a tuple, and no other collection can be a key. -/
def keyForm : Datum → Except Error Datum
  | .list items => .ok (.tuple items)
  | .dict _ => .error .malformed
  | .set _ => .error .malformed
  -- A list around a mapping holds the mapping, or a list around that.
  | .cycle name => if name = "list" then .ok (.tuple [.cycle "dict"]) else .error .malformed
  | other => .ok other

/-- A key that is not among the entries seen so far, where that is asked for. One that is gets
refused with its value and the value of the entry before, which then have to be shown. -/
def newKey (unique : Bool) (seen : List (Key × Datum)) (form value : Datum) : Except Error Key := do
  let key ← hashable form
  match if unique then seen.find? (·.1.same key) else none with
  | none => return key
  | some (_, earlier) =>
    if form.isWritable && value.isWritable && earlier.isWritable then .error .malformed
    else .error .unwritable

/-- The only entry of a mapping. -/
def singleEntry : Node → Except Error Entry
  | .mapping _ [entry] => .ok entry
  | _ => .error .malformed

/-- The data of the elements of a tree, each built by the given function. -/
def buildItems (build : Node → Except Error Datum) : List Node → Except Error (List Datum)
  | [] => .ok []
  | item :: rest => do
    let first ← build item
    let others ← buildItems build rest
    return first :: others

/-- The data of the entries of a mapping, keys built by one function and values by another. -/
def buildEntries (key value : Node → Except Error Datum) (unique : Bool)
    (seen : List (Key × Datum)) : List Entry → Except Error (List (Key × Datum))
  | [] => .ok []
  | (keyNode, valueNode) :: rest => do
    let form ← keyForm (← key keyNode)
    let datum ← value valueNode
    let name ← newKey unique seen form datum
    let others ← buildEntries key value unique ((name, datum) :: seen) rest
    return (name, datum) :: others

/-- The entries of an ordered mapping, which is written as a list of mappings with one entry. -/
def buildOrdered (build : Node → Except Error Datum) (seen : List Key) :
    List Node → Except Error (List (Key × Datum))
  | [] => .ok []
  | item :: rest => do
    let (keyNode, valueNode) ← singleEntry item
    let key ← hashable (← build keyNode)
    if seen.any (·.same key) then .error .repeatedKey
    else
      let datum ← build valueNode
      let others ← buildOrdered build (key :: seen) rest
      return (key, datum) :: others

/-- A list of pairs, which is written as a list of mappings with one entry. -/
def buildPairs (build : Node → Except Error Datum) : List Node → Except Error (List Datum)
  | [] => .ok []
  | item :: rest => do
    let (keyNode, valueNode) ← singleEntry item
    let key ← build keyNode
    let datum ← build valueNode
    let others ← buildPairs build rest
    return .tuple [key, datum] :: others

def CollectionForm.typeName : CollectionForm → String
  | .sequence => "list"
  | .mapping => "dict"

/-- The data of a tagged node; `key` builds keys and `part` other parts. -/
def buildTagged (key part : Node → Except Error Datum) (tag : Tag) (node : Node) :
    Except Error Datum :=
  match tag, node with
  | .seq, .sequence _ items => return .list (← buildItems part items)
  | .map, .mapping _ entries => do
    let (entries, unique) ← allEntries entries
    return .dict (Datum.ofEntries (← buildEntries key part unique [] entries))
  | .set, .mapping _ entries => do
    let (entries, unique) ← allEntries entries
    return .set ((Datum.ofEntries (← buildEntries key part unique [] entries)).map (·.1))
  | .omap, .sequence _ items => return .dict (← buildOrdered part [] items)
  | .pairs, .sequence _ items => return .list (← buildPairs part items)
  | tag, node =>
    if tag.isCollection then .error .malformed
    else return .scalar (← scalarValue tag (← scalarText node))

/-- The number of nodes from a collection to its parts: pairs and the entries of ordered mappings
stand in mappings of their own. -/
def Tag.levels : Tag → Nat
  | .omap => 2
  | .pairs => 2
  | _ => 1

/-- The data of a tree; a node in a key has `inKey` collections around it that belong to the key. A
collection inside itself is nothing while it is built as part of a key, and a cycle elsewhere. -/
def build (inKey : Option Nat) : (fuel : Nat) → Node → Except Error Datum
  | 0, _ => .error .malformed
  | fuel + 1, node =>
    match node.tag?, node with
    | some tag, node =>
      let key := some (inKey.elim 0 (· + 1))
      buildTagged (build key fuel) (build (inKey.map (· + tag.levels)) fuel) tag node
    | none, .around form between =>
      .ok (if inKey.any (between < ·) then .scalar .null else .cycle form.typeName)
    | none, _ => .error .malformed

/-- The data of a tree with its collections left empty. -/
def buildShallow (fuel : Nat) (node : Node) : Except Error Datum :=
  match node.tag? with
  | some .seq => .ok (.list [])
  | some .map => .ok (.dict [])
  | some .set => .ok (.set [])
  | some .omap => .ok (.dict [])
  | some .pairs => .ok (.list [])
  | _ => build none fuel node

/-- The nodes directly below a node from which parts of its data are built. -/
def partNodes (node : Node) : List Node :=
  match node.tag?, node with
  | some .omap, .sequence _ items => items.flatMap entryNodes
  | some .pairs, .sequence _ items => items.flatMap entryNodes
  | _, .sequence _ items => items
  | _, .mapping _ entries =>
    match allEntries entries with
    | .ok (entries, _) => entries.map (·.2)
    | .error _ => []
  | _, _ => []
where
  /-- The key and the value of a mapping with one entry. -/
  entryNodes : Node → List Node
    | .mapping _ [(key, value)] => [key, value]
    | _ => []

/-- Looks for faults in a queue of collections, one after the other; the collections in a collection
join the queue at its end. -/
def checkQueue (size : Nat) : (fuel : Nat) → List Node → Except Error Unit
  | 0, _ => .ok ()
  | _, [] => .ok ()
  | fuel + 1, node :: rest => do
    match node.tag? with
    | some tag =>
      let _ ← buildTagged (build (some 0) size) (buildShallow size) tag node
      checkQueue size fuel (rest ++ (partNodes node).filter Node.isCollection)
    | none => checkQueue size fuel rest

/-- The data of a whole tree. -/
def Node.toDatum (root : Node) : Except Error Datum := do
  let size := root.size + 1
  let _ ← buildShallow size root
  if root.isCollection then checkQueue size size [root]
  build none size root

/-- The data that a YAML text holds; a text without a document holds nothing. -/
def read (text : String) : Except Error Datum := do
  match ← Node.read (tokens text.toList) with
  | some root => root.toDatum
  | none => return .scalar .null

def Error.message : Error → String
  | .malformed => "Invalid YAML document"
  | .number error => error.message
  | .calendar error => error.message
  | .codePoint _ => "chr() arg not in range(0x110000)"
  | .word text => "'" ++ text ++ "'"
  | .unhashable typeName => "unhashable type: '" ++ typeName ++ "'"
  | .repeatedKey => ""
  | .unwritable => unwritableMessage
  | .endless => "a collection holds itself"

end Logicless.Yaml
