import Logicless.Yaml.Node
import Logicless.Yaml.Schema
import Logicless.Yaml.Token

/-!
From tokens to the tree of the only document that they may hold.
-/

set_option autoImplicit false

namespace Logicless.Yaml

/-- What the name of an anchor stands for. -/
inductive Anchored where
  | node (node : Node)
  /-- A collection that is not finished, known by the number of collections around it. -/
  | unfinished (form : CollectionForm) (depth : Nat)
deriving Repr

/-- The tokens that are not read yet, the names that the read ones introduced, and the number of
collections that are not finished. -/
structure Building where
  tokens : List Token
  anchors : List (String × Anchored)
  handles : List (String × String)
  depth : Nat
deriving Repr

abbrev Build := StateT Building (Except Error)

namespace Build

/-- The next token; behind the last one the text has ended. -/
def peek : Build Token := do return (← get).tokens.headD .streamEnd

def drop : Build Unit := modify fun state => { state with tokens := state.tokens.drop 1 }

/-- Drops the next token if it is a given one, and says whether it was. -/
def dropIf (token : Token) : Build Bool := do
  if (← peek) == token then
    drop
    return true
  else return false

/-- A token that cannot stand here; where the text could not be cut, that is the reason. -/
def unexpected {α : Type} : Build α := do
  match ← peek with
  | .fault error => throw error
  | _ => throw .malformed

def expect (token : Token) : Build Unit := do
  if (← peek) == token then drop else unexpected

def nextIs (tokens : List Token) : Build Bool := do return tokens.contains (← peek)

def setAnchor (name : Option String) (anchored : Anchored) : Build Unit :=
  match name with
  | some name => modify fun state => { state with anchors := (name, anchored) :: state.anchors }
  | none => pure ()

/-- The node of a name. -/
def reference (name : String) : Build Node := do
  let state ← get
  match state.anchors.lookup name with
  | some (.node node) => return node
  | some (.unfinished form depth) => return .around form (state.depth - 1 - depth)
  | none => throw .malformed

/-- The anchor and the tag in front of a node, each at most once and in either order. -/
structure Properties where
  anchor : Option String
  tag : Option (Option String × String)

def anchor? : Build (Option String) := do
  match ← peek with
  | .anchor name =>
    drop
    return some name
  | _ => return none

def tag? : Build (Option (Option String × String)) := do
  match ← peek with
  | .tag handle suffix =>
    drop
    return some (handle, suffix)
  | _ => return none

def properties : Build Properties := do
  match ← anchor? with
  | some name => return ⟨some name, ← tag?⟩
  | none =>
    match ← tag? with
    | some tag => return ⟨← anchor?, some tag⟩
    | none => return ⟨none, none⟩

/-- The full name of a tag; its handle must be known. A tag without a name says nothing. -/
def tagName : Option (Option String × String) → Build (Option String)
  | none => return none
  | some (none, suffix) => return if suffix = "!" then none else some suffix
  | some (some handle, suffix) => do
    match (← get).handles.lookup handle with
    | some start => return some (start ++ suffix)
    | none => throw .malformed

/-- A scalar. Where no tag says otherwise, a plain scalar has the tag that its text shows; so has a
quoted one with a tag that says nothing. -/
def scalar (tagged : Bool) (name : Option String) (text : String) (isPlain : Bool) : Node :=
  let cs := text.toList
  match name with
  | some name => .scalar (.ofName name) cs
  | none => if isPlain || tagged then .scalar (.ofPlain cs) cs else .scalar .str cs

def empty : Node := scalar false none "" true

def collectionTag (name : Option String) (default : Tag) : Tag :=
  match name with
  | some name => .ofName name
  | none => default

inductive Context where
  | block
  /-- The value or key of a block mapping: a sequence may stand at the same column. -/
  | blockEntry
  | flow
deriving Repr, DecidableEq

/-- A collection; while it is built its anchor stands for an unfinished one. A name that was given
anew inside keeps its new meaning. -/
def collection {α : Type} (form : CollectionForm) (anchor : Option String) (parts : Build α)
    (finish : α → Node) : Build Node := do
  let depth := (← get).depth
  setAnchor anchor (.unfinished form depth)
  modify fun state => { state with depth := depth + 1 }
  let node := finish (← parts)
  let finished : String × Anchored → String × Anchored
    | (name, .unfinished form start) =>
      if some name = anchor ∧ start = depth then (name, .node node)
      else (name, .unfinished form start)
    | entry => entry
  modify fun state => { state with anchors := state.anchors.map finished, depth := depth }
  return node

def sequence (anchor name : Option String) (items : Build (List Node)) : Build Node :=
  collection .sequence anchor items (.sequence (collectionTag name .seq))

def mapping (anchor name : Option String) (entries : Build (List (Node × Node))) : Build Node :=
  collection .mapping anchor entries (.mapping (collectionTag name .map))

mutual

def node (context : Context) : (fuel : Nat) → Build Node
  | 0 => throw .malformed
  | fuel + 1 => do
    if let .reference name ← peek then
      drop
      reference name
    else
      let properties ← properties
      let name ← tagName properties.tag
      let anchor := properties.anchor
      match ← peek with
      | .scalar text isPlain =>
        drop
        let node := scalar properties.tag.isSome name text isPlain
        setAnchor anchor (.node node)
        return node
      | .flowSequenceStart => sequence anchor name (do drop; flowItems true fuel)
      | .flowMappingStart => mapping anchor name (do drop; flowEntries true fuel)
      | next =>
        if next == .blockEntry && context == .blockEntry then
          sequence anchor name (indentlessItems fuel)
        else if next == .blockSequenceStart && context != .flow then
          sequence anchor name (do drop; blockItems fuel)
        else if next == .blockMappingStart && context != .flow then
          mapping anchor name (do drop; blockEntries fuel)
        else if anchor.isSome || properties.tag.isSome then
          let node := scalar properties.tag.isSome name "" true
          setAnchor anchor (.node node)
          return node
        else unexpected

/-- A node, or one without text where one of the given tokens follows. -/
def nodeUnless (tokens : List Token) (context : Context) : (fuel : Nat) → Build Node
  | 0 => throw .malformed
  | fuel + 1 => do if ← nextIs tokens then return empty else node context fuel

/-- The elements of a block sequence, and its end. -/
def blockItems : (fuel : Nat) → Build (List Node)
  | 0 => throw .malformed
  | fuel + 1 => do
    if ← dropIf .blockEntry then
      let item ← nodeUnless [.blockEntry, .blockEnd] .block fuel
      return item :: (← blockItems fuel)
    else
      expect .blockEnd
      return []

/-- The elements of a block sequence at the column of the mapping around it. -/
def indentlessItems : (fuel : Nat) → Build (List Node)
  | 0 => throw .malformed
  | fuel + 1 => do
    if ← dropIf .blockEntry then
      let item ← nodeUnless [.blockEntry, .key, .value, .blockEnd] .block fuel
      return item :: (← indentlessItems fuel)
    else return []

/-- The entries of a block mapping, and its end. -/
def blockEntries : (fuel : Nat) → Build (List (Node × Node))
  | 0 => throw .malformed
  | fuel + 1 => do
    let isKey ← dropIf .key
    if !isKey && !(← nextIs [.value]) then
      expect .blockEnd
      return []
    else
      let key ←
        if isKey then nodeUnless [.key, .value, .blockEnd] .blockEntry fuel else pure empty
      let value ←
        if ← dropIf .value then nodeUnless [.key, .value, .blockEnd] .blockEntry fuel
        else pure empty
      return (key, value) :: (← blockEntries fuel)

/-- The elements of a flow sequence, and its end. An entry with a key is a mapping by itself. -/
def flowItems (first : Bool) : (fuel : Nat) → Build (List Node)
  | 0 => throw .malformed
  | fuel + 1 => do
    if ← dropIf .flowSequenceEnd then return []
    else
      if !first then expect .flowEntry
      if ← dropIf .flowSequenceEnd then return []
      else
        let item ←
          if ← dropIf .key then
            mapping none none do
              let key ← nodeUnless [.value, .flowEntry, .flowSequenceEnd] .flow fuel
              let value ←
                if ← dropIf .value then nodeUnless [.flowEntry, .flowSequenceEnd] .flow fuel
                else pure empty
              return [(key, value)]
          else node .flow fuel
        return item :: (← flowItems false fuel)

/-- The entries of a flow mapping, and its end. A node alone is a key without a value. -/
def flowEntries (first : Bool) : (fuel : Nat) → Build (List (Node × Node))
  | 0 => throw .malformed
  | fuel + 1 => do
    if ← dropIf .flowMappingEnd then return []
    else
      if !first then expect .flowEntry
      if ← dropIf .flowMappingEnd then return []
      else
        let isKey ← dropIf .key
        let isValue ← nextIs [.value]
        let key ←
          if isKey then nodeUnless [.value, .flowEntry, .flowMappingEnd] .flow fuel
          else if isValue then pure empty
          else node .flow fuel
        let value ←
          if isKey || isValue then
            if ← dropIf .value then nodeUnless [.flowEntry, .flowMappingEnd] .flow fuel
            else pure empty
          else pure empty
        return (key, value) :: (← flowEntries false fuel)

end

/-- The handles that need no directive. -/
def commonHandles : List (String × String) := [("!", "!"), ("!!", Tag.namespaceName)]

/-- The directives in front of a document: each handle once, and one version at most, the first
number of which is one. -/
def directives (versioned : Bool) (handles : List (String × String)) :
    (fuel : Nat) → Build (List (String × String))
  | 0 => throw .malformed
  | fuel + 1 => do
    match ← peek with
    | .versionDirective major _ =>
      if versioned || major != 1 then throw .malformed
      else
        drop
        directives true handles fuel
    | .tagDirective handle start =>
      if (handles.lookup handle).isSome then throw .malformed
      else
        drop
        directives versioned ((handle, start) :: handles) fuel
    | .otherDirective =>
      drop
      directives versioned handles fuel
    | _ => return handles

/-- The node of an explicit document, behind its directives. -/
def explicitDocument (fuel : Nat) : Build Node := do
  let handles ← directives false [] fuel
  modify fun state => { state with handles := handles ++ commonHandles }
  expect .documentStart
  if ← nextIs [.documentStart, .documentEnd, .streamEnd] then return empty
  else match ← peek with
    | .versionDirective .. => return empty
    | .tagDirective .. => return empty
    | .otherDirective => return empty
    | _ => node .block fuel

/-- Whether a document starts explicitly. -/
def startsExplicitly : Build Bool := do
  match ← peek with
  | .versionDirective .. => return true
  | .tagDirective .. => return true
  | .otherDirective => return true
  | .documentStart => return true
  | _ => return false

/-- The node of the only document; a text without a document has none. -/
def document (fuel : Nat) : Build (Option Node) := do
  if ← dropIf .streamEnd then return none
  else
    let root ← if ← startsExplicitly then explicitDocument fuel else node .block fuel
    let _ ← dropIf .documentEnd
    expect .streamEnd
    return some root

end Build

/-- The tree of a text. -/
def Node.read (tokens : List Token) : Except Error (Option Node) :=
  (Build.document (3 * tokens.length + 3)).run' ⟨tokens, [], Build.commonHandles, 0⟩

end Logicless.Yaml
