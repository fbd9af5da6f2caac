import Logicless.CommandLine.Run
import Logicless.Proofs.Document.RoundTrip
import Logicless.Proofs.Template.Outlines

/-!
Listings of trees and tokens. What is read from the listing of a tree is the outline that was listed,
and an outline leads back to its node by the kinds that it names. So different trees have different
listings. What is read from a listing of tokens names the kind, the value, the line and the column of
each.
-/

set_option autoImplicit false

namespace Logicless

open Json

/-- A listing of a document is read as the document. -/
theorem Document.Textual.load_listing {document : Document} (textual : document.Textual) :
    Document.load (CommandLine.listing document) "json" = .ok document := by
  have laid : Laid document.tree.lexemes (CommandLine.listing document).toList := by
    have ending : Laid [] ['\n'] := .space rfl .done
    have lines := textual.linesOf 0 ['\n'] [] ending
    rwa [List.append_nil, ← String.toList_ofList (l := document.laidOut 0 ++ ['\n'])] at lines
  rw [load_json]
  exact loadJsonWithin_of_gives (textual.gives _) laid

namespace Template.Node

open Document

def textAt? (members : List (String × Document)) (name : String) : Option String :=
  match members.lookup name with
  | some (.string text) => some text
  | _ => none

mutual

/-- The node that is described by an object. The type that the object names decides what else is
looked up in it. -/
def ofOutline? : Document → Option Node
  | .object members =>
    match textAt? members "type" with
    | some "content" => (textAt? members "text").map .content
    | some "escaped" => (textAt? members "name").map .escaped
    | some "unescaped" => (textAt? members "name").map .unescaped
    | some "section" => do
      let name ← textAt? members "name"
      let children ← childrenOf? members
      return .block name children
    | _ => none
  | _ => none

/-- The nodes that the member `children` describes. -/
def childrenOf? : List (String × Document) → Option (List Node)
  | [] => none
  | (name, value) :: rest => if name = "children" then ofList? value else childrenOf? rest

def ofList? : Document → Option (List Node)
  | .array _ items => ofOutlines? items
  | _ => none

def ofOutlines? : List Document → Option (List Node)
  | [] => some []
  | item :: rest => do
    let node ← ofOutline? item
    let nodes ← ofOutlines? rest
    return node :: nodes

end

theorem outline_block_eq_ok {name : String} {children : List Node} {document : Document}
    (made : (Node.block name children).outline = .ok document) :
    ∃ documents, outlines children = .ok documents ∧
      document = .object [("type", .string "section"), ("name", .string name),
        ("children", .array .list documents)] := by
  obtain ⟨documents, inside, same⟩ := exists_of_bind_eq_ok made
  cases same
  exact ⟨documents, inside, rfl⟩

theorem outlines_cons_eq_ok {node : Node} {nodes : List Node} {documents : List Document}
    (made : outlines (node :: nodes) = .ok documents) :
    ∃ first others, node.outline = .ok first ∧ outlines nodes = .ok others ∧
      documents = first :: others := by
  obtain ⟨first, one, made⟩ := exists_of_bind_eq_ok made
  obtain ⟨others, later, same⟩ := exists_of_bind_eq_ok made
  cases same
  exact ⟨first, others, one, later, rfl⟩

theorem textual_two {first second key value : String} (apart : first ≠ second) :
    (Document.object [(first, .string key), (second, .string value)]).Textual := by
  refine .object (by simpa using apart) ?_
  simp [Textual.string]

mutual

/-- An outline is made up of texts, lists and objects. -/
theorem textual_outline (node : Node) {document : Document} (made : node.outline = .ok document) :
    document.Textual := by
  match node with
  | .content _ | .escaped _ | .unescaped _ =>
      cases made
      exact textual_two (by decide)
  | .block name children =>
      obtain ⟨documents, inside, rfl⟩ := outline_block_eq_ok made
      refine .object (by simp) ?_
      simp [Textual.string, Textual.list (textual_outlines children inside)]
  | .unknown => cases made

theorem textual_outlines (nodes : List Node) {documents : List Document}
    (made : outlines nodes = .ok documents) : ∀ document ∈ documents, document.Textual := by
  match nodes with
  | [] =>
      cases made
      exact List.forall_mem_nil _
  | node :: rest =>
      obtain ⟨first, others, one, later, rfl⟩ := outlines_cons_eq_ok made
      exact List.forall_mem_cons.mpr ⟨textual_outline node one, textual_outlines rest later⟩

end

mutual

/-- A node is described by its outline. -/
theorem ofOutline?_outline (node : Node) {document : Document}
    (made : node.outline = .ok document) : ofOutline? document = some node := by
  match node with
  | .content _ | .escaped _ | .unescaped _ =>
      cases made
      rfl
  | .block name children =>
      obtain ⟨documents, inside, rfl⟩ := outline_block_eq_ok made
      have described := ofOutlines?_outlines children inside
      simp [ofOutline?, textAt?, childrenOf?, ofList?, described, List.lookup_cons]
  | .unknown => cases made

theorem ofOutlines?_outlines (nodes : List Node) {documents : List Document}
    (made : outlines nodes = .ok documents) : ofOutlines? documents = some nodes := by
  match nodes with
  | [] =>
      cases made
      rfl
  | node :: rest =>
      obtain ⟨first, others, one, later, rfl⟩ := outlines_cons_eq_ok made
      rw [ofOutlines?, ofOutline?_outline node one, ofOutlines?_outlines rest later]
      rfl

end

/-- Trees without unknown nodes have listings, which are the same only for the same tree. A listing
is read as the outline that was listed, and that describes the tree. -/
theorem listing_outline_eq_iff {first second : Node} (known : .unknown ∉ first.labels)
    (knownOther : .unknown ∉ second.labels) :
    ∃ outline other, first.outline = .ok outline ∧ second.outline = .ok other ∧
      (CommandLine.listing outline = CommandLine.listing other ↔ first = second) ∧
        Document.load (CommandLine.listing outline) "json" = .ok outline ∧
          ofOutline? outline = some first := by
  obtain ⟨outline, made⟩ := exists_outline first known
  obtain ⟨other, madeOther⟩ := exists_outline second knownOther
  have read := (textual_outline first made).load_listing
  have described := ofOutline?_outline first made
  refine ⟨outline, other, made, madeOther, ⟨fun same => ?_, ?_⟩, read, described⟩
  · have readOther := (textual_outline second madeOther).load_listing
    have outlines : outline = other := by
      rw [same, readOther] at read
      exact (Except.ok.inj read).symm
    have describedOther := ofOutline?_outline second madeOther
    rw [outlines, describedOther] at described
    exact (Option.some.inj described).symm
  · rintro rfl
    rw [made] at madeOther
    rw [Except.ok.inj madeOther]

theorem listing_outline_eq_iff_nested :
    let quoted : Node := .content "\"],\n\x7b"
    let first : Node := .block "" [quoted, .block "x" []]
    let second : Node := .block "" [quoted, .block "x" [.content ""]]
    .unknown ∉ first.labels ∧ .unknown ∉ second.labels ∧
      ∃ outline other, first.outline = .ok outline ∧ second.outline = .ok other ∧
        CommandLine.listing outline ≠ CommandLine.listing other ∧
          Document.load (CommandLine.listing outline) "json" = .ok outline ∧
            ofOutline? outline = some first := by
  intro quoted first second
  have known : .unknown ∉ first.labels := by decide
  have knownOther : .unknown ∉ second.labels := by decide
  obtain ⟨outline, other, made, madeOther, same, read, described⟩ :=
    listing_outline_eq_iff known knownOther
  have different : first ≠ second := by simp [first, second]
  exact ⟨known, knownOther, outline, other, made, madeOther, different ∘ same.mp, read, described⟩

end Template.Node

namespace Template.Token

def datum (token : Token) : Datum :=
  .dict ([("type", .text token.kind.name), ("value", .text token.value),
    ("line", .scalar (.int token.place.line none)),
    ("column", .scalar (.int token.place.column none))].map
      fun member => (.scalar (.text member.1), member.2))

/-- What can be seen of a token in a listing. -/
def listed (token : Token) : Appearance :=
  .object [("type", .scalar .string token.kind.name), ("value", .scalar .string token.value),
    ("line", .scalar .number (toString (token.place.line : Int))),
    ("column", .scalar .number (toString (token.place.column : Int)))]

theorem plain_datum (token : Token) : token.datum.Plain none := by
  have number (value : Int) : (Scalar.int value none).Plain none := .int value nofun
  refine .dict (by simp) ?_
  simp only [List.forall_mem_cons]
  exact ⟨.scalar (.text _), .scalar (.text _), .scalar (number _), .scalar (number _), nofun⟩

theorem ofItems_datum (path : Path) (index : Nat) (tokens : List Token) :
    Document.ofItems path index (tokens.map datum) = .ok (tokens.map outline) := by
  induction tokens generalizing index with
  | nil => rfl
  | cons token rest ih =>
      rw [List.map_cons, Document.ofItems, ih]
      rfl

theorem appearance_outline (token : Token) : token.outline.appearance = token.listed := by
  simp only [outline, listed, Document.appearance, Document.memberAppearances, Document.toText,
    Document.compact, Number.Numeral.text, String.ofList_toList]
  rfl

theorem itemAppearances_outline (tokens : List Token) :
    Document.itemAppearances (tokens.map outline) = tokens.map listed := by
  induction tokens with
  | nil => rfl
  | cons token rest ih =>
      rw [List.map_cons, Document.itemAppearances, appearance_outline, ih, List.map_cons]

/-- A listing of tokens is read as a list of what is seen of each. Lines and columns are numbers of
any length. -/
theorem load_listing (tokens : List Token) :
    ∃ loaded, Document.loadJsonWithin none
        (CommandLine.listing (.array .list (tokens.map outline))) = .ok loaded ∧
      loaded.appearance = .array (tokens.map listed) := by
  have plain : (Datum.list (tokens.map datum)).Plain none :=
    .list (List.forall_mem_map.mpr fun token _ => token.plain_datum)
  have wrapped : Document.ofDatum (.list (tokens.map datum)) =
      .ok (.array .list (tokens.map outline)) := by
    rw [Document.ofDatum, Document.ofDatumAt, ofItems_datum]
    · rfl
    · nofun
  obtain ⟨loaded, read, alike⟩ := Document.loadJsonWithin_laidOut plain wrapped
  refine ⟨loaded, read, alike.trans ?_⟩
  rw [Document.appearance, itemAppearances_outline]

end Template.Token

end Logicless
