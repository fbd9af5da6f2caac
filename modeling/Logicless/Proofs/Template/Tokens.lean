import Logicless.Proofs.Template.Segmentation

/-!
The tokens of a template: one for each piece, in order, each at the place behind the text of those
before it. Cutting never fails, and the tokens give the template back.
-/

set_option autoImplicit false

namespace Logicless.Template

open Text Piece

namespace Token

def piece (token : Token) : Piece :=
  if token.kind = .content then .content token.raw.toList else .tag token.raw.toList

theorem piece_raw (token : Token) : token.piece.raw = token.raw.toList := by
  unfold piece
  split <;> rfl

theorem piece_of_content {token : Token} (content : token.kind = .content) :
    token.piece = .content token.raw.toList := if_pos content

theorem piece_of_tag {token : Token} (tag : token.kind ≠ .content) :
    token.piece = .tag token.raw.toList := if_neg tag

def ofPiece (place : Place) : Piece → Except LexError Token
  | .content raw => .ok (ofContent place raw)
  | .tag raw => ofTag place raw

theorem ofPieces_cons {place : Place} {piece : Piece} {pieces : List Piece} {token : Token}
    {tokens : List Token} (first : ofPiece place piece = .ok token)
    (rest : ofPieces (place.advance piece.raw) pieces = .ok tokens) :
    ofPieces place (piece :: pieces) = .ok (token :: tokens) := by
  cases piece with
  | content raw =>
      cases first
      rw [Piece.raw] at rest
      rw [ofPieces, rest]
      rfl
  | tag raw =>
      rw [ofPiece] at first
      rw [Piece.raw] at rest
      rw [ofPieces, first, rest]
      rfl

/-- A token says where and from what it was cut, and a tag has a value. -/
structure CutFrom (place : Place) (piece : Piece) (token : Token) : Prop where
  piece : token.piece = piece
  place : token.place = place
  value : token.kind ≠ .content → ValueOf token.kind token.value.toList

theorem ofPiece_cutFrom (place : Place) {piece : Piece}
    (tags : ∀ raw, piece = .tag raw → IsTag raw) :
    ∃ token, ofPiece place piece = .ok token ∧ token.CutFrom place piece := by
  cases piece with
  | content raw =>
      refine ⟨ofContent place raw, rfl, ?_, rfl, fun tag => absurd rfl tag⟩
      change Piece.content (String.ofList raw).toList = .content raw
      rw [String.toList_ofList]
  | tag raw =>
      obtain ⟨kind, value, classified, valued⟩ := classifyTag?_of_isTag (tags raw rfl)
      refine ⟨⟨kind, String.ofList value, place, String.ofList raw⟩, ?_, ?_, rfl, ?_⟩
      · rw [ofPiece, ofTag, classified]
      · rw [piece_of_tag valued.inTag, String.toList_ofList]
      · intro _
        rwa [String.toList_ofList]

/-- The tokens of pieces, the first at `place`. -/
structure AllCutFrom (place : Place) (pieces : List Piece) (tokens : List Token) : Prop where
  pieces : tokens.map piece = pieces
  places : ∀ before token behind, tokens = before ++ token :: behind →
    token.place = place.advance (textOf (before.map piece))
  values : ∀ token ∈ tokens, token.kind ≠ .content → ValueOf token.kind token.value.toList

theorem AllCutFrom.cons {place : Place} {piece : Piece} {pieces : List Piece} {token : Token}
    {tokens : List Token} (first : token.CutFrom place piece)
    (rest : AllCutFrom (place.advance piece.raw) pieces tokens) :
    AllCutFrom place (piece :: pieces) (token :: tokens) := by
  constructor
  · rw [List.map_cons, first.piece, rest.pieces]
  · intro before other behind split
    cases before with
    | nil =>
        cases split
        exact first.place
    | cons head before =>
        cases split
        rw [List.map_cons, textOf_cons, Place.advance_append, first.piece]
        exact rest.places before other behind rfl
  · intro other among
    rcases List.mem_cons.mp among with rfl | later
    · exact first.value
    · exact rest.values other later

theorem ofPieces_allCutFrom (place : Place) (pieces : List Piece)
    (tags : ∀ raw, .tag raw ∈ pieces → IsTag raw) :
    ∃ tokens, ofPieces place pieces = .ok tokens ∧ AllCutFrom place pieces tokens := by
  induction pieces generalizing place with
  | nil =>
      refine ⟨[], rfl, rfl, ?_, ?_⟩
      · intro before token behind split
        cases before <;> cases split
      · intro token among
        cases among
  | cons piece rest ih =>
      have firstTag : ∀ raw, piece = .tag raw → IsTag raw := by
        rintro raw rfl
        exact tags raw (List.mem_cons_self ..)
      obtain ⟨token, made, first⟩ := ofPiece_cutFrom place firstTag
      obtain ⟨tokens, all, later⟩ := ih (place.advance piece.raw) fun raw among =>
        tags raw (List.mem_cons_of_mem _ among)
      exact ⟨token :: tokens, ofPieces_cons made all, AllCutFrom.cons first later⟩

theorem mapM_source? {tokens : List Token} (filled : ∀ token ∈ tokens, token.raw ≠ "") :
    tokens.mapM source? = some (tokens.map raw) := by
  induction tokens with
  | nil => rfl
  | cons token rest ih =>
      have first : token.source? = some token.raw :=
        if_pos (filled token (List.mem_cons_self ..))
      rw [List.mapM_cons, first, ih fun other among => filled other (List.mem_cons_of_mem _ among)]
      rfl

theorem textOf_pieces (tokens : List Token) :
    textOf (tokens.map piece) = (String.join (tokens.map raw)).toList := by
  rw [String.toList_join, textOf, List.flatMap_map, List.flatMap_map]
  exact congrArg (tokens.flatMap ·) (funext piece_raw)

end Token

/-- Every template is cut into tokens. Their pieces are the one segmentation of the template; each
tag is the one that occurs at its place, with a value that fits; and the sources of the tokens,
one behind the other, are the template. -/
theorem tokenize_segmentation (template : String) :
    ∃ tokens, tokenize template = .ok tokens ∧
      (∀ pieces, Segmentation template.toList pieces ↔ pieces = tokens.map Token.piece) ∧
      (∀ before token behind, tokens = before ++ token :: behind →
        token.place.offset = (textOf (before.map Token.piece)).length) ∧
      (∀ token ∈ tokens, token.kind ≠ .content →
        TagAt template.toList token.place.offset token.raw.toList ∧ Bare token.value.toList ∧
          (token.kind ≠ .comment → IsTrimmed token.value.toList)) ∧
      (tokens.mapM Token.source?).map String.join = some template := by
  have segmentation : Segmentation template.toList (cut 0 [] template.toList) :=
    segmentation_cut template.toList [] nofun
  have tags : ∀ raw, .tag raw ∈ cut 0 [] template.toList → IsTag raw := by
    intro raw among
    obtain ⟨before, behind, split⟩ := List.append_of_mem among
    exact (segmentation.tags before raw behind split).1
  obtain ⟨tokens, success, all⟩ := Token.ofPieces_allCutFrom .start _ tags
  rw [← all.pieces] at segmentation
  have offsets : ∀ before token behind, tokens = before ++ token :: behind →
      token.place.offset = (textOf (before.map Token.piece)).length := by
    intro before token behind split
    rw [all.places before token behind split, Place.advance_offset]
    exact Nat.zero_add _
  refine ⟨tokens, success, ?_, offsets, ?_, ?_⟩
  · intro pieces
    constructor
    · intro other
      exact other.unique segmentation
    · rintro rfl
      exact segmentation
  · intro token among tag
    obtain ⟨before, behind, split⟩ := List.append_of_mem among
    refine ⟨?_, (all.values token among tag).bare, (all.values token among tag).trimmed⟩
    rw [offsets before token behind split]
    apply segmentation.tags _ _ (behind.map Token.piece)
    rw [split, List.map_append, List.map_cons, Token.piece_of_tag tag]
  · have filled : ∀ token ∈ tokens, token.raw ≠ "" := by
      intro token among empty
      apply segmentation.filled token.piece (List.mem_map_of_mem among)
      rw [Token.piece_raw, empty]
      rfl
    rw [Token.mapM_source? filled, Option.map_some]
    have covers := segmentation.covers
    rw [Token.textOf_pieces, String.toList_inj] at covers
    rw [covers]

end Logicless.Template
