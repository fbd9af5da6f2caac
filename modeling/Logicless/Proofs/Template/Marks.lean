import Logicless.Proofs.Template.Tokens
import Logicless.Reported

/-!
What tokens say: their kinds and their values. It depends on the pieces that they are cut from and
not on the places where these stand, and a template gives tokens of the seven kinds alone.
-/

set_option autoImplicit false

namespace Logicless.Template

open Text Piece

/-- What a token says, wherever it stands. -/
def Token.mark (token : Token) : TokenKind × String := (token.kind, token.value)

def Piece.mark? : Piece → Option (TokenKind × String)
  | .content raw => some (.content, String.ofList raw)
  | .tag raw => (classifyTag? raw).map fun found => (found.1, String.ofList found.2)

theorem classify_ne_foreign (inside : List Char) (name : String) :
    (classify inside).1 ≠ .foreign name := by
  unfold classify
  split <;> nofun

theorem Piece.mark?_ne_foreign {piece : Piece} {mark : TokenKind × String}
    (marked : piece.mark? = some mark) (name : String) : mark.1 ≠ .foreign name := by
  cases piece with
  | content raw =>
      cases marked
      nofun
  | tag raw =>
      obtain ⟨found, classified, rfl⟩ := Option.map_eq_some_iff.mp marked
      unfold classifyTag? at classified
      split at classified
      · cases classified
        nofun
      · split at classified
        · cases classified
          exact classify_ne_foreign _ name
        · cases classified

namespace Token

theorem mark_of_ofPiece {place : Place} {piece : Piece} {token : Token}
    (made : ofPiece place piece = .ok token) : piece.mark? = some token.mark := by
  cases piece with
  | content raw =>
      cases made
      rfl
  | tag raw =>
      rw [ofPiece, ofTag] at made
      rw [Piece.mark?]
      split at made
      · rename_i found
        cases made
        rw [found]
        rfl
      · cases made

theorem ofPieces_cons_bind (place : Place) (piece : Piece) (pieces : List Piece) :
    ofPieces place (piece :: pieces) =
      (ofPiece place piece).bind fun token =>
        (ofPieces (place.advance piece.raw) pieces).bind fun tokens => .ok (token :: tokens) := by
  cases piece <;> rfl

/-- What tokens say depends on their pieces alone. -/
theorem marks_of_ofPieces {place : Place} {pieces : List Piece} {tokens : List Token}
    (made : ofPieces place pieces = .ok tokens) :
    tokens.map mark = pieces.filterMap Piece.mark? := by
  induction pieces generalizing place tokens with
  | nil =>
      cases made
      rfl
  | cons piece rest ih =>
      rw [ofPieces_cons_bind] at made
      obtain ⟨token, first, made⟩ := exists_of_bind_eq_ok made
      obtain ⟨later, behind, same⟩ := exists_of_bind_eq_ok made
      cases same
      rw [List.map_cons, List.filterMap_cons_some (mark_of_ofPiece first), ih behind]

end Token

theorem segmentation_of_cut (text : List Char) : Segmentation text (cut 0 [] text) :=
  segmentation_cut text [] nofun

/-- Every template is cut, and its tokens are those of its pieces. -/
theorem tokenize_allCutFrom (template : String) :
    ∃ tokens, tokenize template = .ok tokens ∧
      Token.AllCutFrom .start (cut 0 [] template.toList) tokens := by
  apply Token.ofPieces_allCutFrom
  intro raw among
  obtain ⟨before, behind, split⟩ := List.append_of_mem among
  exact ((segmentation_of_cut template.toList).tags before raw behind split).1

theorem Token.allCutFrom_of_tokenize {template : String} {tokens : List Token}
    (made : tokenize template = .ok tokens) :
    Token.AllCutFrom .start (cut 0 [] template.toList) tokens := by
  obtain ⟨others, same, all⟩ := tokenize_allCutFrom template
  rw [made] at same
  cases same
  exact all

/-- The pieces that the tokens of a template were cut from are its segmentation. -/
theorem Token.segmentation_of_tokenize {template : String} {tokens : List Token}
    (made : tokenize template = .ok tokens) :
    Segmentation template.toList (tokens.map Token.piece) := by
  rw [(allCutFrom_of_tokenize made).pieces]
  exact segmentation_of_cut template.toList

/-- The tokens of a template are of the seven kinds that templates hold. -/
theorem known_of_tokenize {template : String} {tokens : List Token}
    (made : tokenize template = .ok tokens) :
    ∀ token ∈ tokens, ∀ name, token.kind ≠ .foreign name := by
  intro token among name
  have inRow : token.mark ∈ (cut 0 [] template.toList).filterMap Piece.mark? := by
    rw [← Token.marks_of_ofPieces made]
    exact List.mem_map_of_mem among
  obtain ⟨piece, -, marked⟩ := List.mem_filterMap.mp inRow
  exact Piece.mark?_ne_foreign marked name

end Logicless.Template
