import Logicless.Proofs.Template.Loose
import Mathlib.Data.List.Basic

/-!
Templates written anew from the canonical forms of their tokens. A canonical form may have other
braces than the tag it stands for, next to content that may itself end or start with braces; still
no tag starts inside the content, so that the tags of the new text are the canonical forms with
something between the braces. The new text says the same as the template, exactly if no token has a
name that is empty or that starts with a character of other meaning there.
-/

set_option autoImplicit false

namespace Logicless.Template

open Text Piece

/-! Tokens and their canonical forms -/

/-- What stands in front of the value in a canonical form. -/
def TokenKind.sigil : TokenKind → List Char
  | .comment => ['!']
  | .sectionOpen => ['#']
  | .sectionClose => ['/']
  | .invertedSection => ['^']
  | .content | .escapedVariable | .unescapedVariable | .foreign _ => []

/-- The number of braces on both sides of a canonical form. -/
def TokenKind.width : TokenKind → Nat
  | .unescapedVariable => 3
  | _ => 2

theorem TokenKind.width_eq (kind : TokenKind) :
    kind.width = 2 ∨ kind = .unescapedVariable ∧ kind.width = 3 := by
  cases kind with
  | unescapedVariable => exact .inr ⟨rfl, rfl⟩
  | _ => exact .inl rfl

theorem TokenKind.two_le_width (kind : TokenKind) : 2 ≤ kind.width := by
  rcases kind.width_eq with two | three <;> omega

theorem TokenKind.bare_sigil (kind : TokenKind) : Bare kind.sigil := by
  cases kind <;> simp [sigil, Bare]

namespace Token

/-- A token as if it was not cut from a text. -/
def uncut (token : Token) : Token := { token with raw := "" }

/-- What stands between the braces of the canonical form. -/
def inner (token : Token) : List Char := token.kind.sigil ++ token.value.toList

/-- The piece that the canonical form of a token is cut as. Braces around nothing are content. -/
def canonicalPiece (token : Token) : Piece :=
  if token.kind = .content then .content token.value.toList
  else if token.inner = [] then .content (fence token.kind.width [])
  else .tag (fence token.kind.width token.inner)

/-- The canonical forms of tokens, one behind the other. -/
def canonicalText? (tokens : List Token) : Option String :=
  ((tokens.map uncut).mapM source?).map String.join

/-- A variable whose canonical form is read as something else: without a name, or with a name that
starts with a character that has another meaning between these braces. -/
def IsDegenerate (token : Token) : Prop :=
  token.kind = .escapedVariable ∧
      (token.value = "" ∨ ∃ c ∈ ['#', '/', '^', '&', '!'], token.value.toList.head? = some c) ∨
    token.kind = .unescapedVariable ∧ (token.value = "" ∨ token.value.toList.head? = some '&')

theorem bare_inner {token : Token} (valued : ValueOf token.kind token.value.toList) :
    Bare token.inner := by
  intro c among
  rcases List.mem_append.mp among with inSigil | inValue
  · exact token.kind.bare_sigil c inSigil
  · exact valued.bare c inValue

theorem canonicalPiece_of_content {token : Token} (content : token.kind = .content) :
    token.canonicalPiece = .content token.value.toList := if_pos content

/-- Whatever piece it is, the canonical form of a tag is a fence. -/
theorem canonicalPiece_raw_of_tag {token : Token} (tag : token.kind ≠ .content) :
    token.canonicalPiece.raw = fence token.kind.width token.inner := by
  unfold canonicalPiece
  rw [if_neg tag]
  split
  · rename_i empty
    rw [empty]
    rfl
  · rfl

theorem source?_uncut {token : Token} (known : ∀ name, token.kind ≠ .foreign name) :
    token.uncut.source? = some (String.ofList token.canonicalPiece.raw) := by
  change canonicalForm? token.kind token.value = _
  by_cases content : token.kind = .content
  · rw [canonicalPiece_of_content content, content, Piece.raw, String.ofList_toList]
    rfl
  · rw [canonicalPiece_raw_of_tag content, inner]
    obtain ⟨kind, value, place, raw⟩ := token
    cases kind with
    | content => exact absurd rfl content
    | foreign name => exact absurd rfl (known name)
    | _ =>
        apply congrArg some
        rw [← String.toList_inj, String.toList_ofList]
        simp [fence, TokenKind.sigil, TokenKind.width, String.toList_append, List.replicate]

theorem canonicalText?_eq {tokens : List Token}
    (known : ∀ token ∈ tokens, ∀ name, token.kind ≠ .foreign name) :
    ∃ text, canonicalText? tokens = some text ∧
      text.toList = textOf (tokens.map canonicalPiece) := by
  have sources : (tokens.map uncut).mapM source? =
      some (tokens.map fun token => String.ofList token.canonicalPiece.raw) := by
    induction tokens with
    | nil => rfl
    | cons token rest ih =>
        rw [List.map_cons, List.mapM_cons, source?_uncut (known token List.mem_cons_self),
          ih fun other among => known other (List.mem_cons_of_mem _ among)]
        rfl
  refine ⟨_, by rw [canonicalText?, sources]; rfl, ?_⟩
  rw [String.toList_join, textOf, List.flatMap_map, List.flatMap_map]
  simp only [String.toList_ofList]

/-! What canonical forms say -/

/-- A name between two braces is that of a variable if it does not start with a sigil. -/
theorem classify_eq_escaped_iff {name : List Char} (trimmed : IsTrimmed name) :
    classify name = (.escapedVariable, name) ↔
      ¬ ∃ c ∈ ['#', '/', '^', '&', '!'], name.head? = some c := by
  constructor
  · rintro same ⟨c, sigil, starts⟩
    obtain ⟨later, rfl⟩ : ∃ later, name = c :: later := List.head?_eq_some_iff.mp starts
    simp only [List.mem_cons, List.not_mem_nil, or_false] at sigil
    rcases sigil with rfl | rfl | rfl | rfl | rfl <;> cases congrArg Prod.fst same
  · intro plain
    unfold classify
    split
    case h_6 => rw [trimmed.trim_eq]
    all_goals exact absurd ⟨_, by decide, rfl⟩ plain

theorem unescapedName_eq_iff {name : List Char} (trimmed : IsTrimmed name) :
    unescapedName name = name ↔ name.head? ≠ some '&' := by
  unfold unescapedName
  split
  · rename_i later
    refine ⟨fun same => ?_, fun plain => absurd rfl plain⟩
    have shorter := (trim_sublist later).length_le
    rw [same, List.length_cons] at shorter
    omega
  · rename_i plain
    refine ⟨fun _ starts => ?_, fun _ => trimmed.trim_eq⟩
    obtain ⟨later, rfl⟩ := List.head?_eq_some_iff.mp starts
    exact plain later rfl

/-- What the canonical form of a tag is read as, if it is not braces around nothing. -/
def reading (token : Token) : TokenKind × List Char :=
  if token.kind = .unescapedVariable then (.unescapedVariable, unescapedName token.inner)
  else classify token.inner

theorem tagMark?_of_filled {token : Token} (valued : ValueOf token.kind token.value.toList)
    (filled : token.inner ≠ []) :
    tagMark? token.canonicalPiece = some (token.reading.1, String.ofList token.reading.2) := by
  have bare := bare_inner valued
  unfold canonicalPiece reading
  rw [if_neg valued.inTag, if_neg filled]
  change (classifyTag? _).map _ = _
  rcases token.kind.width_eq with two | ⟨unescaped, three⟩
  · have escaped : token.kind ≠ .unescapedVariable := by
      intro unescaped
      rw [unescaped] at two
      cases two
    rw [two, (fencedBy_fence filled bare).classifyTag?_two, if_neg escaped]
    rfl
  · rw [three, (fencedBy_fence filled bare).classifyTag?_three, if_pos unescaped]
    rfl

theorem tagMark?_of_empty {token : Token} (tag : token.kind ≠ .content) (empty : token.inner = []) :
    tagMark? token.canonicalPiece = none := by
  unfold canonicalPiece
  rw [if_neg tag, if_pos empty]
  rfl

theorem isDegenerate_of_empty {token : Token} (tag : token.kind ≠ .content)
    (known : ∀ name, token.kind ≠ .foreign name) (empty : token.inner = []) :
    token.IsDegenerate := by
  obtain ⟨noSigil, noValue⟩ := List.append_eq_nil_iff.mp empty
  rw [String.toList_eq_nil_iff] at noValue
  cases kind : token.kind with
  | escapedVariable => exact .inl ⟨kind, .inl noValue⟩
  | unescapedVariable => exact .inr ⟨kind, .inl noValue⟩
  | content => exact absurd kind tag
  | foreign name => exact absurd kind (known name)
  | comment | sectionOpen | sectionClose | invertedSection =>
      rw [kind] at noSigil
      cases noSigil

theorem reading_eq_iff {token : Token} (valued : ValueOf token.kind token.value.toList)
    (known : ∀ name, token.kind ≠ .foreign name) (filled : token.inner ≠ []) :
    token.reading = (token.kind, token.value.toList) ↔ ¬ token.IsDegenerate := by
  obtain ⟨kind, value, place, raw⟩ := token
  have trimmed := valued.trimmed
  cases kind with
  | content => exact absurd rfl valued.inTag
  | foreign name => exact absurd rfl (known name)
  | comment => exact iff_of_true rfl (by rintro (⟨⟨⟩, -⟩ | ⟨⟨⟩, -⟩))
  | sectionOpen | sectionClose | invertedSection =>
      refine iff_of_true ?_ (by rintro (⟨⟨⟩, -⟩ | ⟨⟨⟩, -⟩))
      exact congrArg (Prod.mk _) (trimmed nofun).trim_eq
  | escapedVariable =>
      have named : value ≠ "" := fun empty => filled (String.toList_eq_nil_iff.mpr empty)
      refine (classify_eq_escaped_iff (trimmed nofun)).trans (not_congr ?_)
      simp only [IsDegenerate, named, true_and, false_or, reduceCtorEq, false_and, or_false]
  | unescapedVariable =>
      have named : value ≠ "" := fun empty => filled (String.toList_eq_nil_iff.mpr empty)
      rw [reading, if_pos rfl, Prod.mk.injEq, eq_self, true_and]
      refine (unescapedName_eq_iff (trimmed nofun)).trans (not_congr ?_)
      simp only [IsDegenerate, named, true_and, false_or, reduceCtorEq, false_and]

/-- The canonical form of a tag says what the tag says, but for degenerate variables. -/
theorem tagMark?_canonicalPiece_iff {token : Token}
    (valued : ValueOf token.kind token.value.toList)
    (known : ∀ name, token.kind ≠ .foreign name) :
    tagMark? token.canonicalPiece = some token.mark ↔ ¬ token.IsDegenerate := by
  by_cases empty : token.inner = []
  · rw [tagMark?_of_empty valued.inTag empty]
    exact iff_of_false nofun (not_not_intro (isDegenerate_of_empty valued.inTag known empty))
  · rw [tagMark?_of_filled valued empty, ← reading_eq_iff valued known empty, Option.some.injEq, mark,
      Prod.mk.injEq, Prod.ext_iff, ← String.toList_inj, String.toList_ofList]

/-! Tokens that are cut -/

/-- Tokens that are cut from the text of their pieces. -/
structure AreCut (tokens : List Token) : Prop where
  segmentation : Segmentation (textOf (tokens.map piece)) (tokens.map piece)
  marks : ∀ token ∈ tokens, token.piece.mark? = some token.mark

theorem areCut_of_tokenize {template : String} {tokens : List Token}
    (made : tokenize template = .ok tokens) : AreCut tokens := by
  have segmentation := segmentation_of_tokenize made
  have marks := marks_of_ofPieces made
  rw [← (allCutFrom_of_tokenize made).pieces, List.filterMap_map] at marks
  constructor
  · rwa [← segmentation.covers] at segmentation
  · exact List.filterMap_eq_map_iff_forall_eq_some.mp marks.symm

namespace AreCut

theorem tail {token : Token} {rest : List Token} (cut : AreCut (token :: rest)) : AreCut rest :=
  ⟨cut.segmentation.tail token.piece,
    fun other among => cut.marks other (List.mem_cons_of_mem _ among)⟩

theorem raw_ne_nil {tokens : List Token} {token : Token} (cut : AreCut tokens)
    (among : token ∈ tokens) : token.raw.toList ≠ [] := by
  rw [← piece_raw]
  exact cut.segmentation.filled token.piece (List.mem_map_of_mem among)

theorem value_of_content {tokens : List Token} {token : Token} (cut : AreCut tokens)
    (among : token ∈ tokens) (content : token.kind = .content) : token.value = token.raw := by
  have marked := cut.marks token among
  rw [piece_of_content content, mark?, String.ofList_toList] at marked
  exact (congrArg Prod.snd (Option.some.inj marked)).symm

/-- The form of a tag, with what it says. -/
theorem form_of_tag {tokens : List Token} {token : Token} (cut : AreCut tokens)
    (among : token ∈ tokens) (tag : token.kind ≠ .content) :
    ValueOf token.kind token.value.toList ∧
      (token.kind.width = 2 → ∃ inside, FencedBy 2 inside token.raw.toList) := by
  have isTag : IsTag token.raw.toList := by
    obtain ⟨before, behind, rfl⟩ := List.append_of_mem among
    refine (cut.segmentation.tags (before.map piece) _ (behind.map piece) ?_).1
    rw [List.map_append, List.map_cons, piece_of_tag tag]
  have marked := cut.marks token among
  rw [piece_of_tag tag, mark?] at marked
  obtain ⟨inside, two | three⟩ := isTag
  · rw [two.classifyTag?_two] at marked
    obtain ⟨kind, value⟩ := Prod.mk.inj (Option.some.inj marked)
    refine ⟨?_, fun _ => ⟨inside, two⟩⟩
    rw [← kind, ← value, String.toList_ofList]
    exact valueOf_classify two.bare
  · rw [three.classifyTag?_three] at marked
    obtain ⟨kind, value⟩ := Prod.mk.inj (Option.some.inj marked)
    rw [← kind, ← value, String.toList_ofList]
    refine ⟨valueOf_unescapedName three.bare, ?_⟩
    intro two
    cases two

/-- Behind tokens that are cut, their canonical forms start with a closing brace only where the
template does. -/
theorem starts_closing {tokens : List Token} (cut : AreCut tokens) {later : List Char}
    (closing : textOf (tokens.map canonicalPiece) = '}' :: later) :
    ∃ text, textOf (tokens.map piece) = '}' :: text := by
  cases tokens with
  | nil => cases closing
  | cons token rest =>
      rw [List.map_cons, textOf_cons] at closing
      by_cases content : token.kind = .content
      · rw [canonicalPiece_of_content content, Piece.raw,
          cut.value_of_content List.mem_cons_self content] at closing
        have filled := cut.raw_ne_nil List.mem_cons_self
        rw [List.map_cons, textOf_cons, piece_raw]
        cases raw : token.raw.toList with
        | nil => exact absurd raw filled
        | cons c more =>
            rw [raw, List.cons_append, List.cons.injEq] at closing
            rw [closing.1]
            exact ⟨_, rfl⟩
      · rw [canonicalPiece_raw_of_tag content] at closing
        have opened := congrArg List.head? closing
        rcases token.kind.width_eq with two | three
        · rw [two] at opened
          cases opened
        · rw [three.2] at opened
          cases opened

/-- No tag starts inside of content where canonical forms stand behind it: such a tag would have to
take the last brace of the content, and the one behind the form, for its own; but then it is a tag of
the template already. -/
theorem content_free {token : Token} {rest : List Token} (cut : AreCut (token :: rest))
    (content : token.kind = .content) :
    ∀ index < token.value.toList.length, ∀ tag,
      ¬ TagAt (token.value.toList ++ textOf (rest.map canonicalPiece)) index tag := by
  intro index starts tag stands
  have leads := cut.segmentation.leads
  rw [List.map_cons, textOf_cons, piece_of_content content, Piece.raw,
    ← cut.value_of_content List.mem_cons_self content] at leads
  obtain ⟨-, free, apart⟩ := leads
  cases rest with
  | nil =>
      exact free index starts tag stands
  | cons next later =>
      have nextTag : next.kind ≠ .content := by
        intro nextContent
        apply apart next.raw.toList (later.map piece)
        rw [List.map_cons, piece_of_content nextContent]
      rw [List.map_cons, textOf_cons, canonicalPiece_raw_of_tag nextTag] at stands
      obtain ⟨valued, narrow⟩ := cut.tail.form_of_tag List.mem_cons_self nextTag
      rcases stands.before_fence next.kind.two_le_width (bare_inner valued) starts with
        inside | ⟨brace, two, -, _, closing⟩
      · exact free index starts tag (inside.append_right _)
      · obtain ⟨inside, fenced⟩ := narrow two
        obtain ⟨text, opened⟩ := cut.tail.tail.starts_closing closing
        apply free index starts (fence 3 inside)
        refine ⟨⟨inside, .inr (fencedBy_fence fenced.nonempty fenced.bare)⟩, text, ?_⟩
        rw [List.drop_append_of_le_length (Nat.le_of_lt starts), brace, List.map_cons, textOf_cons,
          piece_raw, fenced.eq_fence, opened, fence_append, fence_append]
        rfl

theorem loose {tokens : List Token} (cut : AreCut tokens) : Loose (tokens.map canonicalPiece) := by
  induction tokens with
  | nil => exact .nil
  | cons token rest ih =>
      rw [List.map_cons]
      have later := ih cut.tail
      by_cases content : token.kind = .content
      · rw [canonicalPiece_of_content content]
        exact .content (cut.content_free content) later
      · obtain ⟨valued, -⟩ := cut.form_of_tag List.mem_cons_self content
        have wide := token.kind.two_le_width
        unfold canonicalPiece
        rw [if_neg content]
        split
        · exact .content (fun index starts _ => not_tagAt_empty_fence (by omega) starts) later
        · rename_i filled
          refine .tag ⟨token.inner, ?_⟩ later
          rcases token.kind.width_eq with two | three
          · rw [two]
            exact .inl (fencedBy_fence filled (bare_inner valued))
          · rw [three.2]
            exact .inr (fencedBy_fence filled (bare_inner valued))

/-- Pieces made of tokens say in their tags what the tokens say in theirs, if and only if each does so
by itself. -/
theorem filterMap_tagMark?_eq_iff {tokens : List Token} {made : Token → Piece}
    (silent : ∀ token ∈ tokens, token.kind = .content → tagMark? (made token) = none) :
    (tokens.map made).filterMap tagMark? = (tokens.map mark).filter (·.1 ≠ .content) ↔
      ∀ token ∈ tokens, token.kind ≠ .content → tagMark? (made token) = some token.mark := by
  have tagsOnly : tokens.filterMap (tagMark? ∘ made) =
      (tokens.filter (·.kind ≠ .content)).filterMap (tagMark? ∘ made) := by
    rw [List.filterMap_filter]
    apply List.filterMap_congr
    intro token among
    by_cases content : token.kind = .content
    · simp [content, silent token among]
    · simp [content]
  rw [List.filterMap_map, tagsOnly, List.filter_map]
  exact List.filterMap_eq_map_iff_forall_eq_some.trans (by simp [List.mem_filter])

/-- Tokens of the canonical text say what the tokens of the template say only if the canonical form of
each tag does so by itself. -/
theorem not_degenerate {tokens again : List Token} (cut : AreCut tokens) (cutAgain : AreCut again)
    (known : ∀ token ∈ tokens, ∀ name, token.kind ≠ .foreign name)
    (tags : (again.map piece).filterMap tag? = (tokens.map canonicalPiece).filterMap tag?)
    (same : again.map mark = tokens.map mark) : ∀ token ∈ tokens, ¬ token.IsDegenerate := by
  have againSpeaks :
      (again.map piece).filterMap tagMark? = (again.map mark).filter (·.1 ≠ .content) := by
    apply (filterMap_tagMark?_eq_iff _).mpr
    · intro token among tag
      rw [piece_of_tag tag]
      exact (congrArg mark? (piece_of_tag tag)).symm.trans (cutAgain.marks token among)
    · intro token _ content
      rw [piece_of_content content]
      rfl
  rw [filterMap_tagMark?, tags, ← filterMap_tagMark?, same] at againSpeaks
  have speaks := (filterMap_tagMark?_eq_iff fun token _ content => by
    rw [canonicalPiece_of_content content]
    rfl).mp againSpeaks
  intro token among degenerate
  have tag : token.kind ≠ .content := by
    rcases degenerate with ⟨kind, -⟩ | ⟨kind, -⟩ <;> rw [kind] <;> nofun
  have valued := (cut.form_of_tag among tag).1
  have sound := (tagMark?_canonicalPiece_iff valued (known token among)).mp (speaks token among tag)
  exact sound degenerate

section

variable {tokens : List Token} (cut : AreCut tokens)
  (known : ∀ token ∈ tokens, ∀ name, token.kind ≠ .foreign name)
  (sound : ∀ token ∈ tokens, ¬ token.IsDegenerate)

include cut known sound

theorem tagMark?_of_sound {token : Token} (among : token ∈ tokens) (tag : token.kind ≠ .content) :
    tagMark? token.canonicalPiece = some token.mark :=
  (tagMark?_canonicalPiece_iff (cut.form_of_tag among tag).1 (known token among)).mpr
    (sound token among)

/-- Where no variable is degenerate, only content is content in canonical form. -/
theorem content_of_canonicalPiece {token : Token} (among : token ∈ tokens) {raw : List Char}
    (content : token.canonicalPiece = .content raw) : token.kind = .content := by
  apply Decidable.byContradiction
  intro tag
  have said := cut.tagMark?_of_sound known sound among tag
  rw [content] at said
  cases said

/-- Where no variable is degenerate, the canonical forms are the pieces of their text. -/
theorem cut_canonical :
    Template.cut 0 [] (textOf (tokens.map canonicalPiece)) = tokens.map canonicalPiece := by
  apply cut.loose.cut_eq
  · intro piece inRow
    obtain ⟨token, among, rfl⟩ := List.mem_map.mp inRow
    by_cases content : token.kind = .content
    · rw [canonicalPiece_of_content content, cut.value_of_content among content]
      exact cut.raw_ne_nil among
    · rw [canonicalPiece_raw_of_tag content]
      exact fence_ne_nil (Nat.zero_lt_of_lt token.kind.two_le_width)
  · intro before first second behind split
    obtain ⟨front, rest, rfl, -, split⟩ := List.map_eq_append_iff.mp split
    obtain ⟨left, others, rfl, leftPiece, split⟩ := List.map_eq_cons_iff.mp split
    obtain ⟨right, later, rfl, rightPiece, -⟩ := List.map_eq_cons_iff.mp split
    have leftContent := cut.content_of_canonicalPiece known sound (by simp) leftPiece
    have rightContent := cut.content_of_canonicalPiece known sound (by simp) rightPiece
    apply cut.segmentation.apart (front.map piece) left.raw.toList right.raw.toList (later.map piece)
    rw [List.map_append, List.map_cons, List.map_cons, piece_of_content leftContent,
      piece_of_content rightContent]

theorem marks_canonical : (tokens.map canonicalPiece).filterMap mark? = tokens.map mark := by
  rw [List.filterMap_map]
  apply List.filterMap_eq_map_iff_forall_eq_some.mpr
  intro token among
  rw [Function.comp]
  by_cases content : token.kind = .content
  · rw [canonicalPiece_of_content content, mark?, String.ofList_toList, mark, content]
  · have said := cut.tagMark?_of_sound known sound among content
    cases piece : token.canonicalPiece with
    | content raw =>
        exact absurd (cut.content_of_canonicalPiece known sound among piece) content
    | tag raw =>
        rw [piece] at said
        exact said

end

end AreCut

/-- The canonical forms of the tokens of a template, one behind the other, are a template that says
the same, kind by kind and value by value, if and only if no token of the first one is a variable
whose name is empty or starts with a character that has another meaning there. -/
theorem tokenize_canonicalText (template : String) :
    ∃ tokens text again, tokenize template = .ok tokens ∧ canonicalText? tokens = some text ∧
      tokenize text = .ok again ∧
      (again.map mark = tokens.map mark ↔ ∀ token ∈ tokens, ¬ token.IsDegenerate) := by
  obtain ⟨tokens, made, -⟩ := tokenize_allCutFrom template
  have known := known_of_tokenize made
  obtain ⟨text, canonical, same⟩ := canonicalText?_eq known
  obtain ⟨again, madeAgain, cutAgain⟩ := tokenize_allCutFrom text
  have cut := areCut_of_tokenize made
  refine ⟨tokens, text, again, made, canonical, madeAgain, ?_, ?_⟩
  · apply cut.not_degenerate (areCut_of_tokenize madeAgain) known
    rw [cutAgain.pieces, same, cut.loose.tags_cut]
  · intro sound
    rw [marks_of_ofPieces madeAgain, same, cut.cut_canonical known sound,
      cut.marks_canonical known sound]

/-- Behind a brace, the tag of an unescaped variable gets a third one. -/
example : (tokenize "\x7b\x7b\x7b&x\x7d\x7d").toOption.bind canonicalText? =
    some "\x7b\x7b\x7b\x7bx\x7d\x7d\x7d" := by cbv

end Token

end Logicless.Template
