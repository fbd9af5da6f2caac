import Logicless.Template.Lexer

/-!
What a tag is, told by its form alone: a text without braces between two or between three braces on
both sides. The search for the tag that a text starts with finds exactly these, and no text starts
with two of them; every tag that is found has a kind and a value.
-/

set_option autoImplicit false

namespace Logicless.Template

def Bare (cs : List Char) : Prop := ∀ c ∈ cs, c ≠ '{' ∧ c ≠ '}'

/-- One or more characters that are not braces, between `width` braces on both sides. -/
structure FencedBy (width : Nat) (inside raw : List Char) : Prop where
  nonempty : inside ≠ []
  bare : Bare inside
  form : raw = run width '{' ++ inside ++ run width '}'

/-- The two forms of a tag. -/
def IsTag (raw : List Char) : Prop := ∃ inside, FencedBy 2 inside raw ∨ FencedBy 3 inside raw

/-- A tag occurs in a text, and starts at that index. -/
def TagAt (text : List Char) (index : Nat) (raw : List Char) : Prop :=
  IsTag raw ∧ raw <+: text.drop index

theorem bare_iff (cs : List Char) : Bare cs ↔ ∀ c ∈ cs, (!isBrace c) = true := by
  simp only [Bare, isBrace, Bool.not_eq_true', Bool.or_eq_false_iff, decide_eq_false_iff_not]

theorem isBrace_close : isBrace '}' = true := rfl

/-- In front of closing braces, the longest text without braces is the text inside. -/
theorem takeWhile_inside {width : Nat} (wide : 0 < width) {inside : List Char} (bare : Bare inside)
    (behind : List Char) :
    (inside ++ (run width '}' ++ behind)).takeWhile (!isBrace ·) = inside := by
  obtain ⟨width, rfl⟩ := Nat.exists_eq_succ_of_ne_zero (Nat.ne_of_gt wide)
  rw [List.takeWhile_append_of_pos ((bare_iff inside).mp bare), run, List.replicate_succ,
    List.cons_append, List.takeWhile_cons_of_neg (by simp [isBrace_close]), List.append_nil]

theorem fencedTag?_eq_some {width : Nat} (wide : 0 < width) {inside raw : List Char}
    (fenced : FencedBy width inside raw) (behind : List Char) :
    fencedTag? width (raw ++ behind) = some raw := by
  obtain ⟨nonempty, bare, rfl⟩ := fenced
  rw [List.append_assoc, List.append_assoc]
  have opened : (run width '{').isPrefixOf (run width '{' ++ (inside ++ (run width '}' ++ behind)))
      = true := List.isPrefixOf_iff_prefix.mpr (List.prefix_append _ _)
  have dropped : (run width '{' ++ (inside ++ (run width '}' ++ behind))).drop width =
      inside ++ (run width '}' ++ behind) :=
    List.drop_left' List.length_replicate
  have closed : (run width '}').isPrefixOf (run width '}' ++ behind) = true :=
    List.isPrefixOf_iff_prefix.mpr (List.prefix_append _ _)
  have filled : inside.isEmpty = false := List.isEmpty_eq_false_iff.mpr nonempty
  simp only [fencedTag?, opened, if_true, dropped, takeWhile_inside wide bare]
  rw [← List.drop_drop, dropped, List.drop_left, closed, filled]
  rfl

/-- What is found between braces has the form of a tag, and the text starts with it. -/
theorem fencedBy_of_fencedTag? {width : Nat} {cs raw : List Char}
    (found : fencedTag? width cs = some raw) :
    (∃ inside, FencedBy width inside raw) ∧ raw <+: cs := by
  unfold fencedTag? at found
  split at found
  · rename_i opened
    obtain ⟨text, rfl⟩ := List.isPrefixOf_iff_prefix.mp opened
    rw [List.drop_left' List.length_replicate] at found
    simp only [← List.drop_drop, List.drop_left' List.length_replicate] at found
    split at found
    · rename_i stands
      cases found
      rw [Bool.and_eq_true, Bool.not_eq_true', List.isEmpty_eq_false_iff] at stands
      obtain ⟨nonempty, closed⟩ := stands
      obtain ⟨behind, split⟩ := List.isPrefixOf_iff_prefix.mp closed
      refine ⟨⟨_, nonempty, ?_, rfl⟩, ?_⟩
      · rw [bare_iff]
        intro c inside
        exact List.all_eq_true.mp List.all_takeWhile c inside
      · rw [List.append_assoc, List.prefix_append_right_inj]
        refine ⟨behind, ?_⟩
        rw [List.append_assoc, split]
        exact List.prefix_iff_eq_append.mp (List.takeWhile_prefix _)
    · cases found
  · cases found

/-- A tag with two braces is not in front of a third one. -/
theorem FencedBy.not_three {inside raw : List Char} (two : FencedBy 2 inside raw)
    (behind : List Char) : ¬ run 3 '{' <+: raw ++ behind := by
  obtain ⟨nonempty, bare, rfl⟩ := two
  intro opened
  cases inside with
  | nil => exact nonempty rfl
  | cons c rest =>
      have third : '{' = c := by
        simpa only [run, List.replicate, List.cons_append, List.cons_prefix_cons, true_and,
          List.nil_append, List.nil_prefix, and_true] using opened
      exact (bare c (List.mem_cons_self ..)).1 third.symm

theorem FencedBy.opens {width : Nat} {inside raw : List Char} (fenced : FencedBy width inside raw)
    (behind : List Char) : run width '{' <+: raw ++ behind := by
  rw [fenced.form, List.append_assoc, List.append_assoc]
  exact List.prefix_append _ _

/-- The tag that is found in front of a text is the only tag there. -/
theorem tagAt?_eq_some_iff {cs raw : List Char} :
    tagAt? cs = some raw ↔ IsTag raw ∧ raw <+: cs := by
  unfold tagAt?
  rw [Option.or_eq_some_iff]
  constructor
  · rintro (two | ⟨_, three⟩)
    · obtain ⟨⟨inside, fenced⟩, starts⟩ := fencedBy_of_fencedTag? two
      exact ⟨⟨inside, .inl fenced⟩, starts⟩
    · obtain ⟨⟨inside, fenced⟩, starts⟩ := fencedBy_of_fencedTag? three
      exact ⟨⟨inside, .inr fenced⟩, starts⟩
  · rintro ⟨⟨inside, two | three⟩, behind, rfl⟩
    · exact .inl (fencedTag?_eq_some (by decide) two behind)
    · refine .inr ⟨?_, fencedTag?_eq_some (by decide) three behind⟩
      cases found : fencedTag? 2 (raw ++ behind) with
      | none => rfl
      | some other =>
          obtain ⟨⟨inside, fenced⟩, rest, split⟩ := fencedBy_of_fencedTag? found
          have opened := three.opens behind
          rw [← split] at opened
          exact absurd opened (fenced.not_three rest)

theorem TagAt.eq {text first second : List Char} {index : Nat} (one : TagAt text index first)
    (other : TagAt text index second) : first = second := by
  have found := tagAt?_eq_some_iff.mpr one
  rw [tagAt?_eq_some_iff.mpr other] at found
  exact (Option.some.inj found).symm

theorem TagAt.append_right {text : List Char} {index : Nat} {tag : List Char}
    (stands : TagAt text index tag) (behind : List Char) : TagAt (text ++ behind) index tag := by
  refine ⟨stands.1, ?_⟩
  rw [List.drop_append]
  exact stands.2.trans (List.prefix_append _ _)

theorem IsTag.ne_nil {raw : List Char} (tag : IsTag raw) : raw ≠ [] := by
  obtain ⟨inside, ⟨_, _, rfl⟩ | ⟨_, _, rfl⟩⟩ := tag
  · exact List.cons_ne_nil _ _
  · exact List.cons_ne_nil _ _

theorem FencedBy.interior_eq {width : Nat} {inside raw : List Char}
    (fenced : FencedBy width inside raw) : interior width raw = inside := by
  rw [fenced.form]
  unfold interior
  rw [List.append_assoc, List.drop_left' List.length_replicate]
  apply List.take_left'
  simp only [List.length_append, List.length_replicate]
  omega

theorem FencedBy.isFenced {width : Nat} {inside raw : List Char}
    (fenced : FencedBy width inside raw) : isFenced width raw = true := by
  rw [Template.isFenced, Bool.and_eq_true, List.isPrefixOf_iff_prefix, List.isSuffixOf_iff_suffix]
  constructor
  · have opened := fenced.opens []
    rwa [List.append_nil] at opened
  · rw [fenced.form]
    exact List.suffix_append _ _

/-- A value that can stand in a tag of that kind: without braces, and trimmed in all tags but
comments. -/
structure ValueOf (kind : TokenKind) (value : List Char) : Prop where
  inTag : kind ≠ .content
  bare : Bare value
  trimmed : kind ≠ .comment → Text.IsTrimmed value

theorem Bare.trim {cs : List Char} (bare : Bare cs) : Bare (Text.trim cs) :=
  fun c kept => bare c (Text.mem_of_mem_trim kept)

theorem Bare.tail {c : Char} {cs : List Char} (bare : Bare (c :: cs)) : Bare cs :=
  fun c later => bare c (List.mem_cons_of_mem _ later)

theorem valueOf_trim (kind : TokenKind) (inTag : kind ≠ .content) {name : List Char}
    (bare : Bare name) : ValueOf kind (Text.trim name) :=
  ⟨inTag, bare.trim, fun _ => Text.isTrimmed_trim name⟩

theorem valueOf_classify {inside : List Char} (bare : Bare inside) :
    ValueOf (classify inside).1 (classify inside).2 := by
  unfold classify
  split
  · exact valueOf_trim .sectionOpen (by decide) bare.tail
  · exact valueOf_trim .sectionClose (by decide) bare.tail
  · exact valueOf_trim .invertedSection (by decide) bare.tail
  · exact valueOf_trim .unescapedVariable (by decide) bare.tail
  · exact ⟨nofun, bare.tail, fun other => absurd rfl other⟩
  · exact valueOf_trim .escapedVariable (by decide) bare

theorem valueOf_unescapedName {inside : List Char} (bare : Bare inside) :
    ValueOf .unescapedVariable (unescapedName inside) := by
  unfold unescapedName
  split
  · exact valueOf_trim .unescapedVariable (by decide) bare.tail
  · exact valueOf_trim .unescapedVariable (by decide) bare

theorem FencedBy.classifyTag?_two {inside raw : List Char} (two : FencedBy 2 inside raw) :
    classifyTag? raw = some (classify inside) := by
  have notThree : Template.isFenced 3 raw = false := by
    have opened := two.not_three []
    rw [List.append_nil, ← List.isPrefixOf_iff_prefix, Bool.not_eq_true] at opened
    rw [Template.isFenced, opened, Bool.false_and]
  simp only [classifyTag?, notThree, two.isFenced, two.interior_eq, Bool.false_eq_true, if_false,
    if_true]

theorem FencedBy.classifyTag?_three {inside raw : List Char} (three : FencedBy 3 inside raw) :
    classifyTag? raw = some (.unescapedVariable, unescapedName inside) := by
  simp only [classifyTag?, three.isFenced, three.interior_eq, if_true]

/-- Every tag is classified. -/
theorem classifyTag?_of_isTag {raw : List Char} (tag : IsTag raw) :
    ∃ kind value, classifyTag? raw = some (kind, value) ∧ ValueOf kind value := by
  obtain ⟨inside, two | three⟩ := tag
  · exact ⟨_, _, two.classifyTag?_two, valueOf_classify two.bare⟩
  · exact ⟨_, _, three.classifyTag?_three, valueOf_unescapedName three.bare⟩

end Logicless.Template
