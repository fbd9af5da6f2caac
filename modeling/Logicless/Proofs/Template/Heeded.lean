import Logicless.Template.Parse

/-!
Tokens that a parse passes over: comments and the opening tags of inverted sections. Wherever they
stand, a parse without them keeps pace with the parse of all tokens. It comes to the same nodes, or to
the same error at the same token, and it gives the same notices but for those of the inverted sections
themselves.
-/

set_option autoImplicit false

namespace Logicless.Template

open Reported

/-- Whether a parse does anything with a token other than passing over it. -/
def Token.isHeeded (token : Token) : Bool :=
  match token.kind with
  | .comment | .invertedSection => false
  | .content | .escapedVariable | .unescapedVariable | .sectionOpen | .sectionClose
  | .foreign _ => true

def heeded (tokens : List Token) : List Token := tokens.filter Token.isHeeded

@[simp] theorem heeded_nil : heeded [] = [] := rfl

theorem heeded_cons_of_heeded {token : Token} (matters : token.isHeeded = true) (rest : List Token) :
    heeded (token :: rest) = token :: heeded rest := List.filter_cons_of_pos matters

theorem heeded_cons_of_not_heeded {token : Token} (idle : token.isHeeded = false)
    (rest : List Token) : heeded (token :: rest) = heeded rest := by
  rw [heeded, List.filter_cons, idle]
  rfl

/-- Whether a notice is about something other than the opening tag of an inverted section. -/
def ParseNotice.isHeeded : ParseNotice → Bool
  | .invertedDropped _ => false
  | .closeDiscarded .. | .closedAtEnd _ => true

/-- Two results with related values, or with the same error. -/
inductive SameOutcome {ε α β : Type} (related : α → β → Prop) : Except ε α → Except ε β → Prop where
  | ok {value : α} {other : β} (holds : related value other) :
    SameOutcome related (.ok value) (.ok other)
  | error (failure : ε) : SameOutcome related (.error failure) (.error failure)

theorem SameOutcome.eq {ε α : Type} {result other : Except ε α} (same : SameOutcome Eq result other) :
    result = other := by
  cases same with
  | ok holds => rw [holds]
  | error failure => rfl

/-- A parse keeps pace with another one that passes over more: their outcomes are the same, and so are
their notices but for those of dropped inverted sections. -/
structure KeepsPace {α β : Type} (related : α → β → Prop) (fewer : Reported ParseNotice ParseError α)
    (all : Reported ParseNotice ParseError β) : Prop where
  notices : fewer.notices = all.notices.filter ParseNotice.isHeeded
  outcome : SameOutcome related fewer.result all.result

namespace KeepsPace

variable {α β γ δ : Type} {related : α → β → Prop} {relatedNext : γ → δ → Prop}
  {fewer : Reported ParseNotice ParseError α} {all : Reported ParseNotice ParseError β}

protected theorem pure {value : α} {other : β} (holds : related value other) :
    KeepsPace related (pure value) (pure other) := ⟨rfl, .ok holds⟩

protected theorem fail (error : ParseError) :
    KeepsPace related (fail error) (fail error) := ⟨rfl, .error error⟩

/-- Parses that keep pace do so however they go on, if they then do from related values. -/
protected theorem bind {next : α → Reported ParseNotice ParseError γ}
    {nextAll : β → Reported ParseNotice ParseError δ} (pace : KeepsPace related fewer all)
    (onward : ∀ value other, related value other →
      KeepsPace relatedNext (next value) (nextAll other)) :
    KeepsPace relatedNext (fewer >>= next) (all >>= nextAll) := by
  obtain ⟨notices, outcome⟩ := pace
  obtain ⟨fewerNotices, fewerResult⟩ := fewer
  obtain ⟨allNotices, allResult⟩ := all
  cases outcome with
  | error failure => exact ⟨notices, .error failure⟩
  | @ok value other holds =>
      have behind := onward value other holds
      refine ⟨?_, behind.outcome⟩
      calc fewerNotices ++ (next value).notices
        _ = allNotices.filter ParseNotice.isHeeded ++
            (nextAll other).notices.filter ParseNotice.isHeeded := by rw [← behind.notices, ← notices]
        _ = (allNotices ++ (nextAll other).notices).filter ParseNotice.isHeeded :=
            (List.filter_append _ _).symm

/-- Both parses give a notice. -/
theorem note_both {notice : ParseNotice} (matters : notice.isHeeded = true)
    (pace : KeepsPace related fewer all) :
    KeepsPace related (note notice >>= fun _ => fewer) (note notice >>= fun _ => all) := by
  have kept : [notice].filter ParseNotice.isHeeded = [notice] := List.filter_cons_of_pos matters
  have given : KeepsPace (fun _ _ => True) (note notice) (note notice) := ⟨kept.symm, .ok trivial⟩
  exact given.bind fun _ _ _ => pace

/-- Only the parse of all tokens gives a notice, of an inverted section that it drops. -/
theorem note_inverted (token : Token) (pace : KeepsPace related fewer all) :
    KeepsPace related fewer (note (.invertedDropped token) >>= fun _ => all) :=
  ⟨pace.notices, pace.outcome⟩

/-- Only the parse of all tokens goes on, to a value that it makes of the one it has. -/
theorem pure_right {relatedLater : α → δ → Prop} {later : β → δ} (pace : KeepsPace related fewer all)
    (onward : ∀ value other, related value other → relatedLater value (later other)) :
    KeepsPace relatedLater fewer (all >>= fun other => pure (later other)) := by
  rw [← bind_pure_self fewer]
  exact pace.bind fun value other holds => .pure (onward value other holds)

end KeepsPace

/-- Two ends of a section: the nodes are the same, and of the tokens behind one of them the other has
those that matter. -/
structure Ended.Matches {bound wider : Nat} (fewer : Ended bound) (all : Ended wider) : Prop where
  children : fewer.children = all.children
  rest : fewer.rest = heeded all.rest

/-- A section without the tokens that are passed over keeps pace with the section, and so does what
stands behind it. The induction follows the parser, so that it applies to a section inside another one
and then to the rest of that one. -/
theorem parseSection_heeded (closing : Closing) (name : String) (tokens : List Token) :
    KeepsPace Ended.Matches (parseSection closing name (heeded tokens))
      (parseSection closing name tokens) := by
  induction name, tokens using parseSection.induct closing with
  | case1 name named =>
      rw [heeded_nil, parseSection, if_pos named]
      exact .note_both rfl (.pure ⟨rfl, rfl⟩)
  | case2 name unnamed =>
      rw [heeded_nil, parseSection, if_neg unnamed]
      exact .pure ⟨rfl, rfl⟩
  | case3 name token rest kind ih | case4 name token rest kind ih | case5 name token rest kind ih =>
      rw [heeded_cons_of_heeded (by rw [Token.isHeeded, kind])]
      unfold parseSection
      simp only [kind]
      refine ih.bind fun ended other same => .pure ⟨?_, same.rest⟩
      exact congrArg _ same.children
  | case6 name token rest kind ih =>
      -- Only the parse of all tokens meets this one.
      rw [heeded_cons_of_not_heeded (by rw [Token.isHeeded, kind]),
        parseSection.eq_def closing name (token :: rest)]
      simp only [kind]
      exact ih.pure_right fun ended other same => ⟨same.children, same.rest⟩
  | case7 name token rest kind ih =>
      rw [heeded_cons_of_not_heeded (by rw [Token.isHeeded, kind]),
        parseSection.eq_def closing name (token :: rest)]
      simp only [kind]
      exact .note_inverted token <|
        ih.pure_right fun ended other same => ⟨same.children, same.rest⟩
  | case8 name token rest kind inner outer =>
      rw [heeded_cons_of_heeded (by rw [Token.isHeeded, kind])]
      unfold parseSection
      simp only [kind]
      refine inner.bind fun entered others first => ?_
      -- Both parses go on behind the inner section; what the first one finds there is what is heeded of
      -- what the other one finds.
      have behind := outer others
      rw [← first.rest] at behind
      refine behind.bind fun ended other same => .pure ⟨?_, same.rest⟩
      rw [first.children, same.children]
  | case9 token rest kind =>
      rw [heeded_cons_of_heeded (by rw [Token.isHeeded, kind])]
      unfold parseSection
      simp only [kind, ↓reduceIte]
      exact .pure ⟨rfl, rfl⟩
  | case10 name token rest kind other strict =>
      rw [heeded_cons_of_heeded (by rw [Token.isHeeded, kind])]
      unfold parseSection
      simp only [kind, other, strict, ↓reduceIte]
      exact .fail _
  | case11 name token rest kind other lenient ih =>
      rw [heeded_cons_of_heeded (by rw [Token.isHeeded, kind])]
      unfold parseSection
      simp only [kind, other, lenient, ↓reduceIte, Bool.false_eq_true]
      refine .note_both rfl (ih.bind fun ended others same => ?_)
      exact .pure ⟨same.children, same.rest⟩
  | case12 name token rest foreign kind =>
      rw [heeded_cons_of_heeded (by rw [Token.isHeeded, kind])]
      unfold parseSection
      simp only [kind]
      exact .fail _

/-- A parse passes over comments and opening tags of inverted sections wherever they stand and however
closing tags are treated: without them it has the same outcome, which is the same nodes or the same
error at the same token. Of its notices it only lacks those of the inverted sections. -/
theorem parseTokens_heeded (closing : Closing) (tokens : List Token) :
    (parseTokens closing (heeded tokens)).result = (parseTokens closing tokens).result ∧
      (parseTokens closing (heeded tokens)).notices =
        (parseTokens closing tokens).notices.filter ParseNotice.isHeeded := by
  have pace : KeepsPace Eq (parseTokens closing (heeded tokens)) (parseTokens closing tokens) :=
    (parseSection_heeded closing "" tokens).bind fun ended other same => .pure same.children
  exact ⟨pace.outcome.eq, pace.notices⟩

end Logicless.Template
