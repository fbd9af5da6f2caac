import Logicless.Render.Scopes
import Mathlib.Algebra.Order.Ring.Int
import Mathlib.Data.List.Infix

/-!
What can be done to scopes, and what is left of them. Steps push and pop as they like, look names
up, fail, catch failures, and open scopes for further steps. However they end, the frames move as a
list whose last one is never removed; and a scope whose steps undo what they do, and no more than
that, leaves no trace.
-/

set_option autoImplicit false

namespace Logicless

inductive ScopeStep where
  | push (value : Document)
  | pop
  | lookup (name : String)
  | lookupTop (name : String)
  /-- Fails for a reason that has nothing to do with the scopes. -/
  | fail
  /-- Steps inside a scope for a document. -/
  | scope (value : Document) (body : List ScopeStep)
  /-- Steps whose failure is caught. -/
  | attempt (body : List ScopeStep)

inductive Interruption where
  | scope (error : ScopeError)
  | other

/-- What is seen of a step. Opening a scope is seen as a push. -/
inductive ScopeEvent where
  | pushed (value : Document)
  | popped (value : Document)
  /-- A pop that failed. -/
  | refused (error : ScopeError)
  | found (value : Option Document)
  | failed
  /-- A scope is left: what interrupted the steps inside, and whether leaving failed. -/
  | left (interruption : Option Interruption) (error : Option ScopeError)

/-- An event with the frames behind it. -/
structure ScopeMoment where
  event : ScopeEvent
  frames : List Document

/-- The course of some steps: what is seen, what interrupts them, and the scopes at their end. -/
structure ScopeRun where
  moments : List ScopeMoment
  interruption : Option Interruption
  last : Scopes

namespace ScopeRun

/-- One event, after which the steps go on. -/
def single (event : ScopeEvent) (last : Scopes) : ScopeRun := ⟨[⟨event, last.frames⟩], none, last⟩

/-- One event that interrupts the steps. -/
def interrupted (event : ScopeEvent) (interruption : Interruption) (last : Scopes) : ScopeRun :=
  ⟨[⟨event, last.frames⟩], some interruption, last⟩

end ScopeRun

mutual

def ScopeStep.run : ScopeStep → Scopes → ScopeRun
  | .push value, scopes => .single (.pushed value) (scopes.push value)
  | .pop, scopes =>
    match scopes.pop with
    | .ok (value, outside) => .single (.popped value) outside
    | .error error => .interrupted (.refused error) (.scope error) scopes
  | .lookup name, scopes => .single (.found (scopes.lookup name)) scopes
  | .lookupTop name, scopes => .single (.found (scopes.lookupTop name)) scopes
  | .fail, scopes => .interrupted .failed .other scopes
  | .scope value body, scopes =>
    let ((inside, error), outside) := Scopes.within value
      (fun scopes => let run := ScopeStep.runAll body scopes; (run, run.last)) scopes
    ⟨⟨.pushed value, (scopes.push value).frames⟩ ::
        (inside.moments ++ [⟨.left inside.interruption error, outside.frames⟩]),
      (error.map .scope).or inside.interruption, outside⟩
  | .attempt body, scopes => { ScopeStep.runAll body scopes with interruption := none }

def ScopeStep.runAll : List ScopeStep → Scopes → ScopeRun
  | [], scopes => ⟨[], none, scopes⟩
  | step :: rest, scopes =>
    let first := step.run scopes
    match first.interruption with
    | some _ => first
    | none =>
      let others := ScopeStep.runAll rest first.last
      ⟨first.moments ++ others.moments, others.interruption, others.last⟩

end

/-- How an event moves a list of frames. One frame is added or removed at most; the root is never
removed, which fails, and fails only where the root is alone. -/
inductive FramesMove (root : Document) : List Document → ScopeEvent → List Document → Prop where
  | pushed (value : Document) (frames : List Document) :
    FramesMove root frames (.pushed value) (value :: frames)
  | popped (value : Document) {frames : List Document} (filled : frames ≠ []) :
    FramesMove root (value :: frames) (.popped value) frames
  | refused : FramesMove root [root] (.refused .atRoot) [root]
  | found (value : Option Document) (frames : List Document) :
    FramesMove root frames (.found value) frames
  | failed (frames : List Document) : FramesMove root frames .failed frames
  | left (interruption : Option Interruption) (value : Document) {frames : List Document}
    (filled : frames ≠ []) : FramesMove root (value :: frames) (.left interruption none) frames
  | kept (interruption : Option Interruption) :
    FramesMove root [root] (.left interruption (some .atRoot)) [root]

inductive FramesCourse (root : Document) :
    List Document → List ScopeMoment → List Document → Prop where
  | nil (frames : List Document) : FramesCourse root frames [] frames
  | cons {frames last : List Document} {moment : ScopeMoment} {moments : List ScopeMoment}
    (move : FramesMove root frames moment.event moment.frames)
    (rest : FramesCourse root moment.frames moments last) :
    FramesCourse root frames (moment :: moments) last

def ScopeEvent.change : ScopeEvent → Int
  | .pushed _ => 1
  | .popped _ => -1
  | .left _ none => -1
  | _ => 0

def ScopeMoment.net (moments : List ScopeMoment) : Int :=
  (moments.map fun moment => moment.event.change).sum

/-- Moments that remove as many frames as they add, and never more than they have added so far. -/
structure ScopeMoment.Balanced (moments : List ScopeMoment) : Prop where
  above : ∀ first, first <+: moments → 0 ≤ net first
  even : net moments = 0

namespace FramesCourse

open ScopeMoment

variable {root : Document} {frames last : List Document} {moments : List ScopeMoment}

theorem append {middle : List Document} {others : List ScopeMoment}
    (first : FramesCourse root frames moments middle) (next : FramesCourse root middle others last) :
    FramesCourse root frames (moments ++ others) last := by
  induction first with
  | nil => exact next
  | cons move _ ih => exact .cons move (ih next)

theorem single {event : ScopeEvent} (move : FramesMove root frames event last) :
    FramesCourse root frames [⟨event, last⟩] last := .cons move (.nil last)

/-- The root stays the last frame. -/
theorem root_last (course : FramesCourse root frames moments last)
    (before : frames.getLast? = some root) :
    ∀ moment ∈ moments, moment.frames.getLast? = some root := by
  induction course with
  | nil => exact nofun
  | @cons frames last moment moments move rest ih =>
      have now : moment.frames.getLast? = some root := by
        generalize moment.event = event at move
        generalize moment.frames = next at move
        cases move with
        | pushed value frames => rw [List.getLast?_cons, before, Option.getD_some]
        | popped value filled | left _ value filled =>
            obtain ⟨first, others, rfl⟩ := List.exists_cons_of_ne_nil filled
            rwa [List.getLast?_cons_cons] at before
        | refused | found | failed | kept => exact before
      intro other among
      rcases List.mem_cons.mp among with rfl | later
      · exact now
      · exact ih now other later

end FramesCourse

/-- An event that does not remove more frames than stand above some others leaves these alone. -/
theorem FramesMove.exists_added {root : Document} {frames next : List Document} {event : ScopeEvent}
    (move : FramesMove root frames event next) {added base : List Document}
    (split : frames = added ++ base) (above : 0 ≤ added.length + event.change) :
    ∃ others, next = others ++ base ∧ (others.length : Int) = added.length + event.change := by
  cases move with
  | pushed value frames =>
      refine ⟨value :: added, by rw [split, List.cons_append], ?_⟩
      rw [ScopeEvent.change, List.length_cons, Nat.cast_succ]
  | popped value filled | left _ value filled =>
      cases added with
      | nil =>
          rw [ScopeEvent.change, List.length_nil] at above
          omega
      | cons first others =>
          rw [List.cons_append, List.cons.injEq] at split
          refine ⟨others, split.2, ?_⟩
          rw [ScopeEvent.change, List.length_cons, Nat.cast_succ]
          omega
  | refused | found | failed | kept => exact ⟨added, split, (add_zero _).symm⟩

namespace FramesCourse

open ScopeMoment

variable {root : Document} {frames last : List Document} {moments : List ScopeMoment}

theorem exists_added (course : FramesCourse root frames moments last) {added base : List Document}
    (split : frames = added ++ base)
    (above : ∀ first, first <+: moments → 0 ≤ added.length + net first) :
    ∃ others, last = others ++ base ∧ (others.length : Int) = added.length + net moments := by
  induction course generalizing added with
  | nil => exact ⟨added, split, (add_zero _).symm⟩
  | @cons frames last moment moments move rest ih =>
      have one : net [moment] = moment.event.change := add_zero _
      have first := above [moment] (List.prefix_append [moment] moments)
      rw [one] at first
      obtain ⟨others, stands, count⟩ := move.exists_added split first
      have later : ∀ first, first <+: moments → 0 ≤ others.length + net first := by
        intro first starts
        have total := above (moment :: first) (List.cons_prefix_cons.mpr ⟨rfl, starts⟩)
        have sum : net (moment :: first) = moment.event.change + net first := List.sum_cons
        omega
      obtain ⟨final, ends, total⟩ := ih stands later
      have sum : net (moment :: moments) = moment.event.change + net moments := List.sum_cons
      exact ⟨final, ends, by omega⟩

/-- Balanced moments lead back to the frames at their start. -/
theorem eq_of_balanced (course : FramesCourse root frames moments last)
    (balanced : Balanced moments) : last = frames := by
  have above : ∀ first, first <+: moments → 0 ≤ ([] : List Document).length + net first := by
    intro first starts
    have positive := balanced.above first starts
    rwa [List.length_nil, Nat.cast_zero, zero_add]
  obtain ⟨others, ends, count⟩ := course.exists_added (List.nil_append frames).symm above
  rw [balanced.even, List.length_nil, Nat.cast_zero, add_zero, Nat.cast_eq_zero,
    List.length_eq_zero_iff] at count
  rw [ends, count, List.nil_append]

end FramesCourse

namespace Scopes

variable {scopes : Scopes}

theorem frames_ne_nil (scopes : Scopes) : scopes.frames ≠ [] :=
  List.append_ne_nil_of_right_ne_nil _ (List.cons_ne_nil _ _)

theorem frames_inj {other : Scopes} (same : scopes.frames = other.frames) : scopes = other := by
  obtain ⟨inner, root⟩ := scopes
  obtain ⟨otherInner, otherRoot⟩ := other
  obtain ⟨rfl, last⟩ := List.append_inj' same rfl
  cases last
  rfl

/-- Popping removes the first frame; it fails where the root is alone. -/
theorem pop_cases (scopes : Scopes) :
    (scopes.pop = .error .atRoot ∧ scopes.frames = [scopes.root]) ∨
      ∃ value outside, scopes.pop = .ok (value, outside) ∧ scopes.frames = value :: outside.frames ∧
        outside.root = scopes.root := by
  obtain ⟨inner, root⟩ := scopes
  cases inner with
  | nil => exact .inl ⟨rfl, rfl⟩
  | cons value rest => exact .inr ⟨value, ⟨rest, root⟩, rfl, rfl, rfl⟩

end Scopes

namespace ScopeStep

open ScopeMoment

/-- The frames of a run move lawfully, above a root that stays. -/
structure Follows (scopes : Scopes) (run : ScopeRun) : Prop where
  course : FramesCourse scopes.root scopes.frames run.moments run.last.frames
  root : run.last.root = scopes.root

/-- What a scope does, by what its steps do and by how it is left. -/
theorem run_scope (value : Document) (body : List ScopeStep) (scopes : Scopes) :
    let inside := runAll body (scopes.push value)
    let enter : ScopeMoment := ⟨.pushed value, (scopes.push value).frames⟩
    (inside.last.pop = .error .atRoot ∧ (scope value body).run scopes =
      ⟨enter :: (inside.moments ++ [⟨.left inside.interruption (some .atRoot), inside.last.frames⟩]),
        some (.scope .atRoot), inside.last⟩) ∨
    ∃ top outside, inside.last.pop = .ok (top, outside) ∧ (scope value body).run scopes =
      ⟨enter :: (inside.moments ++ [⟨.left inside.interruption none, outside.frames⟩]),
        inside.interruption, outside⟩ := by
  intro inside enter
  cases popped : inside.last.pop with
  | error error =>
      cases error
      refine .inl ⟨rfl, ?_⟩
      simp only [run, Scopes.within, inside] at popped ⊢
      rw [popped]
      rfl
  | ok both =>
      obtain ⟨top, outside⟩ := both
      refine .inr ⟨top, outside, rfl, ?_⟩
      simp only [run, Scopes.within, inside] at popped ⊢
      rw [popped]
      rfl

mutual

theorem run_follows (step : ScopeStep) (scopes : Scopes) : Follows scopes (step.run scopes) := by
  match step with
  | .push value => exact ⟨.single (.pushed value _), rfl⟩
  | .pop =>
      rw [run]
      rcases scopes.pop_cases with ⟨refused, alone⟩ | ⟨value, outside, popped, split, root⟩
      · rw [refused]
        refine ⟨.single ?_, rfl⟩
        rw [alone]
        exact .refused
      · rw [popped]
        refine ⟨.single ?_, root⟩
        rw [split]
        exact .popped value outside.frames_ne_nil
  | .lookup name => exact ⟨.single (.found _ _), rfl⟩
  | .lookupTop name => exact ⟨.single (.found _ _), rfl⟩
  | .fail => exact ⟨.single (.failed _), rfl⟩
  | .scope value body =>
      have inside := runAll_follows body (scopes.push value)
      have root : (runAll body (scopes.push value)).last.root = scopes.root := inside.root
      have entered : FramesCourse scopes.root scopes.frames
          (⟨.pushed value, (scopes.push value).frames⟩ ::
            (runAll body (scopes.push value)).moments)
          (runAll body (scopes.push value)).last.frames := .cons (.pushed value _) inside.course
      rcases run_scope value body scopes with ⟨refused, ran⟩ | ⟨top, outside, popped, ran⟩
      · rw [ran]
        refine ⟨entered.append (.single ?_), root⟩
        rcases Scopes.pop_cases (runAll body (scopes.push value)).last with
          ⟨-, alone⟩ | ⟨_, _, popped, -⟩
        · rw [alone, root]
          exact .kept _
        · rw [refused] at popped
          cases popped
      · rw [ran]
        rcases Scopes.pop_cases (runAll body (scopes.push value)).last with
          ⟨refused, -⟩ | ⟨_, _, same, split, stays⟩
        · rw [popped] at refused
          cases refused
        · rw [popped] at same
          cases same
          refine ⟨entered.append (.single ?_), stays.trans root⟩
          rw [split]
          exact .left _ top outside.frames_ne_nil
  | .attempt body =>
      have inside := runAll_follows body scopes
      exact ⟨inside.course, inside.root⟩

theorem runAll_follows (steps : List ScopeStep) (scopes : Scopes) :
    Follows scopes (runAll steps scopes) := by
  match steps with
  | [] => exact ⟨.nil _, rfl⟩
  | step :: rest =>
      have first := run_follows step scopes
      rw [runAll]
      split
      · exact first
      · have others := runAll_follows rest (step.run scopes).last
        refine ⟨first.course.append ?_, others.root.trans first.root⟩
        rw [← first.root]
        exact others.course

end

/-- Whatever is done to scopes that start with a root alone, the frames move lawfully from each moment
to the next, and behind each moment the root is the last of them. A scope with balanced steps inside
is left as if nothing had been done, and is interrupted by nothing but its steps. -/
theorem runAll_frames (root : Document) (steps : List ScopeStep) :
    FramesCourse root [root] (runAll steps (.ofRoot root)).moments
      (runAll steps (.ofRoot root)).last.frames ∧
    (∀ moment ∈ (runAll steps (.ofRoot root)).moments, moment.frames.getLast? = some root) ∧
    ∀ scopes value body, Balanced (runAll body (scopes.push value)).moments →
      ((scope value body).run scopes).last = scopes ∧
      ((scope value body).run scopes).interruption =
        (runAll body (scopes.push value)).interruption := by
  have follows := runAll_follows steps (.ofRoot root)
  refine ⟨follows.course, follows.course.root_last rfl, ?_⟩
  intro scopes value body balanced
  have inside := runAll_follows body (scopes.push value)
  have back : (runAll body (scopes.push value)).last = scopes.push value :=
    Scopes.frames_inj (inside.course.eq_of_balanced balanced)
  have popped : (runAll body (scopes.push value)).last.pop = .ok (value, scopes) := by
    rw [back, Scopes.pop_push]
  rcases run_scope value body scopes with ⟨refused, -⟩ | ⟨top, outside, same, ran⟩
  · rw [popped] at refused
    cases refused
  · rw [popped] at same
    cases same
    rw [ran]
    exact ⟨rfl, rfl⟩

/-- A failure inside a scope that undoes its own push is seen outside, with the scopes as they were. -/
theorem runAll_frames_undone :
    let body := [.push .null, .pop, .fail]
    let scopes := (Scopes.ofRoot .null).push (.bool false)
    Balanced (runAll body (scopes.push (.bool true))).moments ∧
      ((scope (.bool true) body).run scopes).last = scopes ∧
      ((scope (.bool true) body).run scopes).interruption = some .other := by
  intro body scopes
  have above : ∀ first ∈ (runAll body (scopes.push (.bool true))).moments.inits, 0 ≤ net first := by
    decide
  have balanced : Balanced (runAll body (scopes.push (.bool true))).moments :=
    ⟨fun first start => above first ((List.mem_inits _ _).mpr start), by decide⟩
  obtain ⟨-, -, left⟩ := runAll_frames .null []
  obtain ⟨restored, passedOn⟩ := left scopes (.bool true) body balanced
  exact ⟨balanced, restored, passedOn⟩

/-- A push that is not undone is left in the place of the scope's own frame. -/
example :
    ((scope (.bool true) [.push .null]).run (.ofRoot .null)).last.frames = [.bool true, .null] := rfl

end ScopeStep

end Logicless
