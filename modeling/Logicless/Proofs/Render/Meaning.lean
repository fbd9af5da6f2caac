import Logicless.Proofs.Template.Labels
import Logicless.Render.Renderer

/-!
What nodes show in given scopes, as a function of the nodes and the scopes alone. Rendering appends
the text that this function gives, ends with its error, and leaves the scopes as it found them.
-/

set_option autoImplicit false

namespace Logicless

open Template

/-- A text, and the error that ends it where it is not whole. -/
structure Shown where
  text : String
  failure : Option RenderError
deriving Repr, DecidableEq

namespace Shown

def nothing : Shown := ⟨"", none⟩

def ofText (text : String) : Shown := ⟨text, none⟩

def failing (error : RenderError) : Shown := ⟨"", some error⟩

def escaped (shown : Shown) : Shown := ⟨Text.escapeHtml shown.text, shown.failure⟩

/-- One behind the other. Nothing is shown behind a failure. -/
def andThen (first next : Shown) : Shown :=
  match first.failure with
  | none => ⟨first.text ++ next.text, next.failure⟩
  | some _ => first

def concat : List Shown → Shown
  | [] => nothing
  | first :: rest => first.andThen (concat rest)

def outcome (shown : Shown) : Except RenderError Unit :=
  match shown.failure with
  | none => .ok ()
  | some error => .error error

/-- The text that is shown, if it is whole. -/
def wholeText (shown : Shown) : Except RenderError String :=
  match shown.failure with
  | none => .ok shown.text
  | some error => .error error

/-- What a section shows for the value that its name is bound to in the innermost scope. -/
def ofBlock (name : String) (body : Scopes → Shown) (scopes : Scopes) : Option Document → Shown
  | none | some (.bool false) => nothing
  | some (.bool true) => body (scopes.push (.bool true))
  | some (.array _ items) => concat (items.map fun item => body (scopes.push item))
  | some other => failing (.sectionType name other.kind)

end Shown

/-- The text of the innermost member of that name, if it can be written, and nothing if there is no
such member. -/
def Scopes.variable (scopes : Scopes) (name : String) : Shown :=
  match scopes.lookup name with
  | some value => if value.isWritable then .ofText value.toText else .failing .unwritable
  | none => .nothing

namespace Template.Node

mutual

def shown : Node → Scopes → Shown
  | .content text, _ => .ofText text
  | .escaped name, scopes => (scopes.variable name).escaped
  | .unescaped name, scopes => scopes.variable name
  | .block name children, scopes =>
    .ofBlock name (shownAll children) scopes (scopes.top.get? name)
  | .unknown, _ => .failing (.node .unknown)

def shownAll : List Node → Scopes → Shown
  | [], _ => .nothing
  | first :: rest, scopes => (shown first scopes).andThen (shownAll rest scopes)

end

end Template.Node

namespace Shown

theorem nothing_andThen (next : Shown) : nothing.andThen next = next := by
  simp only [nothing, andThen, String.empty_append]

theorem andThen_nothing (first : Shown) : first.andThen nothing = first := by
  obtain ⟨text, failure⟩ := first
  cases failure with
  | none => simp only [nothing, andThen, String.append_empty]
  | some error => rfl

theorem andThen_assoc (first second third : Shown) :
    (first.andThen second).andThen third = first.andThen (second.andThen third) := by
  obtain ⟨text, failure⟩ := first
  cases failure with
  | some error => rfl
  | none =>
      obtain ⟨next, nextFailure⟩ := second
      cases nextFailure with
      | some error => rfl
      | none => simp only [andThen, String.append_assoc]

/-- Two bodies, each in scopes of its own, show the same in a section if they do for whatever the
section pushes. -/
theorem ofBlock_congr (name : String) {body twin : Scopes → Shown} {first second : Scopes}
    {value : Option Document}
    (once : body (first.push (.bool true)) = twin (second.push (.bool true)))
    (each : ∀ form items, value = some (.array form items) → ∀ item ∈ items,
      body (first.push item) = twin (second.push item)) :
    ofBlock name body first value = ofBlock name twin second value := by
  unfold ofBlock
  split
  · rfl
  · rfl
  · exact once
  · exact congrArg concat (List.map_congr_left (each _ _ rfl))
  · rfl

/-- Two texts are whole one behind the other if both are; else the first error counts. -/
theorem mapError_wholeText_andThen {ε : Type} (adapt : RenderError → ε) (first next : Shown) :
    (first.andThen next).wholeText.mapError adapt = (do
      let text ← first.wholeText.mapError adapt
      let more ← next.wholeText.mapError adapt
      return text ++ more) := by
  obtain ⟨text, failure⟩ := first
  cases failure with
  | some error => rfl
  | none =>
      obtain ⟨more, nextFailure⟩ := next
      cases nextFailure <;> rfl

end Shown

namespace Template.Node

theorem shownAll_append (first second : List Node) (scopes : Scopes) :
    shownAll (first ++ second) scopes = (shownAll first scopes).andThen (shownAll second scopes) := by
  induction first with
  | nil => exact (Shown.nothing_andThen _).symm
  | cons node rest ih => rw [List.cons_append, shownAll, shownAll, ih, Shown.andThen_assoc]

/-- Content may be cut anywhere. -/
theorem shownAll_content_append (left right : String) (rest : List Node) (scopes : Scopes) :
    shownAll (.content (left ++ right) :: rest) scopes =
      (shown (.content left) scopes).andThen (shownAll (.content right :: rest) scopes) := by
  simp only [shownAll, shown, ← Shown.andThen_assoc]
  rfl

end Template.Node

namespace Renderer

/-- Started in these scopes, a step of rendering appends the text that is shown, ends as that does,
and leaves the scopes as they were, also when it fails. -/
structure Shows (step : Renderer Unit) (scopes : Scopes) (shown : Shown) : Prop where
  text : (step scopes).1.text = shown.text
  result : (step scopes).1.result = shown.outcome
  restored : (step scopes).2 = scopes

theorem pure_shows (scopes : Scopes) : Shows (pure ()) scopes .nothing := ⟨rfl, rfl, rfl⟩

theorem emit_shows (text : String) (scopes : Scopes) : Shows (emit text) scopes (.ofText text) :=
  ⟨rfl, rfl, rfl⟩

theorem note_shows (notice : RenderNotice) (scopes : Scopes) :
    Shows (note notice) scopes .nothing := ⟨rfl, rfl, rfl⟩

theorem fail_shows (error : RenderError) (scopes : Scopes) :
    Shows (fail error) scopes (.failing error) := ⟨rfl, rfl, rfl⟩

section

variable {α β : Type} {scopes : Scopes} {shown : Shown}

/-- Reading the scopes appends nothing and changes nothing. -/
theorem demand_bind {question : Scopes → Except RenderError α} {answer : α}
    (answers : question scopes = .ok answer) (next : α → Renderer β) :
    (demand question >>= next) scopes = next answer scopes := by
  have read : demand question scopes = (⟨"", [], .ok answer⟩, scopes) := by rw [demand, answers]
  simp only [bind, read, String.empty_append, List.nil_append]

theorem demand_shows {question : Scopes → Except RenderError α} {answer : α}
    (answers : question scopes = .ok answer) {next : α → Renderer Unit}
    (shows : Shows (next answer) scopes shown) : Shows (demand question >>= next) scopes shown := by
  obtain ⟨text, result, restored⟩ := shows
  rw [← demand_bind answers next] at text result restored
  exact ⟨text, result, restored⟩

theorem demand_shows_failing {question : Scopes → Except RenderError α} {error : RenderError}
    (refuses : question scopes = .error error) (next : α → Renderer Unit) :
    Shows (demand question >>= next) scopes (.failing error) := by
  have read : demand question scopes = (⟨"", [], .error error⟩, scopes) := by rw [demand, refuses]
  constructor <;> simp only [bind, read] <;> rfl

/-- A text that is made of a variable's text is shown where that can be written. -/
theorem variableText_shows (name : String) {adapt : String → String} (blank : adapt "" = "")
    (scopes : Scopes) : Shows (do emit (adapt (← variableText name))) scopes
      ⟨adapt (scopes.variable name).text, (scopes.variable name).failure⟩ := by
  cases found : scopes.lookup name with
  | none =>
      have shown : scopes.variable name = .nothing := by rw [Scopes.variable, found]
      rw [shown]
      exact demand_shows (by rw [found]; rfl) (emit_shows _ scopes)
  | some value =>
      cases writable : value.isWritable with
      | true =>
          have shown : scopes.variable name = .ofText value.toText := by
            simp [Scopes.variable, found, writable]
          rw [shown]
          exact demand_shows (by simp [found, Document.text?, writable, Shown.ofText])
            (emit_shows _ scopes)
      | false =>
          have shown : scopes.variable name = .failing .unwritable := by
            simp [Scopes.variable, found, writable]
          rw [shown, Shown.failing, blank]
          exact demand_shows_failing (by simp [found, Document.text?, writable]) _

end

theorem bind_of_ok (first next : Renderer Unit) (scopes : Scopes)
    (success : (first scopes).1.result = .ok ()) :
    (first >>= fun _ => next) scopes =
      (⟨(first scopes).1.text ++ (next (first scopes).2).1.text,
        (first scopes).1.notices ++ (next (first scopes).2).1.notices,
        (next (first scopes).2).1.result⟩, (next (first scopes).2).2) := by
  rcases stepped : first scopes with ⟨⟨text, notices, result⟩, after⟩
  rw [stepped] at success
  cases success
  simp only [bind, stepped]

theorem bind_of_error (first next : Renderer Unit) (scopes : Scopes) (error : RenderError)
    (failed : (first scopes).1.result = .error error) :
    (first >>= fun _ => next) scopes = first scopes := by
  rcases stepped : first scopes with ⟨⟨text, notices, result⟩, after⟩
  rw [stepped] at failed
  cases failed
  simp only [bind, stepped]

/-- A step behind another one starts in the scopes in which that one started. -/
theorem bind_shows {first next : Renderer Unit} {scopes : Scopes} {before behind : Shown}
    (firstShows : Shows first scopes before) (nextShows : Shows next scopes behind) :
    Shows (first >>= fun _ => next) scopes (before.andThen behind) := by
  obtain ⟨text, failure⟩ := before
  cases failure with
  | none =>
      have whole := bind_of_ok first next scopes firstShows.result
      rw [firstShows.restored, firstShows.text] at whole
      refine ⟨?_, ?_, ?_⟩ <;> rw [whole]
      · exact congrArg (text ++ ·) nextShows.text
      · exact nextShows.result
      · exact nextShows.restored
  | some error =>
      have broken := bind_of_error first next scopes error firstShows.result
      refine ⟨?_, ?_, ?_⟩ <;> rw [broken]
      · exact firstShows.text
      · exact firstShows.result
      · exact firstShows.restored

/-- The scope that a step is given is still there when the step ends, and is left then. -/
theorem inScope_shows (value : Document) {step : Renderer Unit} {scopes : Scopes} {shown : Shown}
    (shows : Shows step (scopes.push value) shown) :
    Shows (inScope value step) scopes shown := by
  have left : inScope value step scopes = ((step (scopes.push value)).1, scopes) := by
    have restored := shows.restored
    rcases stepped : step (scopes.push value) with ⟨emission, after⟩
    rw [stepped] at restored
    change after = scopes.push value at restored
    simp only [inScope, Scopes.within, stepped, restored, Scopes.pop_push]
  refine ⟨?_, ?_, ?_⟩ <;> rw [left]
  · exact shows.text
  · exact shows.result

theorem forEach_shows (values : List Document) {step : Renderer Unit} {meaning : Scopes → Shown}
    (shows : ∀ scopes, Shows step scopes (meaning scopes)) (scopes : Scopes) :
    Shows (forEach values step) scopes
      (.concat (values.map fun value => meaning (scopes.push value))) := by
  induction values with
  | nil => exact pure_shows scopes
  | cons value rest ih => exact bind_shows (inScope_shows value (shows _)) ih

theorem block_shows (name : String) (value : Option Document) {body : Renderer Unit}
    {meaning : Scopes → Shown} (shows : ∀ scopes, Shows body scopes (meaning scopes))
    (scopes : Scopes) :
    Shows (block name value body) scopes (.ofBlock name meaning scopes value) := by
  cases value with
  | none => exact note_shows _ scopes
  | some value =>
      cases value with
      | bool value =>
          cases value with
          | false => exact pure_shows scopes
          | true => exact inScope_shows (.bool true) (shows _)
      | array form items => exact forEach_shows items shows scopes
      | null => exact fail_shows _ scopes
      | number numeral => exact fail_shows _ scopes
      | string text => exact fail_shows _ scopes
      | object members => exact fail_shows _ scopes

mutual

theorem node_shows (child : Node) (scopes : Scopes) :
    Shows (node child) scopes (child.shown scopes) := by
  match child with
  | .content text => exact emit_shows text scopes
  | .escaped name => exact variableText_shows name rfl scopes
  | .unescaped name => exact variableText_shows name rfl scopes
  | .block name children =>
      exact demand_shows rfl (block_shows name _ (nodes_shows children) scopes)
  | .unknown => exact fail_shows _ scopes

theorem nodes_shows (children : List Node) (scopes : Scopes) :
    Shows (nodes children) scopes (Node.shownAll children scopes) := by
  match children with
  | [] => exact pure_shows scopes
  | first :: rest => exact bind_shows (node_shows first scopes) (nodes_shows rest scopes)

end

end Renderer

def Scopes.AreWritable (scopes : Scopes) : Prop :=
  ∀ frame ∈ scopes.frames, frame.isWritable = true

namespace Shown

/-- The failures that nodes can show in given scopes: a section bound to another kind, an unknown
node, and a variable whose value cannot be written. Leaving a scope and reading the elements of an
array never fail. -/
def Fails (scopes : Scopes) (error : RenderError) : Prop :=
  (∃ name kind, error = .sectionType name kind ∧ kind ≠ .bool ∧ kind ≠ .array) ∨
    error = .node .unknown ∨
      error = .unwritable ∧ ¬ scopes.AreWritable

/-- Only failures of some kinds are shown. -/
def FailsOnly (allowed : RenderError → Prop) (shown : Shown) : Prop :=
  ∀ error, shown.failure = some error → allowed error

variable {allowed : RenderError → Prop}

theorem failsOnly_of_whole {shown : Shown} (whole : shown.failure = none) :
    shown.FailsOnly allowed := by
  intro error failed
  rw [whole] at failed
  cases failed

theorem andThen_failsOnly {first next : Shown} (one : first.FailsOnly allowed)
    (other : next.FailsOnly allowed) : (first.andThen next).FailsOnly allowed := by
  intro error failed
  unfold andThen at failed
  split at failed
  · exact other error failed
  · exact one error failed

theorem concat_failsOnly {parts : List Shown} (all : ∀ part ∈ parts, part.FailsOnly allowed) :
    (concat parts).FailsOnly allowed := by
  induction parts with
  | nil => exact failsOnly_of_whole rfl
  | cons first rest ih =>
      have later := ih fun part among => all part (List.mem_cons_of_mem _ among)
      exact andThen_failsOnly (all first List.mem_cons_self) later

theorem ofBlock_failsOnly (name : String) {body : Scopes → Shown} {scopes : Scopes}
    {value : Option Document}
    (sections : ∀ kind, kind ≠ .bool → kind ≠ .array → allowed (.sectionType name kind))
    (once : (body (scopes.push (.bool true))).FailsOnly allowed)
    (each : ∀ form items, value = some (.array form items) → ∀ item ∈ items,
      (body (scopes.push item)).FailsOnly allowed) :
    (ofBlock name body scopes value).FailsOnly allowed := by
  unfold ofBlock
  split
  · exact failsOnly_of_whole rfl
  · exact failsOnly_of_whole rfl
  · exact once
  · apply concat_failsOnly
    intro part among
    obtain ⟨item, member, rfl⟩ := List.mem_map.mp among
    exact each _ _ rfl item member
  · rename_i other notFalse notTrue notArray
    intro error failed
    cases failed
    apply sections <;> cases other <;> simp_all [Document.kind]

end Shown

/-! ### What cannot be written -/

namespace Document

theorem areWritable_eq_all (items : List Document) : areWritable items = items.all isWritable := by
  induction items with
  | nil => rfl
  | cons item rest ih => rw [areWritable, List.all_cons, ih]

theorem isWritable_of_lookup {members : List (String × Document)} {name : String}
    {value : Document} (found : members.lookup name = some value)
    (writable : membersAreWritable members = true) : value.isWritable = true := by
  induction members with
  | nil => cases found
  | cons first rest ih =>
      obtain ⟨other, here⟩ := first
      rw [membersAreWritable, Bool.and_eq_true] at writable
      rw [List.lookup_cons] at found
      split at found
      · cases found
        exact writable.1
      · exact ih found writable.2

theorem isWritable_of_get? {document value : Document} {name : String}
    (found : document.get? name = some value) (writable : document.isWritable = true) :
    value.isWritable = true := by
  cases document with
  | object members =>
      rw [isWritable] at writable
      exact isWritable_of_lookup found writable
  | null | bool | number | string | array => cases found

end Document

namespace Scopes

variable {scopes : Scopes} {name : String} {value : Document}

theorem areWritable_push :
    (scopes.push value).AreWritable ↔ value.isWritable = true ∧ scopes.AreWritable :=
  List.forall_mem_cons

theorem AreWritable.lookup (writable : scopes.AreWritable) (found : scopes.lookup name = some value) :
    value.isWritable = true := by
  obtain ⟨frame, among, owns⟩ := List.exists_of_findSome?_eq_some found
  exact Document.isWritable_of_get? owns (writable frame among)

theorem top_mem_frames (scopes : Scopes) : scopes.top ∈ scopes.frames := by
  obtain ⟨inner, root⟩ := scopes
  cases inner <;> exact List.mem_cons_self

/-- The elements that a section pushes come from the innermost scope. -/
theorem AreWritable.push_item (writable : scopes.AreWritable) {form : ArrayForm}
    {items : List Document} (found : scopes.top.get? name = some (.array form items))
    {item : Document} (among : item ∈ items) : (scopes.push item).AreWritable := by
  have array := Document.isWritable_of_get? found (writable _ scopes.top_mem_frames)
  rw [Document.isWritable, Document.areWritable_eq_all, List.all_eq_true] at array
  exact areWritable_push.mpr ⟨array item among, writable⟩

theorem variable_failsOnly {allowed : RenderError → Prop} (name : String)
    (long : ¬ scopes.AreWritable → allowed .unwritable) :
    (scopes.variable name).FailsOnly allowed := by
  unfold Scopes.variable
  split
  · rename_i value found
    split
    · exact Shown.failsOnly_of_whole rfl
    · rename_i hidden
      intro error failed
      cases failed
      exact long fun writable => hidden (writable.lookup found)
  · exact Shown.failsOnly_of_whole rfl

end Scopes

namespace Template.Node

variable {allowed : RenderError → Prop}

mutual

/-- Sections fail, unknown nodes do if there are any, and variables where the scopes hold what cannot
be written. -/
theorem shown_failsOnly
    (sections : ∀ name kind, kind ≠ .bool → kind ≠ .array → allowed (.sectionType name kind))
    (node : Node) (unknown : .unknown ∈ node.labels → allowed (.node .unknown)) (scopes : Scopes)
    (long : ¬ scopes.AreWritable → allowed .unwritable) : (node.shown scopes).FailsOnly allowed := by
  match node with
  | .content _ => exact Shown.failsOnly_of_whole rfl
  | .escaped name | .unescaped name => exact scopes.variable_failsOnly name long
  | .block name children =>
      have inside (scopes : Scopes) (long : ¬ scopes.AreWritable → allowed .unwritable) :
          (shownAll children scopes).FailsOnly allowed :=
        shownAll_failsOnly sections children
          (fun among => unknown (List.mem_cons_of_mem _ among)) scopes long
      refine Shown.ofBlock_failsOnly name (sections name) (inside _ fun hidden => long ?_) ?_
      · exact fun writable => hidden (Scopes.areWritable_push.mpr ⟨rfl, writable⟩)
      · intro form items bound item among
        exact inside _ fun hidden =>
          long fun writable => hidden (writable.push_item bound among)
  | .unknown =>
      intro error failed
      cases failed
      exact unknown List.mem_cons_self

theorem shownAll_failsOnly
    (sections : ∀ name kind, kind ≠ .bool → kind ≠ .array → allowed (.sectionType name kind))
    (nodes : List Node) (unknown : .unknown ∈ labelsOf nodes → allowed (.node .unknown))
    (scopes : Scopes) (long : ¬ scopes.AreWritable → allowed .unwritable) :
    (shownAll nodes scopes).FailsOnly allowed := by
  match nodes with
  | [] => exact Shown.failsOnly_of_whole rfl
  | first :: rest =>
      apply Shown.andThen_failsOnly
      · exact shown_failsOnly sections first (fun among => unknown (List.mem_append_left _ among))
          scopes long
      · exact shownAll_failsOnly sections rest (fun among => unknown (List.mem_append_right _ among))
          scopes long

end

theorem shownAll_sound (nodes : List Node) (scopes : Scopes) :
    (shownAll nodes scopes).FailsOnly (Shown.Fails scopes) :=
  shownAll_failsOnly (fun name kind notBool notArray => .inl ⟨name, kind, rfl, notBool, notArray⟩)
    nodes (fun _ => .inr (.inl rfl)) scopes fun hidden => .inr (.inr ⟨rfl, hidden⟩)

end Template.Node

/-- A template has the whole text that its nodes show for the document alone, or their error. -/
theorem render_result (nodes : List Node) (document : Document) :
    (render nodes document).result = (Node.shownAll nodes (.ofRoot document)).wholeText := by
  have shows := Renderer.nodes_shows nodes (.ofRoot document)
  change (Renderer.nodes nodes (.ofRoot document)).1.result.map
    (fun _ => (Renderer.nodes nodes (.ofRoot document)).1.text) = _
  rw [shows.result, shows.text, Shown.outcome, Shown.wholeText]
  split <;> rfl

/-- Rendering nodes appends what they show, ends as that ends, and leaves the scopes as they were,
whether it succeeds or fails. -/
theorem nodes_render_shownAll (children : List Node) (scopes : Scopes) :
    (Renderer.nodes children scopes).1.text = (Node.shownAll children scopes).text ∧
      (Renderer.nodes children scopes).1.result = (Node.shownAll children scopes).outcome ∧
      (Renderer.nodes children scopes).2 = scopes ∧
      (∀ error, (Renderer.nodes children scopes).1.result = .error error → Shown.Fails scopes error) := by
  have shows := Renderer.nodes_shows children scopes
  refine ⟨shows.text, shows.result, shows.restored, ?_⟩
  intro error failed
  rw [shows.result] at failed
  apply Node.shownAll_sound children scopes error
  unfold Shown.outcome at failed
  split at failed
  · cases failed
  · rename_i whole
    cases failed
    exact whole

end Logicless
