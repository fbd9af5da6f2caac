import Logicless.Proofs.Document.Indented

/-!
Data written as JSON and read again. Data that JSON can express, with numbers that are spelled as in
JSON, come back with the same kinds, names, elements and texts, whether they are written in one line
or laid out over lines.
-/

set_option autoImplicit false

namespace Logicless

open Json Number

/-- What can be seen of a document: the kinds and texts of its scalars, its elements in order and
its members with their names in order. -/
inductive Appearance where
  | scalar (kind : Kind) (text : String)
  | array (items : List Appearance)
  | object (members : List (String × Appearance))

namespace Document

mutual

def appearance : Document → Appearance
  | .array _ items => .array (itemAppearances items)
  | .object members => .object (memberAppearances members)
  | other => .scalar other.kind other.toText

def itemAppearances : List Document → List Appearance
  | [] => []
  | item :: rest => appearance item :: itemAppearances rest

def memberAppearances : List (String × Document) → List (String × Appearance)
  | [] => []
  | (name, value) :: rest => (name, appearance value) :: memberAppearances rest

end

end Document

/-- The digits of a spelling are within a limit, if there is one. -/
def WithinLimit (limit : Option Nat) (spelling : List Char) : Prop :=
  ∀ most ∈ limit, spelling.countP Char.isDigit ≤ most

/-- Scalars that JSON can express. A number that keeps its spelling is spelled as in JSON, and is the
number that is spelled. -/
inductive Scalar.Plain (limit : Option Nat) : Scalar → Prop where
  | null : Plain limit .null
  | bool (value : Bool) : Plain limit (.bool value)
  | text (value : String) : Plain limit (.text value)
  | int (value : Int) (within : WithinLimit limit (toString value).toList) :
    Plain limit (.int value none)
  | spelledInt {value : Int} {spelling : String} (form : NumberForm)
    (spelled : spelling.toList = form.spelling)
    (reads : readIntWithin none 10 spelling.toList = .ok value)
    (within : WithinLimit limit spelling.toList) : Plain limit (.int value (some spelling))
  | spelledFloat {value : Binary64} {spelling : String} (form : NumberForm)
    (spelled : spelling.toList = form.spelling) (reads : readFloat spelling.toList = .ok value)
    (within : WithinLimit limit spelling.toList) : Plain limit (.float value (some spelling))

/-- Data made up of sequences, dictionaries with different names for keys, and scalars that JSON can
express. -/
inductive Datum.Plain (limit : Option Nat) : Datum → Prop where
  | scalar {value : Scalar} (plain : value.Plain limit) : Plain limit (.scalar value)
  | list {items : List Datum} (each : ∀ item ∈ items, Plain limit item) : Plain limit (.list items)
  | tuple {items : List Datum} (each : ∀ item ∈ items, Plain limit item) : Plain limit (.tuple items)
  | dict {members : List (String × Datum)} (names : (members.map (·.1)).Nodup)
    (each : ∀ member ∈ members, Plain limit member.2) :
    Plain limit (.dict (members.map fun member => (.scalar (.text member.1), member.2)))

/-- A tree restores a document: it has the same text and the same lines, and what is read from these
appears as the document does. -/
structure Restores (limit : Option Nat) (tree : Tree) (document : Document) : Prop where
  text : tree.canonical = document.compact
  lines : Document.LinesOf tree document
  loads : ∃ datum loaded, tree.datum limit = .ok datum ∧
    (∀ path, Document.ofDatumAt path datum = .ok loaded) ∧
      loaded.appearance = document.appearance

section Numbers

variable {limit : Option Nat} (form : NumberForm)

theorem whole_within (within : WithinLimit limit form.spelling) :
    limit.filter (· < form.whole.length) = none := by
  have digits : form.whole.length ≤ form.spelling.countP Char.isDigit := by
    have whole : form.whole.countP Char.isDigit = form.whole.length :=
      List.countP_eq_length.mpr form.isWhole.digits
    rw [NumberForm.spelling, List.countP_append, List.countP_append, List.countP_append]
    omega
  rw [Option.filter_eq_none_iff]
  intro most bound
  have enough := within most bound
  simp only [decide_eq_true_eq]
  omega

theorem numberOf_of_isInt (isInt : form.isInt = true) (within : WithinLimit limit form.spelling) :
    numberOf limit form.spelling form.isInt =
      .ok (.int form.integer (some (String.ofList form.spelling))) := by
  have read := form.readIntWithin_spelling limit
  rw [if_pos isInt, whole_within form within] at read
  rw [numberOf, if_pos isInt, read]

/-- A number is restored from its spelling, whatever value is read. -/
theorem restores_number {value : Scalar} {read numeral : Numeral}
    (stands : numberOf limit form.spelling form.isInt = .ok value)
    (accepted : ∀ path, Document.ofScalar path value = .ok (.number read))
    (spelled : numeral.text.toList = form.spelling) :
    Restores limit (.number form) (.number numeral) := by
  have written : read.text.toList = form.spelling := compact_of_numberOf stands (accepted [])
  refine ⟨?_, fun depth => ?_, .scalar value, .number read, ?_, accepted, ?_⟩
  · exact (List.append_nil form.spelling).trans spelled.symm
  · rw [Document.laidOut, spelled]
    exact .plain form.isPlain
  · rw [Tree.datum, stands]
    rfl
  · have texts : read.text = numeral.text := String.toList_inj.mp (written.trans spelled.symm)
    simp only [Document.appearance, Document.toText, Document.compact, texts]
    rfl

theorem restores_int (isInt : form.isInt = true) (within : WithinLimit limit form.spelling)
    {numeral : Numeral} (spelled : numeral.text.toList = form.spelling) :
    Restores limit (.number form) (.number numeral) :=
  restores_number form (numberOf_of_isInt form isInt within) (fun _ => rfl) spelled

/-- A spelling that is read as an integer is that of one. -/
theorem isInt_of_readIntWithin {value : Int}
    (reads : readIntWithin limit 10 form.spelling = .ok value) : form.isInt = true := by
  rw [form.readIntWithin_spelling] at reads
  split at reads
  · assumption
  · cases reads

theorem restores_float {value : Finite64} (reads : readFloat form.spelling = .ok (.finite value))
    (within : WithinLimit limit form.spelling) {numeral : Numeral}
    (spelled : numeral.text.toList = form.spelling) :
    Restores limit (.number form) (.number numeral) := by
  -- A float may be spelled without a fraction and an exponent. It is read as an integer then.
  by_cases isInt : form.isInt = true
  · exact restores_int form isInt within spelled
  · have stands : numberOf limit form.spelling form.isInt =
        .ok (.float (.finite value) (some (String.ofList form.spelling))) := by
      rw [numberOf, if_neg isInt, reads]
    exact restores_number form stands (fun _ => rfl) spelled

end Numbers

/-- Every scalar that JSON can express is restored. -/
theorem Scalar.Plain.exists_tree {limit : Option Nat} {value : Scalar} (plain : value.Plain limit)
    {path : Path} {document : Document} (accepted : Document.ofScalar path value = .ok document) :
    ∃ tree, Restores limit tree document := by
  cases plain with
  | null =>
      cases accepted
      exact ⟨.null, rfl, fun _ => .plain isPlain_null, _, _, rfl, fun _ => rfl, rfl⟩
  | bool value =>
      cases accepted
      exact ⟨.bool value, List.append_nil _, fun _ => .plain (isPlain_boolText value), _, _, rfl,
        fun _ => rfl, rfl⟩
  | text value =>
      cases accepted
      refine ⟨.string value.toList, List.append_nil _, fun _ => .literal value.toList, _,
        .string value, rfl, fun path => ?_, rfl⟩
      rw [String.ofList_toList]
      rfl
  | int value within =>
      cases accepted
      obtain ⟨form, spelled, isInt⟩ := exists_form_of_int value
      rw [← spelled] at within
      exact ⟨.number form, restores_int form isInt within spelled.symm⟩
  | spelledInt form spelled reads within =>
      cases accepted
      rw [spelled] at reads within
      exact ⟨.number form, restores_int form (isInt_of_readIntWithin form reads) within spelled⟩
  | @spelledFloat value spelling form spelled reads within =>
      rw [spelled] at reads within
      cases value with
      | finite value =>
          cases accepted
          exact ⟨.number form, restores_float form reads within spelled⟩
      | _ => cases accepted

section Collections

variable {limit : Option Nat}

theorem canonical_of_restores {trees : List Tree} {documents : List Document}
    (each : List.Forall₂ (Restores limit) trees documents) :
    trees.map Tree.canonical = Document.compactItems documents := by
  induction each with
  | nil => rfl
  | cons first others ih => rw [List.map_cons, Document.compactItems, first.text, ih]

/-- What is read from the trees appears as the documents do. -/
theorem exists_items_of_restores {trees : List Tree} {documents : List Document}
    (each : List.Forall₂ (Restores limit) trees documents) :
    ∃ loaded, List.Forall₂ (Document.Gives limit) trees loaded ∧
      Document.itemAppearances loaded = Document.itemAppearances documents := by
  induction each with
  | nil => exact ⟨[], .nil, rfl⟩
  | cons first others ih =>
      obtain ⟨datum, loaded, stands, accepted, alike⟩ := first.loads
      obtain ⟨loadeds, givesOthers, alikeOthers⟩ := ih
      refine ⟨loaded :: loadeds, .cons ⟨datum, stands, accepted⟩ givesOthers, ?_⟩
      rw [Document.itemAppearances, Document.itemAppearances, alike, alikeOthers]

theorem restores_array {trees : List Tree} {documents : List Document}
    (each : List.Forall₂ (Restores limit) trees documents) (form : ArrayForm) :
    Restores limit (.array trees) (.array form documents) := by
  obtain ⟨loaded, gives, alike⟩ := exists_items_of_restores each
  obtain ⟨datum, stands, accepted⟩ := Document.gives_array gives
  refine ⟨?_, Document.linesOf_array (each.imp fun _ _ restores => restores.lines) form, datum,
    .array .list loaded, stands, accepted, ?_⟩
  · rw [Tree.canonical_array, canonical_of_restores each, Document.compact]
  · rw [Document.appearance, Document.appearance, alike]

/-- A member restores another one: the names are the same, and the value is restored. -/
def RestoresMember (limit : Option Nat) (member : List Char × Tree) (other : String × Document) :
    Prop := other.1.toList = member.1 ∧ Restores limit member.2 other.2

theorem canonicalMember_of_restores {members : List (List Char × Tree)}
    {documents : List (String × Document)}
    (each : List.Forall₂ (RestoresMember limit) members documents) :
    members.map Tree.canonicalMember = Document.compactMembers documents := by
  induction each with
  | nil => rfl
  | cons first others ih =>
      rw [List.map_cons, Document.compactMembers, Tree.canonicalMember, ← first.1, first.2.text, ih]

theorem exists_members_of_restores {members : List (List Char × Tree)}
    {documents : List (String × Document)}
    (each : List.Forall₂ (RestoresMember limit) members documents) :
    ∃ loaded, List.Forall₂ (Document.GivesMember limit) members loaded ∧
      Document.memberAppearances loaded = Document.memberAppearances documents := by
  induction each with
  | nil => exact ⟨[], .nil, rfl⟩
  | @cons member document members documents first others ih =>
      obtain ⟨same, restores⟩ := first
      obtain ⟨datum, loaded, stands, accepted, alike⟩ := restores.loads
      obtain ⟨loadeds, givesOthers, alikeOthers⟩ := ih
      refine ⟨(document.1, loaded) :: loadeds, .cons ⟨same, datum, stands, accepted⟩ givesOthers, ?_⟩
      rw [Document.memberAppearances, Document.memberAppearances, alike, alikeOthers]

theorem restores_object {members : List (List Char × Tree)} {documents : List (String × Document)}
    (each : List.Forall₂ (RestoresMember limit) members documents)
    (names : (members.map (·.1)).Nodup) : Restores limit (.object members) (.object documents) := by
  obtain ⟨loaded, gives, alike⟩ := exists_members_of_restores each
  obtain ⟨datum, stands, accepted⟩ := Document.gives_object gives names
  refine ⟨?_, Document.linesOf_object (each.imp fun _ _ restores => restores.imp_right (·.lines)),
    datum, .object loaded, stands, accepted, ?_⟩
  · rw [Tree.canonical_object, canonicalMember_of_restores each, Document.compact]
  · rw [Document.appearance, Document.appearance, alike]

theorem exists_trees_of_ofItems {items : List Datum}
    (each : ∀ item ∈ items, ∀ path document, Document.ofDatumAt path item = .ok document →
      ∃ tree, Restores limit tree document)
    {path : Path} {index : Nat} {documents : List Document}
    (accepted : Document.ofItems path index items = .ok documents) :
    ∃ trees, List.Forall₂ (Restores limit) trees documents := by
  induction items generalizing index documents with
  | nil =>
      cases accepted
      exact ⟨[], .nil⟩
  | cons item items ih =>
      obtain ⟨eachFirst, eachOther⟩ := List.forall_mem_cons.mp each
      obtain ⟨first, others, one, later, rfl⟩ := Document.ofItems_cons_eq_ok accepted
      obtain ⟨tree, restores⟩ := eachFirst _ _ one
      obtain ⟨trees, restoresOthers⟩ := ih eachOther later
      exact ⟨tree :: trees, .cons restores restoresOthers⟩

theorem exists_members_of_ofEntries {members : List (String × Datum)}
    (each : ∀ member ∈ members, ∀ path document, Document.ofDatumAt path member.2 = .ok document →
      ∃ tree, Restores limit tree document)
    {path : Path} {documents : List (String × Document)}
    (accepted : Document.ofEntries path
      (members.map fun member => (.scalar (.text member.1), member.2)) = .ok documents) :
    ∃ trees, List.Forall₂ (RestoresMember limit) trees documents ∧
      trees.map (·.1) = members.map fun member => member.1.toList := by
  induction members generalizing documents with
  | nil =>
      cases accepted
      exact ⟨[], .nil, rfl⟩
  | cons member members ih =>
      obtain ⟨eachFirst, eachOther⟩ := List.forall_mem_cons.mp each
      rw [List.map_cons] at accepted
      obtain ⟨name, first, others, key, one, later, rfl⟩ := Document.ofEntries_cons_eq_ok accepted
      cases key
      obtain ⟨tree, restores⟩ := eachFirst _ _ one
      obtain ⟨trees, restoresOthers, names⟩ := ih eachOther later
      refine ⟨(member.1.toList, tree) :: trees, .cons ⟨rfl, restores⟩ restoresOthers, ?_⟩
      rw [List.map_cons, List.map_cons, names]

end Collections

/-- Data that JSON can express are restored. -/
theorem Datum.Plain.exists_tree {limit : Option Nat} {raw : Datum} (plain : raw.Plain limit) :
    ∀ path document, Document.ofDatumAt path raw = .ok document →
      ∃ tree, Restores limit tree document := by
  induction plain with
  | scalar plain =>
      intro path document accepted
      rw [Document.ofDatumAt] at accepted
      exact plain.exists_tree accepted
  | list each ih | tuple each ih =>
      intro path document accepted
      rw [Document.ofDatumAt] at accepted
      obtain ⟨documents, wrapped, same⟩ := exists_of_bind_eq_ok accepted
      cases same
      obtain ⟨trees, restores⟩ := exists_trees_of_ofItems ih wrapped
      exact ⟨.array trees, restores_array restores _⟩
  | dict names each ih =>
      intro path document accepted
      rw [Document.ofDatumAt] at accepted
      obtain ⟨documents, wrapped, same⟩ := exists_of_bind_eq_ok accepted
      cases same
      obtain ⟨trees, restores, keys⟩ := exists_members_of_ofEntries ih wrapped
      have different : (trees.map (·.1)).Nodup := by
        rw [keys]
        exact Document.nodup_toList names
      exact ⟨.object trees, restores_object restores different⟩

section

variable {limit : Option Nat} {raw : Datum} {document : Document}

/-- What is laid out as the lexemes of a restoring tree loads as a document that appears alike. -/
theorem Restores.load {tree : Tree} (restores : Restores limit tree document) {text : String}
    (laid : Laid tree.lexemes text.toList) :
    ∃ loaded, Document.loadJsonWithin limit text = .ok loaded ∧
      loaded.appearance = document.appearance := by
  obtain ⟨datum, loaded, stands, accepted, alike⟩ := restores.loads
  have read : readAll limit text.toList = .ok datum := by
    rw [readAll_of_laid limit tree laid, stands]
  have whole : Document.ofDatum datum = .ok loaded := by
    rw [Document.ofDatum_of_tree stands]
    exact accepted []
  exact ⟨loaded, Document.loadJsonWithin_eq_ok_iff.mpr ⟨datum, read, whole⟩, alike⟩

theorem Datum.Plain.ofDatumAt_root (plain : raw.Plain limit)
    (wrapped : Document.ofDatum raw = .ok document) : Document.ofDatumAt [] raw = .ok document := by
  cases plain <;> exact wrapped

/-- Data that JSON can express, written as JSON, load as a document that appears as theirs does.
Without a limit, integers may have any number of digits; `load` is loading within
`maxDecimalDigits`. -/
theorem Document.loadJsonWithin_compact (plain : raw.Plain limit)
    (wrapped : ofDatum raw = .ok document) :
    raw.compact? = some document.compact ∧
      ∃ loaded, loadJsonWithin limit (String.ofList document.compact) = .ok loaded ∧
        loaded.appearance = document.appearance := by
  have path := plain.ofDatumAt_root wrapped
  obtain ⟨tree, restores⟩ := plain.exists_tree [] document path
  refine ⟨compact?_of_ofDatumAt raw path, restores.load ?_⟩
  rw [String.toList_ofList, ← restores.text]
  exact tree.laid_canonical

/-- Laid out over lines, with a line break at the end, they load alike. -/
theorem Document.loadJsonWithin_laidOut (plain : raw.Plain limit)
    (wrapped : ofDatum raw = .ok document) :
    ∃ loaded, loadJsonWithin limit (String.ofList (document.laidOut 0 ++ ['\n'])) = .ok loaded ∧
      loaded.appearance = document.appearance := by
  obtain ⟨tree, restores⟩ := plain.exists_tree [] document (plain.ofDatumAt_root wrapped)
  have ending : Laid [] ['\n'] := .space rfl .done
  have lines := restores.lines 0 ['\n'] [] ending
  rw [List.append_nil] at lines
  refine restores.load ?_
  rwa [String.toList_ofList]

end

theorem Document.loadJsonWithin_compact_tuple :
    ∃ raw document loaded, raw.Plain none ∧ ofDatum raw = .ok document ∧
      raw.compact? = some "\x7b\"a\":[-12,1E-2]\x7d".toList ∧
        loadJsonWithin none "\x7b\"a\":[-12,1E-2]\x7d" = .ok loaded ∧
          loaded.appearance = document.appearance := by
  let small : Finite64 := ⟨false, 5764607523034235, -59⟩
  let items : List Datum :=
    [.scalar (.int (-12) none), .scalar (.float (.finite small) (some "1E-2"))]
  let raw : Datum := .dict [(.scalar (.text "a"), .tuple items)]
  let numerals : List Document := [.number (.int (-12) none), .number (.float small (some "1E-2"))]
  let document : Document := .object [("a", .array .tuple numerals)]
  have unlimited : ∀ spelling, WithinLimit none spelling := nofun
  have plainItems : ∀ item ∈ items, item.Plain none := by
    have one : IsWhole ['1'] := ⟨.of_all nofun rfl, nofun⟩
    have power : IsExponent ['E', '-', '2'] :=
      .power (.inr rfl) (.inr (.inr rfl)) (.of_all nofun rfl)
    let form : NumberForm := ⟨[], ['1'], [], ['E', '-', '2'], .inl rfl, one, .none, power⟩
    have chars : "1E-2".toList = ['1', 'E', '-', '2'] := by simp
    have spelled : "1E-2".toList = form.spelling := chars
    have reads : readFloat "1E-2".toList = .ok (.finite small) := by
      rw [chars]
      rfl
    intro item among
    rcases List.mem_cons.mp among with rfl | among
    · exact .scalar (.int (-12) (unlimited _))
    · cases List.mem_singleton.mp among
      exact .scalar (.spelledFloat form spelled reads (unlimited _))
  have plain : raw.Plain none := by
    refine @Datum.Plain.dict none [("a", .tuple items)] (by decide) fun member among => ?_
    cases List.mem_singleton.mp among
    exact .tuple plainItems
  have wrapped : ofDatum raw = .ok document := rfl
  have text : document.compact = "\x7b\"a\":[-12,1E-2]\x7d".toList := by
    have digits : (-12 : Int).repr.toList = ['-', '1', '2'] := by decide
    simp [digits, document, numerals, compact, compactMembers, compactItems, joinWith, Numeral.text,
      literal, literalChar]
  obtain ⟨written, loaded, reloaded, alike⟩ := loadJsonWithin_compact plain wrapped
  rw [text] at written reloaded
  rw [String.ofList_toList] at reloaded
  exact ⟨raw, document, loaded, plain, wrapped, written, reloaded, alike⟩

end Logicless
