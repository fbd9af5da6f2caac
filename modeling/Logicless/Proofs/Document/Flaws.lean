import Logicless.Document.Undated
import Logicless.Proofs.Document.Offence

/-!
Flaws of data that show only when a document is made of them: a collection that holds itself, and a
key that is too long to be shown. Where data come from must account for both.
-/

set_option autoImplicit false

namespace Logicless

open Relation

/-! ## What is too long to be shown -/

theorem Key.areWritable_eq_all (keys : List Key) : areWritable keys = keys.all isWritable := by
  induction keys with
  | nil => rfl
  | cons key rest ih => rw [areWritable, List.all_cons, ih]

/-- A key that can be shown, or else what accounts for it. -/
def Key.Explained (longKey : Prop) (key : Key) : Prop := key.isWritable = false → longKey

namespace Datum

theorem areWritable_eq_all (items : List Datum) : areWritable items = items.all isWritable := by
  induction items with
  | nil => rfl
  | cons item rest ih => rw [areWritable, List.all_cons, ih]

theorem entriesAreWritable_eq_all (entries : List (Key × Datum)) :
    entriesAreWritable entries =
      entries.all fun entry => entry.1.isWritable && entry.2.isWritable := by
  induction entries with
  | nil => rfl
  | cons entry rest ih =>
      obtain ⟨key, value⟩ := entry
      rw [entriesAreWritable, List.all_cons, ih]

/-! ## Flaws and parts -/

/-- A datum of some kind can be reached. -/
def Reaches (here : Datum → Prop) (datum : Datum) : Prop :=
  ∃ inner, ReflTransGen HasPart datum inner ∧ here inner

/-- A collection that holds itself can be reached. -/
def HoldsCycle : Datum → Prop := Reaches fun inner => ∃ name, inner = .cycle name

/-- A dictionary with a key that cannot be shown can be reached. -/
def HoldsLongKey : Datum → Prop :=
  Reaches fun inner => ∃ entry ∈ inner.entries, entry.1.isWritable = false

/-- The flaws of a datum, each with what accounts for it. -/
structure Explained (cycle longKey : Prop) (datum : Datum) : Prop where
  cycle : datum.HoldsCycle → cycle
  longKey : datum.HoldsLongKey → longKey

abbrev Flawless : Datum → Prop := Explained False False

section

variable {here : Datum → Prop} {cycle longKey : Prop} {datum part : Datum}

theorem Reaches.here_or_part (reaches : datum.Reaches here) :
    here datum ∨ ∃ part, datum.HasPart part ∧ part.Reaches here := by
  obtain ⟨inner, reached, found⟩ := reaches
  rcases reached.cases_head with same | ⟨part, inside, onward⟩
  · subst same
    exact .inl found
  · exact .inr ⟨part, inside, inner, onward, found⟩

theorem Reaches.of_part (inside : datum.HasPart part) (reaches : part.Reaches here) :
    datum.Reaches here := by
  obtain ⟨inner, reached, found⟩ := reaches
  exact ⟨inner, .head inside reached, found⟩

theorem Leads.reached {path : Path} (leads : datum.Leads path part) :
    ReflTransGen HasPart datum part := by
  induction leads with
  | root => exact .refl
  | @element path outer item index before found ih =>
      refine ih.tail ?_
      cases outer with
      | list items | tuple items => exact List.mem_of_getElem? found
      | _ => cases found
  | @member path outer value key before found ih =>
      refine ih.tail ?_
      cases outer with
      | dict entries => exact List.mem_map_of_mem found
      | _ => cases found

theorem Explained.mono {otherCycle otherKey : Prop} (explained : datum.Explained cycle longKey)
    (cycles : cycle → otherCycle) (keys : longKey → otherKey) :
    datum.Explained otherCycle otherKey :=
  ⟨cycles ∘ explained.cycle, keys ∘ explained.longKey⟩

/-- A datum is explained if it is no cycle itself and has no long key, and its parts are explained. -/
theorem Explained.of_parts (other : ∀ name, datum ≠ .cycle name)
    (keys : ∀ entry ∈ datum.entries, entry.1.Explained longKey)
    (parts : ∀ part, datum.HasPart part → part.Explained cycle longKey) :
    datum.Explained cycle longKey := by
  constructor
  · intro holds
    rcases holds.here_or_part with ⟨name, same⟩ | ⟨part, inside, within⟩
    · exact absurd same (other name)
    · exact (parts part inside).cycle within
  · intro holds
    rcases holds.here_or_part with ⟨entry, among, long⟩ | ⟨part, inside, within⟩
    · exact keys entry among long
    · exact (parts part inside).longKey within

theorem explained_scalar (value : Scalar) : (Datum.scalar value).Explained cycle longKey :=
  .of_parts nofun nofun nofun

theorem explained_set (items : List Key) : (Datum.set items).Explained cycle longKey :=
  .of_parts nofun nofun nofun

theorem explained_list {items : List Datum}
    (each : ∀ item ∈ items, item.Explained cycle longKey) :
    (Datum.list items).Explained cycle longKey :=
  .of_parts nofun (List.forall_mem_nil _) each

theorem explained_tuple {items : List Datum}
    (each : ∀ item ∈ items, item.Explained cycle longKey) :
    (Datum.tuple items).Explained cycle longKey :=
  .of_parts nofun (List.forall_mem_nil _) each

theorem explained_dict {entries : List (Key × Datum)}
    (each : ∀ entry ∈ entries, entry.1.Explained longKey ∧ entry.2.Explained cycle longKey) :
    (Datum.dict entries).Explained cycle longKey := by
  refine .of_parts nofun (fun entry among => (each entry among).1) fun part inside => ?_
  obtain ⟨entry, among, rfl⟩ := List.mem_map.mp inside
  exact (each entry among).2

end

/-! ## Entries that are inserted one after the other -/

section

variable {α : Type} {entries : List (Key × α)} {entry : Key × α}

theorem mem_insert {key : Key} {value : α} (among : entry ∈ insert entries key value) :
    entry.1 ∈ (entries ++ [(key, value)]).map (·.1) ∧
      entry.2 ∈ (entries ++ [(key, value)]).map (·.2) := by
  induction entries with
  | nil =>
      cases List.mem_singleton.mp among
      exact ⟨List.mem_cons_self, List.mem_cons_self⟩
  | cons first rest ih =>
      unfold insert at among
      split at among
      · rcases List.mem_cons.mp among with rfl | later
        · exact ⟨List.mem_cons_self, by simp⟩
        · have stood : entry ∈ first :: rest ++ [(key, value)] :=
            List.mem_append_left _ (List.mem_cons_of_mem first later)
          exact ⟨List.mem_map_of_mem stood, List.mem_map_of_mem stood⟩
      · rcases List.mem_cons.mp among with rfl | later
        · exact ⟨List.mem_cons_self, List.mem_cons_self⟩
        · exact ⟨List.mem_cons_of_mem _ (ih later).1, List.mem_cons_of_mem _ (ih later).2⟩

/-- Inserting entries brings in no other keys and values than theirs. -/
theorem mem_insertAll {others : List (Key × α)} (among : entry ∈ insertAll entries others) :
    entry.1 ∈ (entries ++ others).map (·.1) ∧ entry.2 ∈ (entries ++ others).map (·.2) := by
  induction others generalizing entries with
  | nil =>
      rw [List.append_nil]
      exact ⟨List.mem_map_of_mem among, List.mem_map_of_mem among⟩
  | cons first rest ih =>
      have onward {β : Type} (part : Key × α → β)
          (inserted : ∀ other ∈ insert entries first.1 first.2,
            part other ∈ (entries ++ [first]).map part)
          (found : part entry ∈ (insert entries first.1 first.2 ++ rest).map part) :
          part entry ∈ (entries ++ first :: rest).map part := by
        rw [List.append_cons, List.map_append, List.mem_append]
        rw [List.map_append, List.mem_append] at found
        refine found.imp_left fun early => ?_
        obtain ⟨other, member, same⟩ := List.mem_map.mp early
        exact same ▸ inserted other member
      exact ⟨onward (·.1) (fun _ member => (mem_insert member).1) (ih among).1,
        onward (·.2) (fun _ member => (mem_insert member).2) (ih among).2⟩

/-- What holds of keys and values that are inserted holds of those that are there in the end. -/
theorem forall_ofEntries {keys : Key → Prop} {values : α → Prop}
    (each : ∀ entry ∈ entries, keys entry.1 ∧ values entry.2) :
    ∀ entry ∈ ofEntries entries, keys entry.1 ∧ values entry.2 := by
  intro entry among
  have brought := mem_insertAll among
  rw [List.nil_append] at brought
  obtain ⟨named, stands, sameKey⟩ := List.mem_map.mp brought.1
  obtain ⟨other, member, sameValue⟩ := List.mem_map.mp brought.2
  exact ⟨sameKey ▸ (each named stands).1, sameValue ▸ (each other member).2⟩

end

/-! ## Flaws that are found -/

mutual

/-- What is found before dates are replaced can be reached. -/
theorem holdsCycle_of_isEndless (datum : Datum) (endless : datum.isEndless = true) :
    datum.HoldsCycle := by
  match datum with
  | .cycle name => exact ⟨_, .refl, name, rfl⟩
  | .list items =>
      rw [isEndless] at endless
      obtain ⟨item, among, holds⟩ := exists_holdsCycle_of_isEndlessItems items endless
      exact .of_part among holds
  | .dict entries =>
      rw [isEndless] at endless
      obtain ⟨entry, among, holds⟩ := exists_holdsCycle_of_isEndlessEntries entries endless
      exact .of_part (List.mem_map_of_mem among) holds
  | .scalar _ | .tuple _ | .set _ | .document _ =>
      simp only [isEndless] at endless
      cases endless

theorem exists_holdsCycle_of_isEndlessItems (items : List Datum)
    (endless : isEndlessItems items = true) : ∃ item ∈ items, item.HoldsCycle := by
  match items with
  | [] => cases endless
  | item :: rest =>
      rw [isEndlessItems, Bool.or_eq_true] at endless
      rcases endless with here | later
      · exact ⟨item, List.mem_cons_self, holdsCycle_of_isEndless item here⟩
      · obtain ⟨other, among, holds⟩ := exists_holdsCycle_of_isEndlessItems rest later
        exact ⟨other, List.mem_cons_of_mem _ among, holds⟩

theorem exists_holdsCycle_of_isEndlessEntries (entries : List (Key × Datum))
    (endless : isEndlessEntries entries = true) : ∃ entry ∈ entries, entry.2.HoldsCycle := by
  match entries with
  | [] => cases endless
  | (key, value) :: rest =>
      rw [isEndlessEntries, Bool.or_eq_true] at endless
      rcases endless with here | later
      · exact ⟨(key, value), List.mem_cons_self, holdsCycle_of_isEndless value here⟩
      · obtain ⟨other, among, holds⟩ := exists_holdsCycle_of_isEndlessEntries rest later
        exact ⟨other, List.mem_cons_of_mem _ among, holds⟩

end

/-- An offence without a place is one of the two flaws. -/
theorem flaw_of_offence {visit : Visit} {error : ShapeError} (offence : visit.offence? = some error)
    (placeless : error.isOwn = false) {datum : Datum} (stands : visit.StandsIn datum) :
    (error = .endless ∧ datum.HoldsCycle) ∨ (error = .unwritable ∧ datum.HoldsLongKey) := by
  rcases Visit.message_of_offence offence with ⟨own, -⟩ | ⟨same, key, met, long⟩ | ⟨same, name, met⟩
  · rw [own] at placeless
    cases placeless
  · rw [met] at stands
    obtain ⟨outer, value, leads, among⟩ := stands
    exact .inr ⟨same, outer, leads.reached, (key, value), among, long⟩
  · rw [met] at stands
    exact .inl ⟨same, _, Leads.reached stands, name, rfl⟩

end Datum

/-- Data that are refused without a place have a flaw. -/
theorem Document.flaw_of_ofDatum {datum : Datum} {error : ShapeError}
    (refused : ofDatum datum = .error error) (placeless : error.isOwn = false) :
    (error = .endless ∧ datum.HoldsCycle) ∨ (error = .unwritable ∧ datum.HoldsLongKey) := by
  have raw : ∀ value, datum ≠ .document value := by
    rintro value rfl
    cases refused
  rw [ofDatum_of_raw raw] at refused
  obtain ⟨before, visit, after, split, offence, -⟩ :=
    ((judged_ofDatumAt [] datum).error_iff error).mp refused
  have among : visit ∈ datum.visits [] := by
    rw [split]
    exact List.mem_append_right _ List.mem_cons_self
  exact Datum.flaw_of_offence offence placeless ((datum.mem_visits_iff visit).mp among)

/-! ## Dates -/

namespace Datum

theorem undatedItems_eq_map (items : List Datum) : undatedItems items = items.map undated := by
  induction items with
  | nil => rfl
  | cons item rest ih => rw [undatedItems, ih, List.map_cons]

theorem undatedEntries_eq_map (entries : List (Key × Datum)) :
    undatedEntries entries = entries.map fun entry => (entry.1, entry.2.undated) := by
  induction entries with
  | nil => rfl
  | cons entry rest ih =>
      obtain ⟨key, value⟩ := entry
      rw [undatedEntries, ih, List.map_cons]

/-- The parts behind the replacement of dates are those before it, each with its dates replaced or, in
a tuple, as it was. -/
theorem exists_part_of_undated {datum part : Datum} (inside : datum.undated.HasPart part) :
    ∃ source, datum.HasPart source ∧ (part = source.undated ∨ part = source) := by
  cases datum with
  | scalar value => cases value <;> cases inside
  | list items =>
      rw [undated, undatedItems_eq_map] at inside
      obtain ⟨item, among, rfl⟩ := List.mem_map.mp inside
      exact ⟨item, among, .inl rfl⟩
  | dict entries =>
      rw [undated, undatedEntries_eq_map] at inside
      obtain ⟨entry, among, rfl⟩ := List.mem_map.mp inside
      obtain ⟨source, stands, rfl⟩ := List.mem_map.mp among
      exact ⟨source.2, List.mem_map_of_mem stands, .inl rfl⟩
  | tuple items => exact ⟨part, inside, .inr rfl⟩
  | set items | document value | cycle name => cases inside

/-- What replacing dates does not bring in can be reached before it, if it can behind it. -/
theorem Reaches.of_undated {here : Datum → Prop} (old : ∀ datum : Datum, here datum.undated → here datum)
    {datum : Datum} (reaches : datum.undated.Reaches here) : datum.Reaches here := by
  obtain ⟨inner, reached, found⟩ := reaches
  generalize start : datum.undated = first at reached
  induction reached using ReflTransGen.head_induction_on generalizing datum with
  | refl =>
      subst start
      exact ⟨datum, .refl, old datum found⟩
  | head inside onward ih =>
      subst start
      obtain ⟨source, stands, rfl | rfl⟩ := exists_part_of_undated inside
      · exact .of_part stands (ih rfl)
      · exact .of_part stands ⟨inner, onward, found⟩

theorem entries_undated (datum : Datum) :
    datum.undated.entries.map Prod.fst = datum.entries.map Prod.fst := by
  cases datum with
  | scalar value => cases value <;> rfl
  | dict entries =>
      simp only [undated, undatedEntries_eq_map, Datum.entries, List.map_map, Function.comp_def]
  | list items | tuple items | set items | document value | cycle name => rfl

/-- Replacing dates brings in no flaw. -/
theorem Explained.undated {cycle longKey : Prop} {datum : Datum}
    (explained : datum.Explained cycle longKey) : datum.undated.Explained cycle longKey := by
  refine ⟨fun holds => explained.cycle (.of_undated ?_ holds),
    fun holds => explained.longKey (.of_undated ?_ holds)⟩
  · rintro inner ⟨name, same⟩
    refine ⟨name, ?_⟩
    cases inner with
    | cycle other => exact same
    | scalar value => cases value <;> cases same
    | _ => cases same
  · rintro inner ⟨entry, among, long⟩
    have key := List.mem_map_of_mem (f := Prod.fst) among
    rw [entries_undated] at key
    obtain ⟨other, stands, same⟩ := List.mem_map.mp key
    exact ⟨other, stands, same ▸ long⟩

end Datum

end Logicless
