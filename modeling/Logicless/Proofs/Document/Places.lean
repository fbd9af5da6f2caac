import Logicless.Proofs.Document.Offence

/-!
Places in data. The way to a place is the number of a part, the number of a part of that part, and so
on. A datum without its parts is its shell, and data with the same shells in the same places are the
same data. To what stands in a place, a path leads.
-/

set_option autoImplicit false

namespace Logicless

namespace Datum

def at? (datum : Datum) : List Nat → Option Datum
  | [] => some datum
  | number :: place => datum.parts[number]?.bind fun part => part.at? place

@[simp] theorem at?_nil (datum : Datum) : datum.at? [] = some datum := rfl

@[simp] theorem at?_cons (datum : Datum) (number : Nat) (place : List Nat) :
    datum.at? (number :: place) = datum.parts[number]?.bind fun part => part.at? place := rfl

theorem at?_append (datum : Datum) (first second : List Nat) :
    datum.at? (first ++ second) = (datum.at? first).bind fun part => part.at? second := by
  induction first generalizing datum with
  | nil => rfl
  | cons number place ih =>
      rw [List.cons_append, at?_cons, at?_cons]
      cases datum.parts[number]? with
      | none => rfl
      | some part => exact ih part

/-- From a place on to a part of what stands there. -/
theorem at?_concat {root outer part : Datum} {place : List Nat} {number : Nat}
    (stands : root.at? place = some outer) (found : outer.parts[number]? = some part) :
    root.at? (place ++ [number]) = some part := by
  rw [at?_append, stands, Option.bind_some, at?_cons, found]
  rfl

/-- The parts of a datum are its elements or the values of its entries. -/
theorem parts_eq (datum : Datum) : datum.parts = datum.elements ++ datum.entries.map Prod.snd := by
  cases datum with
  | list items | tuple items => exact (List.append_nil items).symm
  | _ => rfl

theorem parts_of_elements {datum item : Datum} {index : Nat}
    (found : datum.elements[index]? = some item) : datum.parts[index]? = some item := by
  have within : index < datum.elements.length := (List.getElem?_eq_some_iff.mp found).1
  rw [parts_eq, List.getElem?_append_left within, found]

theorem hasPart_of_entries {datum : Datum} {entry : Key × Datum} (among : entry ∈ datum.entries) :
    datum.HasPart entry.2 := by
  rw [HasPart, parts_eq]
  exact List.mem_append_right _ (List.mem_map_of_mem among)

/-- The parts of a datum are smaller than the datum. -/
theorem sizeOf_lt_of_hasPart {datum part : Datum} (inside : datum.HasPart part) :
    sizeOf part < sizeOf datum := by
  cases datum with
  | list items | tuple items =>
      have smaller := List.sizeOf_lt_of_mem (show part ∈ items from inside)
      simp only [list.sizeOf_spec, tuple.sizeOf_spec]
      omega
  | dict entries =>
      obtain ⟨entry, among, rfl⟩ := List.mem_map.mp inside
      have smaller := List.sizeOf_lt_of_mem among
      obtain ⟨key, value⟩ := entry
      simp only [dict.sizeOf_spec, Prod.mk.sizeOf_spec] at smaller ⊢
      omega
  | _ => cases inside

/-- What holds of a datum as soon as it holds of all its parts holds of all data. -/
theorem part_induction {motive : Datum → Prop}
    (step : ∀ datum, (∀ part, datum.HasPart part → motive part) → motive datum) (datum : Datum) :
    motive datum :=
  step datum fun part inside =>
    have := sizeOf_lt_of_hasPart inside
    part_induction step part
termination_by sizeOf datum

/-- A datum with null in the place of each of its parts. -/
def shell : Datum → Datum
  | .list items => .list (items.map fun _ => .scalar .null)
  | .tuple items => .tuple (items.map fun _ => .scalar .null)
  | .dict entries => .dict (entries.map fun entry => (entry.1, .scalar .null))
  | .scalar value => .scalar value
  | .set items => .set items
  | .document value => .document value
  | .cycle name => .cycle name

/-- A datum is its shell and its parts. -/
theorem eq_of_shell_eq {datum other : Datum} (shells : datum.shell = other.shell)
    (parts : datum.parts = other.parts) : datum = other := by
  cases datum with
  | list items =>
      cases other with
      | list others => exact congrArg _ parts
      | _ => cases shells
  | tuple items =>
      cases other with
      | tuple others => exact congrArg _ parts
      | _ => cases shells
  | dict entries =>
      cases other with
      | dict others =>
          have keys : entries.map Prod.fst = others.map Prod.fst := by
            have listed := congrArg (List.map Prod.fst) (Datum.dict.inj shells)
            simpa only [List.map_map, Function.comp_def] using listed
          exact congrArg _ ((List.zip_of_prod keys parts).trans (List.zip_of_prod rfl rfl).symm)
      | _ => cases shells
  | scalar value | set items | document value | cycle name =>
      cases other <;> cases shells
      rfl

/-- Data with the same shells in the same places are the same. -/
theorem eq_of_shells_eq {datum other : Datum}
    (same : ∀ place, (datum.at? place).map shell = (other.at? place).map shell) : datum = other := by
  induction datum using part_induction generalizing other with
  | step datum ih =>
      refine eq_of_shell_eq (Option.some.inj (same [])) (List.ext_getElem? fun number => ?_)
      have one := same [number]
      cases found : datum.parts[number]? with
      | none =>
          cases foundOther : other.parts[number]? with
          | none => rfl
          | some part => simp [found, foundOther] at one
      | some part =>
          cases foundOther : other.parts[number]? with
          | none => simp [found, foundOther] at one
          | some partOther =>
              refine congrArg some (ih part (List.mem_of_getElem? found) fun place => ?_)
              have below := same (number :: place)
              rwa [at?_cons, at?_cons, found, foundOther] at below

/-! Paths and places -/

/-- A path leads on to each part of a datum. -/
theorem Leads.exists_part {root outer part : Datum} {path : Path} (leads : root.Leads path outer)
    (inside : outer.HasPart part) : ∃ path, root.Leads path part := by
  cases outer with
  | list items | tuple items =>
      obtain ⟨index, found⟩ := List.getElem?_of_mem inside
      exact ⟨_, leads.element found⟩
  | dict entries =>
      obtain ⟨entry, among, rfl⟩ := List.mem_map.mp inside
      exact ⟨_, leads.member among⟩
  | _ => cases inside

theorem Leads.exists_of_at? {root outer part : Datum} {path : Path} {place : List Nat}
    (leads : root.Leads path outer) (stands : outer.at? place = some part) :
    ∃ path, root.Leads path part := by
  induction place generalizing outer path with
  | nil =>
      cases stands
      exact ⟨path, leads⟩
  | cons number place ih =>
      obtain ⟨inner, found, below⟩ := Option.bind_eq_some_iff.mp stands
      obtain ⟨longer, onward⟩ := leads.exists_part (List.mem_of_getElem? found)
      exact ih onward below

end Datum

end Logicless
