import Logicless.Document.Datum

/-!
Dates as texts: data that may hold dates become data without them.
-/

set_option autoImplicit false

namespace Logicless.Datum

mutual

/-- Data with the common form of each date in the place of the date. Values of dictionaries and
elements of lists are looked at, keys and tuples are not. -/
def undated : Datum → Datum
  | .scalar (.date value) => .text value.iso
  | .scalar (.moment value) => .text value.iso
  | .list items => .list (undatedItems items)
  | .dict entries => .dict (undatedEntries entries)
  | other => other

def undatedItems : List Datum → List Datum
  | [] => []
  | item :: rest => undated item :: undatedItems rest

def undatedEntries : List (Key × Datum) → List (Key × Datum)
  | [] => []
  | (key, value) :: rest => (key, undated value) :: undatedEntries rest

end

mutual

/-- Whether a list or a dictionary holds itself. -/
def isEndless : Datum → Bool
  | .cycle _ => true
  | .list items => isEndlessItems items
  | .dict entries => isEndlessEntries entries
  | _ => false

def isEndlessItems : List Datum → Bool
  | [] => false
  | item :: rest => isEndless item || isEndlessItems rest

def isEndlessEntries : List (Key × Datum) → Bool
  | [] => false
  | (_, value) :: rest => isEndless value || isEndlessEntries rest

end

end Logicless.Datum
