import GraphQuery.Value.Equality

/-!
# Values as keys

Some values can be looked up and be the keys of a mapping, others cannot.  Equal keys are one key: a
truth value, an integer and a floating number are the same key when they have the same value.
-/

namespace GraphQuery
namespace Value

mutual

/-- Whether a value can be looked up: lists, mappings, changeable sets and things cannot. -/
def isLookupKey : Value → Bool
  | list _ | mapping _ | table _ | set false _ | record _ => false
  | tuple items => areLookupKeys items
  | null => true
  | bool _ => true
  | int _ => true
  | float _ => true
  | text _ => true
  | date _ => true
  | set true _ => true
  | test _ => true

def areLookupKeys : List Value → Bool
  | [] => true
  | x :: xs => isLookupKey x && areLookupKeys xs

end

/-- Sets a key: a known one stays as it is and takes the value, a new one comes last. -/
def insertRow : List (Value × Value) → Value → Value → List (Value × Value)
  | [], key, v => [(key, v)]
  | (known, old) :: rest, key, v =>
    if known == key then (known, v) :: rest else (known, old) :: insertRow rest key v

/-- The mapping with the given rows, of which later ones take the place of earlier ones. -/
def ofRows (rows : List (Value × Value)) : Value :=
  let rows := rows.foldl (fun all row => insertRow all row.1 row.2) []
  if rows.all fun row => row.1.text?.isSome then mapping (textEntries rows) else table rows

end Value
end GraphQuery
