import GraphQuery.Failure
import GraphQuery.Value.LookupKey

/-!
# Mappings from pairs

A mapping can be given as such or as a collection of pairs.
-/

namespace GraphQuery
namespace Value

/-- The two parts of a pair at a place in a collection, of which the first can be looked up. -/
def pair (index : Nat) (v : Value) : Outcome (Value × Value) :=
  let ofParts (parts : List Value) : Outcome (Value × Value) :=
    match parts with
    | [key, x] => if key.isLookupKey then .ok (key, x) else .error .mismatch
    | _ => .error (.argument (.pairLength index parts.length))
  match v.iterated? with
  | some parts => ofParts parts
  | none => .error .mismatch

/-- Reads pairs from the given place on. -/
def pairsFrom (index : Nat) : List Value → Outcome (List (Value × Value))
  | [] => .ok []
  | v :: rest => do
    let row ← pair index v
    return row :: (← pairsFrom (index + 1) rest)

/-- The mapping that a value gives, as it is or as pairs. -/
def toMapping (v : Value) : Outcome Value :=
  match v with
  | mapping entries => .ok (mapping entries)
  | table rows => .ok (table rows)
  | _ =>
    match v.iterated? with
    | some items => (pairsFrom 0 items).map ofRows
    | none => .error .mismatch

end Value
end GraphQuery
