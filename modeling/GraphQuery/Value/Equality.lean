import GraphQuery.Value.Basic

/-!
# Equality of values

Two notions are used side by side.  `Value.same` compares numbers by value at every depth, a truth value
counting as zero or one.  `Value.strictSame`, which criteria use, keeps truth values apart from numbers
at the outermost level.

How deep values are nested does not matter here: the stack is taken to suffice for comparing them.  Nor does
it matter whether two values are one object, which would show where a NaN is an item of both.
-/

namespace GraphQuery
namespace Value

mutual

/-- Whether two values are equal: numbers by exact value, collections by their items, sets by their
members whatever their kind, mappings by their entries whatever their order, things by their
attributes. -/
def same : Value → Value → Bool
  | null, w => w.isNull
  | bool b, w => w.number?.any (Extended.same (.ofInt (if b then 1 else 0)))
  | int n, w => w.number?.any (Extended.same (.ofInt n))
  | float x, w => w.number?.any (Extended.same (.ofBinary64 x))
  | text s, w =>
    match w with
    | text t => s == t
    | _ => false
  | date d, w =>
    match w with
    | date e => d == e
    | _ => false
  | list xs, w =>
    match w with
    | list ys => sameItems xs ys
    | _ => false
  | tuple xs, w =>
    match w with
    | tuple ys => sameItems xs ys
    | _ => false
  | set _ xs, w =>
    match w with
    | set _ ys => xs.length == ys.length && membersAmong xs ys
    | _ => false
  | mapping xs, w =>
    match w with
    | mapping ys => xs.length == ys.length && entriesAmong xs ys
    | _ => false
  | table xs, w =>
    match w with
    | table ys => xs.length == ys.length && rowsAmong xs ys
    | _ => false
  | record xs, w =>
    match w with
    | record ys => xs.length == ys.length && entriesAmong xs ys
    | _ => false
  | test _, _ => false

/-- Whether two lists are equal item by item. -/
def sameItems : List Value → List Value → Bool
  | [], ys => ys.isEmpty
  | x :: xs, ys =>
    match ys with
    | [] => false
    | y :: ys => same x y && sameItems xs ys

/-- Whether every item of the first list is equal to one of the second. -/
def membersAmong : List Value → List Value → Bool
  | [], _ => true
  | x :: xs, ys => ys.any (same x) && membersAmong xs ys

/-- Whether every entry of the first list has an equal one in the second. -/
def entriesAmong : List (String × Value) → List (String × Value) → Bool
  | [], _ => true
  | (key, x) :: xs, ys => (Fields.get? ys key).any (same x) && entriesAmong xs ys

/-- Whether every row of the first list has one in the second with an equal key and an equal value. -/
def rowsAmong : List (Value × Value) → List (Value × Value) → Bool
  | [], _ => true
  | (key, x) :: xs, ys =>
    ys.any (fun row => same key row.1 && same x row.2) && rowsAmong xs ys

end

instance : BEq Value := ⟨same⟩

/-- Equality that keeps truth values apart from numbers. -/
def strictSame (x y : Value) : Bool :=
  x.isBool == y.isBool && same x y

/-- Whether a list holds an item strictly equal to `x`. -/
def strictMember (items : List Value) (x : Value) : Bool :=
  items.any (strictSame x)

/-- The items of a set in the making, each value once. -/
def distinct (items : List Value) : List Value :=
  items.foldl (fun kept x => if kept.any (same x) then kept else kept ++ [x]) []

end Value
end GraphQuery
