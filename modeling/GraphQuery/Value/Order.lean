import GraphQuery.Value.Equality

/-!
# Order of values

Numbers are ordered by exact value, texts by code point, dates by the calendar, lists and tuples
lexicographically and sets by inclusion.  Values of other or mixed kinds cannot be ordered, which
`none` says.
-/

namespace GraphQuery
namespace Value

mutual

/-- Whether the first value lies below the second, or, unless `strict`, is equal to it; `none` if the
two cannot be ordered. -/
def below? (strict : Bool) : Value → Value → Option Bool
  | bool b, w => w.number?.map (numberBelow strict (.ofInt (if b then 1 else 0)))
  | int n, w => w.number?.map (numberBelow strict (.ofInt n))
  | float x, w => w.number?.map (numberBelow strict (.ofBinary64 x))
  | text s, w =>
    match w with
    | text t => some (if strict then s < t else s ≤ t)
    | _ => none
  | date d, w =>
    match w with
    | date e => some (d.before e || (!strict && d == e))
    | _ => none
  | list xs, w =>
    match w with
    | list ys => itemsBelow? strict xs ys
    | _ => none
  | tuple xs, w =>
    match w with
    | tuple ys => itemsBelow? strict xs ys
    | _ => none
  | set _ xs, w =>
    match w with
    | set _ ys => some (membersAmong xs ys && !(strict && xs.length == ys.length))
    | _ => none
  | null, _ => none
  | mapping _, _ => none
  | table _, _ => none
  | record _, _ => none
  | test _, _ => none
where
  /-- The order of numbers. -/
  numberBelow (strict : Bool) (x y : Extended) : Bool :=
    if strict then x.less y else x.atMost y

/-- Lists compare by their first items that differ, else by their lengths. -/
def itemsBelow? (strict : Bool) : List Value → List Value → Option Bool
  | [], ys => some (!(strict && ys.isEmpty))
  | x :: xs, ys =>
    match ys with
    | [] => some false
    | y :: ys => if same x y then itemsBelow? strict xs ys else below? strict x y

end

/-- The set of the given items, each once and ascending where they can be ordered. -/
def setOf (frozen : Bool) (items : List Value) : Value :=
  set frozen ((distinct items).mergeSort fun x y => (below? false x y).getD true)

end Value
end GraphQuery
