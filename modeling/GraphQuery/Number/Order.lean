import GraphQuery.Number.Binary64

/-!
# Exact comparison of numbers

Integers and floating numbers are compared by their exact values on the extended line; a number that is
not a value compares with nothing, itself included.
-/

namespace GraphQuery

/-- A place on the extended number line, or no place. -/
inductive Extended where
  | undefined
  | below
  | exact (value : Rat)
  | above
deriving DecidableEq, Repr

namespace Extended

def ofInt (n : Int) : Extended := exact n

def ofBinary64 : Binary64 → Extended
  | .nan => undefined
  | .infinite true => below
  | .infinite false => above
  | x@(.finite _ _ _) => exact x.toRat

/-- The least integer that is not below a number, for numbers with a value. -/
def ceiling? : Extended → Option Int
  | exact q => some q.ceil
  | _ => none

/-- Whether two numbers have the same value. -/
def same : Extended → Extended → Bool
  | exact p, exact q => p = q
  | below, below => true
  | above, above => true
  | _, _ => false

/-- Whether the first number lies strictly below the second. -/
def less : Extended → Extended → Bool
  | undefined, _ => false
  | _, undefined => false
  | exact p, exact q => p < q
  | below, below => false
  | below, _ => true
  | exact _, above => true
  | exact _, below => false
  | above, _ => false

/-- Whether the first number lies at or below the second. -/
def atMost (x y : Extended) : Bool := x.same y || x.less y

theorem same_comm (x y : Extended) : x.same y = y.same x := by
  cases x <;> cases y <;> simp [same, eq_comm]

theorem same_self {x : Extended} (h : x ≠ undefined) : x.same x = true := by
  cases x <;> simp_all [same]

end Extended
end GraphQuery
