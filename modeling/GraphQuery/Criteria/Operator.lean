/-!
# Comparison operators

The closed list of operators with their names and aliases.  A name outside the list stands for
equality.
-/

namespace GraphQuery

inductive Operator where
  | eq
  | ne
  | gt
  | gte
  | lt
  | lte
  | oneOf
  | noneOf
  | between
  | contains
  | startsWith
  | endsWith
  | regex
deriving DecidableEq, Repr

namespace Operator

def all : List Operator :=
  [eq, ne, gt, gte, lt, lte, oneOf, noneOf, between, contains, startsWith, endsWith, regex]

/-- The name by which criteria call an operator. -/
def name : Operator → String
  | eq => "eq"
  | ne => "ne"
  | gt => "gt"
  | gte => "gte"
  | lt => "lt"
  | lte => "lte"
  | oneOf => "in"
  | noneOf => "nin"
  | between => "between"
  | contains => "contains"
  | startsWith => "startsWith"
  | endsWith => "endsWith"
  | regex => "regex"

/-- The symbols that stand for operators. -/
def aliases : List (String × Operator) :=
  [("=", eq), ("==", eq), ("!=", ne), (">", gt), (">=", gte), ("<", lt), ("<=", lte)]

/-- The operator of a name or symbol. -/
def ofName? (s : String) : Option Operator :=
  match aliases.find? (·.1 == s) with
  | some (_, op) => some op
  | none => all.find? (·.name == s)

theorem mem_all (op : Operator) : op ∈ all := by cases op <;> decide

end Operator
end GraphQuery
