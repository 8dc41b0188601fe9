import GraphQuery.Value.Basic

/-!
# How deep values go

Copying a value, writing it and reading it back each take room on the stack, the more the deeper its parts stand in
one another.
-/

namespace GraphQuery
namespace Value

mutual

/-- How deep the copying of a value goes.  The items of a list are copied one level further down. -/
def copyDepth : Value → Nat
  | mapping entries => 1 + entriesDepth entries
  | table rows => 1 + rowsDepth rows
  | set _ items => 2 + itemsDepth items
  | tuple items => 2 + itemsDepth items
  | list items => 2 + itemsDepth items
  | .null => 0
  | .bool _ => 0
  | .int _ => 0
  | .float _ => 0
  | .text _ => 0
  | .date _ => 0
  | .record _ => 0
  | .test _ => 0

def itemsDepth : List Value → Nat
  | [] => 0
  | x :: xs => max (copyDepth x) (itemsDepth xs)

def entriesDepth : List (String × Value) → Nat
  | [] => 0
  | (_, x) :: xs => max (copyDepth x) (entriesDepth xs)

def rowsDepth : List (Value × Value) → Nat
  | [] => 0
  | (_, x) :: xs => max (copyDepth x) (rowsDepth xs)

end

mutual

/-- How many lists and objects are open at once in the text of a value. -/
def openDepth : Value → Nat
  | mapping entries => 1 + entriesOpenDepth entries
  | table rows => 1 + rowsOpenDepth rows
  | set _ items => 1 + itemsOpenDepth items
  | tuple items => 1 + itemsOpenDepth items
  | list items => 1 + itemsOpenDepth items
  | .null => 0
  | .bool _ => 0
  | .int _ => 0
  | .float _ => 0
  | .text _ => 0
  | .date _ => 0
  | .record _ => 0
  | .test _ => 0

def itemsOpenDepth : List Value → Nat
  | [] => 0
  | x :: xs => max (openDepth x) (itemsOpenDepth xs)

def entriesOpenDepth : List (String × Value) → Nat
  | [] => 0
  | (_, x) :: xs => max (openDepth x) (entriesOpenDepth xs)

def rowsOpenDepth : List (Value × Value) → Nat
  | [] => 0
  | (_, x) :: xs => max (openDepth x) (rowsOpenDepth xs)

end

end Value
end GraphQuery
