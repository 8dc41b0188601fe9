import GraphQuery.Number.Order
import GraphQuery.Time.Date

/-!
# Free-form values

Properties, criteria and configurations are free-form: a `Value` is what a property may hold and what a
criterion may be compared with.  Mappings keep their entries in order of insertion, each key once.  The
keys are texts as a rule; a mapping in which some are not is a table.
-/

namespace GraphQuery

/-- How a test that fails on every item fails. -/
inductive TestFailure where
  | mismatch
  | criteria
  | argument
deriving DecidableEq, Repr

/-- A test of nodes and edges that a caller supplies to a filter; `α` is the type of bounds. -/
inductive ItemTest (α : Type) where
  /-- Gives every item the same answer. -/
  | constant (answer : Bool)
  /-- Holds of the items whose label is not empty. -/
  | labelled
  /-- Holds of the items that have the property. -/
  | hasProperty (key : String)
  /-- Holds of the items whose property, zero when absent, is above the bound. -/
  | propertyAbove (key : String) (bound : α)
  /-- Fails on every item. -/
  | failing (way : TestFailure)

/-- A free-form value. -/
inductive Value where
  | null
  | bool (b : Bool)
  | int (n : Int)
  | float (x : Binary64)
  | text (s : String)
  | date (d : Date)
  | list (items : List Value)
  | tuple (items : List Value)
  | set (frozen : Bool) (items : List Value)
  | mapping (entries : List (String × Value))
  /-- A mapping whose keys are not all texts. -/
  | table (entries : List (Value × Value))
  /-- A thing with named attributes that is not a mapping. -/
  | record (attributes : List (String × Value))
  /-- A test of items; only custom filter criteria run it. -/
  | test (body : ItemTest Value)

/-- Named values in order, each name once. -/
abbrev Fields := List (String × Value)

namespace Fields

/-- The value of a name. -/
def get? (fields : Fields) (name : String) : Option Value :=
  (fields.find? (·.1 == name)).map (·.2)

/-- The value of a name, null when there is none. -/
def getD (fields : Fields) (name : String) : Value := (get? fields name).getD .null

def has (fields : Fields) (name : String) : Bool := fields.any (·.1 == name)

/-- Sets a name: a known one keeps its place, a new one comes last. -/
def insert : Fields → String → Value → Fields
  | [], name, v => [(name, v)]
  | (key, old) :: rest, name, v =>
    if key == name then (key, v) :: rest else (key, old) :: insert rest name v

/-- Keeps each name once, at its first place and with its last value. -/
def ofEntries (entries : List (String × Value)) : Fields :=
  entries.foldl (fun fields entry => insert fields entry.1 entry.2) []

def names (fields : Fields) : List String := fields.map (·.1)

end Fields

instance : Inhabited Value := ⟨.null⟩

namespace Value

/-- The place of a number on the extended line; a truth value counts as zero or one. -/
def number? : Value → Option Extended
  | bool b => some (.ofInt (if b then 1 else 0))
  | int n => some (.ofInt n)
  | float x => some (.ofBinary64 x)
  | _ => none

def isBool : Value → Bool
  | bool _ => true
  | _ => false

def isNull : Value → Bool
  | null => true
  | _ => false

/-- The items of a list, tuple or set. -/
def collection? : Value → Option (List Value)
  | list items | tuple items | set _ items => some items
  | _ => none

/-- The entries of a table whose keys are texts. -/
def textEntries : List (Value × Value) → Fields
  | [] => []
  | (text key, v) :: rest => (key, v) :: textEntries rest
  | _ :: rest => textEntries rest

/-- The items one gets by going through a value: the keys of a mapping, the characters of a text. -/
def iterated? : Value → Option (List Value)
  | text s => some (s.toList.map fun c => text (String.singleton c))
  | mapping entries => some (entries.map fun entry => text entry.1)
  | table rows => some (rows.map (·.1))
  | v => v.collection?

/-- What a mapping holds under texts. -/
def mapping? : Value → Option Fields
  | mapping entries => some entries
  | table entries => some (textEntries entries)
  | _ => none

def text? : Value → Option String
  | text s => some s
  | _ => none

/-- Whether a value counts as true: null, zero and what is empty do not. -/
def isTruthy : Value → Bool
  | null => false
  | bool b => b
  | int n => n ≠ 0
  | float x => !x.isZero
  | text s => s ≠ ""
  | date _ => true
  | list items | tuple items | set _ items => !items.isEmpty
  | mapping entries => !entries.isEmpty
  | table entries => !entries.isEmpty
  | record _ => true
  | test _ => true

/-- The name of a value's kind, as error messages give it. -/
def kindName : Value → String
  | null => "NoneType"
  | bool _ => "bool"
  | int _ => "int"
  | float _ => "float"
  | text _ => "str"
  | date _ => "date"
  | list _ => "list"
  | tuple _ => "tuple"
  | set false _ => "set"
  | set true _ => "frozenset"
  | mapping _ | table _ => "dict"
  | record _ => "SimpleNamespace"
  | test _ => "function"

end Value
end GraphQuery
