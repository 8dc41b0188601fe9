import GraphQuery.Engine.Call.FilterSets
import GraphQuery.Engine.Call.Surroundings

/-!
# Calls by name

Every operation of an engine, of its filter sets and of its store can be called by name with free-form
arguments.  `Session.call` finds the operation, checks its arguments and runs it.
-/

namespace GraphQuery
namespace Call

/-- The operation of a name; names of operations on the sets and on the store say so. -/
def find? (name : String) : Option Operation :=
  let within (start : String) (operations : List (String × Operation)) :=
    (operations.find? fun entry => start ++ entry.1 = name).map (·.2)
  if name = "advanced_search" then some advancedSearch
  else
    within "" engineOperations <|> within "filters." setOperations <|>
      within "store." storeOperations <|> within "" sessionOperations

end Call

namespace Session

/-- Runs the operation of a name with named arguments. -/
def call (name : String) (arguments : Fields) : SessionM Answer := do
  match Call.find? name with
  | none => throw .noSuchPart
  | some operation =>
    let bound ←
      if operation.lenient then pure arguments
      else ofOutcome (Signature.bind operation.signature arguments)
    operation.run bound

end Session
end GraphQuery
