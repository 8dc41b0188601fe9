import GraphQuery.Engine.Arguments

/-!
# Operations

An `Operation` is a computation of the session together with its parameters; an `Answer` is what it may
give.  Operations of the engine and of its filter sets are operations of the session in which the engine
has been started.
-/

namespace GraphQuery

/-- What a call answers. -/
inductive Answer where
  | nothing
  | bool (b : Bool)
  | count (n : Int)
  | text (s : String)
  | texts (xs : List String)
  | values (xs : List Value)
  | nodes (xs : List Node)
  | edges (xs : List Edge)
  | node (x : Option Node)
  | graph (s : Snapshot)
  | filtered (s : Option Snapshot)
  | results (xs : List SearchResult)
  | quick (answer : QuickAnswer)
  | path (ids : Option (List Value))
  | sets (xs : FilterSets)
  | set (x : Option FilterSetRecord)
  | actions (xs : List FilterAction)
  | filterStats (s : FilterStats)
  | saved (s : SavedSearch)
  | savedAll (xs : SavedSearches)
  | engineStats (s : Engine.Stats)
  | cacheStats (size hits misses : Nat) (capacity : Value) (hitRate : Int)
  | listeners (xs : List ListenerCounts)

namespace Call

/-- An operation with its parameters. -/
structure Operation where
  signature : Signature
  /-- Whether arguments beyond the parameters are ignored. -/
  lenient : Bool := false
  run : Fields → SessionM Answer

def required (name : String) : String × Option Value := (name, none)

def optional (name : String) (default : Value) : String × Option Value := (name, some default)

/-- An operation of the session. -/
def onSession (signature : Signature) (run : (String → Value) → SessionM Answer) : Operation :=
  ⟨signature, false, fun given => run (Fields.getD given)⟩

/-- An operation of the engine. -/
def onEngine (signature : Signature) (run : (String → Value) → EngineM Answer) : Operation :=
  onSession signature fun arg => Session.withEngine (run arg)

/-- An operation on the filter sets, given the time and the graph. -/
def onSets (signature : Signature)
    (run : (String → Value) → Timestamp → Outcome Snapshot → ShelfM Answer) : Operation :=
  onEngine signature fun arg => Engine.withSets (run arg)

/-- An operation on the filter sets that answers what they leave. -/
def onSetsFiltered (signature : Signature)
    (run : (String → Value) → Timestamp → Outcome Snapshot → ShelfM Snapshot) : Operation :=
  onSets signature fun arg now graph => return .filtered (some (← run arg now graph))

end Call
end GraphQuery
