import GraphQuery.Failure
import GraphQuery.Value.Equality

/-!
# Recent queries

The latest distinct queries, newest first.  A query that is made again moves to the front; one that
repeats the query recorded last changes nothing, and neither does one that counts as false, like the
empty text.
-/

namespace GraphQuery

structure SearchHistory where
  capacity : Int
  queries : List Value
  /-- The query recorded last, the empty text when there is none. -/
  last : Value

namespace SearchHistory

def withCapacity (capacity : Int) : SearchHistory := ⟨capacity, [], .text ""⟩

/-- What a capacity leaves of a list: a negative one drops that many from its end. -/
def truncate {α : Type} (capacity : Int) (xs : List α) : List α :=
  if capacity < 0 then xs.take (xs.length - (-capacity).toNat) else xs.take capacity.toNat

/-- The queries with the given one in front and nowhere else. -/
def promote (query : Value) (queries : List Value) : List Value := query :: queries.erase query

/-- Whether a query is not recorded. -/
def ignores (history : SearchHistory) (query : Value) : Bool :=
  !query.isTruthy || query == history.last

def add (history : SearchHistory) (query : Value) : SearchHistory :=
  if history.ignores query then history
  else
    { history with
      queries := truncate history.capacity (promote query history.queries)
      last := query }

/-- Adds a query to a history of the size that a value gives; null keeps nothing.  A size that is no count
fails once the query stands in front. -/
def addSized (size : Value) (history : SearchHistory) (query : Value) :
    Outcome Unit × SearchHistory :=
  let counted (n : Int) := (.ok (), { history with capacity := n }.add query)
  match size with
  | .int n => counted n
  | .bool b => counted (if b then 1 else 0)
  | .null => counted 0
  | _ =>
    if history.ignores query then (.ok (), history)
    else (.error .mismatch, { history with queries := promote query history.queries })

def clear (history : SearchHistory) : SearchHistory := { history with queries := [], last := .text "" }

end SearchHistory
end GraphQuery
