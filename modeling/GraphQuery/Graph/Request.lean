import GraphQuery.Failure
import GraphQuery.Graph.Traversal
import GraphQuery.Value.LookupKey

/-!
# Traversal requests

Traversals asked for with free-form arguments.  A start may be any value that can be looked up: one that
equals no id has no neighbours.  A path begins with the start as it was given.
-/

namespace GraphQuery
namespace Direction

/-- The direction that an argument names. -/
def ofValue (v : Value) : Outcome Direction :=
  match v.text?.bind ofName? with
  | some direction => .ok direction
  | none => .error (.showing v (.argument (.direction v)))

end Direction

namespace DepthLimit

/-- The limit that an argument sets: a number, or null for none. -/
def ofValue (v : Value) : Outcome DepthLimit :=
  match v with
  | .null => .ok unlimited
  | _ =>
    match v.number? with
    | some limit => .ok limit
    | none => .error .mismatch

end DepthLimit

namespace Traversal

/-- A value that can be looked up. -/
def lookupKey (v : Value) : Outcome Unit :=
  if v.isLookupKey then .ok () else .error .mismatch

/-- The nodes within a number of steps of a start. -/
def connected (graph : Snapshot) (start limit direction : Value) : Outcome (List Node) := do
  let direction ← Direction.ofValue direction
  lookupKey start
  let limit ← DepthLimit.ofValue limit
  match EntityId.ofValue? start with
  | some id => return connectedNodes graph direction limit id
  | none => return []

/-- A path with as few edges as possible, beginning with the source as given. -/
def path (edges : List Edge) (source target limit : Value) : Outcome (Option (List Value)) := do
  if Value.same source target then return some [source]
  else
    lookupKey source
    let limit ← DepthLimit.ofValue limit
    match EntityId.ofValue? source, EntityId.ofValue? target with
    | some s, some t =>
      return (shortestPath edges limit s t).map fun ids => source :: (ids.drop 1).map EntityId.toValue
    | _, _ => return none

/-- The neighbours of an id. -/
def connections (edges : List Edge) (id direction : Value) : Outcome (List EntityId) := do
  let direction ← Direction.ofValue direction
  match EntityId.ofValue? id with
  | some id => return neighbors direction edges id
  | none => return []

end Traversal
end GraphQuery
