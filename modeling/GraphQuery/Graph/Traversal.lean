import GraphQuery.Graph.Adjacency

/-!
# Breadth-first traversal

Two searches go through a graph breadth first: `connectedNodes` lists what lies within a number of steps
of an id, and `shortestPath` finds a path with as few edges as possible.  Each waits in a queue; every
id is expanded once, so no more than two entries per edge ever enter the queue, and one more than that
bounds the number of rounds.
-/

namespace GraphQuery

/-- How many steps a traversal may take: any number on the extended line. -/
abbrev DepthLimit := Extended

namespace DepthLimit

def unlimited : DepthLimit := .above

def ofNat (n : Nat) : DepthLimit := .exact n

/-- Whether a depth lies beyond the limit. -/
def exceededBy (limit : DepthLimit) (depth : Nat) : Bool := limit.less (.exact depth)

/-- Whether a step may be taken from a depth. -/
def allowsFrom (limit : DepthLimit) (depth : Nat) : Bool := Extended.less (.exact depth) limit

/-- Whether a depth lies at the limit or beyond. -/
def reachedBy (limit : DepthLimit) (depth : Nat) : Bool := limit.atMost (.exact depth)

end DepthLimit

/-- The number of rounds that empty any queue over an edge list. -/
def queueRounds (edges : List Edge) : Nat := 2 * edges.length + 1

/-- The ids found from a queue of ids with their depths, in order and with their depths. -/
def visits (adjacent : EntityId → List EntityId) (limit : DepthLimit) :
    Nat → List (EntityId × Nat) → List EntityId → List (EntityId × Nat)
  | 0, _, _ => []
  | _ + 1, [], _ => []
  | rounds + 1, (id, depth) :: queue, visited =>
    -- An id may wait more than once; only its first turn counts.
    if visited.contains id || limit.exceededBy depth then visits adjacent limit rounds queue visited
    else
      let onward :=
        if limit.allowsFrom depth then
          ((adjacent id).filter fun n => n ≠ id && !visited.contains n).map fun n => (n, depth + 1)
        else []
      (id, depth) :: visits adjacent limit rounds (queue ++ onward) (id :: visited)

/-- The ids within the limit of a start, in breadth-first order, the start left out. -/
def connectedIds (edges : List Edge) (direction : Direction) (limit : DepthLimit)
    (start : EntityId) : List EntityId :=
  let found := visits (Adjacency.ofEdges direction edges).lookup limit (queueRounds edges)
    [(start, 0)] []
  (found.filter fun entry => 0 < entry.2).map (·.1)

/-- The nodes within the limit of a start, in breadth-first order.  An id stands for the first node that
has it; ids that no node has are passed through. -/
def connectedNodes (graph : Snapshot) (direction : Direction) (limit : DepthLimit)
    (start : EntityId) : List Node :=
  (connectedIds graph.edges direction limit start).filterMap fun id =>
    graph.nodes.find? (·.id = id)

/-- An id that waits to be expanded, with the path to it, latest first. -/
structure Waiting where
  id : EntityId
  path : List EntityId
  depth : Nat

/-- The ids of a list that have not been visited, each once. -/
def unvisited (visited : List EntityId) (ids : List EntityId) : List EntityId :=
  ids.foldl (fun fresh id => if visited.contains id || fresh.contains id then fresh else fresh ++ [id])
    []

/-- The path to a target from a queue of waiting ids. -/
def pathFrom (adjacent : EntityId → List EntityId) (limit : DepthLimit) (target : EntityId) :
    Nat → List Waiting → List EntityId → Option (List EntityId)
  | 0, _, _ => none
  | _ + 1, [], _ => none
  | rounds + 1, current :: queue, visited =>
    if limit.reachedBy current.depth then pathFrom adjacent limit target rounds queue visited
    else
      let next := adjacent current.id
      -- The target is never left waiting, so the first path found is a shortest one.
      if next.contains target then some (target :: current.path).reverse
      else
        let fresh := unvisited visited next
        let onward := fresh.map fun id => ⟨id, id :: current.path, current.depth + 1⟩
        pathFrom adjacent limit target rounds (queue ++ onward) (visited ++ fresh)

/-- A path with as few edges as possible, whatever their direction, as the ids it goes through; none if
there is none within the limit. -/
def shortestPath (edges : List Edge) (limit : DepthLimit) (source target : EntityId) :
    Option (List EntityId) :=
  if source = target then some [source]
  else
    pathFrom (Adjacency.ofEdges .both edges).lookup limit target (queueRounds edges)
      [⟨source, [source], 0⟩] [source]

end GraphQuery
