import GraphQuery.Graph.Entity

/-!
# Adjacency and degrees

The neighbours of an id are read off the edge list, in its order and with repeats for parallel edges.
A degree counts the edges at an id: a loop counts once as a connection, and once each in and out.
-/

namespace GraphQuery

/-- Which edges of a node lead on: those that leave it, those that enter it, or both. -/
inductive Direction where
  | outgoing
  | incoming
  | both
deriving DecidableEq, Repr

namespace Direction

def ofName? (s : String) : Option Direction :=
  if s = "out" then some outgoing
  else if s = "in" then some incoming
  else if s = "both" then some both
  else none

/-- Whether edges are followed from source to target. -/
def followsOut : Direction → Bool
  | incoming => false
  | _ => true

/-- Whether edges are followed from target to source. -/
def followsIn : Direction → Bool
  | outgoing => false
  | _ => true

end Direction

namespace Edge

/-- The steps along an edge as pairs of an id and its neighbour. -/
def steps (direction : Direction) (e : Edge) : List (EntityId × EntityId) :=
  (if direction.followsOut then [(e.source, e.target)] else []) ++
    (if direction.followsIn then [(e.target, e.source)] else [])

end Edge

/-- The neighbours of an id, in edge order. -/
def neighbors (direction : Direction) (edges : List Edge) (id : EntityId) : List EntityId :=
  ((edges.flatMap (Edge.steps direction)).filter (·.1 = id)).map (·.2)

/-- Neighbour lists by id, in order of first appearance. -/
abbrev Adjacency := List (EntityId × List EntityId)

namespace Adjacency

/-- Adds a neighbour to the list of an id. -/
def add : Adjacency → EntityId → EntityId → Adjacency
  | [], id, neighbor => [(id, [neighbor])]
  | (key, known) :: rest, id, neighbor =>
    if key = id then (key, known ++ [neighbor]) :: rest else (key, known) :: add rest id neighbor

def ofEdges (direction : Direction) (edges : List Edge) : Adjacency :=
  (edges.flatMap (Edge.steps direction)).foldl (fun table step => add table step.1 step.2) []

/-- The neighbours that a table lists for an id. -/
def lookup (table : Adjacency) (id : EntityId) : List EntityId :=
  ((table.find? (·.1 = id)).map (·.2)).getD []

end Adjacency

/-- Edge counts of one id. -/
structure Degree where
  incoming : Nat
  outgoing : Nat
  /-- Edges at the id, each counted once. -/
  connections : Nat
deriving DecidableEq, Repr

namespace Degree

def zero : Degree := ⟨0, 0, 0⟩

def total (d : Degree) : Nat := d.incoming + d.outgoing

/-- The count that a degree criterion names: incoming, outgoing or, by any other name, all. -/
def ofKind (d : Degree) (kind : Value) : Nat :=
  match kind with
  | .text "in" => d.incoming
  | .text "out" => d.outgoing
  | _ => d.total

def add (a b : Degree) : Degree :=
  ⟨a.incoming + b.incoming, a.outgoing + b.outgoing, a.connections + b.connections⟩

end Degree

namespace Edge

/-- What an edge adds to the degrees of its ends. -/
def degrees (e : Edge) : List (EntityId × Degree) :=
  [(e.source, ⟨0, 1, 1⟩), (e.target, ⟨1, 0, if e.target = e.source then 0 else 1⟩)]

end Edge

/-- Degrees by id, in order of first appearance. -/
abbrev DegreeTable := List (EntityId × Degree)

namespace DegreeTable

/-- Adds to the degree of an id. -/
def add : DegreeTable → EntityId → Degree → DegreeTable
  | [], id, d => [(id, d)]
  | (key, known) :: rest, id, d =>
    if key = id then (key, known.add d) :: rest else (key, known) :: add rest id d

def ofEdges (edges : List Edge) : DegreeTable :=
  (edges.flatMap Edge.degrees).foldl (fun table entry => add table entry.1 entry.2) []

/-- The degree of an id; zero for one that no edge refers to. -/
def lookup (table : DegreeTable) (id : EntityId) : Degree :=
  ((table.find? (·.1 = id)).map (·.2)).getD .zero

end DegreeTable
end GraphQuery
