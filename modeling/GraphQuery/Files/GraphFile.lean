import GraphQuery.Files.FileTree
import GraphQuery.Graph.Document
import GraphQuery.Json.Reader

/-!
# Graphs in files

A graph is kept in a file as one JSON document.  Saving empties the file before the document is made, so
a graph that has no document leaves an empty file behind, and one whose text cannot be finished leaves the
beginning of it.
-/

namespace GraphQuery

/-- The graph that a text describes. -/
def Snapshot.ofText (s : String) (room : Nat := Json.nestingLimit) : Outcome Snapshot :=
  match Json.parse s room with
  | .ok document => Snapshot.ofDocument document
  | .error .malformed => .error .malformedJson
  | .error (.longInteger digits) => .error (.argument (.longInteger digits))
  | .error .nestedTooDeep => .error .nestedTooDeep

namespace FileTree

/-- Loads the graph at a path, which must lie inside the base directory if there is one. -/
def loadGraph (tree : FileTree) (path : String) (base : Option String) (room : Nat := Json.nestingLimit) :
    Outcome Snapshot := do
  let place ← Location.within? tree.current base path
  Snapshot.ofText (← tree.readResolved place) room

/-- Saves a graph at a path, which must lie inside the base directory if there is one. -/
def saveGraph (tree : FileTree) (graph : Snapshot) (path : String) (base : Option String)
    (dump : Fields → Outcome Fields := Fields.plain) : FileTree × Outcome Unit :=
  let opened : Outcome (FileTree × Location) := do
    let place ← Location.within? tree.current base path
    let tree ← tree.makeDirectories place.dropLast
    -- Opening the file for writing empties it.
    return (← tree.writeAt place "", place)
  match opened with
  | .error e => (tree, .error e)
  | .ok (emptied, place) =>
    match graph.fileText dump with
    | .ok s => (emptied.put place (.text s), .ok ())
    | .error e => (emptied.put place (.text (graph.begunText dump)), .error e)

end FileTree
end GraphQuery
