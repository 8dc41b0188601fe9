import GraphQuery.Engine.Call
import GraphQuery.Graph.Document

/-!
# Documents of answers

The plain forms in which a server gives nodes and edges, filter sets and counts.
-/

namespace GraphQuery
namespace Document

def ids (xs : List EntityId) : Value := .list (xs.map EntityId.toValue)

def count (n : Nat) : Value := .int n

def nodes (xs : List Node) : Outcome Value := do
  return .list (← xs.mapM fun n => (Entity.node n).document)

/-- The ids of what a filter leaves, after other members. -/
def filtered (members : Fields) (s : Snapshot) : Value :=
  .mapping (members ++ [("node_ids", ids s.nodeIds), ("edge_ids", ids s.edgeIds)])

def result (r : SearchResult) : Outcome Value := do
  return .mapping
    [("kind", .text r.entity.kind.name), ("score", .float r.score), ("item", ← r.entity.document)]

def time (t : Timestamp) : Value := .text t.zuluText

def timeOrNull (t : Option Timestamp) : Value := (t.map time).getD .null

def filterSet (r : FilterSetRecord) : Outcome Value := do
  return .mapping
    [("config", ← r.config.plain), ("active", .bool r.active),
      ("created", time r.created), ("updated", timeOrNull r.updated),
      ("imported", timeOrNull r.imported)]

def filterSets (sets : FilterSets) : Outcome Value := do
  return .mapping (← sets.mapM fun entry => return (entry.1.label, ← filterSet entry.2))

def filterStats (s : FilterStats) : Value :=
  .mapping
    [("original_nodes", count s.originalNodes), ("original_edges", count s.originalEdges),
      ("filtered_nodes", count s.keptNodes), ("filtered_edges", count s.keptEdges),
      ("removed_nodes", .int (s.originalNodes - s.keptNodes : Int)),
      ("removed_edges", .int (s.originalEdges - s.keptEdges : Int)),
      ("nodes_percent", .float s.nodesPercent), ("edges_percent", .float s.edgesPercent),
      ("active_filters", count s.activeSets)]

def engineStats (s : Engine.Stats) : Fields :=
  [("num_nodes", count s.nodes), ("num_edges", count s.edges), ("indexed_entries", count s.indexed),
    ("filter_sets", count s.filterSets), ("search_history", count s.queries)]

def cacheStats {α : Type} (cache : ResultCache α) : Value :=
  .mapping
    [("size", count cache.entries.length), ("capacity", cache.capacity),
      ("hits", count cache.hits), ("misses", count cache.misses), ("hit_rate", .int cache.hitRate)]

/-- What is reported in place of an answer. -/
def failure (e : Failure) : Value :=
  let message := match e.message? with
    | some text => e.kindName ++ ": " ++ text
    | none => e.kindName
  .mapping [("error", .bool true), ("message", .text message)]

end Document
end GraphQuery
