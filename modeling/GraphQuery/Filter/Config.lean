import GraphQuery.Filter.Criteria
import GraphQuery.Value.LookupKey

/-!
# Filter configurations

A configuration gives criteria for nodes and for edges, and says whether edges are kept only between
nodes that are kept.  Degrees always count the edges of the whole graph, even when only a part of it is
filtered.
-/

namespace GraphQuery
namespace Filter

/-- Whether edges must have both ends kept: unless the configuration says exactly that they need not. -/
def cascades (config : Fields) : Bool :=
  match Fields.get? config "cascade_edges" with
  | some (.bool false) => false
  | _ => true

/-- The edges whose ends are both among the ids. -/
def edgesAmong (ids : List EntityId) (edges : List Edge) : List Edge :=
  edges.filter fun e => ids.contains e.source && ids.contains e.target

/-- What a configuration leaves of a part of a graph. -/
def applyFields (graph : Snapshot) (config : Fields) (part : Snapshot) : Outcome Snapshot := do
  let nodeCriteria := Fields.getD config "nodes"
  let edgeCriteria := Fields.getD config "edges"
  let nodes ←
    if nodeCriteria.isTruthy then
      -- Degrees come from the whole graph, not from the part.
      keepNodes (DegreeTable.ofEdges graph.edges) nodeCriteria part.nodes
    else .ok part.nodes
  let edges ← if edgeCriteria.isTruthy then keepEdges edgeCriteria part.edges else .ok part.edges
  return ⟨nodes, if cascades config then edgesAmong (nodes.map (·.id)) edges else edges⟩

/-- What a configuration leaves of a part of a graph; one that counts as false is empty. -/
def apply (graph : Snapshot) (config : Value) (part : Snapshot) : Outcome Snapshot :=
  if config.isTruthy then
    match config.mapping? with
    | some entries => applyFields graph entries part
    | none => .error .noSuchPart
  else applyFields graph [] part

end Filter

/-! ## Ready-made configurations -/

namespace QuickFilter

/-- A configuration with criteria for nodes only. -/
def forNodes (criteria : Fields) : Value := .mapping [("nodes", .mapping criteria)]

/-- A criterion that names an operator. -/
def criterion (operator : String) (value : Value) : Value :=
  .mapping [("operator", .text operator), ("value", value)]

def byType (types : List Value) : Value := forNodes [("type", .list types)]

def byConnections (least : Value) : Value := forNodes [("connections", criterion "gte" least)]

def byConnectionRange (least most : Value) : Value :=
  forNodes [("connections", criterion "between" (.list [least, most]))]

/-- A mapping with one entry, whose key must be a value that can be looked up. -/
def single (key v : Value) : Outcome Value :=
  if key.isLookupKey then .ok (.ofRows [(key, v)]) else .error .mismatch

/-- Text criteria on a field: the text must be contained. -/
def byText (field part : Value) : Outcome Value := do
  let criteria ← single field (.mapping [("value", part), ("operator", .text "contains")])
  return .mapping [("nodes", criteria)]

def byProperty (name value operator : Value) : Outcome Value := do
  let criteria ← single name (.mapping [("operator", operator), ("value", value)])
  return forNodes [("properties", criteria)]

/-- Nodes with one connection at most. -/
def leaves : Value := forNodes [("connections", criterion "lte" (.int 1))]

end QuickFilter
end GraphQuery
