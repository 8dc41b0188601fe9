import GraphQuery.Engine.Call.Basic
import GraphQuery.Engine.SetChange

/-!
# Operations on filter sets

The shelf of filter sets under the names by which its operations are called: the changes of the sets, and
the operations that look at them.
-/

namespace GraphQuery
namespace Call

/-- An operation that changes the filter sets and answers what is left of the graph. -/
def onChange (signature : Signature) (change : (String → Value) → SetChange) : Operation :=
  onSets signature fun arg now graph => return .filtered (← (change arg).run now graph)

/-- The nodes and edges of a graph that have the given ids, in the order of the graph. -/
def itemsOfIds (graph : Snapshot) (nodes edges : Value) : Outcome Snapshot := do
  let nodes ← Snapshot.iterated nodes
  let edges ← Snapshot.iterated edges
  let listed (ids : List Value) (id : EntityId) : Bool := ids.any (Value.same id.toValue)
  return ⟨graph.nodes.filter fun n => listed nodes n.id, graph.edges.filter fun e => listed edges e.id⟩

/-- The operation that makes a set of nodes and edges, which its arguments give by their ids. -/
def onFound : Operation :=
  onSets
    [optional "nodes" (.list []), optional "edges" (.list []), optional "name" (.text "searchFilter")]
    fun arg now graph => do
      let g ← FilterShelf.ofOutcome graph
      let found ← FilterShelf.ofOutcome (itemsOfIds g (arg "nodes") (arg "edges"))
      return .filtered (← (SetChange.createReady (.ofFound found.nodes found.edges (arg "name"))).run now graph)

/-- The changes of filter sets by name. -/
def setChanges : List (String × Operation) :=
  [("create_filter_set",
      onChange [required "name", required "config"] fun arg => .create (arg "name") (arg "config")),
    ("update_filter_set",
      onChange [required "name", required "config"] fun arg => .update (arg "name") (arg "config")),
    ("remove_filter_set", onChange [required "name"] fun arg => .remove (arg "name")),
    ("toggle_filter_set",
      onChange [required "name", optional "active" .null] fun arg =>
        .toggle (arg "name") (arg "active")),
    ("clear_all_filters", onChange [] fun _ => .clearAll),
    ("create_node_type_filter",
      onChange [required "node_types"] fun arg => .createReady (.ofType (arg "node_types"))),
    ("create_connection_filter",
      onChange [optional "min_connections" (.int 0), optional "max_connections" .null] fun arg =>
        .createReady (.ofConnections (arg "min_connections") (arg "max_connections"))),
    ("create_property_filter",
      onChange
        [required "property_name", required "property_value", optional "operator" (.text "eq")]
        fun arg =>
          .createReady (.ofProperty (arg "property_name") (arg "property_value") (arg "operator"))),
    ("create_text_filter",
      onChange [required "search_text", optional "field" (.text "label")] fun arg =>
        .createReady (.ofText (arg "search_text") (arg "field"))),
    ("create_filter_from_search", onFound),
    ("import_filters", onChange [required "payload"] fun arg => .importSets (arg "payload"))]

open FilterShelf in
/-- The operations that look at filter sets, or at the store they are kept in. -/
def setQueries : List (String × Operation) :=
  [("apply_all_active_filters", onSetsFiltered [] fun _ _ graph => applyAll graph),
    ("get_filter_set",
      onSets [required "name"] fun arg _ _ => do
        let name ← ofOutcome (EntryName.ofArgument (arg "name"))
        return .set ((← get).sets.get? name)),
    ("get_active_filters", onSets [] fun _ _ _ => return .sets (← get).sets.active),
    ("get_all_filters", onSets [] fun _ _ _ => return .sets (← get).sets),
    ("len", onSets [] fun _ _ _ => return .count (← get).sets.length),
    ("contains",
      onSets [required "name"] fun arg _ _ => do
        return .bool ((← get).sets.has (← ofOutcome (EntryName.ofArgument (arg "name"))))),
    ("export_filters", onSets [] fun _ _ _ => return .text (← exportText)),
    ("get_filter_history", onSets [] fun _ _ _ => return .actions (← get).history.actions),
    ("clear_filter_history",
      onSets [] fun _ _ _ => do
        modify fun shelf => { shelf with history := shelf.history.clear }
        return .nothing),
    ("get_filter_stats", onSets [] fun _ _ graph => return .filterStats (← stats graph)),
    ("save", onSets [] fun _ _ _ => do save; return .nothing),
    ("load", onSets [] fun _ now _ => return .count (← load now))]

/-- The operations on filter sets. -/
def setOperations : List (String × Operation) := setChanges ++ setQueries

end Call
end GraphQuery
