import GraphQuery.Engine.Arguments
import GraphQuery.Filter.Shelf

/-!
# Changes of filter sets

A `SetChange` is a change of the filter sets together with its arguments, which are values of any kind.
Ready-made sets have a fixed name, or one that goes by their arguments, and a configuration that is built
from the arguments.
-/

namespace GraphQuery

/-- A filter set whose configuration is built from a few arguments. -/
inductive ReadyMade where
  /-- Nodes of a type, or of one of several types. -/
  | ofType (types : Value)
  /-- Nodes with a number of connections; null for no greatest number. -/
  | ofConnections (least most : Value)
  /-- Nodes with a property. -/
  | ofProperty (name value operator : Value)
  /-- Nodes in one of whose text fields a text occurs. -/
  | ofText (part field : Value)
  /-- Nodes and edges with the ids of given ones, such as a search has found. -/
  | ofFound (nodes : List Node) (edges : List Edge) (name : Value)

namespace ReadyMade

/-- The name and the configuration of a ready-made set. -/
def named : ReadyMade → Outcome (Value × Value)
  | ofType types => do
    let types ← match types with
      | .text s => .ok [.text s]
      | types => Snapshot.iterated types
    return (.text "nodeType", QuickFilter.byType types)
  | ofConnections least most =>
    let config := match most with
      | .null => QuickFilter.byConnections least
      | most => QuickFilter.byConnectionRange least most
    .ok (.text "connections", config)
  | ofProperty name value operator => do
    let shown ← name.toText
    return (.text ("property-" ++ shown), ← QuickFilter.byProperty name value operator)
  | ofText part field => do
    return (.text "textSearch", ← QuickFilter.byText field part)
  | ofFound nodes edges name =>
    let nodeIds := nodes.map fun n => n.id.toValue
    let edgeIds := edges.map fun e => e.id.toValue
    .ok (name,
      .mapping
        [("nodes", .mapping [("id", .list nodeIds)]), ("edges", .mapping [("id", .list edgeIds)])])

end ReadyMade

/-- A change of the filter sets. -/
inductive SetChange where
  | create (name config : Value)
  | createReady (set : ReadyMade)
  | update (name config : Value)
  | remove (name : Value)
  /-- Null switches a set to its other state. -/
  | toggle (name active : Value)
  | clearAll
  | importSets (payload : Value)

namespace SetChange

open FilterShelf

/-- Adds a set whose configuration is given as a mapping or as pairs; the name is looked at last. -/
def createNamed (now : Timestamp) (graph : Outcome Snapshot) (name config : Value) :
    ShelfM Snapshot := do
  let config ← ofOutcome config.toMapping
  let fields ← ofOutcome (Checked.under (.field "config") (Check.mapping config)).toOutcome
  FilterShelf.create now graph (← ofOutcome (EntryName.ofArgument name)) fields

/-- Makes a change and answers what is left of the graph after it; none where there is no such set to be
switched. -/
def run (now : Timestamp) (graph : Outcome Snapshot) : SetChange → ShelfM (Option Snapshot)
  | create name config => some <$> createNamed now graph name config
  | createReady set => do
    let (name, config) ← ofOutcome set.named
    some <$> createNamed now graph name config
  | update name config => do
    let name ← ofOutcome (EntryName.ofArgument name)
    some <$> FilterShelf.update now graph name config.toMapping
  | remove name => do
    some <$> FilterShelf.remove now graph (← ofOutcome (EntryName.ofArgument name))
  | toggle name active => do
    let name ← ofOutcome (EntryName.ofArgument name)
    let active := match active with
      | .null => none
      | v => some v.isTruthy
    FilterShelf.toggle now graph name active
  | clearAll => some <$> FilterShelf.clearAll now graph
  | importSets payload => some <$> FilterShelf.importSets now graph payload

end SetChange
end GraphQuery
