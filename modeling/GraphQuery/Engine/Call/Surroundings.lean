import GraphQuery.Engine.Call.Search

/-!
# Operations on what surrounds the engine

The store, the clock and the containers that an engine is bound to, and the parts of the engine that can
be asked on their own.
-/

namespace GraphQuery
namespace Call

/-- The store around the engine; without one nothing can be asked of it. -/
def theStore : EngineM Store := do
  match (← get).around.store with
  | some store => return store
  | none => throw .noSuchPart

def textArgument (v : Value) : EngineM String :=
  match v with
  | .text s => return s
  | _ => throw .mismatch

/-- The text that an argument is, if any; an argument that cannot be looked up is refused. -/
def keyArgument? (v : Value) : EngineM (Option String) :=
  if v.isLookupKey then return v.text? else throw .mismatch

/-- The operations on the store. -/
def storeOperations : List (String × Operation) :=
  [("get",
      onEngine [required "key"] fun arg => do
        let store ← theStore
        match (← keyArgument? (arg "key")).bind store.get? with
        | some s => return .text s
        | none => return .nothing),
    ("keys", onEngine [] fun _ => return .texts (← theStore).keys),
    ("set",
      onEngine [required "key", required "value"] fun arg => do
        let store ← theStore
        let key ← textArgument (arg "key")
        let value ← textArgument (arg "value")
        let store ← Engine.ofOutcome (store.write key value)
        Engine.modifyAround fun around => { around with store := some store }
        return .nothing),
    ("delete",
      onEngine [required "key"] fun arg => do
        let store ← theStore
        -- Where nothing is kept, nothing is looked up.
        if store.content.isEmpty then return .bool false
        match ← keyArgument? (arg "key") with
        | none => return .bool false
        | some key =>
          let (store, found) := store.delete key
          Engine.modifyAround fun around => { around with store := some store }
          return .bool found),
    ("refuse",
      onEngine [required "on"] fun arg => do
        Engine.modifyAround fun around =>
          { around with
            store := around.store.map fun store => { store with refuses := (arg "on").isTruthy } }
        return .nothing)]

/-- Nodes and edges checked one by one. -/
def checkedItems {α : Type} (check : Value → Checked α) (v : Value) : Outcome (List α) := do
  (← Snapshot.iterated v).mapM fun item => (check item).toOutcome

/-- The operations beyond those of the engine itself. -/
def sessionOperations : List (String × Operation) :=
  [("clock",
      onSession [required "at"] fun arg => do
        match (arg "at").text?.bind Timestamp.ofText? with
        | some now =>
          Session.withEngine <| Engine.modifyAround fun around => { around with now }
          return .nothing
        | none => throw .mismatch),
    ("build_index",
      onEngine [required "nodes", required "edges"] fun arg => do
        let nodes ← Engine.ofOutcome (checkedItems Check.node (arg "nodes"))
        let edges ← Engine.ofOutcome (checkedItems Check.edge (arg "edges"))
        Engine.buildIndex nodes edges
        return .count (← get).engine.index.length),
    ("filter_chain",
      onEngine [required "configs"] fun arg => do
        let graph ← Engine.snapshot
        let configs ← Engine.ofOutcome (Snapshot.iterated (arg "configs"))
        return .filtered (some (← Engine.applyChain configs graph))),
    ("filter_nodes",
      onEngine [required "criteria"] fun arg => do
        let graph ← Engine.snapshot
        let degrees := DegreeTable.ofEdges graph.edges
        return .nodes
          (← Engine.ofOutcome (Filter.keepNodes degrees (arg "criteria") graph.nodes))),
    ("filter_edges",
      onEngine [required "criteria"] fun arg => do
        let graph ← Engine.snapshot
        return .edges (← Engine.ofOutcome (Filter.keepEdges (arg "criteria") graph.edges))),
    ("state_set",
      onEngine [required "value"] fun arg => do
        Engine.modifyAround fun around => { around with state := arg "value" }
        return .nothing),
    ("bind",
      onSession [required "state", optional "unsubscribable" (.bool true)] fun arg => do
        let state := ((arg "state").mapping?).getD []
        Session.withEngine (Session.bindNew state (arg "unsubscribable").isTruthy)
        return .listeners (← Session.listenerCounts)),
    ("unbind",
      onSession [] fun _ => do
        Session.withEngine Session.unbind
        return .listeners (← Session.listenerCounts)),
    ("container_set",
      onSession [required "key", required "value", optional "index" .null] fun arg => do
        let made := (← get).desk.around.containers.length
        let index := match arg "index" with
          | .int n => n.toNat
          | _ => made - 1
        Session.change index (arg "key").display (arg "value")
        return .nothing)]

end Call
end GraphQuery
