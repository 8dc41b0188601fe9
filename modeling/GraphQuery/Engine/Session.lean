import GraphQuery.Engine.Search
import GraphQuery.Graph.Request
import GraphQuery.Value.Pairs

/-!
# Sessions

A session keeps a desk through the life of several engines.  Containers may still call an engine that
has been replaced; such a call reads the graph for an index that nobody sees, and is otherwise without effect.
-/

namespace GraphQuery

/-- What an engine is made from. -/
structure EngineSpec where
  nodes : Value := .null
  edges : Value := .null
  config : Option Value := none
  /-- The accessor's value, when the graph is read through one. -/
  state : Option Value := none

structure Session where
  desk : Desk
  /-- Where engines that have been replaced read their graphs, by number. -/
  retired : List (Nat × GraphSource)

abbrev SessionM := ExceptT Failure (StateM Session)

/-- How many listeners each key of a container has. -/
structure ListenerCounts where
  nodes : Nat
  edges : Nat
deriving DecidableEq, Repr

namespace Session

def ofOutcome {α : Type} (answer : Outcome α) : SessionM α := ExceptT.mk (pure answer)

/-- Runs an operation of the engine. -/
def withEngine {α : Type} (action : EngineM α) : SessionM α := do
  let session ← get
  let (answer, desk) := action.run.run session.desk
  set { session with desk }
  ofOutcome answer

/-- A new engine at the given surroundings, or why it cannot be started. -/
def makeDesk (number : Nat) (spec : EngineSpec) (around : Surroundings) : Outcome Desk := do
  let config ← match spec.config with
    | some v => (Check.engineConfig v).toOutcome
    | none => .ok {}
  let owned ←
    (Check.snapshot (Snapshot.orEmpty spec.nodes) (Snapshot.orEmpty spec.edges)).toOutcome
  let source := if spec.state.isSome then GraphSource.accessor else .owned
  let around := { around with state := spec.state.getD around.state }
  Engine.openDesk number config source owned around

/-- A session with its first engine. -/
def start (spec : EngineSpec) (now : Timestamp) (store : Option Store) : Outcome Session :=
  (makeDesk 0 spec ⟨now, store, .null, [], .usual⟩).map fun desk => ⟨desk, []⟩

/-- Replaces the engine; one that cannot be started leaves the old one in place. -/
def newEngine (spec : EngineSpec) : SessionM Unit := do
  let session ← get
  let old := session.desk.engine
  -- A failure ends here, before the session has changed.
  let desk ← ofOutcome (makeDesk (old.number + 1) spec session.desk.around)
  set (Session.mk desk ((old.number, old.source) :: session.retired))

/-! ## Containers -/

/-- Takes back a registration. -/
def unsubscribe (engine : Nat) (containers : List Container) (s : Subscription) : List Container :=
  containers.modify s.container fun c => { c with listeners := c.listeners.erase ⟨engine, s.key⟩ }

/-- Takes back all registrations that can be taken back. -/
def unbind : EngineM Unit :=
  modify fun desk =>
    let containers :=
      desk.engine.subscriptions.foldl (unsubscribe desk.engine.number) desk.around.containers
    ⟨{ desk.engine with subscriptions := [] }, { desk.around with containers }⟩

/-- The keys whose changes an engine listens to. -/
def watchedKeys : List String := ["nodes", "edges"]

/-- Reads the graph from a container and listens to its changes. -/
def bind (place : Nat) : EngineM Unit := do
  unbind
  modify fun desk =>
    let listeners := watchedKeys.map (Listener.mk desk.engine.number)
    let unsubscribable := desk.around.containers[place]?.any (·.unsubscribable)
    let subscriptions := if unsubscribable then watchedKeys.map (Subscription.mk place) else []
    ⟨{ desk.engine with source := .container place, subscriptions },
      { desk.around with
        containers := desk.around.containers.modify place fun c =>
          { c with listeners := c.listeners ++ listeners } }⟩
  Engine.updateIndex

/-- Reads the graph from a new container and listens to its changes. -/
def bindNew (state : Fields) (unsubscribable : Bool) : EngineM Unit := do
  let place := (← get).around.containers.length
  Engine.modifyAround fun around =>
    { around with containers := around.containers ++ [⟨state, [], unsubscribable⟩] }
  bind place

def counts (c : Container) : ListenerCounts :=
  let count (key : String) : Nat := (c.listeners.filter (·.key = key)).length
  ⟨count "nodes", count "edges"⟩

def listenerCounts : SessionM (List ListenerCounts) := do
  return (← get).desk.around.containers.map counts

/-- Calls one listener of a container. -/
def notify (listener : Listener) : SessionM Unit := do
  let session ← get
  if listener.engine = session.desk.engine.number then withEngine Engine.updateIndex
  else
    match session.retired.find? (·.1 = listener.engine) with
    | some (_, source) =>
      -- The old engine reads the graph from its own source and builds its index, and fails if it cannot.
      let desk := { session.desk with engine := { session.desk.engine with source } }
      let graph ← ofOutcome desk.snapshot
      ofOutcome (SearchIndex.rebuild graph.nodes graph.edges).2
    | none => return

/-- Stores a value in a container and calls the listeners of its key, up to the first that fails. -/
def change (index : Nat) (key : String) (value : Value) : SessionM Unit := do
  withEngine <| Engine.modifyAround fun around =>
    { around with
      containers := around.containers.modify index fun c =>
        { c with state := Fields.insert c.state key value } }
  match (← get).desk.around.containers[index]? with
  | some c => (c.listeners.filter (·.key = key)).forM notify
  | none => throw .noSuchPart

end Session
end GraphQuery
