import GraphQuery.Engine.Config
import GraphQuery.Engine.SavedSearch
import GraphQuery.Filter.Shelf
import GraphQuery.Graph.Traversal
import GraphQuery.Search.Cache
import GraphQuery.Search.Criteria
import GraphQuery.Search.History
import GraphQuery.Search.TextSearch

/-!
# The query engine

An engine searches, traverses and filters one graph.  It owns the graph, reads it through an accessor,
or reads it from a container that tells it about changes; it never changes the graph itself.  The text
index shows the graph as it was when the index was last rebuilt.

`EngineM` is an operation on an engine in its surroundings.  What an operation has changed before it
fails stays changed.
-/

namespace GraphQuery

/-- Where an engine reads its graph. -/
inductive GraphSource where
  | owned
  | accessor
  | container (index : Nat)
deriving DecidableEq, Repr

/-- The answer of a quick search. -/
structure QuickAnswer where
  results : List SearchResult
  suggestions : List String

/-- An engine's registration with a container for changes of a key. -/
structure Subscription where
  container : Nat
  key : String
deriving DecidableEq, Repr

structure Engine where
  /-- Tells the engine apart from others that listen to the same container. -/
  number : Nat
  config : EngineConfig
  source : GraphSource
  owned : Snapshot
  index : SearchIndex
  history : SearchHistory
  cache : ResultCache QuickAnswer
  sets : FilterSets
  setHistory : FilterHistory
  saved : SavedSearches
  subscriptions : List Subscription

/-- A registration that a container holds. -/
structure Listener where
  engine : Nat
  key : String
deriving DecidableEq, Repr

/-- A place that holds nodes and edges and calls listeners when it changes. -/
structure Container where
  state : Fields
  listeners : List Listener
  /-- Whether a registration can be taken back. -/
  unsubscribable : Bool

/-- What an engine finds around it. -/
structure Surroundings where
  now : Timestamp
  store : Option Store
  /-- What the accessor gives. -/
  state : Value
  containers : List Container
  runtime : Runtime := .usual

structure Desk where
  engine : Engine
  around : Surroundings

abbrev EngineM := ExceptT Failure (StateM Desk)

namespace Desk

/-- The graph as its source gives it now. -/
def snapshot (desk : Desk) : Outcome Snapshot :=
  match desk.engine.source with
  | .owned => .ok desk.engine.owned
  | .accessor => Snapshot.coerce desk.around.state
  | .container i =>
    match desk.around.containers[i]? with
    | some c => Snapshot.coerce (.mapping c.state)
    | none => .ok .empty

end Desk

namespace Engine

def ofOutcome {α : Type} (answer : Outcome α) : EngineM α := ExceptT.mk (pure answer)

def modifyEngine (f : Engine → Engine) : EngineM Unit :=
  modify fun desk => { desk with engine := f desk.engine }

def modifyAround (f : Surroundings → Surroundings) : EngineM Unit :=
  modify fun desk => { desk with around := f desk.around }

/-- Runs an operation on the filter sets of the engine and the store around it. -/
def withSets {α : Type} (action : Timestamp → Outcome Snapshot → ShelfM α) : EngineM α := do
  let desk ← get
  let key := FilterShelf.keyFor desk.engine.config.storeNamespace
  let shelf : FilterShelf :=
    ⟨desk.engine.sets, desk.engine.setHistory, desk.around.store, key, desk.around.runtime⟩
  let (answer, shelf) := (action desk.around.now desk.snapshot).run.run shelf
  set (Desk.mk
    { desk.engine with sets := shelf.sets, setHistory := shelf.history }
    { desk.around with store := shelf.store })
  ofOutcome answer

/-- The graph as its source gives it now. -/
def snapshot : EngineM Snapshot := do ofOutcome (← get).snapshot

/-! ## The index -/

/-- Rebuilds the index from given nodes and edges and forgets cached results; they stay if the index cannot
be completed. -/
def buildIndex (nodes : List Node) (edges : List Edge) : EngineM Unit := do
  let (index, built) := SearchIndex.rebuild nodes edges
  modifyEngine fun e => { e with index }
  ofOutcome built
  modifyEngine fun e => { e with cache := e.cache.clear }

/-- Rebuilds the index from the graph. -/
def updateIndex : EngineM Unit := do
  let graph ← snapshot
  buildIndex graph.nodes graph.edges

/-- An engine before its sets are loaded and its index is built. -/
def blank (number : Nat) (config : EngineConfig) (source : GraphSource) (owned : Snapshot)
    (setHistory : FilterHistory) : Engine where
  number := number
  config := config
  source := source
  owned := owned
  index := []
  history := .withCapacity config.searchHistorySize
  cache := .new config.cacheCapacity (.float config.cacheEvictFraction)
  sets := []
  setHistory := setHistory
  saved := []
  subscriptions := []

/-- Loads the stored filter sets and builds the index. -/
def start : EngineM Unit := do
  let _ ← withSets fun now _ => FilterShelf.load now
  updateIndex

/-- A new engine at a desk, or why it cannot be started. -/
def openDesk (number : Nat) (config : EngineConfig) (source : GraphSource) (owned : Snapshot)
    (around : Surroundings) : Outcome Desk := do
  let setHistory ← FilterHistory.ofSize config.filterHistorySize
  let (answer, desk) := start.run.run ⟨blank number config source owned setHistory, around⟩
  answer.map fun _ => desk

/-- Replaces the graph of an engine that owns it. -/
def load (nodes edges : Value) (rebuild : Bool) : EngineM Unit := do
  if (← get).engine.source ≠ .owned then throw .boundElsewhere
  let nodes ← ofOutcome (Snapshot.iterated nodes)
  let edges ← ofOutcome (Snapshot.iterated edges)
  let owned ← ofOutcome (Check.snapshot (.list nodes) (.list edges)).toOutcome
  modifyEngine fun e => { e with owned }
  if rebuild then updateIndex

end Engine
end GraphQuery
