import GraphQuery.Filter.History
import GraphQuery.Filter.Payload
import GraphQuery.Number.Fixed
import GraphQuery.Store.KeyValue

/-!
# Changing filter sets

A `FilterShelf` holds the filter sets, the history of their changes and the store they are kept in.
Every change is written to the store before it takes effect, so a refused write changes nothing; it is
recorded in the history next, and the answer shows what the sets leave of the graph after it.

The graph is passed as an outcome, for it may come from a place where it cannot be read.
-/

namespace GraphQuery

structure FilterShelf where
  sets : FilterSets
  history : FilterHistory
  store : Option Store
  storeKey : String
  runtime : Runtime := .usual

/-- An operation on a shelf; what it has changed before it fails stays changed. -/
abbrev ShelfM := ExceptT Failure (StateM FilterShelf)

/-- How much the active sets leave of a graph. -/
structure FilterStats where
  originalNodes : Nat
  originalEdges : Nat
  keptNodes : Nat
  keptEdges : Nat
  activeSets : Nat

namespace FilterStats

/-- The percentage of items that are filtered out, to tenths. -/
def reduction (total kept : Nat) : Binary64 :=
  if total = 0 then .zero
  else
    let left := Binary64.sub (.ofNat 1) (.ratio kept total)
    Number.roundToTenths (Binary64.mul left (.ofNat 100))

def nodesPercent (s : FilterStats) : Binary64 := reduction s.originalNodes s.keptNodes

def edgesPercent (s : FilterStats) : Binary64 := reduction s.originalEdges s.keptEdges

end FilterStats

namespace FilterShelf

/-- The key under which the filter sets of a namespace are stored. -/
def keyFor (space : String) : String := space ++ ":filter_sets"

def ofOutcome {α : Type} (answer : Outcome α) : ShelfM α := ExceptT.mk (pure answer)

/-- Writes sets to the store, if there is one. -/
def persist (sets : FilterSets) : ShelfM Unit := do
  let shelf ← get
  match shelf.store with
  | none => return
  | some store =>
    let text ← ofOutcome (sets.serializeAt shelf.runtime)
    let store ← ofOutcome (store.write shelf.storeKey text)
    set { shelf with store := some store }

/-- Writes sets to the store and only then makes them current. -/
def commit (sets : FilterSets) : ShelfM Unit := do
  persist sets
  modify fun shelf => { shelf with sets }

/-- Records an action given by its fields. -/
def record (now : Timestamp) (fields : Fields) : ShelfM Unit := do
  let shelf ← get
  let history ← ofOutcome (shelf.history.record now fields)
  set { shelf with history }

/-- Records what was done to a set with a configuration. -/
def recordSet (now : Timestamp) (kind : ActionKind) (name : EntryName) (config : Value) :
    ShelfM Unit :=
  record now [("action", .text kind.name), ("name", name.value), ("config", config)]

/-- What all active sets leave of the graph. -/
def applyAll (graph : Outcome Snapshot) : ShelfM Snapshot := do
  let g ← ofOutcome graph
  ofOutcome ((← get).sets.applyAll g)

/-- Adds an active set and answers what it leaves of the graph by itself. -/
def create (now : Timestamp) (graph : Outcome Snapshot) (name : EntryName) (config : Fields) :
    ShelfM Snapshot := do
  let sets := (← get).sets
  commit (sets.insert name ⟨.mapping config, true, now, none, none⟩)
  recordSet now .created name (.mapping config)
  let g ← ofOutcome graph
  ofOutcome (Filter.apply g (.mapping config) g)

/-- Replaces the configuration of a known set by a mapping.  The history takes only mappings whose keys are
texts; the set has its new configuration even so. -/
def update (now : Timestamp) (graph : Outcome Snapshot) (name : EntryName) (config : Outcome Value) :
    ShelfM Snapshot := do
  let sets := (← get).sets
  match sets.get? name with
  | none => throw (.showing name.value (.missing (.filterSet name.value)))
  | some existing =>
    let config ← ofOutcome config
    commit (sets.insert name { existing with config, updated := some now })
    recordSet now .updated name config
    applyAll graph

/-- Removes a set; an unknown name changes nothing. -/
def remove (now : Timestamp) (graph : Outcome Snapshot) (name : EntryName) : ShelfM Snapshot := do
  let sets := (← get).sets
  match sets.get? name with
  | none => pure ()
  | some removed =>
    -- The history keeps the configuration that has been removed.
    commit (sets.erase name)
    recordSet now .removed name removed.config
  applyAll graph

/-- Switches a set on or off, or to its other state; none for an unknown name. -/
def toggle (now : Timestamp) (graph : Outcome Snapshot) (name : EntryName) (active : Option Bool) :
    ShelfM (Option Snapshot) := do
  let sets := (← get).sets
  match sets.get? name with
  | none => return none
  | some existing =>
    let active := active.getD (!existing.active)
    commit (sets.insert name { existing with active })
    recordSet now (if active then .activated else .deactivated) name existing.config
    return some (← applyAll graph)

/-- Removes every set and answers the whole graph. -/
def clearAll (now : Timestamp) (graph : Outcome Snapshot) : ShelfM Snapshot := do
  commit []
  record now [("action", .text ActionKind.cleared.name)]
  ofOutcome graph

/-- Merges the sets of a payload; none if any of them is malformed. -/
def importSets (now : Timestamp) (graph : Outcome Snapshot) (payload : Value) : ShelfM Snapshot := do
  let shelf ← get
  -- The whole payload is read before anything is merged.
  let staged ← ofOutcome (FilterSets.parse now payload shelf.runtime.reader)
  commit (shelf.sets.merge staged)
  record now [("action", .text ActionKind.imported.name), ("count", .int staged.length)]
  applyAll graph

/-- Merges the stored sets and answers how many there are; nothing stored counts as none. -/
def load (now : Timestamp) : ShelfM Nat := do
  let shelf ← get
  match shelf.store.bind fun store => store.get? shelf.storeKey with
  | none | some "" => return 0
  | some payload =>
    let staged ← ofOutcome (FilterSets.parse now (.text payload) shelf.runtime.reader)
    set { shelf with sets := shelf.sets.merge staged }
    return staged.length

/-- Writes the sets to the store as they are. -/
def save : ShelfM Unit := do persist (← get).sets

def exportText : ShelfM String := do
  let shelf ← get
  ofOutcome (shelf.sets.serializeAt shelf.runtime)

def stats (graph : Outcome Snapshot) : ShelfM FilterStats := do
  let g ← ofOutcome graph
  let kept ← applyAll graph
  let sets := (← get).sets
  return ⟨g.nodes.length, g.edges.length, kept.nodes.length, kept.edges.length,
    sets.active.length⟩

end FilterShelf
end GraphQuery
