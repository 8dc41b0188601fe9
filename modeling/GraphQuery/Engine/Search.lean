import GraphQuery.Engine.Basic

/-!
# Searching with an engine

Text search keeps a history of queries; quick search remembers its answers until the index is rebuilt.
Criteria search, traversal and filtering read the graph as it is now.
-/

namespace GraphQuery

/-- Which entities a quick search covers. -/
inductive SearchScope where
  | all
  | nodes
  | edges
deriving DecidableEq, Repr

namespace SearchScope

def name : SearchScope → String
  | all => "all"
  | nodes => "nodes"
  | edges => "edges"

def ofName? (s : String) : Option SearchScope := [all, nodes, edges].find? (·.name = s)

def mode (scope : SearchScope) : SearchMode :=
  { nodes := scope ≠ edges, edges := scope ≠ nodes }

end SearchScope

/-- The arguments of an advanced search, as given. -/
structure AdvancedQuery where
  text : Value := .text ""
  nodeTypes : Value := .tuple []
  edgeTypes : Value := .tuple []
  properties : Value := .null
  minConnections : Value := .null
  maxConnections : Value := .null

namespace AdvancedQuery

/-- The name by which the engine itself goes among its arguments; no caller can give it. -/
def engineName : String := "self"

/-- The arguments among named values; other names are ignored. -/
def ofFields (fields : Fields) : Outcome AdvancedQuery :=
  let base : AdvancedQuery := {}
  if Fields.has fields engineName then .error .mismatch
  else
    .ok
      { text := (Fields.get? fields "text").getD base.text
        nodeTypes := (Fields.get? fields "node_types").getD base.nodeTypes
        edgeTypes := (Fields.get? fields "edge_types").getD base.edgeTypes
        properties := (Fields.get? fields "properties").getD base.properties
        minConnections := (Fields.get? fields "min_connections").getD base.minConnections
        maxConnections := (Fields.get? fields "max_connections").getD base.maxConnections }

/-- Whether a type is among the given ones: an item of a collection, a key of a mapping or a part of a
text. -/
def hasType (types : Value) (type : Option String) : Outcome Bool :=
  match types with
  | .text s =>
    match type with
    | some t => .ok (Text.contains s t)
    | none => .error .mismatch
  | .mapping entries => .ok (type.any (Fields.has entries))
  | _ =>
    match types.collection? with
    | some items => .ok (items.any (Value.same (textOrNull type)))
    | none => .error .mismatch

/-- Whether a number of connections lies within the given bounds. -/
def inRange (least most : Value) (count : Nat) : Outcome Bool := do
  let count := Value.int count
  let tooFew ← match least with
    | .null => .ok false
    | least => Operator.ordered (Value.below? true count least)
  if tooFew then return false
  else
    match most with
    | .null => return true
    | most => Operator.ordered (Value.below? false count most)

/-- Narrows nodes and edges by types, properties and connections counted on the whole graph. -/
def narrow (q : AdvancedQuery) (graph found : Snapshot) : Outcome Snapshot := do
  let nodes ←
    if q.nodeTypes.isTruthy then Filter.keep (fun n => hasType q.nodeTypes n.type) found.nodes
    else .ok found.nodes
  let edges ←
    if q.edgeTypes.isTruthy then Filter.keep (fun e => hasType q.edgeTypes e.type) found.edges
    else .ok found.edges
  let nodes ←
    if q.properties.isTruthy then Filter.keep (fun n => Fields.meet n.properties q.properties) nodes
    else .ok nodes
  let edges ←
    if q.properties.isTruthy then Filter.keep (fun e => Fields.meet e.properties q.properties) edges
    else .ok edges
  let nodes ←
    if q.minConnections.isNull && q.maxConnections.isNull then .ok nodes
    else
      let degrees := DegreeTable.ofEdges graph.edges
      Filter.keep
        (fun n => inRange q.minConnections q.maxConnections (degrees.lookup n.id).connections) nodes
  return ⟨nodes, edges⟩

end AdvancedQuery

namespace Engine

/-! ## Text search -/

def recordQuery (query : Value) : EngineM Unit :=
  modifyEngine fun e => { e with history := e.history.add query }

/-- The best results of a query.  A query that counts as false has none; any other is recorded once it has
been looked for, even if the limit then turns out to be none. -/
def textSearch (query : Value) (mode : SearchMode) (limit : Value) : EngineM (List SearchResult) := do
  if !query.isTruthy then return []
  else
    let e := (← get).engine
    let found ← ofOutcome (e.index.findings mode query)
    recordQuery query
    let count ← ofOutcome <|
      SearchIndex.limitCount (if limit.isNull then .int e.config.defaultSearchLimit else limit)
    return found.take count

/-- The key under which an answer is remembered: queries and sizes of the same text share it. -/
def quickKey (query : Value) (scope : SearchScope) (room : Value) : Outcome String := do
  let query ← query.toText
  let room ← room.toText
  return query ++ "-" ++ scope.name ++ "-" ++ room

/-- Results and suggestions for a search box, of which the suggestions take the room that results leave;
answers are remembered until the index is rebuilt. -/
def quickSearch (query : Value) (scope : SearchScope) (room : Value) : EngineM QuickAnswer := do
  if !query.isTruthy then return ⟨[], []⟩
  else
    let key ← ofOutcome (quickKey query scope room)
    let (cache, held) := (← get).engine.cache.get key
    modifyEngine fun e => { e with cache }
    match held with
    | some answer =>
      recordQuery query
      return answer
    | none =>
      let results ← textSearch query scope.mode room
      let count ← ofOutcome (SearchIndex.limitCount room)
      let suggestions := (← get).engine.index.suggestions query.display (count - results.length : Int)
      let answer : QuickAnswer := ⟨results, suggestions⟩
      modifyEngine fun e => { e with cache := e.cache.put key answer }
      return answer

def suggestions (typed : String) (limit : Int) : EngineM (List String) := do
  return (← get).engine.index.suggestions typed limit

def recentQueries : EngineM (List Value) := do return (← get).engine.history.queries

def clearHistory : EngineM Unit :=
  modifyEngine fun e => { e with history := e.history.clear }

/-! ## Criteria search -/

/-- Criteria that count as false are no criteria. -/
def orNoCriteria (criteria : Value) : Value :=
  if criteria.isTruthy then criteria else .mapping []

def searchNodes (criteria : Value) : EngineM (List Node) := do
  let graph ← snapshot
  ofOutcome (Filter.keep (fun n => (Entity.node n).meetsCriteria (orNoCriteria criteria)) graph.nodes)

def searchEdges (criteria : Value) : EngineM (List Edge) := do
  let graph ← snapshot
  ofOutcome (Filter.keep (fun e => (Entity.edge e).meetsCriteria (orNoCriteria criteria)) graph.edges)

def nodesOfType (type : Value) : EngineM (List Node) := do
  return (← snapshot).nodes.filter fun n => Value.same (textOrNull n.type) type

def nodeWithId? (id : Value) : EngineM (Option Node) := do
  return (← snapshot).nodes.find? fun n => Value.same n.id.toValue id

/-- Text search narrowed by types, properties and connections; without a text the whole graph is
narrowed. -/
def advancedSearch (q : AdvancedQuery) : EngineM Snapshot := do
  let graph ← snapshot
  let found ←
    if q.text.isTruthy then do
      let hits ← textSearch q.text {} .null
      pure ⟨hits.filterMap (·.entity.asNode?), hits.filterMap (·.entity.asEdge?)⟩
    else pure graph
  ofOutcome (q.narrow graph found)

/-! ## Traversal -/

def connected (start : EntityId) (limit : DepthLimit) (direction : Direction) :
    EngineM (List Node) := do
  return connectedNodes (← snapshot) direction limit start

/-- A shortest path; without a limit of its own, the one of the settings holds. -/
def path (source target : EntityId) (limit : Option DepthLimit) :
    EngineM (Option (List EntityId)) := do
  let graph ← snapshot
  let limit := limit.getD (.exact (← get).engine.config.defaultPathDepth)
  return shortestPath graph.edges limit source target

/-- The nodes whose searchable text holds the characters of a query in order; an empty query keeps
all. -/
def matchingQuery (query : String) (nodes : List Node) : Outcome (List Node) :=
  if query = "" then .ok nodes
  else
    Filter.keep
      (fun n => (Entity.node n).searchableText.map fun text =>
        Text.isScattered (Text.lowercase text) (Text.lowercase query))
      nodes

/-! ## Filtering -/

def applyFilters (config : Value) : EngineM Snapshot := do
  let graph ← snapshot
  ofOutcome (Filter.apply graph config graph)

/-- Applies configurations one after the other, each to what the one before left. -/
def applyChain : List Value → Snapshot → EngineM Snapshot
  | [], part => return part
  | config :: rest, part => do
    let graph ← snapshot
    let left ← ofOutcome (Filter.apply graph config part)
    applyChain rest left

/-! ## Saved searches -/

def savedSearches : EngineM SavedSearches := do
  let desk ← get
  let key := SavedSearches.keyFor desk.engine.config.storeNamespace
  let around := desk.around
  ofOutcome (SavedSearches.current around.runtime.reader around.now key around.store desk.engine.saved)

def writeSaved (searches : SavedSearches) : EngineM Unit := do
  let desk ← get
  match desk.around.store with
  | none => modifyEngine fun e => { e with saved := searches }
  | some store =>
    let text ← ofOutcome (searches.serialize desk.around.runtime)
    let store ← ofOutcome
      (store.write (SavedSearches.keyFor desk.engine.config.storeNamespace) text)
    modifyAround fun around => { around with store := some store }

def saveSearch (name : EntryName) (filters : Fields) : EngineM SavedSearch := do
  let searches ← savedSearches
  let now := (← get).around.now
  let saved : SavedSearch := ⟨filters, now, now⟩
  writeSaved (searches.insert name saved)
  return saved

/-- Stamps a saved search with the time of its use and runs it. -/
def executeSaved (name : EntryName) : EngineM Snapshot := do
  let searches ← savedSearches
  match searches.get? name with
  | none => throw (.showing name.value (.missing (.savedSearch name.value)))
  | some saved =>
    let now := (← get).around.now
    -- The time is stamped even if the search then fails.
    writeSaved (searches.insert name { saved with lastUsed := now })
    advancedSearch (← ofOutcome (AdvancedQuery.ofFields saved.filters))

/-- Deletes a saved search and says whether there was one. -/
def deleteSaved (name : EntryName) : EngineM Bool := do
  let searches ← savedSearches
  match searches.get? name with
  | none => return false
  | some _ =>
    writeSaved (searches.erase name)
    return true

/-! ## Counts -/

structure Stats where
  nodes : Nat
  edges : Nat
  indexed : Nat
  filterSets : Nat
  queries : Nat

def stats : EngineM Stats := do
  let graph ← snapshot
  let e := (← get).engine
  return ⟨graph.nodes.length, graph.edges.length, e.index.length, e.sets.length,
    e.history.queries.length⟩

end Engine
end GraphQuery
