import GraphQuery.Engine.Call.Basic

/-!
# Operations of the engine

Searching, filtering, traversal and saved searches under the names by which they are called, with their
parameters and defaults.
-/

namespace GraphQuery
namespace Call

/-- Text search with free-form arguments. -/
def textSearch (arg : String → Value) : EngineM (List SearchResult) :=
  let mode : SearchMode :=
    { caseSensitive := (arg "case_sensitive").isTruthy
      exact := (arg "exact_match").isTruthy
      nodes := (arg "search_nodes").isTruthy
      edges := (arg "search_edges").isTruthy }
  Engine.textSearch (arg "query") mode (arg "limit")

open Engine in
/-- Quick search with free-form arguments. -/
def quickSearch (arg : String → Value) : EngineM QuickAnswer := do
  match (arg "scope").text?.bind SearchScope.ofName? with
  | none => throw (.showing (arg "scope") (.argument (.scope (arg "scope"))))
  | some scope => Engine.quickSearch (arg "query") scope (arg "max_suggestions")

open Engine in
/-- Suggestions with free-form arguments.  The limit may be any number: suggestions are taken until there
are as many. -/
def suggestions (typed limit : Value) : EngineM (List String) := do
  if !typed.isTruthy then return []
  else
    match limit.number? with
    | none => throw .mismatch
    | some place =>
      if place.atMost (.exact 0) then return []
      else
        let query ← ofOutcome (queryOfArgument typed)
        let all := (SearchIndex.tokens (← get).engine.index).length
        Engine.suggestions query (place.ceiling?.getD all)

open Engine in
/-- The nodes around a start that match a query. -/
def neighborhood (start query depth : Value) : EngineM (List Node) := do
  let graph ← snapshot
  let nodes ← ofOutcome (Traversal.connected graph start depth (.text "both"))
  let query ← ofOutcome (queryOfArgument query)
  ofOutcome (matchingQuery query nodes)

open Engine in
def path (source target limit : Value) : EngineM (Option (List Value)) := do
  let graph ← snapshot
  let limit ← match limit with
    | .null => pure (Value.int (← get).engine.config.defaultPathDepth)
    | limit => pure limit
  ofOutcome (Traversal.path graph.edges source target limit)

/-! Saved searches are read before the name is looked at, and the filters are checked in between. -/

/-- Saves filters that are given as a mapping or as pairs. -/
def saveSearch (name filters : Value) : EngineM SavedSearch := do
  let _ ← Engine.savedSearches
  let filters ← Engine.ofOutcome filters.toMapping
  let fields ← Engine.ofOutcome
    (Checked.under (.field "filters") (Check.mapping filters)).toOutcome
  Engine.saveSearch (← Engine.ofOutcome (EntryName.ofArgument name)) fields

def executeSaved (name : Value) : EngineM Snapshot := do
  let _ ← Engine.savedSearches
  Engine.executeSaved (← Engine.ofOutcome (EntryName.ofArgument name))

/-- Deletes a saved search; where there are none, any value is a name without a search. -/
def deleteSaved (name : Value) : EngineM Bool := do
  if (← Engine.savedSearches).isEmpty then return false
  else Engine.deleteSaved (← Engine.ofOutcome (EntryName.ofArgument name))

open Engine hiding saveSearch executeSaved deleteSaved in
/-- The operations of an engine. -/
def engineOperations : List (String × Operation) :=
  [("text_search",
      onEngine
        [required "query", optional "case_sensitive" (.bool false),
          optional "exact_match" (.bool false), optional "search_nodes" (.bool true),
          optional "search_edges" (.bool true), optional "limit" .null]
        fun arg => return .results (← textSearch arg)),
    ("quick_search",
      onEngine
        [required "query", optional "scope" (.text "all"), optional "max_suggestions" (.int 10)]
        fun arg => return .quick (← quickSearch arg)),
    ("get_suggestions",
      onEngine [required "partial_query", optional "limit" (.int 10)]
        fun arg => return .texts (← suggestions (arg "partial_query") (arg "limit"))),
    ("search_history", onEngine [] fun _ => return .values (← recentQueries)),
    ("clear_search_history", onEngine [] fun _ => do clearHistory; return .nothing),
    ("cache_stats",
      onEngine [] fun _ => do
        let cache := (← get).engine.cache
        return .cacheStats cache.entries.length cache.hits cache.misses cache.capacity
          cache.hitRate),
    ("search_nodes",
      onEngine [optional "criteria" .null] fun arg =>
        return .nodes (← searchNodes (arg "criteria"))),
    ("search_edges",
      onEngine [optional "criteria" .null] fun arg =>
        return .edges (← searchEdges (arg "criteria"))),
    ("find_nodes_by_type",
      onEngine [required "node_type"] fun arg => return .nodes (← nodesOfType (arg "node_type"))),
    ("find_connected_nodes",
      onEngine
        [required "node_id", optional "max_depth" (.int 1), optional "direction" (.text "both")]
        fun arg => do
          let graph ← snapshot
          return .nodes
            (← ofOutcome
              (Traversal.connected graph (arg "node_id") (arg "max_depth") (arg "direction")))),
    ("find_path",
      onEngine [required "source_id", required "target_id", optional "max_depth" .null]
        fun arg =>
          return .path (← path (arg "source_id") (arg "target_id") (arg "max_depth"))),
    ("search_neighborhood",
      onEngine [required "node_id", optional "query" (.text ""), optional "depth" (.int 1)]
        fun arg =>
          return .nodes (← neighborhood (arg "node_id") (arg "query") (arg "depth"))),
    ("apply_filters",
      onEngine [optional "config" .null] fun arg =>
        return .filtered (some (← applyFilters (arg "config")))),
    ("apply_all_active_filters",
      onSetsFiltered [] fun _ _ graph => FilterShelf.applyAll graph),
    ("get_saved_searches", onEngine [] fun _ => return .savedAll (← savedSearches)),
    ("save_search",
      onEngine [required "name", required "filters"] fun arg => do
        return .saved (← saveSearch (arg "name") (arg "filters"))),
    ("execute_saved_search",
      onEngine [required "name"] fun arg => do
        return .filtered (some (← executeSaved (arg "name")))),
    ("delete_saved_search",
      onEngine [required "name"] fun arg => do return .bool (← deleteSaved (arg "name"))),
    ("stats", onEngine [] fun _ => return .engineStats (← stats)),
    ("load",
      onEngine [required "nodes", required "edges", optional "rebuild" (.bool true)]
        fun arg => do
          load (arg "nodes") (arg "edges") (arg "rebuild").isTruthy
          return .nothing),
    ("update_index", onEngine [] fun _ => do updateIndex; return .nothing),
    ("get_node",
      onEngine [required "node_id"] fun arg => return .node (← nodeWithId? (arg "node_id"))),
    ("snapshot", onEngine [] fun _ => return .graph (← snapshot))]

/-- The operation of advanced search, which ignores arguments it does not know. -/
def advancedSearch : Operation where
  signature := []
  lenient := true
  run given := Session.withEngine do
    let query ← Engine.ofOutcome (AdvancedQuery.ofFields given)
    return .filtered (some (← Engine.advancedSearch query))

end Call
end GraphQuery
