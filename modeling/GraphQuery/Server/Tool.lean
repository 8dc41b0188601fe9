import GraphQuery.Engine.Workplace
import GraphQuery.Server.Document
import GraphQuery.Server.Guide

/-!
# Tools

A server keeps one engine on the graph that the environment names and answers calls of tools by
documents.  A tool that fails answers with the failure; the two reference texts do not.
-/

namespace GraphQuery

/-- The engine of a server; none unless it has been started. -/
abbrev Server := Option Desk

abbrev ServerM := ExceptT Failure (StateM Server)

namespace Server

/-- The engine of a server that starts in a workplace. -/
def start (work : Workplace) : Outcome Server :=
  let graph := (work.environment.get? Workplace.graphVariable).getD Workplace.standardGraph
  let store := (work.environment.get? Workplace.storeVariable).filter (· ≠ "")
  (work.openDesk graph store).2.map some

/-- Sets the clock of a server. -/
def setClock (now : Timestamp) (server : Server) : Server :=
  server.map fun desk => { desk with around := { desk.around with now } }

def ofOutcome {α : Type} (answer : Outcome α) : ServerM α := ExceptT.mk (pure answer)

/-- Asks the engine, which must have been started. -/
def ask {α : Type} (action : EngineM α) : ServerM α := do
  match ← get with
  | none => throw .notStarted
  | some desk =>
    let (answer, desk) := action.run.run desk
    set (some desk : Server)
    ofOutcome answer

def askSets {α : Type} (action : Timestamp → Outcome Snapshot → ShelfM α) : ServerM α :=
  ask (Engine.withSets action)

/-! ## Single tools -/

def textSearch (arg : String → Value) : ServerM Value := do
  let covers (kind : String) : Value :=
    .bool (Value.strictMember [.text "all", .text kind] (arg "scope"))
  let found ← ask <| Call.textSearch fun name =>
    match name with
    | "search_nodes" => covers "nodes"
    | "search_edges" => covers "edges"
    | name => arg name
  let results ← ofOutcome (found.mapM Document.result)
  return .mapping [("count", Document.count found.length), ("results", .list results)]

/-- Nodes with their number. -/
def nodesAnswer (found : List Node) : ServerM Value := do
  return .mapping
    [("count", Document.count found.length), ("nodes", ← ofOutcome (Document.nodes found))]

def neighbors (start limit direction : Value) : ServerM Value := do
  let found ← ask do
    let graph ← Engine.snapshot
    Engine.ofOutcome (Traversal.connected graph start limit direction)
  nodesAnswer found

def findPath (source target limit : Value) : ServerM Value := do
  match ← ask (Call.path source target limit) with
  | none => return .mapping [("found", .bool false), ("path", .null)]
  | some ids =>
    return .mapping
      [("found", .bool true), ("path", .list ids), ("hops", .int (ids.length - 1 : Int))]

def createSet (name config : Value) : ServerM Value := do
  let left ← askSets fun now graph => SetChange.createNamed now graph name config
  return Document.filtered [("name", name)] left

/-- Names in ascending order; names that cannot be ordered are a mismatch. -/
def sortedNames (names : List Value) : Outcome (List Value) :=
  let ordered := names.all fun x => names.all fun y =>
    Value.same x y || (Value.below? false x y).isSome
  if ordered then .ok (names.mergeSort fun x y => (Value.below? false x y).getD true)
  else .error .mismatch

def activeView : ServerM Value := do
  let left ← askSets fun _ graph => FilterShelf.applyAll graph
  let names ← askSets fun _ _ => return (← get).sets.active.map fun entry => entry.1.value
  let names ← ofOutcome (sortedNames names)
  return Document.filtered [("active_filters", .list names)] left

def toggleSet (name active : Value) : ServerM Value := do
  let state : Option Bool := match active with
    | .null => none
    | active => some active.isTruthy
  let (record, left) ← askSets fun now graph => do
    let key ← FilterShelf.ofOutcome (EntryName.ofArgument name)
    let left ← FilterShelf.toggle now graph key state
    return ((← get).sets.get? key, left)
  match left with
  | none => return .mapping [("found", .bool false), ("name", name)]
  | some left =>
    return Document.filtered
      [("found", .bool true), ("name", name), ("active", .bool (record.any (·.active)))] left

def listSets : ServerM Value := do
  let sets ← askSets fun _ _ => return (← get).sets
  return .mapping [("filter_sets", ← ofOutcome (Document.filterSets sets))]

def stats : ServerM Value := do
  let counts ← ask Engine.stats
  let effect ← askSets fun _ graph => FilterShelf.stats graph
  let cache ← ask do return (← get).engine.cache
  return .mapping
    (Document.engineStats counts ++
      [("filters", Document.filterStats effect), ("cache", Document.cacheStats cache)])

/-- The number of recent queries that the report shows. -/
def shownQueries : Nat := 10

/-- A report on the graph, the filter sets and recent queries. -/
def report : ServerM String := do
  let counts ← ask Engine.stats
  let effect ← askSets fun _ graph => FilterShelf.stats graph
  let queries ← ask Engine.recentQueries
  let n (k : Nat) : String := Number.intText k
  let lines :=
    ["# graphsift Statistics\n", "Nodes: " ++ n counts.nodes, "Edges: " ++ n counts.edges,
      "Indexed entries: " ++ n counts.indexed,
      "Filter sets: " ++ n counts.filterSets ++ " (" ++ n effect.activeSets ++ " active)",
      "Visible after filters: " ++ n effect.keptNodes ++ " nodes, " ++ n effect.keptEdges ++
        " edges"]
  let recent :=
    if queries.isEmpty then []
    else "\n## Recent searches" :: (queries.take shownQueries).map fun q => "- " ++ q.display
  return "\n".intercalate (lines ++ recent)

/-! ## Calls by name -/

structure Tool where
  name : String
  signature : Signature
  run : (String → Value) → ServerM Value

open Call in
/-- The tools of a server. -/
def tools : List Tool :=
  [⟨"text_search",
      [required "query", optional "exact_match" (.bool false),
        optional "case_sensitive" (.bool false), optional "scope" (.text "all"),
        optional "limit" (.int 20)],
      fun arg => Server.textSearch arg⟩,
    ⟨"suggest", [required "prefix", optional "limit" (.int 10)],
      fun arg => do
        let found ← ask (suggestions (arg "prefix") (arg "limit"))
        return .mapping [("suggestions", .list (found.map .text))]⟩,
    ⟨"search_nodes", [required "criteria"],
      fun arg => do nodesAnswer (← ask (Engine.searchNodes (arg "criteria")))⟩,
    ⟨"get_neighbors",
      [required "node_id", optional "max_depth" (.int 1), optional "direction" (.text "both")],
      fun arg => neighbors (arg "node_id") (arg "max_depth") (arg "direction")⟩,
    ⟨"find_path", [required "source", required "target", optional "max_depth" (.int 10)],
      fun arg => findPath (arg "source") (arg "target") (arg "max_depth")⟩,
    ⟨"apply_filters", [required "config"],
      fun arg => return Document.filtered [] (← ask (Engine.applyFilters (arg "config")))⟩,
    ⟨"create_filter_set", [required "name", required "config"],
      fun arg => createSet (arg "name") (arg "config")⟩,
    ⟨"active_view", [], fun _ => activeView⟩,
    ⟨"toggle_filter_set", [required "name", optional "active" .null],
      fun arg => toggleSet (arg "name") (arg "active")⟩,
    ⟨"list_filter_sets", [], fun _ => listSets⟩,
    ⟨"get_stats", [], fun _ => Server.stats⟩]

/-- The reference texts of a server. -/
def resources : List Tool :=
  [⟨"schema_resource", [], fun _ => return .text Guide.text⟩,
    ⟨"stats_resource", [], fun _ => return .text (← report)⟩]

def runTool (tool : Tool) (arguments : Fields) : ServerM Value := do
  let bound ← ofOutcome (Signature.bind tool.signature arguments)
  tool.run (Fields.getD bound)

/-- Answers a call.  A tool that fails answers with the failure, and what it has changed stays changed. -/
def call (name : String) (arguments : Fields) : ServerM Value := do
  match tools.find? (·.name = name), resources.find? (·.name = name) with
  | some tool, _ => tryCatch (runTool tool arguments) fun e => return Document.failure e
  | none, some resource => runTool resource arguments
  | none, none => throw .noSuchPart

end Server
end GraphQuery
