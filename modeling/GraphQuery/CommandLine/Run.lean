import GraphQuery.CommandLine.Command
import GraphQuery.CommandLine.Report
import GraphQuery.Engine.Workplace
import GraphQuery.Number.Fixed

/-!
# Running commands

A command opens an engine on the graph, asks it and prints the answer.  What it has printed and changed
before it stops stays.  How words are read as a command is left to the reader of the command line.
-/

namespace GraphQuery

/-- A running command: where it runs, its engine, and the lines printed so far, latest first. -/
structure Console where
  work : Workplace
  desk : Desk
  printed : List String

/-- A step of a running command. -/
abbrev ConsoleM := ExceptT Stop (StateM Console)

namespace Console

/-- Prints a line, without the control sequences in it. -/
def printLine (line : String) : ConsoleM Unit :=
  modify fun console => { console with printed := Text.withoutControls line :: console.printed }

def ofOutcome {α : Type} : Outcome α → ConsoleM α
  | .ok x => return x
  | .error e => throw (.failed e)

/-- Asks the engine. -/
def ask {α : Type} (action : EngineM α) : ConsoleM α := do
  let console ← get
  let (answer, desk) := action.run.run console.desk
  set { console with desk }
  ofOutcome answer

/-- Asks about the filter sets of the engine. -/
def askSets {α : Type} (action : Timestamp → Outcome Snapshot → ShelfM α) : ConsoleM α :=
  ask (Engine.withSets action)

/-! ## Words with a meaning of their own -/

/-- The id that a word stands for: an integer if it can be read as one. -/
def idOfWord (word : String) : EntityId :=
  match Text.integer? word with
  | some n => .int n
  | none => .text word

/-- The mapping that a JSON text gives. -/
def configOfWord (word : String) : ConsoleM Fields :=
  let bad (fault : WordFault) : ConsoleM Fields := throw (.usage (.badWord "config" fault))
  match Json.parse word with
  | .error .nestedTooDeep => throw (.failed .nestedTooDeep)
  | .error _ => bad .malformedJson
  | .ok (.mapping entries) => return entries
  | .ok _ => bad .notObject

/-! ## Lines -/

/-- A text filled with blanks up to a width. -/
def filled (width : Nat) (s : String) : String :=
  s ++ String.ofList (List.replicate (width - s.length) ' ')

/-- A text with blanks in front of it up to a width. -/
def aligned (width : Nat) (s : String) : String :=
  String.ofList (Number.padLeft width ' ' s.toList)

def resultLine (r : SearchResult) : String :=
  "  " ++ filled 4 r.entity.kind.name ++ "  " ++ filled 12 r.entity.id.display ++ "  score=" ++
    aligned 7 (Number.tenthsText r.score) ++ "  " ++ r.entity.label.getD ""

def nodeLine (n : Node) : String :=
  "  " ++ n.id.display ++ "  type=" ++ (textOrNull n.type).display ++ "  label=" ++
    (textOrNull n.label).display

def pathLine (ids : List EntityId) : String := " -> ".intercalate (ids.map EntityId.display)

/-- A kind of items with their number and ids. -/
def idsLine (kind : String) (ids : List EntityId) : String :=
  kind ++ " (" ++ Number.intText ids.length ++ "): " ++ ", ".intercalate (ids.map EntityId.display)

def countsLine (nodes edges : Nat) : String :=
  "Nodes: " ++ Number.intText nodes ++ "  Edges: " ++ Number.intText edges

def visibleText (kind : String) (count : Nat) (percent : Binary64) : String :=
  "visible " ++ kind ++ ": " ++ Number.intText count ++ " (-" ++ Number.binary64Text percent ++ "%)"

def activeLine (s : FilterStats) : String :=
  "Active filter sets: " ++ Number.intText s.activeSets ++ "  " ++
    visibleText "nodes" s.keptNodes s.nodesPercent ++ "  " ++
    visibleText "edges" s.keptEdges s.edgesPercent

/-- The numbers of nodes and edges that are left. -/
def sizesText (s : Snapshot) : String :=
  Number.intText s.nodes.length ++ " nodes, " ++ Number.intText s.edges.length ++ " edges"

def setText (name : String) : String := "Filter set '" ++ name ++ "'"

/-- The line of a filter set; dates in its configuration stand for their texts. -/
def setLine (name : EntryName) (r : FilterSetRecord) : String :=
  "  [" ++ (if r.active then "on " else "off") ++ "] " ++ name.value.display ++ "  " ++
    (Json.write? .line r.config).getD ""

/-! ## Commands -/

def runSet (command : SetCommand) : ConsoleM Unit := do
  match command with
  | .create name config =>
    let config ← configOfWord config
    let left ← askSets fun now graph => FilterShelf.create now graph (.text name) config
    printLine (setText name ++ ": " ++ sizesText left)
  | .list =>
    let sets := (← get).desk.engine.sets
    if sets.isEmpty then printLine "No filter sets."
    else sets.forM fun entry => printLine (setLine entry.1 entry.2)
  | .toggle name active =>
    let left ← askSets fun now graph => FilterShelf.toggle now graph (.text name) active
    if left.isNone then throw (.refused (setText name ++ " not found"))
    let record := (← get).desk.engine.sets.get? (.text name)
    let state := if record.any (·.active) then "active" else "inactive"
    printLine (setText name ++ " is now " ++ state)
  | .update name config =>
    let config ← configOfWord config
    let known := (← get).desk.engine.sets.has (.text name)
    if !known then throw (.refused (MissingName.filterSet (.text name)).message)
    let _ ← askSets fun now graph => FilterShelf.update now graph (.text name) (.ok (.mapping config))
    printLine ("Updated filter set '" ++ name ++ "'")
  | .remove name =>
    let _ ← askSets fun now graph => FilterShelf.remove now graph (.text name)
    printLine ("Removed filter set '" ++ name ++ "'")
  | .exportTo output =>
    let text ← askSets fun _ _ => FilterShelf.exportText
    let files ← ofOutcome ((← get).work.files.write output text)
    modify fun console => { console with work := { console.work with files } }
    let count := (← get).desk.engine.sets.length
    printLine ("Exported " ++ Number.intText count ++ " filter sets to " ++ output)
  | .importFrom input =>
    let text ← ofOutcome ((← get).work.files.read input)
    let left ← tryCatch
      (askSets fun now graph => FilterShelf.importSets now graph (.text text))
      fun stop =>
        match stop with
        | .failed (.payload fault) => throw (.refused fault.message)
        | stop => throw stop
    printLine ("Imported filter sets from " ++ input ++ ": " ++ sizesText left ++ " visible")

def runStats : ConsoleM Unit := do
  let s ← ask Engine.stats
  printLine (countsLine s.nodes s.edges)
  let effect ← askSets fun _ graph => FilterShelf.stats graph
  if effect.activeSets ≠ 0 then printLine (activeLine effect)

/-- Runs a command that asks an engine. -/
def run (command : Command) : ConsoleM Unit := do
  match command with
  | .search query mode limit =>
    let found ← ask (Engine.textSearch (.text query) mode (.int limit))
    if found.isEmpty then printLine "No matches."
    else found.forM fun r => printLine (resultLine r)
  | .suggest typed limit => (← ask (Engine.suggestions typed limit)).forM printLine
  | .neighbors id limit direction =>
    let found ← ask (Engine.connected (idOfWord id) limit direction)
    if found.isEmpty then printLine "No connected nodes."
    else found.forM fun n => printLine (nodeLine n)
  | .path source target limit =>
    match ← ask (Engine.path (idOfWord source) (idOfWord target) (some (.ofInt limit))) with
    | some ids => printLine (pathLine ids)
    | none => printLine ("No path within " ++ Number.intText limit ++ " hops.")
  | .filter config =>
    let left ← ask (Engine.applyFilters (.mapping (← configOfWord config)))
    printLine (idsLine "Nodes" left.nodeIds)
    printLine (idsLine "Edges" left.edgeIds)
  | .stats => runStats
  | .sets command => runSet command
  | .serve _ _ => return

/-- What a console has printed. -/
def output (console : Console) : String :=
  String.join (console.printed.reverse.map fun line => line ++ "\n")

end Console

/-- What running a command line has done. -/
structure CommandResult where
  work : Workplace
  report : Report
  /-- The environment of the server, if the command starts it. -/
  served : Option Environment

namespace CommandResult

/-- A command that stops before it has done anything. -/
def stopped (work : Workplace) (stop : Stop) : CommandResult := ⟨work, ⟨"", some stop⟩, none⟩

end CommandResult

namespace Command

/-- Whether a command works on stored filter sets. -/
def needsStore : Command → Bool
  | sets _ => true
  | _ => false

end Command

namespace Workplace

/-- Sets an environment variable; an empty value changes nothing. -/
def withVariable (work : Workplace) (name : String) (v : Option String) : Workplace :=
  match v with
  | none | some "" => work
  | some v => { work with environment := work.environment.set name v }

/-- Starts the server. -/
def serve (work : Workplace) (graph store : Option String) : CommandResult :=
  let work := (work.withVariable graphVariable graph).withVariable storeVariable store
  ⟨work, ⟨"", none⟩, some work.environment⟩

/-- Runs a command that asks an engine. -/
def runWithEngine (work : Workplace) (invocation : Invocation) : CommandResult :=
  if !work.files.leadsSomewhere (work.files.followPath invocation.graph) then
    .stopped work (.refused ("Graph file not found: " ++ invocation.graph))
  else
    match work.openDesk invocation.graph invocation.store with
    | (work, .error e) => .stopped work (.failed e)
    | (work, .ok desk) =>
      let (ended, console) := (Console.run invocation.command).run.run ⟨work, desk, []⟩
      let stop := match ended with
        | .ok _ => none
        | .error stop => some stop
      ⟨console.work.closeDesk invocation.store console.desk, ⟨console.output, stop⟩, none⟩

/-- Runs a command. -/
def runInvocation (work : Workplace) (invocation : Invocation) : CommandResult :=
  match invocation.command with
  | .serve graph store => work.serve graph store
  | command =>
    if command.needsStore && invocation.store.isNone then .stopped work (.usage .needsStore)
    else work.runWithEngine invocation

/-- Runs a command line. -/
def runWords (work : Workplace) (words : List String)
    (read : (String → Bool) → List String → Except UsageFault Invocation := Invocation.read) : CommandResult :=
  let isThere (path : String) : Bool :=
    work.files.leadsSomewhere (work.files.followSpelling path)
  match read isThere words with
  | .error fault => .stopped work (.usage fault)
  | .ok invocation => work.runInvocation invocation

end Workplace
end GraphQuery
