import GraphQuery.CommandLine.Words
import GraphQuery.Engine.Search
import GraphQuery.Engine.Workplace

/-!
# Commands

What can be asked for on the command line.  `Invocation.read` gives the meaning of the words of a command
line, or what is wrong with them.
-/

namespace GraphQuery

/-- A command on named filter sets. -/
inductive SetCommand where
  | create (name config : String)
  | list
  /-- Switches a set on or off, or to its other state. -/
  | toggle (name : String) (active : Option Bool)
  | update (name config : String)
  | remove (name : String)
  | exportTo (output : String)
  | importFrom (input : String)

inductive Command where
  | search (query : String) (mode : SearchMode) (limit : Int)
  | suggest (typed : String) (limit : Int)
  | neighbors (id : String) (limit : DepthLimit) (direction : Direction)
  | path (source target : String) (limit : Int)
  | filter (config : String)
  | stats
  | sets (command : SetCommand)
  /-- Starts the server, at other paths than those of the environment if any are given. -/
  | serve (graph store : Option String)

/-- A command with the paths of the graph and the store. -/
structure Invocation where
  graph : String
  store : Option String
  command : Command

/-- A command's name, what it takes, and its meaning. -/
structure CommandEntry (α : Type) where
  name : String
  form : CommandForm
  meaning : WordValues → α

namespace Command

/-- An option that takes a value. -/
def valued (name : String) (kind : WordKind) : OptionForm := ⟨"--" ++ name, name, .valued kind⟩

/-- An option that switches a parameter on. -/
def flag (name : String) : OptionForm := ⟨"--" ++ name, name, .switch true⟩

/-- The options that name the graph and the store. -/
def placeOptions : List OptionForm := [valued "graph" .text, valued "store" .text]

def text (values : WordValues) (parameter : String) : String := (values.text? parameter).getD ""

def searchMode (values : WordValues) : SearchMode :=
  let scope := ((values.text? "scope").bind SearchScope.ofName?).getD .all
  { scope.mode with
    exact := (values.switch? "exact").getD false
    caseSensitive := (values.switch? "case-sensitive").getD false }

def setEntries : List (CommandEntry SetCommand) :=
  [⟨"create", ⟨[], [("NAME", .text), ("CONFIG", .text)]⟩,
      fun v => .create (text v "NAME") (text v "CONFIG")⟩,
    ⟨"list", ⟨[], []⟩, fun _ => .list⟩,
    ⟨"toggle",
      ⟨[⟨"--on", "active", .switch true⟩, ⟨"--off", "active", .switch false⟩], [("NAME", .text)]⟩,
      fun v => .toggle (text v "NAME") (v.switch? "active")⟩,
    ⟨"update", ⟨[], [("NAME", .text), ("CONFIG", .text)]⟩,
      fun v => .update (text v "NAME") (text v "CONFIG")⟩,
    ⟨"remove", ⟨[], [("NAME", .text)]⟩, fun v => .remove (text v "NAME")⟩,
    ⟨"export", ⟨[], [("OUTPUT", .text)]⟩, fun v => .exportTo (text v "OUTPUT")⟩,
    ⟨"import", ⟨[], [("INPUT_FILE", .existingPath)]⟩,
      fun v => .importFrom (text v "INPUT_FILE")⟩]

def entries : List (CommandEntry Command) :=
  [⟨"search",
      ⟨[flag "exact", flag "case-sensitive", valued "scope" (.oneOf ["all", "nodes", "edges"]),
          valued "limit" .integer],
        [("QUERY", .text)]⟩,
      fun v => .search (text v "QUERY") (searchMode v) ((v.integer? "limit").getD 20)⟩,
    ⟨"suggest", ⟨[valued "limit" .integer], [("PREFIX", .text)]⟩,
      fun v => .suggest (text v "PREFIX") ((v.integer? "limit").getD 10)⟩,
    ⟨"neighbors",
      ⟨[valued "depth" .depth, valued "direction" (.oneOf ["out", "in", "both"])],
        [("NODE_ID", .text)]⟩,
      fun v =>
        let direction := ((v.text? "direction").bind Direction.ofName?).getD .both
        .neighbors (text v "NODE_ID") ((v.depth? "depth").getD (.ofNat 1)) direction⟩,
    ⟨"path", ⟨[valued "max-depth" .integer], [("SOURCE", .text), ("TARGET", .text)]⟩,
      fun v => .path (text v "SOURCE") (text v "TARGET") ((v.integer? "max-depth").getD 10)⟩,
    ⟨"filter", ⟨[], [("CONFIG", .text)]⟩, fun v => .filter (text v "CONFIG")⟩,
    ⟨"stats", ⟨[], []⟩, fun _ => .stats⟩,
    ⟨"mcp", ⟨placeOptions, []⟩, fun v => .serve (v.text? "graph") (v.text? "store")⟩]

/-- The name of the group of commands on filter sets. -/
def setsName : String := "sets"

/-- The words of a group: its own options, the name of a command, and that command's words. -/
def splitGroup (options : List OptionForm) (words : List String) :
    Except UsageFault (List GivenOption × String × List String) :=
  if words.isEmpty then .error .nothingAsked
  else
    match SortedWords.ofWords options false words with
    | .error fault => .error fault
    | .ok ⟨_, []⟩ => .error .missingCommand
    | .ok ⟨given, name :: rest⟩ => .ok (given, name, rest)

/-- What is wrong with the name of no command; one that looks like an option is taken for one first. -/
def unknownName (options : List OptionForm) (name : String) (rest : List String) : UsageFault :=
  match SortedWords.ofWords options false (name :: rest) with
  | .error fault => fault
  | .ok _ => .noSuchCommand name

/-- The command of a name among others. -/
def readEntry {α : Type} (isThere : String → Bool) (known : List (CommandEntry α))
    (options : List OptionForm) (name : String) (words : List String) : Except UsageFault α :=
  match known.find? (·.name = name) with
  | some entry => (entry.form.read isThere words).map entry.meaning
  | none => .error (unknownName options name words)

/-- The command of a name. -/
def read (isThere : String → Bool) (name : String) (words : List String) :
    Except UsageFault Command :=
  if name = setsName then do
    let (_, inner, rest) ← splitGroup [] words
    return .sets (← readEntry isThere setEntries [] inner rest)
  else readEntry isThere entries placeOptions name words

end Command

namespace Invocation

/-- The meaning of a command line; `isThere` says which paths lead to something. -/
def read (isThere : String → Bool) (words : List String) : Except UsageFault Invocation := do
  let (given, name, rest) ← Command.splitGroup Command.placeOptions words
  let word (parameter : String) : Option String :=
    ((GivenOption.settled given).find? (·.form.parameter = parameter)).bind (·.word)
  let command ← Command.read isThere name rest
  return ⟨(word "graph").getD Workplace.standardGraph, (word "store").filter (· ≠ ""), command⟩

end Invocation
end GraphQuery
