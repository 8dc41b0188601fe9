import GraphQuery.Engine.Basic
import GraphQuery.Files.GraphFile

/-!
# Workplaces

A workplace is what commands and the server find around them: files, environment variables and a clock.
An engine is opened on the graph in a file, with its settings from the environment and perhaps a store
in another file.
-/

namespace GraphQuery

structure Workplace where
  files : FileTree
  environment : Environment
  now : Timestamp

namespace Workplace

/-- Where the graph is unless a path is given. -/
def standardGraph : String := "graph.json"

/-- The environment variable that names the graph of a server. -/
def graphVariable : String := EngineConfig.standardStart ++ "GRAPH_PATH"

/-- The environment variable that names the store of a server. -/
def storeVariable : String := EngineConfig.standardStart ++ "STORE_PATH"

/-- The store at a path, opened. -/
def openStore (work : Workplace) (path : Option String) : Workplace × Outcome (Option Store) :=
  match path with
  | none => (work, .ok none)
  | some path =>
    match work.files.openStore path with
    | .ok (files, content) => ({ work with files }, .ok (some ⟨content, false⟩))
    | .error e => (work, .error e)

/-- An engine on the graph in a file; a store file that is new is there even if the engine then fails to
start. -/
def openDesk (work : Workplace) (graph : String) (store : Option String) :
    Workplace × Outcome Desk :=
  match work.files.loadGraph graph none with
  | .error e => (work, .error e)
  | .ok owned =>
    -- The store file is there from now on, whatever follows.
    let (work, opened) := work.openStore store
    let desk : Outcome Desk := do
      let store ← opened
      let config ← EngineConfig.ofEnvironment EngineConfig.standardStart work.environment
      Engine.openDesk 0 config .owned owned ⟨work.now, store, .null, [], .usual⟩
    (work, desk)

/-- Keeps what a desk's store holds in the file that the store was opened at. -/
def closeDesk (work : Workplace) (store : Option String) (desk : Desk) : Workplace :=
  match store, desk.around.store with
  | some path, some held => { work with files := work.files.keepStore path held.content }
  | _, _ => work

end Workplace
end GraphQuery
