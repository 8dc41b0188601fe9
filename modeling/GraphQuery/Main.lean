import GraphQuery.CommandLine.Run
import GraphQuery.Server.Tool
import GraphQuery.Store.FileText
import Std.Time.DateTime.Timestamp

/-!
# The program

Reads the files that a command line names, runs it on them and writes back what has changed.  A command
line that starts the server is followed by calls of tools, one JSON object a line, each answered by one
line.
-/

namespace GraphQuery
namespace Program

/-- The paths that a command line may mean: its words, and what follows an equals sign in them. -/
def paths (words : List String) : List String :=
  words ++ words.filterMap fun word => (OptionForm.splitWord word).2

/-- The content of a file; a text that describes a store is one. -/
def contentOf (s : String) : FileContent :=
  match StoreFile.ofText? s with
  | some file => .store file
  | none => .text s

/-- The text in which a content is kept. -/
def textOf (content : FileContent) : String :=
  match content with
  | .text s => s
  | .store file => file.text

/-- The text of a file, if there is one to be read. -/
def readFile? (path : String) : IO (Option String) := do
  try return some (← IO.FS.readFile path)
  catch _ => return none

/-- A tree with the files at some paths; the directories above them are taken to be there. -/
def readTree (current : Location) (paths : List String) : IO FileTree := do
  let mut tree := FileTree.empty current
  for path in paths do
    let place := Location.resolve current path
    tree := { tree with directories := tree.directories ++ [place.dropLast] }
    if let some s ← readFile? path then
      tree := tree.put place (contentOf s)
  return tree

/-- Writes the files at some paths whose content has changed. -/
def writeTree (before after : FileTree) (paths : List String) : IO Unit := do
  for path in paths do
    let place := Location.resolve before.current path
    if let some content := after.find? place then
      if before.find? place ≠ some content then
        IO.FS.writeFile path (textOf content)

/-- The time now. -/
def clock : IO Timestamp := do
  let now ← Std.Time.Timestamp.now
  let nanos : Int := now.toNanosecondsSinceUnixEpoch.val
  let micros := Int.fdiv nanos 1000
  return (Timestamp.ofEpoch? (Int.fdiv micros 1000000) (Int.fmod micros 1000000).toNat).getD
    (.ofDate ⟨1970, 1, 1⟩)

/-- The environment variables that are looked at. -/
def environment : IO Environment := do
  let settings := EngineConfig.names.map fun name => EngineConfig.standardStart ++ name.toUpper
  let mut env : Environment := []
  for name in Workplace.graphVariable :: Workplace.storeVariable :: settings do
    if let some v ← IO.getEnv name then
      env := env.set name v
  return env

/-- The answer to a line that calls a tool. -/
def answerLine (line : String) (server : Server) : String × Server :=
  let called : Except Failure Value × Server :=
    match Json.parse line with
    | .ok (.mapping entries) =>
      let arguments := entries.filter fun entry => entry.1 ≠ "tool"
      (Server.call ((Fields.getD entries "tool").text?.getD "") arguments).run.run server
    | _ => (.error .malformedJson, server)
  let document := match called.1 with
    | .ok v => v
    | .error e => Document.failure e
  ((Json.write? .line document).getD "", called.2)

/-- Answers calls of tools until the input ends. -/
partial def answerLines (server : Server) : IO Unit := do
  let line ← (← IO.getStdin).getLine
  if !line.isEmpty then
    let (answer, server) := answerLine line server
    IO.println answer
    (← IO.getStdout).flush
    answerLines server

/-- Runs a command line and gives its exit code. -/
def run (words : List String) : IO UInt32 := do
  let current := Location.resolve [] (toString (← IO.currentDir))
  let env ← environment
  let named := [Workplace.graphVariable, Workplace.storeVariable].filterMap env.get?
  let paths := Workplace.standardGraph :: named ++ paths words
  let before ← readTree current paths
  let result := Workplace.runWords ⟨before, env, ← clock⟩ words
  writeTree before result.work.files paths
  IO.print result.report.output
  match result.report.stop with
  | some (.failed e) => IO.eprintln (e.kindName ++ ((e.message?.map (": " ++ ·)).getD ""))
  | some stop =>
    if let some line := stop.errorLine? then
      IO.eprintln line
  | none => pure ()
  if let some env := result.served then
    match Server.start { result.work with environment := env } with
    | .ok server => answerLines server
    | .error e => IO.eprintln e.kindName
  return result.report.exitCode.toUInt32

end Program
end GraphQuery

def main (words : List String) : IO UInt32 := GraphQuery.Program.run words
