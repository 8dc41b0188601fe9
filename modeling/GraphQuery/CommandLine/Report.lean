import GraphQuery.CommandLine.Usage
import GraphQuery.Failure
import GraphQuery.Text.ControlSequence

/-!
# Reports

What running a command line leaves to be seen: what it has printed, and how it has ended.
-/

namespace GraphQuery

/-- Why a command stops before its end. -/
inductive Stop where
  | usage (fault : UsageFault)
  /-- What was asked for cannot be done. -/
  | refused (message : String)
  | failed (e : Failure)

namespace Stop

/-- The exit code of a command that stops. -/
def exitCode : Stop → Nat
  | usage _ => 2
  | refused _ => 1
  | failed _ => 1

/-- The wording of a cause, for those that have one. -/
def message? : Stop → Option String
  | usage fault => fault.message?
  | refused message => some message
  | failed _ => none

/-- The error line, for the causes that have one. -/
def errorLine? (stop : Stop) : Option String :=
  stop.message?.map fun message => Text.withoutControls ("Error: " ++ message)

end Stop

structure Report where
  output : String
  stop : Option Stop

namespace Report

def exitCode (report : Report) : Nat := (report.stop.map Stop.exitCode).getD 0

end Report
end GraphQuery
