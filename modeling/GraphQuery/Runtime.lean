import GraphQuery.Graph.Document
import GraphQuery.Json.Reader
import GraphQuery.Time.Check
import GraphQuery.Value.Depth

/-!
# What surrounds a call

A call finds some of the stack in use, and so some room left for copying, writing and reading values that are
nested.  Times and plain forms are made by the library that checks the records.  A `Runtime` is what a call finds
of both, and `Runtime.usual` what it finds when it is made at the start of a program.
-/

namespace GraphQuery

/-- How the texts of payloads and the times in them are read. -/
structure PayloadReader where
  document : String → Except Json.Fault Value
  time : Value → Checked Timestamp

structure Runtime where
  /-- Whether there is room to copy the configuration of a filter set. -/
  copies : Value → Bool
  /-- Whether there is room to write a value that stands in an entry of a payload. -/
  writes : Value → Bool
  /-- How many lists and objects may be open at once in a text that is read. -/
  reads : Nat
  time : Value → Checked Timestamp
  /-- The plain form of free-form fields. -/
  dump : Fields → Outcome Fields

namespace Runtime

/-- Two objects stand around a configuration in a payload. -/
def usual : Runtime where
  copies v := v.copyDepth + 2 ≤ Json.nestingLimit
  writes _ := true
  reads := Json.nestingLimit
  time := Check.time
  dump := Fields.plain

/-- How payloads are read where a call is made. -/
def reader (r : Runtime) : PayloadReader := ⟨fun s => Json.parse s r.reads, r.time⟩

end Runtime
end GraphQuery
