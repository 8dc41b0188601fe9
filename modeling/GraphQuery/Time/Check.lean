import GraphQuery.Graph.Validation
import GraphQuery.Time.Stamp

/-!
# Times in documents

A time is given as a text, as a number of seconds or as a day.
-/

namespace GraphQuery
namespace Check

open Checked

/-- A time in the years 1 to 9999.  A reading in the year 0 is no such time, however it was given. -/
def time (v : Value) : Checked Timestamp :=
  let parsed (rule : FieldRule) (t : Option Timestamp) : Checked Timestamp :=
    match t with
    | some t => if t.date.year = 0 then broken .timeValue else .ok t
    | none => broken rule
  match v with
  | .text s => parsed .timeText (Timestamp.ofText? s)
  | .int n =>
    if (Binary64.ofInt? n).isNone then broken .time
    else parsed .timeValue (Timestamp.ofCount? n)
  | .float x => parsed .timeValue (Timestamp.ofBinary64? x)
  | .date d => .ok (.ofDate d)
  | _ => broken .time

end Check
end GraphQuery
