import GraphQuery.Filter.SetRecord
import GraphQuery.Runtime
import GraphQuery.Value.Text

/-!
# Filter sets as text

Filter sets are stored and exported as a JSON object of name and set.  Reading such a text either gives
every set in it or fails as a whole.
-/

namespace GraphQuery
namespace Value

/-- Whether a value is a test of items. -/
def isTest : Value → Bool
  | test _ => true
  | _ => false

mutual

/-- A copy that a text can hold: tests inside mappings are left out, tuples and sets become lists. -/
def portable : Value → Value
  | mapping entries => mapping (portableEntries entries)
  | table rows => table (portableRows rows)
  | set _ items => list (portableItems items)
  | tuple items => list (portableItems items)
  | list items => list (portableItems items)
  | .null => .null
  | .bool b => .bool b
  | .int n => .int n
  | .float x => .float x
  | .text s => .text s
  | .date d => .date d
  | .record attributes => .record attributes
  | .test body => .test body

def portableItems : List Value → List Value
  | [] => []
  | x :: xs => portable x :: portableItems xs

def portableEntries : List (String × Value) → List (String × Value)
  | [] => []
  | (key, x) :: xs =>
    if x.isTest then portableEntries xs else (key, portable x) :: portableEntries xs

def portableRows : List (Value × Value) → List (Value × Value)
  | [] => []
  | (key, x) :: xs =>
    if x.isTest then portableRows xs else (key, portable x) :: portableRows xs

end

mutual

/-- Whether a key in a value has an integer with more digits than are converted.  A copy is made with the path of each
part at hand, in which the keys are written out. -/
def hasLongKey : Value → Bool
  | mapping entries => entriesHaveLongKey entries
  | table rows => rowsHaveLongKey rows
  | set _ items => itemsHaveLongKey items
  | tuple items => itemsHaveLongKey items
  | list items => itemsHaveLongKey items
  | .null => false
  | .bool _ => false
  | .int _ => false
  | .float _ => false
  | .text _ => false
  | .date _ => false
  | .record _ => false
  | .test _ => false

def itemsHaveLongKey : List Value → Bool
  | [] => false
  | x :: xs => hasLongKey x || itemsHaveLongKey xs

def entriesHaveLongKey : List (String × Value) → Bool
  | [] => false
  | (_, x) :: xs => hasLongKey x || entriesHaveLongKey xs

def rowsHaveLongKey : List (Value × Value) → Bool
  | [] => false
  | (key, x) :: xs => (!x.isTest && key.hasLongInteger) || hasLongKey x || rowsHaveLongKey xs

end

end Value

namespace FilterSetRecord

def timeOrNull (t : Option Timestamp) : Value :=
  match t with
  | some t => .text t.text
  | none => .null

/-- The exported form of a set. -/
def exported (r : FilterSetRecord) : Value :=
  .mapping
    [("config", r.config.portable), ("active", .bool r.active),
      ("created", .text r.created.text), ("updated", timeOrNull r.updated)]

/-- The set that an entry of a payload describes; `now` is when it is read. -/
def ofEntry? (time : Value → Checked Timestamp) (now : Timestamp) (entry : Value) : Option FilterSetRecord :=
  match entry with
  | .mapping fields =>
    let config : Checked Fields :=
      let v := Fields.getD fields "config"
      if v.isTruthy then Check.mapping v else .ok []
    let active := match Fields.getD fields "active" with
      | .bool false => false
      | _ => true
    let created : Checked Timestamp :=
      let v := Fields.getD fields "created"
      if v.isTruthy then time v else .ok now
    let updated : Checked (Option Timestamp) :=
      let v := Fields.getD fields "updated"
      if v.isTruthy then (time v).map some else .ok none
    match config, created, updated with
    | .ok config, .ok created, .ok updated =>
      some ⟨.mapping config, active, created, updated, some now⟩
    | _, _, _ => none
  | _ => none

end FilterSetRecord

namespace FilterSets

/-- The sets by name, in the form in which they are written. -/
def exported (sets : FilterSets) : Value :=
  .table (sets.map fun entry => (entry.1.value, entry.2.exported))

/-- The sets as text, where there is room for making it; values that no text can hold are a failure. -/
def serialize (sets : FilterSets) : Outcome String :=
  if sets.any fun entry => entry.2.config.hasLongKey then .error .longIntegerText
  else (Json.write .stored sets.exported).mapError (Failure.ofRefusal .mismatch)

/-- Whether there is room to make the text of sets. -/
def fit (sets : FilterSets) (runtime : Runtime) : Bool :=
  sets.all fun entry => runtime.copies entry.2.config && runtime.writes entry.2.config

/-- The sets as text, as far as there is room for making it. -/
def serializeAt (sets : FilterSets) (runtime : Runtime) : Outcome String :=
  if sets.fit runtime then sets.serialize else .error .nestedTooDeep

/-- Reads the entries of a payload. -/
def ofEntries (time : Value → Checked Timestamp) (now : Timestamp) : List (String × Value) → Outcome FilterSets
  | [] => .ok []
  | (name, entry) :: rest =>
    match FilterSetRecord.ofEntry? time now entry with
    | none => .error (.payload (.filterSetEntry name))
    | some r => (ofEntries time now rest).map ((.text name, r) :: ·)

/-- Reads a payload, a JSON object of name and set. -/
def parse (now : Timestamp) (payload : Value) (reader : PayloadReader := Runtime.usual.reader) :
    Outcome FilterSets :=
  match payload with
  | .text s =>
    match reader.document s with
    | .ok (.mapping entries) => ofEntries reader.time now entries
    | .ok _ => .error (.payload .filterSetsNotObject)
    | .error .nestedTooDeep => .error .nestedTooDeep
    | .error _ => .error (.payload .filterSets)
  | _ => .error (.payload .filterSets)

end FilterSets
end GraphQuery
