import GraphQuery.Graph.Validation
import GraphQuery.Json.Writer

/-!
# Writing graphs as documents

A document holds plain values only: tuples and sets become lists, dates texts, and numbers without a
value null.  An entity's fields and attributes that are null are left out; nulls deeper inside are kept.
A value that is nested too deep has no plain form, nor has one with a part that documents do not hold.

Other ways to make plain forms may take the place of `Fields.plain`.
-/

namespace GraphQuery
namespace Value

mutual

/-- The plain form of a value of at most so many levels; a value without parts is one level. -/
def plainWithin : Nat → Value → Outcome Value
  | 0, _ => .error (.argument .nestedTooFar)
  | _ + 1, .null => .ok .null
  | _ + 1, .bool b => .ok (.bool b)
  | _ + 1, .int n => .ok (.int n)
  | _ + 1, .float x => .ok (if x.toRat?.isSome then .float x else .null)
  | _ + 1, .text s => .ok (.text s)
  | _ + 1, .date d => .ok (.text d.text)
  | levels + 1, .list xs => (plainItems levels xs).map .list
  | levels + 1, .tuple xs => (plainItems levels xs).map .list
  | levels + 1, .set _ xs => (plainItems levels xs).map .list
  | levels + 1, .mapping xs => (plainEntries levels xs).map .mapping
  | levels + 1, .table xs => (plainRows levels xs).map .mapping
  | _ + 1, .record _ => .error .unwritable
  | _ + 1, .test _ => .error .unwritable

def plainItems (levels : Nat) : List Value → Outcome (List Value)
  | [] => .ok []
  | x :: xs => do
    let y ← plainWithin levels x
    return y :: (← plainItems levels xs)

def plainEntries (levels : Nat) : List (String × Value) → Outcome (List (String × Value))
  | [] => .ok []
  | (name, x) :: xs => do
    let y ← plainWithin levels x
    return (name, y) :: (← plainEntries levels xs)

def plainRows (levels : Nat) : List (Value × Value) → Outcome (List (String × Value))
  | [] => .ok []
  | (key, x) :: xs => do
    let name ← (Json.keyName key).mapError fun _ => .unwritable
    let y ← plainWithin levels x
    return (name, y) :: (← plainRows levels xs)

end

/-- How many levels a free-form value in a document has at most. -/
def documentLevels : Nat := 255

/-- The plain form of a mapping of free-form values; the mapping itself is no level of theirs. -/
def plain (v : Value) : Outcome Value := v.plainWithin (documentLevels + 1)

end Value

/-- The plain form of free-form fields. -/
def Fields.plain (fields : Fields) : Outcome Fields := Value.plainEntries Value.documentLevels fields

/-- Entries with the nulls left out. -/
def Fields.withoutNulls (fields : Fields) : Fields := fields.filter fun entry => !entry.2.isNull

namespace Entity

/-- An entity with other properties. -/
def withProperties (properties : Fields) : Entity → Entity
  | node n => .node { n with properties }
  | edge e => .edge { e with properties }

/-- The document of an entity: its fields and attributes in plain form, nulls left out. -/
def document (x : Entity) (dump : Fields → Outcome Fields := Fields.plain) : Outcome Value := do
  let properties ← dump x.properties
  let others ← dump x.extras.withoutNulls
  return .mapping ((x.withProperties properties).knownFields.withoutNulls ++ others)

end Entity

namespace Snapshot

/-- The document of a graph. -/
def document (s : Snapshot) (dump : Fields → Outcome Fields := Fields.plain) : Outcome Value := do
  let nodes ← s.nodes.mapM fun n => (Entity.node n).document dump
  let edges ← s.edges.mapM fun e => (Entity.edge e).document dump
  return .mapping [("nodes", .list nodes), ("edges", .list edges)]

/-- The text of the file in which a graph is saved. -/
def fileText (s : Snapshot) (dump : Fields → Outcome Fields := Fields.plain) : Outcome String := do
  (Json.write .readable (← s.document dump)).mapError (Failure.ofRefusal .unwritable)

/-- What has been written of a graph when saving it fails: nothing if it has no document, else its text up to an
integer that is not written. -/
def begunText (s : Snapshot) (dump : Fields → Outcome Fields := Fields.plain) : String :=
  match s.document dump with
  | .ok document => String.ofList (Json.begun .readable 0 document)
  | .error _ => ""

end Snapshot
end GraphQuery
