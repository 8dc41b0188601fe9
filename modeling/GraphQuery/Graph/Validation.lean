import GraphQuery.Failure
import GraphQuery.Graph.Entity

/-!
# Reading graphs from values

Nodes and edges are read from mappings.  Every field is checked, and all faults of a graph are reported
together, nodes before edges and each entity's fields in order.
-/

namespace GraphQuery

/-- A checked field, or its faults. -/
abbrev Checked (α : Type) := Except (List FieldFault) α

namespace Checked

/-- The faults of a field. -/
def faults {α : Type} : Checked α → List FieldFault
  | .ok _ => []
  | .error fs => fs

/-- The faults of a part, placed under the step that leads to it. -/
def under {α : Type} (step : PathStep) : Checked α → Checked α
  | .ok x => .ok x
  | .error fs => .error (fs.map (FieldFault.under step))

/-- One broken rule at the place itself. -/
def broken {α : Type} (rule : FieldRule) : Checked α := .error [⟨rule, []⟩]

def toOutcome {α : Type} : Checked α → Outcome α
  | .ok x => .ok x
  | .error fs => .error (.fields fs)

/-- All items checked, with the faults of every one. -/
def all {α : Type} (check : Value → Checked α) : Nat → List Value → Checked (List α)
  | _, [] => .ok []
  | i, v :: rest =>
    match under (.index i) (check v), all check (i + 1) rest with
    | .ok x, .ok xs => .ok (x :: xs)
    | x, xs => .error (x.faults ++ xs.faults)

end Checked

namespace Check

open Checked

/-- The integer that a floating number stands for. -/
def wholeNumber (x : Binary64) : Checked Int :=
  match x.toRat? with
  | none => broken .finiteNumber
  | some q =>
    if q.den ≠ 1 then broken .wholeNumber
    else if q.num ≤ -Nat.pow 2 63 ∨ Nat.pow 2 63 ≤ q.num then broken .integerSize
    else .ok q.num

/-- An id: texts and integers as they are, truth values and whole numbers as integers. -/
def entityId (v : Value) : Checked EntityId :=
  let number : Checked Int := match v with
    | .int n => .ok n
    | .bool b => .ok (if b then 1 else 0)
    | .float x => wholeNumber x
    | _ => broken .integer
  match v with
  | .text s => .ok (.text s)
  | _ =>
    match number with
    | .ok n => .ok (.int n)
    | .error fs =>
      .error (⟨.text, [.field "str"]⟩ :: fs.map (FieldFault.under (.field "int")))

/-- A text or nothing. -/
def optionalText (v : Value) : Checked (Option String) :=
  match v with
  | .null => .ok none
  | .text s => .ok (some s)
  | _ => broken .text

/-- The step to a key of a mapping: integers of 64 bits count as places, other keys go by their form. -/
def keyStep (key : Value) : PathStep :=
  match key with
  | .int n => if n.natAbs < Nat.pow 2 63 then .index n else .field key.quoted
  | .bool b => .index (if b then 1 else 0)
  | .text s => .field s
  | _ => .field key.quoted

/-- The faults of the keys that are no texts. -/
def keyFaults (rows : List (Value × Value)) : List FieldFault :=
  (rows.filter fun row => row.1.text?.isNone).map fun row =>
    ⟨.text, [keyStep row.1, .field "[key]"]⟩

/-- A mapping whose keys are texts. -/
def mapping (v : Value) : Checked Fields :=
  match v with
  | .mapping entries => .ok entries
  | .table rows => .error (keyFaults rows)
  | _ => broken .mapping

/-- A named field of a mapping; what is absent takes the default, or is a fault where there is none. -/
def field {α : Type} (fields : Fields) (name : String) (check : Value → Checked α)
    (default : Option α) : Checked α :=
  under (.field name) <|
    match Fields.get? fields name, default with
    | some v, _ => check v
    | none, some x => .ok x
    | none, none => broken .required

/-- The known names that a mapping gives. -/
def given (fields : Fields) (known : List String) : List String := known.filter (Fields.has fields)

/-- The fields that are not in the list of known names. -/
def others (fields : Fields) (known : List String) : Fields :=
  fields.filter fun entry => !known.contains entry.1

def node (v : Value) : Checked Node :=
  match v with
  | .mapping fields =>
    let id := field fields "id" entityId none
    let label := field fields "label" optionalText (some none)
    let type := field fields "type" optionalText (some none)
    let properties := field fields "properties" mapping (some [])
    match id, label, type, properties with
    | .ok id, .ok label, .ok type, .ok properties =>
      let known := ["id", "label", "type", "properties"]
      .ok ⟨id, label, type, properties, others fields known, given fields known⟩
    | _, _, _, _ => .error (id.faults ++ label.faults ++ type.faults ++ properties.faults)
  | _ => broken .object

def edge (v : Value) : Checked Edge :=
  match v with
  | .mapping fields =>
    let id := field fields "id" entityId none
    let source := field fields "source" entityId none
    let target := field fields "target" entityId none
    let label := field fields "label" optionalText (some none)
    let type := field fields "type" optionalText (some none)
    let properties := field fields "properties" mapping (some [])
    match id, source, target, label, type, properties with
    | .ok id, .ok source, .ok target, .ok label, .ok type, .ok properties =>
      let known := ["id", "source", "target", "label", "type", "properties"]
      .ok ⟨id, source, target, label, type, properties, others fields known, given fields known⟩
    | _, _, _, _, _, _ =>
      .error (id.faults ++ source.faults ++ target.faults ++ label.faults ++ type.faults ++
        properties.faults)
  | _ => broken .object

/-- A list of checked items; tuples and sets count as lists. -/
def list {α : Type} (check : Value → Checked α) (v : Value) : Checked (List α) :=
  match v.collection? with
  | some items => all check 0 items
  | none => broken .list

/-- A graph from its node list and edge list. -/
def snapshot (nodes edges : Value) : Checked Snapshot :=
  match under (.field "nodes") (list node nodes), under (.field "edges") (list edge edges) with
  | .ok nodes, .ok edges => .ok ⟨nodes, edges⟩
  | nodes, edges => .error (nodes.faults ++ edges.faults)

end Check

namespace Snapshot

/-- The value, or an empty list in place of one that counts as false. -/
def orEmpty (v : Value) : Value := if v.isTruthy then v else .list []

/-- The items one gets by going through a value. -/
def iterated (v : Value) : Outcome (List Value) :=
  match v.iterated? with
  | some items => .ok items
  | none => .error .mismatch

/-- The graph in a mapping, or in a thing with nodes and edges; nothing is the empty graph. -/
def coerce (v : Value) : Outcome Snapshot :=
  match v with
  | .mapping fields =>
    (Check.snapshot (orEmpty (Fields.getD fields "nodes")) (orEmpty (Fields.getD fields "edges"))).toOutcome
  | .record attributes => do
    let nodes ← iterated (orEmpty (Fields.getD attributes "nodes"))
    let edges ← iterated (orEmpty (Fields.getD attributes "edges"))
    (Check.snapshot (.list nodes) (.list edges)).toOutcome
  | _ => .ok empty

/-- The graph that a document describes; `links` may stand for `edges`. -/
def ofDocument (v : Value) : Outcome Snapshot :=
  match v with
  | .mapping fields =>
    let edges := match Fields.getD fields "edges" with
      | .null => (Fields.get? fields "links").getD (.list [])
      | edges => edges
    let nodes := (Fields.get? fields "nodes").getD (.list [])
    (Check.snapshot nodes edges).toOutcome
  | _ => .error (.argument (.graphNotObject v.kindName))

end Snapshot
end GraphQuery
