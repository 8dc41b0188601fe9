import GraphQuery.Value.Text

/-!
# Nodes and edges

A property graph has typed nodes and directed edges, each with a label, properties and attributes beyond
the known ones.  An id is a text or an integer, and the two are never equal.  Edges may refer to ids
that no node has.
-/

namespace GraphQuery

/-- The id of a node or an edge. -/
inductive EntityId where
  | text (s : String)
  | int (n : Int)
deriving DecidableEq, Repr, Inhabited

namespace EntityId

def toValue : EntityId → Value
  | text s => .text s
  | int n => .int n

/-- The text of an id on its own. -/
def display (id : EntityId) : String := id.toValue.display

/-- The id that a value is equal to, if any: numbers by value. -/
def ofValue? (v : Value) : Option EntityId :=
  match v with
  | .text s => some (text s)
  | .int n => some (int n)
  | .bool b => some (int (if b then 1 else 0))
  | .float x => x.toInt?.map int
  | _ => none

theorem ofValue?_toValue (id : EntityId) : ofValue? id.toValue = some id := by
  cases id <;> rfl

end EntityId

/-- A node of the graph. -/
structure Node where
  id : EntityId
  label : Option String
  type : Option String
  properties : Fields
  /-- Attributes beyond the known ones. -/
  extras : Fields
  /-- The names of the known fields that were given; the others have their defaults. -/
  given : List String

/-- A directed edge of the graph. -/
structure Edge where
  id : EntityId
  source : EntityId
  target : EntityId
  label : Option String
  type : Option String
  properties : Fields
  extras : Fields
  given : List String

/-- Whether something is a node or an edge. -/
inductive EntityKind where
  | node
  | edge
deriving DecidableEq, Repr

namespace EntityKind

def name : EntityKind → String
  | node => "node"
  | edge => "edge"

end EntityKind

/-- A node or an edge. -/
inductive Entity where
  | node (n : Node)
  | edge (e : Edge)

namespace Entity

def kind : Entity → EntityKind
  | node _ => .node
  | edge _ => .edge

def id : Entity → EntityId
  | node n => n.id
  | edge e => e.id

def label : Entity → Option String
  | node n => n.label
  | edge e => e.label

def type : Entity → Option String
  | node n => n.type
  | edge e => e.type

def properties : Entity → Fields
  | node n => n.properties
  | edge e => e.properties

def extras : Entity → Fields
  | node n => n.extras
  | edge e => e.extras

def givenFields : Entity → List String
  | node n => n.given
  | edge e => e.given

def asNode? : Entity → Option Node
  | node n => some n
  | edge _ => none

def asEdge? : Entity → Option Edge
  | node _ => none
  | edge e => some e

end Entity

/-- The nodes and edges of a graph at one moment, or those a filter leaves. -/
structure Snapshot where
  nodes : List Node
  edges : List Edge

namespace Snapshot

def empty : Snapshot := ⟨[], []⟩

def nodeIds (s : Snapshot) : List EntityId := s.nodes.map (·.id)

def edgeIds (s : Snapshot) : List EntityId := s.edges.map (·.id)

end Snapshot

/-! ## Texts of entities -/

/-- A text, or null for none. -/
def textOrNull (s : Option String) : Value :=
  match s with
  | some t => .text t
  | none => .null

namespace Entity

/-- The texts that searching sees, in order: label, type and id where they are not empty, then each
property's key and value. -/
def textParts (x : Entity) : List String :=
  let known := [x.label.getD "", x.type.getD "", x.id.display].filter (· ≠ "")
  known ++ x.properties.flatMap fun (key, v) => [key, v.display]

/-- The searchable text in its own letter case. -/
def rawText (x : Entity) : String := " ".intercalate x.textParts

/-- Whether an integer that the searchable text would show has more digits than are converted. -/
def hasLongInteger (x : Entity) : Bool :=
  x.id.toValue.hasLongInteger || x.properties.any fun entry => entry.2.hasLongInteger

/-- The searchable text in its own letter case, if all integers in it are converted. -/
def searchableText (x : Entity) : Outcome String :=
  if x.hasLongInteger then .error .longIntegerText else .ok x.rawText

/-- Whether an entity has a searchable text. -/
abbrev HasText (x : Entity) : Prop := x.hasLongInteger = false

theorem HasText.searchableText {x : Entity} (h : x.HasText) : x.searchableText = .ok x.rawText := by
  rw [Entity.searchableText, h, if_neg Bool.false_ne_true]

/-- The known fields of an entity, in order. -/
def knownFields : Entity → Fields
  | node n =>
    [("id", n.id.toValue), ("label", textOrNull n.label), ("type", textOrNull n.type),
      ("properties", .mapping n.properties)]
  | edge e =>
    [("id", e.id.toValue), ("source", e.source.toValue), ("target", e.target.toValue),
      ("label", textOrNull e.label), ("type", textOrNull e.type),
      ("properties", .mapping e.properties)]

/-- The known fields of an entity, followed by its other attributes. -/
def fields (x : Entity) : Fields := x.knownFields ++ x.extras

/-- A short form for messages. -/
def summary : Entity → String
  | node n =>
    let part (name : String) (s : Option String) : String :=
      match s with
      | some t => ", " ++ name ++ "=" ++ Text.quoted t
      | none => ""
    "Node(" ++ n.id.toValue.quoted ++ part "label" n.label ++ part "type" n.type ++ ")"
  | edge e =>
    "Edge(" ++ e.id.toValue.quoted ++ ": " ++ e.source.toValue.quoted ++ " -> " ++
      e.target.toValue.quoted ++ ", type=" ++ (textOrNull e.type).quoted ++ ")"

end Entity
end GraphQuery
