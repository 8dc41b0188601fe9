import GraphQuery.Graph.Entity
import GraphQuery.Text.Blank
import GraphQuery.Text.Lowercase

/-!
# The text index

The index holds one entry per entity with its searchable text, under a key made of kind and id.  It is
rebuilt as a whole; an entity whose key is taken replaces the entry in its place.  `SearchIndex.build` is the
index in which every entity has its entry, and `SearchIndex.rebuild` stops at the first one without a text.
-/

namespace GraphQuery

structure IndexEntry where
  entity : Entity
  /-- The searchable text in lowercase. -/
  text : String
  /-- The searchable text in its own letter case. -/
  rawText : String

namespace IndexEntry

def ofEntity (x : Entity) : IndexEntry :=
  let raw := x.rawText
  ⟨x, Text.lowercase raw, raw⟩

def kind (entry : IndexEntry) : EntityKind := entry.entity.kind

def id (entry : IndexEntry) : EntityId := entry.entity.id

end IndexEntry

namespace Index

/-- The key of an entity's entry. -/
def key (kind id : String) : String := kind ++ "-" ++ id

end Index

/-- Entries by key, in order of insertion. -/
abbrev SearchIndex := List (String × IndexEntry)

namespace SearchIndex

def entryKey (entry : IndexEntry) : String := Index.key entry.kind.name entry.id.display

/-- Adds an entry; one with the same key is replaced in its place. -/
def insert : SearchIndex → IndexEntry → SearchIndex
  | [], entry => [(entryKey entry, entry)]
  | (key, old) :: rest, entry =>
    if key = entryKey entry then (key, entry) :: rest else (key, old) :: insert rest entry

/-- The index of nodes and then edges. -/
def build (nodes : List Node) (edges : List Edge) : SearchIndex :=
  (nodes.map Entity.node ++ edges.map Entity.edge).foldl
    (fun index x => insert index (IndexEntry.ofEntity x)) []

/-- Adds the entries of entities up to the first that has no text. -/
def addAll : SearchIndex → List Entity → SearchIndex × Outcome Unit
  | index, [] => (index, .ok ())
  | index, x :: rest =>
    match x.searchableText with
    | .ok raw => addAll (insert index ⟨x, Text.lowercase raw, raw⟩) rest
    | .error e => (index, .error e)

/-- The index of nodes and then edges, made anew.  One that fails has the entries that have been added till
then. -/
def rebuild (nodes : List Node) (edges : List Edge) : SearchIndex × Outcome Unit :=
  addAll [] (nodes.map Entity.node ++ edges.map Entity.edge)

def ofSnapshot (s : Snapshot) : SearchIndex := build s.nodes s.edges

def entries (index : SearchIndex) : List IndexEntry := index.map (·.2)

def keys (index : SearchIndex) : List String := index.map (·.1)

/-- Whether a value is the key of an entry. -/
def hasKey (index : SearchIndex) (key : Value) : Bool := index.any fun entry => .text entry.1 == key

def get? (index : SearchIndex) (kind id : String) : Option IndexEntry :=
  (index.find? (·.1 = Index.key kind id)).map (·.2)

/-- The words of all lowercase texts, in index order. -/
def tokens (index : SearchIndex) : List String :=
  (entries index).flatMap fun entry => Text.words entry.text

end SearchIndex
end GraphQuery
