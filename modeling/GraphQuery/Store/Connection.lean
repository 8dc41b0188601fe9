import GraphQuery.Store.KeyValue

/-!
# Store files in use

A store file is opened before it is used.  Opening it again closes it first, so a file that cannot be
opened again stays closed and refuses every operation.  A file lists its keys by their bytes, which is
the order of a store that is kept in memory.
-/

namespace GraphQuery

/-- A store file and whether it is open; `path` is how messages call it. -/
structure StoreConnection where
  path : String
  file : StoreFile
  isOpen : Bool
deriving DecidableEq, Repr

namespace StoreConnection

/-- The bytes of a key in UTF-8. -/
def bytes (key : String) : List Nat :=
  key.toList.flatMap fun c => (String.utf8EncodeChar c).map UInt8.toNat

/-- Whether bytes come at or before others: the first byte that differs decides. -/
def bytesAtMost : List Nat → List Nat → Bool
  | [], _ => true
  | _ :: _, [] => false
  | a :: as, b :: bs => if a = b then bytesAtMost as bs else a < b

/-- A new store file, opened. -/
def fresh (path : String) : StoreConnection := ⟨path, .fresh, true⟩

/-- The content of an open file. -/
def content (connection : StoreConnection) : Outcome KeyValues :=
  if connection.isOpen then .ok connection.file.content else .error .closedStore

def get? (connection : StoreConnection) (key : String) : Outcome (Option String) := do
  return KeyValues.get? (← connection.content) key

/-- The keys, by their bytes ascending. -/
def keys (connection : StoreConnection) : Outcome (List String) := do
  return ((← connection.content).map (·.1)).mergeSort fun a b => bytesAtMost (bytes a) (bytes b)

def withContent (connection : StoreConnection) (content : KeyValues) : StoreConnection :=
  { connection with file := { connection.file with content } }

def set (connection : StoreConnection) (key value : String) : Outcome StoreConnection := do
  return connection.withContent (KeyValues.set (← connection.content) key value)

/-- Deletes a key and says whether it was there. -/
def delete (connection : StoreConnection) (key : String) : Outcome (StoreConnection × Bool) := do
  let content ← connection.content
  return (connection.withContent (KeyValues.delete content key), KeyValues.has content key)

/-- Changes the version record of the file from outside. -/
def setVersion (connection : StoreConnection) (version : Option String) : StoreConnection :=
  { connection with file := { connection.file with version } }

/-- Closes the file and opens it again; a failure leaves it closed. -/
def reopen (connection : StoreConnection) : StoreConnection × Outcome Unit :=
  match connection.file.openAt connection.path with
  | .ok _ => ({ connection with isOpen := true }, .ok ())
  | .error e => ({ connection with isOpen := false }, .error e)

end StoreConnection
end GraphQuery
