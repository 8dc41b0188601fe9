import GraphQuery.Failure

/-!
# Key-value stores

A store maps texts to texts.  `Store` adds whether writing is refused, which is how a full disk shows;
`StoreFile` is a store kept in a file together with the version of its layout.
-/

namespace GraphQuery

/-- Texts by key, each key once. -/
abbrev KeyValues := List (String × String)

namespace KeyValues

def get? (kv : KeyValues) (key : String) : Option String := (kv.find? (·.1 = key)).map (·.2)

def set : KeyValues → String → String → KeyValues
  | [], key, value => [(key, value)]
  | (k, old) :: rest, key, value =>
    if k = key then (k, value) :: rest else (k, old) :: set rest key value

def delete (kv : KeyValues) (key : String) : KeyValues := kv.filter (·.1 ≠ key)

def has (kv : KeyValues) (key : String) : Bool := kv.any (·.1 = key)

/-- The keys, by code points ascending. -/
def keys (kv : KeyValues) : List String := (kv.map (·.1)).mergeSort fun a b => a ≤ b

def ofEntries (entries : List (String × String)) : KeyValues :=
  entries.foldl (fun kv entry => set kv entry.1 entry.2) []

/-- Reading a key gives what was written to it last. -/
theorem get?_set (kv : KeyValues) (key value other : String) :
    get? (set kv key value) other = if other = key then some value else get? kv other := by
  induction kv with
  | nil => by_cases h : key = other <;> simp [set, get?, h, eq_comm]
  | cons entry rest ih =>
    obtain ⟨k, old⟩ := entry
    simp only [get?] at ih
    by_cases hk : k = key <;> by_cases ho : k = other <;> grind [set, get?]

end KeyValues

/-- A store that may refuse to be written to. -/
structure Store where
  content : KeyValues
  refuses : Bool := false
deriving DecidableEq, Repr

namespace Store

def get? (store : Store) (key : String) : Option String := KeyValues.get? store.content key

/-- Writes a key; a store that refuses stays as it is. -/
def write (store : Store) (key value : String) : Outcome Store :=
  if store.refuses then .error .storeFull
  else .ok { store with content := KeyValues.set store.content key value }

/-- Deletes a key and says whether it was there. -/
def delete (store : Store) (key : String) : Store × Bool :=
  ({ store with content := KeyValues.delete store.content key }, KeyValues.has store.content key)

def keys (store : Store) : List String := KeyValues.keys store.content

end Store

/-- A store in a file; a file without a version record is damaged. -/
structure StoreFile where
  version : Option String
  content : KeyValues
deriving DecidableEq, Repr

namespace StoreFile

/-- The version of the layout that is read and written. -/
def currentVersion : String := "1"

/-- What opening a path for the first time leaves there. -/
def fresh : StoreFile := ⟨some currentVersion, []⟩

/-- The content of a store file of the current version; `path` is how messages call it. -/
def openAt (path : String) (file : StoreFile) : Outcome KeyValues :=
  match file.version with
  | none => .error (.argument (.versionMissing path))
  | some v =>
    if v = currentVersion then .ok file.content else .error (.argument (.versionUnknown v path))

end StoreFile
end GraphQuery
