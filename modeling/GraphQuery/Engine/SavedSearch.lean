import GraphQuery.Runtime
import GraphQuery.Store.KeyValue
import GraphQuery.Value.EntryName

/-!
# Saved searches

A saved search keeps the arguments of an advanced search under a name.  With a store, saved searches
live in the store alone; without one they live in memory.
-/

namespace GraphQuery

structure SavedSearch where
  filters : Fields
  created : Timestamp
  lastUsed : Timestamp

/-- Saved searches by name, in order of creation. -/
abbrev SavedSearches := List (EntryName × SavedSearch)

namespace Check

/-- A saved search from its fields; times that are absent are now. -/
def savedSearch (time : Value → Checked Timestamp) (now : Timestamp) (v : Value) : Checked SavedSearch :=
  match v with
  | .mapping fields =>
    let filters := field fields "filters" mapping (some [])
    let created := field fields "created" time (some now)
    let lastUsed := field fields "last_used" time (some now)
    match filters, created, lastUsed with
    | .ok filters, .ok created, .ok lastUsed => .ok ⟨filters, created, lastUsed⟩
    | _, _, _ => .error (filters.faults ++ created.faults ++ lastUsed.faults)
  | _ => Checked.broken .object

end Check

namespace SavedSearches

def keyFor (space : String) : String := space ++ ":saved_searches"

def get? (searches : SavedSearches) (name : EntryName) : Option SavedSearch :=
  (searches.find? (·.1 == name)).map (·.2)

def insert : SavedSearches → EntryName → SavedSearch → SavedSearches
  | [], name, s => [(name, s)]
  | (key, old) :: rest, name, s =>
    if key == name then (key, s) :: rest else (key, old) :: insert rest name s

def erase (searches : SavedSearches) (name : EntryName) : SavedSearches :=
  searches.filter (·.1 != name)

/-- Reads the entries of a payload; none if one of them is no saved search. -/
def ofEntries? (time : Value → Checked Timestamp) (now : Timestamp) :
    List (String × Value) → Option SavedSearches
  | [] => some []
  | (name, entry) :: rest =>
    match Check.savedSearch time now entry, ofEntries? time now rest with
    | .ok s, some others => some ((.text name, s) :: others)
    | _, _ => none

/-- Reads a payload; an empty one holds nothing. -/
def parse (reader : PayloadReader) (now : Timestamp) (payload : String) : Outcome SavedSearches :=
  if payload = "" then .ok []
  else
    match reader.document payload with
    | .ok (.mapping entries) =>
      match ofEntries? reader.time now entries with
      | some searches => .ok searches
      | none => .error (.payload .savedSearches)
    | .error .nestedTooDeep => .error .nestedTooDeep
    | _ => .error (.payload .savedSearches)

/-- The stored form of a saved search. -/
def entry (dump : Fields → Outcome Fields) (s : SavedSearch) : Outcome Value := do
  let filters ← dump s.filters
  return .mapping
    [("filters", .mapping filters), ("created", .text s.created.zuluText),
      ("last_used", .text s.lastUsed.zuluText)]

def serialize (runtime : Runtime) (searches : SavedSearches) : Outcome String := do
  let entries ← searches.mapM fun (name, s) => return (name, ← entry runtime.dump s)
  unless searches.all fun (_, s) => runtime.writes (.mapping s.filters) do throw .nestedTooDeep
  -- Names are looked at once every search has its stored form.
  let members := entries.map fun (name, v) => (name.value, v)
  (Json.write .stored (.table members)).mapError (Failure.ofRefusal .mismatch)

/-- The saved searches: those of the store if there is one, else those in memory. -/
def current (reader : PayloadReader) (now : Timestamp) (key : String) (store : Option Store)
    (memory : SavedSearches) : Outcome SavedSearches :=
  match store with
  | none => .ok memory
  | some store =>
    match store.get? key with
    | none => .ok []
    | some payload => parse reader now payload

end SavedSearches
end GraphQuery
