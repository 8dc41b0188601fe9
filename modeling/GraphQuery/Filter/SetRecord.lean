import GraphQuery.Filter.Config
import GraphQuery.Time.Stamp
import GraphQuery.Value.EntryName

/-!
# Named filter sets

A filter set is a configuration under a name that can be switched on and off.  Sets are kept in order of
creation; replacing a set keeps its place.
-/

namespace GraphQuery

structure FilterSetRecord where
  /-- A mapping, whose keys are texts as a rule. -/
  config : Value
  active : Bool
  created : Timestamp
  updated : Option Timestamp
  imported : Option Timestamp

/-- Filter sets by name, in order of creation. -/
abbrev FilterSets := List (EntryName × FilterSetRecord)

namespace FilterSets

def get? (sets : FilterSets) (name : EntryName) : Option FilterSetRecord :=
  (sets.find? (·.1 == name)).map (·.2)

def has (sets : FilterSets) (name : EntryName) : Bool := sets.any (·.1 == name)

/-- Sets a name: a known one keeps its place, a new one comes last. -/
def insert : FilterSets → EntryName → FilterSetRecord → FilterSets
  | [], name, r => [(name, r)]
  | (key, old) :: rest, name, r =>
    if key == name then (key, r) :: rest else (key, old) :: insert rest name r

def erase (sets : FilterSets) (name : EntryName) : FilterSets := sets.filter (·.1 != name)

/-- Adds the second sets to the first, in order. -/
def merge (sets others : FilterSets) : FilterSets :=
  others.foldl (fun all entry => insert all entry.1 entry.2) sets

def active (sets : FilterSets) : FilterSets := sets.filter (·.2.active)

/-- What the active sets leave of a part of a graph: each filters what the ones before it left. -/
def applyFrom (graph : Snapshot) : FilterSets → Snapshot → Outcome Snapshot
  | [], part => .ok part
  | (_, r) :: rest, part =>
    if r.active then do
      let left ← Filter.apply graph r.config part
      applyFrom graph rest left
    else applyFrom graph rest part

/-- What the active sets leave of a graph. -/
def applyAll (graph : Snapshot) (sets : FilterSets) : Outcome Snapshot := applyFrom graph sets graph

end FilterSets
end GraphQuery
