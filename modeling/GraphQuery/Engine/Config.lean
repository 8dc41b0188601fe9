import GraphQuery.Filter.History

/-!
# Engine settings

The tunables of an engine with their defaults and bounds.  Settings come from a mapping or from
environment variables named by a common start and the setting in capitals.
-/

namespace GraphQuery

structure EngineConfig where
  searchHistorySize : Int := 50
  filterHistorySize : Int := 20
  defaultSearchLimit : Int := 100
  defaultPathDepth : Int := 10
  cacheCapacity : Int := 100
  cacheEvictFraction : Binary64 := .ofQuotient false 3 10
  storeNamespace : String := "graphsift"

namespace Check

open Checked

/-- An integer of at least the given size. -/
def integerFrom (least : Int) (v : Value) : Checked Int :=
  match integer v with
  | .ok n => if n < least then broken .atLeast else .ok n
  | .error fs => .error fs

/-- A floating number: a number within the range, a truth value, or the text of a number. -/
def binary64 (v : Value) : Checked Binary64 :=
  match v with
  | .int n =>
    match Binary64.ofInt? n with
    | some x => .ok x
    | none => broken .number
  | .bool b => .ok (.ofNat (if b then 1 else 0))
  | .float x => .ok x
  | .text s =>
    match Number.looseBinary64? s with
    | some x => .ok x
    | none => broken .numberText
  | _ => broken .number

/-- A fraction above zero and at most one. -/
def fraction (v : Value) : Checked Binary64 :=
  match binary64 v with
  | .ok x =>
    if !(Extended.ofBinary64 x).atMost (.exact 1) then broken .atMost
    else if !(Extended.exact 0).less (.ofBinary64 x) then broken .above
    else .ok x
  | .error fs => .error fs

def text (v : Value) : Checked String :=
  match v with
  | .text s => .ok s
  | _ => broken .text

/-- Settings from a mapping; settings that are not known are ignored. -/
def engineConfig (v : Value) : Checked EngineConfig :=
  match v with
  | .mapping fields =>
    let base : EngineConfig := {}
    let number (name : String) (least default : Int) : Checked Int :=
      field fields name (integerFrom least) (some default)
    let searchHistorySize := number "search_history_size" 1 base.searchHistorySize
    let filterHistorySize := number "filter_history_size" 1 base.filterHistorySize
    let searchLimit := number "default_search_limit" 1 base.defaultSearchLimit
    let pathDepth := number "default_path_depth" 0 base.defaultPathDepth
    let capacity := number "cache_capacity" 1 base.cacheCapacity
    let evict := field fields "cache_evict_fraction" fraction (some base.cacheEvictFraction)
    let space := field fields "store_namespace" text (some base.storeNamespace)
    match searchHistorySize, filterHistorySize, searchLimit, pathDepth, capacity, evict, space with
    | .ok a, .ok b, .ok c, .ok d, .ok e, .ok f, .ok g => .ok ⟨a, b, c, d, e, f, g⟩
    | a, b, c, d, e, f, g =>
      .error (a.faults ++ b.faults ++ c.faults ++ d.faults ++ e.faults ++ f.faults ++ g.faults)
  | _ => broken .object

end Check

/-- Environment variables by name. -/
abbrev Environment := List (String × String)

namespace Environment

def get? (env : Environment) (name : String) : Option String := (env.find? (·.1 = name)).map (·.2)

def set : Environment → String → String → Environment
  | [], name, v => [(name, v)]
  | (key, old) :: rest, name, v =>
    if key = name then (key, v) :: rest else (key, old) :: set rest name v

end Environment

namespace EngineConfig

/-- The names of the settings. -/
def names : List String :=
  ["search_history_size", "filter_history_size", "default_search_limit", "default_path_depth",
    "cache_capacity", "cache_evict_fraction", "store_namespace"]

/-- What the names of environment variables start with unless told otherwise. -/
def standardStart : String := "GRAPHSIFT_"

/-- The settings that environment variables give. -/
def ofEnvironment (start : String) (env : Environment) : Outcome EngineConfig :=
  let given := names.filterMap fun name =>
    (env.get? (start ++ name.toUpper)).map fun v => (name, Value.text v)
  (Check.engineConfig (.mapping given)).toOutcome

end EngineConfig
end GraphQuery
