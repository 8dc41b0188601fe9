import GraphQuery.Value.Text
import GraphQuery.Number.Fixed

/-!
# Result cache

A bounded memory of results, oldest first.  When it grows past its capacity, a fraction of the entries
is dropped at once, the oldest first and one at least.  Dropping entries only costs recomputation.
-/

namespace GraphQuery

/-- A part of a whole: a floating number, with which products are rounded, or an exact ratio. -/
inductive Share where
  | float (x : Binary64)
  | ratio (q : Rat)

namespace Share

/-- A number multiplied by a share, in the arithmetic of the share. -/
def product (share : Share) (n : Nat) : Rat :=
  match share with
  | float x => (Binary64.mul (.ofNat n) x).toRat
  | ratio q => n * q

end Share

structure ResultCache (α : Type) where
  /-- The greatest number of entries, as it was given. -/
  capacity : Value
  /-- The part of the entries that is dropped at once, above zero and at most one. -/
  evictFraction : Share
  entries : List (String × α)
  hits : Nat
  misses : Nat

namespace ResultCache

variable {α : Type}

def new (capacity : Int) (evictFraction : Share) : ResultCache α :=
  ⟨.int capacity, evictFraction, [], 0, 0⟩

/-- A cache of the given capacity, a number that is not below one, and the given fraction. -/
def ofValues (capacity evictFraction : Value) : Outcome (ResultCache α) := do
  match capacity.number? with
  | none => throw .mismatch
  | some place => if place.less (.exact 1) then throw (.showing capacity (.argument (.capacity capacity)))
  let fraction ← match evictFraction with
    | .float x => .ok x
    | .int n => .ok (.ofInt n)
    | .bool b => .ok (.ofNat (if b then 1 else 0))
    | _ => .error .mismatch
  let place := Extended.ofBinary64 fraction
  if Extended.less (.exact 0) place && place.atMost (.exact 1) then
    return ⟨capacity, .float fraction, [], 0, 0⟩
  else throw (.showing evictFraction (.argument (.evictFraction evictFraction)))

/-- Whether a number of entries is above the capacity; nothing is above one that is not a value. -/
def isExceeded (cache : ResultCache α) (size : Nat) : Bool :=
  cache.capacity.number?.any fun place => place.less (.exact size)

/-- What is held under a key. -/
def find? (cache : ResultCache α) (key : String) : Option α :=
  (cache.entries.find? (·.1 = key)).map (·.2)

/-- Counts a lookup that was not answered. -/
def miss (cache : ResultCache α) : ResultCache α := { cache with misses := cache.misses + 1 }

/-- Looks a key up and counts whether it was held. -/
def get (cache : ResultCache α) (key : String) : ResultCache α × Option α :=
  match cache.find? key with
  | some v => ({ cache with hits := cache.hits + 1 }, some v)
  | none => (cache.miss, none)

/-- Sets a key: a known one keeps its place, a new one comes last. -/
def insertLast : List (String × α) → String → α → List (String × α)
  | [], key, v => [(key, v)]
  | (k, old) :: rest, key, v =>
    if k = key then (k, v) :: rest else (k, old) :: insertLast rest key v

/-- How many entries are dropped out of a number of them. -/
def evictCount (fraction : Share) (size : Nat) : Nat := max 1 (fraction.product size).floor.toNat

def put (cache : ResultCache α) (key : String) (v : α) : ResultCache α :=
  let entries := insertLast cache.entries key v
  -- A key that was held already does not make the list longer.
  if cache.isExceeded entries.length then
    { cache with entries := entries.drop (evictCount cache.evictFraction entries.length) }
  else { cache with entries }

def keys (cache : ResultCache α) : List String := cache.entries.map (·.1)

/-- Forgets all results; the counts stay. -/
def clear (cache : ResultCache α) : ResultCache α := { cache with entries := [] }

/-- The percentage of lookups that were answered. -/
def hitRate (cache : ResultCache α) : Int :=
  let lookups := cache.hits + cache.misses
  if lookups = 0 then 0
  else Number.roundRat (Binary64.mul (.ratio cache.hits lookups) (.ofNat 100)).toRat

end ResultCache
end GraphQuery
