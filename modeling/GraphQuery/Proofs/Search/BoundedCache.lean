import GraphQuery.Proofs.Number.RoundingError
import GraphQuery.Proofs.Search.ResultCache
import Mathlib.Data.List.Induction
import Mathlib.Data.List.Nodup

/-!
# Bounded caches — first in, first out

A cache is used by putting values, looking keys up and clearing it (`CacheCall`).  Its share says which part of the
entries is dropped when there are too many, one at least.  A share that is at most one never asks for more entries than
there are, and a smaller one leaves the entry that was put last (`Share.Fits`).

After any calls (`ResultCache.run_isFifoMemo`) the cache holds no more than its capacity, and what it holds are the
latest of the keys that were inserted, in order, with the values that were put last; entries are dropped from the front
only, and only when there are too many; and the counts tell how many lookups there were, and how many of them found
their key.  Each call keeps what is needed for that (`ResultCache.Keeps.perform`).  The same holds where the number of
dropped entries is computed with rounding (`ResultCache.run_isFifoMemo_float`).
-/

namespace GraphQuery

/-! ## Calls -/

/-- A use of a cache. -/
inductive CacheCall (α : Type) where
  | put (key : String) (v : α)
  | get (key : String)
  | clear

namespace CacheCall

variable {α : Type}

/-- The cache after a call. -/
def perform (cache : ResultCache α) : CacheCall α → ResultCache α
  | put key v => cache.put key v
  | get key => (cache.get key).1
  | clear => cache.clear

end CacheCall

/-- A cache after calls made one after the other. -/
def ResultCache.run {α : Type} (first : ResultCache α) (calls : List (CacheCall α)) : ResultCache α :=
  calls.foldl CacheCall.perform first

namespace CacheCall

variable {α : Type}

/-- The calls of a run, each with the cache that it is made on. -/
def steps (first : ResultCache α) : List (CacheCall α) → List (ResultCache α × CacheCall α)
  | [] => []
  | call :: rest => (first, call) :: steps (call.perform first) rest

/-- The keys that are inserted: a put inserts a key that is not held, and clearing starts anew. -/
def insertedAfter (inserted : List String) : ResultCache α × CacheCall α → List String
  | (cache, put key _) => if key ∈ cache.keys then inserted else inserted ++ [key]
  | (_, get _) => inserted
  | (_, clear) => []

/-- Whether a call looks a key up. -/
def isLookup : CacheCall α → Bool
  | get _ => true
  | put .. | clear => false

/-- Whether a call looks up a key that is held. -/
def isHit : ResultCache α × CacheCall α → Bool
  | (cache, get key) => key ∈ cache.keys
  | (_, put ..) | (_, clear) => false

/-- The value that a call puts under a key. -/
def puts? (key : String) : CacheCall α → Option α
  | put k v => if k = key then some v else none
  | get _ | clear => none

/-- The keys inserted by a run since it last cleared the cache, in order. -/
def insertions (first : ResultCache α) (calls : List (CacheCall α)) : List String :=
  (steps first calls).foldl insertedAfter []

/-- How many calls of a run found the key that they looked up. -/
def hitCount (first : ResultCache α) (calls : List (CacheCall α)) : Nat := (steps first calls).countP isHit

/-- The value that was put under a key most recently. -/
def lastPut? (calls : List (CacheCall α)) (key : String) : Option α := calls.reverse.findSome? (puts? key)

variable (first : ResultCache α) (calls : List (CacheCall α)) (call : CacheCall α)

theorem steps_append : steps first (calls ++ [call]) = steps first calls ++ [(first.run calls, call)] := by
  induction calls generalizing first with
  | nil =>
      rfl
  | cons earlier rest ih =>
      exact congrArg _ (ih _)

theorem insertions_append :
    insertions first (calls ++ [call]) = insertedAfter (insertions first calls) (first.run calls, call) := by
  rw [insertions, steps_append, List.foldl_append]
  rfl

theorem hitCount_append :
    hitCount first (calls ++ [call]) = hitCount first calls + if isHit (first.run calls, call) then 1 else 0 := by
  rw [hitCount, steps_append, List.countP_append, List.countP_singleton]
  rfl

theorem lastPut?_append (key : String) : lastPut? (calls ++ [call]) key = (call.puts? key).or (lastPut? calls key) := by
  rw [lastPut?, List.reverse_append, List.reverse_singleton, List.singleton_append, List.findSome?_cons]
  cases call.puts? key <;> rfl

end CacheCall

/-! ## Shares -/

namespace Share

/-- The part that a share stands for. -/
def value : Share → Rat
  | float x => x.toRat
  | ratio q => q

/-- A share of so many things that there is a place for is at most all of them, and less if the share is. -/
structure Fits (share : Share) (capacity : Int) : Prop where
  le : ∀ n : Nat, (n : Int) ≤ capacity + 1 → share.product n ≤ n
  lt : share.value < 1 → ∀ n : Nat, 0 < n → (n : Int) ≤ capacity + 1 → share.product n < n

/-- Exact ratios fit whatever the capacity. -/
theorem fits_ratio {q : ℚ} (hq : q ≤ 1) (capacity : Int) : (ratio q).Fits capacity where
  le n _ := mul_le_of_le_one_right n.cast_nonneg hq
  lt hless _ hn _ := mul_lt_of_lt_one_right (Nat.cast_pos.2 hn) hless

/-- Floating shares fit as long as every number of entries is one of 53 bits. -/
theorem fits_float {x : Binary64} (hx : x.IsCanonical) (hle : x.toRat ≤ 1) {capacity : Int}
    (hcapacity : capacity + 1 < 2 ^ 53) : (float x).Fits capacity where
  le n hn := Binary64.toRat_mul_ofNat_le (by omega) hle
  lt hless n hpos hn := Binary64.toRat_mul_ofNat_lt hpos (by omega) hx hless

end Share

namespace ResultCache

variable {α : Type} {capacity : Int} {share : Share}

theorem one_le_evictCount (share : Share) (n : Nat) : 1 ≤ evictCount share n :=
  Nat.le_max_left 1 _

theorem evictCount_le (hfits : share.Fits capacity) {n : Nat} (hn : 0 < n) (hroom : (n : Int) ≤ capacity + 1) :
    evictCount share n ≤ n := by
  have hfloor : (share.product n).floor ≤ (n : Int) := by
    exact_mod_cast (Int.floor_le (share.product n)).trans (hfits.le n hroom)
  rw [evictCount]
  omega

/-- A share below one leaves an entry, unless there is only one. -/
theorem evictCount_lt (hfits : share.Fits capacity) (hless : share.value < 1) {n : Nat} (hn : 1 < n)
    (hroom : (n : Int) ≤ capacity + 1) : evictCount share n < n := by
  have hfloor : (share.product n).floor < (n : Int) := by
    exact_mod_cast (Int.floor_le (share.product n)).trans_lt (hfits.lt hless n (Nat.lt_of_succ_lt hn) hroom)
  rw [evictCount]
  omega

/-! ## Putting -/

/-- The keys with another one, before any is dropped. -/
def keysWith (keys : List String) (key : String) : List String := if key ∈ keys then keys else keys ++ [key]

/-- Entries without the oldest ones, which are taken out one by one; there is none to take out of no entries. -/
def dropOldest? {β : Type} : Nat → List β → Option (List β)
  | 0, entries => some entries
  | _ + 1, [] => none
  | n + 1, _ :: rest => dropOldest? n rest

theorem dropOldest?_eq {β : Type} {n : Nat} {entries : List β} (h : n ≤ entries.length) :
    dropOldest? n entries = some (entries.drop n) := by
  induction n generalizing entries with
  | zero =>
      rfl
  | succ n ih =>
      cases entries with
      | nil =>
          cases h
      | cons oldest rest => exact ih (Nat.le_of_succ_le_succ h)

variable {keys : List String} {key : String} {v : α}

theorem mem_keysWith : key ∈ keysWith keys key := by
  rw [keysWith]
  split
  · assumption
  · exact List.mem_append_right _ (List.mem_singleton_self key)

theorem nodup_keysWith (h : keys.Nodup) : (keysWith keys key).Nodup := by
  rw [keysWith]
  split
  · exact h
  · next hnew => exact h.append (List.nodup_singleton key) (by simpa using hnew)

theorem length_keysWith_le : (keysWith keys key).length ≤ keys.length + 1 := by
  rw [keysWith]
  split
  · exact Nat.le_succ _
  · exact Nat.le_of_eq List.length_append

theorem keys_insertLast (entries : List (String × α)) (key : String) (v : α) :
    (insertLast entries key v).map (·.1) = keysWith (entries.map (·.1)) key := by
  induction entries with
  | nil =>
      rfl
  | cons first rest ih =>
      obtain ⟨k, old⟩ := first
      by_cases hk : k = key
      · subst hk
        simp [insertLast, keysWith]
      · rw [insertLast, if_neg hk, List.map_cons, ih]
        simp only [keysWith, List.map_cons, List.mem_cons, Ne.symm hk, false_or]
        split <;> rfl

/-- Among distinct keys, the entry that is put takes the place of the one that was held under its key. -/
theorem mem_insertLast_of_nodup {entries : List (String × α)} (h : (entries.map (·.1)).Nodup) {entry : String × α}
    (hentry : entry ∈ insertLast entries key v) : entry = (key, v) ∨ entry ∈ entries ∧ entry.1 ≠ key := by
  induction entries with
  | nil =>
      exact Or.inl (List.mem_singleton.1 hentry)
  | cons first rest ih =>
      obtain ⟨k, old⟩ := first
      obtain ⟨hfirst, hrest⟩ := List.nodup_cons.1 h
      rw [insertLast] at hentry
      split at hentry
      · next hk =>
          subst hk
          rcases List.mem_cons.1 hentry with rfl | hmem
          · exact Or.inl rfl
          · refine Or.inr ⟨List.mem_cons_of_mem _ hmem, ?_⟩
            rintro rfl
            exact hfirst (List.mem_map.2 ⟨entry, hmem, rfl⟩)
      · next hk =>
          rcases List.mem_cons.1 hentry with rfl | hmem
          · exact Or.inr ⟨List.mem_cons_self, hk⟩
          · exact (ih hrest hmem).imp_right fun hold => ⟨List.mem_cons_of_mem _ hold.1, hold.2⟩

theorem isExceeded_iff {cache : ResultCache α} (h : cache.capacity = .int capacity) {size : Nat} :
    cache.isExceeded size = true ↔ capacity < size := by
  rw [isExceeded, h]
  show decide ((capacity : ℚ) < ((size : Int) : ℚ)) = true ↔ _
  rw [decide_eq_true_iff]
  exact Int.cast_lt

/-- What is dropped by a put is the oldest of what there is then, if that is too much. -/
theorem keys_put {cache : ResultCache α} (h : cache.capacity = .int capacity) (key : String) (v : α) :
    (cache.put key v).keys =
      if capacity < (keysWith cache.keys key).length then
        (keysWith cache.keys key).drop (evictCount cache.evictFraction (keysWith cache.keys key).length)
      else keysWith cache.keys key := by
  have hkeys := keys_insertLast cache.entries key v
  have hlength : (insertLast cache.entries key v).length = (keysWith cache.keys key).length := by
    rw [← List.length_map, hkeys, keys]
  rw [put]
  simp only [isExceeded_iff h, hlength]
  split
  · rw [keys, List.map_drop, hkeys, keys]
  · exact hkeys

theorem keys_put_suffix (cache : ResultCache α) (key : String) (v : α) :
    (cache.put key v).keys <:+ keysWith cache.keys key := by
  rw [keys, keys, ← keys_insertLast cache.entries key v]
  exact (entries_put_suffix cache key v).map _

theorem put_hits (cache : ResultCache α) (key : String) (v : α) : (cache.put key v).hits = cache.hits := by
  rw [put]
  split <;> rfl

theorem put_misses (cache : ResultCache α) (key : String) (v : α) : (cache.put key v).misses = cache.misses := by
  rw [put]
  split <;> rfl

/-! ## Looking up -/

theorem isSome_find?_iff {cache : ResultCache α} {key : String} :
    (cache.find? key).isSome = true ↔ key ∈ cache.keys := by
  simp [find?, keys, Option.isSome_map, List.find?_isSome]

theorem get_keys (cache : ResultCache α) (key : String) : (cache.get key).1.keys = cache.keys := by
  rw [keys, keys, get_entries]

theorem get_hits (cache : ResultCache α) (key : String) :
    (cache.get key).1.hits = cache.hits + if key ∈ cache.keys then 1 else 0 := by
  simp only [get, ← isSome_find?_iff]
  cases cache.find? key <;> rfl

theorem get_misses (cache : ResultCache α) (key : String) :
    (cache.get key).1.misses = cache.misses + if key ∈ cache.keys then 0 else 1 := by
  simp only [get, ← isSome_find?_iff]
  cases cache.find? key <;> rfl

/-! ## What each call keeps -/

open CacheCall

/-- What is known of a cache after calls that were made on a new one. -/
structure Keeps (capacity : Int) (share : Share) (calls : List (CacheCall α)) (cache : ResultCache α) : Prop where
  reached : (new capacity share).run calls = cache
  capacity_eq : cache.capacity = .int capacity
  fraction_eq : cache.evictFraction = share
  length_le : (cache.keys.length : Int) ≤ capacity
  nodup : cache.keys.Nodup
  suffix : cache.keys <:+ insertions (new capacity share) calls
  latest : ∀ entry ∈ cache.entries, lastPut? calls entry.1 = some entry.2
  hits_eq : cache.hits = hitCount (new capacity share) calls
  lookups_eq : cache.hits + cache.misses = calls.countP isLookup

namespace Keeps

variable {calls : List (CacheCall α)} {cache : ResultCache α}

theorem reached_append (h : Keeps capacity share calls cache) (call : CacheCall α) :
    (new capacity share).run (calls ++ [call]) = call.perform cache := by
  rw [run, List.foldl_append, ← h.reached]
  rfl

/-- There is at most one key too many before anything is dropped. -/
theorem length_keysWith_le (h : Keeps capacity share calls cache) (key : String) :
    ((keysWith cache.keys key).length : Int) ≤ capacity + 1 := by
  have hone := @ResultCache.length_keysWith_le cache.keys key
  have hsize := h.length_le
  omega

theorem put (h : Keeps capacity share calls cache) (key : String) (v : α) :
    Keeps capacity share (calls ++ [.put key v]) (cache.put key v) where
  reached := h.reached_append _
  capacity_eq := by
    rw [ResultCache.put]
    split <;> exact h.capacity_eq
  fraction_eq := by
    rw [ResultCache.put]
    split <;> exact h.fraction_eq
  length_le := by
    have hroom := h.length_keysWith_le key
    have hsize := h.length_le
    rw [keys_put h.capacity_eq]
    split
    · have hdropped := one_le_evictCount cache.evictFraction (keysWith cache.keys key).length
      rw [List.length_drop]
      omega
    · omega
  nodup := (nodup_keysWith h.nodup).sublist (keys_put_suffix cache key v).sublist
  suffix := by
    refine (keys_put_suffix cache key v).trans ?_
    rw [insertions_append, h.reached, insertedAfter, keysWith]
    split
    · exact h.suffix
    · obtain ⟨earlier, hinserted⟩ := h.suffix
      exact ⟨earlier, by rw [← List.append_assoc, hinserted]⟩
  latest := by
    intro entry hentry
    rw [lastPut?_append, puts?]
    rcases mem_insertLast_of_nodup h.nodup ((entries_put_suffix cache key v).subset hentry) with rfl | ⟨hold, hother⟩
    · rw [if_pos rfl]
      rfl
    · rw [if_neg (Ne.symm hother)]
      exact h.latest entry hold
  hits_eq := by
    rw [put_hits, hitCount_append]
    exact h.hits_eq
  lookups_eq := by
    rw [put_hits, put_misses, List.countP_append]
    exact h.lookups_eq

theorem get (h : Keeps capacity share calls cache) (key : String) :
    Keeps capacity share (calls ++ [.get key]) (cache.get key).1 where
  reached := h.reached_append _
  capacity_eq := by
    rw [ResultCache.get]
    split <;> exact h.capacity_eq
  fraction_eq := by
    rw [ResultCache.get]
    split <;> exact h.fraction_eq
  length_le := by
    rw [get_keys]
    exact h.length_le
  nodup := by
    rw [get_keys]
    exact h.nodup
  suffix := by
    rw [get_keys, insertions_append]
    exact h.suffix
  latest := by
    rw [get_entries]
    intro entry hentry
    rw [lastPut?_append]
    exact h.latest entry hentry
  hits_eq := by
    rw [get_hits, hitCount_append, h.hits_eq, h.reached]
    simp only [isHit, decide_eq_true_iff]
  lookups_eq := by
    rw [get_hits, get_misses, List.countP_append, ← h.lookups_eq]
    -- The lookup is counted once, on one side or the other.
    show _ = _ + 1
    split <;> omega

theorem clear (h : Keeps capacity share calls cache) : Keeps capacity share (calls ++ [.clear]) cache.clear where
  reached := h.reached_append _
  capacity_eq := h.capacity_eq
  fraction_eq := h.fraction_eq
  length_le := le_trans (Int.natCast_nonneg _) h.length_le
  nodup := List.nodup_nil
  suffix := List.nil_suffix
  latest := nofun
  hits_eq := by
    rw [hitCount_append]
    exact h.hits_eq
  lookups_eq := by
    rw [List.countP_append]
    exact h.lookups_eq

theorem perform (h : Keeps capacity share calls cache) (call : CacheCall α) :
    Keeps capacity share (calls ++ [call]) (call.perform cache) := by
  cases call with
  | put key v =>
      exact h.put key v
  | get key =>
      exact h.get key
  | clear =>
      exact h.clear

end Keeps

theorem keeps_run (hcapacity : 1 ≤ capacity) (share : Share) (calls : List (CacheCall α)) :
    Keeps capacity share calls ((new capacity share).run calls) := by
  induction calls using List.reverseRecOn with
  | nil =>
      exact ⟨rfl, rfl, rfl, Int.le_trans Int.one_nonneg hcapacity, List.nodup_nil, List.nil_suffix, nofun, rfl, rfl⟩
  | append_singleton calls call ih =>
      have hstep := ih.perform call
      rwa [← hstep.reached] at hstep

/-! ## What is promised -/

/-- What is promised of a cache after calls that were made on a new one. -/
structure IsFifoMemo (capacity : Int) (share : Share) (calls : List (CacheCall α)) (cache : ResultCache α) : Prop where
  /-- There are never more entries than there may be. -/
  size_le : (cache.entries.length : Int) ≤ capacity
  /-- The keys that are held are the latest ones of those that were inserted. -/
  keys_suffix : cache.keys <:+ insertions (new capacity share) calls
  /-- A put that makes the cache too large takes out the oldest entries, and there are as many as are taken out. -/
  dropped : ∀ key v, capacity < (keysWith cache.keys key).length →
    dropOldest? (evictCount share (keysWith cache.keys key).length) (keysWith cache.keys key) =
      some (cache.put key v).keys
  /-- Any other put drops nothing. -/
  kept : ∀ key v, (keysWith cache.keys key).length ≤ capacity → (cache.put key v).keys = keysWith cache.keys key
  /-- What has just been put is held, if a share that is less than all is dropped. -/
  put_held : share.value < 1 → ∀ key v, key ∈ (cache.put key v).keys
  get_held : ∀ key ∈ cache.keys, ∃ v, lastPut? calls key = some v ∧ (cache.get key).2 = some v
  get_other : ∀ key, key ∉ cache.keys → (cache.get key).2 = none
  lookups_eq : cache.hits + cache.misses = calls.countP isLookup
  hits_eq : cache.hits = hitCount (new capacity share) calls

/-- A key that makes the cache too large is a new one, so it comes last, and something is left of the keys. -/
theorem Keeps.mem_keys_put {calls : List (CacheCall α)} {cache : ResultCache α} (h : Keeps capacity share calls cache)
    (hcapacity : 1 ≤ capacity) (hfits : share.Fits capacity) (hless : share.value < 1) (key : String) (v : α) :
    key ∈ (cache.put key v).keys := by
  have hroom := h.length_keysWith_le key
  rw [keys_put h.capacity_eq, h.fraction_eq]
  split
  · next hfull =>
      have hcount : evictCount share (keysWith cache.keys key).length < (keysWith cache.keys key).length :=
        evictCount_lt hfits hless (by omega) hroom
      have hnew : keysWith cache.keys key = cache.keys ++ [key] := by
        refine if_neg fun hold => ?_
        rw [keysWith, if_pos hold] at hfull
        exact absurd h.length_le (Int.not_le.2 hfull)
      rw [hnew, List.length_append] at hcount ⊢
      rw [List.drop_append_of_le_length (Nat.le_of_lt_succ hcount)]
      exact List.mem_append_right _ (List.mem_singleton_self key)
  · exact mem_keysWith

theorem Keeps.isFifoMemo {calls : List (CacheCall α)} {cache : ResultCache α} (h : Keeps capacity share calls cache)
    (hcapacity : 1 ≤ capacity) (hfits : share.Fits capacity) : IsFifoMemo capacity share calls cache where
  size_le := by
    have hsize := h.length_le
    rwa [keys, List.length_map] at hsize
  keys_suffix := h.suffix
  dropped := by
    intro key v hfull
    rw [keys_put h.capacity_eq, if_pos hfull, h.fraction_eq]
    exact dropOldest?_eq (evictCount_le hfits (List.length_pos_of_mem mem_keysWith) (h.length_keysWith_le key))
  kept := by
    intro key v hroom
    rw [keys_put h.capacity_eq, if_neg (Int.not_lt.2 hroom)]
  put_held := fun hless key v => h.mem_keys_put hcapacity hfits hless key v
  get_held := by
    intro key hkey
    obtain ⟨v, hfound⟩ := Option.isSome_iff_exists.1 (isSome_find?_iff.2 hkey)
    exact ⟨v, h.latest (key, v) (mem_of_find? hfound), (get_snd cache key).trans hfound⟩
  get_other := by
    intro key hkey
    rw [get_snd]
    exact Option.not_isSome_iff_eq_none.1 fun hfound => hkey (isSome_find?_iff.1 hfound)
  lookups_eq := h.lookups_eq
  hits_eq := h.hits_eq

/-- A cache that drops an exact part of its entries is a bounded memory that forgets the oldest first, whatever is
called on it. -/
theorem run_isFifoMemo (hcapacity : 1 ≤ capacity) {q : ℚ} (hq : 0 < q ∧ q ≤ 1) (calls : List (CacheCall α)) :
    IsFifoMemo capacity (.ratio q) calls ((new capacity (.ratio q)).run calls) :=
  (keeps_run hcapacity (.ratio q) calls).isFifoMemo hcapacity (Share.fits_ratio hq.2 capacity)

/-- Two keys are all there is room for; the first one is put twice, and then dropped for the third. -/
def thirdKey : List (CacheCall Nat) :=
  [.put "a" 1, .put "b" 2, .put "a" 3, .get "a", .put "c" 4, .get "a", .get "b"]

theorem run_isFifoMemo_thirdKey :
    IsFifoMemo 2 (.ratio (1 / 3)) thirdKey ((new 2 (.ratio (1 / 3))).run thirdKey) :=
  run_isFifoMemo (by decide) ⟨by norm_num, by norm_num⟩ thirdKey

/-- A cache whose share is a floating number is one too, if its capacity is one of 53 bits, although the number of
entries that are dropped is then computed with rounding. -/
theorem run_isFifoMemo_float (hcapacity : 1 ≤ capacity) (hbits : capacity + 1 < 2 ^ 53) {x : Binary64}
    (hx : x.IsCanonical) (hle : x.toRat ≤ 1) (calls : List (CacheCall α)) :
    IsFifoMemo capacity (.float x) calls ((new capacity (.float x)).run calls) :=
  (keeps_run hcapacity (.float x) calls).isFifoMemo hcapacity (Share.fits_float hx hle hbits)

-- Putting a value again does not make its key younger.
example :
    ((new 2 (.ratio (1 / 3))).run [.put "a" 1, .put "b" 2, .put "a" 3, .put "c" 4]).entries = [("b", 2), ("c", 4)] := by
  decide +kernel

end ResultCache
end GraphQuery
