import GraphQuery.Graph.Traversal
import GraphQuery.Proofs.Graph.Walk
import Mathlib.Data.List.Nodup

/-!
# Layers — breadth-first expansion without a queue

The layers around a start are lists of ids: the first holds the start, and each further one holds what
the ids of the layer before lead to, as far as no earlier layer has it.  This file defines

* `newIds seen ids` — the ids of a list that were not seen before, each at its first occurrence,
* `layer adjacent start k` — the layer number `k`,

and shows that layer `k` holds exactly the ids at distance `k` (`mem_layer_iff`).
-/

namespace GraphQuery

/-! ## Ids not seen before -/

/-- The ids of a list that were not seen before, each at its first occurrence. -/
def newIds (seen ids : List EntityId) : List EntityId :=
  (ids.filter fun id => !seen.contains id).eraseDups

section NewIds

variable {seen seen' ids : List EntityId} {id : EntityId}

theorem mem_newIds : id ∈ newIds seen ids ↔ id ∈ ids ∧ id ∉ seen := by
  simp [newIds, List.mem_eraseDups]

@[simp] theorem newIds_nil (seen : List EntityId) : newIds seen [] = [] := by
  simp [newIds]

theorem newIds_congr (h : ∀ id, id ∈ seen ↔ id ∈ seen') : newIds seen ids = newIds seen' ids := by
  have hfilter : (fun id => !seen.contains id) = fun id => !seen'.contains id := by
    funext id
    simp [h id]
  rw [newIds, newIds, hfilter]

theorem newIds_cons_of_mem (h : id ∈ seen) : newIds seen (id :: ids) = newIds seen ids := by
  simp [newIds, h]

theorem newIds_cons_of_not_mem (h : id ∉ seen) :
    newIds seen (id :: ids) = id :: newIds (id :: seen) ids := by
  -- Erasing duplicates drops the id from the rest; here it counts as seen there.
  have hfilter :
      (ids.filter fun x => !seen.contains x).filter (fun x => !x == id) =
        ids.filter fun x => !(id :: seen).contains x := by
    rw [List.filter_filter]
    refine List.filter_congr fun x _ => ?_
    by_cases hx : x = id <;> simp [hx]
  simp only [newIds, List.filter_cons, List.contains_eq_mem, h, decide_false, Bool.not_false, if_true,
    List.eraseDups_cons]
  simp only [List.contains_eq_mem] at hfilter
  rw [hfilter]

theorem nodup_newIds (seen ids : List EntityId) : (newIds seen ids).Nodup := by
  induction ids generalizing seen with
  | nil =>
      simp
  | cons id rest ih =>
      by_cases h : id ∈ seen
      · rw [newIds_cons_of_mem h]
        exact ih seen
      · rw [newIds_cons_of_not_mem h]
        refine List.nodup_cons.2 ⟨?_, ih (id :: seen)⟩
        intro hmem
        exact (mem_newIds.1 hmem).2 (List.mem_cons_self)

theorem newIds_append (seen xs ys : List EntityId) :
    newIds seen (xs ++ ys) = newIds seen xs ++ newIds (newIds seen xs ++ seen) ys := by
  induction xs generalizing seen with
  | nil =>
      simp
  | cons x rest ih =>
      by_cases h : x ∈ seen
      · rw [List.cons_append, newIds_cons_of_mem h, newIds_cons_of_mem h]
        exact ih seen
      · rw [List.cons_append, newIds_cons_of_not_mem h, newIds_cons_of_not_mem h, ih,
          List.cons_append]
        refine congrArg (x :: ·) (congrArg _ (newIds_congr ?_))
        intro y
        simp only [List.mem_append, List.mem_cons]
        tauto

/-- Leaving out ids that were seen changes nothing. -/
theorem newIds_filter {p : EntityId → Bool} (h : ∀ x ∈ ids, p x = false → x ∈ seen) :
    newIds seen (ids.filter p) = newIds seen ids := by
  rw [newIds, newIds, List.filter_filter]
  congr 1
  refine List.filter_congr fun x hx => ?_
  cases hp : p x with
  | true =>
      simp
  | false =>
      simp [h x hx hp]

theorem newIds_eq_nil_iff : newIds seen ids = [] ↔ ∀ id ∈ ids, id ∈ seen := by
  rw [List.eq_nil_iff_forall_not_mem]
  simp only [mem_newIds, not_and, not_not]

/-- The search for a path picks its fresh ids in the same way. -/
theorem unvisited_eq_newIds (seen ids : List EntityId) : unvisited seen ids = newIds seen ids := by
  -- Along the list, what is fresh so far counts as seen.
  have hfold : ∀ (xs fresh : List EntityId),
      xs.foldl (fun fresh id =>
        if seen.contains id || fresh.contains id then fresh else fresh ++ [id]) fresh =
        fresh ++ newIds (fresh ++ seen) xs := by
    intro xs
    induction xs with
    | nil =>
        simp
    | cons x rest ih =>
        intro fresh
        rw [List.foldl_cons]
        by_cases h : x ∈ fresh ++ seen
        · have hcond : (seen.contains x || fresh.contains x) = true := by
            rcases List.mem_append.1 h with h | h <;> simp [h]
          rw [if_pos hcond, ih, newIds_cons_of_mem h]
        · have hcond : ¬ (seen.contains x || fresh.contains x) = true := by
            simp only [List.mem_append, not_or] at h
            simp [h.1, h.2]
          rw [if_neg hcond, ih, newIds_cons_of_not_mem h, List.append_assoc, List.singleton_append]
          refine congrArg (fun ids => fresh ++ x :: ids) (newIds_congr ?_)
          intro y
          simp only [List.mem_append, List.mem_cons, List.not_mem_nil, or_false]
          tauto
  have h := hfold ids []
  simpa [unvisited] using h

end NewIds

/-! ## Layers -/

/-- The ids of the layers up to a number, and the layer of that number. -/
def spread (adjacent : EntityId → List EntityId) (start : EntityId) :
    Nat → List EntityId × List EntityId
  | 0 => ([start], [start])
  | k + 1 =>
    let (seen, last) := spread adjacent start k
    let next := newIds seen (last.flatMap adjacent)
    (seen ++ next, next)

/-- The ids of the layers up to a number. -/
def seenUpTo (adjacent : EntityId → List EntityId) (start : EntityId) (k : Nat) : List EntityId :=
  (spread adjacent start k).1

/-- The layer of a number around a start. -/
def layer (adjacent : EntityId → List EntityId) (start : EntityId) (k : Nat) : List EntityId :=
  (spread adjacent start k).2

section Layer

variable {adjacent : EntityId → List EntityId} {start id : EntityId} {k : Nat}

@[simp] theorem seenUpTo_zero : seenUpTo adjacent start 0 = [start] :=
  rfl

@[simp] theorem layer_zero : layer adjacent start 0 = [start] :=
  rfl

theorem layer_succ (adjacent : EntityId → List EntityId) (start : EntityId) (k : Nat) :
    layer adjacent start (k + 1) =
      newIds (seenUpTo adjacent start k) ((layer adjacent start k).flatMap adjacent) :=
  rfl

theorem seenUpTo_succ (adjacent : EntityId → List EntityId) (start : EntityId) (k : Nat) :
    seenUpTo adjacent start (k + 1) =
      seenUpTo adjacent start k ++ layer adjacent start (k + 1) :=
  rfl

/-- What was seen is what the layers hold. -/
theorem seenUpTo_eq_flatMap (adjacent : EntityId → List EntityId) (start : EntityId) (k : Nat) :
    seenUpTo adjacent start k = (List.range (k + 1)).flatMap (layer adjacent start) := by
  induction k with
  | zero =>
      simp
  | succ k ih =>
      rw [seenUpTo_succ, ih, List.range_succ (n := k + 1), List.flatMap_append]
      simp

theorem mem_seenUpTo_of_mem_layer (h : id ∈ layer adjacent start k) :
    id ∈ seenUpTo adjacent start k := by
  cases k with
  | zero =>
      exact h
  | succ k =>
      rw [seenUpTo_succ]
      exact List.mem_append_right _ h

theorem nodup_layer (adjacent : EntityId → List EntityId) (start : EntityId) (k : Nat) :
    (layer adjacent start k).Nodup := by
  cases k with
  | zero =>
      simp
  | succ k =>
      exact nodup_newIds _ _

/-- After an empty layer all layers are empty. -/
theorem layer_eq_nil_of_le {j : Nat} (hjk : j ≤ k) (h : layer adjacent start j = []) :
    layer adjacent start k = [] := by
  induction k, hjk using Nat.le_induction with
  | base =>
      exact h
  | succ k _ ih =>
      rw [layer_succ, ih]
      simp

theorem seenUpTo_mono {j : Nat} (hjk : j ≤ k) (h : id ∈ seenUpTo adjacent start j) :
    id ∈ seenUpTo adjacent start k := by
  induction k, hjk using Nat.le_induction with
  | base =>
      exact h
  | succ k _ ih =>
      rw [seenUpTo_succ]
      exact List.mem_append_left _ ih

/-- The next layer brings into sight whatever the ids seen so far lead to. -/
theorem mem_seenUpTo_succ_of_adjacent {near : EntityId} (hnear : near ∈ seenUpTo adjacent start k)
    (hid : id ∈ adjacent near) : id ∈ seenUpTo adjacent start (k + 1) := by
  -- Whichever layer first held the id, the layer after it takes its neighbours.
  have hlayer : ∀ n, near ∈ layer adjacent start n → id ∈ seenUpTo adjacent start (n + 1) := by
    intro n hn
    rw [seenUpTo_succ, List.mem_append, layer_succ, mem_newIds]
    by_cases hseen : id ∈ seenUpTo adjacent start n
    · exact Or.inl hseen
    · exact Or.inr ⟨List.mem_flatMap.2 ⟨near, hn, hid⟩, hseen⟩
  induction k with
  | zero =>
      exact hlayer 0 hnear
  | succ k ih =>
      rw [seenUpTo_succ, List.mem_append] at hnear
      rcases hnear with hearly | hlate
      · exact seenUpTo_mono (Nat.le_succ _) (ih hearly)
      · exact hlayer (k + 1) hlate

/-! ## Distances -/

variable {step : EntityId → EntityId → Prop}

/-- The ids seen so far are those within so many steps. -/
theorem mem_seenUpTo_iff (hstep : ∀ a b, b ∈ adjacent a ↔ step a b) :
    id ∈ seenUpTo adjacent start k ↔ ∃ n, n ≤ k ∧ Walk step n start id := by
  constructor
  · intro h
    induction k generalizing id with
    | zero =>
        have hid : id = start := by simpa using h
        subst hid
        exact ⟨0, le_refl 0, Walk.stay id⟩
    | succ k ih =>
        rw [seenUpTo_succ, List.mem_append] at h
        rcases h with h | h
        · rcases ih h with ⟨n, hn, hwalk⟩
          exact ⟨n, Nat.le_succ_of_le hn, hwalk⟩
        · rw [layer_succ, mem_newIds] at h
          rcases List.mem_flatMap.1 h.1 with ⟨near, hnear, hid⟩
          rcases ih (mem_seenUpTo_of_mem_layer hnear) with ⟨n, hn, hwalk⟩
          exact ⟨n + 1, Nat.succ_le_succ hn, hwalk.onward ((hstep near id).1 hid)⟩
  · rintro ⟨n, hn, hwalk⟩
    refine seenUpTo_mono hn ?_
    clear hn
    -- The walk is followed to its end: its last step leaves an id that has been seen.
    induction n generalizing id with
    | zero =>
        simp [hwalk.eq_of_zero]
    | succ n ih =>
        rcases hwalk.exists_last with ⟨near, hnear, hlast⟩
        exact mem_seenUpTo_succ_of_adjacent (ih hnear) ((hstep near id).2 hlast)

theorem not_mem_seenUpTo_of_mem_layer_succ (h : id ∈ layer adjacent start (k + 1)) :
    id ∉ seenUpTo adjacent start k := by
  rw [layer_succ, mem_newIds] at h
  exact h.2

/-- A layer holds exactly the ids at its distance from the start. -/
theorem mem_layer_iff (hstep : ∀ a b, b ∈ adjacent a ↔ step a b) :
    id ∈ layer adjacent start k ↔ IsDistance step k start id := by
  cases k with
  | zero =>
      constructor
      · intro h
        have hid : id = start := by simpa using h
        subst hid
        exact ⟨Walk.stay id, fun m _ => Nat.zero_le m⟩
      · intro h
        simp [h.walk.eq_of_zero]
  | succ k =>
      constructor
      · intro h
        have hfar : ∀ n, Walk step n start id → k + 1 ≤ n := by
          intro n hwalk
          by_contra hlt
          exact not_mem_seenUpTo_of_mem_layer_succ h
            ((mem_seenUpTo_iff hstep).2 ⟨n, by omega, hwalk⟩)
        rcases (mem_seenUpTo_iff hstep).1 (mem_seenUpTo_of_mem_layer h) with ⟨n, hn, hwalk⟩
        have hn' : n = k + 1 := Nat.le_antisymm hn (hfar n hwalk)
        subst hn'
        exact ⟨hwalk, hfar⟩
      · intro h
        have hmem : id ∈ seenUpTo adjacent start (k + 1) :=
          (mem_seenUpTo_iff hstep).2 ⟨k + 1, le_refl _, h.walk⟩
        rw [seenUpTo_succ, List.mem_append] at hmem
        rcases hmem with hearly | hlate
        · rcases (mem_seenUpTo_iff hstep).1 hearly with ⟨n, hn, hwalk⟩
          have := h.least n hwalk
          omega
        · exact hlate

/-- The layers before a number, one after the other, hold no id twice. -/
theorem nodup_flatMap_layer (adjacent : EntityId → List EntityId) (start : EntityId)
    (first count : Nat) :
    ((List.range' first count).flatMap (layer adjacent start)).Nodup := by
  rw [List.nodup_flatMap]
  refine ⟨fun k _ => nodup_layer adjacent start k, ?_⟩
  have hnumbers : (List.range' first count).Nodup := List.nodup_range'
  refine hnumbers.imp ?_
  -- An id in two layers would be at two distances.
  intro j k hjk id hj hk
  have hstep : ∀ a b, b ∈ adjacent a ↔ b ∈ adjacent a := fun _ _ => Iff.rfl
  exact hjk (((mem_layer_iff hstep).1 hj).unique ((mem_layer_iff hstep).1 hk))

/-- Ids of nearer layers come first. -/
theorem pairwise_flatMap_layer (hstep : ∀ a b, b ∈ adjacent a ↔ step a b) (first count : Nat) :
    ((List.range' first count).flatMap (layer adjacent start)).Pairwise fun a b =>
      ∀ i j, IsDistance step i start a → IsDistance step j start b → i ≤ j := by
  rw [List.pairwise_flatMap]
  constructor
  · intro k _
    refine List.Pairwise.imp_of_mem ?_ (nodup_layer adjacent start k)
    intro a b ha hb _ i j hi hj
    have hik := ((mem_layer_iff hstep).1 ha).unique hi
    have hjk := ((mem_layer_iff hstep).1 hb).unique hj
    omega
  · have hnumbers : (List.range' first count).Pairwise (· < ·) := List.pairwise_lt_range'
    refine hnumbers.imp ?_
    intro k l hkl a ha b hb i j hi hj
    have hik := ((mem_layer_iff hstep).1 ha).unique hi
    have hjl := ((mem_layer_iff hstep).1 hb).unique hj
    omega

end Layer
end GraphQuery
