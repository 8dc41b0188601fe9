import GraphQuery.Proofs.Graph.Neighborhood
import GraphQuery.Proofs.Graph.ShortestPath
import Mathlib.Data.Rat.Floor

/-!
# Search depth — how far the two searches look

A limit on the number of steps need not be a whole number.  The search for connected nodes leaves out what lies
beyond the limit.  The search for a path takes a step from wherever it stands before the limit, and such a step may
end beyond it.  This file defines

* `DepthLimit.ceiling` — a limit rounded up to a whole number of steps,
* `DepthLimit.IsWhole` — a limit that is a whole number of steps, or infinite,

and shows that one search goes as far as the limit and the other as far as the limit rounded up, so that they agree
up to the fraction of the limit (`searches_agreeUpToFraction`).
-/

namespace GraphQuery

/-! ## Limits rounded up -/

namespace DepthLimit

/-- A limit rounded up to a whole number of steps. -/
def ceiling : DepthLimit → DepthLimit
  | .exact q => .exact (⌈q⌉ : Int)
  | limit => limit

/-- A limit that is a whole number of steps, or infinite. -/
def IsWhole (limit : DepthLimit) : Prop :=
  ∀ q, limit = .exact q → ∃ n : Int, q = n

variable {limit : DepthLimit} {k : Nat}

theorem IsWhole.ceiling_eq (h : limit.IsWhole) : limit.ceiling = limit := by
  cases limit with
  | exact q =>
      rcases h q rfl with ⟨n, rfl⟩
      rw [ceiling, Int.ceil_intCast]
  | _ =>
      rfl

theorem not_exceededBy_exact_iff {q : Rat} : exceededBy (.exact q) k = false ↔ (k : Rat) ≤ q := by
  rw [← Bool.not_eq_true, exceededBy, exact_less_iff, not_lt]

/-- A step taken before the limit ends within the limit rounded up, and no other step does. -/
theorem not_reachedBy_iff (hplace : limit ≠ .undefined) :
    limit.reachedBy k = false ↔ limit.ceiling.exceededBy (k + 1) = false := by
  cases limit with
  | undefined =>
      exact absurd rfl hplace
  | below =>
      simp [reachedBy, ceiling, exceededBy, Extended.atMost, Extended.same, Extended.less]
  | exact q =>
      rw [ceiling, not_exceededBy_exact_iff, ← Bool.not_eq_true, reachedBy, exact_atMost_iff, not_le]
      have hbefore : (k : Rat) < q ↔ (k : Int) < ⌈q⌉ := by
        rw [Int.lt_ceil, Int.cast_natCast]
      have hwithin : ((k + 1 : Nat) : Rat) ≤ (⌈q⌉ : Rat) ↔ (k : Int) + 1 ≤ ⌈q⌉ := by
        exact_mod_cast Iff.rfl
      rw [hbefore, hwithin, Int.add_one_le_iff]
  | above =>
      simp [reachedBy, ceiling, exceededBy, Extended.atMost, Extended.same, Extended.less]

/-- Only what lies at the next whole number is within the limit rounded up and beyond the limit itself. -/
theorem exceededBy_ceiling_iff :
    limit.ceiling.exceededBy k = false ∧ limit.exceededBy k = true ↔
      ∃ q : Rat, limit = .exact q ∧ (⌈q⌉ : Rat) ≠ q ∧ (k : Int) = ⌈q⌉ := by
  cases limit with
  | exact q =>
      rw [ceiling, not_exceededBy_exact_iff, exceededBy, exact_less_iff]
      constructor
      · rintro ⟨hceil, hbeyond⟩
        have hle : (k : Int) ≤ ⌈q⌉ := by exact_mod_cast hceil
        have hge : ⌈q⌉ ≤ (k : Int) := Int.ceil_le.2 (by exact_mod_cast hbeyond.le)
        have heq : (k : Int) = ⌈q⌉ := le_antisymm hle hge
        refine ⟨q, rfl, ?_, heq⟩
        rw [← heq, Int.cast_natCast]
        exact hbeyond.ne'
      · rintro ⟨_, hlimit, hfraction, heq⟩
        cases hlimit
        have hcast : (k : Rat) = (⌈q⌉ : Rat) := by exact_mod_cast heq
        rw [hcast]
        exact ⟨le_refl _, lt_of_le_of_ne (Int.le_ceil q) hfraction.symm⟩
  | undefined | below | above =>
      simp [ceiling, exceededBy, Extended.less]

end DepthLimit

/-! ## What the searches find -/

section Searches

variable {graph : Snapshot} {source target : EntityId} {limit : DepthLimit}

/-- A limit that some walk is within is one that a shortest walk is within. -/
theorem exists_walk_within_iff {edges : List Edge} :
    (∃ k, limit.exceededBy k = false ∧ Walk (IsStep .both edges) k source target) ↔
      ∃ k, limit.exceededBy k = false ∧ IsDistance (IsStep .both edges) k source target := by
  constructor
  · rintro ⟨k, hwithin, hwalk⟩
    rcases IsDistance.exists_of_walk hwalk with ⟨d, hd, hdistance⟩
    refine ⟨d, ?_, hdistance⟩
    rw [← Bool.not_eq_true] at hwithin ⊢
    exact mt (DepthLimit.exceededBy_mono hd) hwithin
  · rintro ⟨k, hwithin, hdistance⟩
    exact ⟨k, hwithin, hdistance.walk⟩

/-- A path is found exactly if a walk joins the ids within the limit rounded up. -/
theorem isSome_shortestPath_iff {edges : List Edge} (hne : source ≠ target) (hplace : limit ≠ .undefined) :
    (shortestPath edges limit source target).isSome = true ↔
      ∃ k, limit.ceiling.exceededBy k = false ∧ Walk (IsStep .both edges) k source target := by
  rw [(PathLoop.fromSource hne limit).isSome_iff hne]
  constructor
  · rintro ⟨k, hlimit, hwalk⟩
    exact ⟨k + 1, (DepthLimit.not_reachedBy_iff hplace).1 hlimit, hwalk⟩
  · rintro ⟨k, hwithin, hwalk⟩
    cases k with
    | zero =>
        exact absurd hwalk.eq_of_zero hne
    | succ k =>
        exact ⟨k, (DepthLimit.not_reachedBy_iff hplace).2 hwithin, hwalk⟩

/-- A listed id is among the ids of the connected nodes exactly if a walk leads to it within the limit. -/
theorem exists_connectedNodes_iff (hne : source ≠ target) (hlisted : target ∈ graph.nodeIds)
    (hplace : limit ≠ .undefined) :
    (∃ n ∈ connectedNodes graph .both limit source, n.id = target) ↔
      ∃ k, limit.exceededBy k = false ∧ Walk (IsStep .both graph.edges) k source target := by
  rcases exists_connectedIds_eq .both graph.edges hplace source with ⟨m, hbelow, hbeyond, hids⟩
  have hmem : target ∈ connectedIds graph.edges .both limit source ↔
      ∃ k, 1 ≤ k ∧ limit.exceededBy k = false ∧ IsDistance (IsStep .both graph.edges) k source target := by
    rw [hids]
    exact mem_flatMap_layer_iff hbelow hbeyond
  rw [exists_walk_within_iff]
  constructor
  · rintro ⟨n, hn, rfl⟩
    rcases List.mem_filterMap.1 hn with ⟨id, hid, hfind⟩
    have heq : n.id = id := by simpa using List.find?_some hfind
    rcases hmem.1 (heq ▸ hid) with ⟨k, _, hwithin, hdistance⟩
    exact ⟨k, hwithin, hdistance⟩
  · rintro ⟨k, hwithin, hdistance⟩
    have hpos : 1 ≤ k := by
      rcases Nat.eq_zero_or_pos k with rfl | hpos
      · exact absurd hdistance.walk.eq_of_zero hne
      · exact hpos
    rcases List.mem_map.1 hlisted with ⟨n, hn, hid⟩
    have hfound : (graph.nodes.find? (·.id = target)).isSome = true :=
      List.find?_isSome.2 ⟨n, hn, by simpa using hid⟩
    rcases Option.isSome_iff_exists.1 hfound with ⟨first, hfirst⟩
    refine ⟨first, List.mem_filterMap.2 ⟨target, hmem.2 ⟨k, hpos, hwithin, hdistance⟩, hfirst⟩, ?_⟩
    simpa using List.find?_some hfirst

/-- A path that is found has no more edges than the limit rounded up. -/
theorem length_shortestPath {edges : List Edge} (hne : source ≠ target) (hplace : limit ≠ .undefined)
    {ids : List EntityId} (hids : shortestPath edges limit source target = some ids) :
    limit.ceiling.exceededBy (ids.length - 1) = false := by
  have hstep : ∀ a b, b ∈ neighbors .both edges a ↔ IsStep .both edges a b :=
    fun a b => mem_neighbors_iff
  rcases (PathLoop.fromSource hne limit).sound hstep (fun w => IsTrail.of_mem_start) hids with
    ⟨k, hlimit, hlength, _⟩
  rw [hlength]
  exact (DepthLimit.not_reachedBy_iff hplace).1 hlimit

/-- How a path between two ids and the nodes near the first of them go together, if both are searched for with one
limit. -/
structure AgreeUpToFraction (graph : Snapshot) (source target : EntityId) (limit : DepthLimit)
    (path : Option (List EntityId)) (near : List Node) : Prop where
  /-- The target is near if a walk leads to it within the limit. -/
  near_iff : (∃ n ∈ near, n.id = target) ↔
    ∃ k, limit.exceededBy k = false ∧ Walk (IsStep .both graph.edges) k source target
  /-- There is a path if a walk leads to the target within the limit rounded up. -/
  path_iff : path.isSome = true ↔
    ∃ k, limit.ceiling.exceededBy k = false ∧ Walk (IsStep .both graph.edges) k source target
  shortest : ∀ ids, path = some ids →
    IsShortestPath graph.edges source target ids ∧ limit.ceiling.exceededBy (ids.length - 1) = false
  /-- The searches differ exactly on a target that lies at the whole number after a limit that is none. -/
  apart : (path.isSome = true ∧ ¬ ∃ n ∈ near, n.id = target) ↔
    ∃ q : Rat, limit = .exact q ∧ (⌈q⌉ : Rat) ≠ q ∧
      ∃ k : Nat, (k : Int) = ⌈q⌉ ∧ IsDistance (IsStep .both graph.edges) k source target
  /-- Under a limit that is a whole number of steps, or infinite, they agree. -/
  whole : limit.IsWhole → (path.isSome = true ↔ ∃ n ∈ near, n.id = target) ∧
    ∀ ids, path = some ids → limit.exceededBy (ids.length - 1) = false

/-- Both searches answer, whatever number limits them, and agree up to the fraction of the limit. -/
theorem searches_agreeUpToFraction (hne : source ≠ target) (hlisted : target ∈ graph.nodeIds)
    {argument : Value} (hlimit : DepthLimit.ofValue argument = .ok limit) (hplace : limit ≠ .undefined) :
    ∃ path near,
      Traversal.path graph.edges source.toValue target.toValue argument =
          .ok (path.map (List.map EntityId.toValue)) ∧
        Traversal.connected graph source.toValue argument (.text Direction.both.name) = .ok near ∧
        AgreeUpToFraction graph source target limit path near := by
  have hnear := exists_connectedNodes_iff hne hlisted hplace
  have hpath : (shortestPath graph.edges limit source target).isSome = true ↔
      ∃ k, limit.ceiling.exceededBy k = false ∧ Walk (IsStep .both graph.edges) k source target :=
    isSome_shortestPath_iff hne hplace
  refine ⟨_, _, Traversal.path_eq hne hlimit, Traversal.connected_eq hlimit, hnear, hpath, ?_, ?_, ?_⟩
  · intro ids hids
    exact ⟨(PathLoop.fromSource hne limit).isShortestPath hne hids, length_shortestPath hne hplace hids⟩
  · rw [hnear, hpath, exists_walk_within_iff, exists_walk_within_iff]
    constructor
    · rintro ⟨⟨k, hceil, hdistance⟩, hfar⟩
      have hbeyond : limit.exceededBy k = true := by
        by_contra hnot
        exact hfar ⟨k, by simpa using hnot, hdistance⟩
      rcases DepthLimit.exceededBy_ceiling_iff.1 ⟨hceil, hbeyond⟩ with ⟨q, hq, hfraction, hk⟩
      exact ⟨q, hq, hfraction, k, hk, hdistance⟩
    · rintro ⟨q, hq, hfraction, k, hk, hdistance⟩
      rcases DepthLimit.exceededBy_ceiling_iff.2 ⟨q, hq, hfraction, hk⟩ with ⟨hceil, hbeyond⟩
      refine ⟨⟨k, hceil, hdistance⟩, ?_⟩
      rintro ⟨j, hwithin, hother⟩
      rw [hother.unique hdistance, hbeyond] at hwithin
      cases hwithin
  · intro hwhole
    have hceiling := hwhole.ceiling_eq
    refine ⟨?_, fun ids hids => ?_⟩
    · rw [hpath, hnear, hceiling]
    · rw [← hceiling]
      exact length_shortestPath hne hplace hids

end Searches

/-! ### A limit between two whole numbers -/

/-- Three nodes in a row. -/
def threeInARow : Snapshot where
  nodes := [⟨.int 1, none, none, [], [], []⟩, ⟨.int 2, none, none, [], [], []⟩, ⟨.int 3, none, none, [], [], []⟩]
  edges := [⟨.text "e", .int 1, .int 2, none, none, [], [], []⟩,
    ⟨.text "f", .int 2, .int 3, none, none, [], [], []⟩]

/-- One and a half. -/
def oneAndAHalf : Binary64 := .finite false 6755399441055744 (-52)

theorem searches_agreeUpToFraction_oneAndAHalf :
    EntityId.int 1 ≠ .int 3 ∧ EntityId.int 3 ∈ threeInARow.nodeIds ∧
      DepthLimit.ofValue (.float oneAndAHalf) = .ok (.ofBinary64 oneAndAHalf) ∧
      Extended.ofBinary64 oneAndAHalf ≠ .undefined ∧
      ∃ path near,
        Traversal.path threeInARow.edges (.int 1) (.int 3) (.float oneAndAHalf) =
            .ok (path.map (List.map EntityId.toValue)) ∧
          Traversal.connected threeInARow (.int 1) (.float oneAndAHalf) (.text "both") = .ok near ∧
          AgreeUpToFraction threeInARow (.int 1) (.int 3) (.ofBinary64 oneAndAHalf) path near := by
  have hne : EntityId.int 1 ≠ .int 3 := by decide
  have hlisted : EntityId.int 3 ∈ threeInARow.nodeIds := by decide
  have hplace : Extended.ofBinary64 oneAndAHalf ≠ .undefined := by
    intro h
    cases h
  exact ⟨hne, hlisted, rfl, hplace, searches_agreeUpToFraction hne hlisted rfl hplace⟩

/-- Within one and a half steps there is one node, and yet a path of two edges. -/
theorem searches_differ_oneAndAHalf :
    Traversal.path threeInARow.edges (.int 1) (.int 3) (.float oneAndAHalf) =
        .ok (some [.int 1, .int 2, .int 3]) ∧
      (∃ near, Traversal.connected threeInARow (.int 1) (.float oneAndAHalf) (.text "both") = .ok near ∧
        near.map (·.id) = [.int 2]) ∧
      DepthLimit.exceededBy (.ofBinary64 oneAndAHalf) 2 = true := by
  have hpath : Traversal.path threeInARow.edges (EntityId.int 1).toValue (EntityId.int 3).toValue
      (.float oneAndAHalf) = .ok ((some [EntityId.int 1, .int 2, .int 3]).map (List.map EntityId.toValue)) := by
    have hfound : shortestPath threeInARow.edges (.ofBinary64 oneAndAHalf) (.int 1) (.int 3) =
        some [.int 1, .int 2, .int 3] := by
      decide +kernel
    rw [← hfound]
    exact Traversal.path_eq (by decide) rfl
  have hnear : Traversal.connected threeInARow (EntityId.int 1).toValue (.float oneAndAHalf)
      (.text Direction.both.name) =
        .ok (connectedNodes threeInARow .both (.ofBinary64 oneAndAHalf) (.int 1)) :=
    Traversal.connected_eq rfl
  refine ⟨hpath, ⟨_, hnear, ?_⟩, ?_⟩
  · decide +kernel
  · decide +kernel

end GraphQuery
