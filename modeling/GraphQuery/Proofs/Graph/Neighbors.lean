import GraphQuery.Graph.Adjacency
import Mathlib.Data.List.Basic

/-!
# Neighbours — what the adjacency table says of the edge list

The traversals look neighbours up in a table that is made once from the edge list.  This file shows that

* the table answers for every id what `neighbors` reads off the edges (`Adjacency.lookup_ofEdges`),
* an id is listed as a neighbour exactly if an edge leads there (`mem_neighbors_iff`).
-/

namespace GraphQuery

/-! ## Steps along edges -/

/-- One step in the given direction, from an id to an id at the other end of an edge. -/
def IsStep (direction : Direction) (edges : List Edge) (here there : EntityId) : Prop :=
  ∃ e ∈ edges,
    (direction.followsOut = true ∧ e.source = here ∧ e.target = there) ∨
      (direction.followsIn = true ∧ e.target = here ∧ e.source = there)

/-- All steps along the edges, in edge order. -/
def allSteps (direction : Direction) (edges : List Edge) : List (EntityId × EntityId) :=
  edges.flatMap (Edge.steps direction)

theorem Edge.mem_steps_iff {direction : Direction} {e : Edge} {here there : EntityId} :
    (here, there) ∈ e.steps direction ↔
      (direction.followsOut = true ∧ e.source = here ∧ e.target = there) ∨
        (direction.followsIn = true ∧ e.target = here ∧ e.source = there) := by
  have hpair : ∀ a b : EntityId, (here, there) = (a, b) ↔ a = here ∧ b = there := by
    intro a b
    constructor
    · intro h
      cases h
      exact ⟨rfl, rfl⟩
    · rintro ⟨rfl, rfl⟩
      rfl
  cases direction <;> simp [Edge.steps, Direction.followsOut, Direction.followsIn, hpair]

theorem Edge.length_steps_le (direction : Direction) (e : Edge) :
    (e.steps direction).length ≤ 2 := by
  cases direction <;> simp [Edge.steps, Direction.followsOut, Direction.followsIn]

theorem mem_allSteps_iff {direction : Direction} {edges : List Edge} {here there : EntityId} :
    (here, there) ∈ allSteps direction edges ↔ IsStep direction edges here there := by
  simp only [allSteps, List.mem_flatMap, Edge.mem_steps_iff, IsStep]

/-- No edge gives more than two steps. -/
theorem length_allSteps_le (direction : Direction) (edges : List Edge) :
    (allSteps direction edges).length ≤ 2 * edges.length := by
  induction edges with
  | nil =>
      simp [allSteps]
  | cons e rest ih =>
      have hhead : (e.steps direction).length ≤ 2 := e.length_steps_le direction
      have hall : allSteps direction (e :: rest) = e.steps direction ++ allSteps direction rest := by
        simp [allSteps]
      rw [hall, List.length_append, List.length_cons]
      omega

theorem neighbors_eq (direction : Direction) (edges : List Edge) (id : EntityId) :
    neighbors direction edges id = ((allSteps direction edges).filter (·.1 = id)).map (·.2) :=
  rfl

/-- An id is listed as a neighbour exactly if an edge leads there. -/
theorem mem_neighbors_iff {direction : Direction} {edges : List Edge} {here there : EntityId} :
    there ∈ neighbors direction edges here ↔ IsStep direction edges here there := by
  rw [neighbors_eq, ← mem_allSteps_iff]
  constructor
  · intro h
    rcases List.mem_map.1 h with ⟨⟨a, b⟩, hmem, rfl⟩
    rcases List.mem_filter.1 hmem with ⟨hstep, hid⟩
    have : a = here := by simpa using hid
    simpa [this] using hstep
  · intro h
    refine List.mem_map.2 ⟨(here, there), List.mem_filter.2 ⟨h, ?_⟩, rfl⟩
    simp

/-! ## The table -/

namespace Adjacency

theorem lookup_nil (id : EntityId) : lookup [] id = [] :=
  rfl

theorem lookup_cons (key : EntityId) (known : List EntityId) (rest : Adjacency) (id : EntityId) :
    lookup ((key, known) :: rest) id = if key = id then known else lookup rest id := by
  by_cases h : key = id
  · simp [lookup, h]
  · simp [lookup, h]

/-- Adding a neighbour changes what is listed for its id and nothing else. -/
theorem lookup_add (table : Adjacency) (here there id : EntityId) :
    (table.add here there).lookup id =
      if here = id then table.lookup id ++ [there] else table.lookup id := by
  induction table with
  | nil =>
      simp [add, lookup_cons, lookup_nil]
  | cons entry rest ih =>
      rcases entry with ⟨key, known⟩
      by_cases hkey : key = here
      · subst hkey
        simp only [add, if_true, lookup_cons]
        split <;> simp
      · simp only [add, if_neg hkey, lookup_cons, ih]
        by_cases hid : key = id
        · have hhere : here ≠ id := by
            intro h
            exact hkey (hid.trans h.symm)
          simp [hid, hhere]
        · simp [hid]

/-- Adding steps one after the other appends what they lead to from an id. -/
theorem lookup_foldl (steps : List (EntityId × EntityId)) (table : Adjacency) (id : EntityId) :
    (steps.foldl (fun table step => add table step.1 step.2) table).lookup id =
      table.lookup id ++ (steps.filter (·.1 = id)).map (·.2) := by
  induction steps generalizing table with
  | nil =>
      simp
  | cons step rest ih =>
      rw [List.foldl_cons, ih, lookup_add]
      by_cases h : step.1 = id
      · simp [h]
      · simp [h]

/-- The table made from the edges lists the neighbours of every id. -/
theorem lookup_ofEdges (direction : Direction) (edges : List Edge) (id : EntityId) :
    (ofEdges direction edges).lookup id = neighbors direction edges id := by
  rw [ofEdges, lookup_foldl, lookup_nil, List.nil_append]
  rfl

theorem lookup_ofEdges_eq (direction : Direction) (edges : List Edge) :
    (ofEdges direction edges).lookup = neighbors direction edges :=
  funext (lookup_ofEdges direction edges)

end Adjacency
end GraphQuery
