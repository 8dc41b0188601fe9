import GraphQuery.Graph.Adjacency
import Mathlib.Data.List.Basic

/-!
# Degrees — counts of edges

A degree table is built edge by edge, with an entry where an id first turns up.  What it gives for an id is
three counts over the edge list (`DegreeTable.lookup_ofEdges`): of the edges that enter the id, of those that
leave it, and of those at it, a loop counted once.
-/

namespace GraphQuery

/-- The degree of an id, counted on an edge list. -/
def degreeIn (edges : List Edge) (id : EntityId) : Degree where
  incoming := edges.countP fun e => e.target = id
  outgoing := edges.countP fun e => e.source = id
  connections := edges.countP fun e => e.source = id ∨ e.target = id

namespace Degree

theorem ext_iff_counts {a b : Degree} :
    a = b ↔ a.incoming = b.incoming ∧ a.outgoing = b.outgoing ∧ a.connections = b.connections := by
  cases a
  cases b
  simp

@[simp] theorem zero_add (d : Degree) : zero.add d = d := by
  simp [add, zero]

theorem add_assoc (a b c : Degree) : (a.add b).add c = a.add (b.add c) := by
  simp [add, Nat.add_assoc]

end Degree

namespace Edge

/-- What an edge adds to the degree of an id. -/
def degreeAt (e : Edge) (id : EntityId) : Degree where
  incoming := if e.target = id then 1 else 0
  outgoing := if e.source = id then 1 else 0
  connections := if e.source = id ∨ e.target = id then 1 else 0

end Edge

theorem degreeIn_cons (e : Edge) (edges : List Edge) (id : EntityId) :
    degreeIn (e :: edges) id = (e.degreeAt id).add (degreeIn edges id) := by
  simp only [degreeIn, Edge.degreeAt, Degree.add, List.countP_cons, Degree.ext_iff_counts,
    decide_eq_true_eq]
  refine ⟨?_, ?_, ?_⟩ <;> omega

namespace DegreeTable

theorem lookup_add (table : DegreeTable) (id other : EntityId) (d : Degree) :
    (add table id d).lookup other =
      if id = other then (lookup table other).add d else lookup table other := by
  induction table with
  | nil =>
      by_cases h : id = other <;> simp [add, lookup, h]
  | cons entry rest ih =>
      rcases entry with ⟨key, known⟩
      by_cases hkey : key = id
      · by_cases h : id = other <;> simp [add, lookup, hkey, h]
      · by_cases hother : key = other
        · subst hother
          have hne : id ≠ key := fun h => hkey h.symm
          simp [add, lookup, hkey, hne]
        · simpa [add, lookup, hkey, hother] using ih

/-- Both ends of an edge together add what the edge adds, also where they are one. -/
theorem lookup_degrees (table : DegreeTable) (e : Edge) (id : EntityId) :
    lookup (e.degrees.foldl (fun table entry => add table entry.1 entry.2) table) id =
      (lookup table id).add (e.degreeAt id) := by
  simp only [Edge.degrees, List.foldl_cons, List.foldl_nil, lookup_add]
  by_cases hsource : e.source = id <;> by_cases htarget : e.target = id
  · simp [Edge.degreeAt, Degree.add, hsource, htarget]
  · simp [Edge.degreeAt, Degree.add, hsource, htarget]
  · have hne : id ≠ e.source := fun h => hsource h.symm
    simp [Edge.degreeAt, Degree.add, hsource, htarget, hne]
  · simp [Edge.degreeAt, Degree.add, hsource, htarget]

theorem lookup_foldl (edges : List Edge) (table : DegreeTable) (id : EntityId) :
    lookup ((edges.flatMap Edge.degrees).foldl (fun table entry => add table entry.1 entry.2) table)
        id = (lookup table id).add (degreeIn edges id) := by
  induction edges generalizing table with
  | nil =>
      rfl
  | cons e edges ih =>
      rw [List.flatMap_cons, List.foldl_append, ih, lookup_degrees, degreeIn_cons,
        Degree.add_assoc]

/-- The table of an edge list gives for every id what can be counted for it. -/
theorem lookup_ofEdges (edges : List Edge) (id : EntityId) :
    (ofEdges edges).lookup id = degreeIn edges id := by
  have hempty : lookup ([] : DegreeTable) id = Degree.zero := rfl
  rw [ofEdges, lookup_foldl, hempty, Degree.zero_add]

end DegreeTable
end GraphQuery
