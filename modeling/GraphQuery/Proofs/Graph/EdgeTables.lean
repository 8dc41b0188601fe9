import GraphQuery.Proofs.Distinct
import GraphQuery.Proofs.Graph.Degree
import GraphQuery.Proofs.Graph.Neighborhood

/-!
# Tables by id — adjacency, connections and degrees of one edge list

Adjacency and degrees are tables that grow along the edge list: an id that has no entry yet gets one at the end, and
an entry that is there is added to.  A table that has grown so lists the ids in order of first appearance
(`Adjacency.keys_ofEdges`, `DegreeTable.keys_ofEdges`), each once and with what is looked up for it.  So the tables, the
connections of single ids and the counts over the edge list all say the same (`edgeTables_agree`).
-/

namespace GraphQuery

/-! ## Keys of a growing table -/

/-- The keys after an entry has been added to: a new key comes last. -/
def withKey (keys : List EntityId) (id : EntityId) : List EntityId :=
  if id ∈ keys then keys else keys ++ [id]

theorem nodup_withKey {keys : List EntityId} (h : keys.Nodup) (id : EntityId) : (withKey keys id).Nodup := by
  rw [withKey]
  split
  · exact h
  · next hid =>
      refine h.append (List.nodup_singleton id) ?_
      exact List.disjoint_singleton.2 hid

/-- Keys that come one after the other are kept in order of first appearance. -/
theorem foldl_withKey (ids : List EntityId) {keys : List EntityId} (h : keys.Nodup) :
    ids.foldl withKey keys = (keys ++ ids).eraseDups := by
  induction ids generalizing keys with
  | nil =>
      rw [List.append_nil, Distinct.eraseDups_of_nodup h]
      rfl
  | cons id rest ih =>
      rw [List.foldl_cons, ih (nodup_withKey h id), withKey]
      split
      · next hid =>
          rw [Distinct.eraseDups_append_of_nodup h, Distinct.eraseDups_append_of_nodup h,
            List.filter_cons_of_neg (by simpa using hid)]
      · rw [List.append_assoc, List.singleton_append]

/-- A table whose entries are looked through for a key has this key in the end, and it comes last if it is new. -/
theorem keys_grow {β γ : Type} {grow : List (EntityId × β) → EntityId → γ → List (EntityId × β)}
    (hnil : ∀ id x, (grow [] id x).map (·.1) = [id])
    (hcons : ∀ entry rest id x, (grow (entry :: rest) id x).map (·.1) =
      if entry.1 = id then entry.1 :: rest.map (·.1) else entry.1 :: (grow rest id x).map (·.1))
    (table : List (EntityId × β)) (id : EntityId) (x : γ) :
    (grow table id x).map (·.1) = withKey (table.map (·.1)) id := by
  induction table with
  | nil =>
      exact hnil id x
  | cons entry rest ih =>
      rw [hcons, ih, List.map_cons, withKey, withKey]
      by_cases hkey : entry.1 = id
      · simp [hkey]
      · have hne : id ≠ entry.1 := Ne.symm hkey
        by_cases hmem : id ∈ rest.map (·.1)
        · simp [hkey, hne, hmem]
        · simp [hkey, hne, hmem]

/-- A table that grows entry by entry lists its keys in order of first appearance. -/
theorem keys_foldl {β γ : Type} {grow : List (EntityId × β) → EntityId → γ → List (EntityId × β)}
    (hgrow : ∀ table id x, (grow table id x).map (·.1) = withKey (table.map (·.1)) id)
    (entries : List (EntityId × γ)) :
    (entries.foldl (fun table entry => grow table entry.1 entry.2) []).map (·.1) =
      (entries.map (·.1)).eraseDups := by
  have hfrom : ∀ table : List (EntityId × β),
      (entries.foldl (fun table entry => grow table entry.1 entry.2) table).map (·.1) =
        (entries.map (·.1)).foldl withKey (table.map (·.1)) := by
    induction entries with
    | nil =>
        intro table
        rfl
    | cons entry rest ih =>
        intro table
        rw [List.foldl_cons, ih, hgrow, List.map_cons, List.foldl_cons]
  rw [hfrom, List.map_nil, foldl_withKey _ List.nodup_nil, List.nil_append]

/-- A table whose keys are distinct holds for each of them what is looked up for it. -/
theorem eq_map_find? {β : Type} (fallback : β) {table : List (EntityId × β)} (h : (table.map (·.1)).Nodup) :
    table = (table.map (·.1)).map fun id => (id, ((table.find? (·.1 = id)).map (·.2)).getD fallback) := by
  induction table with
  | nil =>
      rfl
  | cons entry rest ih =>
      rcases entry with ⟨key, v⟩
      rw [List.map_cons] at h
      obtain ⟨hkey, hrest⟩ := List.nodup_cons.1 h
      rw [List.map_cons, List.map_cons]
      refine congrArg₂ List.cons (by simp) ?_
      -- The first entry is none of those of the other keys.
      refine (ih hrest).trans (List.map_congr_left fun id hid => ?_)
      have hne : key ≠ id := fun heq => hkey (heq ▸ hid)
      simp [hne]

namespace Adjacency

theorem keys_add (table : Adjacency) (here there : EntityId) :
    (add table here there).map (·.1) = withKey (table.map (·.1)) here := by
  refine keys_grow (fun _ _ => rfl) (fun entry rest here there => ?_) table here there
  rw [add]
  split <;> rfl

/-- The ids that a step starts from have neighbours, in order of their first steps. -/
theorem keys_ofEdges (direction : Direction) (edges : List Edge) :
    (ofEdges direction edges).map (·.1) = ((allSteps direction edges).map (·.1)).eraseDups :=
  keys_foldl keys_add (allSteps direction edges)

theorem nodup_keys_ofEdges (direction : Direction) (edges : List Edge) :
    ((ofEdges direction edges).map (·.1)).Nodup := by
  rw [keys_ofEdges]
  exact Distinct.nodup_eraseDups _

/-- An id has no entry exactly if it has no neighbours. -/
theorem not_mem_keys_iff {direction : Direction} {edges : List Edge} {id : EntityId} :
    id ∉ (ofEdges direction edges).map (·.1) ↔ neighbors direction edges id = [] := by
  rw [keys_ofEdges, List.mem_eraseDups, neighbors_eq, List.map_eq_nil_iff, List.filter_eq_nil_iff, List.mem_map]
  constructor
  · intro habsent step hstep hid
    exact habsent ⟨step, hstep, by simpa using hid⟩
  · rintro hnone ⟨step, hstep, hid⟩
    exact hnone step hstep (by simpa using hid)

end Adjacency

namespace DegreeTable

theorem keys_add (table : DegreeTable) (id : EntityId) (d : Degree) :
    (add table id d).map (·.1) = withKey (table.map (·.1)) id := by
  refine keys_grow (fun _ _ => rfl) (fun entry rest id d => ?_) table id d
  rw [add]
  split <;> rfl

/-- The ids that edges refer to have a degree, in order of first appearance. -/
theorem keys_ofEdges (edges : List Edge) :
    (ofEdges edges).map (·.1) = (edges.flatMap fun e => [e.source, e.target]).eraseDups := by
  rw [ofEdges, keys_foldl keys_add, List.map_flatMap]
  rfl

theorem nodup_keys_ofEdges (edges : List Edge) : ((ofEdges edges).map (·.1)).Nodup := by
  rw [keys_ofEdges]
  exact Distinct.nodup_eraseDups _

end DegreeTable

/-! ## Counts -/

/-- An id has a neighbour for each edge that leaves it or enters it, as the direction goes. -/
theorem length_neighbors (direction : Direction) (edges : List Edge) (id : EntityId) :
    (neighbors direction edges id).length =
      (if direction.followsOut then (degreeIn edges id).outgoing else 0) +
        if direction.followsIn then (degreeIn edges id).incoming else 0 := by
  induction edges with
  | nil =>
      cases direction <;> rfl
  | cons e rest ih =>
      have hsplit : neighbors direction (e :: rest) id =
          ((e.steps direction).filter (·.1 = id)).map (·.2) ++ neighbors direction rest id := by
        rw [neighbors, List.flatMap_cons, List.filter_append, List.map_append]
        rfl
      rw [hsplit, List.length_append, ih, degreeIn_cons, Degree.add, Edge.degreeAt]
      by_cases hsource : e.source = id <;> by_cases htarget : e.target = id <;>
        cases direction <;>
        simp [Edge.steps, Direction.followsOut, Direction.followsIn, hsource, htarget] <;>
        omega

/-- A loop is one connection and counts twice in all. -/
theorem total_degreeIn (edges : List Edge) (id : EntityId) :
    (degreeIn edges id).total =
      (degreeIn edges id).connections + edges.countP fun e => e.source = id ∧ e.target = id := by
  induction edges with
  | nil =>
      rfl
  | cons e rest ih =>
      rw [Degree.total] at ih ⊢
      rw [degreeIn_cons, List.countP_cons, Degree.add, Edge.degreeAt]
      generalize (rest.countP fun e => decide (e.source = id ∧ e.target = id)) = loops at ih ⊢
      by_cases hsource : e.source = id <;> by_cases htarget : e.target = id <;>
        simp [hsource, htarget] <;> omega

/-! ## One story -/

/-- What the tables and the requests say of an edge list. -/
structure TablesAgree (edges : List Edge) : Prop where
  adjacency : ∀ direction, Adjacency.ofEdges direction edges =
    ((allSteps direction edges).map (·.1)).eraseDups.map fun id => (id, neighbors direction edges id)
  neighbors_eq : ∀ direction id, (Adjacency.ofEdges direction edges).lookup id = neighbors direction edges id ∧
    Traversal.connections edges id.toValue (.text direction.name) = .ok (neighbors direction edges id)
  absent : ∀ direction id,
    id ∉ (Adjacency.ofEdges direction edges).map (·.1) ↔ neighbors direction edges id = []
  /-- Each id that an edge refers to has one entry, which is the one looked up. -/
  degrees : DegreeTable.ofEdges edges =
    (edges.flatMap fun e => [e.source, e.target]).eraseDups.map fun id =>
      (id, (DegreeTable.ofEdges edges).lookup id)
  outgoing : ∀ id, ((DegreeTable.ofEdges edges).lookup id).outgoing = (neighbors .outgoing edges id).length
  incoming : ∀ id, ((DegreeTable.ofEdges edges).lookup id).incoming = (neighbors .incoming edges id).length
  total : ∀ id, ((DegreeTable.ofEdges edges).lookup id).total = (neighbors .both edges id).length
  connections : ∀ id, ((DegreeTable.ofEdges edges).lookup id).connections =
    edges.countP fun e => e.source = id ∨ e.target = id
  loops : ∀ id, ((DegreeTable.ofEdges edges).lookup id).total =
    ((DegreeTable.ofEdges edges).lookup id).connections + edges.countP fun e => e.source = id ∧ e.target = id

/-- Adjacency, connections and degrees of an edge list say the same. -/
theorem edgeTables_agree (edges : List Edge) : TablesAgree edges := by
  refine ⟨?_, ?_, fun _ _ => Adjacency.not_mem_keys_iff, ?_, ?_, ?_, ?_, ?_, ?_⟩
  · intro direction
    rw [← Adjacency.keys_ofEdges, ← Adjacency.lookup_ofEdges_eq]
    exact eq_map_find? [] (Adjacency.nodup_keys_ofEdges direction edges)
  · intro direction id
    refine ⟨Adjacency.lookup_ofEdges direction edges id, ?_⟩
    simp only [Traversal.connections, Direction.ofValue_name, EntityId.ofValue?_toValue]
    rfl
  · rw [← DegreeTable.keys_ofEdges]
    exact eq_map_find? .zero (DegreeTable.nodup_keys_ofEdges edges)
  all_goals
    intro id
    rw [DegreeTable.lookup_ofEdges]
  · rw [length_neighbors]
    rfl
  · rw [length_neighbors]
    exact (Nat.zero_add _).symm
  · rw [length_neighbors]
    exact Nat.add_comm _ _
  · rfl
  · exact total_degreeIn edges id

end GraphQuery
