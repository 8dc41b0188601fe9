import GraphQuery.Proofs.Graph.Layers

/-!
# Neighbourhoods — the search for connected nodes expands layer by layer

The search marks an id as visited when its turn comes, so the queue may hold an id several times and at
several depths.  Its loop is given here a second time as a relation without a bound on the rounds:

* `VisitLoop` holds of a queue and of what the loop finds when it runs until the queue is empty,
* `visits` with enough rounds is such a run (`VisitLoop.visits`), so the loop ends,
* every such run finds the layers one after the other (`VisitLoop.eq_layers`),
* so the nodes answered are those of the layers within the bound (`connected_isNeighborhood`).
-/

namespace GraphQuery

/-! ## The loop -/

/-- What is put into the queue for an id whose turn it is. -/
def onward (adjacent : EntityId → List EntityId) (limit : DepthLimit) (visited : List EntityId)
    (id : EntityId) (depth : Nat) : List EntityId :=
  if limit.allowsFrom depth then (adjacent id).filter fun n => n ≠ id && !visited.contains n else []

/-- A run of the loop until its queue is empty: a queue, the ids visited before, and what is found. -/
inductive VisitLoop (adjacent : EntityId → List EntityId) (limit : DepthLimit) :
    List (EntityId × Nat) → List EntityId → List (EntityId × Nat) → Prop where
  | done (visited : List EntityId) : VisitLoop adjacent limit [] visited []
  | skip {id : EntityId} {depth : Nat} {queue found : List (EntityId × Nat)}
      {visited : List EntityId} :
      id ∈ visited ∨ limit.exceededBy depth = true →
      VisitLoop adjacent limit queue visited found →
      VisitLoop adjacent limit ((id, depth) :: queue) visited found
  | visit {id : EntityId} {depth : Nat} {queue found : List (EntityId × Nat)}
      {visited : List EntityId} :
      id ∉ visited → limit.exceededBy depth = false →
      VisitLoop adjacent limit
        (queue ++ (onward adjacent limit visited id depth).map fun n => (n, depth + 1))
        (id :: visited) found →
      VisitLoop adjacent limit ((id, depth) :: queue) visited ((id, depth) :: found)

/-- The steps from ids that were not visited; they bound what may still enter the queue. -/
def openSteps (direction : Direction) (edges : List Edge) (visited : List EntityId) : Nat :=
  ((allSteps direction edges).filter fun step => !visited.contains step.1).length

section Rounds

variable {direction : Direction} {edges : List Edge} {limit : DepthLimit}

theorem openSteps_cons {visited : List EntityId} {id : EntityId} (h : id ∉ visited) :
    openSteps direction edges (id :: visited) + (neighbors direction edges id).length =
      openSteps direction edges visited := by
  rw [openSteps, openSteps, neighbors_eq, List.length_map]
  induction allSteps direction edges with
  | nil =>
      simp
  | cons step rest ih =>
      by_cases hid : step.1 = id
      · have hopen : step.1 ∉ visited := hid ▸ h
        simp [hid, h] at ih ⊢
        omega
      · by_cases hmem : step.1 ∈ visited
        · simpa [hid, hmem] using ih
        · simp [hid, hmem] at ih ⊢
          omega

theorem length_onward_le (visited : List EntityId) (id : EntityId) (depth : Nat) :
    (onward (neighbors direction edges) limit visited id depth).length ≤
      (neighbors direction edges id).length := by
  rw [onward]
  split
  · exact List.length_filter_le _ _
  · exact Nat.zero_le _

/-- The entries that the loop appends are those of `onward`. -/
theorem onward_entries (adjacent : EntityId → List EntityId) (visited : List EntityId) (id : EntityId)
    (depth : Nat) :
    (if limit.allowsFrom depth = true then
        ((adjacent id).filter fun n => n ≠ id && !visited.contains n).map fun n => (n, depth + 1)
      else []) =
      (onward adjacent limit visited id depth).map fun n => (n, depth + 1) := by
  rw [onward]
  split <;> rfl

/-- With a round for every entry that waits or may still come, the loop runs until its queue is empty. -/
theorem VisitLoop.visits :
    ∀ (rounds : Nat) (queue : List (EntityId × Nat)) (visited : List EntityId),
      queue.length + openSteps direction edges visited ≤ rounds →
        VisitLoop (neighbors direction edges) limit queue visited
          (visits (neighbors direction edges) limit rounds queue visited) := by
  intro rounds
  induction rounds with
  | zero =>
      intro queue visited hrounds
      have hnil : queue = [] := List.length_eq_zero_iff.1 (by omega)
      subst hnil
      exact VisitLoop.done visited
  | succ rounds ih =>
      intro queue visited hrounds
      cases queue with
      | nil =>
          exact VisitLoop.done visited
      | cons entry queue =>
          rcases entry with ⟨id, depth⟩
          rw [List.length_cons] at hrounds
          by_cases hskip : (visited.contains id || limit.exceededBy depth) = true
          · rw [GraphQuery.visits, if_pos hskip]
            refine VisitLoop.skip ?_ (ih queue visited (by omega))
            simpa using hskip
          · -- The visit takes a round and the open steps of the id; what it appends is no more than those.
            rw [GraphQuery.visits, if_neg hskip]
            have hparts : id ∉ visited ∧ limit.exceededBy depth = false := by
              simpa using hskip
            refine VisitLoop.visit hparts.1 hparts.2 ?_
            have hopen : openSteps direction edges (id :: visited) +
                (neighbors direction edges id).length = openSteps direction edges visited :=
              openSteps_cons hparts.1
            have hle : (onward (neighbors direction edges) limit visited id depth).length ≤
                (neighbors direction edges id).length :=
              length_onward_le visited id depth
            have hrun := ih
              (queue ++ (onward (neighbors direction edges) limit visited id depth).map
                fun n => (n, depth + 1)) (id :: visited) (by
                  rw [List.length_append, List.length_map]
                  omega)
            simp only [onward_entries]
            exact hrun

end Rounds

/-! ## Layer by layer -/

section Run

variable {adjacent : EntityId → List EntityId} {limit : DepthLimit}

/-- Entries that were visited, or lie beyond the limit, find nothing. -/
theorem VisitLoop.eq_nil {queue found : List (EntityId × Nat)} {visited : List EntityId}
    (hrun : VisitLoop adjacent limit queue visited found)
    (hskip : ∀ entry ∈ queue, entry.1 ∈ visited ∨ limit.exceededBy entry.2 = true) :
    found = [] := by
  induction hrun with
  | done visited =>
      rfl
  | skip _ _ ih =>
      exact ih fun entry hentry => hskip entry (List.mem_cons_of_mem _ hentry)
  | visit hnew hlimit _ _ =>
      rcases hskip _ List.mem_cons_self with h | h
      · exact absurd h hnew
      · rw [hlimit] at h
        cases h

/-- Where an id and all ids visited are seen, what is put into the queue for the id brings nothing else than
its neighbours. -/
theorem newIds_onward {seen visited : List EntityId} {id : EntityId} (hid : id ∈ seen)
    (hvisited : ∀ x ∈ visited, x ∈ seen) (depth : Nat) :
    newIds seen (onward adjacent limit visited id depth) =
      newIds seen (if limit.allowsFrom depth then adjacent id else []) := by
  rw [onward]
  split
  · refine newIds_filter fun x _ hx => ?_
    by_cases hxid : x = id
    · exact hxid ▸ hid
    · exact hvisited x (by simpa [hxid] using hx)
  · rfl

/-- A run through all entries of one depth finds the new ids among them.  What it has put into the queue
is as good as their neighbours: the ids left out were visited when the run comes to the next depth. -/
theorem VisitLoop.through_depth {depth : Nat} (hdepth : limit.exceededBy depth = false) :
    ∀ (ids later visited : List EntityId) (found : List (EntityId × Nat)),
      VisitLoop adjacent limit
          (ids.map (fun id => (id, depth)) ++ later.map fun id => (id, depth + 1)) visited found →
        ∃ pushed rest,
          found = (newIds visited ids).map (fun id => (id, depth)) ++ rest ∧
          VisitLoop adjacent limit ((later ++ pushed).map fun id => (id, depth + 1))
            ((newIds visited ids).reverse ++ visited) rest ∧
          ∀ seen, (∀ id ∈ newIds visited ids, id ∈ seen) → (∀ id ∈ visited, id ∈ seen) →
            newIds seen pushed =
              newIds seen
                (if limit.allowsFrom depth then (newIds visited ids).flatMap adjacent else []) := by
  -- Along the entries of this depth, with what they have put into the queue so far as `later`.
  intro ids
  induction ids with
  | nil =>
      intro later visited found hrun
      refine ⟨[], found, ?_, ?_, ?_⟩
      · simp
      · simpa using hrun
      · intro seen _ _
        simp
  | cons id ids ih =>
      intro later visited found hrun
      rw [List.map_cons, List.cons_append] at hrun
      by_cases hvisited : id ∈ visited
      · rw [newIds_cons_of_mem hvisited]
        cases hrun with
        | skip _ hrest =>
            exact ih later visited found hrest
        | visit hnew _ _ =>
            exact absurd hvisited hnew
      · cases hrun with
        | skip hskip _ =>
            rcases hskip with h | h
            · exact absurd h hvisited
            · rw [hdepth] at h
              cases h
        | visit _ _ hrest =>
            rw [List.append_assoc, ← List.map_append] at hrest
            rcases ih _ _ _ hrest with ⟨pushed, rest, hfound, hloop, hpushed⟩
            rw [newIds_cons_of_not_mem hvisited]
            refine ⟨onward adjacent limit visited id depth ++ pushed, rest, ?_, ?_, ?_⟩
            · rw [hfound]
              rfl
            · rw [← List.append_assoc later, List.reverse_cons, List.append_assoc _ [id]]
              exact hloop
            · intro seen hnew hold
              have hid : id ∈ seen := hnew id List.mem_cons_self
              have honward : newIds seen (onward adjacent limit visited id depth) =
                  newIds seen (if limit.allowsFrom depth then adjacent id else []) :=
                newIds_onward hid hold depth
              have hrest := hpushed
                (newIds seen (onward adjacent limit visited id depth) ++ seen)
                (fun x hx => List.mem_append_right _ (hnew x (List.mem_cons_of_mem _ hx)))
                (fun x hx => List.mem_append_right _ (by
                  rcases List.mem_cons.1 hx with rfl | hx
                  · exact hid
                  · exact hold x hx))
              rw [newIds_append, hrest, honward]
              split
              · rw [List.flatMap_cons, newIds_append]
              · simp

/-- A run from the start has found all layers that it has come past, and stands before the next. -/
theorem VisitLoop.exists_layer (hlimit : limit ≠ .undefined) {start : EntityId}
    {found : List (EntityId × Nat)} (hrun : VisitLoop adjacent limit [(start, 0)] [] found) :
    ∀ m, (∀ k < m, limit.exceededBy k = false) →
      ∃ ids visited rest,
        found = ((List.range m).flatMap fun k =>
          (layer adjacent start k).map fun id => (id, k)) ++ rest ∧
        VisitLoop adjacent limit (ids.map fun id => (id, m)) visited rest ∧
        (∀ id, id ∈ visited ↔ id ∈ (List.range m).flatMap (layer adjacent start)) ∧
        (limit.exceededBy m = false → newIds visited ids = layer adjacent start m) := by
  intro m
  induction m with
  | zero =>
      intro _
      refine ⟨[start], [], found, by simp, hrun, by simp, ?_⟩
      intro _
      rw [newIds_cons_of_not_mem (by simp)]
      simp
  | succ m ih =>
      intro hbelow
      have hm : limit.exceededBy m = false := hbelow m (Nat.lt_succ_self m)
      rcases ih fun k hk => hbelow k (Nat.lt_succ_of_lt hk) with
        ⟨ids, visited, rest, hfound, hloop, hvisited, hlayer⟩
      have hloop' : VisitLoop adjacent limit
          (ids.map (fun id => (id, m)) ++ ([] : List EntityId).map fun id => (id, m + 1))
          visited rest := by
        simpa using hloop
      rcases VisitLoop.through_depth hm ids [] visited rest hloop' with
        ⟨pushed, rest', hrest, hnext, hpushed⟩
      rw [hlayer hm] at hrest hnext hpushed
      -- The loop lists visited ids in another order than the layers do.
      have hseen : ∀ id, id ∈ (layer adjacent start m).reverse ++ visited ↔
          id ∈ seenUpTo adjacent start m := by
        intro id
        rw [seenUpTo_eq_flatMap, List.range_succ, List.flatMap_append, List.mem_append,
          List.mem_append, hvisited id]
        simp [or_comm]
      refine ⟨pushed, (layer adjacent start m).reverse ++ visited, rest', ?_, hnext, ?_, ?_⟩
      · rw [hfound, hrest, List.range_succ, List.flatMap_append]
        simp
      · intro id
        rw [hseen id, seenUpTo_eq_flatMap]
      · -- The queue is empty where the limit lets no step be taken, but then it excludes this layer.
        intro hsucc
        have hallows : limit.allowsFrom m = true := by
          cases h : limit.allowsFrom m with
          | true =>
              rfl
          | false =>
              rw [DepthLimit.exceededBy_succ_of_not_allowsFrom hlimit h] at hsucc
              cases hsucc
        rw [hpushed _ (fun id hid => List.mem_append_left _ (List.mem_reverse.2 hid))
          (fun id hid => List.mem_append_right _ hid), if_pos hallows, layer_succ]
        exact newIds_congr hseen

/-- Layers of which none is empty are as many ids at least as there are layers. -/
private theorem le_length_of_ne_nil {β : Type} {f : Nat → List β} (h : ∀ k, f k ≠ []) (m : Nat) :
    m ≤ ((List.range m).flatMap f).length := by
  induction m with
  | zero =>
      exact Nat.zero_le _
  | succ m ih =>
      have hpos : 0 < (f m).length := List.length_pos_iff.2 (h m)
      rw [List.range_succ, List.flatMap_append, List.length_append, List.flatMap_singleton]
      omega

/-- A run with a finite limit stops at the first depth beyond it. -/
theorem VisitLoop.eq_layers_of_exceededBy (hlimit : limit ≠ .undefined) {start : EntityId}
    {found : List (EntityId × Nat)} (hrun : VisitLoop adjacent limit [(start, 0)] [] found) {m : Nat}
    (hbelow : ∀ k < m, limit.exceededBy k = false) (hm : limit.exceededBy m = true) :
    found = (List.range m).flatMap fun k => (layer adjacent start k).map fun id => (id, k) := by
  rcases hrun.exists_layer hlimit m hbelow with ⟨ids, visited, rest, hfound, hloop, _, _⟩
  have hrest : rest = [] := by
    refine hloop.eq_nil fun entry hentry => Or.inr ?_
    rcases List.mem_map.1 hentry with ⟨id, _, rfl⟩
    exact hm
  rw [hfound, hrest, List.append_nil]

/-- A run that no limit ends comes to an empty layer, for what it finds is finite. -/
theorem VisitLoop.exists_layer_eq_nil (hlimit : limit ≠ .undefined) {start : EntityId}
    {found : List (EntityId × Nat)} (hrun : VisitLoop adjacent limit [(start, 0)] [] found)
    (hnone : ∀ k, limit.exceededBy k = false) : ∃ m, layer adjacent start m = [] := by
  by_contra hall
  have hall' : ∀ k, ((layer adjacent start k).map fun id => (id, k)) ≠ [] := by
    intro k hk
    exact hall ⟨k, List.map_eq_nil_iff.1 hk⟩
  rcases hrun.exists_layer hlimit (found.length + 1) (fun k _ => hnone k) with
    ⟨_, _, rest, hfound, _⟩
  have hle := le_length_of_ne_nil hall' (found.length + 1)
  have hlength := congrArg List.length hfound
  rw [List.length_append] at hlength
  omega

/-- A run that no limit ends stops at the first empty layer. -/
theorem VisitLoop.eq_layers_of_eq_nil (hlimit : limit ≠ .undefined) {start : EntityId}
    {found : List (EntityId × Nat)} (hrun : VisitLoop adjacent limit [(start, 0)] [] found)
    (hnone : ∀ k, limit.exceededBy k = false) {m : Nat} (hm : layer adjacent start m = []) :
    found = (List.range m).flatMap fun k => (layer adjacent start k).map fun id => (id, k) := by
  rcases hrun.exists_layer hlimit m (fun k _ => hnone k) with
    ⟨ids, visited, rest, hfound, hloop, _, hlayer⟩
  have hold : ∀ id ∈ ids, id ∈ visited := newIds_eq_nil_iff.1 ((hlayer (hnone m)).trans hm)
  have hrest : rest = [] := by
    refine hloop.eq_nil fun entry hentry => Or.inl ?_
    rcases List.mem_map.1 hentry with ⟨id, hid, rfl⟩
    exact hold id hid
  rw [hfound, hrest, List.append_nil]

/-- A run from the start finds the layers within the limit, one after the other. -/
theorem VisitLoop.eq_layers (hlimit : limit ≠ .undefined) {start : EntityId}
    {found : List (EntityId × Nat)} (hrun : VisitLoop adjacent limit [(start, 0)] [] found) :
    ∃ m, (∀ k < m, limit.exceededBy k = false) ∧
      (∀ k, m ≤ k → limit.exceededBy k = false → layer adjacent start k = []) ∧
      found = (List.range m).flatMap fun k => (layer adjacent start k).map fun id => (id, k) := by
  classical
  by_cases hex : ∃ m, limit.exceededBy m = true
  · -- The limit is finite, and layers beyond it are not asked about.
    have hbelow : ∀ k < Nat.find hex, limit.exceededBy k = false := by
      intro k hk
      simpa using Nat.find_min hex hk
    refine ⟨Nat.find hex, hbelow, ?_,
      hrun.eq_layers_of_exceededBy hlimit hbelow (Nat.find_spec hex)⟩
    intro k hk hnot
    rw [DepthLimit.exceededBy_mono hk (Nat.find_spec hex)] at hnot
    cases hnot
  · -- There is no end to the limit, and all layers after an empty one are empty.
    have hnone : ∀ k, limit.exceededBy k = false := by
      intro k
      simpa using not_exists.1 hex k
    rcases hrun.exists_layer_eq_nil hlimit hnone with ⟨m, hm⟩
    exact ⟨m, fun k _ => hnone k, fun k hk _ => layer_eq_nil_of_le hk hm,
      hrun.eq_layers_of_eq_nil hlimit hnone hm⟩

/-- The ids of the layers beyond the start. -/
theorem map_filter_layers (adjacent : EntityId → List EntityId) (start : EntityId) (m : Nat) :
    ((((List.range m).flatMap fun k => (layer adjacent start k).map fun id => (id, k)).filter
        fun entry => 0 < entry.2).map (·.1)) =
      (List.range' 1 (m - 1)).flatMap (layer adjacent start) := by
  cases m with
  | zero =>
      rfl
  | succ m =>
      rw [List.range_eq_range', List.range'_succ, List.flatMap_cons, List.filter_append,
        List.map_append, List.filter_flatMap, List.map_flatMap]
      have hfirst : ((layer adjacent start 0).map fun id => (id, 0)).filter
          (fun entry : EntityId × Nat => 0 < entry.2) = [] := by
        simp
      rw [hfirst, List.map_nil, List.nil_append]
      refine List.flatMap_congr fun k hk => ?_
      have hpos : 0 < k := by
        have := List.mem_range'_1.1 hk
        omega
      have hall : ((layer adjacent start k).map fun id => (id, k)).filter
          (fun entry : EntityId × Nat => 0 < entry.2) =
            (layer adjacent start k).map fun id => (id, k) := by
        refine List.filter_eq_self.2 fun entry hentry => ?_
        rcases List.mem_map.1 hentry with ⟨id, _, rfl⟩
        simpa using hpos
      rw [hall, List.map_map]
      exact List.map_id _

end Run

/-! ## The nodes answered -/

/-- The name of a direction among arguments. -/
def Direction.name : Direction → String
  | outgoing => "out"
  | incoming => "in"
  | both => "both"

/-- What the nodes around a start are: those of the layers within the bound, nearest first and each once.
An id stands for the first node that has it. -/
structure IsNeighborhood (graph : Snapshot) (direction : Direction) (bound : StepBound)
    (start : EntityId) (answer : List Node) : Prop where
  layers : ∃ m, (∀ k, 1 ≤ k → k ≤ m → bound.Allows k) ∧
    (∀ k, m < k → bound.Allows k → layer (neighbors direction graph.edges) start k = []) ∧
    answer = ((List.range' 1 m).flatMap (layer (neighbors direction graph.edges) start)).filterMap
      fun id => graph.nodes.find? (·.id = id)
  mem_iff : ∀ n, n ∈ answer ↔ graph.nodes.find? (·.id = n.id) = some n ∧
    ∃ k, 1 ≤ k ∧ bound.Allows k ∧ IsDistance (IsStep direction graph.edges) k start n.id
  once : (answer.map (·.id)).Nodup
  nearest_first : answer.Pairwise fun a b =>
    ∀ i j, IsDistance (IsStep direction graph.edges) i start a.id →
      IsDistance (IsStep direction graph.edges) j start b.id → i ≤ j
  not_start : ∀ n ∈ answer, n.id ≠ start

section Nodes

variable {graph : Snapshot} {direction : Direction} {bound : StepBound} {start : EntityId}

/-- Looking ids up leaves some of them out and changes nothing else. -/
theorem map_filterMap_find?_sublist (nodes : List Node) (ids : List EntityId) :
    List.Sublist ((ids.filterMap fun id => nodes.find? (·.id = id)).map (·.id)) ids := by
  induction ids with
  | nil =>
      simp
  | cons id rest ih =>
      cases hfind : nodes.find? (·.id = id) with
      | none =>
          simp only [List.filterMap_cons, hfind]
          exact ih.cons id
      | some n =>
          have hid : n.id = id := by simpa using List.find?_some hfind
          simp only [List.filterMap_cons, hfind, List.map_cons, hid]
          exact ih.cons_cons id

/-- Where the layers up to a number are wanted and those beyond it that are wanted are empty, the layers up to it
hold the ids at the distances wanted. -/
theorem mem_flatMap_layer_iff {edges : List Edge} {wanted : Nat → Prop} {m : Nat}
    (hbelow : ∀ k, 1 ≤ k → k ≤ m → wanted k)
    (hbeyond : ∀ k, m < k → wanted k → layer (neighbors direction edges) start k = []) {id : EntityId} :
    id ∈ (List.range' 1 m).flatMap (layer (neighbors direction edges) start) ↔
      ∃ k, 1 ≤ k ∧ wanted k ∧ IsDistance (IsStep direction edges) k start id := by
  have hstep : ∀ a b, b ∈ neighbors direction edges a ↔ IsStep direction edges a b :=
    fun a b => mem_neighbors_iff
  rw [List.mem_flatMap]
  constructor
  · rintro ⟨k, hk, hid⟩
    have hrange := List.mem_range'_1.1 hk
    exact ⟨k, hrange.1, hbelow k hrange.1 (by omega), (mem_layer_iff hstep).1 hid⟩
  · rintro ⟨k, hk, hwanted, hdistance⟩
    have hid := (mem_layer_iff hstep).2 hdistance
    refine ⟨k, List.mem_range'_1.2 ⟨hk, ?_⟩, hid⟩
    by_contra hfar
    rw [hbeyond k (by omega) hwanted] at hid
    exact absurd hid List.not_mem_nil

/-- The layers within a bound, looked up, are the nodes around the start. -/
theorem isNeighborhood_of_layers {m : Nat} (hbelow : ∀ k, 1 ≤ k → k ≤ m → bound.Allows k)
    (hbeyond : ∀ k, m < k → bound.Allows k →
      layer (neighbors direction graph.edges) start k = []) :
    IsNeighborhood graph direction bound start
      (((List.range' 1 m).flatMap (layer (neighbors direction graph.edges) start)).filterMap
        fun id => graph.nodes.find? (·.id = id)) := by
  have hstep : ∀ a b, b ∈ neighbors direction graph.edges a ↔ IsStep direction graph.edges a b :=
    fun a b => mem_neighbors_iff
  have hmem : ∀ id, id ∈ (List.range' 1 m).flatMap (layer (neighbors direction graph.edges) start) ↔
      ∃ k, 1 ≤ k ∧ bound.Allows k ∧ IsDistance (IsStep direction graph.edges) k start id :=
    fun id => mem_flatMap_layer_iff hbelow hbeyond
  have hsublist := map_filterMap_find?_sublist graph.nodes
    ((List.range' 1 m).flatMap (layer (neighbors direction graph.edges) start))
  have hanswer : ∀ n, n ∈ (((List.range' 1 m).flatMap
      (layer (neighbors direction graph.edges) start)).filterMap
        fun id => graph.nodes.find? (·.id = id)) ↔
      graph.nodes.find? (·.id = n.id) = some n ∧
        ∃ k, 1 ≤ k ∧ bound.Allows k ∧ IsDistance (IsStep direction graph.edges) k start n.id := by
    intro n
    rw [List.mem_filterMap]
    constructor
    · rintro ⟨id, hid, hfind⟩
      have hn : n.id = id := by simpa using List.find?_some hfind
      subst hn
      exact ⟨hfind, (hmem n.id).1 hid⟩
    · rintro ⟨hfind, hnear⟩
      exact ⟨n.id, (hmem n.id).2 hnear, hfind⟩
  refine ⟨⟨m, hbelow, hbeyond, rfl⟩, hanswer, ?_, ?_, ?_⟩
  · exact (nodup_flatMap_layer _ start 1 m).sublist hsublist
  · exact List.pairwise_map.1 ((pairwise_flatMap_layer hstep 1 m).sublist hsublist)
  · intro n hn hstart
    rcases (hanswer n).1 hn with ⟨_, k, hk, _, hdistance⟩
    rw [hstart] at hdistance
    have hzero : IsDistance (IsStep direction graph.edges) 0 start start :=
      ⟨Walk.stay start, fun m _ => Nat.zero_le m⟩
    have := hdistance.unique hzero
    omega

theorem Direction.ofValue_name (direction : Direction) :
    Direction.ofValue (.text direction.name) = .ok direction := by
  cases direction <;> rfl

/-- The rounds that a search for connected nodes is given suffice: it is a run until its queue is empty. -/
theorem VisitLoop.fromStart (direction : Direction) (edges : List Edge) (limit : DepthLimit)
    (start : EntityId) :
    VisitLoop (neighbors direction edges) limit [(start, 0)] []
      (GraphQuery.visits (neighbors direction edges) limit (queueRounds edges) [(start, 0)] []) := by
  refine VisitLoop.visits (queueRounds edges) [(start, 0)] [] ?_
  have hall := length_allSteps_le direction edges
  have hopen : openSteps direction edges [] ≤ (allSteps direction edges).length :=
    List.length_filter_le _ _
  rw [queueRounds, List.length_singleton]
  omega

/-- The ids answered are those of the layers within the limit, one layer after the other. -/
theorem exists_connectedIds_eq (direction : Direction) (edges : List Edge) {limit : DepthLimit}
    (hlimit : limit ≠ .undefined) (start : EntityId) :
    ∃ m, (∀ k, 1 ≤ k → k ≤ m → limit.exceededBy k = false) ∧
      (∀ k, m < k → limit.exceededBy k = false → layer (neighbors direction edges) start k = []) ∧
      connectedIds edges direction limit start =
        (List.range' 1 m).flatMap (layer (neighbors direction edges) start) := by
  rcases (VisitLoop.fromStart direction edges limit start).eq_layers hlimit with
    ⟨m, hbelow, hbeyond, hfound⟩
  refine ⟨m - 1, ?_, ?_, ?_⟩
  · intro k _ hk
    exact hbelow k (by omega)
  · intro k hk hallowed
    exact hbeyond k (by omega) hallowed
  · rw [connectedIds, Adjacency.lookup_ofEdges_eq, hfound]
    exact map_filter_layers _ start m

/-- A request for connected nodes is a search. -/
theorem Traversal.connected_eq {limit : DepthLimit} {argument : Value}
    (hlimit : DepthLimit.ofValue argument = .ok limit) :
    Traversal.connected graph start.toValue argument (.text direction.name) =
      .ok (connectedNodes graph direction limit start) := by
  simp only [Traversal.connected, Direction.ofValue_name, EntityId.lookupKey_toValue, hlimit,
    EntityId.ofValue?_toValue]
  rfl

/-- The search for connected nodes ends, and answers the nodes of the layers within the bound; a layer
holds the ids at its distance. -/
theorem connected_isNeighborhood (graph : Snapshot) (direction : Direction) (bound : StepBound)
    (start : EntityId) :
    VisitLoop (Adjacency.ofEdges direction graph.edges).lookup bound.limit [(start, 0)] []
        (visits (Adjacency.ofEdges direction graph.edges).lookup bound.limit
          (queueRounds graph.edges) [(start, 0)] []) ∧
      (∃ answer,
        Traversal.connected graph start.toValue bound.toValue (.text direction.name) = .ok answer ∧
          IsNeighborhood graph direction bound start answer) ∧
      ∀ k id, id ∈ layer (neighbors direction graph.edges) start k ↔
        IsDistance (IsStep direction graph.edges) k start id := by
  rw [Adjacency.lookup_ofEdges_eq]
  refine ⟨VisitLoop.fromStart direction graph.edges bound.limit start, ?_,
    fun k id => mem_layer_iff fun a b => mem_neighbors_iff⟩
  rcases exists_connectedIds_eq direction graph.edges bound.limit_ne_undefined start with
    ⟨m, hbelow, hbeyond, hids⟩
  refine ⟨_, Traversal.connected_eq bound.ofValue_toValue, ?_⟩
  rw [connectedNodes, hids]
  refine isNeighborhood_of_layers ?_ ?_
  · intro k hk hkm
    exact (DepthLimit.not_exceededBy_limit_iff bound k).1 (hbelow k hk hkm)
  · intro k hk hallowed
    exact hbeyond k hk ((DepthLimit.not_exceededBy_limit_iff bound k).2 hallowed)

end Nodes
end GraphQuery
