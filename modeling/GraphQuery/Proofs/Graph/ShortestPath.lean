import GraphQuery.Proofs.Graph.Layers
import Mathlib.Data.List.Perm.Subperm

/-!
# Shortest paths — the search for a path is exact

The search marks an id as visited when it enters the queue, and tests for the target before that.  Its
loop is given a second time as a relation without a bound on the rounds:

* `PathLoop` holds of a queue and of the answer of the loop when it runs to its end,
* `pathFrom` with enough rounds is such a run (`PathLoop.pathFrom`), so the loop ends,
* every answer is a path along the edges (`PathLoop.sound`),
* a run comes past all layers nearer than the target (`PathLoop.exists_layer`), so it finds the target
  at its distance (`PathLoop.eq_some_of_distance`).
-/

namespace GraphQuery

/-! ## The loop -/

/-- The entry that waits for an id found from another entry. -/
def Waiting.next (current : Waiting) (id : EntityId) : Waiting :=
  ⟨id, id :: current.path, current.depth + 1⟩

/-- A run of the loop to its end: a queue, the ids visited before, and the answer. -/
inductive PathLoop (adjacent : EntityId → List EntityId) (limit : DepthLimit) (target : EntityId) :
    List Waiting → List EntityId → Option (List EntityId) → Prop where
  | done (visited : List EntityId) : PathLoop adjacent limit target [] visited none
  | skip {current : Waiting} {queue : List Waiting} {visited : List EntityId}
      {answer : Option (List EntityId)} :
      limit.reachedBy current.depth = true →
      PathLoop adjacent limit target queue visited answer →
      PathLoop adjacent limit target (current :: queue) visited answer
  | found {current : Waiting} {queue : List Waiting} {visited : List EntityId} :
      limit.reachedBy current.depth = false → target ∈ adjacent current.id →
      PathLoop adjacent limit target (current :: queue) visited
        (some (target :: current.path).reverse)
  | expand {current : Waiting} {queue : List Waiting} {visited : List EntityId}
      {answer : Option (List EntityId)} :
      limit.reachedBy current.depth = false → target ∉ adjacent current.id →
      PathLoop adjacent limit target
        (queue ++ (newIds visited (adjacent current.id)).map current.next)
        (visited ++ newIds visited (adjacent current.id)) answer →
      PathLoop adjacent limit target (current :: queue) visited answer

/-- The steps to ids that were not visited; they bound what may still enter the queue. -/
def newSteps (direction : Direction) (edges : List Edge) (visited : List EntityId) : Nat :=
  ((allSteps direction edges).filter fun step => !visited.contains step.2).length

section Rounds

variable {direction : Direction} {edges : List Edge} {limit : DepthLimit} {target : EntityId}

/-- Every new id takes away a step to an id that was not visited. -/
theorem newSteps_append_le (visited : List EntityId) (id : EntityId) :
    (newIds visited (neighbors direction edges id)).length +
        newSteps direction edges (visited ++ newIds visited (neighbors direction edges id)) ≤
      newSteps direction edges visited := by
  -- The steps still new before are those to a fresh id and those that stay new.
  let fresh := newIds visited (neighbors direction edges id)
  let steps := (allSteps direction edges).filter fun step => !visited.contains step.2
  have hsplit : steps.length = (steps.filter fun step => fresh.contains step.2).length +
      (steps.filter fun step => !fresh.contains step.2).length :=
    List.length_eq_length_filter_add _
  have hrest : newSteps direction edges (visited ++ fresh) =
      (steps.filter fun step => !fresh.contains step.2).length := by
    rw [newSteps, List.filter_filter]
    congr 1
    refine List.filter_congr fun step _ => ?_
    simp only [List.contains_eq_mem, List.mem_append, Bool.decide_or, Bool.not_or]
    exact Bool.and_comm _ _
  have hfresh : fresh.length ≤ (steps.filter fun step => fresh.contains step.2).length := by
    have hsubset : fresh ⊆ (steps.filter fun step => fresh.contains step.2).map (·.2) := by
      intro x hx
      have hparts := mem_newIds.1 hx
      rw [neighbors_eq] at hparts
      rcases List.mem_map.1 hparts.1 with ⟨step, hstep, rfl⟩
      refine List.mem_map.2 ⟨step, List.mem_filter.2 ⟨List.mem_filter.2
        ⟨(List.mem_filter.1 hstep).1, ?_⟩, ?_⟩, rfl⟩
      · simpa using hparts.2
      · simpa using hx
    have hle := (List.subperm_of_subset (nodup_newIds _ _) hsubset).length_le
    simpa using hle
  have hsteps : newSteps direction edges visited = steps.length := rfl
  change fresh.length + newSteps direction edges (visited ++ fresh) ≤ _
  omega

/-- With a round for every entry that waits or may still come, the loop runs to its end. -/
theorem PathLoop.pathFrom :
    ∀ (rounds : Nat) (queue : List Waiting) (visited : List EntityId),
      queue.length + newSteps direction edges visited ≤ rounds →
        PathLoop (neighbors direction edges) limit target queue visited
          (pathFrom (neighbors direction edges) limit target rounds queue visited) := by
  intro rounds
  induction rounds with
  | zero =>
      intro queue visited hrounds
      have hnil : queue = [] := List.length_eq_zero_iff.1 (by omega)
      subst hnil
      exact PathLoop.done visited
  | succ rounds ih =>
      intro queue visited hrounds
      cases queue with
      | nil =>
          exact PathLoop.done visited
      | cons current queue =>
          rw [List.length_cons] at hrounds
          rw [GraphQuery.pathFrom]
          by_cases hreached : limit.reachedBy current.depth = true
          · rw [if_pos hreached]
            exact PathLoop.skip hreached (ih queue visited (by omega))
          · have hnot : limit.reachedBy current.depth = false := by simpa using hreached
            rw [if_neg hreached]
            by_cases htarget : target ∈ neighbors direction edges current.id
            · have hcontains : (neighbors direction edges current.id).contains target = true := by
                simpa using htarget
              simp only [hcontains, if_true]
              exact PathLoop.found hnot htarget
            · have hcontains : (neighbors direction edges current.id).contains target = false := by
                simpa using htarget
              simp only [hcontains, Bool.false_eq_true, if_false, unvisited_eq_newIds]
              refine PathLoop.expand hnot htarget (ih _ _ ?_)
              have hsteps : (newIds visited (neighbors direction edges current.id)).length +
                  newSteps direction edges
                    (visited ++ newIds visited (neighbors direction edges current.id)) ≤
                  newSteps direction edges visited :=
                newSteps_append_le visited current.id
              rw [List.length_append, List.length_map]
              omega

end Rounds

/-! ## Every answer is a path -/

section Sound

variable {adjacent : EntityId → List EntityId} {step : EntityId → EntityId → Prop}
  {limit : DepthLimit} {source target : EntityId}

/-- The path of a waiting entry goes along steps from the source to its id. -/
structure IsTrail (step : EntityId → EntityId → Prop) (source : EntityId) (w : Waiting) : Prop where
  head : w.path.head? = some w.id
  last : w.path.getLast? = some source
  chain : w.path.IsChain fun there here => step here there
  length : w.path.length = w.depth + 1

namespace IsTrail

theorem start (step : EntityId → EntityId → Prop) (source : EntityId) :
    IsTrail step source ⟨source, [source], 0⟩ := by
  constructor <;> simp

theorem next {w : Waiting} (h : IsTrail step source w) {id : EntityId} (hstep : step w.id id) :
    IsTrail step source (w.next id) := by
  rcases w with ⟨here, path, depth⟩
  cases path with
  | nil =>
      cases h.head
  | cons first rest =>
      have hfirst : first = here := by simpa using h.head
      subst hfirst
      refine ⟨rfl, ?_, ?_, ?_⟩
      · exact h.last
      · exact List.isChain_cons_cons.2 ⟨hstep, h.chain⟩
      · simpa [Waiting.next] using h.length

/-- The queue that a search begins with holds the path of the source alone. -/
theorem of_mem_start {w : Waiting} (hw : w ∈ [Waiting.mk source [source] 0]) :
    IsTrail step source w := by
  rw [List.mem_singleton.1 hw]
  exact IsTrail.start step source

end IsTrail

/-- What is answered is a path along steps, one step longer than a depth before the limit. -/
theorem PathLoop.sound (hstep : ∀ a b, b ∈ adjacent a ↔ step a b) {queue : List Waiting}
    {visited : List EntityId} {answer : Option (List EntityId)}
    (hrun : PathLoop adjacent limit target queue visited answer)
    (htrails : ∀ w ∈ queue, IsTrail step source w) {path : List EntityId}
    (hpath : answer = some path) :
    ∃ k, limit.reachedBy k = false ∧ path.length = k + 2 ∧ path.head? = some source ∧
      path.getLast? = some target ∧ path.IsChain step := by
  induction hrun with
  | done visited =>
      cases hpath
  | skip _ _ ih =>
      exact ih (fun w hw => htrails w (List.mem_cons_of_mem _ hw)) hpath
  | found hnot htarget =>
      rename_i current queue visited
      cases hpath
      have htrail := (htrails current List.mem_cons_self).next ((hstep _ _).1 htarget)
      refine ⟨current.depth, hnot, ?_, ?_, ?_, ?_⟩
      · rw [List.length_reverse]
        exact htrail.length
      · rw [List.head?_reverse]
        exact htrail.last
      · rw [List.getLast?_reverse]
        exact htrail.head
      · exact List.isChain_reverse.2 htrail.chain
  | expand _ _ _ ih =>
      rename_i current queue visited answer _ _ _
      refine ih (fun w hw => ?_) hpath
      rcases List.mem_append.1 hw with hw | hw
      · exact htrails w (List.mem_cons_of_mem _ hw)
      · rcases List.mem_map.1 hw with ⟨id, hid, rfl⟩
        exact (htrails current List.mem_cons_self).next ((hstep _ _).1 (mem_newIds.1 hid).1)

end Sound

/-! ## A run comes past every layer nearer than the target -/

section Complete

variable {adjacent : EntityId → List EntityId} {step : EntityId → EntityId → Prop}
  {limit : DepthLimit} {source target : EntityId}

/-- An entry that waits for its turn in a layer, by a path that repeats no id and leaves the layers so
far nowhere. -/
structure StandsAt (adjacent : EntityId → List EntityId) (step : EntityId → EntityId → Prop)
    (source : EntityId) (k : Nat) (w : Waiting) : Prop where
  trail : IsTrail step source w
  depth : w.depth = k
  nodup : w.path.Nodup
  seen : ∀ id ∈ w.path, id ∈ seenUpTo adjacent source k

/-- A run through entries of one depth either answers with the target next to one of them, or puts the new
ids next to them into the queue, in order. -/
theorem PathLoop.through_depth {k : Nat} (hlimit : limit.reachedBy k = false) :
    ∀ (current later : List Waiting) (visited : List EntityId) (answer : Option (List EntityId)),
      (∀ w ∈ current, w.depth = k) →
      PathLoop adjacent limit target (current ++ later) visited answer →
        (∃ w ∈ current, target ∈ adjacent w.id ∧ answer = some (target :: w.path).reverse) ∨
          (∀ w ∈ current, target ∉ adjacent w.id) ∧
            ∃ fresh : List Waiting,
              fresh.map (·.id) = newIds visited ((current.map (·.id)).flatMap adjacent) ∧
              (∀ x ∈ fresh, ∃ w ∈ current, x.id ∈ adjacent w.id ∧ x = w.next x.id) ∧
              PathLoop adjacent limit target (later ++ fresh) (visited ++ fresh.map (·.id))
                answer := by
  -- Along the entries of this depth, with what they have put into the queue so far as part of `later`.
  intro current
  induction current with
  | nil =>
      intro later visited answer _ hrun
      refine Or.inr ⟨by simp, [], by simp, by simp, ?_⟩
      simpa using hrun
  | cons w rest ih =>
      intro later visited answer hdepth hrun
      have hw : limit.reachedBy w.depth = false := by
        rw [hdepth w List.mem_cons_self]
        exact hlimit
      rw [List.cons_append] at hrun
      cases hrun with
      | skip hreached _ =>
          rw [hw] at hreached
          cases hreached
      | found _ htarget =>
          exact Or.inl ⟨w, List.mem_cons_self, htarget, rfl⟩
      | expand _ htarget hnext =>
          rw [List.append_assoc] at hnext
          have hrest : ∀ x ∈ rest, x.depth = k := fun x hx =>
            hdepth x (List.mem_cons_of_mem _ hx)
          rcases ih _ _ _ hrest hnext with ⟨x, hx, hmem, hanswer⟩ | ⟨hnone, fresh, hids, hfrom, hloop⟩
          · exact Or.inl ⟨x, List.mem_cons_of_mem _ hx, hmem, hanswer⟩
          · have hmapped : ((newIds visited (adjacent w.id)).map w.next).map (·.id) =
                newIds visited (adjacent w.id) := by
              rw [List.map_map]
              exact List.map_id _
            refine Or.inr ⟨?_, (newIds visited (adjacent w.id)).map w.next ++ fresh, ?_, ?_, ?_⟩
            · intro x hx
              rcases List.mem_cons.1 hx with rfl | hx
              · exact htarget
              · exact hnone x hx
            · rw [List.map_append, hmapped, hids, List.map_cons, List.flatMap_cons, newIds_append]
              refine congrArg (newIds visited (adjacent w.id) ++ ·) (newIds_congr fun id => ?_)
              simp only [List.mem_append, or_comm]
            · intro x hx
              rcases List.mem_append.1 hx with hx | hx
              · rcases List.mem_map.1 hx with ⟨id, hid, rfl⟩
                exact ⟨w, List.mem_cons_self, (mem_newIds.1 hid).1, rfl⟩
              · rcases hfrom x hx with ⟨y, hy, hmem, hxy⟩
                exact ⟨y, List.mem_cons_of_mem _ hy, hmem, hxy⟩
            · rw [← List.append_assoc, List.map_append, hmapped, ← List.append_assoc]
              exact hloop

/-- As long as no layer before touches the target, a run from the source comes to stand at the layer, with
all ids of the layers so far visited. -/
theorem PathLoop.exists_layer (hstep : ∀ a b, b ∈ adjacent a ↔ step a b)
    {answer : Option (List EntityId)}
    (hrun : PathLoop adjacent limit target [⟨source, [source], 0⟩] [source] answer) :
    ∀ k, (∀ j < k, limit.reachedBy j = false) →
      (∀ j < k, ∀ id ∈ layer adjacent source j, target ∉ adjacent id) →
        ∃ queue : List Waiting, queue.map (·.id) = layer adjacent source k ∧
          (∀ w ∈ queue, StandsAt adjacent step source k w) ∧
          PathLoop adjacent limit target queue (seenUpTo adjacent source k) answer := by
  intro k
  induction k with
  | zero =>
      intro _ _
      refine ⟨[⟨source, [source], 0⟩], rfl, ?_, hrun⟩
      intro w hw
      have hw' : w = ⟨source, [source], 0⟩ := by simpa using hw
      subst hw'
      exact ⟨IsTrail.start step source, rfl, by simp, by simp⟩
  | succ k ih =>
      intro hlimit hfar
      rcases ih (fun j hj => hlimit j (Nat.lt_succ_of_lt hj))
        (fun j hj => hfar j (Nat.lt_succ_of_lt hj)) with ⟨queue, hids, hstands, hloop⟩
      have hloop' : PathLoop adjacent limit target (queue ++ []) (seenUpTo adjacent source k)
          answer := by
        simpa using hloop
      rcases PathLoop.through_depth (hlimit k (Nat.lt_succ_self k)) queue [] _ _
        (fun w hw => (hstands w hw).depth) hloop' with ⟨w, hw, htarget, _⟩ | ⟨_, fresh, hnew, hfrom, hnext⟩
      · have hmem : w.id ∈ layer adjacent source k := by
          rw [← hids]
          exact List.mem_map_of_mem hw
        exact absurd htarget (hfar k (Nat.lt_succ_self k) w.id hmem)
      · have hlayer : fresh.map (·.id) = layer adjacent source (k + 1) := by
          rw [hnew, hids, layer_succ]
        refine ⟨fresh, hlayer, ?_, ?_⟩
        · intro x hx
          rcases hfrom x hx with ⟨w, hw, hmem, hxw⟩
          have hw' := hstands w hw
          have hx' : x.id ∈ layer adjacent source (k + 1) := by
            rw [← hlayer]
            exact List.mem_map_of_mem hx
          have hnot := not_mem_seenUpTo_of_mem_layer_succ hx'
          rw [hxw]
          refine ⟨hw'.trail.next ((hstep _ _).1 hmem), ?_, ?_, ?_⟩
          · rw [← hw'.depth]
            rfl
          · exact List.nodup_cons.2 ⟨fun hin => hnot (hw'.seen _ hin), hw'.nodup⟩
          · intro id hid
            rcases List.mem_cons.1 hid with rfl | hid
            · exact mem_seenUpTo_of_mem_layer hx'
            · exact seenUpTo_mono (Nat.le_succ k) (hw'.seen id hid)
        · rw [seenUpTo_succ, ← hlayer]
          simpa using hnext

/-- A run finds a target at its distance, by a path of that many steps that repeats no id. -/
theorem PathLoop.eq_some_of_distance (hstep : ∀ a b, b ∈ adjacent a ↔ step a b)
    {answer : Option (List EntityId)}
    (hrun : PathLoop adjacent limit target [⟨source, [source], 0⟩] [source] answer) {d : Nat}
    (hlimit : limit.reachedBy d = false) (hdistance : IsDistance step (d + 1) source target) :
    ∃ path, answer = some path ∧ path.length = d + 2 ∧ path.Nodup := by
  have hbelow : ∀ j < d, limit.reachedBy j = false := fun j hj =>
    DepthLimit.not_reachedBy_of_le hj.le hlimit
  have hfar : ∀ j < d, ∀ id ∈ layer adjacent source j, target ∉ adjacent id := by
    intro j hj id hid htarget
    have hwalk := ((mem_layer_iff hstep).1 hid).walk.onward ((hstep _ _).1 htarget)
    have := hdistance.least _ hwalk
    omega
  rcases hrun.exists_layer hstep d hbelow hfar with ⟨queue, hids, hstands, hloop⟩
  have hloop' : PathLoop adjacent limit target (queue ++ []) (seenUpTo adjacent source d) answer := by
    simpa using hloop
  have hnot : target ∉ seenUpTo adjacent source d := by
    have hmem := (mem_layer_iff hstep).2 hdistance
    exact not_mem_seenUpTo_of_mem_layer_succ hmem
  rcases PathLoop.through_depth hlimit queue [] _ _ (fun w hw => (hstands w hw).depth) hloop' with
    ⟨w, hw, _, hanswer⟩ | ⟨hnone, _⟩
  · have hw' := hstands w hw
    refine ⟨_, hanswer, ?_, ?_⟩
    · rw [List.length_reverse, List.length_cons, hw'.trail.length, hw'.depth]
    · rw [List.nodup_reverse]
      exact List.nodup_cons.2 ⟨fun hin => hnot (hw'.seen _ hin), hw'.nodup⟩
  · -- The last id before the target stands in the layer, so the target cannot have been missed.
    rcases hdistance.walk.exists_last with ⟨near, hnear, hlast⟩
    have hnearDistance : IsDistance step d source near := by
      refine ⟨hnear, fun m hm => ?_⟩
      have := hdistance.least _ (hm.onward hlast)
      omega
    have hmem : near ∈ queue.map (·.id) := by
      rw [hids]
      exact (mem_layer_iff hstep).2 hnearDistance
    rcases List.mem_map.1 hmem with ⟨w, hw, rfl⟩
    exact absurd ((hstep _ _).2 hlast) (hnone w hw)

end Complete

/-! ## The answer -/

/-- A path along edges, whatever their direction, that repeats no id and has as few edges as any walk. -/
structure IsShortestPath (edges : List Edge) (source target : EntityId) (path : List EntityId) :
    Prop where
  starts : path.head? = some source
  ends : path.getLast? = some target
  nodup : path.Nodup
  chain : path.IsChain (IsStep .both edges)
  least : ∀ n, Walk (IsStep .both edges) n source target → path.length - 1 ≤ n

section Answer

variable {edges : List Edge} {source target : EntityId} {limit : DepthLimit} {bound : StepBound}
  {answer : Option (List EntityId)}

/-- A run between different ids answers a path exactly if a walk joins them whose last step is taken before the
limit is reached. -/
theorem PathLoop.isSome_iff (hne : source ≠ target)
    (hrun : PathLoop (neighbors .both edges) limit target [⟨source, [source], 0⟩] [source] answer) :
    answer.isSome = true ↔
      ∃ k, limit.reachedBy k = false ∧ Walk (IsStep .both edges) (k + 1) source target := by
  have hstep : ∀ a b, b ∈ neighbors .both edges a ↔ IsStep .both edges a b :=
    fun a b => mem_neighbors_iff
  constructor
  · intro hsome
    rcases Option.isSome_iff_exists.1 hsome with ⟨path, hpath⟩
    rcases hrun.sound hstep (fun w => IsTrail.of_mem_start) hpath with
      ⟨k, hlimit, hlength, hhead, hlast, hchain⟩
    have hwalk := Walk.of_isChain hchain hhead hlast
    rw [hlength] at hwalk
    exact ⟨k, hlimit, hwalk⟩
  · rintro ⟨k, hlimit, hwalk⟩
    rcases IsDistance.exists_of_walk hwalk with ⟨d, hd, hdistance⟩
    cases d with
    | zero =>
        exact absurd hdistance.walk.eq_of_zero hne
    | succ d =>
        have hnear := DepthLimit.not_reachedBy_of_le (Nat.le_of_succ_le_succ hd) hlimit
        rcases hrun.eq_some_of_distance hstep hnear hdistance with ⟨path, hpath, _⟩
        rw [hpath]
        rfl

/-- A run between different ids answers none exactly if no walk within the bound joins them. -/
theorem PathLoop.eq_none_iff (hne : source ≠ target)
    (hrun : PathLoop (neighbors .both edges) bound.limit target [⟨source, [source], 0⟩] [source]
      answer) :
    answer = none ↔ ¬ ∃ n, bound.Allows n ∧ Walk (IsStep .both edges) n source target := by
  rw [← Option.not_isSome_iff_eq_none, hrun.isSome_iff hne, not_iff_not]
  constructor
  · rintro ⟨k, hlimit, hwalk⟩
    exact ⟨k + 1, (DepthLimit.not_reachedBy_limit_iff bound k).1 hlimit, hwalk⟩
  · rintro ⟨n, hallows, hwalk⟩
    cases n with
    | zero =>
        exact absurd hwalk.eq_of_zero hne
    | succ k =>
        exact ⟨k, (DepthLimit.not_reachedBy_limit_iff bound k).2 hallows, hwalk⟩

/-- What a run between different ids answers is a shortest path. -/
theorem PathLoop.isShortestPath (hne : source ≠ target)
    (hrun : PathLoop (neighbors .both edges) limit target [⟨source, [source], 0⟩] [source] answer)
    {path : List EntityId} (hpath : answer = some path) :
    IsShortestPath edges source target path := by
  have hstep : ∀ a b, b ∈ neighbors .both edges a ↔ IsStep .both edges a b :=
    fun a b => mem_neighbors_iff
  rcases hrun.sound hstep (fun w => IsTrail.of_mem_start) hpath with ⟨k, hlimit, hlength, hhead, hlast, hchain⟩
  have hwalk := Walk.of_isChain hchain hhead hlast
  rw [hlength] at hwalk
  rcases IsDistance.exists_of_walk hwalk with ⟨d, hd, hdistance⟩
  cases d with
  | zero =>
      exact absurd hdistance.walk.eq_of_zero hne
  | succ d =>
      -- A shortest walk is taken before the limit too, so the target is found at its distance.
      have hnear := DepthLimit.not_reachedBy_of_le (Nat.le_of_succ_le_succ hd) hlimit
      rcases hrun.eq_some_of_distance hstep hnear hdistance with ⟨found, hfound, hshort, hnodup⟩
      rw [hpath] at hfound
      cases hfound
      refine ⟨hhead, hlast, hnodup, hchain, fun n hn => ?_⟩
      have := hdistance.least n hn
      omega

/-- The rounds that a search for a path is given suffice: it is a run to its end. -/
theorem PathLoop.fromSource (hne : source ≠ target) (limit : DepthLimit) :
    PathLoop (neighbors .both edges) limit target [⟨source, [source], 0⟩] [source]
      (shortestPath edges limit source target) := by
  have hrounds : [Waiting.mk source [source] 0].length + newSteps .both edges [source] ≤
      queueRounds edges := by
    have hall := length_allSteps_le .both edges
    have hnew : newSteps .both edges [source] ≤ (allSteps .both edges).length :=
      List.length_filter_le _ _
    rw [queueRounds, List.length_singleton]
    omega
  rw [shortestPath, if_neg hne, Adjacency.lookup_ofEdges_eq]
  exact PathLoop.pathFrom (queueRounds edges) _ _ hrounds

theorem EntityId.same_toValue (a b : EntityId) :
    Value.same a.toValue b.toValue = decide (a = b) := by
  cases a <;> cases b <;>
    simp [toValue, Value.same, Value.number?, Extended.same, Extended.ofInt, beq_eq_decide]

/-- A request for a path between different ids is a search; its answer begins with the source. -/
theorem Traversal.path_eq (hne : source ≠ target) {argument : Value}
    (hlimit : DepthLimit.ofValue argument = .ok limit) :
    Traversal.path edges source.toValue target.toValue argument =
      .ok ((shortestPath edges limit source target).map (List.map EntityId.toValue)) := by
  have hsame : ¬ Value.same source.toValue target.toValue = true := by
    simpa [EntityId.same_toValue] using hne
  have hunfold : Traversal.path edges source.toValue target.toValue argument =
      .ok ((shortestPath edges limit source target).map fun ids =>
        source.toValue :: (ids.drop 1).map EntityId.toValue) := by
    rw [Traversal.path, if_neg hsame]
    simp only [EntityId.lookupKey_toValue, hlimit, EntityId.ofValue?_toValue]
    rfl
  rw [hunfold]
  cases hanswer : shortestPath edges limit source target with
  | none =>
      rfl
  | some path =>
      have hhead : path.head? = some source :=
        ((PathLoop.fromSource hne limit).isShortestPath hne hanswer).starts
      cases path with
      | nil =>
          cases hhead
      | cons first rest =>
          have hfirst : first = source := by simpa using hhead
          subst hfirst
          rfl

/-- The search for a path ends.  From an id to itself it answers the id alone, whatever the bound; otherwise
it answers none exactly if no walk within the bound joins the two, and else a shortest path. -/
theorem path_isShortest (edges : List Edge) (source target : EntityId) (bound : StepBound) :
    (source ≠ target →
      PathLoop (Adjacency.ofEdges .both edges).lookup bound.limit target
        [⟨source, [source], 0⟩] [source] (shortestPath edges bound.limit source target)) ∧
      ∃ answer : Option (List EntityId),
        Traversal.path edges source.toValue target.toValue bound.toValue =
            .ok (answer.map (List.map EntityId.toValue)) ∧
          (source = target → answer = some [source]) ∧
          (source ≠ target →
            (answer = none ↔
              ¬ ∃ n, bound.Allows n ∧ Walk (IsStep .both edges) n source target)) ∧
          ∀ path, answer = some path → IsShortestPath edges source target path := by
  have hrun : source ≠ target →
      PathLoop (neighbors .both edges) bound.limit target [⟨source, [source], 0⟩] [source]
        (shortestPath edges bound.limit source target) :=
    fun hne => PathLoop.fromSource hne bound.limit
  rw [Adjacency.lookup_ofEdges_eq]
  refine ⟨hrun, shortestPath edges bound.limit source target, ?_, ?_, ?_, ?_⟩
  · by_cases hst : source = target
    · subst hst
      have hsame : Value.same source.toValue source.toValue = true := by
        simp [EntityId.same_toValue]
      rw [Traversal.path, if_pos hsame, shortestPath, if_pos rfl]
      rfl
    · exact Traversal.path_eq hst bound.ofValue_toValue
  · intro hst
    rw [shortestPath, if_pos hst]
  · intro hne
    exact (hrun hne).eq_none_iff hne
  · intro path hpath
    by_cases hst : source = target
    · subst hst
      rw [shortestPath, if_pos rfl] at hpath
      cases hpath
      exact ⟨rfl, rfl, by simp, by simp, fun n _ => Nat.zero_le n⟩
    · exact (hrun hst).isShortestPath hst hpath

end Answer
end GraphQuery
