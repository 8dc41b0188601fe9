import GraphQuery.Proofs.Filter.FixedPoint
import GraphQuery.Proofs.Filter.Monotone

/-!
# Cascades — edges that dangle

An edge dangles if one of its ends is the id of no node.  A configuration that looks at ends does not ask whether a
missing node has been filtered out or has never been there, so it drops the edges that dangle even where it asks
nothing of nodes and keeps all of them:

- without criteria for nodes a configuration leaves all nodes, and the edges that meet its criteria, less those that
  dangle if it looks at ends (`Filter.IsUnnarrowed`);
- an active set without criteria drops from a view the edges that dangle in what the sets before it leave
  (`FilterSets.applyAll_empty`), for edges that are left out before a set are left out after it
  (`FilterSets.applyFrom_filterEdges`).

So looking at ends changes nothing exactly if no edge that meets the criteria dangles
(`FilterShelf.cascade_dropsDangling`).
-/

namespace GraphQuery

open FilterShelf

namespace Snapshot

/-- Whether an end of an edge is the id of no node. -/
def IsDangling (graph : Snapshot) (e : Edge) : Prop := e.source ∉ graph.nodeIds ∨ e.target ∉ graph.nodeIds

instance (graph : Snapshot) : DecidablePred graph.IsDangling := fun e =>
  inferInstanceAs (Decidable (e.source ∉ graph.nodeIds ∨ e.target ∉ graph.nodeIds))

/-- A graph without the edges that dangle in another one. -/
def withoutDangling (graph seen : Snapshot) : Snapshot :=
  ⟨graph.nodes, graph.edges.filter fun e => !decide (seen.IsDangling e)⟩

theorem endsAmong_nodeIds (graph : Snapshot) (e : Edge) :
    Filter.endsAmong graph.nodeIds e = !decide (graph.IsDangling e) := by
  rw [Bool.eq_iff_iff, Filter.endsAmong_iff, Bool.not_eq_true', decide_eq_false_iff_not, IsDangling, not_or,
    not_not, not_not]

theorem withoutDangling_eq_self_iff {graph seen : Snapshot} :
    graph.withoutDangling seen = graph ↔ ∀ e ∈ graph.edges, ¬ seen.IsDangling e := by
  have hedges : graph.withoutDangling seen = graph ↔ (graph.withoutDangling seen).edges = graph.edges :=
    ⟨congrArg Snapshot.edges, fun h => congrArg (Snapshot.mk graph.nodes) h⟩
  rw [hedges, withoutDangling, List.filter_eq_self]
  simp

end Snapshot

namespace Filter

variable {graph part left : Snapshot} {config : Fields}

/-! ## Configurations without criteria for nodes -/

/-- What the edge criteria of a configuration say of an edge; every edge meets criteria that count as false. -/
def edgeCheck (config : Fields) (e : Edge) : Outcome Bool :=
  if (Fields.getD config "edges").isTruthy then criteriaCheck edgeField (Fields.getD config "edges") e else .ok true

theorem keepAsked_edges (config : Fields) (edges : List Edge) :
    keepAsked edgeField (Fields.getD config "edges") edges = keep (edgeCheck config) edges := by
  by_cases hasked : (Fields.getD config "edges").isTruthy = true
  · have hcheck : edgeCheck config = criteriaCheck edgeField (Fields.getD config "edges") :=
      funext fun e => if_pos hasked
    rw [keepAsked, if_pos hasked, hcheck]
  · rw [keepAsked, if_neg hasked]
    exact (keep_eq_self fun e _ => if_neg hasked).symm

theorem isLimit_of_edgeCheck (h : HasObject config "edges") {x : Edge} {e : Failure}
    (he : edgeCheck config x = .error e) : e.IsLimit := by
  rw [edgeCheck] at he
  split at he
  · next hasked =>
      refine isLimit_of_edgeAnswer h (x := x) ?_
      rcases h with hnull | ⟨entries, hentries, -⟩
      · rw [hnull] at hasked
        cases hasked
      · rw [edgeAnswer, criteriaOf, hentries]
        rwa [hentries] at he
  · cases he

/-- What a configuration leaves of a graph if it does not narrow the nodes. -/
structure IsUnnarrowed (graph : Snapshot) (config : Fields) (left : Snapshot) : Prop where
  nodes_eq : left.nodes = graph.nodes
  edges_eq : left.edges = graph.edges.filter fun e =>
    Outcome.isMet (edgeCheck config e) && !(cascades config && decide (graph.IsDangling e))
  /-- Looking at ends changes nothing if none of the edges that meet the criteria dangle, and only then. -/
  noop_iff : left.edges = (graph.edges.filter fun e => Outcome.isMet (edgeCheck config e)) ↔
    cascades config = false ∨
      ∀ e ∈ graph.edges, Outcome.isMet (edgeCheck config e) = true → ¬ graph.IsDangling e

theorem keptEdges_nodes (config : Fields) (graph : Snapshot) (edges : List Edge) :
    keptEdges config graph.nodes edges =
      edges.filter fun e => !(cascades config && decide (graph.IsDangling e)) := by
  rw [keptEdges]
  cases cascades config with
  | false =>
      simp
  | true =>
      rw [if_pos rfl, edgesAmong_eq_filter]
      refine List.filter_congr ?_
      intro e _
      rw [Bool.true_and]
      exact graph.endsAmong_nodeIds e

theorem isUnnarrowed_keptEdges (graph : Snapshot) (config : Fields) :
    IsUnnarrowed graph config
      ⟨graph.nodes, keptEdges config graph.nodes (graph.edges.filter fun e => Outcome.isMet (edgeCheck config e))⟩ := by
  refine ⟨rfl, ?_, ?_⟩
  · dsimp only
    rw [keptEdges_nodes, List.filter_filter]
    refine List.filter_congr ?_
    intro e _
    exact Bool.and_comm _ _
  · dsimp only
    rw [keptEdges_nodes, List.filter_eq_self]
    cases cascades config with
    | false =>
        simp
    | true =>
        simp [List.mem_filter]

/-- Without criteria for nodes only the edges are looked at. -/
theorem applyFields_withoutNodes (hnodes : (Fields.getD config "nodes").isTruthy = false) (graph part : Snapshot) :
    applyFields graph config part =
      (do
        let edges ← keep (edgeCheck config) part.edges
        return ⟨part.nodes, keptEdges config part.nodes edges⟩) := by
  have hall : keepAsked (fun n => nodeField ((DegreeTable.ofEdges graph.edges).lookup n.id) n)
      (Fields.getD config "nodes") part.nodes = .ok part.nodes := by
    rw [keepAsked, hnodes, if_neg Bool.false_ne_true]
  rw [applyFields_eq_keepAsked, hall, keepAsked_edges]
  rfl

/-- All nodes are left, unless the criteria fail on an edge.  Criteria that are objects fail only where a pattern
cannot be searched for or a text is missing. -/
theorem applyFields_isUnnarrowed (hnodes : (Fields.getD config "nodes").isTruthy = false) (graph : Snapshot) :
    (∃ left, applyFields graph config graph = .ok left ∧ IsUnnarrowed graph config left) ∨
      ∃ e, applyFields graph config graph = .error e ∧ (∃ x ∈ graph.edges, edgeCheck config x = .error e) ∧
        (HasObject config "edges" → e.IsLimit) := by
  rw [applyFields_withoutNodes hnodes]
  cases hkeep : keep (edgeCheck config) graph.edges with
  | ok edges =>
      rcases (keep_eq_ok_iff.1 hkeep).1 with rfl
      exact Or.inl ⟨_, rfl, isUnnarrowed_keptEdges graph config⟩
  | error e =>
      obtain ⟨x, hx, hfails⟩ := exists_of_keep_eq_error hkeep
      exact Or.inr ⟨e, rfl, ⟨x, hx, hfails⟩, fun hobject => isLimit_of_edgeCheck hobject hfails⟩

/-! ## Fewer edges from the start -/

/-- A check looks at items one by one, so those that are left out before are left out after. -/
theorem keep_filter {α : Type} {check : α → Outcome Bool} {xs ys : List α} (h : keep check xs = .ok ys)
    (p : α → Bool) : keep check (xs.filter p) = .ok (ys.filter p) := by
  rcases keep_eq_ok_iff.1 h with ⟨rfl, hanswers⟩
  refine keep_eq_ok_iff.2 ⟨List.filter_comm _ _ xs, ?_⟩
  intro x hx
  exact hanswers x (List.mem_of_mem_filter hx)

theorem keptEdges_filter (config : Fields) (nodes : List Node) (edges : List Edge) (p : Edge → Bool) :
    keptEdges config nodes (edges.filter p) = (keptEdges config nodes edges).filter p := by
  rw [keptEdges, keptEdges]
  split
  · exact List.filter_comm _ _ edges
  · rfl

theorem applyFields_filterEdges (h : applyFields graph config part = .ok left) (p : Edge → Bool) :
    applyFields graph config ⟨part.nodes, part.edges.filter p⟩ = .ok ⟨left.nodes, left.edges.filter p⟩ := by
  rw [applyFields_eq_keepAsked] at h ⊢
  obtain ⟨nodes, hnodes, h⟩ := Outcome.exists_of_bind_eq_ok h
  obtain ⟨edges, hedges, h⟩ := Outcome.exists_of_bind_eq_ok h
  cases h
  rw [keepAsked_edges] at hedges ⊢
  dsimp only
  rw [hnodes, keep_filter hedges p]
  exact congrArg (fun edges => Except.ok (Snapshot.mk nodes edges)) (keptEdges_filter config nodes edges p)

/-- Edges that are left out before filtering are left out after it, and nothing else is. -/
theorem apply_filterEdges {config : Value} (h : Filter.apply graph config part = .ok left) (p : Edge → Bool) :
    Filter.apply graph config ⟨part.nodes, part.edges.filter p⟩ = .ok ⟨left.nodes, left.edges.filter p⟩ := by
  rcases apply_eq_applyFields graph config with hfields | ⟨-, -, hfails⟩
  · rw [hfields] at h ⊢
    exact applyFields_filterEdges h p
  · rw [hfails] at h
    cases h

/-- A configuration without criteria drops the edges that dangle. -/
theorem applyFields_nil (graph part : Snapshot) : applyFields graph [] part = .ok (part.withoutDangling part) := by
  have happly : applyFields graph [] part = .ok ⟨part.nodes, keptEdges [] part.nodes part.edges⟩ := rfl
  rw [happly, keptEdges_nodes]
  rfl

theorem apply_of_not_isTruthy {config : Value} (h : config.isTruthy = false) (graph : Snapshot) :
    Filter.apply graph config graph = .ok (graph.withoutDangling graph) := by
  rw [Filter.apply, h, if_neg Bool.false_ne_true, applyFields_nil]

end Filter

/-! ## Sets without criteria -/

namespace FilterSets

variable {graph view part left : Snapshot} {sets before after : FilterSets} {r : FilterSetRecord}

theorem applyFrom_append (graph : Snapshot) (before after : FilterSets) (part : Snapshot) :
    applyFrom graph (before ++ after) part = applyFrom graph before part >>= applyFrom graph after := by
  induction before generalizing part with
  | nil =>
      rfl
  | cons entry rest ih =>
      rw [List.cons_append, applyFrom, applyFrom]
      split
      · rw [bind_assoc]
        exact bind_congr fun left => ih left
      · exact ih part

theorem applyFrom_filterEdges (h : applyFrom graph sets part = .ok left) (p : Edge → Bool) :
    applyFrom graph sets ⟨part.nodes, part.edges.filter p⟩ = .ok ⟨left.nodes, left.edges.filter p⟩ := by
  induction sets generalizing part with
  | nil =>
      cases h
      rfl
  | cons entry rest ih =>
      rw [applyFrom] at h ⊢
      split at h
      · next hactive =>
          obtain ⟨next, hnext, h⟩ := Outcome.exists_of_bind_eq_ok h
          rw [if_pos hactive, Filter.apply_filterEdges hnext p]
          exact ih h
      · next hactive =>
          rw [if_neg hactive]
          exact ih h

/-- An active set without criteria drops from a view the edges that dangle in what the sets before it leave. -/
theorem applyAll_empty (hactive : r.active = true) (hconfig : r.config = .mapping []) (name : EntryName)
    (hview : applyAll graph (before ++ after) = .ok view) :
    ∃ seen, applyAll graph before = .ok seen ∧
      applyAll graph (before ++ (name, r) :: after) = .ok (view.withoutDangling seen) := by
  rw [applyAll, applyFrom_append] at hview
  obtain ⟨seen, hseen, hafter⟩ := Outcome.exists_of_bind_eq_ok hview
  refine ⟨seen, hseen, ?_⟩
  have hempty : Filter.apply graph r.config seen = .ok (seen.withoutDangling seen) := by
    rw [hconfig, apply_mapping, Filter.applyFields_nil]
  rw [applyAll, applyFrom_append, hseen]
  show applyFrom graph ((name, r) :: after) seen = _
  rw [applyFrom, if_pos hactive, hempty]
  exact applyFrom_filterEdges hafter _

/-- A set that is not active may as well not be there. -/
theorem applyAll_of_not_active (graph : Snapshot) (before after : FilterSets) (hactive : r.active = false)
    (name : EntryName) : applyAll graph (before ++ (name, r) :: after) = applyAll graph (before ++ after) := by
  rw [applyAll, applyAll, applyFrom_append, applyFrom_append]
  refine bind_congr fun part => ?_
  rw [applyFrom, hactive, if_neg Bool.false_ne_true]

end FilterSets

/-! ## Calls that put in a set without criteria -/

namespace FilterShelf

/-- What comes of a call that puts a set without criteria among the active ones.  Either the sets cannot be written,
and the call changes nothing; or it gives its answer, and the view has lost the edges that dangle in what was seen. -/
def LosesDangling (shelf : FilterShelf) (graph : Snapshot) (sets : FilterSets) (answer view seen : Snapshot)
    (result : Outcome (Option Snapshot) × FilterShelf) : Prop :=
  (∃ e, shelf.written sets = .error e ∧ result = (.error e, shelf)) ∨
    ∃ after, after.sets = sets ∧ result = (.ok (some answer), after) ∧
      after.view graph = .ok (view.withoutDangling seen) ∧
      (after.view graph = .ok view ↔ ∀ e ∈ view.edges, ¬ seen.IsDangling e)

variable {shelf : FilterShelf} {graph view seen answer : Snapshot} {now : Timestamp} {name : String}

theorem losesDangling_of_commit {kind : ActionKind} {sets : FilterSets} {onward : ShelfM (Option Snapshot)}
    (hview : sets.applyAll graph = .ok (view.withoutDangling seen))
    (honward : ∀ after, after.sets = sets → runAt onward after = (.ok (some answer), after)) :
    shelf.LosesDangling graph sets answer view seen
      (runAt (commit sets >>= fun _ => record now (entryFields kind (.text name) (.mapping [])) >>= fun _ => onward)
        shelf) := by
  rcases SetChange.runAt_commit_entry shelf now kind name [] sets onward with
    ⟨e, hrefused, hcall⟩ | ⟨after, hsets, hcall⟩
  · exact Or.inl ⟨e, hrefused, hcall⟩
  · have hafter : after.view graph = .ok (view.withoutDangling seen) := by
      rw [← hview, ← hsets]
      rfl
    refine Or.inr ⟨after, hsets, hcall.trans (honward after hsets), hafter, ?_⟩
    rw [hafter, Except.ok.injEq]
    exact Snapshot.withoutDangling_eq_self_iff

theorem runAt_create (shelf : FilterShelf) (now : Timestamp) (graph : Snapshot) (name : String) (config : Fields) :
    runAt ((SetChange.create (.text name) (.mapping config)).run now (.ok graph)) shelf =
      runAt (commit (shelf.sets.insert (.text name) ⟨.mapping config, true, now, none, none⟩) >>= fun _ =>
        record now (entryFields .created (.text name) (.mapping config)) >>= fun _ =>
          some <$> ofOutcome (Filter.apply graph (.mapping config) graph)) shelf := by
  have hcreate : runAt (create now (.ok graph) (.text name) config) shelf =
      runAt (commit (shelf.sets.insert (.text name) ⟨.mapping config, true, now, none, none⟩) >>= fun _ =>
        record now (entryFields .created (.text name) (.mapping config)) >>= fun _ =>
          ofOutcome (Filter.apply graph (.mapping config) graph)) shelf := rfl
  have hnamed : runAt (SetChange.createNamed now (.ok graph) (.text name) (.mapping config)) shelf =
      runAt (create now (.ok graph) (.text name) config) shelf := by
    rw [SetChange.createNamed, SetChange.toMapping_mapping]
    rfl
  show runAt (some <$> SetChange.createNamed now (.ok graph) (.text name) (.mapping config)) shelf = _
  rw [runAt_map, hnamed, hcreate, ← runAt_map]
  simp only [map_bind]

/-- A new set without criteria sees the view. -/
theorem create_losesDangling (hnew : shelf.sets.has (.text name) = false) (hview : shelf.view graph = .ok view)
    (now : Timestamp) :
    shelf.LosesDangling graph (shelf.sets.insert (.text name) ⟨.mapping [], true, now, none, none⟩)
      (graph.withoutDangling graph) view view
      (runAt ((SetChange.create (.text name) (.mapping [])).run now (.ok graph)) shelf) := by
  have hall : shelf.sets.applyAll graph = .ok view := hview
  have hbefore : FilterSets.applyAll graph (shelf.sets ++ []) = .ok view := (congrArg _ (List.append_nil _)).trans hall
  obtain ⟨seen, hseen, hafter⟩ := FilterSets.applyAll_empty
    (r := ⟨.mapping [], true, now, none, none⟩) rfl rfl (.text name) hbefore
  rcases Except.ok.inj (hseen.symm.trans hall) with rfl
  rw [runAt_create]
  refine losesDangling_of_commit ?_ fun after _ => ?_
  · rw [FilterSets.insert_of_not_has hnew]
    exact hafter
  · rw [runAt_map, Filter.apply_of_not_isTruthy rfl]
    rfl

/-- A known set without criteria that is switched on sees what the sets before it leave. -/
theorem toggle_losesDangling {r : FilterSetRecord} (hknown : shelf.sets.get? (.text name) = some r)
    (hconfig : r.config = .mapping []) (hoff : r.active = false) (hview : shelf.view graph = .ok view)
    {active : Value} (hon : SetChange.switchesOn shelf.sets (.text name) active = true) (now : Timestamp) :
    ∃ (before : FilterSets) (seen : Snapshot), before <+: shelf.sets ∧ before.applyAll graph = .ok seen ∧
      shelf.LosesDangling graph (shelf.sets.insert (.text name) { r with active := true })
        (view.withoutDangling seen) view seen
        (runAt ((SetChange.toggle (.text name) active).run now (.ok graph)) shelf) := by
  obtain ⟨before, key, after, hsets, hinsert⟩ := FilterSets.exists_insert_eq hknown
  have hall : shelf.sets.applyAll graph = .ok view := hview
  rw [hsets, FilterSets.applyAll_of_not_active graph before after hoff key] at hall
  obtain ⟨seen, hseen, hafter⟩ := FilterSets.applyAll_empty
    (r := { r with active := true }) rfl hconfig key hall
  rw [← hinsert] at hafter
  obtain ⟨kind, hrun⟩ := runAt_toggle_known hknown now (.ok graph) active
  rw [hrun, hon]
  have hfields : entryFields kind (.text name) r.config = entryFields kind (.text name) (.mapping []) := by
    rw [hconfig]
  rw [hfields]
  refine ⟨before, seen, ⟨_, hsets.symm⟩, hseen, losesDangling_of_commit hafter fun switched hswitched => ?_⟩
  rw [runAt_map, runAt_applyAll, hswitched]
  show ((FilterSets.applyAll graph _).map some, switched) = _
  rw [hafter]
  rfl

/-- What is left of a graph where nothing is asked of nodes: all of them, but not the edges that dangle. -/
structure DropsDangling (graph : Snapshot) : Prop where
  apply : ∀ config : Fields, (Fields.getD config "nodes").isTruthy = false →
    (∃ left, Filter.apply graph (.mapping config) graph = .ok left ∧ Filter.IsUnnarrowed graph config left) ∨
      ∃ e, Filter.apply graph (.mapping config) graph = .error e ∧
        (∃ x ∈ graph.edges, Filter.edgeCheck config x = .error e) ∧
        (Filter.HasObject config "edges" → e.IsLimit)
  apply_empty : ∀ config : Value, config.isTruthy = false →
    Filter.apply graph config graph = .ok (graph.withoutDangling graph)
  create : ∀ (shelf : FilterShelf) (now : Timestamp) (name : String) (view : Snapshot),
    shelf.sets.has (.text name) = false → shelf.view graph = .ok view →
    shelf.LosesDangling graph (shelf.sets.insert (.text name) ⟨.mapping [], true, now, none, none⟩)
      (graph.withoutDangling graph) view view
      (runAt ((SetChange.create (.text name) (.mapping [])).run now (.ok graph)) shelf)
  switchOn : ∀ (shelf : FilterShelf) (now : Timestamp) (name : String) (r : FilterSetRecord) (active : Value)
    (view : Snapshot), shelf.sets.get? (.text name) = some r → r.config = .mapping [] → r.active = false →
    SetChange.switchesOn shelf.sets (.text name) active = true → shelf.view graph = .ok view →
    ∃ (before : FilterSets) (seen : Snapshot), before <+: shelf.sets ∧ before.applyAll graph = .ok seen ∧
      shelf.LosesDangling graph (shelf.sets.insert (.text name) { r with active := true })
        (view.withoutDangling seen) view seen
        (runAt ((SetChange.toggle (.text name) active).run now (.ok graph)) shelf)

/-- Looking at ends is no matter of what the criteria have dropped: an edge that dangles from the start goes too,
whatever is filtered and whichever set comes last. -/
theorem cascade_dropsDangling (graph : Snapshot) : DropsDangling graph where
  apply config hnodes := by
    rw [FilterSets.apply_mapping]
    exact Filter.applyFields_isUnnarrowed hnodes graph
  apply_empty config hempty := Filter.apply_of_not_isTruthy hempty graph
  create _ now _ _ hnew hview := create_losesDangling hnew hview now
  switchOn _ now _ _ _ _ hknown hconfig hoff hon hview := toggle_losesDangling hknown hconfig hoff hview hon now

/-- A node with an edge to a node that is not there. -/
def looseEnd : Snapshot where
  nodes := [⟨.int 1, none, none, [], [], []⟩]
  edges := [⟨.text "e", .int 1, .int 2, none, none, [], [], []⟩]

/-- Nothing is asked of nodes or edges, and still the edge is dropped, and a view that has it loses it. -/
theorem cascade_dropsDangling_looseEnd :
    Filter.apply looseEnd (.mapping []) looseEnd = .ok ⟨looseEnd.nodes, []⟩ ∧
      (shelfOf []).view looseEnd = .ok looseEnd ∧
      (runAt ((SetChange.create (.text "s") (.mapping [])).run ⟨⟨2024, 1, 1⟩, 0, 0, 0, 0, some 0⟩ (.ok looseEnd))
        (shelfOf [])).2.view looseEnd = .ok ⟨looseEnd.nodes, []⟩ := by
  have hnew : (shelfOf []).sets.has (.text "s") = false := rfl
  have hview : (shelfOf []).view looseEnd = .ok looseEnd := rfl
  refine ⟨by cbv, hview, ?_⟩
  rcases create_losesDangling hnew hview ⟨⟨2024, 1, 1⟩, 0, 0, 0, 0, some 0⟩ with
    ⟨e, hrefused, -⟩ | ⟨after, -, hresult, hlost, -⟩
  · cases hrefused
  · rw [hresult, hlost]
    rfl

end FilterShelf
end GraphQuery
