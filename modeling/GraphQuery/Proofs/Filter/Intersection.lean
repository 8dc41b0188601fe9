import GraphQuery.Proofs.Filter.ActiveSets
import Mathlib.Data.List.Permutation

/-!
# Intersection — active sets together and each of them alone

Active sets filter one after the other.  This is compared with what each of them leaves of the whole graph by
itself, in a graph whose nodes have distinct ids:

- the nodes that are left are those that every set leaves alone;
- the edges that are left are those that every set leaves alone, less those with an end that a set which does
  not cascade has dropped before a set which does (`Filter.mem_edges_composed_iff`).

So the order of the sets shows only through sets that do not cascade and stand before sets that do
(`Filter.composed_perm`).
-/

namespace GraphQuery

/-- No two nodes have the same id, and no two edges have. -/
structure Snapshot.HasDistinctIds (graph : Snapshot) : Prop where
  nodes : graph.nodeIds.Nodup
  edges : graph.edgeIds.Nodup

namespace Filter

open Outcome

variable {graph : Snapshot} {configs : List Fields} {config : Fields} {e : Edge}

/-! ## One configuration -/

theorem mem_edges_narrowed_iff {part : Snapshot} :
    e ∈ (narrowed graph config part).edges ↔
      e ∈ part.edges ∧ isMet (edgeAnswer config e) = true ∧
        (cascades config = true → endsAmong (narrowed graph config part).nodeIds e = true) := by
  by_cases hcascades : cascades config = true
  · simp [narrowed, keptEdges, hcascades, edgesAmong_eq_filter, Snapshot.nodeIds, and_comm]
  · simp [narrowed, keptEdges, hcascades]

/-! ## Several configurations -/

/-- Configurations together leave the nodes that each of them leaves alone. -/
theorem mem_survivors_iff {n : Node} :
    n ∈ survivors graph configs ↔
      n ∈ graph.nodes ∧ ∀ config ∈ configs, n ∈ (narrowed graph config graph).nodes := by
  simp only [survivors, narrowed, List.mem_filter, List.all_eq_true]
  constructor
  · rintro ⟨hn, hmet⟩
    exact ⟨hn, fun config hconfig => ⟨hn, hmet config hconfig⟩⟩
  · rintro ⟨hn, hmet⟩
    exact ⟨hn, fun config hconfig => (hmet config hconfig).2⟩

/-- Where ids are distinct, an id is left by configurations together if each of them leaves it alone. -/
theorem mem_ids_survivors_iff (hids : graph.nodeIds.Nodup) (hconfigs : configs ≠ []) {id : EntityId} :
    id ∈ (survivors graph configs).map (·.id) ↔
      ∀ config ∈ configs, id ∈ (narrowed graph config graph).nodeIds := by
  constructor
  · intro hid config hconfig
    rcases List.mem_map.1 hid with ⟨n, hn, rfl⟩
    exact List.mem_map_of_mem ((mem_survivors_iff.1 hn).2 config hconfig)
  · intro hid
    rcases List.exists_mem_of_ne_nil configs hconfigs with ⟨first, hfirst⟩
    rcases List.mem_map.1 (hid first hfirst) with ⟨n, hn, rfl⟩
    have hgraph : ∀ config, ∀ m ∈ (narrowed graph config graph).nodes, m ∈ graph.nodes := by
      intro config m hm
      exact List.mem_of_mem_filter hm
    refine List.mem_map_of_mem (mem_survivors_iff.2 ⟨hgraph first n hn, ?_⟩)
    intro config hconfig
    -- What another configuration leaves under the id is the same node.
    rcases List.mem_map.1 (hid config hconfig) with ⟨m, hm, hmid⟩
    have hsame : m = n :=
      List.inj_on_of_nodup_map hids (hgraph config m hm) (hgraph first n hn) hmid
    exact hsame ▸ hm

theorem endsAmong_survivors_iff (hids : graph.nodeIds.Nodup) (hconfigs : configs ≠ []) :
    endsAmong ((survivors graph configs).map (·.id)) e = true ↔
      ∀ config ∈ configs, endsAmong (narrowed graph config graph).nodeIds e = true := by
  simp only [endsAmong_iff, mem_ids_survivors_iff hids hconfigs]
  exact ⟨fun h config hconfig => ⟨h.1 config hconfig, h.2 config hconfig⟩,
    fun h => ⟨fun config hconfig => (h config hconfig).1, fun config hconfig => (h config hconfig).2⟩⟩

/-- The first configuration does not cascade and stands before the second one, which does. -/
def StandsBeforeCascade (configs : List Fields) (first second : Fields) : Prop :=
  [first, second].Sublist configs ∧ cascades first = false ∧ cascades second = true

theorem standsBeforeCascade_concat {first second : Fields} :
    StandsBeforeCascade (configs ++ [config]) first second ↔
      StandsBeforeCascade configs first second ∨
        first ∈ configs ∧ cascades first = false ∧ second = config ∧ cascades config = true := by
  have hsublist : [first, second].Sublist (configs ++ [config]) ↔
      [first, second].Sublist configs ∨ first ∈ configs ∧ second = config := by
    constructor
    · intro h
      rcases List.sublist_append_iff.1 h with ⟨front, back, hsplit, hfront, hback⟩
      rcases List.sublist_singleton.1 hback with rfl | rfl
      · rw [List.append_nil] at hsplit
        exact Or.inl (hsplit ▸ hfront)
      · have hpair : [first] ++ [second] = front ++ [config] := hsplit
        rcases List.append_inj' hpair rfl with ⟨rfl, hlast⟩
        cases hlast
        exact Or.inr ⟨List.singleton_sublist.1 hfront, rfl⟩
    · rintro (h | ⟨hfirst, rfl⟩)
      · exact h.trans (List.sublist_append_left _ _)
      · exact (List.singleton_sublist.2 hfirst).append (List.Sublist.refl [second])
  rw [StandsBeforeCascade, StandsBeforeCascade, hsublist]
  constructor
  · rintro ⟨h | ⟨hfirst, rfl⟩, hopen, hcascades⟩
    · exact Or.inl ⟨h, hopen, hcascades⟩
    · exact Or.inr ⟨hfirst, hopen, rfl, hcascades⟩
  · rintro (⟨h, hopen, hcascades⟩ | ⟨hfirst, hopen, rfl, hcascades⟩)
    · exact ⟨Or.inl h, hopen, hcascades⟩
    · exact ⟨Or.inr ⟨hfirst, rfl⟩, hopen, hcascades⟩

/-- Configurations together leave the edges that each of them leaves alone, but for edges with an end that has
been dropped, by a configuration that does not cascade, before one that does. -/
theorem mem_edges_composed_iff (hids : graph.nodeIds.Nodup) :
    e ∈ (composed graph configs).edges ↔
      e ∈ graph.edges ∧ (∀ config ∈ configs, e ∈ (narrowed graph config graph).edges) ∧
        ∀ first second, StandsBeforeCascade configs first second →
          endsAmong (narrowed graph first graph).nodeIds e = true := by
  -- On the last configuration, which sees what those before it have left.
  induction configs using List.reverseRecOn with
  | nil =>
      simp [StandsBeforeCascade]
  | append_singleton configs config ih =>
      rw [composed_concat, mem_edges_narrowed_iff, ih, ← composed_concat]
      have hends : endsAmong (composed graph (configs ++ [config])).nodeIds e = true ↔
          ∀ c ∈ configs ++ [config], endsAmong (narrowed graph c graph).nodeIds e = true :=
        endsAmong_survivors_iff hids (by simp)
      rw [hends]
      constructor
      · rintro ⟨⟨hgraph, halone, hbefore⟩, hmet, hcascade⟩
        refine ⟨hgraph, ?_, ?_⟩
        · intro c hc
          rcases List.mem_append.1 hc with hc | hc
          · exact halone c hc
          · rcases List.mem_singleton.1 hc with rfl
            exact mem_edges_narrowed_iff.2 ⟨hgraph, hmet, fun h => hcascade h _ (by simp)⟩
        · intro first second h
          rcases standsBeforeCascade_concat.1 h with h | ⟨hfirst, -, -, hcascades⟩
          · exact hbefore first second h
          · exact hcascade hcascades first (List.mem_append_left _ hfirst)
      · rintro ⟨hgraph, halone, hbefore⟩
        have hlast := mem_edges_narrowed_iff.1 (halone config (by simp))
        refine ⟨⟨hgraph, fun c hc => halone c (List.mem_append_left _ hc), ?_⟩, hlast.2.1, ?_⟩
        · intro first second h
          exact hbefore first second (standsBeforeCascade_concat.2 (Or.inl h))
        · intro hcascades c hc
          rcases List.mem_append.1 hc with hc | hc
          · -- One that cascades has looked at the ends itself when it was alone.
            by_cases hopen : cascades c = true
            · exact (mem_edges_narrowed_iff.1 (halone c (List.mem_append_left _ hc))).2.2 hopen
            · have hopen' : cascades c = false := by simpa using hopen
              exact hbefore c config
                (standsBeforeCascade_concat.2 (Or.inr ⟨hc, hopen', rfl, hcascades⟩))
          · rcases List.mem_singleton.1 hc with rfl
            exact hlast.2.2 hcascades

/-- The order of configurations does not matter as long as those that do not cascade come last. -/
theorem composed_perm (hids : graph.nodeIds.Nodup) {configs' : List Fields} (h : configs.Perm configs')
    (hlast : ∀ first second, ¬ StandsBeforeCascade configs first second)
    (hlast' : ∀ first second, ¬ StandsBeforeCascade configs' first second) :
    composed graph configs = composed graph configs' := by
  have hnodes : survivors graph configs = survivors graph configs' := by
    refine List.filter_congr ?_
    intro n _
    exact h.all_eq
  -- No set that cascades comes after one that does not, so membership is a matter of each set alone.
  have hmem : ∀ e, e ∈ (composed graph configs).edges ↔ e ∈ (composed graph configs').edges := by
    intro e
    rw [mem_edges_composed_iff hids, mem_edges_composed_iff hids]
    refine and_congr_right fun _ => and_congr ?_ ?_
    · exact forall_congr' fun c => imp_congr_left h.mem_iff
    · exact iff_of_true (fun first second hfirst => absurd hfirst (hlast first second))
        fun first second hfirst => absurd hfirst (hlast' first second)
  have hedges : (composed graph configs).edges = (composed graph configs').edges := by
    refine List.filter_congr ?_
    intro e he
    have hmem' := hmem e
    rw [composed, composed, List.mem_filter, List.mem_filter] at hmem'
    exact Bool.eq_iff_iff.2 (by simpa [he] using hmem')
  exact congrArg₂ Snapshot.mk hnodes hedges

/-- Configurations that each answer on the whole graph answer one after the other. -/
theorem run_eq_ok_composed (hshape : ∀ config ∈ configs, IsObjectShaped config)
    (halone : ∀ config ∈ configs, ∃ left, applyFields graph config graph = .ok left) :
    run graph configs = .ok (composed graph configs) := by
  refine ((run_isComposition graph hshape).ok_iff _).2 ⟨rfl, ?_⟩
  rintro f ⟨before, c, after, rfl, hraises⟩
  have hc : c ∈ before ++ c :: after := by simp
  rcases halone c hc with ⟨left, hleft⟩
  refine ((applyFields_eq_ok_iff (hshape c hc)).1 hleft).2 f (hraises.mono ?_ ?_)
  · intro n hn
    exact List.mem_of_mem_filter hn
  · intro x hx
    exact List.mem_of_mem_filter hx

end Filter

namespace FilterSets

theorem isObjectShaped_of_mem_activeConfigs {sets : FilterSets}
    (h : ∀ entry ∈ sets.active, entry.2.IsObjectShaped) :
    ∀ config ∈ sets.activeConfigs, Filter.IsObjectShaped config := by
  intro config hconfig
  rcases List.mem_map.1 hconfig with ⟨entry, hentry, rfl⟩
  rcases h entry hentry with ⟨config, hconfig, hobject⟩
  rw [hconfig]
  exact hobject

theorem applyAll_eq_run (graph : Snapshot) {sets : FilterSets}
    (h : ∀ entry ∈ sets.active, entry.2.IsObjectShaped) :
    sets.applyAll graph = Filter.run graph sets.activeConfigs :=
  applyFrom_eq_foldlM graph h graph

end FilterSets

namespace FilterShelf

open GraphQuery.Filter

/-- Where each active set by itself leaves something of the whole graph, all of them together leave the nodes
that each of them leaves, and the edges that each of them leaves but for those with an end that a set which
does not cascade has dropped before a set which does. -/
theorem applyAll_isIntersection (shelf : FilterShelf) (graph : Snapshot) (alone : Fields → Snapshot)
    (hids : graph.HasDistinctIds) (hshape : ∀ entry ∈ shelf.sets.active, entry.2.IsObjectShaped)
    (halone : ∀ config ∈ shelf.sets.activeConfigs,
      Filter.apply graph (.mapping config) graph = .ok (alone config)) :
    ∃ left, (applyAll (.ok graph)).run.run shelf = (.ok left, shelf) ∧
      left.nodes.Sublist graph.nodes ∧ left.edges.Sublist graph.edges ∧
      (∀ n, n ∈ left.nodes ↔
        n ∈ graph.nodes ∧ ∀ config ∈ shelf.sets.activeConfigs, n ∈ (alone config).nodes) ∧
      ∀ e, e ∈ left.edges ↔
        e ∈ graph.edges ∧ (∀ config ∈ shelf.sets.activeConfigs, e ∈ (alone config).edges) ∧
          ∀ first second, StandsBeforeCascade shelf.sets.activeConfigs first second →
            e.source ∈ (alone first).nodeIds ∧ e.target ∈ (alone first).nodeIds := by
  have hconfigs := FilterSets.isObjectShaped_of_mem_activeConfigs hshape
  have hfields : ∀ config ∈ shelf.sets.activeConfigs,
      applyFields graph config graph = .ok (alone config) := by
    intro config hconfig
    rw [← FilterSets.apply_mapping]
    exact halone config hconfig
  have heq : ∀ config ∈ shelf.sets.activeConfigs, narrowed graph config graph = alone config := by
    intro config hconfig
    exact ((applyFields_eq_ok_iff (hconfigs config hconfig)).1 (hfields config hconfig)).1.symm
  -- Each set returns alone, so nothing that it does after others can fail.
  have hrun : shelf.sets.applyAll graph = .ok (composed graph shelf.sets.activeConfigs) := by
    rw [FilterSets.applyAll_eq_run graph hshape]
    exact run_eq_ok_composed hconfigs fun config hconfig => ⟨_, hfields config hconfig⟩
  refine ⟨composed graph shelf.sets.activeConfigs, ?_, List.filter_sublist, List.filter_sublist, ?_, ?_⟩
  · exact congrArg (·, shelf) hrun
  · intro n
    refine mem_survivors_iff.trans (and_congr_right fun _ => forall₂_congr ?_)
    intro config hconfig
    rw [heq config hconfig]
  · intro e
    refine (mem_edges_composed_iff hids.nodes).trans (and_congr_right fun _ => and_congr ?_ ?_)
    · refine forall₂_congr ?_
      intro config hconfig
      rw [heq config hconfig]
    · refine forall₂_congr fun first second => forall_congr' fun h => ?_
      -- A set that stands before another one is active, so it returns what it returns alone.
      have hfirst : first ∈ shelf.sets.activeConfigs := h.1.subset List.mem_cons_self
      rw [heq first hfirst, endsAmong_iff]

/-! ### A set that does not cascade before one that does -/

/-- Two nodes, of which only the first has a type, and an edge from the first to the second. -/
def typedPair : Snapshot where
  nodes := [⟨.int 1, none, some "t", [], [], []⟩, ⟨.int 2, none, none, [], [], []⟩]
  edges := [⟨.text "e", .int 1, .int 2, none, none, [], [], []⟩]

/-- Keeps the nodes of a type and every edge. -/
def typeOnly : Fields :=
  [("nodes", .mapping [("type", .text "t")]), ("cascade_edges", .bool false)]

/-- A shelf with active sets of the given configurations. -/
def shelfOf (configs : List (String × Fields)) : FilterShelf where
  sets := configs.map fun entry =>
    (.text entry.1, ⟨.mapping entry.2, true, ⟨⟨2024, 1, 1⟩, 0, 0, 0, 0, some 0⟩, none, none⟩)
  history := .withCapacity 20
  store := none
  storeKey := keyFor "graphsift"

/-- What each of the two sets leaves alone: the second one leaves everything. -/
def pairAlone (config : Fields) : Snapshot :=
  if config.isEmpty then typedPair else ⟨typedPair.nodes.take 1, typedPair.edges⟩

theorem hasDistinctIds_typedPair : typedPair.HasDistinctIds :=
  ⟨by decide, by decide⟩

theorem isObjectShaped_shelfOf_typeOnly {configs : List (String × Fields)}
    (h : ∀ entry ∈ configs, entry.2 = typeOnly ∨ entry.2 = []) :
    ∀ entry ∈ (shelfOf configs).sets.active, entry.2.IsObjectShaped := by
  intro entry hentry
  rcases List.mem_map.1 (List.mem_of_mem_filter hentry) with ⟨given, hgiven, rfl⟩
  refine ⟨given.2, rfl, ?_⟩
  rcases h given hgiven with htype | hempty
  · rw [htype]
    refine ⟨Or.inr ⟨_, rfl, ?_⟩, Or.inl rfl⟩
    intro criterion hcriterion
    rcases List.mem_singleton.1 hcriterion with rfl
    intro _ body hbody
    cases hbody
  · rw [hempty]
    exact ⟨Or.inl rfl, Or.inl rfl⟩

theorem applyAll_isIntersection_typedPair :
    (∀ config ∈ (shelfOf [("a", typeOnly), ("b", [])]).sets.activeConfigs,
      Filter.apply typedPair (.mapping config) typedPair = .ok (pairAlone config)) ∧
    ∃ left, (applyAll (.ok typedPair)).run.run (shelfOf [("a", typeOnly), ("b", [])]) =
        (.ok left, shelfOf [("a", typeOnly), ("b", [])]) ∧
      left.nodes.Sublist typedPair.nodes ∧ left.edges.Sublist typedPair.edges ∧
      (∀ n, n ∈ left.nodes ↔ n ∈ typedPair.nodes ∧
        ∀ config ∈ (shelfOf [("a", typeOnly), ("b", [])]).sets.activeConfigs,
          n ∈ (pairAlone config).nodes) ∧
      ∀ e, e ∈ left.edges ↔ e ∈ typedPair.edges ∧
        (∀ config ∈ (shelfOf [("a", typeOnly), ("b", [])]).sets.activeConfigs,
          e ∈ (pairAlone config).edges) ∧
        ∀ first second,
          StandsBeforeCascade (shelfOf [("a", typeOnly), ("b", [])]).sets.activeConfigs first second →
            e.source ∈ (pairAlone first).nodeIds ∧ e.target ∈ (pairAlone first).nodeIds := by
  have halone : ∀ config ∈ (shelfOf [("a", typeOnly), ("b", [])]).sets.activeConfigs,
      Filter.apply typedPair (.mapping config) typedPair = .ok (pairAlone config) := by
    intro config hconfig
    have hmem : config ∈ [typeOnly, []] := hconfig
    simp only [List.mem_cons, List.not_mem_nil, or_false] at hmem
    rcases hmem with rfl | rfl
    · cbv
    · cbv
  have hshape : ∀ entry ∈ (shelfOf [("a", typeOnly), ("b", [])]).sets.active,
      entry.2.IsObjectShaped := isObjectShaped_shelfOf_typeOnly (by simp)
  exact ⟨halone, applyAll_isIntersection _ _ _ hasDistinctIds_typedPair hshape halone⟩

/-- Both sets leave the edge alone, and so do both together in one order; in the other order they drop it,
for the set that cascades no longer sees the second node. -/
theorem applyAll_order_shows :
    typedPair.HasDistinctIds ∧
      (∀ config ∈ [typeOnly, []], ∃ part,
        Filter.apply typedPair (.mapping config) typedPair = .ok part ∧ part.edges = typedPair.edges) ∧
      (∃ left, ((applyAll (.ok typedPair)).run.run (shelfOf [("b", []), ("a", typeOnly)])).1 =
        .ok left ∧ left.edges = typedPair.edges) ∧
      ∃ left, ((applyAll (.ok typedPair)).run.run (shelfOf [("a", typeOnly), ("b", [])])).1 =
        .ok left ∧ left.edges = [] := by
  have hrun : ∀ configs, ((applyAll (.ok typedPair)).run.run (shelfOf configs)).1 =
      (shelfOf configs).sets.applyAll typedPair := fun configs => rfl
  have hopen : (shelfOf [("b", []), ("a", typeOnly)]).sets.applyAll typedPair =
      .ok ⟨typedPair.nodes.take 1, typedPair.edges⟩ := by
    cbv
  have hclosed : (shelfOf [("a", typeOnly), ("b", [])]).sets.applyAll typedPair =
      .ok ⟨typedPair.nodes.take 1, []⟩ := by
    cbv
  refine ⟨hasDistinctIds_typedPair, ?_, ⟨_, (hrun _).trans hopen, rfl⟩, ⟨_, (hrun _).trans hclosed, rfl⟩⟩
  intro config hconfig
  simp only [List.mem_cons, List.not_mem_nil, or_false] at hconfig
  rcases hconfig with rfl | rfl
  · exact ⟨⟨typedPair.nodes.take 1, typedPair.edges⟩, by cbv, rfl⟩
  · exact ⟨typedPair, by cbv, rfl⟩

end FilterShelf
end GraphQuery
