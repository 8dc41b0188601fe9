import GraphQuery.Proofs.Filter.ActiveSets
import GraphQuery.Proofs.Outcome

/-!
# Filtering twice — what a configuration leaves is settled

A configuration that filters what it has left itself leaves all of it (`Filter.IsSettled`):

- an item that is kept has met the criteria, and meets them again, for degrees are counted on the whole graph
  and not on what is left;
- an edge that is kept has both ends among the nodes that are kept, if the configuration looks at ends.

Nothing is asked of the configuration, nor of what it filters; a configuration of criteria objects leaves something
unless a pattern cannot be searched for or a text is missing (`Filter.apply_isSettled`).
-/

namespace GraphQuery
namespace Filter

/-! ## Criteria met again -/

section Again

variable {α : Type} {check : α → Outcome Bool}

/-- What is kept is what the check has said yes to. -/
theorem eq_ok_true_of_mem_keep {xs ys : List α} (h : keep check xs = .ok ys) {y : α} (hy : y ∈ ys) :
    check y = .ok true := by
  rcases keep_eq_ok_iff.1 h with ⟨rfl, hanswers⟩
  rcases List.mem_filter.1 hy with ⟨hmem, hmet⟩
  cases hcheck : check y with
  | error e =>
      exact absurd hcheck (hanswers y hmem e)
  | ok b =>
      rw [hcheck] at hmet
      exact congrArg Except.ok hmet

/-- Items that the check says yes to are all kept. -/
theorem keep_eq_self {ys : List α} (h : ∀ y ∈ ys, check y = .ok true) : keep check ys = .ok ys := by
  refine keep_eq_ok_iff.2 ⟨?_, ?_⟩
  · refine (List.filter_eq_self.2 ?_).symm
    intro y hy
    rw [h y hy]
    rfl
  · intro y hy e he
    cases (h y hy).symm.trans he

/-- The items that meet criteria, if there are any criteria to be met. -/
def keepAsked (field : α → String → Value → Outcome Bool) (criteria : Value) (xs : List α) : Outcome (List α) :=
  if criteria.isTruthy then keep (criteriaCheck field criteria) xs else .ok xs

theorem keepAsked_bind {β : Type} (field : α → String → Value → Outcome Bool) (criteria : Value) (xs : List α)
    (onward : List α → Outcome β) :
    keepAsked field criteria xs >>= onward =
      if criteria.isTruthy then keep (criteriaCheck field criteria) xs >>= onward
      else Except.ok xs >>= onward := by
  rw [keepAsked]
  split <;> rfl

/-- Any part of what is kept is kept again. -/
theorem keepAsked_again {field : α → String → Value → Outcome Bool} {criteria : Value} {xs ys : List α}
    (h : keepAsked field criteria xs = .ok ys) {zs : List α} (hzs : zs ⊆ ys) :
    keepAsked field criteria zs = .ok zs := by
  rw [keepAsked] at h ⊢
  split at h
  · next hasked =>
      rw [if_pos hasked]
      exact keep_eq_self fun z hz => eq_ok_true_of_mem_keep h (hzs hz)
  · next hnone =>
      rw [if_neg hnone]

end Again

variable {graph part once : Snapshot} {config : Fields}

theorem applyFields_eq_keepAsked (graph : Snapshot) (config : Fields) (part : Snapshot) :
    applyFields graph config part =
      (do
        let nodes ← keepAsked (fun n => nodeField ((DegreeTable.ofEdges graph.edges).lookup n.id) n)
          (Fields.getD config "nodes") part.nodes
        let edges ← keepAsked edgeField (Fields.getD config "edges") part.edges
        return ⟨nodes, keptEdges config nodes edges⟩) := by
  simp only [keepAsked_bind]
  rfl

/-- Edges that have been looked at for their ends stay. -/
theorem keptEdges_keptEdges (config : Fields) (nodes : List Node) (edges : List Edge) :
    keptEdges config nodes (keptEdges config nodes edges) = keptEdges config nodes edges := by
  rw [keptEdges, keptEdges]
  split
  · rw [edgesAmong, edgesAmong, List.filter_filter]
    simp only [Bool.and_self]
  · rfl

theorem endsAmong_of_mem_keptEdges (hcascades : cascades config = true) {nodes : List Node} {edges : List Edge}
    {e : Edge} (h : e ∈ keptEdges config nodes edges) : endsAmong (nodes.map (·.id)) e = true := by
  rw [keptEdges, if_pos hcascades] at h
  exact (List.mem_filter.1 h).2

/-! ## Settled parts -/

/-- The entries of a configuration; what is no mapping has none. -/
def entriesOf (config : Value) : Fields := (config.mapping?).getD []

/-- Whether a configuration is one that counts as false, or has objects as criteria. -/
def HasObjects (config : Value) : Prop :=
  config.isTruthy = false ∨ ∃ entries, config = .mapping entries ∧ IsObjectShaped entries

/-- A configuration leaves the whole of a part of a graph; if it looks at ends, all edges of the part have both
ends in it. -/
structure IsSettled (graph : Snapshot) (config : Value) (once : Snapshot) : Prop where
  again : Filter.apply graph config once = .ok once
  closed : cascades (entriesOf config) = true →
    ∀ e ∈ once.edges, e.source ∈ once.nodeIds ∧ e.target ∈ once.nodeIds

theorem entriesOf_of_not_isTruthy {config : Value} (h : config.isTruthy = false) : entriesOf config = [] := by
  cases config with
  | mapping entries =>
      cases entries with
      | nil =>
          rfl
      | cons entry rest =>
          cases h
  | table rows =>
      cases rows with
      | nil =>
          rfl
      | cons row rest =>
          cases h
  | _ =>
      rfl

/-- A configuration filters by its entries, unless it is something else than a mapping. -/
theorem apply_eq_applyFields (graph : Snapshot) (config : Value) :
    (∀ part, Filter.apply graph config part = applyFields graph (entriesOf config) part) ∨
      config.isTruthy = true ∧ config.mapping? = none ∧
        ∀ part, Filter.apply graph config part = .error .noSuchPart := by
  by_cases hasked : config.isTruthy = true
  · cases hentries : config.mapping? with
    | none =>
        refine Or.inr ⟨hasked, rfl, fun part => ?_⟩
        rw [Filter.apply, if_pos hasked, hentries]
    | some entries =>
        refine Or.inl fun part => ?_
        rw [Filter.apply, if_pos hasked, entriesOf, hentries]
        rfl
  · refine Or.inl fun part => ?_
    rw [Filter.apply, if_neg hasked, entriesOf_of_not_isTruthy (by simpa using hasked)]

/-- What is left once is left again, and is closed. -/
theorem applyFields_again (h : applyFields graph config part = .ok once) :
    applyFields graph config once = .ok once ∧
      (cascades config = true → ∀ e ∈ once.edges, e.source ∈ once.nodeIds ∧ e.target ∈ once.nodeIds) := by
  rw [applyFields_eq_keepAsked] at h
  obtain ⟨nodes, hnodes, h⟩ := Outcome.exists_of_bind_eq_ok h
  obtain ⟨edges, hedges, h⟩ := Outcome.exists_of_bind_eq_ok h
  cases h
  refine ⟨?_, fun hcascades e he => endsAmong_iff.1 (endsAmong_of_mem_keptEdges hcascades he)⟩
  have hkept : keptEdges config nodes edges ⊆ edges := (keptEdges_sublist config nodes edges).subset
  rw [applyFields_eq_keepAsked, keepAsked_again hnodes (List.Subset.refl nodes)]
  show (keepAsked edgeField _ (keptEdges config nodes edges) >>= fun edges =>
    Except.ok (Snapshot.mk nodes (keptEdges config nodes edges))) = _
  rw [keepAsked_again hedges hkept]
  exact congrArg (fun edges => Except.ok (Snapshot.mk nodes edges)) (keptEdges_keptEdges config nodes edges)

/-- Filtering leaves something that is settled, whatever is filtered, or it fails.  With objects as criteria it
fails only where a pattern cannot be searched for or a text is missing. -/
theorem apply_isSettled (graph part : Snapshot) (config : Value) :
    (∃ once, Filter.apply graph config part = .ok once ∧ IsSettled graph config once) ∨
      ∃ e, Filter.apply graph config part = .error e ∧ (HasObjects config → e.IsLimit) := by
  rcases apply_eq_applyFields graph config with hfields | ⟨hasked, hnone, hfails⟩
  · cases honce : applyFields graph (entriesOf config) part with
    | ok once =>
        obtain ⟨hagain, hclosed⟩ := applyFields_again honce
        exact Or.inl ⟨once, (hfields part).trans honce, (hfields once).trans hagain, hclosed⟩
    | error e =>
        refine Or.inr ⟨e, (hfields part).trans honce, fun hobjects => ?_⟩
        have hshape : IsObjectShaped (entriesOf config) := by
          rcases hobjects with hempty | ⟨entries, rfl, hshape⟩
          · rw [entriesOf_of_not_isTruthy hempty]
            exact ⟨Or.inl rfl, Or.inl rfl⟩
          · exact hshape
        exact (raisesOn_of_applyFields_eq_error hshape honce).isLimit hshape
  · refine Or.inr ⟨_, hfails part, ?_⟩
    rintro (hempty | ⟨entries, rfl, -⟩)
    · rw [hasked] at hempty
      cases hempty
    · cases hnone

/-- A node with an edge to each of two others. -/
def spokes : Snapshot where
  nodes := [⟨.int 1, none, none, [], [], []⟩, ⟨.int 2, none, none, [], [], []⟩, ⟨.int 3, none, none, [], [], []⟩]
  edges := [⟨.text "a", .int 1, .int 2, none, none, [], [], []⟩, ⟨.text "b", .int 1, .int 3, none, none, [], [], []⟩]

-- What is left has no edges, yet the two connections of the node still count.
example :
    Filter.apply spokes (QuickFilter.byConnections (.int 2)) spokes = .ok ⟨spokes.nodes.take 1, []⟩ ∧
      Filter.apply spokes (QuickFilter.byConnections (.int 2)) ⟨spokes.nodes.take 1, []⟩ =
        .ok ⟨spokes.nodes.take 1, []⟩ :=
  ⟨by cbv, by cbv⟩

end Filter
end GraphQuery
