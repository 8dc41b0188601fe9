import GraphQuery.Filter.Shelf
import GraphQuery.Proofs.Filter.Criteria
import GraphQuery.Proofs.Graph.Degree
import Mathlib.Data.List.Induction

/-!
# Active filter sets — what they leave of a graph

Active sets filter one after the other, each what the ones before it left.  `Filter.composed` says at once
what is left in the end:

- the nodes that meet the node criteria of every configuration, degrees counted on the whole graph;
- the edges that meet the edge criteria of every configuration and have, for each configuration that asks
  for them, both ends among the nodes that were left when its turn came.

One more configuration filters what is composed so far (`Filter.composed_concat`); from this follows what a
whole run gives, and which failures end it (`FilterShelf.applyAll_isComposition`).
-/

namespace GraphQuery
namespace Filter

open Outcome

/-! ## What a configuration asks for -/

/-- The criteria that a configuration gives under a name; none where it gives none. -/
def criteriaOf (config : Fields) (name : String) : Fields :=
  ((Fields.getD config name).mapping?).getD []

/-- What the node criteria of a configuration say of a node, degrees counted on an edge list. -/
def nodeAnswer (edges : List Edge) (config : Fields) (n : Node) : Outcome Bool :=
  meetsEach (nodeField (degreeIn edges n.id) n) (criteriaOf config "nodes")

/-- What the edge criteria of a configuration say of an edge. -/
def edgeAnswer (config : Fields) (e : Edge) : Outcome Bool :=
  meetsEach (edgeField e) (criteriaOf config "edges")

/-- A configuration gives under a name nothing, or an object in which no custom criterion is a test. -/
def HasObject (config : Fields) (name : String) : Prop :=
  Fields.getD config name = .null ∨
    ∃ entries, Fields.getD config name = .mapping entries ∧
      ∀ entry ∈ entries, IsPlain entry.1 entry.2

/-- Criteria for nodes and for edges are objects, or absent. -/
structure IsObjectShaped (config : Fields) : Prop where
  nodes : HasObject config "nodes"
  edges : HasObject config "edges"

theorem HasObject.isPlain {config : Fields} {name : String} (h : HasObject config name) :
    ∀ entry ∈ criteriaOf config name, IsPlain entry.1 entry.2 := by
  rcases h with hnull | ⟨entries, hentries, hplain⟩
  · rw [criteriaOf, hnull]
    intro entry hentry
    exact absurd hentry List.not_mem_nil
  · rw [criteriaOf, hentries]
    exact hplain

/-- An object without custom criteria has no test among them. -/
theorem HasObject.of_ne_custom {config : Fields} {name : String} {entries : List (String × Value)}
    (h : Fields.getD config name = .mapping entries) (hnames : ∀ entry ∈ entries, entry.1 ≠ "custom") :
    HasObject config name := by
  refine Or.inr ⟨entries, h, ?_⟩
  intro entry hentry hcustom
  exact absurd hcustom (hnames entry hentry)

/-- Whether criteria are looked at or passed over, the items that meet them are kept. -/
theorem HasObject.keep_eq {α β : Type} {config : Fields} {name : String} (h : HasObject config name)
    (field : α → String → Value → Outcome Bool) (xs : List α) (onward : List α → Outcome β) :
    (if (Fields.getD config name).isTruthy then
        keep (criteriaCheck field (Fields.getD config name)) xs >>= onward
      else Except.ok xs >>= onward) =
      keep (fun x => meetsEach (field x) (criteriaOf config name)) xs >>= onward := by
  -- Criteria that are passed over have no entries, and are met by everything.
  have hall : keep (fun _ : α => .ok true) xs = .ok xs := by
    have hanswers : ∀ x ∈ xs, ∀ e : Failure, (.ok true : Outcome Bool) ≠ .error e := by
      intro x _ e h
      cases h
    rw [keep_eq_ok hanswers]
    simp
  rcases h with hnull | ⟨entries, hentries, -⟩
  · rw [criteriaOf, hnull]
    exact (congrArg (· >>= onward) hall).symm
  · rw [criteriaOf, hentries]
    cases entries with
    | nil =>
        exact (congrArg (· >>= onward) hall).symm
    | cons entry rest =>
        rfl

/-- Edges filtered by their own criteria, and by their ends where a configuration asks for that. -/
def keptEdges (config : Fields) (nodes : List Node) (edges : List Edge) : List Edge :=
  if cascades config then edgesAmong (nodes.map (·.id)) edges else edges

theorem keptEdges_sublist (config : Fields) (nodes : List Node) (edges : List Edge) :
    (keptEdges config nodes edges).Sublist edges := by
  rw [keptEdges]
  split
  · exact List.filter_sublist
  · exact List.Sublist.refl edges

theorem applyFields_eq {config : Fields} (h : IsObjectShaped config) (graph part : Snapshot) :
    applyFields graph config part =
      (do
        let nodes ← keep (nodeAnswer graph.edges config) part.nodes
        let edges ← keep (edgeAnswer config) part.edges
        return ⟨nodes, keptEdges config nodes edges⟩) := by
  simp only [applyFields, keepNodes, keepEdges, DegreeTable.lookup_ofEdges]
  rw [h.nodes.keep_eq fun n => nodeField (degreeIn graph.edges n.id) n]
  refine bind_congr ?_
  intro nodes
  rw [h.edges.keep_eq edgeField]
  rfl

/-! ## The composition of configurations -/

section Composition

variable (graph : Snapshot)

/-- The nodes that meet the node criteria of every configuration. -/
def survivors (configs : List Fields) : List Node :=
  graph.nodes.filter fun n => configs.all fun config => isMet (nodeAnswer graph.edges config n)

/-- Whether both ends of an edge are among ids. -/
def endsAmong (ids : List EntityId) (e : Edge) : Bool := ids.contains e.source && ids.contains e.target

theorem endsAmong_iff {ids : List EntityId} {e : Edge} :
    endsAmong ids e = true ↔ e.source ∈ ids ∧ e.target ∈ ids := by
  simp [endsAmong]

theorem edgesAmong_eq_filter (ids : List EntityId) (edges : List Edge) :
    edgesAmong ids edges = edges.filter (endsAmong ids) :=
  rfl

/-- Whether both ends of an edge survive every configuration that asks for that, together with the
configurations before it. -/
def endsSurvive (configs : List Fields) (e : Edge) : Bool :=
  configs.zipIdx.all fun turn =>
    !cascades turn.1 || endsAmong ((survivors graph (configs.take (turn.2 + 1))).map (·.id)) e

/-- What configurations leave of a graph together. -/
def composed (configs : List Fields) : Snapshot where
  nodes := survivors graph configs
  edges := graph.edges.filter fun e =>
    configs.all (fun config => isMet (edgeAnswer config e)) && endsSurvive graph configs e

/-- A failure that a configuration meets on what is left of a graph when its turn comes. -/
def RaisesOn (part : Snapshot) (config : Fields) (e : Failure) : Prop :=
  (∃ n ∈ part.nodes, nodeAnswer graph.edges config n = .error e) ∨
    ∃ x ∈ part.edges, edgeAnswer config x = .error e

/-- A failure that one of the configurations meets on what the ones before it have left. -/
def Raises (configs : List Fields) (e : Failure) : Prop :=
  ∃ before config after, configs = before ++ config :: after ∧
    RaisesOn graph (composed graph before) config e

end Composition

variable {graph : Snapshot} {configs : List Fields}

@[simp] theorem composed_nil (graph : Snapshot) : composed graph [] = graph := by
  simp [composed, survivors, endsSurvive]

theorem survivors_concat (graph : Snapshot) (configs : List Fields) (config : Fields) :
    survivors graph (configs ++ [config]) =
      (survivors graph configs).filter fun n => isMet (nodeAnswer graph.edges config n) := by
  simp only [survivors, List.filter_filter, List.all_append, List.all_cons, List.all_nil,
    Bool.and_true]
  refine List.filter_congr ?_
  intro n _
  exact Bool.and_comm _ _

theorem endsSurvive_concat (graph : Snapshot) (configs : List Fields) (config : Fields) (e : Edge) :
    endsSurvive graph (configs ++ [config]) e =
      (endsSurvive graph configs e &&
        (!cascades config ||
          endsAmong ((survivors graph (configs ++ [config])).map (·.id)) e)) := by
  -- The turns before do not see the last configuration.
  have hbefore : ∀ turn ∈ configs.zipIdx,
      (configs ++ [config]).take (turn.2 + 1) = configs.take (turn.2 + 1) := by
    intro turn hturn
    have hlt : turn.2 < configs.length := by
      simpa using List.snd_lt_of_mem_zipIdx hturn
    exact List.take_append_of_le_length hlt
  have hlast : (configs ++ [config]).take (configs.length + 1) = configs ++ [config] :=
    List.take_of_length_le (by simp)
  have hearlier : (configs.zipIdx.all fun turn => !cascades turn.1 ||
      endsAmong ((survivors graph ((configs ++ [config]).take (turn.2 + 1))).map (·.id)) e) =
        endsSurvive graph configs e := by
    rw [endsSurvive, Bool.eq_iff_iff, List.all_eq_true, List.all_eq_true]
    refine forall₂_congr ?_
    intro turn hturn
    rw [hbefore turn hturn]
  rw [endsSurvive, List.zipIdx_append, List.all_append, hearlier]
  simp [hlast]

theorem edges_composed_concat (graph : Snapshot) (configs : List Fields) (config : Fields) :
    (composed graph (configs ++ [config])).edges =
      keptEdges config (survivors graph (configs ++ [config]))
        ((composed graph configs).edges.filter fun e => isMet (edgeAnswer config e)) := by
  by_cases hcascades : cascades config = true
  · rw [keptEdges, if_pos hcascades, edgesAmong_eq_filter]
    simp only [composed, List.filter_filter]
    refine List.filter_congr ?_
    intro e _
    rw [endsSurvive_concat, hcascades, List.all_append, Bool.eq_iff_iff]
    simp only [List.all_cons, List.all_nil, Bool.and_eq_true, Bool.not_true, Bool.false_or]
    tauto
  · rw [keptEdges, if_neg hcascades]
    simp only [composed, List.filter_filter]
    refine List.filter_congr ?_
    intro e _
    rw [endsSurvive_concat, List.all_append, Bool.eq_iff_iff]
    simp only [hcascades, List.all_cons, List.all_nil, Bool.and_eq_true, Bool.not_false,
      Bool.true_or]
    tauto

/-- What a configuration leaves of a part of a graph if its criteria answer on everything in it. -/
def narrowed (graph : Snapshot) (config : Fields) (part : Snapshot) : Snapshot :=
  let nodes := part.nodes.filter fun n => isMet (nodeAnswer graph.edges config n)
  let edges := part.edges.filter fun e => isMet (edgeAnswer config e)
  ⟨nodes, keptEdges config nodes edges⟩

/-- One more configuration narrows what is composed so far. -/
theorem composed_concat (graph : Snapshot) (configs : List Fields) (config : Fields) :
    composed graph (configs ++ [config]) = narrowed graph config (composed graph configs) := by
  have hnodes := survivors_concat graph configs config
  have hedges := edges_composed_concat graph configs config
  rw [hnodes] at hedges
  calc composed graph (configs ++ [config])
      = ⟨survivors graph (configs ++ [config]), (composed graph (configs ++ [config])).edges⟩ := rfl
    _ = narrowed graph config (composed graph configs) := by
      rw [hnodes, hedges]
      rfl

/-! ## One turn -/

/-- The turn of a configuration gives what it leaves, unless one of its criteria fails on something. -/
theorem applyFields_eq_ok_iff {config : Fields} (h : IsObjectShaped config) {part left : Snapshot} :
    applyFields graph config part = .ok left ↔
      left = narrowed graph config part ∧ ∀ e, ¬ RaisesOn graph part config e := by
  rw [applyFields_eq h]
  constructor
  · -- Nodes come first, so edges are looked at only if no node has failed.
    intro hleft
    cases hnodes : keep (nodeAnswer graph.edges config) part.nodes with
    | error e =>
        rw [hnodes] at hleft
        cases hleft
    | ok nodes =>
        cases hedges : keep (edgeAnswer config) part.edges with
        | error e =>
            rw [hnodes, hedges] at hleft
            cases hleft
        | ok edges =>
            rw [hnodes, hedges] at hleft
            cases hleft
            rcases keep_eq_ok_iff.1 hnodes with ⟨rfl, hnodeAnswers⟩
            rcases keep_eq_ok_iff.1 hedges with ⟨rfl, hedgeAnswers⟩
            refine ⟨rfl, ?_⟩
            rintro e (⟨n, hn, hraises⟩ | ⟨x, hx, hraises⟩)
            · exact hnodeAnswers n hn e hraises
            · exact hedgeAnswers x hx e hraises
  · rintro ⟨rfl, hanswers⟩
    have hnodes : ∀ n ∈ part.nodes, ∀ e, nodeAnswer graph.edges config n ≠ .error e := by
      intro n hn e hraises
      exact hanswers e (Or.inl ⟨n, hn, hraises⟩)
    have hedges : ∀ x ∈ part.edges, ∀ e, edgeAnswer config x ≠ .error e := by
      intro x hx e hraises
      exact hanswers e (Or.inr ⟨x, hx, hraises⟩)
    rw [keep_eq_ok hnodes, keep_eq_ok hedges]
    rfl

/-- What ends the turn of a configuration is a failure of one of its criteria. -/
theorem raisesOn_of_applyFields_eq_error {config : Fields} (h : IsObjectShaped config) {part : Snapshot}
    {e : Failure} (he : applyFields graph config part = .error e) : RaisesOn graph part config e := by
  rw [applyFields_eq h] at he
  cases hnodes : keep (nodeAnswer graph.edges config) part.nodes with
  | error e' =>
      rw [hnodes] at he
      cases he
      exact Or.inl (exists_of_keep_eq_error hnodes)
  | ok nodes =>
      cases hedges : keep (edgeAnswer config) part.edges with
      | error e' =>
          rw [hnodes, hedges] at he
          cases he
          exact Or.inr (exists_of_keep_eq_error hedges)
      | ok edges =>
          rw [hnodes, hedges] at he
          cases he

/-- Criteria without tests fail only where a pattern cannot be searched for or a text is missing. -/
theorem isLimit_of_nodeAnswer {config : Fields} (h : HasObject config "nodes") {n : Node} {e : Failure}
    (he : nodeAnswer graph.edges config n = .error e) : e.IsLimit := by
  obtain ⟨entry, -, hlimit⟩ := isLimitOf_of_meetsEach
    (fun entry hentry => isGuarded_nodeField _ _ (h.isPlain entry hentry)) he
  exact hlimit.isLimit

theorem isLimit_of_edgeAnswer {config : Fields} (h : HasObject config "edges") {x : Edge} {e : Failure}
    (he : edgeAnswer config x = .error e) : e.IsLimit := by
  obtain ⟨entry, -, hlimit⟩ := isLimitOf_of_meetsEach
    (fun entry hentry => isGuarded_edgeField _ (h.isPlain entry hentry)) he
  exact hlimit.isLimit

theorem RaisesOn.isLimit {config : Fields} (h : IsObjectShaped config) {part : Snapshot}
    {e : Failure} (he : RaisesOn graph part config e) : e.IsLimit := by
  rcases he with ⟨n, -, hraises⟩ | ⟨x, -, hraises⟩
  · exact isLimit_of_nodeAnswer h.nodes hraises
  · exact isLimit_of_edgeAnswer h.edges hraises

/-- What fails on a part fails on more. -/
theorem RaisesOn.mono {config : Fields} {part whole : Snapshot} (hnodes : part.nodes ⊆ whole.nodes)
    (hedges : part.edges ⊆ whole.edges) {e : Failure} (h : RaisesOn graph part config e) :
    RaisesOn graph whole config e := by
  rcases h with ⟨n, hn, hraises⟩ | ⟨x, hx, hraises⟩
  · exact Or.inl ⟨n, hnodes hn, hraises⟩
  · exact Or.inr ⟨x, hedges hx, hraises⟩

/-! ## A whole run -/

/-- Applies configurations one after the other, each to what the ones before it left. -/
def run (graph : Snapshot) (configs : List Fields) : Outcome Snapshot :=
  configs.foldlM (fun part config => applyFields graph config part) graph

theorem run_concat (graph : Snapshot) (configs : List Fields) (config : Fields) :
    run graph (configs ++ [config]) = run graph configs >>= applyFields graph config := by
  simp [run, List.foldlM_append]

/-- Nothing fails over all configurations if nothing fails before the last one, nor then. -/
theorem forall_not_raises_concat {config : Fields} :
    (∀ e, ¬ Raises graph (configs ++ [config]) e) ↔
      (∀ e, ¬ Raises graph configs e) ∧ ∀ e, ¬ RaisesOn graph (composed graph configs) config e := by
  constructor
  · intro h
    refine ⟨?_, ?_⟩
    · rintro e ⟨before, c, after, rfl, hraises⟩
      exact h e ⟨before, c, after ++ [config], by simp, hraises⟩
    · intro e hraises
      exact h e ⟨configs, config, [], rfl, hraises⟩
  · rintro ⟨hbefore, hlast⟩ e ⟨before, c, after, hconfigs, hraises⟩
    -- What fails is the last configuration, or it stands before the last one.
    rcases List.eq_nil_or_concat after with rfl | ⟨after', last, rfl⟩
    · rcases List.append_inj' hconfigs rfl with ⟨rfl, hc⟩
      cases hc
      exact hlast e hraises
    · have hsplit : configs ++ [config] = (before ++ c :: after') ++ [last] := by
        simpa using hconfigs
      rcases List.append_inj' hsplit rfl with ⟨rfl, -⟩
      exact hbefore e ⟨before, c, after', rfl, hraises⟩

/-- What a run over configurations comes to: their composition if none of them fails, and else the failure of
one of them, which a pattern has caused. -/
structure IsComposition (graph : Snapshot) (configs : List Fields) (outcome : Outcome Snapshot) :
    Prop where
  ok_iff : ∀ left, outcome = .ok left ↔
    left = composed graph configs ∧ ∀ e, ¬ Raises graph configs e
  error : ∀ e, outcome = .error e → Raises graph configs e ∧ e.IsLimit

/-- Without configurations everything is left, and nothing can fail. -/
theorem isComposition_nil (graph : Snapshot) : IsComposition graph [] (.ok graph) := by
  refine ⟨?_, ?_⟩
  · intro left
    rw [composed_nil]
    constructor
    · intro hleft
      cases hleft
      refine ⟨rfl, ?_⟩
      rintro e ⟨before, config, after, hconfigs, -⟩
      simp at hconfigs
    · rintro ⟨rfl, -⟩
      rfl
  · intro e he
    cases he

/-- One more turn takes a composition to the next one, or a failure to the same failure. -/
theorem IsComposition.concat {outcome : Outcome Snapshot} (h : IsComposition graph configs outcome)
    {config : Fields} (hconfig : IsObjectShaped config) :
    IsComposition graph (configs ++ [config]) (outcome >>= applyFields graph config) := by
  cases outcome with
  | error e =>
      rcases h.error e rfl with ⟨⟨before, c, after, rfl, hraises⟩, hlimit⟩
      -- A run that has ended stays ended, and for the same reason.
      have hfails : Raises graph ((before ++ c :: after) ++ [config]) e :=
        ⟨before, c, after ++ [config], by simp, hraises⟩
      refine ⟨?_, ?_⟩
      · intro left
        constructor
        · intro hleft
          cases hleft
        · rintro ⟨-, hnone⟩
          exact absurd hfails (hnone e)
      · intro e' he'
        cases he'
        exact ⟨hfails, hlimit⟩
  | ok part =>
      rcases (h.ok_iff part).1 rfl with ⟨rfl, hnone⟩
      refine ⟨?_, ?_⟩
      · intro left
        have hturn : applyFields graph config (composed graph configs) = .ok left ↔ _ :=
          applyFields_eq_ok_iff hconfig
        rw [composed_concat, forall_not_raises_concat]
        exact hturn.trans (and_congr_right fun _ => (and_iff_right hnone).symm)
      · intro e he
        have hraises : RaisesOn graph (composed graph configs) config e :=
          raisesOn_of_applyFields_eq_error hconfig he
        exact ⟨⟨configs, config, [], rfl, hraises⟩, hraises.isLimit hconfig⟩

theorem run_isComposition (graph : Snapshot) {configs : List Fields}
    (h : ∀ config ∈ configs, IsObjectShaped config) :
    IsComposition graph configs (run graph configs) := by
  -- On the last configuration: what it filters is the composition of those before it.
  induction configs using List.reverseRecOn with
  | nil =>
      exact isComposition_nil graph
  | append_singleton configs config ih =>
      rw [run_concat]
      refine IsComposition.concat (ih ?_) (h config (by simp))
      intro c hc
      exact h c (List.mem_append_left _ hc)

end Filter

/-! ## Filter sets -/

/-- A set's configuration is an object in which criteria are objects or absent. -/
def FilterSetRecord.IsObjectShaped (r : FilterSetRecord) : Prop :=
  ∃ config, r.config = .mapping config ∧ Filter.IsObjectShaped config

namespace FilterSets

/-- The configurations of the active sets, in order of creation. -/
def activeConfigs (sets : FilterSets) : List Fields :=
  sets.active.map fun entry => (entry.2.config.mapping?).getD []

theorem activeConfigs_append (sets others : FilterSets) :
    activeConfigs (sets ++ others) = sets.activeConfigs ++ activeConfigs others := by
  rw [activeConfigs, active, List.filter_append, List.map_append]
  rfl

theorem active_cons_of_active {r : FilterSetRecord} (h : r.active = true) (name : EntryName) (rest : FilterSets) :
    active ((name, r) :: rest) = (name, r) :: active rest :=
  List.filter_cons_of_pos h

theorem active_cons_of_not_active {r : FilterSetRecord} (h : r.active = false) (name : EntryName)
    (rest : FilterSets) : active ((name, r) :: rest) = active rest :=
  List.filter_cons_of_neg (by simp [h])

theorem activeConfigs_cons_of_active {r : FilterSetRecord} (h : r.active = true) (name : EntryName)
    (rest : FilterSets) :
    activeConfigs ((name, r) :: rest) = (r.config.mapping?).getD [] :: activeConfigs rest := by
  rw [activeConfigs, active_cons_of_active h]
  rfl

theorem activeConfigs_cons_of_not_active {r : FilterSetRecord} (h : r.active = false) (name : EntryName)
    (rest : FilterSets) : activeConfigs ((name, r) :: rest) = activeConfigs rest := by
  rw [activeConfigs, active_cons_of_not_active h]
  rfl

theorem apply_mapping (graph : Snapshot) (config : Fields) (part : Snapshot) :
    Filter.apply graph (.mapping config) part = Filter.applyFields graph config part := by
  cases config with
  | nil =>
      rfl
  | cons entry rest =>
      rfl

/-- Sets that are not active have no influence. -/
theorem applyFrom_eq_foldlM (graph : Snapshot) {sets : FilterSets}
    (h : ∀ entry ∈ sets.active, entry.2.IsObjectShaped) (part : Snapshot) :
    applyFrom graph sets part =
      sets.activeConfigs.foldlM (fun part config => Filter.applyFields graph config part) part := by
  induction sets generalizing part with
  | nil =>
      rfl
  | cons entry rest ih =>
      rcases entry with ⟨name, r⟩
      cases hactive : r.active with
      | true =>
          rw [active_cons_of_active hactive] at h
          obtain ⟨⟨config, hconfig, -⟩, hrest⟩ := List.forall_mem_cons.1 h
          have hconfig' : r.config = .mapping config := hconfig
          rw [applyFrom, if_pos hactive, activeConfigs_cons_of_active hactive, hconfig', List.foldlM_cons]
          simp only [apply_mapping, ih hrest]
          rfl
      | false =>
          rw [active_cons_of_not_active hactive] at h
          rw [applyFrom, hactive, if_neg Bool.false_ne_true, activeConfigs_cons_of_not_active hactive]
          exact ih h part

end FilterSets

namespace FilterShelf

/-- All active sets together leave the composition of their configurations, unless a pattern that cannot be
searched for or a text that is missing ends the run; either way the sets stay as they are. -/
theorem applyAll_isComposition (shelf : FilterShelf) (graph : Snapshot)
    (h : ∀ entry ∈ shelf.sets.active, entry.2.IsObjectShaped) :
    ∃ outcome, (applyAll (.ok graph)).run.run shelf = (outcome, shelf) ∧
      Filter.IsComposition graph shelf.sets.activeConfigs outcome := by
  refine ⟨shelf.sets.applyAll graph, rfl, ?_⟩
  have hshape : ∀ config ∈ shelf.sets.activeConfigs, Filter.IsObjectShaped config := by
    intro config hconfig
    rcases List.mem_map.1 hconfig with ⟨entry, hentry, rfl⟩
    rcases h entry hentry with ⟨config, hconfig, hobject⟩
    rw [hconfig]
    exact hobject
  rw [FilterSets.applyAll, FilterSets.applyFrom_eq_foldlM graph h]
  exact Filter.run_isComposition graph hshape

/-! ### A single set that looks for a pattern in labels -/

/-- A node with a label and no edges. -/
def loneNode (label : String) : Snapshot := ⟨[⟨.int 1, some label, none, [], [], []⟩], []⟩

/-- A shelf with one active set, which keeps the nodes in whose labels a pattern occurs. -/
def labelShelf (pattern : String) : FilterShelf where
  sets :=
    [(.text "r",
      { config := .mapping
          [("nodes", .mapping
            [("label", .mapping [("operator", .text "regex"), ("value", .text pattern)])])]
        active := true
        created := ⟨⟨2024, 1, 1⟩, 0, 0, 0, 0, some 0⟩
        updated := none
        imported := none })]
  history := .withCapacity 20
  store := none
  storeKey := keyFor "graphsift"

theorem isObjectShaped_labelShelf (pattern : String) :
    ∀ entry ∈ (labelShelf pattern).sets.active, entry.2.IsObjectShaped := by
  intro entry hentry
  have hentry' : entry ∈ (labelShelf pattern).sets := List.mem_of_mem_filter hentry
  rcases List.mem_singleton.1 hentry' with rfl
  refine ⟨_, rfl, Or.inr ⟨_, rfl, ?_⟩, Or.inl rfl⟩
  intro criterion hcriterion
  rcases List.mem_singleton.1 hcriterion with rfl
  intro _ body h
  cases h

theorem applyAll_isComposition_labelShelf :
    (∀ entry ∈ (labelShelf "a").sets.active, entry.2.IsObjectShaped) ∧
      ∃ outcome, (applyAll (.ok (loneNode "a"))).run.run (labelShelf "a") = (outcome, labelShelf "a") ∧
        Filter.IsComposition (loneNode "a") (labelShelf "a").sets.activeConfigs outcome :=
  ⟨isObjectShaped_labelShelf "a",
    applyAll_isComposition (labelShelf "a") (loneNode "a") (isObjectShaped_labelShelf "a")⟩

/-- A repetition count that is too large for a search ends the run, though the configuration is an object of
criteria: no graph is left at all. -/
theorem applyAll_repetition_too_large :
    (∀ entry ∈ (labelShelf "a\x7b4294967295\x7d").sets.active, entry.2.IsObjectShaped) ∧
      ∀ left, ((applyAll (.ok (loneNode "a"))).run.run (labelShelf "a\x7b4294967295\x7d")).1 ≠
        .ok left := by
  refine ⟨isObjectShaped_labelShelf _, ?_⟩
  have hoverflow : (match ((labelShelf "a\x7b4294967295\x7d").sets.applyAll (loneNode "a")) with
      | .error .overflow => true
      | _ => false) = true := by decide +kernel
  intro left hleft
  have hleft' : (labelShelf "a\x7b4294967295\x7d").sets.applyAll (loneNode "a") = .ok left := hleft
  rw [hleft'] at hoverflow
  cases hoverflow

end FilterShelf
end GraphQuery
