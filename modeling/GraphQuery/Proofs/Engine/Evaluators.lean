import GraphQuery.Proofs.Engine.AdvancedSearch
import GraphQuery.Proofs.Filter.ActiveSets

/-!
# Three evaluators — searches by type, properties and connections agree

Nodes of listed types with given properties, and perhaps a number of connections within bounds, can be looked
for in three ways: by an advanced search, by a filter configuration, and, without bounds, by criteria.

- `TypedQuery.answer` says what all three ask of a node;
- `TypedQuery.narrow_advanced` — an advanced search asks it step by step, and looks at the edges as well;
- `Engine.evaluators_agree` — the nodes are the same, in the same order, as long as the properties of every
  edge can be compared; where they cannot, only the advanced search fails
  (`Engine.advancedSearch_fails_on_edge`).
-/

namespace GraphQuery

open Outcome

/-- A search for nodes of listed types with given properties, and with a number of connections within bounds if
there are any. -/
structure TypedQuery where
  types : List String
  properties : Fields
  bounds : Option (Int × Int)

namespace TypedQuery

/-- The criteria on types and properties. -/
def criteria (q : TypedQuery) : Fields :=
  [("type", .list (q.types.map .text)), ("properties", .mapping q.properties)]

/-- The criterion on connections, if there are bounds. -/
def connections (q : TypedQuery) : Fields :=
  match q.bounds with
  | some (least, most) =>
    [("connections", QuickFilter.criterion "between" (.list [.int least, .int most]))]
  | none => []

/-- The filter configuration of a search. -/
def config (q : TypedQuery) : Fields :=
  [("nodes", .mapping (q.criteria ++ q.connections))]

/-- The advanced search of the same arguments. -/
def advanced (q : TypedQuery) : AdvancedQuery where
  nodeTypes := .list (q.types.map .text)
  properties := .mapping q.properties
  minConnections := ((q.bounds.map (·.1)).map Value.int).getD .null
  maxConnections := ((q.bounds.map (·.2)).map Value.int).getD .null

def narrowing (q : TypedQuery) : Narrowing where
  nodeTypes := q.types
  properties := q.properties
  least := q.bounds.map (·.1)
  most := q.bounds.map (·.2)

theorem asks_advanced (q : TypedQuery) : q.advanced.Asks "" q.narrowing :=
  ⟨rfl, rfl, rfl, Or.inl rfl, rfl, rfl⟩

/-- Whether the type of a node is listed. -/
def Lists (q : TypedQuery) (n : Node) : Prop :=
  ∃ type ∈ q.types, n.type = some type

instance (q : TypedQuery) : DecidablePred q.Lists :=
  fun _ => inferInstanceAs (Decidable (∃ _ ∈ _, _))

/-- Comparing properties with the ones that are looked for. -/
def compare (q : TypedQuery) (properties : Fields) : Outcome Bool :=
  Fields.meet properties (.mapping q.properties)

/-- Whether the number of a node's connections lies within the bounds. -/
def Fits (q : TypedQuery) (graph : Snapshot) (n : Node) : Prop :=
  q.narrowing.Bounds (degreeIn graph.edges n.id).connections

instance (q : TypedQuery) (graph : Snapshot) : DecidablePred (q.Fits graph) :=
  fun _ => inferInstanceAs (Decidable (q.narrowing.Bounds _))

/-- What is asked of a node: properties are compared only if its type is listed. -/
def answer (q : TypedQuery) (graph : Snapshot) (n : Node) : Outcome Bool :=
  if q.Lists n then (q.compare n.properties).map (· && decide (q.Fits graph n)) else .ok false

variable {q : TypedQuery} {graph : Snapshot} {n : Node}

/-! ## Types, properties, connections -/

theorem strictMember_types (q : TypedQuery) (n : Node) :
    Value.strictMember (q.types.map .text) (textOrNull n.type) = decide (q.Lists n) := by
  have hsame : ∀ t : String, Value.strictSame (textOrNull n.type) (.text t) = decide (n.type = some t) := by
    intro t
    cases n.type with
    | none =>
        simp [textOrNull, Value.strictSame, Value.isBool, Value.same, Value.isNull]
    | some own =>
        simp [textOrNull, Value.strictSame, Value.isBool, Value.same, beq_eq_decide]
  rw [Value.strictMember, Bool.eq_iff_iff, decide_eq_true_iff]
  simp [hsame, Lists]

/-- What comparing properties fails in does not count as not met. -/
theorem closed_compare (q : TypedQuery) (properties : Fields) :
    (q.compare properties).closed = q.compare properties := by
  cases h : q.compare properties with
  | ok met =>
      rfl
  | error e =>
      rw [closed, (Fields.isLimit_of_meetAll h).1]
      rfl

theorem meetsConnections_between (least most : Int) (degree : Degree) :
    Filter.meetsConnections degree (QuickFilter.criterion "between" (.list [.int least, .int most])) =
      .ok (decide (least ≤ degree.connections ∧ (degree.connections : Int) ≤ most)) := by
  have hbetween : Operator.isBetween (.int degree.connections) (.list [.int least, .int most]) =
      .ok (decide (least ≤ degree.connections ∧ (degree.connections : Int) ≤ most)) := by
    rw [Operator.isBetween]
    simp only [AdvancedQuery.atMost_int]
    by_cases hleast : least ≤ degree.connections <;> simp [hleast, Operator.ordered]
  show (Operator.isBetween (.int degree.connections) (.list [.int least, .int most])).closed = _
  rw [hbetween]
  rfl

/-- Bounds are met as they say; without bounds nothing is asked. -/
theorem meetsEach_connections (q : TypedQuery) (graph : Snapshot) (n : Node) :
    Filter.meetsEach (Filter.nodeField (degreeIn graph.edges n.id) n) q.connections =
      .ok (decide (q.Fits graph n)) := by
  cases hbounds : q.bounds with
  | none =>
      have hfits : q.Fits graph n := by
        simp [Fits, Narrowing.Bounds, narrowing, hbounds]
      rw [connections, hbounds, decide_eq_true hfits]
      rfl
  | some bounds =>
      rcases bounds with ⟨least, most⟩
      have hfits : q.Fits graph n ↔ least ≤ (degreeIn graph.edges n.id).connections ∧
          ((degreeIn graph.edges n.id).connections : Int) ≤ most := by
        simp [Fits, Narrowing.Bounds, narrowing, hbounds]
      have hfield : Filter.nodeField (degreeIn graph.edges n.id) n "connections"
          (QuickFilter.criterion "between" (.list [.int least, .int most])) =
            .ok (decide (q.Fits graph n)) := by
        rw [decide_eq_decide.2 hfits]
        exact meetsConnections_between least most _
      rw [connections, hbounds]
      dsimp only
      rw [Filter.meetsEach, hfield]
      cases decide (q.Fits graph n) with
      | false =>
          rfl
      | true =>
          rfl

/-! ## The three ways -/

/-- A filter configuration asks for the type, the properties and the connections in turn. -/
theorem nodeAnswer_config (q : TypedQuery) (graph : Snapshot) (n : Node) :
    Filter.nodeAnswer graph.edges q.config n = q.answer graph n := by
  have htype : Filter.nodeField (degreeIn graph.edges n.id) n "type" (.list (q.types.map .text)) =
      .ok (decide (q.Lists n)) := congrArg Except.ok (q.strictMember_types n)
  have hproperties : Filter.nodeField (degreeIn graph.edges n.id) n "properties" (.mapping q.properties) =
      q.compare n.properties := rfl
  show Filter.meetsEach _ (q.criteria ++ q.connections) = _
  -- A node of another type is dismissed before its properties are looked at.
  rw [criteria, List.cons_append, List.cons_append, List.nil_append, Filter.meetsEach, htype, answer]
  by_cases hlists : q.Lists n
  · rw [if_pos hlists, decide_eq_true hlists]
    show Filter.meetsEach _ (("properties", .mapping q.properties) :: q.connections) = _
    rw [Filter.meetsEach, hproperties, closed_compare]
    cases q.compare n.properties with
    | error e =>
        rfl
    | ok met =>
        cases met with
        | false =>
            rfl
        | true =>
            exact meetsEach_connections q graph n
  · rw [if_neg hlists, decide_eq_false hlists]
    rfl

/-- Criteria ask for the type and the properties. -/
theorem meetsCriteria_criteria (hbounds : q.bounds = none) (graph : Snapshot) (n : Node) :
    (Entity.node n).meetsCriteria (.mapping q.criteria) = q.answer graph n := by
  have hfits : q.Fits graph n := by
    simp [Fits, Narrowing.Bounds, narrowing, hbounds]
  have htype : (Entity.node n).meetsCriterion "type" (.list (q.types.map .text)) =
      .ok (decide (q.Lists n)) := congrArg Except.ok (q.strictMember_types n)
  have hproperties : (Entity.node n).meetsCriterion "properties" (.mapping q.properties) =
      q.compare n.properties := rfl
  rw [Entity.meetsCriteria, criteria, Entity.meetsCriteria.go, htype, answer]
  by_cases hlists : q.Lists n
  · rw [if_pos hlists, decide_eq_true hlists, decide_eq_true hfits]
    show Entity.meetsCriteria.go _ [("properties", .mapping q.properties)] = _
    rw [Entity.meetsCriteria.go, hproperties]
    cases q.compare n.properties with
    | error e =>
        rfl
    | ok met =>
        cases met with
        | false =>
            rfl
        | true =>
            rfl
  · rw [if_neg hlists, decide_eq_false hlists]

/-- Asking everything of an item at once keeps what asking step by step keeps. -/
theorem keep_stepwise {α : Type} {check compared : α → Outcome Bool} {listed fits : α → Bool}
    (hcheck : ∀ x, check x = if listed x then (compared x).map (· && fits x) else .ok false) (xs : List α) :
    Filter.keep check xs = (Filter.keep compared (xs.filter listed)).map (·.filter fits) := by
  induction xs with
  | nil =>
      rfl
  | cons x xs ih =>
      have hx := hcheck x
      -- What is not listed is left out on both sides, without being compared on either.
      by_cases hlisted : listed x = true
      · rw [if_pos hlisted] at hx
        rw [List.filter_cons_of_pos hlisted]
        cases hcompared : compared x with
        | error e =>
            rw [hcompared] at hx
            rw [Filter.keep, Filter.keep, hx, hcompared]
            rfl
        | ok met =>
            rw [hcompared] at hx
            rw [Filter.keep_cons_ok hx, Filter.keep_cons_ok hcompared, ih]
            cases Filter.keep compared (xs.filter listed) with
            | error e =>
                rfl
            | ok kept =>
                cases met <;> cases hfits : fits x <;> simp [Except.map, hfits]
      · rw [if_neg hlisted] at hx
        rw [List.filter_cons_of_neg hlisted, ← ih, Filter.keep_cons_ok hx]
        cases Filter.keep check xs with
        | error e =>
            rfl
        | ok kept =>
            rfl

theorem keep_answer (q : TypedQuery) (graph : Snapshot) (nodes : List Node) :
    Filter.keep (q.answer graph) nodes =
      (Filter.keep (fun n => q.compare n.properties) (nodes.filter fun n => q.Lists n)).map
        fun kept => kept.filter fun n => q.Fits graph n :=
  keep_stepwise (fun n => by simp only [answer, decide_eq_true_eq]) nodes

/-- An advanced search asks the same of nodes, and compares the properties of every edge as well. -/
theorem narrow_advanced (hlisted : q.types ≠ []) (graph : Snapshot) :
    q.advanced.narrow graph graph =
      (Filter.keep (q.answer graph) graph.nodes >>= fun nodes =>
        Filter.keep (fun e => q.compare e.properties) graph.edges >>= fun edges =>
        .ok ⟨nodes, edges⟩) := by
  have hnodes : (graph.nodes.filter fun n => q.narrowing.Lists (.node n)) =
      graph.nodes.filter fun n => q.Lists n := by
    refine List.filter_congr ?_
    intro n _
    refine decide_eq_decide.2 ?_
    exact or_iff_right hlisted
  have hedges : (graph.edges.filter fun e => q.narrowing.Lists (.edge e)) = graph.edges :=
    List.filter_eq_self.2 fun e _ => decide_eq_true (Or.inl rfl)
  rw [AdvancedQuery.narrow_eq q.asks_advanced, hnodes, hedges, keep_answer]
  show (Filter.keep (fun n : Node => q.compare n.properties) _ >>= _) = _
  cases Filter.keep (fun n : Node => q.compare n.properties) (graph.nodes.filter fun n => q.Lists n) with
  | error e =>
      rfl
  | ok nodes =>
      rfl

theorem isObjectShaped_config (q : TypedQuery) : Filter.IsObjectShaped q.config := by
  have hnames : ∀ entry ∈ q.criteria ++ q.connections, entry.1 ≠ "custom" := by
    rw [criteria, connections]
    cases q.bounds <;> simp
  exact ⟨Filter.HasObject.of_ne_custom rfl hnames, Or.inl rfl⟩

/-- A filter configuration for nodes alone looks at no properties of edges. -/
theorem apply_config (q : TypedQuery) (graph : Snapshot) :
    (Filter.apply graph (.mapping q.config) graph).map (·.nodes) =
      Filter.keep (q.answer graph) graph.nodes := by
  have hedges : Filter.keep (Filter.edgeAnswer q.config) graph.edges = .ok graph.edges := by
    rw [Filter.keep_eq_ok fun _ _ _ h => by cases h]
    exact congrArg Except.ok (List.filter_eq_self.2 fun _ _ => rfl)
  rw [FilterSets.apply_mapping, Filter.applyFields_eq q.isObjectShaped_config, hedges]
  have hnodes : Filter.nodeAnswer graph.edges q.config = q.answer graph :=
    funext fun n => q.nodeAnswer_config graph n
  rw [hnodes]
  cases Filter.keep (q.answer graph) graph.nodes with
  | error e =>
      rfl
  | ok nodes =>
      rfl

/-! ## Agreement -/

/-- How the nodes that a filter configuration gives and those that an advanced search gives stand to each
other. -/
structure IsAnswered (q : TypedQuery) (graph : Snapshot) (filtered searched : Outcome (List Node)) : Prop where
  /-- The nodes are those that fulfil everything, in the order of the graph. -/
  mem_iff : ∀ nodes, filtered = .ok nodes → nodes.Sublist graph.nodes ∧
    ∀ n, n ∈ nodes ↔ n ∈ graph.nodes ∧ q.Lists n ∧ n.properties.Meets q.properties ∧ q.Fits graph n
  answers : (∀ n ∈ graph.nodes, q.Lists n → ∀ e, q.compare n.properties ≠ .error e) →
    ∃ nodes, filtered = .ok nodes
  /-- A failure comes from the properties of a listed node, and is the same in both. -/
  fails : ∀ e, filtered = .error e → e.IsLimit ∧ searched = .error e ∧
    ∃ n ∈ graph.nodes, q.Lists n ∧ q.compare n.properties = .error e
  same : (∀ x ∈ graph.edges, ∀ e, q.compare x.properties ≠ .error e) → searched = filtered
  /-- Only the advanced search compares the properties of edges. -/
  fails_on_edge : ∀ x ∈ graph.edges, ∀ e, q.compare x.properties = .error e →
    ∃ f, searched = .error f ∧ f.IsLimit

theorem answer_eq_error {e : Failure} (h : q.answer graph n = .error e) :
    q.Lists n ∧ q.compare n.properties = .error e := by
  rw [answer] at h
  split at h
  · next hlists =>
      cases hcompare : q.compare n.properties with
      | error e' =>
          rw [hcompare] at h
          cases h
          exact ⟨hlists, rfl⟩
      | ok met =>
          rw [hcompare] at h
          cases h
  · cases h

theorem isMet_answer_iff :
    isMet (q.answer graph n) = true ↔ q.Lists n ∧ n.properties.Meets q.properties ∧ q.Fits graph n := by
  rw [← Fields.isMet_meet_iff, answer]
  by_cases hlists : q.Lists n
  · rw [if_pos hlists, compare]
    cases Fields.meet n.properties (.mapping q.properties) with
    | error e =>
        simp [isMet, Except.map]
    | ok met =>
        simp [isMet, Except.map, hlists]
  · simp [isMet, hlists]

/-- The two evaluators by what they ask of nodes and of edges. -/
theorem isAnswered_keep (q : TypedQuery) (graph : Snapshot) :
    q.IsAnswered graph (Filter.keep (q.answer graph) graph.nodes)
      (Filter.keep (q.answer graph) graph.nodes >>= fun nodes =>
        Filter.keep (fun e => q.compare e.properties) graph.edges >>= fun _ => .ok nodes) where
  mem_iff := by
    intro nodes hnodes
    obtain ⟨rfl, -⟩ := Filter.keep_eq_ok_iff.1 hnodes
    refine ⟨List.filter_sublist, ?_⟩
    intro n
    rw [List.mem_filter, isMet_answer_iff]
  answers := by
    intro h
    refine ⟨_, Filter.keep_eq_ok ?_⟩
    intro n hn e he
    exact h n hn (answer_eq_error he).1 e (answer_eq_error he).2
  fails := by
    intro e he
    obtain ⟨n, hn, hfails⟩ := Filter.exists_of_keep_eq_error he
    obtain ⟨hlists, hcompare⟩ := answer_eq_error hfails
    refine ⟨Fields.isLimit_of_meetAll hcompare, ?_, n, hn, hlists, hcompare⟩
    rw [he]
    rfl
  same := by
    intro h
    rw [Filter.keep_eq_ok h]
    cases Filter.keep (q.answer graph) graph.nodes with
    | error e =>
        rfl
    | ok nodes =>
        rfl
  fails_on_edge := by
    intro x hx e he
    -- Nodes come first: if one of them fails already, then in a failure of the same kind.
    cases hnodes : Filter.keep (q.answer graph) graph.nodes with
    | error f =>
        obtain ⟨n, -, hfails⟩ := Filter.exists_of_keep_eq_error hnodes
        exact ⟨f, rfl, Fields.isLimit_of_meetAll (answer_eq_error hfails).2⟩
    | ok nodes =>
        cases hedges : Filter.keep (fun e => q.compare e.properties) graph.edges with
        | error f =>
            obtain ⟨y, -, hfails⟩ := Filter.exists_of_keep_eq_error hedges
            exact ⟨f, rfl, Fields.isLimit_of_meetAll hfails⟩
        | ok edges =>
            exact absurd he (Filter.ne_error_of_keep_eq_ok hedges x hx e)

end TypedQuery

namespace Engine

variable {desk : Desk} {graph : Snapshot}

theorem answer_applyFilters (hgraph : desk.snapshot = .ok graph) (q : TypedQuery) :
    (runAt (applyFilters (.mapping q.config)) desk).1.map (·.nodes) =
      Filter.keep (q.answer graph) graph.nodes := by
  have hread : runAt snapshot desk = (.ok graph, desk) := Prod.ext hgraph rfl
  rw [applyFilters, runAt_bind, hread]
  exact q.apply_config graph

theorem answer_advancedSearch_advanced (hgraph : desk.snapshot = .ok graph) {q : TypedQuery}
    (hlisted : q.types ≠ []) :
    (runAt (advancedSearch q.advanced) desk).1.map (·.nodes) =
      (Filter.keep (q.answer graph) graph.nodes >>= fun nodes =>
        Filter.keep (fun e => q.compare e.properties) graph.edges >>= fun _ => .ok nodes) := by
  have hread : runAt snapshot desk = (.ok graph, desk) := Prod.ext hgraph rfl
  rw [advancedSearch, runAt_bind, hread]
  show (q.advanced.narrow graph graph).map (·.nodes) = _
  rw [TypedQuery.narrow_advanced hlisted]
  cases Filter.keep (q.answer graph) graph.nodes with
  | error e =>
      rfl
  | ok nodes =>
      cases Filter.keep (fun e => q.compare e.properties) graph.edges with
      | error e =>
          rfl
      | ok edges =>
          rfl

theorem answer_searchNodes (hgraph : desk.snapshot = .ok graph) {q : TypedQuery} (hbounds : q.bounds = none) :
    (runAt (searchNodes (.mapping q.criteria)) desk).1 = Filter.keep (q.answer graph) graph.nodes := by
  have hread : runAt snapshot desk = (.ok graph, desk) := Prod.ext hgraph rfl
  rw [searchNodes, runAt_bind, hread]
  show Filter.keep (fun n => (Entity.node n).meetsCriteria (.mapping q.criteria)) graph.nodes = _
  exact congrArg (Filter.keep · graph.nodes)
    (funext fun n => TypedQuery.meetsCriteria_criteria hbounds graph n)

/-- A filter configuration and an advanced search for the same types, properties and bounds give the same nodes
in the same order, unless properties cannot be compared, and without bounds a search by criteria gives what the
configuration gives. -/
theorem evaluators_agree (hgraph : desk.snapshot = .ok graph) (q : TypedQuery) (hlisted : q.types ≠ []) :
    q.IsAnswered graph ((runAt (applyFilters (.mapping q.config)) desk).1.map (·.nodes))
        ((runAt (advancedSearch q.advanced) desk).1.map (·.nodes)) ∧
      (q.bounds = none → (runAt (searchNodes (.mapping q.criteria)) desk).1 =
        (runAt (applyFilters (.mapping q.config)) desk).1.map (·.nodes)) := by
  refine ⟨?_, ?_⟩
  · rw [answer_applyFilters hgraph, answer_advancedSearch_advanced hgraph hlisted]
    exact q.isAnswered_keep graph
  · intro hbounds
    rw [answer_applyFilters hgraph, answer_searchNodes hgraph hbounds]

/-- A node without a type, and an edge from it to itself whose property is compared with a pattern that
cannot be searched for. -/
def loopGraph : Snapshot where
  nodes := [⟨.int 1, none, none, [], [], []⟩]
  edges := [⟨.text "e", .int 1, .int 1, none, none, [("p", .text "a")], [], []⟩]

def loopQuery (pattern : String) (bounds : Option (Int × Int)) : TypedQuery where
  types := ["t"]
  properties := [("p", .mapping [("operator", .text "regex"), ("value", .text pattern)])]
  bounds := bounds

theorem evaluators_agree_loopGraph :
    (deskFor {} loopGraph).snapshot = .ok loopGraph ∧ (loopQuery "a" (some (0, 5))).types ≠ [] ∧
      (loopQuery "a" (some (0, 5))).IsAnswered loopGraph
        ((runAt (applyFilters (.mapping (loopQuery "a" (some (0, 5))).config)) (deskFor {} loopGraph)).1.map
          (·.nodes))
        ((runAt (advancedSearch (loopQuery "a" (some (0, 5))).advanced) (deskFor {} loopGraph)).1.map
          (·.nodes)) :=
  ⟨rfl, by decide, (evaluators_agree rfl (loopQuery "a" (some (0, 5))) (by decide)).1⟩

/-- No node is of the type, so the configuration gives none, with bounds and without; the advanced search
still fails on the edge. -/
theorem advancedSearch_fails_on_edge :
    (deskFor {} loopGraph).snapshot = .ok loopGraph ∧
      ∀ bounds ∈ [none, some (0, 5)],
        (runAt (applyFilters (.mapping (loopQuery "a\x7b4294967295\x7d" bounds).config)) (deskFor {} loopGraph)).1.map
            (·.nodes) = .ok [] ∧
          ∀ found, (runAt (advancedSearch (loopQuery "a\x7b4294967295\x7d" bounds).advanced)
            (deskFor {} loopGraph)).1 ≠ .ok found := by
  have hoverflow : ∀ bounds ∈ [none, some (0, 5)],
      (match (runAt (advancedSearch (loopQuery "a\x7b4294967295\x7d" bounds).advanced) (deskFor {} loopGraph)).1 with
        | .error .overflow => true
        | _ => false) = true := by decide +kernel
  refine ⟨rfl, ?_⟩
  intro bounds hbounds
  refine ⟨?_, ?_⟩
  · rw [answer_applyFilters rfl]
    rfl
  · intro found hfound
    have hfails := hoverflow bounds hbounds
    rw [hfound] at hfails
    cases hfails

end Engine
end GraphQuery
