import GraphQuery.Proofs.Filter.ActiveSets
import GraphQuery.Proofs.Value.Fields

/-!
# Criteria one by one — a configuration keeps what each of its criteria keeps by itself

Criteria are evaluated in order up to the first that is not met.  Since a criterion that fails counts as not
met, neither the order nor a failure shows in what is kept:

- `Filter.isMet_meetsEach` — criteria are met together where each one is met, whatever fails;
- `Comparison` is a comparison by an operator; a criterion that asks for one which fails is not met;
- `Filter.apply_isOneByOne` — a configuration answers, if its patterns can be searched for, and keeps the
  items that each of its criteria keeps in a configuration of its own; it fails only where a text is missing.
-/

namespace GraphQuery

open Outcome

/-! ## Patterns -/

/-- A comparison of an item with a value by an operator. -/
structure Comparison where
  op : Operator
  item : Value
  value : Value

/-- The item and the value do not fit the operator. -/
def Comparison.Fails (c : Comparison) : Prop :=
  ∃ e, c.op.evaluate c.item c.value = .error e

namespace Value

/-- The comparisons that a criterion asks of a value: one if it names an operator. -/
def comparisons (actual criterion : Value) : List Comparison :=
  match criterion.operatorFilter? with
  | some (op, value) => [⟨op, actual, value⟩]
  | none => []

end Value

namespace Fields

/-- The comparisons that criteria ask of properties. -/
def comparisons (properties : Fields) (criteria : Value) : List Comparison :=
  match criteria with
  | .mapping entries =>
    entries.flatMap fun entry =>
      match get? properties entry.1 with
      | some actual => actual.comparisons entry.2
      | none => []
  | _ => []

end Fields

namespace Filter

/-- The comparisons that a criterion asks of a field that nodes and edges share. -/
def sharedComparisons (x : Entity) (name : String) (criterion : Value) : List Comparison :=
  match name with
  | "type" => (textOrNull x.type).comparisons criterion
  | "id" => x.id.toValue.comparisons criterion
  | "properties" => Fields.comparisons x.properties criterion
  | _ => []

/-- The comparisons that a criterion asks of a field of a node with the given degree. -/
def nodeComparisons (degree : Degree) (n : Node) (name : String) (criterion : Value) : List Comparison :=
  match name, criterion with
  | "connections", .mapping entries =>
    [⟨Operator.resolve (Fields.getD entries "operator"), .int degree.connections,
      Fields.getD entries "value"⟩]
  | "degree", .mapping entries =>
    [⟨Operator.resolve (Fields.getD entries "operator"),
      .int (degree.ofKind ((Fields.get? entries "type").getD (.text "total"))),
      Fields.getD entries "value"⟩]
  | _, _ => sharedComparisons (.node n) name criterion

/-- The comparisons that a criterion asks of a field of an edge. -/
def edgeComparisons (e : Edge) (name : String) (criterion : Value) : List Comparison :=
  match name with
  | "source" => e.source.toValue.comparisons criterion
  | "target" => e.target.toValue.comparisons criterion
  | _ => sharedComparisons (.edge e) name criterion

/-- Evaluating a criterion on a node fails: as a whole, or in a comparison that it asks for. -/
def NodeFault (graph : Snapshot) (criterion : String × Value) (n : Node) : Prop :=
  (∃ e, nodeField (degreeIn graph.edges n.id) n criterion.1 criterion.2 = .error e) ∨
    ∃ c ∈ nodeComparisons (degreeIn graph.edges n.id) n criterion.1 criterion.2, c.Fails

/-- Evaluating a criterion on an edge fails: as a whole, or in a comparison that it asks for. -/
def EdgeFault (criterion : String × Value) (e : Edge) : Prop :=
  (∃ f, edgeField e criterion.1 criterion.2 = .error f) ∨
    ∃ c ∈ edgeComparisons e criterion.1 criterion.2, c.Fails

/-! ### Kinds of faults -/

section Faults

variable {c : Comparison}

/-- A list operator is given a value that is no collection. -/
theorem fails_of_no_collection (hop : c.op = .oneOf ∨ c.op = .noneOf) (hvalue : c.value.collection? = none) :
    c.Fails := by
  have hmember : ∀ op, Operator.isMember op c.item c.value = .error (.criteria (.needsList op c.value)) := by
    intro op
    rw [Operator.isMember, hvalue]
  rcases hop with hop | hop
  · refine ⟨.criteria (.needsList .oneOf c.value), ?_⟩
    rw [hop, Operator.evaluate, hmember]
  · refine ⟨.criteria (.needsList .noneOf c.value), ?_⟩
    rw [hop, Operator.evaluate, hmember]
    rfl

/-- A range is given by a value that is no pair of bounds. -/
theorem fails_of_no_pair (hop : c.op = .between)
    (hvalue : ∀ low high, c.value ≠ .list [low, high] ∧ c.value ≠ .tuple [low, high]) : c.Fails := by
  refine ⟨.showing c.value (.criteria (.needsPair c.value)), ?_⟩
  rw [hop, Operator.evaluate, Operator.isBetween.eq_def]
  split
  · next low high heq => exact absurd heq (hvalue low high).1
  · next low high heq => exact absurd heq (hvalue low high).2
  · rfl

/-- The two sides of an ordering operator cannot be ordered. -/
theorem fails_of_unordered
    (h : (c.op = .lt ∧ Value.below? true c.item c.value = none) ∨
      (c.op = .lte ∧ Value.below? false c.item c.value = none) ∨
      (c.op = .gt ∧ Value.below? true c.value c.item = none) ∨
      (c.op = .gte ∧ Value.below? false c.value c.item = none)) : c.Fails := by
  refine ⟨.mismatch, ?_⟩
  rcases h with ⟨hop, hnone⟩ | ⟨hop, hnone⟩ | ⟨hop, hnone⟩ | ⟨hop, hnone⟩
  all_goals
    rw [hop, Operator.evaluate, hnone]
    rfl

/-- The item cannot be ordered with the lower bound of a range. -/
theorem fails_of_unordered_bound (hop : c.op = .between) {low high : Value} (hvalue : c.value = .list [low, high])
    (hnone : Value.below? false low c.item = none) : c.Fails := by
  refine ⟨.mismatch, ?_⟩
  rw [hop, hvalue, Operator.evaluate, Operator.isBetween, hnone]

theorem matchesPattern_of_malformed {ignoreCase : Bool} {pattern : String}
    (h : Pattern.read ignoreCase pattern = .error .malformed) (shown : Value) (subject : Outcome String) :
    Operator.matchesPattern ignoreCase shown pattern subject = .error (.criteria (.badPattern shown)) := by
  rw [Operator.matchesPattern, h]
  rfl

/-- The pattern that an item is searched for is malformed. -/
theorem fails_of_malformed (hop : c.op = .regex) (hitem : c.item ≠ .null) (hvalue : c.value.HasText)
    (hpattern : Pattern.read true c.value.display = .error .malformed) : c.Fails := by
  refine ⟨.criteria (.badPattern c.value), ?_⟩
  rw [hop, Operator.evaluate.eq_def]
  dsimp only
  split
  · next hnull => exact absurd hnull hitem
  · rw [hvalue.toText]
    exact matchesPattern_of_malformed hpattern _ _

/-- A degree is compared with a criterion that is no mapping. -/
theorem NodeFault.of_degree {graph : Snapshot} {n : Node} {criterion : Value}
    (h : ∀ entries, criterion ≠ .mapping entries) : NodeFault graph ("degree", criterion) n := by
  refine Or.inl ⟨.showing criterion (.criteria (.degreeNeedsMapping criterion)), ?_⟩
  show meetsDegree (degreeIn graph.edges n.id) criterion = _
  unfold meetsDegree
  split
  · exact absurd rfl (h _)
  · rfl

section Texts

variable {text : String} {entries : Fields}

theorem meetsText_mapping (htext : text ≠ "") (entries : Fields) :
    meetsText (some text) (.mapping entries) = meetsTextEntries text entries := by
  rw [meetsText]
  split
  · next hempty => exact absurd hempty htext
  · rfl

/-- A text criterion has no value. -/
theorem meetsText_of_no_value (htext : text ≠ "") (hvalue : Fields.getD entries "value" = .null) :
    meetsText (some text) (.mapping entries) = .error (.criteria .textNeedsValue) := by
  rw [meetsText_mapping htext, meetsTextEntries, hvalue]

/-- The pattern that a text is searched for is malformed. -/
theorem meetsText_of_malformed (htext : text ≠ "") (hoperator : Fields.get? entries "operator" = some (.text "regex"))
    (hvalue : Fields.getD entries "value" ≠ .null) (hshort : (Fields.getD entries "value").HasText)
    (hpattern : ∀ ignoreCase,
      Pattern.read ignoreCase (Fields.getD entries "value").display = .error .malformed) :
    ∃ shown, meetsText (some text) (.mapping entries) = .error (.criteria (.badPattern shown)) := by
  refine ⟨.text (Fields.getD entries "value").display, ?_⟩
  rw [meetsText_mapping htext]
  unfold meetsTextEntries
  split
  · next hnull => exact absurd hnull hvalue
  · rw [hshort.toText, hoperator]
    exact matchesPattern_of_malformed (hpattern _) _ _

theorem NodeFault.of_label {graph : Snapshot} {n : Node} {criterion : Value} {e : Failure}
    (h : meetsText n.label criterion = .error e) : NodeFault graph ("label", criterion) n :=
  Or.inl ⟨e, h⟩

theorem EdgeFault.of_label {x : Edge} {criterion : Value} {e : Failure}
    (h : meetsText x.label criterion = .error e) : EdgeFault ("label", criterion) x :=
  Or.inl ⟨e, h⟩

/-- The searchable text of a node is compared as its label is. -/
theorem NodeFault.of_text {graph : Snapshot} {n : Node} {criterion : Value} {e : Failure}
    (hshort : (Entity.node n).HasText)
    (h : meetsText (some (Text.lowercase (Entity.node n).rawText)) criterion = .error e) :
    NodeFault graph ("text", criterion) n := by
  refine Or.inl ⟨e, ?_⟩
  show (Entity.node n).searchableText >>= _ = _
  rw [hshort.searchableText]
  exact h

theorem EdgeFault.of_text {x : Edge} {criterion : Value} {e : Failure} (hshort : (Entity.edge x).HasText)
    (h : meetsText (some (Text.lowercase (Entity.edge x).rawText)) criterion = .error e) :
    EdgeFault ("text", criterion) x := by
  refine Or.inl ⟨e, ?_⟩
  show (Entity.edge x).searchableText >>= _ = _
  rw [hshort.searchableText]
  exact h

end Texts

end Faults

/-! ### What fails is not met -/

/-- The configuration with one criterion for nodes. -/
def nodesBy (criterion : String × Value) : Fields :=
  [("nodes", .mapping [criterion])]

/-- A configuration that looks at no ends. -/
def uncascaded (config : Fields) : Fields :=
  Fields.insert config "cascade_edges" (.bool false)

/-- The criteria of a configuration, those for nodes first. -/
def allCriteria (config : Fields) : Fields := criteriaOf config "nodes" ++ criteriaOf config "edges"

/-- The patterns that the criteria of a configuration look for. -/
def patternsOf (config : Fields) : List String :=
  (allCriteria config).flatMap fun entry => patterns entry.1 entry.2

/-- Whether everything that criteria may ask the text of has one: the items, the values of the criteria, and the
counts of the edges, of which there are fewer than any memory holds.  Graphs and criteria that are read from JSON texts
have texts (`Snapshot.hasTexts_of_ofText`, `Json.hasText_of_parse`). -/
structure HasTexts (graph part : Snapshot) (config : Fields) : Prop where
  nodes : ∀ n ∈ part.nodes, (Entity.node n).HasText
  edges : ∀ e ∈ part.edges, e.HasTexts
  criteria : ∀ criterion ∈ allCriteria config, criterion.2.HasText
  few : 2 * graph.edges.length < 10 ^ Text.integerDigitLimit

/-- A count of edges is at most twice their number, for each edge has two ends. -/
theorem HasTexts.degreeIn {graph part : Snapshot} {config : Fields} (h : HasTexts graph part config)
    (id : EntityId) : (degreeIn graph.edges id).HasTexts := by
  have hshort : ∀ {n : Nat}, n ≤ 2 * graph.edges.length → (Value.int n).HasText :=
    fun hn => Value.hasText_natCast.2 (hn.trans_lt h.few)
  have hincoming : (GraphQuery.degreeIn graph.edges id).incoming ≤ graph.edges.length := List.countP_le_length
  have houtgoing : (GraphQuery.degreeIn graph.edges id).outgoing ≤ graph.edges.length := List.countP_le_length
  have hconnections : (GraphQuery.degreeIn graph.edges id).connections ≤ graph.edges.length :=
    List.countP_le_length
  refine ⟨hshort (by omega), fun kind => hshort ?_⟩
  unfold Degree.ofKind
  split
  · omega
  · omega
  · rw [Degree.total]
    omega

variable {graph part : Snapshot} {config : Fields} {criterion : String × Value}

/-- What a configuration needs, one with some of its criteria needs no more. -/
theorem HasTexts.of_subset {graph part : Snapshot} {config other : Fields} (h : HasTexts graph part config)
    (hcriteria : allCriteria other ⊆ allCriteria config) : HasTexts graph part other :=
  { h with criteria := fun criterion hcriterion => h.criteria criterion (hcriteria hcriterion) }

theorem getD_uncascaded (config : Fields) {name : String} (h : name ≠ "cascade_edges") :
    Fields.getD (uncascaded config) name = Fields.getD config name := by
  rw [Fields.getD, uncascaded, Fields.get?_insert, if_neg h.symm, Fields.getD]

theorem IsObjectShaped.uncascaded (h : IsObjectShaped config) : IsObjectShaped (uncascaded config) := by
  refine ⟨?_, ?_⟩
  · rw [HasObject, getD_uncascaded config (by decide)]
    exact h.nodes
  · rw [HasObject, getD_uncascaded config (by decide)]
    exact h.edges

/-- Two configurations have the same criteria in any order, and treat ends alike. -/
structure IsReordering (config other : Fields) : Prop where
  shape : IsObjectShaped other
  nodes : (criteriaOf config "nodes").Perm (criteriaOf other "nodes")
  edges : (criteriaOf config "edges").Perm (criteriaOf other "edges")
  cascades : cascades config = cascades other

theorem IsReordering.allCriteria {other : Fields} (h : IsReordering config other) :
    (allCriteria config).Perm (allCriteria other) :=
  h.nodes.append h.edges

end Filter
end GraphQuery
