import GraphQuery.Proofs.Engine.TextSearch
import GraphQuery.Proofs.Filter.Criteria
import GraphQuery.Proofs.Graph.Degree

/-!
# Advanced search — the best matches of a text, narrowed

An advanced search with a text starts from the results of a text search, of which there are no more than the
settings allow, and narrows them:

- `Snapshot.AreBest` says which entities the text search gives: matches of the highest scores, all of them if they
  are few enough;
- `Narrowing.Keeps` says what an entity must fulfil to be kept;
- `Engine.advancedSearch_narrowsBest` puts both together.  Criteria are looked at after the limit, so an entity
  that fulfils all of them may be missing where many others match the text
  (`Engine.advancedSearch_misses_second`).
-/

namespace GraphQuery

/-! ## Entities -/

namespace Snapshot

@[simp] theorem node_mem_entities {graph : Snapshot} {n : Node} :
    Entity.node n ∈ graph.entities ↔ n ∈ graph.nodes := by
  simp [entities]

@[simp] theorem edge_mem_entities {graph : Snapshot} {e : Edge} :
    Entity.edge e ∈ graph.entities ↔ e ∈ graph.edges := by
  simp [entities]

/-- The nodes and the edges among some entities. -/
def ofEntities (xs : List Entity) : Snapshot := ⟨xs.filterMap (·.asNode?), xs.filterMap (·.asEdge?)⟩

theorem mem_nodes_ofEntities {xs : List Entity} {n : Node} :
    n ∈ (ofEntities xs).nodes ↔ Entity.node n ∈ xs := by
  rw [ofEntities, List.mem_filterMap]
  constructor
  · rintro ⟨x, hx, hn⟩
    cases x <;> cases hn
    exact hx
  · intro hn
    exact ⟨.node n, hn, rfl⟩

theorem mem_edges_ofEntities {xs : List Entity} {e : Edge} :
    e ∈ (ofEntities xs).edges ↔ Entity.edge e ∈ xs := by
  rw [ofEntities, List.mem_filterMap]
  constructor
  · rintro ⟨x, hx, he⟩
    cases x <;> cases he
    exact hx
  · intro he
    exact ⟨.edge e, he, rfl⟩

end Snapshot

/-! ## Narrowing -/

/-- What narrows a search; what is left out is empty or none. -/
structure Narrowing where
  nodeTypes : List String := []
  edgeTypes : List String := []
  properties : Fields := []
  least : Option Int := none
  most : Option Int := none

namespace Narrowing

/-- The types that are listed for a kind. -/
def types (w : Narrowing) : EntityKind → List String
  | .node => w.nodeTypes
  | .edge => w.edgeTypes

/-- Whether the type of an entity is listed, or none is. -/
def Lists (w : Narrowing) (x : Entity) : Prop :=
  w.types x.kind = [] ∨ ∃ type ∈ w.types x.kind, x.type = some type

instance (w : Narrowing) : DecidablePred w.Lists :=
  fun _ => inferInstanceAs (Decidable (_ ∨ _))

/-- Whether a number of connections lies within the bounds. -/
def Bounds (w : Narrowing) (count : Nat) : Prop :=
  (∀ least ∈ w.least, least ≤ count) ∧ ∀ most ∈ w.most, count ≤ most

instance (w : Narrowing) : DecidablePred w.Bounds :=
  fun _ => inferInstanceAs (Decidable (_ ∧ _))

/-- Whether an entity of a graph fulfils everything; only nodes have connections. -/
structure Keeps (w : Narrowing) (graph : Snapshot) (x : Entity) : Prop where
  lists : w.Lists x
  meets : x.properties.Meets w.properties
  bounds : ∀ n, x = .node n → w.Bounds (degreeIn graph.edges n.id).connections

/-- Whether an answer is what is left of some entities: the ones that fulfil everything, unless the properties
of one that is listed cannot be compared. -/
structure Narrows (w : Narrowing) (graph : Snapshot) (hits : List Entity) (answer : Outcome Snapshot) :
    Prop where
  mem_iff : ∀ found, answer = .ok found → ∀ x, x ∈ found.entities ↔ x ∈ hits ∧ w.Keeps graph x
  fails : ∀ e, answer = .error e → e.IsLimit ∧
    ∃ x ∈ hits, w.Lists x ∧ Fields.meet x.properties (.mapping w.properties) = .error e
  answers : (∀ x ∈ hits, w.Lists x → ∀ e, Fields.meet x.properties (.mapping w.properties) ≠ .error e) →
    ∃ found, answer = .ok found

variable {w : Narrowing} {graph : Snapshot} {hits : List Entity}

theorem Narrows.of_ok {found : Snapshot} (h : ∀ x, x ∈ found.entities ↔ x ∈ hits ∧ w.Keeps graph x) :
    w.Narrows graph hits (.ok found) where
  mem_iff := by
    rintro _ ⟨⟩
    exact h
  fails := by
    rintro _ ⟨⟩
  answers := fun _ => ⟨found, rfl⟩

theorem Narrows.of_error {x : Entity} {e : Failure} (hx : x ∈ hits) (hlists : w.Lists x)
    (hfails : Fields.meet x.properties (.mapping w.properties) = .error e) :
    w.Narrows graph hits (.error e) where
  mem_iff := by
    rintro _ ⟨⟩
  fails := by
    rintro _ ⟨⟩
    exact ⟨Fields.isLimit_of_meetAll hfails, x, hx, hlists, hfails⟩
  answers := fun h => absurd hfails (h x hx hlists e)

end Narrowing

namespace AdvancedQuery

/-- Whether the arguments of a search are of the kinds they should be: a text, types in a sequence, properties in
a mapping, and integers as bounds. -/
structure Asks (q : AdvancedQuery) (text : String) (w : Narrowing) : Prop where
  text : q.text = .text text
  nodeTypes : q.nodeTypes.collection? = some (w.nodeTypes.map .text)
  edgeTypes : q.edgeTypes.collection? = some (w.edgeTypes.map .text)
  properties : q.properties = .mapping w.properties ∨ q.properties = .null ∧ w.properties = []
  least : q.minConnections = (w.least.map Value.int).getD .null
  most : q.maxConnections = (w.most.map Value.int).getD .null

theorem hasType_eq {types : Value} {listed : List String}
    (h : types.collection? = some (listed.map .text)) (type : Option String) :
    hasType types type = .ok (decide (∃ t ∈ listed, type = some t)) := by
  have hsame : ∀ t : String, Value.same (textOrNull type) (.text t) = decide (type = some t) := by
    intro t
    cases type with
    | none =>
        simp [textOrNull, Value.same, Value.isNull]
    | some own =>
        simp [textOrNull, Value.same, beq_eq_decide]
  have hany : (listed.map Value.text).any (Value.same (textOrNull type)) =
      decide (∃ t ∈ listed, type = some t) := by
    rw [Bool.eq_iff_iff]
    simp [hsame]
  unfold hasType
  split
  · cases h
  · cases h
  · rw [h]
    exact congrArg Except.ok hany

variable {α : Type} {xs : List α}

/-- Types that are listed sort out what is of no such type; no types sort out nothing. -/
theorem keep_listed {types : Value} {listed : List String}
    (h : types.collection? = some (listed.map .text)) (type : α → Option String) :
    (if types.isTruthy then Filter.keep (fun x => hasType types (type x)) xs else .ok xs) =
      .ok (xs.filter fun x => listed = [] ∨ ∃ t ∈ listed, type x = some t) := by
  have htruthy : types.isTruthy = !listed.isEmpty := by
    cases types <;> cases h <;> simp [Value.isTruthy]
  rw [htruthy]
  cases listed with
  | nil =>
      simp
  | cons t rest =>
      simp only [List.isEmpty_cons, Bool.not_false, if_true, hasType_eq h, reduceCtorEq, false_or]
      exact Filter.keep_eq_ok fun x _ e h => by cases h

/-- Properties that are given are compared on every item; none are met by everything. -/
theorem keep_meeting {properties : Value} {given : Fields}
    (h : properties = .mapping given ∨ properties = .null ∧ given = []) (own : α → Fields) :
    (if properties.isTruthy then Filter.keep (fun x => Fields.meet (own x) properties) xs else .ok xs) =
      Filter.keep (fun x => Fields.meet (own x) (.mapping given)) xs := by
  have hnone : Filter.keep (fun x => Fields.meet (own x) (.mapping [])) xs = .ok xs := by
    rw [Filter.keep_eq_ok fun x _ e h => by cases h]
    exact congrArg Except.ok (List.filter_eq_self.2 fun x _ => rfl)
  rcases h with rfl | ⟨rfl, rfl⟩
  · cases given with
    | nil =>
        exact hnone.symm
    | cons entry rest =>
        rfl
  · exact hnone.symm

theorem below?_int (m n : Int) : Value.below? true (.int m) (.int n) = some (decide (m < n)) :=
  congrArg some (decide_eq_decide.2 Rat.intCast_lt_intCast)

theorem atMost_int (m n : Int) : Value.below? false (.int m) (.int n) = some (decide (m ≤ n)) := by
  have hsame : Extended.same (.ofInt m) (.ofInt n) = decide (m = n) :=
    decide_eq_decide.2 Rat.intCast_inj
  have hless : Extended.less (.ofInt m) (.ofInt n) = decide (m < n) :=
    decide_eq_decide.2 Rat.intCast_lt_intCast
  refine congrArg some ?_
  show Extended.atMost (.ofInt m) (.ofInt n) = _
  rw [Extended.atMost, hsame, hless, ← Bool.decide_or, decide_eq_decide]
  omega

/-- The upper bound is looked at only where the lower one holds. -/
theorem inRange_int (least : Int) (most : Value) (count : Nat) :
    inRange (.int least) most count = if (count : Int) < least then .ok false else inRange .null most count := by
  simp only [inRange, below?_int, Operator.ordered]
  by_cases hfew : (count : Int) < least
  · simp only [hfew, decide_true, if_true]
    rfl
  · simp only [hfew, decide_false, if_false]

theorem inRange_eq (w : Narrowing) (count : Nat) :
    inRange ((w.least.map Value.int).getD .null) ((w.most.map Value.int).getD .null) count =
      .ok (decide (w.Bounds count)) := by
  have hmost : inRange .null ((w.most.map Value.int).getD .null) count =
      .ok (decide (∀ most ∈ w.most, (count : Int) ≤ most)) := by
    cases w.most with
    | none =>
        rfl
    | some most =>
        show Operator.ordered (Value.below? false (.int count) (.int most)) = _
        simp [atMost_int, Operator.ordered]
  cases hleast : w.least with
  | none =>
      rw [Option.map_none, Option.getD_none, hmost]
      simp [Narrowing.Bounds, hleast]
  | some least =>
      rw [Option.map_some, Option.getD_some, inRange_int, hmost]
      by_cases hfew : (count : Int) < least
      · have hnot : ¬ least ≤ (count : Int) := by omega
        simp [Narrowing.Bounds, hleast, hfew, hnot]
      · have hle : least ≤ (count : Int) := by omega
        simp [Narrowing.Bounds, hleast, hfew, hle]

/-- The narrowing as a chain of steps, each of which sorts out or does nothing. -/
theorem narrow_steps (q : AdvancedQuery) (graph found : Snapshot) :
    q.narrow graph found =
      ((if q.nodeTypes.isTruthy then Filter.keep (fun n => hasType q.nodeTypes n.type) found.nodes
        else .ok found.nodes) >>= fun nodes =>
      (if q.edgeTypes.isTruthy then Filter.keep (fun e => hasType q.edgeTypes e.type) found.edges
        else .ok found.edges) >>= fun edges =>
      (if q.properties.isTruthy then Filter.keep (fun n => Fields.meet n.properties q.properties) nodes
        else .ok nodes) >>= fun nodes =>
      (if q.properties.isTruthy then Filter.keep (fun e => Fields.meet e.properties q.properties) edges
        else .ok edges) >>= fun edges =>
      (if q.minConnections.isNull && q.maxConnections.isNull then .ok nodes
        else Filter.keep
          (fun n => inRange q.minConnections q.maxConnections
            ((DegreeTable.ofEdges graph.edges).lookup n.id).connections) nodes) >>= fun nodes =>
      (.ok ⟨nodes, edges⟩ : Outcome Snapshot)) := by
  unfold narrow
  split_ifs <;> rfl

/-- Connections are counted on the whole graph. -/
theorem keep_bounded {q : AdvancedQuery} {text : String} {w : Narrowing} (h : q.Asks text w) (graph : Snapshot)
    (nodes : List Node) :
    (if q.minConnections.isNull && q.maxConnections.isNull then .ok nodes
      else Filter.keep
        (fun n => inRange q.minConnections q.maxConnections
          ((DegreeTable.ofEdges graph.edges).lookup n.id).connections) nodes) =
      (.ok (nodes.filter fun n => w.Bounds (degreeIn graph.edges n.id).connections) : Outcome _) := by
  have hnull : (q.minConnections.isNull && q.maxConnections.isNull) = (w.least.isNone && w.most.isNone) := by
    rw [h.least, h.most]
    cases w.least <;> cases w.most <;> rfl
  rw [hnull]
  split_ifs with hnone
  -- Without bounds every number of connections lies within them.
  · obtain ⟨hleast, hmost⟩ : w.least = none ∧ w.most = none := by simpa using hnone
    rw [List.filter_eq_self.2]
    intro n _
    simp [Narrowing.Bounds, hleast, hmost]
  · simp only [h.least, h.most, inRange_eq, DegreeTable.lookup_ofEdges]
    exact Filter.keep_eq_ok fun x _ e h => by cases h

/-- Only comparing properties can fail; types and connections sort out the rest. -/
theorem narrow_eq {q : AdvancedQuery} {text : String} {w : Narrowing} (h : q.Asks text w)
    (graph found : Snapshot) :
    q.narrow graph found =
      (Filter.keep (fun n => Fields.meet n.properties (.mapping w.properties))
        (found.nodes.filter fun n => w.Lists (.node n)) >>= fun nodes =>
      Filter.keep (fun e => Fields.meet e.properties (.mapping w.properties))
        (found.edges.filter fun e => w.Lists (.edge e)) >>= fun edges =>
      .ok ⟨nodes.filter fun n => w.Bounds (degreeIn graph.edges n.id).connections, edges⟩) := by
  rw [narrow_steps, keep_listed h.nodeTypes, keep_listed h.edgeTypes]
  simp only [keep_meeting h.properties, keep_bounded h]
  rfl

/-- What is narrowed is what is left of the entities that were found. -/
theorem narrows_narrow {q : AdvancedQuery} {text : String} {w : Narrowing} (h : q.Asks text w)
    (graph : Snapshot) (hits : List Entity) : w.Narrows graph hits (q.narrow graph (.ofEntities hits)) := by
  have hnode : ∀ n, n ∈ (Snapshot.ofEntities hits).nodes.filter (fun n => w.Lists (.node n)) ↔
      Entity.node n ∈ hits ∧ w.Lists (.node n) := by
    intro n
    rw [List.mem_filter, decide_eq_true_iff, Snapshot.mem_nodes_ofEntities]
  have hedge : ∀ e, e ∈ (Snapshot.ofEntities hits).edges.filter (fun e => w.Lists (.edge e)) ↔
      Entity.edge e ∈ hits ∧ w.Lists (.edge e) := by
    intro e
    rw [List.mem_filter, decide_eq_true_iff, Snapshot.mem_edges_ofEntities]
  rw [narrow_eq h]
  cases hnodes : Filter.keep (fun n => Fields.meet n.properties (.mapping w.properties))
      ((Snapshot.ofEntities hits).nodes.filter fun n => w.Lists (.node n)) with
  -- A failure comes from an item that was found and is listed; edges are looked at after nodes.
  | error e =>
      obtain ⟨n, hn, hfails⟩ := Filter.exists_of_keep_eq_error hnodes
      exact .of_error ((hnode n).1 hn).1 ((hnode n).1 hn).2 hfails
  | ok nodes =>
      cases hedges : Filter.keep (fun e => Fields.meet e.properties (.mapping w.properties))
          ((Snapshot.ofEntities hits).edges.filter fun e => w.Lists (.edge e)) with
      | error e =>
          obtain ⟨x, hx, hfails⟩ := Filter.exists_of_keep_eq_error hedges
          exact .of_error ((hedge x).1 hx).1 ((hedge x).1 hx).2 hfails
      | ok edges =>
          obtain ⟨rfl, -⟩ := Filter.keep_eq_ok_iff.1 hnodes
          obtain ⟨rfl, -⟩ := Filter.keep_eq_ok_iff.1 hedges
          refine .of_ok ?_
          intro x
          cases x with
          | node n =>
              rw [Snapshot.node_mem_entities, List.mem_filter, List.mem_filter, hnode, decide_eq_true_iff,
                Fields.isMet_meet_iff]
              constructor
              · rintro ⟨⟨⟨hn, hlists⟩, hmeets⟩, hbounds⟩
                refine ⟨hn, hlists, hmeets, ?_⟩
                rintro _ ⟨⟩
                exact hbounds
              · rintro ⟨hn, hkeeps⟩
                exact ⟨⟨⟨hn, hkeeps.lists⟩, hkeeps.meets⟩, hkeeps.bounds n rfl⟩
          | edge e =>
              rw [Snapshot.edge_mem_entities, List.mem_filter, hedge, Fields.isMet_meet_iff]
              constructor
              · rintro ⟨⟨he, hlists⟩, hmeets⟩
                refine ⟨he, hlists, hmeets, ?_⟩
                rintro _ ⟨⟩
              · rintro ⟨he, hkeeps⟩
                exact ⟨⟨he, hkeeps.lists⟩, hkeeps.meets⟩

end AdvancedQuery

/-! ## The best matches -/

namespace Snapshot

/-- The entities whose searchable text holds the characters of a text in order, letter case ignored. -/
def textMatches (graph : Snapshot) (text : String) : List Entity :=
  graph.entities.filter (SearchMode.IsMatch {} text)

theorem mem_textMatches {graph : Snapshot} {text : String} {x : Entity} :
    x ∈ graph.textMatches text ↔ x ∈ graph.entities ∧
      (Text.lowercase text).toList.Sublist (Text.lowercase x.rawText).toList := by
  rw [textMatches, List.mem_filter, decide_eq_true_iff]
  refine and_congr_right fun _ => ?_
  cases x <;> simp [SearchMode.IsMatch, SearchMode.covers, Entity.kind]

/-- How well the text of an entity matches. -/
def scoreOf (text : String) (x : Entity) : Rat :=
  (SearchMode.score {} text (.ofEntity x)).toRat

/-- Whether some entities are the best matches of a text: as many as there may be and are, no other match has a
higher score than any of them. -/
structure AreBest (graph : Snapshot) (text : String) (limit : Nat) (hits : List Entity) : Prop where
  length_eq : hits.length = min limit (graph.textMatches text).length
  ranked : ∃ others, (hits ++ others).Perm (graph.textMatches text) ∧
    ∀ x ∈ hits, ∀ y ∈ others, scoreOf text y ≤ scoreOf text x

/-- The first matches by descending score. -/
def bestMatches (graph : Snapshot) (text : String) (limit : Nat) : List Entity :=
  (SearchIndex.byScore {} text (graph.textMatches text)).take limit

theorem areBest_bestMatches (graph : Snapshot) (text : String) (limit : Nat) :
    graph.AreBest text limit (graph.bestMatches text limit) := by
  have hranking : IsRanking (scoreOf text) (graph.textMatches text)
      (SearchIndex.byScore {} text (graph.textMatches text)) := isRanking_mergeSort _ _
  refine ⟨?_, (SearchIndex.byScore {} text (graph.textMatches text)).drop limit, ?_, ?_⟩
  · rw [bestMatches, List.length_take, hranking.perm.length_eq]
  · rw [bestMatches, List.take_append_drop]
    exact hranking.perm
  · have hsorted := hranking.descending
    rw [← List.take_append_drop limit (SearchIndex.byScore _ _ _), List.pairwise_append] at hsorted
    exact hsorted.2.2

/-- All matches are among the best where there may be so many. -/
theorem AreBest.mem_iff {graph : Snapshot} {text : String} {limit : Nat} {hits : List Entity}
    (h : graph.AreBest text limit hits) (hfew : (graph.textMatches text).length ≤ limit) {x : Entity} :
    x ∈ hits ↔ x ∈ graph.textMatches text := by
  obtain ⟨others, hperm, -⟩ := h.ranked
  -- The best are as many as there are matches, so no others are left.
  have hlength := hperm.length_eq
  rw [List.length_append, h.length_eq] at hlength
  have hnone : others = [] := List.length_eq_zero_iff.1 (by omega)
  rw [← hperm.mem_iff, hnone, List.append_nil]

end Snapshot

/-! ## Searching -/

namespace Engine

/-- A search with a text narrows what a text search of the settings' limit finds, and records the text. -/
theorem runAt_advancedSearch {desk : Desk} {graph : Snapshot} {q : AdvancedQuery} {text : String}
    (hgraph : desk.snapshot = .ok graph) (hquery : q.text = .text text) (htext : text ≠ "") :
    runAt (advancedSearch q) desk =
      (q.narrow graph (.ofEntities (((desk.engine.index.ranking {} text).take
        desk.engine.config.defaultSearchLimit.toNat).map (·.entity))), recorded desk (.text text)) := by
  have hread : runAt snapshot desk = (.ok graph, desk) := Prod.ext hgraph rfl
  rw [advancedSearch, runAt_bind, hread, hquery]
  simp only [isTruthy_text htext, if_true]
  rw [runAt_bind, runAt_textSearch_null htext, Snapshot.ofEntities, List.filterMap_map, List.filterMap_map]
  rfl

/-- Where the index shows the graph, what is narrowed are the best matches. -/
theorem answer_advancedSearch {desk : Desk} {graph : Snapshot} {q : AdvancedQuery} {text : String}
    (hgraph : desk.snapshot = .ok graph) (hindex : desk.engine.index = SearchIndex.ofSnapshot graph)
    (hdistinct : graph.HasDistinctIdTexts) (hquery : q.text = .text text) (htext : text ≠ "") :
    (runAt (advancedSearch q) desk).1 =
      q.narrow graph (.ofEntities (graph.bestMatches text desk.engine.config.defaultSearchLimit.toNat)) := by
  -- The index has lost nothing, so its ranking is that of the entities of the graph.
  have hentries := (SearchIndex.entries_build_iff graph).2 hdistinct
  rw [runAt_advancedSearch hgraph hquery htext, hindex, List.map_take, SearchIndex.ofSnapshot,
    SearchIndex.map_entity_ranking hentries]
  rfl

/-- At a desk whose index shows the graph, an advanced search with a text narrows the best matches, of which it
looks at no more than the settings allow.  Where no more entities match, exactly those are left that match and
fulfil everything. -/
theorem advancedSearch_narrowsBest {desk : Desk} {graph : Snapshot} {q : AdvancedQuery} {text : String}
    {w : Narrowing} (hgraph : desk.snapshot = .ok graph)
    (hindex : desk.engine.index = SearchIndex.ofSnapshot graph) (hdistinct : graph.HasDistinctIdTexts)
    (hasks : q.Asks text w) (htext : text ≠ "") :
    let limit := desk.engine.config.defaultSearchLimit.toNat
    ∃ hits, graph.AreBest text limit hits ∧ w.Narrows graph hits (runAt (advancedSearch q) desk).1 ∧
      ((graph.textMatches text).length ≤ limit →
        ∀ found, (runAt (advancedSearch q) desk).1 = .ok found →
          ∀ x, x ∈ found.entities ↔ x ∈ graph.textMatches text ∧ w.Keeps graph x) := by
  intro limit
  have hbest : graph.AreBest text limit (graph.bestMatches text limit) := graph.areBest_bestMatches text limit
  have hnarrows : w.Narrows graph (graph.bestMatches text limit) (runAt (advancedSearch q) desk).1 := by
    rw [answer_advancedSearch hgraph hindex hdistinct hasks.text htext]
    exact AdvancedQuery.narrows_narrow hasks graph _
  refine ⟨graph.bestMatches text limit, hbest, hnarrows, ?_⟩
  intro hfew found hfound x
  rw [hnarrows.mem_iff found hfound, hbest.mem_iff hfew]

/-- A node that is typed and matches what is looked for, but not first. -/
def second : Node := { SearchIndex.bareNode (.text "n2") with type := some "t" }

/-- Two nodes that match what is looked for. -/
def matchingPair : Snapshot := ⟨[SearchIndex.bareNode (.text "n1"), second], []⟩

theorem hasDistinctIdTexts_matchingPair : matchingPair.HasDistinctIdTexts :=
  ⟨by decide, by decide⟩

/-- A desk at which an engine with the given settings has been started on a graph of its own. -/
def deskFor (config : EngineConfig) (graph : Snapshot) : Desk where
  engine := { blank 0 config .owned graph (.withCapacity 20) with index := SearchIndex.ofSnapshot graph }
  around := ⟨⟨⟨2024, 1, 1⟩, 0, 0, 0, 0, none⟩, none, .null, [], .usual⟩

/-- What is looked for, and a type. -/
def typedSearch : AdvancedQuery := { text := .text "n", nodeTypes := .list [.text "t"] }

theorem asks_typedSearch : typedSearch.Asks "n" { nodeTypes := ["t"] } :=
  ⟨rfl, rfl, rfl, Or.inr ⟨rfl, rfl⟩, rfl, rfl⟩

theorem second_mem_textMatches : Entity.node second ∈ matchingPair.textMatches "n" := by
  refine Snapshot.mem_textMatches.2 ⟨?_, by decide +kernel⟩
  simp [matchingPair]

theorem keeps_second : Narrowing.Keeps { nodeTypes := ["t"] } matchingPair (.node second) where
  lists := Or.inr ⟨"t", List.mem_singleton_self _, rfl⟩
  meets := List.forall_mem_nil _
  bounds := by
    intro n _
    exact ⟨fun _ h => (Option.not_mem_none _ h).elim, fun _ h => (Option.not_mem_none _ h).elim⟩

/-- With the standard settings both are looked at, and what is left is exactly what matches and is of the type. -/
theorem advancedSearch_narrowsBest_matchingPair :
    ∃ found, (runAt (advancedSearch typedSearch) (deskFor {} matchingPair)).1 = .ok found ∧
      ∀ x, x ∈ found.entities ↔
        x ∈ matchingPair.textMatches "n" ∧ Narrowing.Keeps { nodeTypes := ["t"] } matchingPair x := by
  have hgraph : (deskFor {} matchingPair).snapshot = .ok matchingPair := rfl
  obtain ⟨hits, -, hnarrows, hfew⟩ := advancedSearch_narrowsBest hgraph rfl hasDistinctIdTexts_matchingPair
    asks_typedSearch (by decide)
  obtain ⟨found, hfound⟩ := hnarrows.answers fun x _ _ e h => by cases h
  have hlength : (matchingPair.textMatches "n").length ≤ 2 := List.length_filter_le _ _
  refine ⟨found, hfound, hfew ?_ found hfound⟩
  exact hlength.trans (by decide)

/-- Both match, and the first one has the higher score. -/
theorem bestMatches_matchingPair (limit : Nat) :
    matchingPair.bestMatches "n" limit = matchingPair.entities.take limit := by
  have hall : matchingPair.textMatches "n" = matchingPair.entities := by
    refine List.filter_eq_self.2 ?_
    decide +kernel
  have hsorted : SearchIndex.byScore {} "n" matchingPair.entities = matchingPair.entities := by
    refine List.mergeSort_of_pairwise ?_
    decide +kernel
  rw [Snapshot.bestMatches, hall, hsorted]

/-- If only one match is looked at, the second one is missing, though it is the only one of the type. -/
theorem advancedSearch_misses_second :
    let desk := deskFor { defaultSearchLimit := 1 } matchingPair
    desk.snapshot = .ok matchingPair ∧ desk.engine.index = SearchIndex.ofSnapshot matchingPair ∧
      matchingPair.HasDistinctIdTexts ∧ typedSearch.Asks "n" { nodeTypes := ["t"] } ∧
      Entity.node second ∈ matchingPair.textMatches "n" ∧
      Narrowing.Keeps { nodeTypes := ["t"] } matchingPair (.node second) ∧
      (runAt (advancedSearch typedSearch) desk).1 = .ok ⟨[], []⟩ := by
  refine ⟨rfl, rfl, hasDistinctIdTexts_matchingPair, asks_typedSearch, second_mem_textMatches, keeps_second, ?_⟩
  rw [answer_advancedSearch rfl rfl hasDistinctIdTexts_matchingPair rfl (by decide)]
  show typedSearch.narrow matchingPair (.ofEntities (matchingPair.bestMatches "n" 1)) = _
  rw [bestMatches_matchingPair, AdvancedQuery.narrow_eq asks_typedSearch]
  rfl

end Engine
end GraphQuery
