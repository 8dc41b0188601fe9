import GraphQuery.Proofs.Engine.QuickSearch
import GraphQuery.Proofs.Search.Ranking

/-!
# Text search — what the index of a graph lets be found, best first

An index is complete for a graph if it holds every node and then every edge, in order, gives each its own entry,
and lets a search without an effective limit find all that match (`SearchIndex.IsComplete`).

Entries are keyed by the texts of ids, so ids that differ may share a key: an index is complete exactly if no two
nodes, and no two edges, have ids of the same text (`SearchIndex.build_isComplete_iff`).

Whatever the index, a search ranks the entries that its query hits, and gives as many results as its limit lets
through (`Engine.textSearch_isTopOf`).
-/

namespace GraphQuery

namespace Engine

/-- A search without a limit of its own has that of the settings. -/
theorem runAt_textSearch_null {query : String} (hquery : query ≠ "") (mode : SearchMode) (desk : Desk) :
    runAt (textSearch (.text query) mode .null) desk =
      (.ok ((desk.engine.index.ranking mode query).take desk.engine.config.defaultSearchLimit.toNat),
        recorded desk (.text query)) := by
  rw [textSearch]
  simp only [isTruthy_text hquery, Bool.not_true, Bool.false_eq_true, if_false]
  show runAt (do
    let found ← ofOutcome (.ok (desk.engine.index.ranking mode query))
    recordQuery (.text query)
    let count ← ofOutcome (SearchIndex.limitCount (.int desk.engine.config.defaultSearchLimit))
    return found.take count) desk = _
  rw [limitCount_int]
  rfl

end Engine

/-! ## Complete indexes -/

namespace SearchIndex

/-- Whether an index loses nothing of a graph. -/
structure IsComplete (index : SearchIndex) (graph : Snapshot) : Prop where
  /-- There is one entry for each node and then one for each edge, in order. -/
  entries_eq : entries index = graph.entities.map IndexEntry.ofEntity
  /-- Each entity is found under its kind and the text of its id. -/
  get_eq : ∀ x ∈ graph.entities, get? index x.kind.name x.id.display = some (IndexEntry.ofEntity x)
  /-- A search that may give as many results as there are entities gives all that match. -/
  search_perm : ∀ (desk : Desk) (mode : SearchMode) (query : String) (limit : Int),
    desk.engine.index = index → query ≠ "" → graph.entities.length ≤ limit →
      ∃ results, (Engine.runAt (Engine.textSearch (.text query) mode (.int limit)) desk).1 = .ok results ∧
        (results.map (·.entity)).Perm (graph.entities.filter (mode.IsMatch query))

theorem length_ranking_le {index : SearchIndex} {xs : List Entity}
    (hentries : entries index = xs.map IndexEntry.ofEntity) (mode : SearchMode) (query : String) :
    (ranking index mode query).length ≤ xs.length := by
  have hperm := (ranking_perm hentries mode query).length_eq
  rw [List.length_map] at hperm
  rw [hperm]
  exact List.length_filter_le _ _

/-- The index of a graph loses nothing exactly if no two nodes have ids of the same text, and no two edges
have. -/
theorem build_isComplete_iff (graph : Snapshot) :
    IsComplete (build graph.nodes graph.edges) graph ↔ graph.HasDistinctIdTexts := by
  constructor
  · intro hcomplete
    exact (entries_build_iff graph).1 hcomplete.entries_eq
  · intro hdistinct
    have hentries := (entries_build_iff graph).2 hdistinct
    refine ⟨hentries, fun x hx => get?_build_of_mem hdistinct hx, ?_⟩
    intro desk mode query limit hindex hquery hlimit
    refine ⟨_, congrArg Prod.fst (Engine.runAt_textSearch hquery mode limit desk), ?_⟩
    -- No more results than entities, so the limit cuts nothing off.
    have hlength := length_ranking_le hentries mode query
    rw [hindex, List.take_of_length_le (by omega)]
    exact ranking_perm hentries mode query

/-- A node that has only an id. -/
def bareNode (id : EntityId) : Node := ⟨id, none, none, [], [], []⟩

/-- Two nodes whose ids differ, one being the text of the other. -/
def homonyms : Snapshot := ⟨[bareNode (.int 1), bareNode (.text "1")], []⟩

/-- An integer and its text are different ids, but one of the two nodes is lost. -/
theorem build_homonyms :
    homonyms.nodeIds.Nodup ∧ homonyms.edgeIds.Nodup ∧
      (entries (build homonyms.nodes homonyms.edges)).length = 1 ∧
      ¬ IsComplete (build homonyms.nodes homonyms.edges) homonyms := by
  have hlost : (entries (build homonyms.nodes homonyms.edges)).length = 1 := by
    decide +kernel
  refine ⟨by decide, by decide, hlost, ?_⟩
  intro hcomplete
  rw [hcomplete.entries_eq] at hlost
  cases hlost

end SearchIndex

/-! ## Limits -/

namespace Engine

/-- Whether answers to the limits of a search are the results for the entries that are hit and ranked, as many as a
limit lets through; a greater limit only adds results at the end. -/
structure IsTopOf (index : SearchIndex) (mode : SearchMode) (query : String) (answer : Int → List SearchResult) :
    Prop where
  ranked : ∃! ranked, index.IsRanked mode query ranked ∧
    ∀ limit, answer limit = (ranked.map (mode.result query)).take (max limit 0).toNat
  grows : ∀ less more, less ≤ more → answer less <+: answer more

theorem isTopOf_take {index : SearchIndex} {mode : SearchMode} {query : String} {ranked : List IndexEntry}
    (h : index.IsRanked mode query ranked) :
    IsTopOf index mode query fun limit => (ranked.map (mode.result query)).take limit.toNat where
  ranked := by
    refine ⟨ranked, ⟨h, fun limit => ?_⟩, fun other hother => hother.1.unique h⟩
    have hlimit : limit.toNat = (max limit 0).toNat := by omega
    rw [hlimit]
  grows less more hle := List.take_prefix_take_left (by omega)

/-- A search gives the best of the entries that its query hits, each with its relevance and ties in index order. -/
theorem textSearch_isTopOf {query : String} (hquery : query ≠ "") (mode : SearchMode) (desk : Desk) :
    ∃ answer, IsTopOf desk.engine.index mode query answer ∧ ∀ limit : Int,
      runAt (textSearch (.text query) mode (.int limit)) desk = (.ok (answer limit), recorded desk (.text query)) := by
  obtain ⟨ranked, hranked, hresults⟩ := SearchIndex.exists_isRanked desk.engine.index mode query
  refine ⟨_, isTopOf_take hranked, fun limit => ?_⟩
  rw [runAt_textSearch hquery, hresults]

/-- A desk with an index of two nodes, of which the first one has the greater id. -/
def pairDesk : Desk where
  engine := { blank 0 {} .owned .empty (.withCapacity 20) with
    index := SearchIndex.build [SearchIndex.bareNode (.text "n2"), SearchIndex.bareNode (.text "n1")] [] }
  around := ⟨⟨⟨2024, 1, 1⟩, 0, 0, 0, 0, none⟩, none, .null, [], .usual⟩

theorem textSearch_isTopOf_pairDesk :
    "n" ≠ "" ∧ ∃ answer, IsTopOf pairDesk.engine.index {} "n" answer ∧ ∀ limit : Int,
      runAt (textSearch (.text "n") {} (.int limit)) pairDesk = (.ok (answer limit), recorded pairDesk (.text "n")) :=
  ⟨by decide, textSearch_isTopOf (by decide) {} pairDesk⟩

-- Both are as relevant, so the one that comes first in the index is the best.
example : (pairDesk.engine.index.ranking {} "n").map (·.entity.id) = [.text "n2", .text "n1"] := by
  rw [SearchIndex.ranking, List.mergeSort_of_pairwise (by decide +kernel)]
  decide +kernel

end Engine
end GraphQuery
