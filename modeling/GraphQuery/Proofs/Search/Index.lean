import GraphQuery.Proofs.Text.Scattered
import GraphQuery.Proofs.Value.Texts
import GraphQuery.Search.TextSearch
import Mathlib.Data.List.Induction
import Mathlib.Data.List.Nodup

/-!
# Text index — what it holds of a graph

The index is built by inserting the entries of nodes and then of edges under keys made of kind and id.  An entry
replaces the one that has its key, so:

- each key is held once, and under it the entry of the last entity that has it (`SearchIndex.get?_build`);
- all entities are held, in order, exactly if no two of a kind have ids of the same text
  (`SearchIndex.entries_build_iff`).

This is the index that is meant.  It is made if all entities have texts, and else the index stops at the first one
that has none (`SearchIndex.rebuild_of_hasTexts`, `SearchIndex.rebuild_of_not_hasTexts`).

A search finds the entries it is meant to find, arranged anew (`SearchIndex.ranking_perm`).
-/

namespace GraphQuery

/-! ## Keys -/

namespace Entity

/-- The key under which an entity is indexed. -/
def indexKey (x : Entity) : String := Index.key x.kind.name x.id.display

theorem entryKey_ofEntity (x : Entity) : SearchIndex.entryKey (IndexEntry.ofEntity x) = x.indexKey :=
  rfl

/-- A key tells the kind and the text of the id, but not whether the id is that text. -/
theorem indexKey_inj {x y : Entity} :
    x.indexKey = y.indexKey ↔ x.kind = y.kind ∧ x.id.display = y.id.display := by
  constructor
  · intro h
    have hchars := congrArg String.toList h
    simp only [indexKey, Index.key, String.toList_append] at hchars
    -- The names of the kinds differ in their first letters.
    cases hx : x.kind <;> cases hy : y.kind <;> simp [hx, hy, EntityKind.name] at hchars
    all_goals exact ⟨rfl, String.toList_inj.1 hchars⟩
  · rintro ⟨hkind, htext⟩
    rw [indexKey, indexKey, hkind, htext]

end Entity

namespace Snapshot

/-- The nodes and then the edges of a graph. -/
def entities (graph : Snapshot) : List Entity := graph.nodes.map .node ++ graph.edges.map .edge

/-- Whether all nodes and edges have texts to be searched. -/
def HasTexts (graph : Snapshot) : Prop := ∀ x ∈ graph.entities, x.HasText

instance : DecidablePred HasTexts :=
  fun graph => inferInstanceAs (Decidable (∀ x ∈ graph.entities, x.HasText))

/-- No two nodes have ids of the same text, and no two edges have. -/
structure HasDistinctIdTexts (graph : Snapshot) : Prop where
  nodes : (graph.nodes.map fun n => n.id.display).Nodup
  edges : (graph.edges.map fun e => e.id.display).Nodup

/-- Entities have different keys exactly if those of a kind have ids of different texts. -/
theorem nodup_indexKey_iff {graph : Snapshot} :
    (graph.entities.map Entity.indexKey).Nodup ↔ graph.HasDistinctIdTexts := by
  have hnodes : (graph.nodes.map fun n => (Entity.node n).indexKey).Nodup ↔
      (graph.nodes.map fun n => n.id.display).Nodup := by
    simp only [List.Nodup, List.pairwise_map, ne_eq, Entity.indexKey_inj, Entity.kind, Entity.id, true_and]
  have hedges : (graph.edges.map fun e => (Entity.edge e).indexKey).Nodup ↔
      (graph.edges.map fun e => e.id.display).Nodup := by
    simp only [List.Nodup, List.pairwise_map, ne_eq, Entity.indexKey_inj, Entity.kind, Entity.id, true_and]
  have hapart : ∀ n ∈ graph.nodes, ∀ e ∈ graph.edges,
      (Entity.node n).indexKey ≠ (Entity.edge e).indexKey := by
    intro n _ e _ h
    cases (Entity.indexKey_inj.1 h).1
  rw [entities, List.map_append, List.map_map, List.map_map, List.nodup_append]
  constructor
  · rintro ⟨hn, he, -⟩
    exact ⟨hnodes.1 hn, hedges.1 he⟩
  · rintro ⟨hn, he⟩
    refine ⟨hnodes.2 hn, hedges.2 he, ?_⟩
    intro key hkey key' hkey'
    obtain ⟨n, hn, rfl⟩ := List.mem_map.1 hkey
    obtain ⟨e, he, rfl⟩ := List.mem_map.1 hkey'
    exact hapart n hn e he

end Snapshot

namespace SearchIndex

variable {index : SearchIndex} {entry : IndexEntry}

/-! ## Inserting -/

/-- A known key keeps its place, a new one comes last. -/
theorem keys_insert (index : SearchIndex) (entry : IndexEntry) :
    keys (insert index entry) =
      if entryKey entry ∈ keys index then keys index else keys index ++ [entryKey entry] := by
  induction index with
  | nil =>
      rfl
  | cons first rest ih =>
      obtain ⟨key, old⟩ := first
      by_cases hkey : key = entryKey entry
      · simp [insert, keys, hkey]
      · have hne : entryKey entry ≠ key := fun h => hkey h.symm
        rw [insert, if_neg hkey]
        show key :: keys (insert rest entry) = if entryKey entry ∈ key :: keys rest then _ else _
        rw [ih]
        by_cases hmem : entryKey entry ∈ keys rest
        · rw [if_pos hmem, if_pos (List.mem_cons_of_mem _ hmem)]
          rfl
        · rw [if_neg hmem, if_neg (by simp [hne, hmem])]
          rfl

/-- What is held under a key after an entry has been inserted. -/
theorem find?_insert (index : SearchIndex) (entry : IndexEntry) (key : String) :
    (insert index entry).find? (·.1 = key) =
      if entryKey entry = key then some (key, entry) else index.find? (·.1 = key) := by
  induction index with
  | nil =>
      by_cases h : entryKey entry = key <;> simp [insert, h]
  | cons first rest ih =>
      obtain ⟨known, old⟩ := first
      by_cases hknown : known = entryKey entry
      · subst hknown
        by_cases h : entryKey entry = key <;> simp [insert, h]
      · rw [insert, if_neg hknown, List.find?_cons, List.find?_cons, ih]
        by_cases hkey : known = key
        · subst hkey
          have hne : ¬ entryKey entry = known := fun h => hknown h.symm
          simp [hne]
        · simp [hkey]

/-- An entry with a new key is put at the end. -/
theorem insert_of_not_mem (h : entryKey entry ∉ keys index) :
    insert index entry = index ++ [(entryKey entry, entry)] := by
  induction index with
  | nil =>
      rfl
  | cons first rest ih =>
      obtain ⟨key, old⟩ := first
      have hkey : key ≠ entryKey entry := by
        rintro rfl
        exact h List.mem_cons_self
      have hrest : entryKey entry ∉ keys rest := fun hmem => h (List.mem_cons_of_mem _ hmem)
      rw [insert, if_neg hkey, ih hrest]
      rfl

/-! ## Building -/

/-- Adds the entries of entities to an index. -/
def insertAll (index : SearchIndex) (xs : List Entity) : SearchIndex :=
  xs.foldl (fun index x => insert index (IndexEntry.ofEntity x)) index

theorem build_eq (graph : Snapshot) : build graph.nodes graph.edges = insertAll [] graph.entities :=
  rfl

theorem addAll_of_hasText {xs : List Entity} (h : ∀ x ∈ xs, x.HasText) (index : SearchIndex) :
    addAll index xs = (insertAll index xs, .ok ()) := by
  induction xs generalizing index with
  | nil =>
      rfl
  | cons x rest ih =>
      obtain ⟨hx, hrest⟩ := List.forall_mem_cons.1 h
      rw [addAll, hx.searchableText]
      exact ih hrest _

/-- Adding entities stops at the first one that has no text. -/
theorem addAll_of_not_hasText {xs : List Entity} (h : ¬∀ x ∈ xs, x.HasText) (index : SearchIndex) :
    (addAll index xs).2 = .error .longIntegerText := by
  induction xs generalizing index with
  | nil =>
      exact absurd (List.forall_mem_nil _) h
  | cons x rest ih =>
      rw [List.forall_mem_cons] at h
      rw [addAll]
      cases htext : x.searchableText with
      | error e =>
          obtain ⟨-, rfl⟩ := Entity.searchableText_eq_error htext
          rfl
      | ok raw =>
          exact ih (fun hrest => h ⟨(Entity.searchableText_eq_ok htext).1, hrest⟩) _

theorem rebuild_of_hasTexts {graph : Snapshot} (h : graph.HasTexts) :
    rebuild graph.nodes graph.edges = (build graph.nodes graph.edges, .ok ()) :=
  addAll_of_hasText h []

theorem rebuild_of_not_hasTexts {graph : Snapshot} (h : ¬ graph.HasTexts) :
    (rebuild graph.nodes graph.edges).2 = .error .longIntegerText :=
  addAll_of_not_hasText h []

/-- Each key is held once, together with the entry that has it. -/
structure IsKeyed (index : SearchIndex) : Prop where
  distinct : (keys index).Nodup
  keys_eq : keys index = (entries index).map entryKey

theorem IsKeyed.insert (h : IsKeyed index) (entry : IndexEntry) : IsKeyed (insert index entry) := by
  have hown : ∀ held ∈ SearchIndex.insert index entry, held.1 = entryKey held.2 := by
    have hheld : ∀ held ∈ index, held.1 = entryKey held.2 := by
      have heq := h.keys_eq
      rw [keys, entries, List.map_map] at heq
      exact List.map_inj_left.1 heq
    clear h
    induction index with
    | nil =>
        exact List.forall_mem_singleton.2 rfl
    | cons first rest ih =>
        obtain ⟨hfirst, hrest⟩ := List.forall_mem_cons.1 hheld
        rw [SearchIndex.insert]
        split_ifs with hkey
        · exact List.forall_mem_cons.2 ⟨hkey, hrest⟩
        · exact List.forall_mem_cons.2 ⟨hfirst, ih hrest⟩
  refine ⟨?_, ?_⟩
  · rw [keys_insert]
    split_ifs with hmem
    · exact h.distinct
    · rw [List.nodup_append]
      refine ⟨h.distinct, List.nodup_singleton _, ?_⟩
      rintro key hkey _ hlast rfl
      exact hmem (List.mem_singleton.1 hlast ▸ hkey)
  · rw [keys, entries, List.map_map]
    exact List.map_inj_left.2 hown

theorem IsKeyed.insertAll (h : IsKeyed index) (xs : List Entity) : IsKeyed (insertAll index xs) := by
  induction xs generalizing index with
  | nil =>
      exact h
  | cons x rest ih =>
      exact ih (h.insert (IndexEntry.ofEntity x))

theorem IsKeyed.nil : IsKeyed [] where
  distinct := List.nodup_nil
  keys_eq := rfl

/-- An index that has been built is keyed, whatever it has been built from. -/
theorem isKeyed_build (graph : Snapshot) : IsKeyed (build graph.nodes graph.edges) :=
  IsKeyed.nil.insertAll graph.entities

theorem mem_entries_insert {other : IndexEntry} (h : other ∈ entries (insert index entry)) :
    other = entry ∨ other ∈ entries index := by
  induction index with
  | nil =>
      exact Or.inl (List.mem_singleton.1 h)
  | cons first rest ih =>
      rw [SearchIndex.insert] at h
      split_ifs at h
      · exact (List.mem_cons.1 h).imp_right (List.mem_cons_of_mem _)
      · rcases List.mem_cons.1 h with hfirst | hrest
        · exact Or.inr (hfirst ▸ List.mem_cons_self)
        · exact (ih hrest).imp_right (List.mem_cons_of_mem _)

/-- An index that has been built holds entries as they are made of entities. -/
theorem eq_ofEntity_of_mem_build {graph : Snapshot} (h : entry ∈ entries (build graph.nodes graph.edges)) :
    entry = IndexEntry.ofEntity entry.entity := by
  have hall : ∀ (xs : List Entity) (index : SearchIndex),
      (∀ held ∈ entries index, held = IndexEntry.ofEntity held.entity) →
        ∀ held ∈ entries (insertAll index xs), held = IndexEntry.ofEntity held.entity := by
    intro xs
    induction xs with
    | nil =>
        exact fun _ hindex => hindex
    | cons x rest ih =>
        intro index hindex
        refine ih (SearchIndex.insert index (IndexEntry.ofEntity x)) fun held hheld => ?_
        rcases mem_entries_insert hheld with rfl | hheld
        · rfl
        · exact hindex held hheld
  exact hall graph.entities [] (fun _ hnone => absurd hnone List.not_mem_nil) entry h

/-- Entities whose keys are new and distinct are all added, in order. -/
theorem insertAll_of_nodup {xs : List Entity} (h : (keys index ++ xs.map Entity.indexKey).Nodup) :
    insertAll index xs = index ++ xs.map fun x => (x.indexKey, IndexEntry.ofEntity x) := by
  induction xs generalizing index with
  | nil =>
      exact (List.append_nil index).symm
  | cons x rest ih =>
      have hsplit : keys index ++ (x :: rest).map Entity.indexKey =
          keys (index ++ [(x.indexKey, IndexEntry.ofEntity x)]) ++ rest.map Entity.indexKey := by
        simp [keys]
      have hnew : entryKey (IndexEntry.ofEntity x) ∉ keys index := by
        intro hmem
        exact (List.nodup_append.1 h).2.2 _ hmem _ List.mem_cons_self rfl
      show insertAll (SearchIndex.insert index (IndexEntry.ofEntity x)) rest = _
      rw [hsplit] at h
      rw [insert_of_not_mem hnew, Entity.entryKey_ofEntity, ih h]
      simp

/-- The index holds every entity, in order, exactly if no two of a kind have ids of the same text. -/
theorem entries_build_iff (graph : Snapshot) :
    entries (build graph.nodes graph.edges) = graph.entities.map IndexEntry.ofEntity ↔
      graph.HasDistinctIdTexts := by
  rw [← Snapshot.nodup_indexKey_iff]
  constructor
  · intro hall
    have hkeyed := isKeyed_build graph
    have hkeys := hkeyed.keys_eq
    rw [hall, List.map_map] at hkeys
    exact hkeys ▸ hkeyed.distinct
  · intro hdistinct
    rw [build_eq, insertAll_of_nodup (by simpa [keys] using hdistinct), entries]
    simp

/-- Under each key stands what is left of the last entity that has it. -/
theorem find?_insertAll (index : SearchIndex) (xs : List Entity) (key : String) :
    (insertAll index xs).find? (·.1 = key) =
      (((xs.filter (·.indexKey = key)).getLast?).map fun x => (key, IndexEntry.ofEntity x)).or
        (index.find? (·.1 = key)) := by
  -- On the last entity, which takes its key from all others.
  induction xs using List.reverseRecOn with
  | nil =>
      rfl
  | append_singleton xs x ih =>
      have hlast : insertAll index (xs ++ [x]) =
          SearchIndex.insert (insertAll index xs) (IndexEntry.ofEntity x) := by
        rw [insertAll, List.foldl_append]
        rfl
      rw [hlast, find?_insert, Entity.entryKey_ofEntity, ih, List.filter_append]
      by_cases hkey : x.indexKey = key
      · simp [hkey]
      · simp [hkey]

/-- What the index gives for a kind and the text of an id is the entry of the last such entity. -/
theorem get?_build (graph : Snapshot) (kind id : String) :
    get? (build graph.nodes graph.edges) kind id =
      ((graph.entities.filter (·.indexKey = Index.key kind id)).getLast?).map IndexEntry.ofEntity := by
  rw [get?, build_eq, find?_insertAll]
  simp [Option.map_map, Function.comp_def]

/-- Where no other entity of the kind has an id of the same text, this is the entity's own entry. -/
theorem get?_build_of_mem {graph : Snapshot} (hdistinct : graph.HasDistinctIdTexts) {x : Entity}
    (hx : x ∈ graph.entities) :
    get? (build graph.nodes graph.edges) x.kind.name x.id.display = some (IndexEntry.ofEntity x) := by
  have hkeys := Snapshot.nodup_indexKey_iff.2 hdistinct
  have hkey : Index.key x.kind.name x.id.display = x.indexKey := rfl
  rw [get?_build, hkey]
  have hself : x ∈ graph.entities.filter (·.indexKey = x.indexKey) :=
    List.mem_filter.2 ⟨hx, decide_eq_true rfl⟩
  cases hlast : (graph.entities.filter (·.indexKey = x.indexKey)).getLast? with
  | none =>
      rw [List.getLast?_eq_none_iff.1 hlast] at hself
      exact absurd hself List.not_mem_nil
  | some y =>
      obtain ⟨hy, hsame⟩ := List.mem_filter.1 (List.mem_of_getLast? hlast)
      have hyx : y = x := List.inj_on_of_nodup_map hkeys hy hx (of_decide_eq_true hsame)
      rw [hyx]
      rfl

end SearchIndex

/-! ## Searching -/

namespace SearchMode

/-- Whether a search hits an entry: entries of the kind are looked at, and the text that is searched contains what
is searched for, or holds its characters in order. -/
def IsHit (mode : SearchMode) (query : String) (entry : IndexEntry) : Prop :=
  mode.covers entry.kind = true ∧
    if mode.exact then (mode.needle query).toList <:+: (mode.haystack entry).toList
    else (mode.needle query).toList.Sublist (mode.haystack entry).toList

theorem finds_iff {mode : SearchMode} {query : String} {entry : IndexEntry} :
    mode.finds query entry = true ↔ mode.IsHit query entry := by
  rw [finds, IsHit, Bool.and_eq_true]
  refine and_congr_right fun _ => ?_
  split_ifs
  · exact Text.contains_iff
  · exact Text.isScattered_iff

instance (mode : SearchMode) (query : String) : DecidablePred (mode.IsHit query) :=
  fun _ => decidable_of_iff _ finds_iff

/-- Whether a search is meant to find an entity: entities of the kind are looked at, and the searchable text
contains the query, or holds its characters in order, letter case minded or not. -/
def IsMatch (mode : SearchMode) (query : String) (x : Entity) : Prop :=
  mode.covers x.kind = true ∧
    let text := if mode.caseSensitive then x.rawText else Text.lowercase x.rawText
    let wanted := if mode.caseSensitive then query else Text.lowercase query
    if mode.exact then wanted.toList <:+: text.toList else wanted.toList.Sublist text.toList

theorem finds_ofEntity_iff {mode : SearchMode} {query : String} {x : Entity} :
    mode.finds query (IndexEntry.ofEntity x) = true ↔ mode.IsMatch query x :=
  finds_iff

instance (mode : SearchMode) (query : String) : DecidablePred (mode.IsMatch query) :=
  fun _ => decidable_of_iff _ finds_ofEntity_iff

end SearchMode

namespace SearchIndex

/-- Entities by descending score; those of equal score keep their order. -/
def byScore (mode : SearchMode) (query : String) (xs : List Entity) : List Entity :=
  xs.mergeSort fun x y =>
    (mode.score query (.ofEntity y)).toRat ≤ (mode.score query (.ofEntity x)).toRat

/-- All results of a search show the entities that are meant to be found, by descending score. -/
theorem map_entity_ranking {index : SearchIndex} {xs : List Entity}
    (hentries : entries index = xs.map IndexEntry.ofEntity) (mode : SearchMode) (query : String) :
    (ranking index mode query).map (·.entity) = byScore mode query (xs.filter (mode.IsMatch query)) := by
  let result (x : Entity) : SearchResult := ⟨x, mode.score query (.ofEntity x)⟩
  have hfound : ((entries index).filter (mode.finds query)).map
      (fun entry => SearchResult.mk entry.entity (mode.score query entry)) =
        (xs.filter (mode.IsMatch query)).map result := by
    rw [hentries, List.filter_map, List.map_map]
    refine congrArg (List.map result) (List.filter_congr ?_)
    intro x _
    rw [Bool.eq_iff_iff, decide_eq_true_iff]
    exact SearchMode.finds_ofEntity_iff
  have hsorted : (byScore mode query (xs.filter (mode.IsMatch query))).map result =
      ((xs.filter (mode.IsMatch query)).map result).mergeSort fun a b => b.score.toRat ≤ a.score.toRat :=
    List.map_mergeSort fun _ _ _ _ => rfl
  have hentity : (fun r : SearchResult => r.entity) ∘ result = id := rfl
  rw [ranking, hfound, ← hsorted, List.map_map, hentity, List.map_id]

/-- Each of these entities is shown as often as it is held. -/
theorem ranking_perm {index : SearchIndex} {xs : List Entity}
    (hentries : entries index = xs.map IndexEntry.ofEntity) (mode : SearchMode) (query : String) :
    ((ranking index mode query).map (·.entity)).Perm (xs.filter (mode.IsMatch query)) := by
  rw [map_entity_ranking hentries]
  exact List.mergeSort_perm _ _

end SearchIndex
end GraphQuery
