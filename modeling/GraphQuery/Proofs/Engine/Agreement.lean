import GraphQuery.Engine.Call
import GraphQuery.Proofs.Number.IntegerText
import GraphQuery.Proofs.Search.Index
import GraphQuery.Proofs.Search.ResultCache

/-!
# Agreement — two desks that differ in what quick searches left behind

Two desks agree if they are the same but for the cache, and what the cache of the first one holds is what
would be computed now (`Coherent`).  Operations simulate each other if they give the same answers at desks
that agree and leave desks that agree:

- `Engine.searchKey_inj` tells which quick searches share a key: those that are equal;
- `SimulatesAt` and `Simulates` are closed under the steps of which operations are made;
- rebuilding the index forgets the cache, so no entry outlives the index it was computed from.  This takes that all
  entities have texts: an index that cannot be completed replaces the old one all the same, and the cache stays
  (`Engine.runAt_buildIndex_of_not_hasTexts`).
-/

namespace GraphQuery

/-! ## Keys -/

@[simp] theorem Value.display_text (s : String) : (Value.text s).display = s :=
  rfl

@[simp] theorem Value.display_int (n : Int) : (Value.int n).display = Number.intText n :=
  rfl

namespace Engine

/-- The last letter of a scope's name is no dash. -/
theorem exists_scope_name_eq (scope : SearchScope) :
    ∃ front last, scope.name.toList = front ++ [last] ∧ last ≠ '-' := by
  cases scope with
  | all =>
      exact ⟨['a', 'l'], 'l', rfl, by decide⟩
  | nodes =>
      exact ⟨['n', 'o', 'd', 'e'], 's', rfl, by decide⟩
  | edges =>
      exact ⟨['e', 'd', 'g', 'e'], 's', rfl, by decide⟩

/-- A query followed by a dash and the name of a scope can be told apart, whatever the query ends in. -/
theorem dash_scope_inj {query query' : List Char} {scope scope' : SearchScope}
    (h : query ++ '-' :: scope.name.toList = query' ++ '-' :: scope'.name.toList) :
    query = query' ∧ scope = scope' := by
  -- Read from the end, no name of a scope begins another, and none holds a dash.
  have hreverse := congrArg List.reverse h
  cases scope <;> cases scope' <;> simp [SearchScope.name] at hreverse
  all_goals exact ⟨hreverse, rfl⟩

/-- The key of a quick search for a text and a number of answers. -/
def searchKey (query : String) (scope : SearchScope) (room : Int) : String :=
  query ++ "-" ++ scope.name ++ "-" ++ Number.intText room

/-- A search has its key unless its number has too many digits to be written. -/
theorem quickKey_eq (query : String) (scope : SearchScope) (room : Int) :
    quickKey (.text query) scope (.int room) =
      if (Value.int room).HasText then .ok (searchKey query scope room) else .error .longIntegerText := by
  rw [quickKey, Value.toText_text, Value.toText]
  by_cases hroom : (Value.int room).HasText
  · rw [if_pos hroom, if_neg (by rw [hroom]; exact Bool.false_ne_true)]
    rfl
  · rw [if_neg hroom, if_pos (by simpa using hroom)]
    rfl

theorem toList_searchKey (query : String) (scope : SearchScope) (room : Int) :
    (searchKey query scope room).toList =
      query.toList ++ '-' :: (scope.name.toList ++ '-' :: (Number.intText room).toList) := by
  simp [searchKey]

/-- Quick searches for texts share a key only if they are the same search. -/
theorem searchKey_inj {query query' : String} {scope scope' : SearchScope} {room room' : Int} :
    searchKey query scope room = searchKey query' scope' room' ↔
      query = query' ∧ scope = scope' ∧ room = room' := by
  constructor
  · intro h
    rcases exists_scope_name_eq scope with ⟨front, last, hname, hlast⟩
    rcases exists_scope_name_eq scope' with ⟨front', last', hname', hlast'⟩
    have hlist := congrArg String.toList h
    rw [toList_searchKey, toList_searchKey, hname, hname'] at hlist
    have hends : (query.toList ++ '-' :: front) ++ last :: '-' :: (Number.intText room).toList =
        (query'.toList ++ '-' :: front') ++ last' :: '-' :: (Number.intText room').toList := by
      simpa using hlist
    have hparts := Number.dash_intText_inj hlast hlast' hends
    have hfronts : query.toList ++ '-' :: scope.name.toList =
        query'.toList ++ '-' :: scope'.name.toList := by
      rw [hname, hname']
      simpa using hparts.1
    rcases dash_scope_inj hfronts with ⟨hquery, hscope⟩
    exact ⟨String.toList_inj.1 hquery, hscope, hparts.2⟩
  · rintro ⟨rfl, rfl, rfl⟩
    rfl

/-! ## What would be computed -/

/-- The answer of a quick search for a text that is not empty, computed from an index. -/
def freshAnswer (index : SearchIndex) (query : String) (scope : SearchScope) (room : Int) :
    QuickAnswer :=
  let results := (index.ranking scope.mode query).take room.toNat
  ⟨results, index.suggestions query (room.toNat - results.length : Int)⟩

/-- Whether an entry holds what is computed from an index for the search whose key it has. -/
def IsFresh (index : SearchIndex) (entry : String × QuickAnswer) : Prop :=
  ∃ query scope room, entry = (searchKey query scope room, freshAnswer index query scope room)

/-- What the cache holds is what would be computed now. -/
def Coherent (e : Engine) : Prop := ∀ entry ∈ e.cache.entries, IsFresh e.index entry

theorem Coherent.of_entries_eq_nil {e : Engine} (h : e.cache.entries = []) : Coherent e := by
  intro entry hentry
  rw [h] at hentry
  exact absurd hentry List.not_mem_nil

/-- Coherence is about the entries and the index alone. -/
theorem Coherent.congr {e e' : Engine} (h : Coherent e) (hentries : e'.cache.entries = e.cache.entries)
    (hindex : e'.index = e.index) : Coherent e' := by
  intro entry hentry
  rw [hindex]
  exact h entry (hentries ▸ hentry)

/-- A coherent cache answers a search as it would be computed. -/
theorem Coherent.eq_freshAnswer {e : Engine} (h : Coherent e) {query : String} {scope : SearchScope}
    {room : Int} {answer : QuickAnswer}
    (hheld : e.cache.find? (searchKey query scope room) = some answer) :
    answer = freshAnswer e.index query scope room := by
  obtain ⟨query', scope', room', hentry⟩ := h _ (ResultCache.mem_of_find? hheld)
  obtain ⟨hkey, rfl⟩ := Prod.mk.inj hentry
  -- Another search under the same key would be the same search.
  obtain ⟨rfl, rfl, rfl⟩ := searchKey_inj.1 hkey
  rfl

/-- Remembering what was just computed keeps a cache coherent, whatever it drops. -/
theorem Coherent.put {e : Engine} (h : Coherent e) (query : String) (scope : SearchScope) (room : Int) :
    Coherent
      { e with
        cache := e.cache.put (searchKey query scope room) (freshAnswer e.index query scope room) } :=
  ResultCache.forall_put ⟨query, scope, room, rfl⟩ h

end Engine

/-! ## Agreement -/

/-- The desk with another cache. -/
def Desk.withCache (desk : Desk) (cache : ResultCache QuickAnswer) : Desk :=
  { desk with engine := { desk.engine with cache } }

/-- The second desk is the first one up to its cache, and the cache of the first one is coherent. -/
structure Desk.Agrees (cached fresh : Desk) : Prop where
  same : ∃ cache, fresh = cached.withCache cache
  coherent : Engine.Coherent cached.engine

namespace Engine

variable {α β : Type}

/-- The answer of an operation at a desk, and the desk that it leaves. -/
def runAt (action : EngineM α) (desk : Desk) : Outcome α × Desk := action.run.run desk

/-- Two operations give the same answers at two desks, and leave desks that agree. -/
def SimulatesAt (cached fresh : Desk) (x y : EngineM α) : Prop :=
  (runAt x cached).1 = (runAt y fresh).1 ∧ (runAt x cached).2.Agrees (runAt y fresh).2

/-- Two operations give the same answers at desks that agree, and leave desks that agree. -/
def Simulates (x y : EngineM α) : Prop :=
  ∀ ⦃cached fresh : Desk⦄, cached.Agrees fresh → SimulatesAt cached fresh x y

theorem Simulates.ofOutcome (answer : Outcome α) :
    Simulates (Engine.ofOutcome answer) (Engine.ofOutcome answer) := by
  intro cached fresh h
  exact ⟨rfl, h⟩

theorem Simulates.pure (a : α) : Simulates (Pure.pure a) (Pure.pure a) := by
  intro cached fresh h
  exact ⟨rfl, h⟩

theorem Simulates.throw (e : Failure) :
    @Simulates α (MonadExcept.throw e) (MonadExcept.throw e) := by
  intro cached fresh h
  exact ⟨rfl, h⟩

theorem runAt_bind (x : EngineM α) (f : α → EngineM β) (desk : Desk) :
    runAt (x >>= f) desk =
      match runAt x desk with
      | (.ok a, after) => runAt (f a) after
      | (.error e, after) => (.error e, after) := by
  simp only [runAt, ExceptT.run_bind, StateT.run_bind]
  rcases hx : x.run.run desk with ⟨answer, after⟩
  cases answer with
  | ok a =>
      rfl
  | error e =>
      rfl

theorem runAt_ofOutcome_bind {answer : Outcome α} {a : α} (h : answer = .ok a) (f : α → EngineM β) (desk : Desk) :
    runAt (ofOutcome answer >>= f) desk = runAt (f a) desk := by
  rw [h]
  rfl

/-- Looking at the desk changes nothing. -/
theorem runAt_get_bind (f : Desk → EngineM α) (desk : Desk) :
    runAt (get >>= f) desk = runAt (f desk) desk :=
  rfl

/-- What goes on after an operation may count on its answer and on the desk that it has left. -/
theorem SimulatesAt.bind {cached fresh : Desk} {x y : EngineM α} {f g : α → EngineM β}
    (hx : SimulatesAt cached fresh x y)
    (hf : ∀ a after after', runAt x cached = (.ok a, after) → after.Agrees after' →
      SimulatesAt after after' (f a) (g a)) :
    SimulatesAt cached fresh (x >>= f) (y >>= g) := by
  obtain ⟨hanswer, hafter⟩ := hx
  rw [SimulatesAt, runAt_bind, runAt_bind]
  rcases hrun : runAt x cached with ⟨answer, after⟩
  rcases hrun' : runAt y fresh with ⟨answer', after'⟩
  rw [hrun, hrun'] at hanswer hafter
  subst hanswer
  cases answer with
  | ok a =>
      exact hf a after after' hrun hafter
  | error e =>
      exact ⟨rfl, hafter⟩

theorem Simulates.bind {x y : EngineM α} {f g : α → EngineM β} (hx : Simulates x y)
    (hf : ∀ a, Simulates (f a) (g a)) : Simulates (x >>= f) (y >>= g) :=
  fun _ _ h => SimulatesAt.bind (hx h) fun a _ _ _ hafter => hf a hafter

/-- What goes on after looking at the desk simulates itself if it does not look at the cache. -/
theorem Simulates.read {f : Desk → EngineM α} (hblind : ∀ desk cache, f (desk.withCache cache) = f desk)
    (hf : ∀ desk, Simulates (f desk) (f desk)) : Simulates (get >>= f) (get >>= f) := by
  intro cached fresh h
  rcases h.same with ⟨cache, rfl⟩
  rw [SimulatesAt, runAt_get_bind, runAt_get_bind, hblind]
  exact hf cached h

/-- A change of the engine simulates itself if it changes nothing but the cache according to the cache, and
keeps the cache coherent. -/
theorem Simulates.modifyEngine {f : Engine → Engine}
    (hblind : ∀ e cache, ∃ cache', f { e with cache } = { f e with cache := cache' })
    (hcoherent : ∀ e, Coherent e → Coherent (f e)) :
    Simulates (Engine.modifyEngine f) (Engine.modifyEngine f) := by
  intro cached fresh h
  rcases h.same with ⟨cache, rfl⟩
  rcases hblind cached.engine cache with ⟨cache', hcache⟩
  refine ⟨rfl, ⟨cache', ?_⟩, hcoherent _ h.coherent⟩
  exact congrArg (Desk.mk · cached.around) hcache

theorem Simulates.modifyAround (f : Surroundings → Surroundings) :
    Simulates (Engine.modifyAround f) (Engine.modifyAround f) := by
  intro cached fresh h
  rcases h.same with ⟨cache, rfl⟩
  exact ⟨rfl, ⟨cache, rfl⟩, h.coherent⟩

/-! ## Operations that leave the cache alone or clear it -/

theorem Simulates.recordQuery (query : Value) :
    Simulates (Engine.recordQuery query) (Engine.recordQuery query) := by
  refine Simulates.modifyEngine (fun e cache => ⟨cache, rfl⟩) ?_
  intro e h
  exact h.congr rfl rfl

theorem Simulates.clearHistory : Simulates Engine.clearHistory Engine.clearHistory := by
  refine Simulates.modifyEngine (fun e cache => ⟨cache, rfl⟩) ?_
  intro e h
  exact h.congr rfl rfl

theorem Simulates.snapshot : Simulates Engine.snapshot Engine.snapshot := by
  refine Simulates.read (fun desk cache => rfl) ?_
  intro desk
  exact Simulates.ofOutcome _

theorem Simulates.textSearch (query : Value) (mode : SearchMode) (limit : Value) :
    Simulates (Engine.textSearch query mode limit) (Engine.textSearch query mode limit) := by
  rw [Engine.textSearch]
  by_cases hquery : query.isTruthy = true
  · simp only [hquery, Bool.not_true, Bool.false_eq_true, if_false]
    refine Simulates.read (fun desk cache => rfl) ?_
    intro desk
    refine Simulates.bind (Simulates.ofOutcome _) ?_
    intro found
    refine Simulates.bind (Simulates.recordQuery query) ?_
    intro _
    refine Simulates.bind (Simulates.ofOutcome _) ?_
    intro count
    exact Simulates.pure _
  · simp only [hquery, Bool.not_false, if_true]
    exact Simulates.pure _

/-! ## Building the index -/

/-- The desk after the index has been built from a graph. -/
def indexed (desk : Desk) (graph : Snapshot) : Desk :=
  { desk with
    engine :=
      { desk.engine with
        index := SearchIndex.build graph.nodes graph.edges, cache := desk.engine.cache.clear } }

/-- The desk after an index has been begun that cannot be completed. -/
def halfIndexed (desk : Desk) (graph : Snapshot) : Desk :=
  { desk with engine := { desk.engine with index := (SearchIndex.rebuild graph.nodes graph.edges).1 } }

variable {desk : Desk} {graph : Snapshot}

theorem runAt_buildIndex_of_hasTexts (htexts : graph.HasTexts) (desk : Desk) :
    runAt (buildIndex graph.nodes graph.edges) desk = (.ok (), indexed desk graph) := by
  rw [buildIndex, SearchIndex.rebuild_of_hasTexts htexts]
  rfl

/-- What cannot be completed is left as it is, and so is the cache. -/
theorem runAt_buildIndex_of_not_hasTexts (htexts : ¬ graph.HasTexts) (desk : Desk) :
    runAt (buildIndex graph.nodes graph.edges) desk = (.error .longIntegerText, halfIndexed desk graph) := by
  have hfails := SearchIndex.rebuild_of_not_hasTexts htexts
  rw [buildIndex, halfIndexed]
  rcases hbuilt : SearchIndex.rebuild graph.nodes graph.edges with ⟨index, built⟩
  rw [hbuilt] at hfails
  cases hfails
  rfl

/-- Whether it can be completed or not, building an index leaves no entries in the cache but old ones. -/
theorem entries_buildIndex (graph : Snapshot) (desk : Desk) :
    (runAt (buildIndex graph.nodes graph.edges) desk).2.engine.cache.entries ⊆ desk.engine.cache.entries := by
  by_cases htexts : graph.HasTexts
  · rw [runAt_buildIndex_of_hasTexts htexts]
    exact List.nil_subset _
  · rw [runAt_buildIndex_of_not_hasTexts htexts]
    exact List.Subset.refl _

theorem runAt_updateIndex_of_ok (hgraph : desk.snapshot = .ok graph) :
    runAt updateIndex desk = runAt (buildIndex graph.nodes graph.edges) desk := by
  have hread : runAt snapshot desk = (desk.snapshot, desk) := rfl
  rw [updateIndex, runAt_bind, hread, hgraph]

theorem runAt_updateIndex_of_error {e : Failure} (hgraph : desk.snapshot = .error e) :
    runAt updateIndex desk = (.error e, desk) := by
  have hread : runAt snapshot desk = (desk.snapshot, desk) := rfl
  rw [updateIndex, runAt_bind, hread, hgraph]

/-- An index that has been built has been built from a graph with texts. -/
theorem exists_of_updateIndex_eq_ok {done : Unit} (h : (runAt updateIndex desk).1 = .ok done) :
    ∃ graph, desk.snapshot = .ok graph ∧ graph.HasTexts ∧ (runAt updateIndex desk).2 = indexed desk graph := by
  cases hgraph : desk.snapshot with
  | error e =>
      rw [runAt_updateIndex_of_error hgraph] at h
      cases h
  | ok graph =>
      rw [runAt_updateIndex_of_ok hgraph] at h ⊢
      by_cases htexts : graph.HasTexts
      · exact ⟨graph, rfl, htexts, congrArg Prod.snd (runAt_buildIndex_of_hasTexts htexts desk)⟩
      · rw [runAt_buildIndex_of_not_hasTexts htexts] at h
        cases h

/-- An index that is built is built without the cache, which is empty then. -/
theorem Simulates.buildIndex (htexts : graph.HasTexts) :
    Simulates (Engine.buildIndex graph.nodes graph.edges) (Engine.buildIndex graph.nodes graph.edges) := by
  intro cached fresh h
  obtain ⟨cache, rfl⟩ := h.same
  rw [SimulatesAt, runAt_buildIndex_of_hasTexts htexts, runAt_buildIndex_of_hasTexts htexts]
  exact ⟨rfl, ⟨cache.clear, rfl⟩, Coherent.of_entries_eq_nil (ResultCache.clear_entries _)⟩

/-- Both engines read the same graph. -/
theorem SimulatesAt.updateIndex {cached fresh : Desk} (h : cached.Agrees fresh)
    (htexts : ∀ graph, cached.snapshot = .ok graph → graph.HasTexts) :
    SimulatesAt cached fresh Engine.updateIndex Engine.updateIndex := by
  refine SimulatesAt.bind (Simulates.snapshot h) ?_
  intro graph after after' hread hafter
  have hgraph : cached.snapshot = .ok graph := congrArg Prod.fst hread
  exact Simulates.buildIndex (htexts graph hgraph) hafter

end Engine
end GraphQuery
