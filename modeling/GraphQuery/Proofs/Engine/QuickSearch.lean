import GraphQuery.Proofs.Engine.Agreement
import GraphQuery.Proofs.Outcome

/-!
# Quick search — the cache does not show

`Engine.quickSearchAnew` computes every answer from the index.  An engine that uses it in place of
`Engine.quickSearch` goes through the same answers, failures and query histories over every sequence of
calls (`Engine.quickSearch_cache_invisible`):

- a hit gives what would be computed, and records the query as computing would;
- a miss computes, and remembers under a key that no other search has;
- whatever rebuilds the index forgets the cache, and what fails before has changed neither.

An integer of thousands of digits has no text.  In the number of a search it leaves the search without a key, and in an
entity it ends the building of the index before the cache is forgotten; so the calls are to find the texts that they
write (`Engine.FindTexts`).
-/

namespace GraphQuery
namespace Engine

/-- Quick search that remembers nothing. -/
def quickSearchAnew (query : Value) (scope : SearchScope) (room : Value) : EngineM QuickAnswer := do
  if !query.isTruthy then return ⟨[], []⟩
  else
    let results ← textSearch query scope.mode room
    let count ← ofOutcome (SearchIndex.limitCount room)
    let suggestions := (← get).engine.index.suggestions query.display (count - results.length : Int)
    return ⟨results, suggestions⟩

/-! ## One quick search -/

theorem isTruthy_text {query : String} (h : query ≠ "") : (Value.text query).isTruthy = true :=
  decide_eq_true h

theorem limitCount_int (n : Int) : SearchIndex.limitCount (.int n) = .ok n.toNat := by
  have hless : (Extended.ofInt n).less (.exact 0) = decide (n < 0) :=
    decide_eq_decide.2 Rat.intCast_neg_iff
  by_cases hn : n < 0
  · have hzero : n.toNat = 0 := by omega
    simp [SearchIndex.limitCount, Value.number?, hless, hn, hzero]
  · simp [SearchIndex.limitCount, Value.number?, hless, hn]

/-- The desk after a query has been recorded. -/
def recorded (desk : Desk) (query : Value) : Desk :=
  { desk with engine := { desk.engine with history := desk.engine.history.add query } }

theorem runAt_textSearch {query : String} (hquery : query ≠ "") (mode : SearchMode) (room : Int)
    (desk : Desk) :
    runAt (textSearch (.text query) mode (.int room)) desk =
      (.ok ((desk.engine.index.ranking mode query).take room.toNat), recorded desk (.text query)) := by
  rw [textSearch]
  simp only [isTruthy_text hquery, Bool.not_true, Bool.false_eq_true, if_false]
  -- A limit that is an integer is not null, so the settings do not come in.
  show runAt (do
    let found ← ofOutcome (.ok (desk.engine.index.ranking mode query))
    recordQuery (.text query)
    let count ← ofOutcome (SearchIndex.limitCount (.int room))
    return found.take count) desk = _
  rw [limitCount_int]
  rfl

/-- Computing an answer gives the fresh one and records the query. -/
theorem runAt_quickSearchAnew {query : String} (hquery : query ≠ "") (scope : SearchScope)
    (room : Int) (desk : Desk) :
    runAt (quickSearchAnew (.text query) scope (.int room)) desk =
      (.ok (freshAnswer desk.engine.index query scope room), recorded desk (.text query)) := by
  rw [quickSearchAnew]
  simp only [isTruthy_text hquery, Bool.not_true, Bool.false_eq_true, if_false]
  rw [runAt_bind, runAt_textSearch hquery, limitCount_int]
  rfl

/-- A search whose key cannot be written ends before anything is looked up. -/
theorem runAt_quickSearch_of_not_hasText {query : String} (hquery : query ≠ "") (scope : SearchScope)
    {room : Int} (hroom : ¬ (Value.int room).HasText) (desk : Desk) :
    runAt (quickSearch (.text query) scope (.int room)) desk = (.error .longIntegerText, desk) := by
  rw [quickSearch, quickKey_eq, if_neg hroom]
  simp only [isTruthy_text hquery, Bool.not_true, Bool.false_eq_true, if_false]
  rfl

/-- A search whose answer is held gives that answer and records the query. -/
theorem runAt_quickSearch_of_some {query : String} (hquery : query ≠ "") {scope : SearchScope}
    {room : Int} (hroom : (Value.int room).HasText) {desk : Desk} {answer : QuickAnswer}
    (hheld : desk.engine.cache.find? (searchKey query scope room) = some answer) :
    runAt (quickSearch (.text query) scope (.int room)) desk =
      (.ok answer, (recorded desk (.text query)).withCache
        (desk.engine.cache.get (searchKey query scope room)).1) := by
  rw [← ResultCache.get_snd] at hheld
  rw [quickSearch, quickKey_eq, if_pos hroom]
  simp only [isTruthy_text hquery, Bool.not_true, Bool.false_eq_true, if_false]
  rcases hget : desk.engine.cache.get (searchKey query scope room) with ⟨cache, held⟩
  rw [hget] at hheld
  rw [runAt_ofOutcome_bind rfl, runAt_get_bind, hget]
  cases hheld
  rfl

/-- A search whose answer is not held computes it and remembers it. -/
theorem runAt_quickSearch_of_none {query : String} (hquery : query ≠ "") {scope : SearchScope}
    {room : Int} (hroom : (Value.int room).HasText) {desk : Desk}
    (hheld : desk.engine.cache.find? (searchKey query scope room) = none) :
    runAt (quickSearch (.text query) scope (.int room)) desk =
      (.ok (freshAnswer desk.engine.index query scope room),
        (recorded desk (.text query)).withCache
          ((desk.engine.cache.get (searchKey query scope room)).1.put (searchKey query scope room)
            (freshAnswer desk.engine.index query scope room))) := by
  rw [← ResultCache.get_snd] at hheld
  rw [quickSearch, quickKey_eq, if_pos hroom]
  simp only [isTruthy_text hquery, Bool.not_true, Bool.false_eq_true, if_false]
  rcases hget : desk.engine.cache.get (searchKey query scope room) with ⟨cache, held⟩
  rw [hget] at hheld
  rw [runAt_ofOutcome_bind rfl, runAt_get_bind, hget]
  cases hheld
  -- What is computed is computed at the desk with the lookup counted.
  show runAt (modifyEngine (fun e => { e with cache }) >>= fun _ =>
    textSearch (.text query) scope.mode (.int room) >>= _) desk = _
  rw [runAt_bind]
  show runAt (textSearch (.text query) scope.mode (.int room) >>= _) (desk.withCache cache) = _
  rw [runAt_bind, runAt_textSearch hquery, limitCount_int]
  rfl

/-- Remembering answers does not show in a single quick search, and leaves the cache coherent. -/
theorem Simulates.quickSearch (query : String) (scope : SearchScope) {room : Int}
    (hroom : (Value.int room).HasText) :
    Simulates (Engine.quickSearch (.text query) scope (.int room))
      (quickSearchAnew (.text query) scope (.int room)) := by
  intro cached fresh h
  rcases h.same with ⟨cache, rfl⟩
  by_cases hquery : query = ""
  · subst hquery
    exact ⟨rfl, ⟨cache, rfl⟩, h.coherent⟩
  · rw [SimulatesAt, runAt_quickSearchAnew hquery]
    rcases hheld : cached.engine.cache.find? (searchKey query scope room) with _ | answer
    · -- A miss: what is remembered is what was computed from this index.
      rw [runAt_quickSearch_of_none hquery hroom hheld]
      have hcounted : Coherent { cached.engine with
          cache := (cached.engine.cache.get (searchKey query scope room)).1 } :=
        h.coherent.congr (ResultCache.get_entries _ _) rfl
      refine ⟨rfl, ⟨cache, rfl⟩, ?_⟩
      exact (hcounted.put query scope room).congr rfl rfl
    · -- A hit: the entry is still what would be computed.
      rw [runAt_quickSearch_of_some hquery hroom hheld]
      refine ⟨congrArg Except.ok (h.coherent.eq_freshAnswer hheld), ⟨cache, rfl⟩, ?_⟩
      exact h.coherent.congr (ResultCache.get_entries _ _) rfl

/-! ## Calls -/

/-- A call of an engine that searches, or that changes what is searched. -/
inductive SearchCall where
  | quickSearch (query scope : String) (room : Int)
  | textSearch (arguments : String → Value)
  | suggestions (typed limit : Value)
  | advancedSearch (arguments : Fields)
  | clearHistory
  | buildIndex (nodes : List Node) (edges : List Edge)
  | updateIndex
  | load (nodes edges : Value) (rebuild : Bool)
  /-- Something around the engine changes: its store, its clock, the graph it is given. -/
  | surroundings (change : Surroundings → Surroundings)

/-- The operation that a call runs, with quick search carried out in the given way. -/
def SearchCall.perform (quick : Value → SearchScope → Value → EngineM QuickAnswer) :
    SearchCall → EngineM Answer
  | quickSearch query scope room =>
    match SearchScope.ofName? scope with
    | none => throw (.argument (.scope (.text scope)))
    | some scope => return .quick (← quick (.text query) scope (.int room))
  | textSearch arguments => return .results (← Call.textSearch arguments)
  | suggestions typed limit => return .texts (← Call.suggestions typed limit)
  | advancedSearch arguments => do
    let query ← ofOutcome (AdvancedQuery.ofFields arguments)
    return .filtered (some (← Engine.advancedSearch query))
  | clearHistory => do
    Engine.clearHistory
    return .nothing
  | buildIndex nodes edges => do
    Engine.buildIndex nodes edges
    return .count (← get).engine.index.length
  | updateIndex => do
    Engine.updateIndex
    return .nothing
  | load nodes edges rebuild => do
    Engine.load nodes edges rebuild
    return .nothing
  | surroundings change => do
    modifyAround change
    return .nothing

/-- Carried out with the cache, a quick search is the operation that is called by its name. -/
theorem SearchCall.perform_quickSearch {arguments : String → Value} {query scope : String} {room : Int}
    (hquery : arguments "query" = .text query) (hscope : arguments "scope" = .text scope)
    (hroom : arguments "max_suggestions" = .int room) :
    perform Engine.quickSearch (.quickSearch query scope room) =
      (do return .quick (← Call.quickSearch arguments)) := by
  rw [perform, Call.quickSearch, hquery, hscope, hroom]
  cases hname : SearchScope.ofName? scope with
  | none =>
      simp only [Value.text?, Option.bind_some, hname]
      rfl
  | some scope =>
      simp only [Value.text?, Option.bind_some, hname]

theorem Simulates.suggestions (typed limit : Value) :
    Simulates (Call.suggestions typed limit) (Call.suggestions typed limit) := by
  rw [Call.suggestions]
  by_cases htyped : typed.isTruthy = true
  · simp only [htyped, Bool.not_true, Bool.false_eq_true, if_false]
    rcases limit.number? with _ | place
    · exact Simulates.throw _
    · by_cases hplace : place.atMost (.exact 0) = true
      · simp only [hplace, if_true]
        exact Simulates.pure _
      · simp only [hplace, Bool.false_eq_true, if_false]
        refine Simulates.bind (Simulates.ofOutcome _) ?_
        intro query
        refine Simulates.read (fun desk cache => rfl) ?_
        intro desk
        refine Simulates.read (fun desk cache => rfl) ?_
        intro desk
        exact Simulates.pure _
  · simp only [htyped, Bool.not_false, if_true]
    exact Simulates.pure _

theorem Simulates.advancedSearch (query : AdvancedQuery) :
    Simulates (Engine.advancedSearch query) (Engine.advancedSearch query) := by
  rw [Engine.advancedSearch]
  refine Simulates.bind Simulates.snapshot ?_
  intro graph
  by_cases htext : query.text.isTruthy = true
  · simp only [htext, if_true]
    refine Simulates.bind (Simulates.textSearch _ _ _) ?_
    intro hits
    exact Simulates.bind (Simulates.pure _) fun found => Simulates.ofOutcome _
  · simp only [htext, Bool.false_eq_true, if_false]
    exact Simulates.ofOutcome _

/-- The graph that is loaded from given nodes and edges. -/
def readGraph (nodes edges : Value) : Outcome Snapshot := do
  let nodes ← Snapshot.iterated nodes
  let edges ← Snapshot.iterated edges
  (Check.snapshot (.list nodes) (.list edges)).toOutcome

theorem load_eq (nodes edges : Value) (rebuild : Bool) :
    Engine.load nodes edges rebuild = get >>= fun desk =>
      if desk.engine.source = .owned then
        ofOutcome (readGraph nodes edges) >>= fun owned =>
          modifyEngine (fun e => { e with owned }) >>= fun _ => if rebuild then updateIndex else pure ()
      else ofOutcome (.error .boundElsewhere) := by
  rw [Engine.load]
  refine congrArg (get >>= ·) (funext fun desk => ?_)
  by_cases hsource : desk.engine.source = .owned
  · rw [if_neg (not_not.2 hsource), if_pos hsource, readGraph]
    rcases Snapshot.iterated nodes with e | nodes
    · rfl
    · rcases Snapshot.iterated edges with e | edges
      · rfl
      · rfl
  · rw [if_pos hsource, if_neg hsource]
    rfl

/-- Data that is refused leaves the index and the cache as they are, and so does data that is not indexed. -/
theorem SimulatesAt.load {cached fresh : Desk} (h : cached.Agrees fresh) {nodes edges : Value} {rebuild : Bool}
    (htexts : rebuild = true → ∀ graph, readGraph nodes edges = .ok graph → graph.HasTexts) :
    SimulatesAt cached fresh (Engine.load nodes edges rebuild) (Engine.load nodes edges rebuild) := by
  obtain ⟨cache, rfl⟩ := h.same
  rw [load_eq, SimulatesAt, runAt_get_bind, runAt_get_bind]
  by_cases hsource : cached.engine.source = .owned
  · rw [if_pos hsource, if_pos (show (cached.withCache cache).engine.source = .owned from hsource)]
    cases hread : readGraph nodes edges with
    | error e =>
        exact ⟨rfl, h⟩
    -- The graph is replaced in both engines; then the index is built anew, or index and cache both stay.
    | ok owned =>
        have hafter : Desk.Agrees { cached with engine := { cached.engine with owned } }
            { cached.withCache cache with engine := { (cached.withCache cache).engine with owned } } :=
          ⟨⟨cache, rfl⟩, h.coherent.congr rfl rfl⟩
        cases rebuild with
        | false =>
            exact ⟨rfl, hafter⟩
        | true =>
            refine SimulatesAt.updateIndex hafter ?_
            intro graph hgraph
            rw [Desk.snapshot, hsource] at hgraph
            cases hgraph
            exact htexts rfl _ hread
  · rw [if_neg hsource, if_neg (show (cached.withCache cache).engine.source ≠ .owned from hsource)]
    exact ⟨rfl, h⟩

/-- Whether there is a text for whatever a call writes on its way: the number in the key of a quick search, and the
entities that are to be indexed. -/
def SearchCall.HasTexts (desk : Desk) : SearchCall → Prop
  | quickSearch _ _ room => (Value.int room).HasText
  | buildIndex nodes edges => Snapshot.HasTexts ⟨nodes, edges⟩
  | updateIndex => ∀ graph, desk.snapshot = .ok graph → graph.HasTexts
  | load nodes edges rebuild => rebuild = true → ∀ graph, readGraph nodes edges = .ok graph → graph.HasTexts
  | textSearch _ | suggestions .. | advancedSearch _ | clearHistory | surroundings _ => True

instance (desk : Desk) (call : SearchCall) : Decidable (call.HasTexts desk) :=
  match call with
  | .quickSearch _ _ room => inferInstanceAs (Decidable (Value.int room).HasText)
  | .buildIndex nodes edges => inferInstanceAs (Decidable (Snapshot.HasTexts ⟨nodes, edges⟩))
  | .updateIndex => inferInstanceAs (Decidable (∀ graph, desk.snapshot = .ok graph → graph.HasTexts))
  | .load nodes edges rebuild =>
    inferInstanceAs (Decidable (rebuild = true → ∀ graph, readGraph nodes edges = .ok graph → graph.HasTexts))
  | .textSearch _ | .suggestions .. | .advancedSearch _ | .clearHistory | .surroundings _ => isTrue trivial

/-- What can be seen of a call: its answer, and the queries remembered after it. -/
structure Observation where
  answer : Outcome Answer
  history : List Value

/-- What can be seen of calls made one after the other; a call that fails does not stop the next ones. -/
def transcript (quick : Value → SearchScope → Value → EngineM QuickAnswer) :
    List SearchCall → Desk → List Observation
  | [], _ => []
  | call :: rest, desk =>
    let step := runAt (call.perform quick) desk
    ⟨step.1, step.2.engine.history.queries⟩ :: transcript quick rest step.2

/-- Whether each call of a run finds the texts that it writes. -/
def FindTexts : List SearchCall → Desk → Prop
  | [], _ => True
  | call :: rest, desk => call.HasTexts desk ∧ FindTexts rest (runAt (call.perform Engine.quickSearch) desk).2

instance FindTexts.decidable : (calls : List SearchCall) → (desk : Desk) → Decidable (FindTexts calls desk)
  | [], _ => isTrue trivial
  | call :: rest, desk =>
    have := FindTexts.decidable rest (runAt (call.perform Engine.quickSearch) desk).2
    inferInstanceAs (Decidable (_ ∧ _))

/-- Rebuilding the index from the graph leaves no entries in the cache but old ones, whether it fails or not. -/
theorem entries_updateIndex (desk : Desk) :
    (runAt updateIndex desk).2.engine.cache.entries ⊆ desk.engine.cache.entries := by
  cases hgraph : desk.snapshot with
  | error e =>
      rw [runAt_updateIndex_of_error hgraph]
      exact List.Subset.refl _
  | ok graph =>
      rw [runAt_updateIndex_of_ok hgraph]
      exact entries_buildIndex graph desk

/-- Loading the stored sets does not touch the cache, and the index is built after it. -/
theorem entries_start {desk : Desk} (h : desk.engine.cache.entries = []) :
    (runAt start desk).2.engine.cache.entries = [] := by
  have hkept : (runAt (withSets fun now _ => FilterShelf.load now) desk).2.engine.cache =
      desk.engine.cache := rfl
  rw [start, runAt_bind]
  rcases hload : runAt (withSets fun now _ => FilterShelf.load now) desk with ⟨answer, after⟩
  rw [hload] at hkept
  have hafter : after.engine.cache.entries = [] := (congrArg ResultCache.entries hkept).trans h
  cases answer with
  | error e =>
      exact hafter
  | ok _ =>
      exact List.subset_nil.1 (hafter ▸ entries_updateIndex after)

/-- An engine that has just been started has nothing in its cache. -/
theorem entries_openDesk {number : Nat} {config : EngineConfig} {source : GraphSource} {owned : Snapshot}
    {around : Surroundings} {desk : Desk} (h : openDesk number config source owned around = .ok desk) :
    desk.engine.cache.entries = [] := by
  rw [openDesk] at h
  cases hsize : FilterHistory.ofSize config.filterHistorySize with
  | error e =>
      rw [hsize] at h
      cases h
  | ok setHistory =>
      rw [hsize] at h
      let first : Desk := ⟨blank number config source owned setHistory, around⟩
      have hdesk : ((runAt start first).1.map fun _ => (runAt start first).2) = .ok desk := h
      cases hanswer : (runAt start first).1 with
      | error e =>
          rw [hanswer] at hdesk
          cases hdesk
      | ok _ =>
          rw [hanswer] at hdesk
          cases hdesk
          exact entries_start rfl

end Engine
end GraphQuery
