import GraphQuery.Proofs.Engine.SavedAlike
import GraphQuery.Proofs.Engine.StoredSets
import GraphQuery.Proofs.Engine.Team

/-!
# Reading — what searches leave as it is

Searching changes what an engine remembers: its queries, the answers that are held, its filter sets and saved
searches.  It does not change where the graph is read, what has been read of it, or what the engine is registered for
(`Desk.ReadsAs`):

- `Engine.SearchCall.readsAs` — text searches and quick searches, which remember only what they have computed;
- `Lookup.readsAs` — calls that read the graph as it is now;
- `StoreCall.readsAs` — calls on filter sets and saved searches.

Each proof follows the steps that the operation is made of, by the rules of `Relates`.
-/

namespace GraphQuery

/-! ## Calls -/

/-- Whether a call looks for something; the others change what is looked through. -/
def Engine.SearchCall.IsSearch : Engine.SearchCall → Prop
  | quickSearch .. | textSearch .. | suggestions .. | advancedSearch .. | clearHistory => True
  | buildIndex .. | updateIndex | load .. | surroundings .. => False

/-- A call of an engine that reads the graph as it is now. -/
inductive Lookup where
  | nodes (criteria : Value)
  | edges (criteria : Value)
  | nodesOfType (type : Value)
  | node (id : Value)
  | connected (start depth direction : Value)
  | path (source target limit : Value)
  | neighborhood (start query depth : Value)
  | filtered (config : Value)
  | active

open Engine in
/-- The operation that a call runs. -/
def Lookup.perform : Lookup → EngineM Answer
  | nodes criteria => return .nodes (← searchNodes criteria)
  | edges criteria => return .edges (← searchEdges criteria)
  | nodesOfType type => return .nodes (← Engine.nodesOfType type)
  | node id => return .node (← nodeWithId? id)
  | connected start depth direction => do
    let graph ← snapshot
    return .nodes (← ofOutcome (Traversal.connected graph start depth direction))
  | path source target limit => return .path (← Call.path source target limit)
  | neighborhood start query depth => return .nodes (← Call.neighborhood start query depth)
  | filtered config => return .filtered (some (← applyFilters config))
  | active => withSets fun _ graph => return .filtered (some (← FilterShelf.applyAll graph))

/-! ## What is left as it is -/

/-- The second desk has the graph, the index and the registrations of the first one, and its cache holds only what the
cache of the first one holds or what is computed from the index. -/
structure Desk.ReadsAs (desk other : Desk) : Prop where
  number : other.engine.number = desk.engine.number
  config : other.engine.config = desk.engine.config
  source : other.engine.source = desk.engine.source
  owned : other.engine.owned = desk.engine.owned
  index : other.engine.index = desk.engine.index
  subscriptions : other.engine.subscriptions = desk.engine.subscriptions
  state : other.around.state = desk.around.state
  containers : other.around.containers = desk.around.containers
  entries : ∀ entry ∈ other.engine.cache.entries,
    entry ∈ desk.engine.cache.entries ∨ Engine.IsFresh desk.engine.index entry

theorem Desk.ReadsAs.refl (desk : Desk) : desk.ReadsAs desk :=
  ⟨rfl, rfl, rfl, rfl, rfl, rfl, rfl, rfl, fun _ hentry => Or.inl hentry⟩

/-- What a coherent cache holds is computed from the index as well. -/
theorem Desk.ReadsAs.coherent {desk other : Desk} (h : desk.ReadsAs other) (hdesk : Engine.Coherent desk.engine) :
    Engine.Coherent other.engine := by
  intro entry hentry
  rw [h.index]
  exact (h.entries entry hentry).elim (hdesk entry) id

namespace Engine

variable {α : Type} {base : Desk}

/-- An operation is related to itself if it keeps what has been left as it is. -/
theorem relates_readsAs_iff {x : EngineM α} :
    Relates (Twice base.ReadsAs) x x ↔ ∀ desk, base.ReadsAs desk → base.ReadsAs (runAt x desk).2 :=
  Relates.twice_iff

theorem readsAs_of_relates {x : EngineM α} (h : Relates (Twice base.ReadsAs) x x) : base.ReadsAs (runAt x base).2 :=
  relates_readsAs_iff.1 h base (.refl base)

theorem searchesAlike_readsAs : SearchesAlike (Twice base.ReadsAs) where
  snapshot := fun _ _ h => congrArg Desk.snapshot h.1
  index := fun _ _ h => congrArg (·.engine.index) h.1
  limit := fun _ _ h => congrArg (·.engine.config.defaultSearchLimit) h.1
  recorded := by
    rintro desk _ query ⟨rfl, h⟩
    exact ⟨rfl, { h with }⟩

theorem savesAlike_readsAs : SavesAlike (Twice base.ReadsAs) fun _ => True where
  toSearchesAlike := searchesAlike_readsAs
  now := fun _ _ h => congrArg (·.around.now) h.1
  read := Relates.readTwice fun _ _ => relates_ofOutcome _
  good := fun _ _ _ _ _ => trivial
  write := by
    intro searches _
    refine relates_readsAs_iff.2 ?_
    intro desk h
    rcases hstore : desk.around.store with _ | store
    · rw [runAt_writeSaved_of_none hstore]
      exact { h with }
    · rw [runAt_writeSaved_of_some hstore]
      split
      · exact { h with }
      · exact h
  stamp := fun _ _ _ _ _ _ _ _ => trivial
  erase := fun _ _ _ => trivial

theorem relates_withSets_readsAs (action : Timestamp → Outcome Snapshot → ShelfM α) :
    Relates (Twice base.ReadsAs) (withSets action) (withSets action) := by
  refine relates_readsAs_iff.2 ?_
  intro desk h
  rw [runAt_withSets]
  exact { h with }

/-- A quick search changes the query history and the cache, and remembers no more than what it has computed. -/
theorem relates_quickSearch_readsAs (query : String) (scope : SearchScope) (room : Int) :
    Relates (Twice base.ReadsAs) (quickSearch (.text query) scope (.int room))
      (quickSearch (.text query) scope (.int room)) := by
  refine relates_readsAs_iff.2 ?_
  intro desk h
  by_cases hquery : query = ""
  · subst hquery
    exact h
  by_cases hroom : (Value.int room).HasText
  · rcases hheld : desk.engine.cache.find? (searchKey query scope room) with _ | answer
    · rw [runAt_quickSearch_of_none hquery hroom hheld]
      refine { h with entries := ResultCache.forall_put ?_ ?_ }
      · rw [h.index]
        exact Or.inr ⟨query, scope, room, rfl⟩
      · rw [ResultCache.get_entries]
        exact h.entries
    · rw [runAt_quickSearch_of_some hquery hroom hheld]
      refine { h with entries := ?_ }
      show ∀ entry ∈ (desk.engine.cache.get _).1.entries, _
      rw [ResultCache.get_entries]
      exact h.entries
  · rw [runAt_quickSearch_of_not_hasText hquery scope hroom]
    exact h

theorem SearchCall.relates_readsAs {call : SearchCall} (hcall : call.IsSearch) :
    Relates (Twice base.ReadsAs) (call.perform Engine.quickSearch) (call.perform Engine.quickSearch) := by
  have hsearch := @searchesAlike_readsAs base
  cases call with
  | quickSearch query scope room =>
      rw [perform]
      cases SearchScope.ofName? scope with
      | none =>
          exact Relates.throw _
      | some scope =>
          exact (relates_quickSearch_readsAs query scope room).bind fun _ => Relates.pure _
  | textSearch arguments =>
      exact (hsearch.relates_textSearch _ _ _).bind fun _ => Relates.pure _
  | suggestions typed limit =>
      exact (hsearch.relates_suggestions typed limit).bind fun _ => Relates.pure _
  | advancedSearch arguments =>
      refine (relates_ofOutcome _).bind fun query => ?_
      exact (hsearch.relates_advancedSearch query).bind fun _ => Relates.pure _
  | clearHistory =>
      refine Relates.bind (Relates.change ?_) fun _ => Relates.pure _
      rintro desk _ ⟨rfl, h⟩
      exact ⟨rfl, { h with }⟩
  | buildIndex nodes edges => cases hcall
  | updateIndex => cases hcall
  | load nodes edges rebuild => cases hcall
  | surroundings change => cases hcall

theorem SearchCall.readsAs {call : SearchCall} (hcall : call.IsSearch) (base : Desk) :
    base.ReadsAs (runAt (call.perform Engine.quickSearch) base).2 :=
  readsAs_of_relates (SearchCall.relates_readsAs hcall)

end Engine

open Engine

variable {base : Desk}

theorem Lookup.relates_readsAs (lookup : Lookup) : Relates (Twice base.ReadsAs) lookup.perform lookup.perform := by
  have hread := (@searchesAlike_readsAs base).relates_snapshot
  cases lookup with
  | nodes criteria =>
      refine Relates.bind (hread.bind fun graph => ?_) fun _ => Relates.pure _
      exact relates_ofOutcome _
  | edges criteria =>
      refine Relates.bind (hread.bind fun graph => ?_) fun _ => Relates.pure _
      exact relates_ofOutcome _
  | nodesOfType type =>
      exact Relates.bind (hread.bind fun graph => Relates.pure _) fun _ => Relates.pure _
  | node id =>
      exact Relates.bind (hread.bind fun graph => Relates.pure _) fun _ => Relates.pure _
  | connected start depth direction =>
      refine hread.bind fun graph => ?_
      exact (relates_ofOutcome _).bind fun _ => Relates.pure _
  | path source target limit =>
      rw [perform, Call.path]
      refine Relates.bind (hread.bind fun graph => ?_) fun _ => Relates.pure _
      cases limit with
      | null =>
          refine Relates.readTwice fun _ _ => ?_
          exact (Relates.pure _).bind fun limit => relates_ofOutcome _
      | _ =>
          exact (Relates.pure _).bind fun limit => relates_ofOutcome _
  | neighborhood start query depth =>
      refine Relates.bind (hread.bind fun graph => ?_) fun _ => Relates.pure _
      refine (relates_ofOutcome _).bind fun nodes => ?_
      exact (relates_ofOutcome _).bind fun query => relates_ofOutcome _
  | filtered config =>
      refine Relates.bind (hread.bind fun graph => ?_) fun _ => Relates.pure _
      exact relates_ofOutcome _
  | active =>
      rw [perform]
      exact relates_withSets_readsAs _

theorem StoreCall.relates_readsAs (call : StoreCall) : Relates (Twice base.ReadsAs) call.perform call.perform := by
  have hsaved := @savesAlike_readsAs base
  cases call with
  | change change =>
      rw [perform]
      exact relates_withSets_readsAs _
  | loadSets =>
      rw [perform]
      exact relates_withSets_readsAs _
  | saveSets =>
      rw [perform]
      exact relates_withSets_readsAs _
  | savedSearches =>
      rw [perform]
      exact hsaved.read.bind fun _ => Relates.pure _
  | saveSearch name filters =>
      rw [perform]
      refine (hsaved.relates_callSaveSearch ?_).bind fun _ => Relates.pure _
      intros
      trivial
  | executeSaved name =>
      rw [perform]
      exact (hsaved.relates_callExecuteSaved name).bind fun _ => Relates.pure _
  | deleteSaved name =>
      rw [perform]
      exact (hsaved.relates_callDeleteSaved name).bind fun _ => Relates.pure _

theorem Lookup.readsAs (lookup : Lookup) (base : Desk) : base.ReadsAs (runAt lookup.perform base).2 :=
  readsAs_of_relates lookup.relates_readsAs

theorem StoreCall.readsAs (call : StoreCall) (base : Desk) : base.ReadsAs (runAt call.perform base).2 :=
  readsAs_of_relates call.relates_readsAs

end GraphQuery
