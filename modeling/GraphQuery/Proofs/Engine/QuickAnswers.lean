import GraphQuery.Proofs.Engine.Binding
import GraphQuery.Proofs.Search.Suggestions

/-!
# Quick answers — results and suggestions share the slots

A quick search asks for the best results first and fills the slots that they leave with suggestions.  An answer may be
computed or remembered, so it is followed through everything that can happen to an engine:

- what is remembered has been computed from some index, after every step (`Session.isComputed_afterStep`): searches
  remember only what they compute, and nothing else adds to what is remembered, also where building an index fails or
  listeners of replaced engines are called;
- what is computed fits into the slots (`Engine.slots_freshAnswer_le`), since no more suggestions are asked for than
  results are missing.
-/

namespace GraphQuery

/-! ## What is remembered -/

namespace Engine

variable {α : Type}

/-- Whether everything in the cache has been computed from an index, be it this one or an earlier one. -/
def IsComputed (e : Engine) : Prop := ∀ entry ∈ e.cache.entries, ∃ index, IsFresh index entry

theorem IsComputed.of_subset {e e' : Engine} (h : IsComputed e) (hentries : e'.cache.entries ⊆ e.cache.entries) :
    IsComputed e' :=
  fun entry hentry => h entry (hentries hentry)

theorem IsComputed.of_readsAs {desk other : Desk} (h : IsComputed desk.engine) (hsame : desk.ReadsAs other) :
    IsComputed other.engine :=
  fun entry hentry => (hsame.entries entry hentry).elim (h entry) fun hfresh => ⟨_, hfresh⟩

/-- Whether an operation leaves nothing in the cache but what was there or has been computed. -/
def KeepsComputed (action : EngineM α) : Prop :=
  ∀ desk : Desk, IsComputed desk.engine → IsComputed (runAt action desk).2.engine

theorem KeepsComputed.of_subset {action : EngineM α}
    (h : ∀ desk, (runAt action desk).2.engine.cache.entries ⊆ desk.engine.cache.entries) : KeepsComputed action :=
  fun desk hdesk => hdesk.of_subset (h desk)

theorem keepsComputed_updateIndex : KeepsComputed updateIndex := .of_subset entries_updateIndex

theorem keepsComputed_modifyAround (f : Surroundings → Surroundings) : KeepsComputed (modifyAround f) :=
  .of_subset fun _ => List.Subset.refl _

/-- What goes on after an operation may add to the cache as well. -/
theorem KeepsComputed.bind {β : Type} {x : EngineM α} {f : α → EngineM β} (hx : KeepsComputed x)
    (hf : ∀ a, KeepsComputed (f a)) : KeepsComputed (x >>= f) := by
  intro desk h
  have hafter := hx desk h
  rw [runAt_bind]
  rcases hrun : runAt x desk with ⟨answer, after⟩
  rw [hrun] at hafter
  cases answer with
  | ok a =>
      exact hf a after hafter
  | error e =>
      exact hafter

theorem keepsComputed_load (nodes edges : Value) (rebuild : Bool) : KeepsComputed (load nodes edges rebuild) := by
  refine .of_subset fun desk => ?_
  rw [load_eq, runAt_get_bind]
  split
  · cases readGraph nodes edges with
    | error e =>
        exact List.Subset.refl _
    | ok owned =>
        cases rebuild with
        | false =>
            exact List.Subset.refl _
        | true =>
            exact entries_updateIndex { desk with engine := { desk.engine with owned } }
  · exact List.Subset.refl _

theorem SearchCall.keepsComputed (call : SearchCall) : KeepsComputed (call.perform Engine.quickSearch) := by
  by_cases hcall : call.IsSearch
  · exact fun desk h => h.of_readsAs (SearchCall.readsAs hcall desk)
  cases call with
  | buildIndex nodes edges =>
      refine .bind (.of_subset fun desk => ?_) fun _ => .of_subset fun _ => List.Subset.refl _
      exact entries_buildIndex ⟨nodes, edges⟩ desk
  | updateIndex =>
      exact keepsComputed_updateIndex.bind fun _ => .of_subset fun _ => List.Subset.refl _
  | load nodes edges rebuild =>
      exact (keepsComputed_load nodes edges rebuild).bind fun _ => .of_subset fun _ => List.Subset.refl _
  | surroundings change =>
      exact (keepsComputed_modifyAround change).bind fun _ => .of_subset fun _ => List.Subset.refl _
  | quickSearch | textSearch | suggestions | advancedSearch | clearHistory =>
      exact absurd trivial hcall

end Engine

namespace Session

open Engine hiding runAt KeepsComputed

variable {α β : Type} {session : Session}

/-- Whether an operation of a session leaves nothing in the cache but what was there or has been computed. -/
def KeepsComputed (action : SessionM α) : Prop :=
  ∀ session, IsComputed session.desk.engine → IsComputed (runAt action session).2.desk.engine

namespace KeepsComputed

theorem pure (a : α) : KeepsComputed (Pure.pure a) :=
  fun _ h => h

theorem throw (e : Failure) : KeepsComputed (MonadExcept.throw e : SessionM α) :=
  fun _ h => h

theorem ofOutcome (answer : Outcome α) : KeepsComputed (Session.ofOutcome answer) :=
  fun _ h => h

theorem get_bind {f : Session → SessionM α} (hf : ∀ session, KeepsComputed (f session)) : KeepsComputed (get >>= f) :=
  fun session h => hf session session h

theorem bind {x : SessionM α} {f : α → SessionM β} (hx : KeepsComputed x) (hf : ∀ a, KeepsComputed (f a)) :
    KeepsComputed (x >>= f) := by
  intro session h
  have hafter := hx session h
  rw [runAt_bind]
  rcases hrun : runAt x session with ⟨answer, after⟩
  rw [hrun] at hafter
  cases answer with
  | ok a =>
      exact hf a after hafter
  | error e =>
      exact hafter

theorem forM {items : List α} {f : α → SessionM PUnit} (hf : ∀ a, KeepsComputed (f a)) :
    KeepsComputed (items.forM f) := by
  induction items with
  | nil =>
      exact pure _
  | cons a rest ih =>
      exact bind (hf a) fun _ => ih

theorem withEngine {action : EngineM α} (h : Engine.KeepsComputed action) :
    KeepsComputed (Session.withEngine action) :=
  fun session => h session.desk

end KeepsComputed

/-! ## Steps -/

theorem keepsComputed_unbind : KeepsComputed (withEngine unbind) :=
  .withEngine (.of_subset fun _ => List.Subset.refl _)

/-- Whatever the engine turns to, its index is built anew. -/
theorem keepsComputed_bind (place : Nat) : KeepsComputed (withEngine (Session.bind place)) := by
  refine .withEngine (.of_subset fun desk => ?_)
  rw [Session.bind, Engine.runAt_bind]
  exact entries_updateIndex _

/-- A listener rebuilds the index, or reads a graph for an engine that has been replaced. -/
theorem keepsComputed_notify (listener : Listener) : KeepsComputed (notify listener) := by
  refine .get_bind fun session => ?_
  dsimp only
  split
  · exact .withEngine keepsComputed_updateIndex
  · split
    · exact .bind (.ofOutcome _) fun _ => .ofOutcome _
    · exact .pure _

theorem keepsComputed_change (place : Nat) (key : String) (value : Value) :
    KeepsComputed (change place key value) := by
  refine .bind (.withEngine (keepsComputed_modifyAround _)) fun _ => .get_bind fun session => ?_
  split
  · exact .forM keepsComputed_notify
  · exact .throw _

theorem Step.keepsComputed (step : Step) : KeepsComputed step.perform := by
  cases step with
  | bind place =>
      exact .bind (keepsComputed_bind place) fun _ => .pure _
  | unbind =>
      exact .bind keepsComputed_unbind fun _ => .pure _
  | change place key value =>
      exact .bind (keepsComputed_change place key value) fun _ => .pure _
  | search call =>
      exact .withEngine call.keepsComputed
  | look lookup =>
      exact .withEngine fun desk h => h.of_readsAs (lookup.readsAs desk)
  | keep call =>
      exact .withEngine fun desk h => h.of_readsAs (call.readsAs desk)

theorem isComputed_afterStep (h : IsComputed session.desk.engine) (step : Step) :
    IsComputed (session.afterStep step).desk.engine :=
  step.keepsComputed session h

theorem isComputed_afterSteps (h : IsComputed session.desk.engine) (steps : List Step) :
    IsComputed (session.afterSteps steps).desk.engine := by
  -- What the first step leaves has been computed again, and the rest goes on from there.
  induction steps generalizing session with
  | nil =>
      exact h
  | cons step rest ih =>
      exact ih (isComputed_afterStep h step)

end Session

/-! ## Slots -/

/-- How many slots an answer takes. -/
def QuickAnswer.slots (answer : QuickAnswer) : Nat := answer.results.length + answer.suggestions.length

namespace Engine

/-- The results take at most all slots, and the suggestions at most those that are left. -/
theorem slots_freshAnswer_le (index : SearchIndex) (query : String) (scope : SearchScope) (room : Int) :
    ((freshAnswer index query scope room).slots : Int) ≤ max room 0 := by
  have hresults : (freshAnswer index query scope room).results.length ≤ room.toNat := List.length_take_le _ _
  have hsuggestions : ((freshAnswer index query scope room).suggestions.length : Int) ≤
      max (room.toNat - (freshAnswer index query scope room).results.length : Int) 0 :=
    SearchIndex.length_suggestions_le _ _ _
  rw [QuickAnswer.slots]
  omega

/-- A quick search whose scope exists and whose key can be written is answered, and the results and suggestions of an
answer are no more than there are slots. -/
theorem exists_quickSearch_slots_le {desk : Desk} (h : IsComputed desk.engine) (query : String) (scope : SearchScope)
    (room : Int) :
    (query = "" ∨ (Value.int room).HasText → ∃ answer : QuickAnswer,
      (runAt (SearchCall.perform quickSearch (.quickSearch query scope.name room)) desk).1 = .ok (.quick answer)) ∧
    ∀ answer : QuickAnswer,
      (runAt (SearchCall.perform quickSearch (.quickSearch query scope.name room)) desk).1 = .ok (.quick answer) →
        (answer.slots : Int) ≤ max room 0 := by
  have hscope : SearchScope.ofName? scope.name = some scope := by
    cases scope <;> rfl
  rw [SearchCall.perform, hscope]
  dsimp only
  by_cases hquery : query = ""
  · subst hquery
    refine ⟨fun _ => ⟨_, rfl⟩, ?_⟩
    rintro _ ⟨⟩
    exact Int.le_max_right room 0
  by_cases hroom : (Value.int room).HasText
  · rw [runAt_bind]
    rcases hheld : desk.engine.cache.find? (searchKey query scope room) with _ | held
    · rw [runAt_quickSearch_of_none hquery hroom hheld]
      refine ⟨fun _ => ⟨_, rfl⟩, ?_⟩
      rintro _ ⟨⟩
      exact slots_freshAnswer_le _ _ _ _
    -- What is held has been computed for the same search.
    · obtain ⟨index, query', scope', room', hentry⟩ := h _ (ResultCache.mem_of_find? hheld)
      obtain ⟨hkey, rfl⟩ := Prod.mk.inj hentry
      obtain ⟨rfl, rfl, rfl⟩ := searchKey_inj.1 hkey
      rw [runAt_quickSearch_of_some hquery hroom hheld]
      refine ⟨fun _ => ⟨_, rfl⟩, ?_⟩
      rintro _ ⟨⟩
      exact slots_freshAnswer_le _ _ _ _
  · rw [runAt_bind, runAt_quickSearch_of_not_hasText hquery scope hroom]
    refine ⟨fun htext => absurd htext (not_or.2 ⟨hquery, hroom⟩), ?_⟩
    rintro _ ⟨⟩

/-- Suggestions are the first distinct completions, as many as the limit allows.  After any steps of an engine, what a
quick search finds and suggests is together no more than there are slots; it is answered unless the number of slots has
too many digits to be written. -/
theorem suggestions_areFirstCompletions :
    (∀ (index : SearchIndex) (typed : String) (limit : Int),
      index.suggestions typed limit = (index.completions typed).take (max limit 0).toNat ∧
        (index.completions typed).Nodup) ∧
      ∀ {number : Nat} {config : EngineConfig} {source : GraphSource} {owned : Snapshot} {around : Surroundings}
        {first : Desk}, openDesk number config source owned around = .ok first →
        ∀ (retired : List (Nat × GraphSource)) (steps : List Session.Step) (query : String) (scope : SearchScope)
          (room : Int),
            let answered := (Session.runAt (Session.Step.search (.quickSearch query scope.name room)).perform
              (Session.afterSteps ⟨first, retired⟩ steps)).1
            (query = "" ∨ (Value.int room).HasText → ∃ answer : QuickAnswer, answered = .ok (.quick answer)) ∧
              ∀ answer : QuickAnswer, answered = .ok (.quick answer) → (answer.slots : Int) ≤ max room 0 := by
  refine ⟨fun index typed limit => ⟨index.suggestions_eq_take typed limit, SearchIndex.nodup_completions⟩, ?_⟩
  intro number config source owned around first hopen retired steps query scope room
  have hfirst : IsComputed first.engine := by
    rw [IsComputed, entries_openDesk hopen]
    exact List.forall_mem_nil _
  have hlast : IsComputed (Session.afterSteps ⟨first, retired⟩ steps).desk.engine :=
    Session.isComputed_afterSteps hfirst steps
  exact exists_quickSearch_slots_le hlast query scope room

/-- What is done before the slots are counted: an engine searches and is bound to a container. -/
def searchThenBind : List Session.Step :=
  [.search (.quickSearch "no" "all" 2), .bind 0]

theorem suggestions_areFirstCompletions_searchThenBind :
    let around : Surroundings := ⟨someNoon, none, .null, [⟨[], [], true⟩], .usual⟩
    ∃ first, openDesk 0 {} .owned .empty around = .ok first ∧
      ∃ answer : QuickAnswer,
        (Session.runAt (Session.Step.search (.quickSearch "no" SearchScope.all.name (-1))).perform
          (Session.afterSteps ⟨first, []⟩ searchThenBind)).1 = .ok (.quick answer) ∧
        (answer.slots : Int) ≤ max (-1) 0 := by
  intro around
  let fresh : Desk := ⟨blank 0 {} .owned .empty (.withCapacity 20), around⟩
  have hopen : openDesk 0 {} .owned .empty around = .ok (indexed (fresh.withSets []) .empty) :=
    openDesk_eq_ok rfl (FilterShelf.runAt_load_of_none rfl someNoon) rfl (by decide)
  obtain ⟨hanswered, hslots⟩ := suggestions_areFirstCompletions.2 hopen [] searchThenBind "no" .all (-1)
  obtain ⟨answer, hanswer⟩ := hanswered (Or.inr rfl)
  exact ⟨_, hopen, answer, hanswer, hslots answer hanswer⟩

end Engine
end GraphQuery
