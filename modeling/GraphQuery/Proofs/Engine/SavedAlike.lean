import GraphQuery.Proofs.Relation
import GraphQuery.Proofs.Engine.QuickSearch

/-!
# Saved searches alike — what a relation between desks has to keep

Operations on saved searches read them all, write them all, and may run one of them.  If a relation between desks
is kept by reading and writing them, with the same answers, and if searches find the same at related desks, then
saving, executing and deleting give the same answers and leave related desks (`SavesAlike`).  How the saved searches
are kept, in a store or in memory, does not come in.
-/

namespace GraphQuery
namespace Engine

theorem relates_ofOutcome {α : Type} {R : Desk → Desk → Prop} (answer : Outcome α) :
    Relates R (ofOutcome answer) (ofOutcome answer) :=
  Relates.ofAnswer answer

/-- What is answered is what there was to be answered. -/
theorem answers_ofOutcome {α : Type} {R : Desk → Desk → Prop} (answer : Outcome α) :
    Answers R (ofOutcome answer) fun a => answer = .ok a := by
  intro _ _ _ _ h
  exact h

/-! ## Searches -/

/-- What a relation between desks keeps so that searches find the same at both. -/
structure SearchesAlike (R : Desk → Desk → Prop) : Prop where
  snapshot : ∀ ⦃desk other⦄, R desk other → desk.snapshot = other.snapshot
  index : ∀ ⦃desk other⦄, R desk other → desk.engine.index = other.engine.index
  limit : ∀ ⦃desk other⦄, R desk other →
    desk.engine.config.defaultSearchLimit = other.engine.config.defaultSearchLimit
  recorded : ∀ ⦃desk other⦄ query, R desk other → R (recorded desk query) (recorded other query)

variable {R : Desk → Desk → Prop}

theorem SearchesAlike.relates_snapshot (h : SearchesAlike R) : Relates R Engine.snapshot Engine.snapshot := by
  refine Relates.read fun desk other hrelated => ?_
  rw [h.snapshot hrelated]
  exact relates_ofOutcome _

theorem SearchesAlike.relates_textSearch (h : SearchesAlike R) (query : Value) (mode : SearchMode)
    (limit : Value) : Relates R (textSearch query mode limit) (textSearch query mode limit) := by
  rw [textSearch]
  by_cases hquery : query.isTruthy = true
  · simp only [hquery, Bool.not_true, Bool.false_eq_true, if_false]
    refine Relates.read fun desk other hrelated => ?_
    rw [h.index hrelated, h.limit hrelated]
    refine (relates_ofOutcome _).bind fun found => ?_
    refine (Relates.change fun _ _ => h.recorded query).bind fun _ => ?_
    exact (relates_ofOutcome _).bind fun count => Relates.pure _
  · simp only [hquery, Bool.not_false, if_true]
    exact Relates.pure _

theorem SearchesAlike.relates_advancedSearch (h : SearchesAlike R) (query : AdvancedQuery) :
    Relates R (advancedSearch query) (advancedSearch query) := by
  rw [advancedSearch]
  refine h.relates_snapshot.bind fun graph => ?_
  by_cases htext : query.text.isTruthy = true
  · simp only [htext, if_true]
    refine (h.relates_textSearch _ _ _).bind fun hits => ?_
    exact (Relates.pure _).bind fun found => relates_ofOutcome _
  · simp only [htext, Bool.false_eq_true, if_false]
    exact relates_ofOutcome _

theorem SearchesAlike.relates_suggestions (h : SearchesAlike R) (typed limit : Value) :
    Relates R (Call.suggestions typed limit) (Call.suggestions typed limit) := by
  rw [Call.suggestions]
  by_cases htyped : typed.isTruthy = true
  · simp only [htyped, Bool.not_true, Bool.false_eq_true, if_false]
    rcases limit.number? with _ | place
    · exact Relates.throw _
    · by_cases hplace : place.atMost (.exact 0) = true
      · simp only [hplace, if_true]
        exact Relates.pure _
      · simp only [hplace, Bool.false_eq_true, if_false]
        refine (relates_ofOutcome _).bind fun query => ?_
        refine Relates.read fun desk other hrelated => ?_
        rw [h.index hrelated]
        refine Relates.read fun desk other hrelated => ?_
        rw [h.index hrelated]
        exact Relates.pure _
  · simp only [htyped, Bool.not_false, if_true]
    exact Relates.pure _

/-! ## Saved searches -/

/-- What a relation between desks keeps so that saved searches are handled alike at both, as long as the saved
searches are good ones. -/
structure SavesAlike (R : Desk → Desk → Prop) (P : SavedSearches → Prop) : Prop extends SearchesAlike R where
  now : ∀ ⦃desk other⦄, R desk other → desk.around.now = other.around.now
  read : Relates R savedSearches savedSearches
  good : Answers R savedSearches P
  write : ∀ searches, P searches → Relates R (writeSaved searches) (writeSaved searches)
  stamp : ∀ ⦃desk other⦄, R desk other → ∀ searches name saved, P searches →
    searches.get? name = some saved → P (searches.insert name { saved with lastUsed := desk.around.now })
  erase : ∀ searches name, P searches → P (searches.erase name)

variable {P : SavedSearches → Prop}

theorem SavesAlike.relates_saveSearch (h : SavesAlike R P) {name : EntryName} {filters : Fields}
    (hgood : ∀ ⦃desk other⦄, R desk other → ∀ searches, P searches →
      P (searches.insert name ⟨filters, desk.around.now, desk.around.now⟩)) :
    Relates R (saveSearch name filters) (saveSearch name filters) := by
  refine h.read.bind_of h.good fun searches hsearches => ?_
  refine Relates.read fun desk other hrelated => ?_
  dsimp only
  rw [← h.now hrelated]
  exact (h.write _ (hgood hrelated searches hsearches)).bind fun _ => Relates.pure _

theorem SavesAlike.relates_executeSaved (h : SavesAlike R P) (name : EntryName) :
    Relates R (executeSaved name) (executeSaved name) := by
  refine h.read.bind_of h.good fun searches hsearches => ?_
  cases hget : searches.get? name with
  | none =>
      exact Relates.throw _
  | some saved =>
      refine Relates.read fun desk other hrelated => ?_
      dsimp only
      rw [← h.now hrelated]
      refine (h.write _ (h.stamp hrelated searches name saved hsearches hget)).bind fun _ => ?_
      exact (relates_ofOutcome _).bind fun query => h.relates_advancedSearch query

theorem SavesAlike.relates_deleteSaved (h : SavesAlike R P) (name : EntryName) :
    Relates R (deleteSaved name) (deleteSaved name) := by
  refine h.read.bind_of h.good fun searches hsearches => ?_
  cases searches.get? name with
  | none =>
      exact Relates.pure _
  | some saved =>
      exact (h.write _ (h.erase searches name hsearches)).bind fun _ => Relates.pure _

/-! ### Calls -/

/-- The filters to be saved, given as a mapping or as pairs. -/
def givenFilters (filters : Value) : Outcome Fields := do
  let filters ← filters.toMapping
  (Checked.under (.field "filters") (Check.mapping filters)).toOutcome

theorem SavesAlike.relates_callSaveSearch (h : SavesAlike R P) {name filters : Value}
    (hgood : ∀ key fields, EntryName.ofArgument name = .ok key → givenFilters filters = .ok fields →
      ∀ ⦃desk other⦄, R desk other → ∀ searches, P searches →
        P (searches.insert key ⟨fields, desk.around.now, desk.around.now⟩)) :
    Relates R (Call.saveSearch name filters) (Call.saveSearch name filters) := by
  refine h.read.bind fun _ => ?_
  refine (relates_ofOutcome _).bind_of (answers_ofOutcome _) fun given hgiven => ?_
  refine (relates_ofOutcome _).bind_of (answers_ofOutcome _) fun fields hfields => ?_
  refine (relates_ofOutcome _).bind_of (answers_ofOutcome _) fun key hkey => ?_
  have hfilters : givenFilters filters = .ok fields := by
    rw [givenFilters, hgiven]
    exact hfields
  exact h.relates_saveSearch (hgood key fields hkey hfilters)

theorem SavesAlike.relates_callExecuteSaved (h : SavesAlike R P) (name : Value) :
    Relates R (Call.executeSaved name) (Call.executeSaved name) := by
  refine h.read.bind fun _ => ?_
  exact (relates_ofOutcome _).bind fun key => h.relates_executeSaved key

theorem SavesAlike.relates_callDeleteSaved (h : SavesAlike R P) (name : Value) :
    Relates R (Call.deleteSaved name) (Call.deleteSaved name) := by
  refine h.read.bind fun searches => ?_
  cases searches.isEmpty with
  | true =>
      exact Relates.pure _
  | false =>
      exact (relates_ofOutcome _).bind fun key => h.relates_deleteSaved key

/-! ## Writing -/

/-- Without a store the engine keeps the saved searches itself. -/
theorem runAt_writeSaved_of_none {desk : Desk} (h : desk.around.store = none) (searches : SavedSearches) :
    runAt (writeSaved searches) desk = (.ok (), { desk with engine := { desk.engine with saved := searches } }) := by
  rw [writeSaved, runAt_get_bind, h]
  rfl

/-- With a store the text of the saved searches is written to it, and the engine stays as it is. -/
theorem runAt_writeSaved_of_some {desk : Desk} {store : Store} (h : desk.around.store = some store)
    (searches : SavedSearches) :
    runAt (writeSaved searches) desk =
      match searches.serialize desk.around.runtime >>= fun text =>
        store.write (SavedSearches.keyFor desk.engine.config.storeNamespace) text with
      | .ok store => (.ok (), { desk with around := { desk.around with store := some store } })
      | .error e => (.error e, desk) := by
  rw [writeSaved, runAt_get_bind, h]
  cases searches.serialize desk.around.runtime with
  | error e =>
      rfl
  | ok text =>
      show runAt (ofOutcome (store.write (SavedSearches.keyFor desk.engine.config.storeNamespace) text) >>= _)
        desk = _
      rw [runAt_bind]
      simp only [bind, Except.bind]
      cases store.write (SavedSearches.keyFor desk.engine.config.storeNamespace) text with
      | error e =>
          rfl
      | ok store =>
          rfl

end Engine
end GraphQuery
