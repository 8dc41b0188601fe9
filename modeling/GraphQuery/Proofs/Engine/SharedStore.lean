import GraphQuery.Proofs.Engine.SavedAlike
import GraphQuery.Proofs.Engine.StoredSets
import GraphQuery.Proofs.Engine.Team

/-!
# Related stores — what a call can tell of the store

What a call does is compared between two desks that differ in their stores, whose texts are related in some way.
If the relation is kept by writing under the keys of the engine's namespace, and if related texts agree under these
keys, then the call gives the same answer at both, does the same to the engine and leaves related texts
(`StoreCall.relates`).  A change of the filter sets does not even read the store (`StoreCall.relates_change`).
-/

namespace GraphQuery

/-! ## Related stores -/

variable {Q : KeyValues → KeyValues → Prop}

/-- Whether related texts stay related when the same is written under a key. -/
def KeyValues.KeptBySet (Q : KeyValues → KeyValues → Prop) (key : String) : Prop :=
  ∀ ⦃texts texts'⦄ (value : String), Q texts texts' → Q (texts.set key value) (texts'.set key value)

/-- Whether related texts hold the same under a key. -/
def KeyValues.SameAt (Q : KeyValues → KeyValues → Prop) (key : String) : Prop :=
  ∀ ⦃texts texts'⦄, Q texts texts' → texts.get? key = texts'.get? key

/-- Whether there are two stores that hold related texts and that both refuse to be written to or both do not. -/
inductive Store.Match (Q : KeyValues → KeyValues → Prop) (store other : Option Store) : Prop where
  | intro (refuses : Bool) (texts texts' : KeyValues) (left : store = some ⟨texts, refuses⟩)
      (right : other = some ⟨texts', refuses⟩) (related : Q texts texts')

theorem Store.Match.bind_get? {store other : Option Store} {key : String} (h : Store.Match Q store other)
    (hread : KeyValues.SameAt Q key) :
    (store.bind fun store => store.get? key) = other.bind fun store => store.get? key := by
  obtain ⟨refuses, texts, texts', rfl, rfl, hrelated⟩ := h
  exact hread hrelated

theorem Store.Match.current_eq {store other : Option Store} {key : String} (h : Store.Match Q store other)
    (hread : KeyValues.SameAt Q key) (reader : PayloadReader) (now : Timestamp) (memory : SavedSearches) :
    SavedSearches.current reader now key other memory = SavedSearches.current reader now key store memory := by
  obtain ⟨refuses, texts, texts', rfl, rfl, hrelated⟩ := h
  simp only [SavedSearches.current, Store.get?, hread hrelated]

/-- Writing the same text, if there is one, to related stores fails at both for the same reason, or leaves related
stores. -/
theorem Store.Match.write {store other : Option Store} {key : String} (h : Store.Match Q store other)
    (hset : KeyValues.KeptBySet Q key) (text : Outcome String) :
    ∃ old old', store = some old ∧ other = some old' ∧
      ((∃ e, (text >>= fun text => old.write key text) = .error e ∧
          (text >>= fun text => old'.write key text) = .error e) ∨
        ∃ new new', (text >>= fun text => old.write key text) = .ok new ∧
          (text >>= fun text => old'.write key text) = .ok new' ∧ Store.Match Q (some new) (some new')) := by
  obtain ⟨refuses, texts, texts', rfl, rfl, hrelated⟩ := h
  refine ⟨_, _, rfl, rfl, ?_⟩
  cases text with
  | error e =>
      exact Or.inl ⟨e, rfl, rfl⟩
  | ok text =>
      cases refuses with
      | true =>
          exact Or.inl ⟨.storeFull, rfl, rfl⟩
      | false =>
          exact Or.inr ⟨_, _, rfl, rfl, false, _, _, rfl, rfl, hset text hrelated⟩

/-! ### Shelves -/

namespace FilterShelf

variable {key : String}

/-- The second shelf is the first one with a related store. -/
structure Matches (Q : KeyValues → KeyValues → Prop) (key : String) (shelf other : FilterShelf) : Prop where
  key : shelf.storeKey = key
  same : other = { shelf with store := other.store }
  stores : Store.Match Q shelf.store other.store

theorem Matches.written {shelf other : FilterShelf} (h : Matches Q key shelf other)
    (hset : KeyValues.KeptBySet Q key) (sets : FilterSets) :
    (∃ e, shelf.written sets = .error e ∧ other.written sets = .error e) ∨
      ∃ store store', shelf.written sets = .ok store ∧ other.written sets = .ok store' ∧
        Store.Match Q store store' := by
  obtain ⟨rfl, hsame, hstores⟩ := h
  have hkey : other.storeKey = shelf.storeKey := by
    rw [hsame]
  have hruntime : other.runtime = shelf.runtime := by
    rw [hsame]
  obtain ⟨old, old', hold, hold', hwrite⟩ := hstores.write hset (sets.serializeAt shelf.runtime)
  -- Where there is a store, the sets are written as a text that does not depend on it.
  have hwritten : shelf.written sets =
      (sets.serializeAt shelf.runtime >>= fun text => old.write shelf.storeKey text).map some := by
    rw [FilterShelf.written, hold]
    cases sets.serializeAt shelf.runtime <;> rfl
  have hwritten' : other.written sets =
      (sets.serializeAt shelf.runtime >>= fun text => old'.write shelf.storeKey text).map some := by
    rw [FilterShelf.written, hold', hkey, hruntime]
    cases sets.serializeAt shelf.runtime <;> rfl
  rw [hwritten, hwritten']
  rcases hwrite with ⟨e, he, he'⟩ | ⟨new, new', hnew, hnew', hmatch⟩
  · rw [he, he']
    exact Or.inl ⟨e, rfl, rfl⟩
  · rw [hnew, hnew']
    exact Or.inr ⟨_, _, rfl, rfl, hmatch⟩

/-- What goes on after looking at the shelf is related if it does not look at the store. -/
theorem relates_read {α : Type} {f : FilterShelf → ShelfM α}
    (hblind : ∀ shelf store, f { shelf with store } = f shelf)
    (hf : ∀ shelf, Relates (Matches Q key) (f shelf) (f shelf)) :
    Relates (Matches Q key) (get >>= f) (get >>= f) := by
  refine Relates.read fun shelf other h => ?_
  have hother : f other = f shelf := (congrArg f h.same).trans (hblind shelf other.store)
  rw [hother]
  exact hf shelf

theorem relates_ofOutcome {α : Type} (answer : Outcome α) :
    Relates (Matches Q key) (FilterShelf.ofOutcome answer) (FilterShelf.ofOutcome answer) :=
  Relates.ofAnswer answer

theorem relates_persist (hset : KeyValues.KeptBySet Q key) (sets : FilterSets) :
    Relates (Matches Q key) (persist sets) (persist sets) := by
  intro shelf other h
  have hrun := runAt_persist sets shelf
  have hrun' := runAt_persist sets other
  rw [runAt] at hrun hrun'
  rw [hrun, hrun']
  rcases h.written hset sets with ⟨e, he, he'⟩ | ⟨store, store', hstore, hstore', hmatch⟩
  · rw [he, he']
    exact ⟨rfl, h⟩
  · rw [hstore, hstore']
    refine ⟨rfl, h.key, ?_, hmatch⟩
    rw [h.same]

theorem relates_commit (hset : KeyValues.KeptBySet Q key) (sets : FilterSets) :
    Relates (Matches Q key) (commit sets) (commit sets) := by
  refine (relates_persist hset sets).bind fun _ => Relates.change fun shelf other h => ?_
  refine ⟨h.key, ?_, h.stores⟩
  rw [h.same]

theorem relates_record (now : Timestamp) (fields : Fields) :
    Relates (Matches Q key) (record now fields) (record now fields) := by
  refine Relates.read fun shelf other h => ?_
  have hhistory : other.history = shelf.history := by
    rw [h.same]
  rw [hhistory]
  refine (relates_ofOutcome _).bind fun history => Relates.replace ⟨h.key, ?_, h.stores⟩
  rw [h.same]

theorem relates_recordSet (now : Timestamp) (kind : ActionKind) (name : EntryName) (config : Value) :
    Relates (Matches Q key) (recordSet now kind name config) (recordSet now kind name config) :=
  relates_record now _

theorem relates_applyAll (graph : Outcome Snapshot) :
    Relates (Matches Q key) (applyAll graph) (applyAll graph) := by
  refine (relates_ofOutcome graph).bind fun g => ?_
  exact relates_read (fun _ _ => rfl) fun shelf => relates_ofOutcome _

/-! #### Changes of the sets -/

theorem relates_create (hset : KeyValues.KeptBySet Q key) (now : Timestamp) (graph : Outcome Snapshot)
    (name : EntryName) (config : Fields) :
    Relates (Matches Q key) (create now graph name config) (create now graph name config) := by
  refine relates_read (fun _ _ => rfl) fun shelf => ?_
  refine (relates_commit hset _).bind fun _ => ?_
  refine (relates_recordSet now _ _ _).bind fun _ => ?_
  exact (relates_ofOutcome graph).bind fun g => relates_ofOutcome _

theorem relates_update (hset : KeyValues.KeptBySet Q key) (now : Timestamp) (graph : Outcome Snapshot)
    (name : EntryName) (config : Outcome Value) :
    Relates (Matches Q key) (update now graph name config) (update now graph name config) := by
  refine relates_read (fun _ _ => rfl) fun shelf => ?_
  dsimp only
  cases shelf.sets.get? name with
  | none =>
      exact Relates.throw _
  | some existing =>
      refine (relates_ofOutcome config).bind fun config => ?_
      refine (relates_commit hset _).bind fun _ => ?_
      exact (relates_recordSet now _ _ _).bind fun _ => relates_applyAll graph

theorem relates_remove (hset : KeyValues.KeptBySet Q key) (now : Timestamp) (graph : Outcome Snapshot)
    (name : EntryName) :
    Relates (Matches Q key) (remove now graph name) (remove now graph name) := by
  refine relates_read (fun _ _ => rfl) fun shelf => ?_
  dsimp only
  cases shelf.sets.get? name with
  | none =>
      exact relates_applyAll graph
  | some removed =>
      refine (relates_commit hset _).bind fun _ => ?_
      exact (relates_recordSet now _ _ _).bind fun _ => relates_applyAll graph

theorem relates_toggle (hset : KeyValues.KeptBySet Q key) (now : Timestamp) (graph : Outcome Snapshot)
    (name : EntryName) (active : Option Bool) :
    Relates (Matches Q key) (toggle now graph name active) (toggle now graph name active) := by
  refine relates_read (fun _ _ => rfl) fun shelf => ?_
  dsimp only
  cases shelf.sets.get? name with
  | none =>
      exact Relates.pure _
  | some existing =>
      refine (relates_commit hset _).bind fun _ => ?_
      refine (relates_recordSet now _ _ _).bind fun _ => ?_
      exact (relates_applyAll graph).bind fun left => Relates.pure _

theorem relates_clearAll (hset : KeyValues.KeptBySet Q key) (now : Timestamp) (graph : Outcome Snapshot) :
    Relates (Matches Q key) (clearAll now graph) (clearAll now graph) := by
  refine (relates_commit hset _).bind fun _ => ?_
  exact (relates_record now _).bind fun _ => relates_ofOutcome graph

theorem relates_importSets (hset : KeyValues.KeptBySet Q key) (now : Timestamp) (graph : Outcome Snapshot)
    (payload : Value) :
    Relates (Matches Q key) (importSets now graph payload) (importSets now graph payload) := by
  refine relates_read (fun _ _ => rfl) fun shelf => ?_
  refine (relates_ofOutcome _).bind fun staged => ?_
  refine (relates_commit hset _).bind fun _ => ?_
  exact (relates_record now _).bind fun _ => relates_applyAll graph

theorem relates_createNamed (hset : KeyValues.KeptBySet Q key) (now : Timestamp) (graph : Outcome Snapshot)
    (name config : Value) :
    Relates (Matches Q key) (SetChange.createNamed now graph name config)
      (SetChange.createNamed now graph name config) := by
  refine (relates_ofOutcome _).bind fun config => ?_
  refine (relates_ofOutcome _).bind fun fields => ?_
  exact (relates_ofOutcome _).bind fun name => relates_create hset now graph name fields

/-- A change does not read the store, and writes to it under its key alone. -/
theorem relates_change (hset : KeyValues.KeptBySet Q key) (now : Timestamp) (graph : Outcome Snapshot)
    (change : SetChange) :
    Relates (Matches Q key) (change.run now graph) (change.run now graph) := by
  cases change with
  | create name config =>
      exact (relates_createNamed hset now graph name config).map some
  | createReady set =>
      refine (relates_ofOutcome _).bind fun entry => ?_
      exact (relates_createNamed hset now graph entry.1 entry.2).map some
  | update name config =>
      refine (relates_ofOutcome _).bind fun name => ?_
      exact (relates_update hset now graph name config.toMapping).map some
  | remove name =>
      exact (relates_ofOutcome _).bind fun name => (relates_remove hset now graph name).map some
  | toggle name active =>
      exact (relates_ofOutcome _).bind fun name => relates_toggle hset now graph name _
  | clearAll =>
      exact (relates_clearAll hset now graph).map some
  | importSets payload =>
      exact (relates_importSets hset now graph payload).map some

/-! #### Reading and writing the sets as they are -/

theorem relates_load (hread : KeyValues.SameAt Q key) (now : Timestamp) :
    Relates (Matches Q key) (load now) (load now) := by
  refine Relates.read fun shelf other h => ?_
  have hfound : (other.store.bind fun store => store.get? other.storeKey) =
      shelf.store.bind fun store => store.get? shelf.storeKey := by
    rw [h.same, h.key]
    exact (h.stores.bind_get? hread).symm
  have hruntime : other.runtime = shelf.runtime := by
    rw [h.same]
  rw [hfound, hruntime]
  split
  · exact Relates.pure _
  · exact Relates.pure _
  · refine (relates_ofOutcome _).bind fun staged => ?_
    refine (Relates.replace ⟨h.key, ?_, h.stores⟩).bind fun _ => Relates.pure _
    rw [h.same]

theorem relates_save (hset : KeyValues.KeptBySet Q key) : Relates (Matches Q key) save save :=
  relates_read (fun _ _ => rfl) fun _ => relates_persist hset _

end FilterShelf

/-! ### Desks -/

/-- The second desk is the first one with a related store. -/
structure Desk.Matches (Q : KeyValues → KeyValues → Prop) (space : String) (desk other : Desk) : Prop where
  space : desk.engine.config.storeNamespace = space
  same : other = { desk with around := { desk.around with store := other.around.store } }
  stores : Store.Match Q desk.around.store other.around.store

namespace Engine

variable {space : String}

/-- An operation on the filter sets is related as it is on shelves. -/
theorem relates_withSets {α : Type} {action : Timestamp → Outcome Snapshot → ShelfM α}
    (h : ∀ now graph, Relates (FilterShelf.Matches Q (FilterShelf.keyFor space)) (action now graph)
      (action now graph)) :
    Relates (Desk.Matches Q space) (withSets action) (withSets action) := by
  rintro desk ⟨engine, ⟨now, store, state, containers, runtime⟩⟩ ⟨hspace, hsame, hstores⟩
  cases hsame
  have hshelves : FilterShelf.Matches Q (FilterShelf.keyFor space) desk.shelf { desk.shelf with store } :=
    ⟨congrArg FilterShelf.keyFor hspace, rfl, hstores⟩
  obtain ⟨hanswer, hafter⟩ := h desk.around.now desk.snapshot hshelves
  refine ⟨hanswer, hspace, ?_, hafter.stores⟩
  exact congrArg (fun shelf => desk.withShelf shelf) hafter.same

theorem relates_savedSearches (hread : KeyValues.SameAt Q (SavedSearches.keyFor space)) :
    Relates (Desk.Matches Q space) savedSearches savedSearches := by
  refine Relates.read ?_
  rintro desk ⟨engine, ⟨now, store, state, containers, runtime⟩⟩ ⟨hspace, hsame, hstores⟩
  cases hsame
  dsimp only
  rw [hspace, hstores.current_eq hread]
  exact relates_ofOutcome _

theorem relates_writeSaved (hset : KeyValues.KeptBySet Q (SavedSearches.keyFor space))
    (searches : SavedSearches) :
    Relates (Desk.Matches Q space) (writeSaved searches) (writeSaved searches) := by
  intro desk other h
  show (runAt _ desk).1 = (runAt _ other).1 ∧ Desk.Matches Q space (runAt _ desk).2 (runAt _ other).2
  have hspace : other.engine.config.storeNamespace = space := by
    rw [h.same]
    exact h.space
  have hruntime : other.around.runtime = desk.around.runtime := by
    rw [h.same]
  obtain ⟨old, old', hold, hold', hwrite⟩ := h.stores.write hset (searches.serialize desk.around.runtime)
  rw [runAt_writeSaved_of_some hold, runAt_writeSaved_of_some hold', h.space, hspace, hruntime]
  rcases hwrite with ⟨e, he, he'⟩ | ⟨new, new', hnew, hnew', hmatch⟩
  · rw [he, he']
    exact ⟨rfl, h⟩
  · rw [hnew, hnew']
    refine ⟨rfl, h.space, ?_, hmatch⟩
    rw [h.same]

theorem searchesAlike_matches : SearchesAlike (Desk.Matches Q space) where
  snapshot := by
    rintro desk ⟨engine, ⟨now, store, state, containers, runtime⟩⟩ ⟨-, hsame, -⟩
    cases hsame
    rfl
  index := by
    rintro desk ⟨engine, ⟨now, store, state, containers, runtime⟩⟩ ⟨-, hsame, -⟩
    cases hsame
    rfl
  limit := by
    rintro desk ⟨engine, ⟨now, store, state, containers, runtime⟩⟩ ⟨-, hsame, -⟩
    cases hsame
    rfl
  recorded := by
    rintro desk ⟨engine, ⟨now, store, state, containers, runtime⟩⟩ query ⟨hspace, hsame, hstores⟩
    cases hsame
    exact ⟨hspace, rfl, hstores⟩

/-- Saved searches are handled alike at stores that hold the same under the key of the namespace. -/
theorem savesAlike_matches (hset : KeyValues.KeptBySet Q (SavedSearches.keyFor space))
    (hread : KeyValues.SameAt Q (SavedSearches.keyFor space)) :
    SavesAlike (Desk.Matches Q space) fun _ => True where
  toSearchesAlike := searchesAlike_matches
  now := by
    rintro desk ⟨engine, ⟨now, store, state, containers, runtime⟩⟩ ⟨-, hsame, -⟩
    cases hsame
    rfl
  read := relates_savedSearches hread
  good := fun _ _ _ _ _ => trivial
  write := fun searches _ => relates_writeSaved hset searches
  stamp := fun _ _ _ _ _ _ _ _ => trivial
  erase := fun _ _ _ => trivial

end Engine

/-! ## Calls -/

namespace StoreCall

variable {space : String}

/-- A change of the filter sets tells nothing of the store but whether it takes what is written to it. -/
theorem relates_change (hset : KeyValues.KeptBySet Q (FilterShelf.keyFor space)) (c : SetChange) :
    Relates (Desk.Matches Q space) (perform (.change c)) (perform (.change c)) := by
  rw [perform]
  refine Engine.relates_withSets fun now graph => ?_
  exact (FilterShelf.relates_change hset now graph c).bind fun left => Relates.pure _

/-- A call tells nothing of the store but what it holds under the keys of the namespace. -/
theorem relates (hset : ∀ key ∈ spaceKeys space, KeyValues.KeptBySet Q key)
    (hread : ∀ key ∈ spaceKeys space, KeyValues.SameAt Q key)
    (call : StoreCall) : Relates (Desk.Matches Q space) call.perform call.perform := by
  simp only [spaceKeys, List.forall_mem_cons, List.not_mem_nil, false_imp_iff, implies_true, and_true] at hset hread
  have hsaved := Engine.savesAlike_matches hset.2 hread.2
  cases call with
  | change c =>
      exact relates_change hset.1 c
  | loadSets =>
      rw [perform]
      refine Engine.relates_withSets fun now _ => ?_
      exact (FilterShelf.relates_load hread.1 now).bind fun _ => Relates.pure _
  | saveSets =>
      rw [perform]
      refine Engine.relates_withSets fun _ _ => ?_
      exact (FilterShelf.relates_save hset.1).bind fun _ => Relates.pure _
  | savedSearches =>
      rw [perform]
      exact hsaved.read.bind fun _ => Relates.pure _
  | saveSearch name filters =>
      rw [perform]
      refine (hsaved.relates_callSaveSearch ?_).bind fun _ => Relates.pure _
      exact fun _ _ _ _ _ _ _ _ _ => trivial
  | executeSaved name =>
      rw [perform]
      exact (hsaved.relates_callExecuteSaved name).bind fun _ => Relates.pure _
  | deleteSaved name =>
      rw [perform]
      exact (hsaved.relates_callDeleteSaved name).bind fun _ => Relates.pure _

end StoreCall

/-! ## Teams -/

namespace Team

variable {ι : Type} [DecidableEq ι]

/-- A member that cannot tell between the stores of two teams does the same at both, and leaves related stores. -/
theorem afterCall_matches {team alone : Team ι} {call : TeamCall ι}
    (hcall : Relates (Desk.Matches Q (team.space call.member)) call.call.perform call.call.perform)
    (hengine : alone.engine call.member = team.engine call.member) {texts own : KeyValues}
    (htexts : team.texts = some texts) (hown : alone.texts = some own) (hrelated : Q texts own) :
    (team.run call).1 = (alone.run call).1 ∧
      (alone.afterCall call).engine call.member = (team.afterCall call).engine call.member ∧
      (team.afterCall call).space = team.space ∧
      ∃ left right, (team.afterCall call).texts = some left ∧ (alone.afterCall call).texts = some right ∧
        Q left right := by
  have hdesks : Desk.Matches Q (team.space call.member) (team.deskFor call) (alone.deskFor call) := by
    refine ⟨rfl, ?_, call.scene.refuses, texts, own, store_deskFor htexts call, store_deskFor hown call, hrelated⟩
    rw [deskFor, hengine]
    rfl
  have hrun : (team.run call).1 = (alone.run call).1 ∧
      Desk.Matches Q (team.space call.member) (team.run call).2 (alone.run call).2 := hcall hdesks
  obtain ⟨hanswer, hspace, hsame, refuses, left, right, hleft, hright, hafter⟩ := hrun
  refine ⟨hanswer, ?_, space_afterCall hspace, left, right, ?_, ?_, hafter⟩
  · rw [engine_afterCall_self, engine_afterCall_self, hsame]
  · rw [afterCall, hleft]
    rfl
  · rw [afterCall, hright]
    rfl

/-- A call leaves a store where there is one, changes what is there under the keys of its namespace alone, and
changes no namespace. -/
theorem afterCall_confined {team : Team ι} {texts : KeyValues} (htexts : team.texts = some texts)
    (call : TeamCall ι) :
    ∃ after, (team.afterCall call).texts = some after ∧
      (∀ key ∉ spaceKeys (team.space call.member), after.get? key = texts.get? key) ∧
      (team.afterCall call).space = team.space := by
  -- The team is compared with itself: the texts stay equal, and keep what they held under the other keys.
  have hmatches := afterCall_matches (Q := fun left right => left = right ∧
      ∀ key ∉ spaceKeys (team.space call.member), left.get? key = texts.get? key)
    (call.call.relates ?_ ?_) rfl htexts htexts ⟨rfl, fun _ _ => rfl⟩
  · obtain ⟨-, -, hspace, after, _, hafter, -, -, hkept⟩ := hmatches
    exact ⟨after, hafter, hkept, hspace⟩
  · rintro key hkey left _ value ⟨rfl, hkept⟩
    refine ⟨rfl, fun other hother => ?_⟩
    have hne : other ≠ key := fun heq => hother (heq ▸ hkey)
    rw [KeyValues.get?_set, if_neg hne]
    exact hkept other hother
  · rintro key - left _ ⟨rfl, -⟩
    rfl

end Team
end GraphQuery
