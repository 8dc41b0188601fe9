import GraphQuery.Proofs.Engine.Agreement
import GraphQuery.Proofs.Filter.Export
import GraphQuery.Proofs.Filter.PlainChange

/-!
# Stored filter sets — store and memory do not drift, and the sets survive a restart

An engine is started at a store that holds nothing of it.  Its filter sets are changed again and again, while the
clock moves, the graph changes, the store refuses to be written to now and then, and calls find more or less of the
stack in use (`Desk.afterCalls`):

- after every change either nothing has been committed since the start and nothing is stored, or what is stored
  is what the engine exports wherever there is room for its text (`Desk.HoldsExport`);
- every new engine at that store has the same sets, marked as imported (`FilterSets.importedAt`), and they leave the
  same of the graph; where there is no room to read what is stored, there is no new engine.

One change leaves everything as it is or leaves its sets in the store (`FilterShelf.run_keepsStore`); from this a
whole run keeps the store with the sets, by induction (`Desk.IsKept.afterCalls`).
-/

namespace GraphQuery

/-- Whether a change commits: it asks for sets, and these can be made and written. -/
def SetChange.TakesEffect (now : Timestamp) (shelf : FilterShelf) (change : SetChange) : Prop :=
  ∃ sets store, change.attempt now shelf = .ok (some (sets, store))

/-! ## Shelves -/

namespace FilterShelf

/-- What the store holds for the shelf. -/
def stored (shelf : FilterShelf) : Option String := shelf.store.bind fun store => store.get? shelf.storeKey

/-- Whether the sets are plain and the store holds their text. -/
structure IsStored (shelf : FilterShelf) : Prop where
  plain : shelf.sets.IsPlain
  text : ∃ text, shelf.sets.serialize = .ok text ∧ shelf.stored = some text

/-- What has been written to a store is what the store holds. -/
theorem stored_of_written {shelf : FilterShelf} {old : Store} (hstore : shelf.store = some old)
    {sets : FilterSets} {store : Option Store} (hwritten : shelf.written sets = .ok store)
    (history : FilterHistory) :
    ∃ text, sets.serialize = .ok text ∧ stored { shelf with sets, store, history } = some text := by
  rw [written, hstore] at hwritten
  obtain ⟨text, hserialized, hwritten⟩ := Outcome.exists_of_bind_eq_ok hwritten
  obtain ⟨-, hserialize⟩ := FilterSets.serializeAt_eq_ok_iff.1 hserialized
  obtain ⟨new, hwrite, heq⟩ := Outcome.exists_of_bind_eq_ok hwritten
  cases heq
  refine ⟨text, hserialize, ?_⟩
  -- A store that refuses has not been written to, so this one has not refused.
  rw [Store.write] at hwrite
  split_ifs at hwrite
  cases hwrite
  show KeyValues.get? (KeyValues.set old.content shelf.storeKey text) shelf.storeKey = some text
  rw [KeyValues.get?_set, if_pos rfl]

theorem isStored_of_written {shelf : FilterShelf} {old : Store} (hstore : shelf.store = some old)
    {sets : FilterSets} {store : Option Store} (hwritten : shelf.written sets = .ok store)
    (hplain : sets.IsPlain) (history : FilterHistory) :
    IsStored { shelf with sets, store, history } where
  plain := hplain
  text := stored_of_written hstore hwritten history

/-- What is stored is found among the texts of the store. -/
theorem stored_eq (shelf : FilterShelf) :
    shelf.stored = (shelf.store.map (·.content)).bind fun texts => texts.get? shelf.storeKey := by
  cases hstore : shelf.store <;> simp [stored, hstore, Store.get?]

/-- A plain change of plain sets that are kept in a store changes nothing, or it commits and leaves its sets in
the store. -/
theorem run_keepsStore {now : Timestamp} (hnow : now.IsValid) (graph : Outcome Snapshot)
    {change : SetChange} (hchange : change.IsPlain) {shelf : FilterShelf} {store : Store}
    (hstore : shelf.store = some store) (htime : ReadsTimes shelf.runtime.time) (hplain : shelf.sets.IsPlain) :
    (¬ change.TakesEffect now shelf ∧ (runAt (change.run now graph) shelf).2 = shelf) ∨
      (change.TakesEffect now shelf ∧ ∃ sets store history,
        (runAt (change.run now graph) shelf).2 = { shelf with sets, store, history } ∧
          IsStored { shelf with sets, store, history }) := by
  have hrun := (SetChange.commits_run now graph change shelf).persistsFirst
  -- A change has no effect for two reasons: it fails, or it has nothing to do.
  rcases hattempt : shelf.attempted (change.proposed shelf.runtime.reader now shelf.sets) with e | _ | ⟨sets, written⟩
  · rw [hattempt] at hrun
    refine Or.inl ⟨?_, congrArg Prod.snd hrun⟩
    rintro ⟨sets, written, heffect⟩
    cases hattempt.symm.trans heffect
  · rw [hattempt] at hrun
    refine Or.inl ⟨?_, hrun⟩
    rintro ⟨sets, written, heffect⟩
    cases hattempt.symm.trans heffect
  · rw [hattempt] at hrun
    obtain ⟨history, hafter⟩ := hrun
    obtain ⟨hproposed, hwritten⟩ := attempted_eq_some hattempt
    have hnext : sets.IsPlain := SetChange.isPlain_of_proposed htime hnow hchange hplain hproposed
    exact Or.inr ⟨⟨sets, written, hattempt⟩, sets, written, history, hafter,
      isStored_of_written hstore hwritten hnext history⟩

/-! ### Loading -/

theorem runAt_load_of_none {shelf : FilterShelf} (h : shelf.stored = none) (now : Timestamp) :
    runAt (load now) shelf = (.ok 0, shelf) := by
  rw [stored] at h
  rw [load, runAt_get_bind, h]
  rfl

/-- Loading merges the stored sets, if they can be read. -/
theorem runAt_load_of_some {shelf : FilterShelf} {payload : String} (h : shelf.stored = some payload)
    (hne : payload ≠ "") (now : Timestamp) :
    runAt (load now) shelf =
      match FilterSets.parse now (.text payload) shelf.runtime.reader with
      | .ok staged => (.ok staged.length, { shelf with sets := shelf.sets.merge staged })
      | .error e => (.error e, shelf) := by
  rw [stored] at h
  rw [load, runAt_get_bind, h]
  split
  · case h_1 heq =>
      cases heq
  · case h_2 heq =>
      exact absurd (Option.some.inj heq) hne
  · case h_3 heq =>
      cases heq
      rw [runAt_ofOutcome_bind]
      cases FilterSets.parse now (.text payload) shelf.runtime.reader with
      | error e =>
          rfl
      | ok staged =>
          rfl

/-- Loaded into an empty shelf, the stored sets are those that were stored, if there is room to read them. -/
theorem IsStored.runAt_load {shelf : FilterShelf} (h : shelf.IsStored) (now : Timestamp)
    {fresh : FilterShelf} (hsets : fresh.sets = []) (hstored : fresh.stored = shelf.stored)
    (htime : ReadsTimes fresh.runtime.time) :
    runAt (load now) fresh =
      if shelf.sets.exported.openDepth ≤ fresh.runtime.reads then
        (.ok (shelf.sets.importedAt now).length, { fresh with sets := shelf.sets.importedAt now })
      else (.error .nestedTooDeep, fresh) := by
  obtain ⟨text, hserialize, htext⟩ := h.text
  have hparse := FilterSets.parse_serialize h.plain hserialize htime now
  -- An empty text would be passed over, as if nothing were stored.
  have hne := FilterSets.serialize_ne_empty h.plain hserialize
  rw [runAt_load_of_some (hstored.trans htext) hne now, hparse]
  split_ifs with hroom
  · simp only [hsets, (h.plain.importedAt now).merge_nil]
  · rfl

end FilterShelf

/-! ## Desks -/

namespace Desk

/-- The filter sets of the engine, with the store that they are kept in. -/
def shelf (desk : Desk) : FilterShelf :=
  ⟨desk.engine.sets, desk.engine.setHistory, desk.around.store,
    FilterShelf.keyFor desk.engine.config.storeNamespace, desk.around.runtime⟩

/-- The desk with the sets and the store of a shelf. -/
def withShelf (desk : Desk) (shelf : FilterShelf) : Desk :=
  ⟨{ desk.engine with sets := shelf.sets, setHistory := shelf.history },
    { desk.around with store := shelf.store }⟩

/-- What the store holds for the engine. -/
def stored (desk : Desk) : Option String := desk.shelf.stored

/-- What the engine exports. -/
def exported (desk : Desk) : Outcome String :=
  (Engine.runAt (Engine.withSets fun _ _ => FilterShelf.exportText) desk).1

/-- What all active sets of the engine leave of its graph. -/
def applied (desk : Desk) : Outcome Snapshot :=
  (Engine.runAt (Engine.withSets fun _ graph => FilterShelf.applyAll graph) desk).1

/-- The texts in the store. -/
def texts (desk : Desk) : Option KeyValues := desk.around.store.map (·.content)

theorem stored_eq (desk : Desk) :
    desk.stored = desk.texts.bind fun texts =>
      texts.get? (FilterShelf.keyFor desk.engine.config.storeNamespace) :=
  desk.shelf.stored_eq

/-- The desk with other sets. -/
def withSets (desk : Desk) (sets : FilterSets) : Desk := { desk with engine := { desk.engine with sets } }

/-- The desk as it is found in another place on the stack. -/
def within (desk : Desk) (runtime : Runtime) : Desk := { desk with around := { desk.around with runtime } }

theorem texts_within (desk : Desk) (runtime : Runtime) : (desk.within runtime).texts = desk.texts := rfl

end Desk

namespace Engine

theorem runAt_withSets {α : Type} (action : Timestamp → Outcome Snapshot → ShelfM α) (desk : Desk) :
    runAt (withSets action) desk =
      ((FilterShelf.runAt (action desk.around.now desk.snapshot) desk.shelf).1,
        desk.withShelf (FilterShelf.runAt (action desk.around.now desk.snapshot) desk.shelf).2) :=
  rfl

theorem exported_eq (desk : Desk) : desk.exported = desk.engine.sets.serializeAt desk.around.runtime :=
  rfl

theorem applied_eq (desk : Desk) :
    desk.applied = desk.snapshot >>= fun graph => desk.engine.sets.applyAll graph := by
  rw [Desk.applied, runAt_withSets, FilterShelf.runAt_applyAll]
  rfl

/-! ### Starting -/

/-- Once the stored sets are loaded, an engine starts if its graph can be read and has texts. -/
theorem runAt_start (desk : Desk) {count : Nat} {sets : FilterSets}
    (hload : FilterShelf.runAt (FilterShelf.load desk.around.now) desk.shelf =
      (.ok count, { desk.shelf with sets }))
    {graph : Snapshot} (hgraph : desk.snapshot = .ok graph) (htexts : graph.HasTexts) :
    runAt start desk = (.ok (), indexed (desk.withSets sets) graph) := by
  have hloaded : runAt (withSets fun now _ => FilterShelf.load now) desk =
      (.ok count, desk.withSets sets) := by
    rw [runAt_withSets, hload]
    rfl
  have hsame : (desk.withSets sets).snapshot = .ok graph := hgraph
  rw [start, runAt_bind, hloaded]
  exact (runAt_updateIndex_of_ok hsame).trans (runAt_buildIndex_of_hasTexts htexts _)

/-- An engine with accepted settings, loaded sets and a graph that can be read and has texts is opened. -/
theorem openDesk_eq_ok {number : Nat} {config : EngineConfig} {source : GraphSource} {owned : Snapshot}
    {around : Surroundings} {history : FilterHistory} {count : Nat} {sets : FilterSets} {graph : Snapshot}
    (hsize : FilterHistory.ofSize config.filterHistorySize = .ok history)
    (hload : FilterShelf.runAt (FilterShelf.load around.now)
        (Desk.mk (blank number config source owned history) around).shelf =
      (.ok count, { (Desk.mk (blank number config source owned history) around).shelf with sets }))
    (hgraph : (Desk.mk (blank number config source owned history) around).snapshot = .ok graph)
    (htexts : graph.HasTexts) :
    openDesk number config source owned around =
      .ok (indexed ((Desk.mk (blank number config source owned history) around).withSets sets) graph) := by
  have hstart := runAt_start ⟨blank number config source owned history, around⟩ hload hgraph htexts
  rw [openDesk, hsize]
  simp only [bind, Except.bind]
  rw [runAt] at hstart
  rw [hstart]
  rfl

/-- No engine is opened where the stored sets cannot be loaded. -/
theorem openDesk_of_load_error {number : Nat} {config : EngineConfig} {source : GraphSource} {owned : Snapshot}
    {around : Surroundings} {history : FilterHistory} {e : Failure} {after : FilterShelf}
    (hsize : FilterHistory.ofSize config.filterHistorySize = .ok history)
    (hload : FilterShelf.runAt (FilterShelf.load around.now)
        (Desk.mk (blank number config source owned history) around).shelf = (.error e, after)) :
    openDesk number config source owned around = .error e := by
  have hstart : (runAt start ⟨blank number config source owned history, around⟩).1 = .error e := by
    rw [start, runAt_bind, runAt_withSets, hload]
  rw [openDesk, hsize]
  show (runAt start ⟨blank number config source owned history, around⟩).1.map _ = _
  rw [hstart]
  rfl

/-- An engine that has been opened has accepted settings and a graph that can be read and has texts.  It has loaded its
sets and then built its index from the graph. -/
theorem exists_of_openDesk {number : Nat} {config : EngineConfig} {source : GraphSource} {owned : Snapshot}
    {around : Surroundings} {desk : Desk} (hopen : openDesk number config source owned around = .ok desk) :
    ∃ history graph, FilterHistory.ofSize config.filterHistorySize = .ok history ∧
      (Desk.mk (blank number config source owned history) around).snapshot = .ok graph ∧ graph.HasTexts ∧
      desk = indexed ((Desk.mk (blank number config source owned history) around).withShelf
        (FilterShelf.runAt (FilterShelf.load around.now)
          (Desk.mk (blank number config source owned history) around).shelf).2) graph := by
  rw [openDesk] at hopen
  obtain ⟨history, hsize, hopen⟩ := Outcome.exists_of_bind_eq_ok hopen
  let fresh : Desk := ⟨blank number config source owned history, around⟩
  obtain ⟨_, hstart, hdesk⟩ : ∃ done, (runAt start fresh).1 = .ok done ∧ (runAt start fresh).2 = desk :=
    Outcome.exists_of_map_eq_ok hopen
  rw [start, runAt_bind, runAt_withSets] at hstart hdesk
  split at hdesk
  · case h_1 count loaded heq =>
      obtain ⟨-, rfl⟩ := Prod.mk.inj heq
      rw [heq] at hstart
      obtain ⟨graph, hgraph, htexts, hindexed⟩ := exists_of_updateIndex_eq_ok hstart
      exact ⟨history, graph, hsize, hgraph, htexts, hdesk.symm.trans hindexed⟩
  · case h_2 e after heq =>
      rw [heq] at hstart
      cases hstart

/-- An engine that has been opened where nothing is stored has no sets and has changed nothing around it. -/
theorem openDesk_of_absent {number : Nat} {config : EngineConfig} {source : GraphSource} {owned : Snapshot}
    {around : Surroundings} {store : Store} {first : Desk} (hstore : around.store = some store)
    (habsent : store.get? (FilterShelf.keyFor config.storeNamespace) = none)
    (hopen : openDesk number config source owned around = .ok first) :
    first.engine.sets = [] ∧ first.engine.config = config ∧ first.around = around := by
  obtain ⟨history, graph, -, -, -, rfl⟩ := exists_of_openDesk hopen
  have hstored : (Desk.mk (blank number config source owned history) around).shelf.stored = none := by
    show around.store.bind _ = none
    rw [hstore]
    exact habsent
  rw [FilterShelf.runAt_load_of_none hstored]
  exact ⟨rfl, rfl, rfl⟩

end Engine

/-! ## Runs -/

/-- A change of the filter sets, and what the engine finds around it. -/
structure SetCall where
  change : SetChange
  now : Timestamp
  /-- What the accessor gives. -/
  state : Value
  containers : List Container
  /-- Whether the store refuses to be written to. -/
  refuses : Bool
  runtime : Runtime

/-- Whether the change is plain and made at a valid time, and times are read as they are written. -/
structure SetCall.IsPlain (call : SetCall) : Prop where
  change : call.change.IsPlain
  now : call.now.IsValid
  times : ReadsTimes call.runtime.time

namespace Desk

/-- The desk as a call finds it. -/
def facing (desk : Desk) (call : SetCall) : Desk where
  engine := desk.engine
  around :=
    { now := call.now
      store := desk.around.store.map fun store => { store with refuses := call.refuses }
      state := call.state
      containers := call.containers
      runtime := call.runtime }

/-- The desk after a call, whether it has failed or not. -/
def afterCall (desk : Desk) (call : SetCall) : Desk :=
  (Engine.runAt (Engine.withSets fun now graph => call.change.run now graph) (desk.facing call)).2

def afterCalls (desk : Desk) (calls : List SetCall) : Desk := calls.foldl afterCall desk

/-- Whether a call commits. -/
def Commits (desk : Desk) (call : SetCall) : Prop :=
  call.change.TakesEffect call.now (desk.facing call).shelf

/-- Whether any of the calls commits. -/
def SomeCommits (desk : Desk) : List SetCall → Prop
  | [] => False
  | call :: rest => desk.Commits call ∨ (desk.afterCall call).SomeCommits rest

/-- A call changes nothing of the engine but its sets and their history. -/
theorem engine_afterCall (desk : Desk) (call : SetCall) :
    ∃ sets setHistory, (desk.afterCall call).engine = { desk.engine with sets, setHistory } :=
  ⟨_, _, rfl⟩

theorem engine_afterCalls (desk : Desk) (calls : List SetCall) :
    ∃ sets setHistory, (desk.afterCalls calls).engine = { desk.engine with sets, setHistory } := by
  induction calls generalizing desk with
  | nil =>
      exact ⟨_, _, rfl⟩
  | cons call rest ih =>
      obtain ⟨sets, setHistory, hrest⟩ := ih (desk.afterCall call)
      obtain ⟨_, _, hcall⟩ := desk.engine_afterCall call
      refine ⟨sets, setHistory, ?_⟩
      rw [hcall] at hrest
      exact hrest

/-- An engine that owns its graph still has it after a run. -/
theorem snapshot_afterCalls {desk : Desk} (h : desk.engine.source = .owned) (calls : List SetCall) :
    (desk.afterCalls calls).snapshot = .ok desk.engine.owned := by
  obtain ⟨sets, setHistory, hengine⟩ := desk.engine_afterCalls calls
  rw [Desk.snapshot, hengine, h]

theorem texts_facing (desk : Desk) (call : SetCall) : (desk.facing call).texts = desk.texts := by
  rw [texts, facing, Option.map_map]
  rfl

/-- Nothing has been committed since the first desk and nothing is stored, or what is stored is what the engine
exports, wherever it is asked to and finds room for it. -/
inductive HoldsExport (first last : Desk) (committed : Prop) : Prop where
  | untouched (uncommitted : ¬ committed) (engine : last.engine = first.engine)
      (texts : last.texts = first.texts) (stored : last.stored = none)
  | committed (any : committed) (text : String)
      (exported : ∀ runtime, (last.within runtime).exported =
        if last.engine.sets.fit runtime then .ok text else .error .nestedTooDeep)
      (stored : last.stored = some text)

/-- A desk that has been started without sets is as it was, or something has been committed and the store holds
the sets. -/
structure IsKept (first last : Desk) (committed : Prop) : Prop where
  fresh : first.engine.sets = []
  absent : first.stored = none
  config : last.engine.config = first.engine.config
  store : ∃ store, last.around.store = some store
  kept : ¬ committed ∧ last.engine = first.engine ∧ last.texts = first.texts ∨
    committed ∧ last.shelf.IsStored

variable {first last : Desk} {committed : Prop}

theorem IsKept.plain (h : IsKept first last committed) : last.engine.sets.IsPlain := by
  rcases h.kept with ⟨-, hengine, -⟩ | ⟨-, hstored⟩
  · rw [hengine, h.fresh]
    exact .nil
  · exact hstored.plain

theorem IsKept.stored_of_texts (h : IsKept first last committed) (htexts : last.texts = first.texts) :
    last.stored = none := by
  rw [stored_eq, htexts, h.config, ← stored_eq]
  exact h.absent

theorem IsKept.holdsExport (h : IsKept first last committed) : HoldsExport first last committed := by
  rcases h.kept with ⟨hnone, hengine, htexts⟩ | ⟨hsome, hstored⟩
  · exact .untouched hnone hengine htexts (h.stored_of_texts htexts)
  · obtain ⟨text, hserialize, htext⟩ := hstored.text
    refine .committed hsome text (fun runtime => ?_) htext
    have hsets : last.engine.sets.serialize = .ok text := hserialize
    show last.engine.sets.serializeAt runtime = _
    rw [FilterSets.serializeAt, hsets]

/-- What surrounds the engine may change, other than the texts in the store. -/
theorem IsKept.facing (h : IsKept first last committed) (call : SetCall) :
    IsKept first (last.facing call) committed := by
  obtain ⟨store, hstore⟩ := h.store
  have htexts := last.texts_facing call
  refine ⟨h.fresh, h.absent, h.config, ⟨{ store with refuses := call.refuses }, ?_⟩, ?_⟩
  · rw [Desk.facing, hstore]
    rfl
  · rcases h.kept with ⟨hnone, hengine, hsame⟩ | ⟨hsome, hstored⟩
    · exact Or.inl ⟨hnone, hengine, htexts.trans hsame⟩
    · obtain ⟨text, hserialize, htext⟩ := hstored.text
      refine Or.inr ⟨hsome, hstored.plain, text, hserialize, ?_⟩
      have hfound : (last.facing call).stored = last.stored := by
        rw [stored_eq, stored_eq, htexts]
        rfl
      exact hfound.trans htext

/-- A plain call keeps the store with the sets, whether the write is refused or the call fails later. -/
theorem IsKept.afterCall (h : IsKept first last committed) {call : SetCall} (hcall : call.IsPlain) :
    IsKept first (last.afterCall call) (committed ∨ last.Commits call) := by
  have hfacing := h.facing call
  obtain ⟨store, hstore⟩ := hfacing.store
  have hshelf : (last.facing call).shelf.store = some store := hstore
  have hrun := FilterShelf.run_keepsStore hcall.now (last.facing call).snapshot hcall.change hshelf
    hcall.times hfacing.plain
  rw [Desk.afterCall, Engine.runAt_withSets]
  show IsKept first ((last.facing call).withShelf (FilterShelf.runAt
    (call.change.run call.now (last.facing call).snapshot) (last.facing call).shelf).2) _
  rcases hrun with ⟨hnone, hsame⟩ | ⟨hsome, sets, written, history, hafter, hstored⟩
  -- Nothing was to be changed, or it could not be written: the desk is as the call has found it.
  · have hcommits : (committed ∨ last.Commits call) = committed := propext (or_iff_left hnone)
    rw [hsame, hcommits]
    exact hfacing
  -- The sets have been written and made current; what fails after that touches neither them nor the store.
  · rw [hafter]
    refine ⟨h.fresh, h.absent, h.config, ?_, Or.inr ⟨Or.inr hsome, hstored⟩⟩
    obtain ⟨text, -, htext⟩ := hstored.text
    cases written with
    | none =>
        cases htext
    | some store =>
        exact ⟨store, rfl⟩

theorem IsKept.afterCalls (h : IsKept first last committed) {calls : List SetCall}
    (hcalls : ∀ call ∈ calls, call.IsPlain) :
    IsKept first (last.afterCalls calls) (committed ∨ last.SomeCommits calls) := by
  induction calls generalizing last committed with
  | nil =>
      rw [SomeCommits, or_false]
      exact h
  | cons call rest ih =>
      rw [SomeCommits, ← or_assoc]
      exact ih (h.afterCall (hcalls call List.mem_cons_self))
        fun other hother => hcalls other (List.mem_cons_of_mem _ hother)

/-! ### Restarts -/

/-- What a new engine is made from, at the store of a desk and with the same namespace and graph. -/
structure Restart (last : Desk) where
  number : Nat
  config : EngineConfig
  source : GraphSource
  owned : Snapshot
  around : Surroundings
  sameSpace : config.storeNamespace = last.engine.config.storeNamespace
  sameTexts : around.store.map (·.content) = last.texts
  sameGraph : ∀ history,
    (Desk.mk (Engine.blank number config source owned history) around).snapshot = last.snapshot
  times : ReadsTimes around.runtime.time

namespace Restart

/-- The new engine, or why there is none. -/
def outcome (restart : Restart last) : Outcome Desk :=
  Engine.openDesk restart.number restart.config restart.source restart.owned restart.around

/-- Whether there is room to read what is stored. -/
def HasRoom (restart : Restart last) : Prop :=
  last.stored = none ∨ last.engine.sets.exported.openDepth ≤ restart.around.runtime.reads

/-- Whether the settings are accepted, the graph can be read and indexed, and there is room to read what is
stored. -/
structure IsPossible (restart : Restart last) : Prop where
  accepted : ∃ history, FilterHistory.ofSize restart.config.filterHistorySize = .ok history
  graph : ∃ graph, last.snapshot = .ok graph ∧ graph.HasTexts
  room : restart.HasRoom

/-- The new engine before the stored sets are loaded. -/
def fresh (restart : Restart last) (history : FilterHistory) : Desk :=
  ⟨Engine.blank restart.number restart.config restart.source restart.owned history, restart.around⟩

theorem stored_fresh (restart : Restart last) (history : FilterHistory) :
    (restart.fresh history).stored = last.stored := by
  have htexts : (restart.fresh history).texts = last.texts := restart.sameTexts
  have hspace : (restart.fresh history).engine.config.storeNamespace = last.engine.config.storeNamespace :=
    restart.sameSpace
  rw [stored_eq, stored_eq, htexts, hspace]

end Restart

/-- A new engine loads the sets as they have been kept, if there is room to read them. -/
theorem IsKept.exists_load (h : IsKept first last committed) (restart : Restart last) (hroom : restart.HasRoom)
    (history : FilterHistory) :
    ∃ count, FilterShelf.runAt (FilterShelf.load restart.around.now) (restart.fresh history).shelf =
      (.ok count,
        { (restart.fresh history).shelf with sets := last.engine.sets.importedAt restart.around.now }) := by
  rcases h.kept with ⟨-, hengine, htexts⟩ | ⟨-, hstored⟩
  -- Nothing is loaded where nothing has been committed, and no sets are what there was.
  · have hnone : (restart.fresh history).shelf.stored = none :=
      (restart.stored_fresh history).trans (h.stored_of_texts htexts)
    have hsets : last.engine.sets = [] := by
      rw [hengine]
      exact h.fresh
    rw [hsets]
    exact ⟨0, FilterShelf.runAt_load_of_none hnone _⟩
  · have hload := hstored.runAt_load restart.around.now rfl (restart.stored_fresh history) restart.times
    obtain ⟨text, -, htext⟩ := hstored.text
    have hfits : last.shelf.sets.exported.openDepth ≤ (restart.fresh history).shelf.runtime.reads := by
      refine hroom.resolve_left fun hnone => ?_
      cases hnone.symm.trans htext
    rw [if_pos hfits] at hload
    exact ⟨_, hload⟩

/-- Where there is no room to read what is stored, settings that are accepted do not help. -/
theorem IsKept.outcome_of_not_hasRoom (h : IsKept first last committed) (restart : Restart last)
    (hroom : ¬ restart.HasRoom) {history : FilterHistory}
    (hsize : FilterHistory.ofSize restart.config.filterHistorySize = .ok history) :
    restart.outcome = .error .nestedTooDeep := by
  obtain ⟨hstored, hdeep⟩ := not_or.1 hroom
  rcases h.kept with ⟨-, hengine, htexts⟩ | ⟨-, hkept⟩
  · exact absurd (h.stored_of_texts htexts) hstored
  · have hload := hkept.runAt_load restart.around.now rfl (restart.stored_fresh history) restart.times
    have hfits : ¬ last.shelf.sets.exported.openDepth ≤ (restart.fresh history).shelf.runtime.reads := hdeep
    rw [if_neg hfits] at hload
    exact Engine.openDesk_of_load_error hsize hload

/-- A possible restart at the store of a kept desk gives an engine with the same sets, and these leave the same of the
graph. -/
theorem IsKept.survives (h : IsKept first last committed) (restart : Restart last)
    (hpossible : restart.IsPossible) :
    ∃ again, restart.outcome = .ok again ∧
      again.engine.sets = last.engine.sets.importedAt restart.around.now ∧
      again.applied = last.applied := by
  obtain ⟨history, hsize⟩ := hpossible.accepted
  obtain ⟨graph, hgraph, htexts⟩ := hpossible.graph
  obtain ⟨count, hload⟩ := h.exists_load restart hpossible.room history
  have hsame := (restart.sameGraph history).trans hgraph
  have hopen := Engine.openDesk_eq_ok hsize hload hsame htexts
  refine ⟨_, hopen, rfl, ?_⟩
  let loaded : Desk := (restart.fresh history).withSets (last.engine.sets.importedAt restart.around.now)
  show (Engine.indexed loaded graph).applied = _
  have hsnapshot : (Engine.indexed loaded graph).snapshot = .ok graph := hsame
  rw [Engine.applied_eq, Engine.applied_eq, hsnapshot, hgraph]
  exact FilterSets.applyAll_importedAt restart.around.now graph last.engine.sets

/-- Only a possible restart gives an engine. -/
theorem IsKept.isPossible_of_outcome (h : IsKept first last committed) {restart : Restart last} {again : Desk}
    (hopen : restart.outcome = .ok again) : restart.IsPossible := by
  obtain ⟨history, graph, hsize, hgraph, htexts, -⟩ := Engine.exists_of_openDesk hopen
  refine ⟨⟨history, hsize⟩, ⟨graph, (restart.sameGraph history).symm.trans hgraph, htexts⟩, ?_⟩
  by_contra hroom
  cases hopen.symm.trans (h.outcome_of_not_hasRoom restart hroom hsize)

end Desk

namespace Engine

section Opened

variable {number : Nat} {config : EngineConfig} {source : GraphSource} {owned : Snapshot}
  {around : Surroundings} {store : Store} {first : Desk}

/-- An engine opened at a store that holds nothing of it. -/
theorem isKept_of_openDesk (hstore : around.store = some store)
    (habsent : store.get? (FilterShelf.keyFor config.storeNamespace) = none)
    (hopen : openDesk number config source owned around = .ok first) : Desk.IsKept first first False := by
  obtain ⟨hsets, hconfig, haround⟩ := openDesk_of_absent hstore habsent hopen
  have hfirst : first.stored = none := by
    rw [Desk.stored_eq, Desk.texts, haround, hconfig, hstore]
    exact habsent
  exact ⟨hsets, hfirst, rfl, ⟨store, haround ▸ hstore⟩, Or.inl ⟨not_false, rfl, rfl⟩⟩

/-- The store and the sets do not drift, and the sets survive a restart.  An engine is opened at a store that
holds nothing of it, and plain changes are made, any of which may fail.  Then nothing has been committed and
nothing is stored, or what is stored is what the engine exports, wherever there is room for the export; and each new
engine at that store has the same sets, marked as imported, which leave the same of the graph.  There is a new engine
unless its settings are refused, the graph cannot be read and indexed, or there is no room to read what is stored. -/
theorem setCalls_keepStore (hstore : around.store = some store)
    (habsent : store.get? (FilterShelf.keyFor config.storeNamespace) = none)
    (hopen : openDesk number config source owned around = .ok first) {calls : List SetCall}
    (hcalls : ∀ call ∈ calls, call.IsPlain) :
    Desk.HoldsExport first (first.afterCalls calls) (first.SomeCommits calls) ∧
      ∀ restart : Desk.Restart (first.afterCalls calls),
        (∀ again, restart.outcome = .ok again →
          again.engine.sets = (first.afterCalls calls).engine.sets.importedAt restart.around.now ∧
          again.applied = (first.afterCalls calls).applied) ∧
        ((∃ again, restart.outcome = .ok again) ↔ restart.IsPossible) := by
  have hlast := (isKept_of_openDesk hstore habsent hopen).afterCalls hcalls
  rw [false_or] at hlast
  refine ⟨hlast.holdsExport, fun restart => ⟨fun again hagain => ?_, ?_, fun hpossible => ?_⟩⟩
  · obtain ⟨other, hother, hsame⟩ := hlast.survives restart (hlast.isPossible_of_outcome hagain)
    cases hagain.symm.trans hother
    exact hsame
  · rintro ⟨again, hagain⟩
    exact hlast.isPossible_of_outcome hagain
  · obtain ⟨again, hagain, -⟩ := hlast.survives restart hpossible
    exact ⟨again, hagain⟩

end Opened

/-- A noon at which changes are made. -/
def someNoon : Timestamp := ⟨⟨2024, 1, 1⟩, 12, 0, 0, 0, some 0⟩

theorem isValid_someNoon : someNoon.IsValid :=
  ⟨⟨by decide, by decide, by decide, by decide, by decide, by rintro _ ⟨⟩; decide⟩, by decide⟩

/-- A set is made, first in vain and then with a store that takes it; it is switched off, and another one is
imported. -/
def someCalls : List SetCall :=
  let config : Value := .mapping [("nodes", .mapping [("type", .text "t")])]
  [⟨.create (.text "x") config, someNoon, .null, [], true, .usual⟩,
    ⟨.create (.text "x") config, someNoon, .null, [], false, .usual⟩,
    ⟨.toggle (.text "x") .null, someNoon, .null, [], false, .usual⟩,
    ⟨.importSets (.text "\x7b\"y\": \x7b\x7d\x7d"), someNoon, .null, [], false, .usual⟩]

theorem isPlain_of_mem_someCalls : ∀ call ∈ someCalls, call.IsPlain := by
  have hconfig : (Value.mapping [("nodes", .mapping [("type", .text "t")])]).IsObject :=
    QuickFilter.isObject_single "nodes" (QuickFilter.isObject_single "type" (.text "t")).isJson
  intro call hcall
  simp only [someCalls, List.mem_cons, List.not_mem_nil, or_false] at hcall
  rcases hcall with rfl | rfl | rfl | rfl
  · exact ⟨⟨⟨"x", rfl⟩, hconfig⟩, isValid_someNoon, Runtime.readsTimes_usual⟩
  · exact ⟨⟨⟨"x", rfl⟩, hconfig⟩, isValid_someNoon, Runtime.readsTimes_usual⟩
  · exact ⟨⟨"x", rfl⟩, isValid_someNoon, Runtime.readsTimes_usual⟩
  · exact ⟨trivial, isValid_someNoon, Runtime.readsTimes_usual⟩

/-- The surroundings of an engine on a graph of its own, with an empty store. -/
def emptyAround : Surroundings := ⟨someNoon, some ⟨[], false⟩, .null, [], .usual⟩

/-- An engine on a graph of its own, opened at an empty store. -/
def firstDesk : Desk :=
  indexed (Desk.withSets ⟨blank 0 {} .owned (FilterShelf.loneNode "a") (.withCapacity 20), emptyAround⟩ [])
    (FilterShelf.loneNode "a")

theorem openDesk_firstDesk : openDesk 0 {} .owned (FilterShelf.loneNode "a") emptyAround = .ok firstDesk :=
  openDesk_eq_ok rfl (FilterShelf.runAt_load_of_none rfl someNoon) rfl (by decide)

/-- The calls leave two sets, and what is stored of them is not nested deep. -/
theorem afterCalls_someCalls :
    (firstDesk.afterCalls someCalls).stored.isSome = true ∧
      (firstDesk.afterCalls someCalls).engine.sets.length = 2 ∧
      ∀ entry ∈ (firstDesk.afterCalls someCalls).engine.sets, 2 + entry.2.config.openDepth ≤ 9 := by
  have hrun : ((firstDesk.afterCalls someCalls).stored.isSome &&
      (firstDesk.afterCalls someCalls).engine.sets.length == 2 &&
      (firstDesk.afterCalls someCalls).engine.sets.all fun entry => 2 + entry.2.config.openDepth ≤ 9) = true := by
    decide +kernel
  rw [Bool.and_eq_true, Bool.and_eq_true, beq_iff_eq, List.all_eq_true] at hrun
  obtain ⟨⟨hstored, hlength⟩, hflat⟩ := hrun
  exact ⟨hstored, hlength, fun entry hentry => of_decide_eq_true (hflat entry hentry)⟩

/-- Some calls at an empty store leave two sets there, which the next engine has as well. -/
theorem setCalls_keepStore_someCalls :
    openDesk 0 {} .owned (FilterShelf.loneNode "a") emptyAround = .ok firstDesk ∧
      (∀ call ∈ someCalls, call.IsPlain) ∧
      Desk.HoldsExport firstDesk (firstDesk.afterCalls someCalls) (firstDesk.SomeCommits someCalls) ∧
      (firstDesk.afterCalls someCalls).stored.isSome = true ∧
      ∃ again, openDesk 1 {} .owned (FilterShelf.loneNode "a")
          ((firstDesk.afterCalls someCalls).within .usual).around = .ok again ∧
        again.engine.sets.length = 2 ∧ again.applied = (firstDesk.afterCalls someCalls).applied := by
  have hkept := setCalls_keepStore rfl rfl openDesk_firstDesk isPlain_of_mem_someCalls
  have hplain := ((isKept_of_openDesk rfl rfl openDesk_firstDesk).afterCalls isPlain_of_mem_someCalls).plain
  have hsame : (firstDesk.afterCalls someCalls).snapshot = .ok (FilterShelf.loneNode "a") :=
    Desk.snapshot_afterCalls rfl someCalls
  have hspace : (firstDesk.afterCalls someCalls).engine.config.storeNamespace = "graphsift" := by
    obtain ⟨sets, setHistory, hengine⟩ := firstDesk.engine_afterCalls someCalls
    rw [hengine]
    rfl
  obtain ⟨hstored, hlength, hflat⟩ := afterCalls_someCalls
  refine ⟨openDesk_firstDesk, isPlain_of_mem_someCalls, hkept.1, hstored, ?_⟩
  -- The run has been evaluated; from here on only what is known of its end is used.
  generalize firstDesk.afterCalls someCalls = last at hkept hplain hsame hspace hlength hflat ⊢
  let restart : Desk.Restart last :=
    { number := 1
      config := {}
      source := .owned
      owned := FilterShelf.loneNode "a"
      around := (last.within .usual).around
      sameSpace := hspace.symm
      sameTexts := last.texts_within .usual
      sameGraph := fun _ => hsame.symm
      times := Runtime.readsTimes_usual }
  have hroom : last.engine.sets.exported.openDepth ≤ Json.nestingLimit :=
    (hplain.openDepth_exported_le_iff (by decide)).2 fun entry hentry =>
      (hflat entry hentry).trans (by decide)
  have hpossible : restart.IsPossible :=
    ⟨⟨.withCapacity 20, rfl⟩, ⟨FilterShelf.loneNode "a", hsame, by decide⟩, Or.inr hroom⟩
  obtain ⟨again, hagain⟩ := (hkept.2 restart).2.2 hpossible
  obtain ⟨hsets, happlied⟩ := (hkept.2 restart).1 again hagain
  refine ⟨again, hagain, ?_, happlied⟩
  rw [hsets, FilterSets.importedAt, List.length_map]
  exact hlength

end Engine
end GraphQuery
