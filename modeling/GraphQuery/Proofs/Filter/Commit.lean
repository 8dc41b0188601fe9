import GraphQuery.Engine.SetChange
import GraphQuery.Proofs.Filter.ActiveSets
import GraphQuery.Proofs.Outcome

/-!
# Commits — a change of the filter sets is written before it is made

Every change of the sets goes through the same stages (`FilterShelf.Commits`):

- the new sets are made from the arguments and the sets there are (`SetChange.proposed`);
- they are written to the store, if there is one (`FilterShelf.written`);
- they become the current sets;
- the change is recorded, and the answer shows what is left of the graph.

What fails in the first two stages has changed nothing (`SetChange.run_persistsFirst`); what fails
later finds the change made, in memory and in the store alike.  `SetChange.planned` gives the sets together with
the fields that are recorded of the change (`SetChange.records_run`).
-/

namespace GraphQuery
namespace FilterShelf

variable {α β : Type}

/-! ## Operations on a shelf -/

/-- The answer of an operation on a shelf, and the shelf that it leaves. -/
def runAt (action : ShelfM α) (shelf : FilterShelf) : Outcome α × FilterShelf := action.run.run shelf

theorem runAt_bind (x : ShelfM α) (f : α → ShelfM β) (shelf : FilterShelf) :
    runAt (x >>= f) shelf =
      match runAt x shelf with
      | (.ok a, after) => runAt (f a) after
      | (.error e, after) => (.error e, after) := by
  simp only [runAt, ExceptT.run_bind, StateT.run_bind]
  rcases hx : x.run.run shelf with ⟨answer, after⟩
  cases answer with
  | ok a =>
      rfl
  | error e =>
      rfl

theorem runAt_map (f : α → β) (x : ShelfM α) (shelf : FilterShelf) :
    runAt (f <$> x) shelf = ((runAt x shelf).1.map f, (runAt x shelf).2) := by
  simp only [runAt, ExceptT.run_map, StateT.run_map]
  rfl

theorem runAt_ofOutcome_bind (answer : Outcome α) (f : α → ShelfM β) (shelf : FilterShelf) :
    runAt (ofOutcome answer >>= f) shelf =
      match answer with
      | .ok a => runAt (f a) shelf
      | .error e => (.error e, shelf) := by
  cases answer with
  | ok a =>
      rfl
  | error e =>
      rfl

/-- Looking at the shelf changes nothing. -/
theorem runAt_get_bind (f : FilterShelf → ShelfM β) (shelf : FilterShelf) :
    runAt (get >>= f) shelf = runAt (f shelf) shelf :=
  rfl

theorem runAt_applyAll (graph : Outcome Snapshot) (shelf : FilterShelf) :
    runAt (applyAll graph) shelf = (graph >>= fun g => shelf.sets.applyAll g, shelf) := by
  cases graph with
  | error e =>
      rfl
  | ok g =>
      rfl

/-- An operation that leaves the sets and the store as they are. -/
def KeepsSets (action : ShelfM α) : Prop :=
  ∀ shelf, ∃ history, (runAt action shelf).2 = { shelf with history }

theorem KeepsSets.bind {x : ShelfM α} {f : α → ShelfM β} (hx : KeepsSets x)
    (hf : ∀ a, KeepsSets (f a)) : KeepsSets (x >>= f) := by
  intro shelf
  rw [runAt_bind]
  rcases hx shelf with ⟨history, hafter⟩
  rcases hrun : runAt x shelf with ⟨answer, after⟩
  rw [hrun] at hafter
  subst hafter
  cases answer with
  | error e =>
      exact ⟨history, rfl⟩
  | ok a =>
      exact hf a _

theorem KeepsSets.record (now : Timestamp) (fields : Fields) :
    KeepsSets (FilterShelf.record now fields) := by
  intro shelf
  show ∃ history, (runAt (FilterShelf.ofOutcome (shelf.history.record now fields) >>= fun history =>
    set { shelf with history }) shelf).2 = { shelf with history }
  rw [runAt_ofOutcome_bind]
  cases shelf.history.record now fields with
  | error e =>
      exact ⟨shelf.history, rfl⟩
  | ok history =>
      exact ⟨history, rfl⟩

/-- An operation that leaves the shelf as it is. -/
def Reads (action : ShelfM α) : Prop := ∀ shelf, (runAt action shelf).2 = shelf

theorem Reads.ofOutcome (answer : Outcome α) : Reads (FilterShelf.ofOutcome answer) :=
  fun _ => rfl

theorem Reads.applyAll (graph : Outcome Snapshot) : Reads (FilterShelf.applyAll graph) := by
  intro shelf
  rw [runAt_applyAll]

theorem Reads.bind {x : ShelfM α} {f : α → ShelfM β} (hx : Reads x) (hf : ∀ a, Reads (f a)) :
    Reads (x >>= f) := by
  intro shelf
  rw [runAt_bind]
  have hafter := hx shelf
  rcases hrun : runAt x shelf with ⟨answer, after⟩
  rw [hrun] at hafter
  subst hafter
  cases answer with
  | error e =>
      rfl
  | ok a =>
      exact hf a _

theorem Reads.map {x : ShelfM α} (hx : Reads x) (f : α → β) : Reads (f <$> x) := by
  intro shelf
  rw [runAt_map]
  exact hx shelf

theorem Reads.keepsSets {action : ShelfM α} (h : Reads action) : KeepsSets action :=
  fun shelf => ⟨shelf.history, h shelf⟩

/-! ## Writing -/

/-- The store after sets have been written to it; without a store nothing is written. -/
def written (shelf : FilterShelf) (sets : FilterSets) : Outcome (Option Store) :=
  match shelf.store with
  | none => .ok none
  | some store => do
    let text ← sets.serializeAt shelf.runtime
    return some (← store.write shelf.storeKey text)

theorem runAt_persist (sets : FilterSets) (shelf : FilterShelf) :
    runAt (persist sets) shelf =
      match shelf.written sets with
      | .ok store => (.ok (), { shelf with store })
      | .error e => (.error e, shelf) := by
  rcases shelf with ⟨old, history, _ | store, key, runtime⟩
  · rfl
  · show runAt (ofOutcome (sets.serializeAt runtime) >>= fun text => ofOutcome (store.write key text) >>=
      fun store => set (FilterShelf.mk old history (some store) key runtime)) _ = _
    rw [runAt_ofOutcome_bind, written]
    cases sets.serializeAt runtime with
    | error e =>
        rfl
    | ok text =>
        simp only [bind, Except.bind]
        cases store.write key text with
        | error e =>
            rfl
        | ok store =>
            rfl

/-- A commit makes sets current once they are written, and changes nothing if they cannot be. -/
theorem runAt_commit (sets : FilterSets) (shelf : FilterShelf) :
    runAt (commit sets) shelf =
      match shelf.written sets with
      | .ok store => (.ok (), { shelf with sets, store })
      | .error e => (.error e, shelf) := by
  rw [commit, runAt_bind, runAt_persist]
  cases shelf.written sets with
  | error e =>
      rfl
  | ok store =>
      rfl

/-! ## The stages of a change -/

/-- An operation on a shelf goes the way that a proposal says: where no sets are proposed, it leaves everything
as it is; where some are, it commits them first and leaves sets and store alone after that. -/
def Commits (action : ShelfM α) (shelf : FilterShelf) : Outcome (Option FilterSets) → Prop
  | .error e => runAt action shelf = (.error e, shelf)
  | .ok none => (runAt action shelf).2 = shelf
  | .ok (some sets) =>
    ∃ rest : ShelfM α, KeepsSets rest ∧ runAt action shelf = runAt (commit sets >>= fun _ => rest) shelf

/-- The sets that a proposal asks for and the store after they have been written; none where there is nothing to
be changed, and a failure where they cannot be made or written. -/
def attempted (shelf : FilterShelf) (proposal : Outcome (Option FilterSets)) :
    Outcome (Option (FilterSets × Option Store)) := do
  match ← proposal with
  | none => return none
  | some sets => return some (sets, ← shelf.written sets)

theorem attempted_eq_some {shelf : FilterShelf} {proposal : Outcome (Option FilterSets)} {sets : FilterSets}
    {store : Option Store} (h : shelf.attempted proposal = .ok (some (sets, store))) :
    proposal = .ok (some sets) ∧ shelf.written sets = .ok store := by
  rcases proposal with e | _ | asked
  · cases h
  · cases h
  · have hasked : (shelf.written asked >>= fun store => .ok (some (asked, store))) =
        .ok (some (sets, store)) := h
    obtain ⟨store, hwritten, heq⟩ := Outcome.exists_of_bind_eq_ok hasked
    cases heq
    exact ⟨rfl, hwritten⟩

/-- What is proposed is written before it is made.  If it cannot be made or cannot be written, the operation fails
for that reason and leaves everything as it is; if it can, sets and store become what is proposed. -/
theorem Commits.persistsFirst {action : ShelfM α} {shelf : FilterShelf}
    {proposal : Outcome (Option FilterSets)} (h : Commits action shelf proposal) :
    match shelf.attempted proposal with
    | .error e => runAt action shelf = (.error e, shelf)
    | .ok none => (runAt action shelf).2 = shelf
    | .ok (some (sets, store)) =>
      ∃ history, (runAt action shelf).2 = { shelf with sets, store, history } := by
  rcases proposal with e | _ | sets
  · exact h
  · exact h
  · rcases h with ⟨rest, hrest, hrun⟩
    rw [hrun, runAt_bind, runAt_commit, attempted]
    simp only [bind, Except.bind]
    cases hwritten : shelf.written sets with
    | error e =>
        rfl
    | ok store =>
        exact hrest { shelf with sets, store }

/-! ### What is recorded -/

/-- An operation on a shelf goes the way that a plan says: where sets are planned, it commits them, records some
fields and only looks at the shelf after that. -/
def Records (now : Timestamp) (action : ShelfM α) (shelf : FilterShelf) :
    Outcome (Option (FilterSets × Fields)) → Prop
  | .error e => runAt action shelf = (.error e, shelf)
  | .ok none => (runAt action shelf).2 = shelf
  | .ok (some (sets, fields)) =>
    ∃ answer : ShelfM α, Reads answer ∧
      runAt action shelf = runAt (commit sets >>= fun _ => record now fields >>= fun _ => answer) shelf

/-- The sets that a plan asks for. -/
def setsOf (plan : Outcome (Option (FilterSets × Fields))) : Outcome (Option FilterSets) :=
  plan.map (·.map (·.1))

variable {now : Timestamp} {action : ShelfM α} {shelf : FilterShelf}
  {plan : Outcome (Option (FilterSets × Fields))}

theorem Records.commits (h : Records now action shelf plan) : Commits action shelf (setsOf plan) := by
  rcases plan with e | _ | ⟨sets, fields⟩
  · exact h
  · exact h
  · rcases h with ⟨answer, hanswer, hrun⟩
    exact ⟨_, (KeepsSets.record now fields).bind fun _ => hanswer.keepsSets, hrun⟩

theorem Records.map (h : Records now action shelf plan) (f : α → β) : Records now (f <$> action) shelf plan := by
  rcases plan with e | _ | ⟨sets, fields⟩
  · have hrun : runAt action shelf = (.error e, shelf) := h
    show runAt (f <$> action) shelf = (.error e, shelf)
    rw [runAt_map, hrun]
    rfl
  · show (runAt (f <$> action) shelf).2 = shelf
    rw [runAt_map]
    exact h
  · rcases h with ⟨answer, hanswer, hrun⟩
    refine ⟨f <$> answer, hanswer.map f, ?_⟩
    rw [runAt_map, hrun, ← runAt_map]
    simp only [map_bind]

/-- What is made of the arguments first is part of the plan. -/
theorem Records.after {answer : Outcome α} {f : α → ShelfM β} {plan : α → Outcome (Option (FilterSets × Fields))}
    (h : ∀ a, Records now (f a) shelf (plan a)) :
    Records now (ofOutcome answer >>= f) shelf (answer >>= plan) := by
  cases answer with
  | error e =>
      rfl
  | ok a =>
      exact h a

/-- What is recorded of a set. -/
def entryFields (kind : ActionKind) (name : EntryName) (config : Value) : Fields :=
  [("action", .text kind.name), ("name", name.value), ("config", config)]

/-! ### Operations on a shelf -/

theorem records_create (now : Timestamp) (graph : Outcome Snapshot) (name : EntryName) (config : Fields)
    (shelf : FilterShelf) :
    Records now (create now graph name config) shelf
      (.ok (some (shelf.sets.insert name ⟨.mapping config, true, now, none, none⟩,
        entryFields .created name (.mapping config)))) :=
  ⟨_, (Reads.ofOutcome graph).bind fun _ => Reads.ofOutcome _, rfl⟩

theorem records_update (now : Timestamp) (graph : Outcome Snapshot) (name : EntryName)
    (config : Outcome Value) (shelf : FilterShelf) :
    Records now (update now graph name config) shelf
      (match shelf.sets.get? name with
      | none => .error (.showing name.value (.missing (.filterSet name.value)))
      | some existing => do
        let config ← config
        return some (shelf.sets.insert name { existing with config, updated := some now },
          entryFields .updated name config)) := by
  rw [update]
  cases hget : shelf.sets.get? name with
  | none =>
      show runAt _ shelf = _
      rw [runAt_get_bind]
      simp only [hget]
      rfl
  | some existing =>
      cases config with
      | error e =>
          show runAt _ shelf = _
          rw [runAt_get_bind]
          simp only [hget]
          rfl
      | ok config =>
          refine ⟨applyAll graph, Reads.applyAll graph, ?_⟩
          rw [runAt_get_bind]
          simp only [hget]
          rfl

theorem records_remove (now : Timestamp) (graph : Outcome Snapshot) (name : EntryName)
    (shelf : FilterShelf) :
    Records now (remove now graph name) shelf
      (.ok ((shelf.sets.get? name).map fun removed =>
        (shelf.sets.erase name, entryFields .removed name removed.config))) := by
  rw [remove]
  cases hget : shelf.sets.get? name with
  | none =>
      show (runAt _ shelf).2 = shelf
      rw [runAt_get_bind]
      simp only [hget, runAt_applyAll]
  | some removed =>
      refine ⟨applyAll graph, Reads.applyAll graph, ?_⟩
      rw [runAt_get_bind]
      simp only [hget]
      rfl

theorem records_toggle (now : Timestamp) (graph : Outcome Snapshot) (name : EntryName)
    (active : Option Bool) (shelf : FilterShelf) :
    Records now (toggle now graph name active) shelf
      (.ok ((shelf.sets.get? name).map fun existing =>
        let active := active.getD (!existing.active)
        (shelf.sets.insert name { existing with active },
          entryFields (if active then .activated else .deactivated) name existing.config))) := by
  rw [toggle]
  cases hget : shelf.sets.get? name with
  | none =>
      show (runAt _ shelf).2 = shelf
      rw [runAt_get_bind]
      simp only [hget]
      rfl
  | some existing =>
      refine ⟨applyAll graph >>= fun left => ofOutcome (.ok (some left)), ?_, ?_⟩
      · exact (Reads.applyAll graph).bind fun left => Reads.ofOutcome (.ok (some left))
      · rw [runAt_get_bind]
        simp only [hget]
        rfl

theorem records_clearAll (now : Timestamp) (graph : Outcome Snapshot) (shelf : FilterShelf) :
    Records now (clearAll now graph) shelf (.ok (some ([], [("action", .text ActionKind.cleared.name)]))) :=
  ⟨_, Reads.ofOutcome graph, rfl⟩

/-! ### Imports -/

/-- The shelf after the sets of a payload have been merged, written and recorded. -/
def imported (shelf : FilterShelf) (now : Timestamp) (staged : FilterSets) (store : Option Store) :
    FilterShelf where
  sets := shelf.sets.merge staged
  history := shelf.history.push ⟨.imported, none, none, some staged.length, now⟩
  store := store
  storeKey := shelf.storeKey
  runtime := shelf.runtime

/-- The sets of a payload, and the store after the sets have been merged and written. -/
def staged (shelf : FilterShelf) (now : Timestamp) (payload : Value) :
    Outcome (FilterSets × Option Store) := do
  let staged ← FilterSets.parse now payload shelf.runtime.reader
  let store ← shelf.written (shelf.sets.merge staged)
  return (staged, store)

theorem records_importSets (now : Timestamp) (graph : Outcome Snapshot) (payload : Value)
    (shelf : FilterShelf) :
    Records now (importSets now graph payload) shelf
      (FilterSets.parse now payload shelf.runtime.reader >>= fun staged => .ok (some (shelf.sets.merge staged,
        [("action", .text ActionKind.imported.name), ("count", .int staged.length)]))) := by
  rw [importSets]
  show Records now (ofOutcome (FilterSets.parse now payload shelf.runtime.reader) >>= _) shelf _
  exact Records.after fun _ => ⟨applyAll graph, Reads.applyAll graph, rfl⟩

/-- An import changes nothing if the payload cannot be read or the sets cannot be written.  Otherwise it has
merged the whole payload, and its answer is what the merged sets leave of the graph, or why they leave nothing. -/
theorem runAt_importSets (now : Timestamp) (graph : Outcome Snapshot) (payload : Value)
    (shelf : FilterShelf) :
    runAt (importSets now graph payload) shelf =
      match shelf.staged now payload with
      | .error e => (.error e, shelf)
      | .ok (staged, store) =>
        (graph >>= fun g => (shelf.sets.merge staged).applyAll g, shelf.imported now staged store) := by
  rw [importSets, runAt_get_bind, runAt_ofOutcome_bind, FilterShelf.staged]
  cases FilterSets.parse now payload shelf.runtime.reader with
  | error e =>
      rfl
  | ok staged =>
      show runAt (commit (shelf.sets.merge staged) >>= fun _ => record now
        [("action", .text ActionKind.imported.name), ("count", .int staged.length)] >>= fun _ =>
          applyAll graph) shelf = _
      rw [runAt_bind, runAt_commit]
      cases hwritten : shelf.written (shelf.sets.merge staged) with
      | error e =>
          simp only [bind, Except.bind, hwritten]
      | ok store =>
          simp only [bind, Except.bind, hwritten]
          exact runAt_applyAll graph (shelf.imported now staged store)

/-- An import is whole: it fails and leaves everything as it is, or it merges, stores and records the whole
payload.  In the second case it may still fail, where the merged sets cannot be applied to the graph. -/
theorem importSets_isWhole (now : Timestamp) (graph : Outcome Snapshot) (payload : Value)
    (shelf : FilterShelf) :
    (∃ e, shelf.staged now payload = .error e ∧
      runAt (importSets now graph payload) shelf = (.error e, shelf)) ∨
    ∃ staged store, shelf.staged now payload = .ok (staged, store) ∧
      runAt (importSets now graph payload) shelf =
        (graph >>= fun g => (shelf.sets.merge staged).applyAll g,
          shelf.imported now staged store) := by
  rw [runAt_importSets]
  cases shelf.staged now payload with
  | error e =>
      exact Or.inl ⟨e, rfl, rfl⟩
  | ok result =>
      exact Or.inr ⟨result.1, result.2, rfl, rfl⟩

/-- A shelf without sets, kept in an empty store. -/
def emptyShelf : FilterShelf := ⟨[], .withCapacity 20, some ⟨[], false⟩, keyFor "graphsift", .usual⟩

/-- A payload with one set, whose node criteria are a list. -/
def listPayload : String :=
  "\x7b\"x\": \x7b\"config\": \x7b\"nodes\": [\"a\"]\x7d\x7d\x7d"

/-- Criteria that are a list pass as part of a set, which is merged, stored and recorded.  Only then do they
turn out not to be applicable, and the import fails. -/
theorem importSets_fails_after_merging :
    ∃ e after, runAt (importSets ⟨⟨2024, 1, 1⟩, 0, 0, 0, 0, some 0⟩ (.ok (loneNode "a"))
        (.text listPayload)) emptyShelf = (.error e, after) ∧
      after.sets.length = 1 ∧ after.history.actions.length = 1 ∧
      (after.store.bind fun store => store.get? (keyFor "graphsift")).isSome ∧
      emptyShelf.sets = [] := by
  have hrun : (match runAt (importSets ⟨⟨2024, 1, 1⟩, 0, 0, 0, 0, some 0⟩ (.ok (loneNode "a"))
        (.text listPayload)) emptyShelf with
      | (.error _, after) =>
        after.sets.length == 1 && after.history.actions.length == 1 &&
          (after.store.bind fun store => store.get? (keyFor "graphsift")).isSome
      | _ => false) = true := by
    decide +kernel
  rcases hresult : runAt (importSets ⟨⟨2024, 1, 1⟩, 0, 0, 0, 0, some 0⟩ (.ok (loneNode "a"))
    (.text listPayload)) emptyShelf with ⟨answer, after⟩
  rw [hresult] at hrun
  cases answer with
  | ok left =>
      cases hrun
  | error e =>
      simp only [Bool.and_eq_true, beq_iff_eq] at hrun
      exact ⟨e, after, rfl, hrun.1.1, hrun.1.2, hrun.2, rfl⟩

end FilterShelf

/-! ## Changes -/

namespace SetChange

open FilterShelf

/-- The sets with a new one, whose configuration is given as a mapping or as pairs. -/
def withNamed (now : Timestamp) (sets : FilterSets) (name config : Value) :
    Outcome (Option FilterSets) := do
  let config ← config.toMapping
  let fields ← (Checked.under (.field "config") (Check.mapping config)).toOutcome
  let name ← EntryName.ofArgument name
  return some (sets.insert name ⟨.mapping fields, true, now, none, none⟩)

/-- The sets that a change asks for; none where there is nothing to be changed. -/
def proposed (reader : PayloadReader) (now : Timestamp) (sets : FilterSets) :
    SetChange → Outcome (Option FilterSets)
  | create name config => withNamed now sets name config
  | createReady set => do
    let (name, config) ← set.named
    withNamed now sets name config
  | update name config => do
    let name ← EntryName.ofArgument name
    match sets.get? name with
    | none => .error (.showing name.value (.missing (.filterSet name.value)))
    | some existing => do
      let config ← config.toMapping
      return some (sets.insert name { existing with config, updated := some now })
  | remove name => do
    let name ← EntryName.ofArgument name
    return (sets.get? name).map fun _ => sets.erase name
  | toggle name active => do
    let name ← EntryName.ofArgument name
    return (sets.get? name).map fun existing =>
      sets.insert name
        { existing with active := if active.isNull then !existing.active else active.isTruthy }
  | clearAll => .ok (some [])
  | importSets payload => do
    let staged ← FilterSets.parse now payload reader
    return some (sets.merge staged)

/-- The sets with a new one, and what is recorded of it. -/
def plannedNamed (now : Timestamp) (sets : FilterSets) (name config : Value) :
    Outcome (Option (FilterSets × Fields)) := do
  let config ← config.toMapping
  let fields ← (Checked.under (.field "config") (Check.mapping config)).toOutcome
  let name ← EntryName.ofArgument name
  return some (sets.insert name ⟨.mapping fields, true, now, none, none⟩,
    entryFields .created name (.mapping fields))

/-- The sets that a change asks for, and what it records; none where there is nothing to be changed. -/
def planned (reader : PayloadReader) (now : Timestamp) (sets : FilterSets) :
    SetChange → Outcome (Option (FilterSets × Fields))
  | create name config => plannedNamed now sets name config
  | createReady set => do
    let (name, config) ← set.named
    plannedNamed now sets name config
  | update name config => do
    let name ← EntryName.ofArgument name
    match sets.get? name with
    | none => .error (.showing name.value (.missing (.filterSet name.value)))
    | some existing => do
      let config ← config.toMapping
      return some (sets.insert name { existing with config, updated := some now },
        entryFields .updated name config)
  | remove name => do
    let name ← EntryName.ofArgument name
    return (sets.get? name).map fun removed =>
      (sets.erase name, entryFields .removed name removed.config)
  | toggle name active => do
    let name ← EntryName.ofArgument name
    return (sets.get? name).map fun existing =>
      let active := if active.isNull then !existing.active else active.isTruthy
      (sets.insert name { existing with active },
        entryFields (if active then .activated else .deactivated) name existing.config)
  | clearAll => .ok (some ([], [("action", .text ActionKind.cleared.name)]))
  | importSets payload => do
    let staged ← FilterSets.parse now payload reader
    return some (sets.merge staged,
      [("action", .text ActionKind.imported.name), ("count", .int staged.length)])

theorem setsOf_bind {α : Type} (answer : Outcome α) (plan : α → Outcome (Option (FilterSets × Fields))) :
    setsOf (answer >>= plan) = answer >>= fun a => setsOf (plan a) := by
  cases answer with
  | error e =>
      rfl
  | ok a =>
      rfl

theorem setsOf_plannedNamed (now : Timestamp) (sets : FilterSets) (name config : Value) :
    setsOf (plannedNamed now sets name config) = withNamed now sets name config := by
  rw [plannedNamed]
  simp only [setsOf_bind]
  rfl

/-- The sets that are planned are those that are proposed. -/
theorem setsOf_planned (reader : PayloadReader) (now : Timestamp) (sets : FilterSets) (change : SetChange) :
    setsOf (change.planned reader now sets) = change.proposed reader now sets := by
  cases change with
  | create name config =>
      exact setsOf_plannedNamed now sets name config
  | createReady set =>
      rw [planned, setsOf_bind]
      simp only [setsOf_plannedNamed]
      rfl
  | update name config =>
      rw [planned, setsOf_bind, proposed]
      refine bind_congr fun name => ?_
      cases sets.get? name with
      | none =>
          rfl
      | some existing =>
          simp only [setsOf_bind]
          rfl
  | remove name =>
      rw [planned, setsOf_bind, proposed]
      refine bind_congr fun name => ?_
      cases sets.get? name <;> rfl
  | toggle name active =>
      rw [planned, setsOf_bind, proposed]
      refine bind_congr fun name => ?_
      cases sets.get? name <;> rfl
  | clearAll =>
      rfl
  | importSets payload =>
      rw [planned, setsOf_bind]
      rfl

theorem records_createNamed (now : Timestamp) (graph : Outcome Snapshot) (name config : Value)
    (shelf : FilterShelf) :
    Records now (createNamed now graph name config) shelf (plannedNamed now shelf.sets name config) :=
  Records.after fun _ => Records.after fun fields => Records.after fun name =>
    records_create now graph name fields shelf

/-- Every change goes the way of its plan. -/
theorem records_run (now : Timestamp) (graph : Outcome Snapshot) (change : SetChange)
    (shelf : FilterShelf) :
    Records now (change.run now graph) shelf (change.planned shelf.runtime.reader now shelf.sets) := by
  cases change with
  | create name config =>
      exact (records_createNamed now graph name config shelf).map some
  | createReady set =>
      refine Records.after fun entry => ?_
      exact (records_createNamed now graph entry.1 entry.2 shelf).map some
  | update name config =>
      refine Records.after fun name => ?_
      exact (records_update now graph name config.toMapping shelf).map some
  | remove name =>
      refine Records.after fun name => ?_
      exact (records_remove now graph name shelf).map some
  | toggle name active =>
      refine Records.after fun name => ?_
      cases active <;> exact records_toggle now graph name _ shelf
  | clearAll =>
      exact (records_clearAll now graph shelf).map some
  | importSets payload =>
      exact (records_importSets now graph payload shelf).map some

/-- Every change goes the way of its proposal. -/
theorem commits_run (now : Timestamp) (graph : Outcome Snapshot) (change : SetChange)
    (shelf : FilterShelf) :
    Commits (change.run now graph) shelf (change.proposed shelf.runtime.reader now shelf.sets) := by
  rw [← setsOf_planned]
  exact (records_run now graph change shelf).commits

/-- What a change asks for and the store after it has been written; a failure of either keeps the change from
being made. -/
def attempt (now : Timestamp) (shelf : FilterShelf) (change : SetChange) :
    Outcome (Option (FilterSets × Option Store)) :=
  shelf.attempted (change.proposed shelf.runtime.reader now shelf.sets)

/-- A change is written before it is made.  If its sets cannot be made or cannot be written, it fails for that
reason and leaves sets, history and store exactly as they are; if they can, sets and store become what it asks
for. -/
theorem run_persistsFirst (now : Timestamp) (graph : Outcome Snapshot) (change : SetChange)
    (shelf : FilterShelf) :
    match change.attempt now shelf with
    | .error e => runAt (change.run now graph) shelf = (.error e, shelf)
    | .ok none => (runAt (change.run now graph) shelf).2 = shelf
    | .ok (some (sets, store)) =>
      ∃ history, (runAt (change.run now graph) shelf).2 = { shelf with sets, store, history } :=
  (commits_run now graph change shelf).persistsFirst

end SetChange
end GraphQuery
