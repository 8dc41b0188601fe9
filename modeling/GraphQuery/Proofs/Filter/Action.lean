import GraphQuery.Proofs.Filter.PlainChange

/-!
# Actions — what is recorded of a change, and what it tells

A change that commits records one action: what was done, under which name and with which configuration
(`SetChange.action`).  The action alone tells what has become of names, configurations and active sets
(`SetAction.replay`):

- `SetChange.runAt_run` — a plain change leaves the shelf as it is, or makes its sets current and records its
  action;
- `SetChange.replay_action` — replayed on what was shown of the sets before, the action gives what is shown of
  them after.
-/

namespace GraphQuery

open FilterShelf

/-! ## Recording -/

namespace SetChange

/-- The set that a value names. -/
def namedBy? (sets : FilterSets) (name : Value) : Option FilterSetRecord :=
  name.text?.bind fun s => sets.get? (.text s)

/-- Whether a set is on after it has been switched. -/
def switchesOn (sets : FilterSets) (name active : Value) : Bool :=
  if active.isNull then (namedBy? sets name).any (!·.active) else active.isTruthy

/-- The action that is recorded of a change of the sets, once it has been committed. -/
def action (reader : PayloadReader) (now : Timestamp) (sets : FilterSets) : SetChange → FilterAction
  | create name config => ⟨.created, name.text?, config.mapping?, none, now⟩
  | createReady set =>
    match set.named with
    | .ok (name, config) => ⟨.created, name.text?, config.mapping?, none, now⟩
    | .error _ => ⟨.created, none, none, none, now⟩
  | update name config => ⟨.updated, name.text?, config.mapping?, none, now⟩
  | remove name =>
    ⟨.removed, name.text?, (namedBy? sets name).bind (·.config.mapping?), none, now⟩
  | toggle name active =>
    ⟨if switchesOn sets name active then .activated else .deactivated, name.text?,
      (namedBy? sets name).bind (·.config.mapping?), none, now⟩
  | clearAll => ⟨.cleared, none, none, none, now⟩
  | importSets payload =>
    let staged := (FilterSets.parse now payload reader).toOption
    ⟨.imported, none, none, staged.map fun staged => staged.length, now⟩

/-- Whether a change merges the sets of a payload. -/
def IsImport : SetChange → Prop
  | importSets _ => True
  | _ => False

variable {reader : PayloadReader} {now : Timestamp} {graph : Outcome Snapshot} {sets next : FilterSets}
  {fields : Fields} {change : SetChange}

/-- What is recorded of a set that is named by a text and has a mapping is accepted. -/
theorem record_entryFields (history : FilterHistory) (now : Timestamp) (kind : ActionKind) (s : String)
    (config : Fields) :
    history.record now (entryFields kind (.text s) (.mapping config)) =
      .ok (history.push ⟨kind, some s, some config, none, now⟩) := by
  cases kind <;> rfl

theorem record_of_plannedNamed {name config : Value} (hname : name.IsText) (hconfig : config.IsObject)
    (h : plannedNamed now sets name config = .ok (some (next, fields))) (history : FilterHistory) :
    history.record now fields =
      .ok (history.push ⟨.created, name.text?, config.mapping?, none, now⟩) := by
  obtain ⟨s, rfl⟩ := hname
  obtain ⟨⟨entries, rfl⟩, -⟩ := hconfig
  rw [plannedNamed, toMapping_mapping] at h
  cases h
  exact record_entryFields history now .created s entries

/-- What a plain change of plain sets records is accepted, and is its action. -/
theorem record_of_planned (hchange : change.IsPlain) (hsets : sets.IsPlain)
    (h : change.planned reader now sets = .ok (some (next, fields))) (history : FilterHistory) :
    history.record now fields = .ok (history.push (change.action reader now sets)) := by
  cases change with
  | create name config =>
      exact record_of_plannedNamed hchange.1 hchange.2 h history
  | createReady set =>
      obtain ⟨⟨name, config⟩, hnamed, h⟩ := Outcome.exists_of_bind_eq_ok h
      have hentry := ReadyMade.isObject_of_named hchange hnamed
      rw [action, hnamed]
      exact record_of_plannedNamed hentry.1 hentry.2 h history
  | update name config =>
      obtain ⟨⟨s, rfl⟩, ⟨entries, rfl⟩, -⟩ := hchange
      rw [planned, ofArgument_text] at h
      simp only [bind, Except.bind] at h
      split at h
      · cases h
      · cases h
        exact record_entryFields history now .updated s entries
  | remove name =>
      obtain ⟨s, rfl⟩ := hchange
      rw [planned, ofArgument_text] at h
      obtain ⟨removed, hget, heq⟩ := Option.map_eq_some_iff.1 (Except.ok.inj h)
      cases heq
      obtain ⟨entries, hentries⟩ := (hsets.get? hget).config
      have hnamed : namedBy? sets (.text s) = some removed := hget
      have hconfig : (namedBy? sets (.text s)).bind (·.config.mapping?) = some entries := by
        rw [hnamed, Option.bind_some, hentries]
        rfl
      rw [action, hconfig, hentries]
      exact record_entryFields history now .removed s entries
  | toggle name active =>
      obtain ⟨s, rfl⟩ := hchange
      rw [planned, ofArgument_text] at h
      obtain ⟨existing, hget, heq⟩ := Option.map_eq_some_iff.1 (Except.ok.inj h)
      cases heq
      obtain ⟨entries, hentries⟩ := (hsets.get? hget).config
      have hnamed : namedBy? sets (.text s) = some existing := hget
      have hconfig : (namedBy? sets (.text s)).bind (·.config.mapping?) = some entries := by
        rw [hnamed, Option.bind_some, hentries]
        rfl
      rw [action, hconfig, switchesOn, hnamed, hentries]
      exact record_entryFields history now _ s entries
  | clearAll =>
      cases h
      rfl
  | importSets payload =>
      obtain ⟨staged, hparse, h⟩ := Outcome.exists_of_bind_eq_ok h
      cases h
      rw [action, hparse]
      rfl

theorem runAt_record {shelf : FilterShelf} {history : FilterHistory}
    (h : shelf.history.record now fields = .ok history) :
    runAt (record now fields) shelf = (.ok (), { shelf with history }) := by
  show runAt (ofOutcome (shelf.history.record now fields) >>= fun history => set { shelf with history }) shelf = _
  rw [runAt_ofOutcome_bind, h]
  rfl

/-- Sets that can be written become current, and what was done is recorded, before anything else is done. -/
theorem runAt_commit_record {α : Type} {shelf : FilterShelf} {history : FilterHistory}
    (hrecord : shelf.history.record now fields = .ok history) (sets : FilterSets) (rest : ShelfM α) :
    runAt (commit sets >>= fun _ => record now fields >>= fun _ => rest) shelf =
      match shelf.written sets with
      | .error e => (.error e, shelf)
      | .ok store => runAt rest { shelf with sets, store, history } := by
  rw [runAt_bind, runAt_commit]
  cases shelf.written sets with
  | error e =>
      rfl
  | ok store =>
      -- The history is still the one from before the commit, which has changed sets and store.
      have hrecorded : runAt (record now fields) { shelf with sets, store } = _ := runAt_record hrecord
      dsimp only
      rw [runAt_bind, hrecorded]

/-- A call that commits sets and records what was done to one of them is refused by the store and changes nothing, or
goes on at a shelf with these sets. -/
theorem runAt_commit_entry {α : Type} (shelf : FilterShelf) (now : Timestamp) (kind : ActionKind) (name : String)
    (config : Fields) (sets : FilterSets) (rest : ShelfM α) :
    let call := commit sets >>= fun _ => record now (entryFields kind (.text name) (.mapping config)) >>= fun _ => rest
    (∃ e, shelf.written sets = .error e ∧ runAt call shelf = (.error e, shelf)) ∨
      ∃ after : FilterShelf, after.sets = sets ∧ runAt call shelf = runAt rest after := by
  intro call
  have hcall : runAt call shelf = _ :=
    runAt_commit_record (record_entryFields shelf.history now kind name config) sets rest
  rw [hcall]
  cases hwritten : shelf.written sets with
  | error e =>
      exact Or.inl ⟨e, rfl, rfl⟩
  | ok store =>
      exact Or.inr ⟨_, rfl, rfl⟩

/-- A plain change of plain sets leaves the shelf as it is, or makes its sets current and records its action. -/
theorem runAt_run (hchange : change.IsPlain) {shelf : FilterShelf} (hsets : shelf.sets.IsPlain) :
    (runAt (change.run now graph) shelf).2 =
      match change.attempt now shelf with
      | .ok (some (sets, store)) =>
        { shelf with sets, store, history := shelf.history.push (change.action shelf.runtime.reader now shelf.sets) }
      | _ => shelf := by
  have hrun := records_run now graph change shelf
  rw [attempt, ← setsOf_planned]
  rcases hplanned : change.planned shelf.runtime.reader now shelf.sets with e | _ | ⟨sets, fields⟩
  · rw [hplanned] at hrun
    exact congrArg Prod.snd hrun
  · rw [hplanned] at hrun
    exact hrun
  · rw [hplanned] at hrun
    obtain ⟨answer, hanswer, hafter⟩ := hrun
    have hattempted : shelf.attempted (setsOf (.ok (some (sets, fields)))) =
        shelf.written sets >>= fun store => .ok (some (sets, store)) := rfl
    rw [hafter, runAt_commit_record (record_of_planned hchange hsets hplanned shelf.history), hattempted]
    cases shelf.written sets with
    | error e =>
        rfl
    | ok store =>
        exact hanswer _

end SetChange

/-! ## Replaying -/

/-- What is shown of sets: the names in order, each with its configuration and whether it is active. -/
abbrev SetView := List (EntryName × (Value × Bool))

namespace SetView

/-- Changes what is shown under a name, if anything is. -/
def adjust (view : SetView) (name : EntryName) (f : Value × Bool → Value × Bool) : SetView :=
  match view.find? (·.1 == name) with
  | some entry => EntryName.put view name (f entry.2)
  | none => view

/-- What an action tells of sets of which something is shown already. -/
def replay (view : SetView) (a : FilterAction) : SetView :=
  match a.kind, a.name, a.config with
  | .created, some name, some config => EntryName.put view (.text name) (.mapping config, true)
  | .updated, some name, some config => view.adjust (.text name) fun shown => (.mapping config, shown.2)
  | .removed, some name, _ => view.filter (·.1 != .text name)
  | .activated, some name, _ => view.adjust (.text name) fun shown => (shown.1, true)
  | .deactivated, some name, _ => view.adjust (.text name) fun shown => (shown.1, false)
  | .cleared, _, _ => []
  | _, _, _ => view

end SetView

namespace FilterSets

/-- The names of sets in order, with their configurations and whether they are active. -/
def view (sets : FilterSets) : SetView := sets.map fun entry => (entry.1, entry.2.config, entry.2.active)

theorem view_insert (sets : FilterSets) (name : EntryName) (r : FilterSetRecord) :
    (sets.insert name r).view = EntryName.put sets.view name (r.config, r.active) := by
  rw [insert_eq_put]
  exact EntryName.map_put (fun r : FilterSetRecord => (r.config, r.active)) sets name r

theorem view_erase (sets : FilterSets) (name : EntryName) :
    (sets.erase name).view = sets.view.filter (·.1 != name) := by
  rw [view, view, erase, List.filter_map]
  rfl

theorem adjust_view {sets : FilterSets} {name : EntryName} {r : FilterSetRecord}
    (h : sets.get? name = some r) (f : Value × Bool → Value × Bool) :
    sets.view.adjust name f = EntryName.put sets.view name (f (r.config, r.active)) := by
  obtain ⟨entry, hfind, rfl⟩ := Option.map_eq_some_iff.1 h
  have hshown : sets.view.find? (·.1 == name) = some (entry.1, entry.2.config, entry.2.active) := by
    rw [view, List.find?_map]
    exact congrArg (Option.map _) hfind
  rw [SetView.adjust, hshown]

end FilterSets

namespace SetChange

variable {reader : PayloadReader} {now : Timestamp} {graph : Outcome Snapshot} {sets next : FilterSets}
  {change : SetChange}

theorem replay_created {name config : Value} (hname : name.IsText) (hconfig : config.IsObject)
    (h : withNamed now sets name config = .ok (some next)) :
    sets.view.replay ⟨.created, name.text?, config.mapping?, none, now⟩ = next.view := by
  obtain ⟨s, rfl⟩ := hname
  obtain ⟨⟨entries, rfl⟩, -⟩ := hconfig
  rw [withNamed, toMapping_mapping] at h
  cases h
  rw [FilterSets.view_insert]
  rfl

/-- The action of a plain change, unless it is an import, tells what the change makes of what is shown. -/
theorem replay_action (hchange : change.IsPlain) (hlogged : ¬ change.IsImport)
    (h : change.proposed reader now sets = .ok (some next)) :
    sets.view.replay (change.action reader now sets) = next.view := by
  cases change with
  | create name config =>
      exact replay_created hchange.1 hchange.2 h
  | createReady set =>
      obtain ⟨⟨name, config⟩, hnamed, h⟩ := Outcome.exists_of_bind_eq_ok h
      have hentry := ReadyMade.isObject_of_named hchange hnamed
      rw [action, hnamed]
      exact replay_created hentry.1 hentry.2 h
  | update name config =>
      obtain ⟨⟨s, rfl⟩, ⟨entries, rfl⟩, -⟩ := hchange
      rw [proposed, ofArgument_text] at h
      simp only [bind, Except.bind] at h
      split at h
      · cases h
      · next existing hget =>
          cases h
          rw [FilterSets.view_insert]
          exact FilterSets.adjust_view hget fun shown => (.mapping entries, shown.2)
  | remove name =>
      obtain ⟨s, rfl⟩ := hchange
      rw [proposed, ofArgument_text] at h
      obtain ⟨removed, hget, rfl⟩ := Option.map_eq_some_iff.1 (Except.ok.inj h)
      rw [FilterSets.view_erase]
      rfl
  | toggle name active =>
      obtain ⟨s, rfl⟩ := hchange
      rw [proposed, ofArgument_text] at h
      obtain ⟨existing, hget, rfl⟩ := Option.map_eq_some_iff.1 (Except.ok.inj h)
      have hnamed : namedBy? sets (.text s) = some existing := hget
      have hswitched : switchesOn sets (.text s) active =
          if active.isNull then !existing.active else active.isTruthy := by
        rw [switchesOn, hnamed]
        rfl
      rw [FilterSets.view_insert, action, ← hswitched]
      -- The action is named for the state that the set is in afterwards.
      cases switchesOn sets (.text s) active with
      | false =>
          exact FilterSets.adjust_view hget fun shown => (shown.1, false)
      | true =>
          exact FilterSets.adjust_view hget fun shown => (shown.1, true)
  | clearAll =>
      cases h
      rfl
  | importSets payload =>
      exact absurd trivial hlogged

end SetChange
end GraphQuery
