import GraphQuery.Proofs.Engine.MissingNames
import GraphQuery.Proofs.Engine.SavedAlike
import GraphQuery.Proofs.Engine.SavedPayload
import GraphQuery.Proofs.Engine.StoredSets
import GraphQuery.Proofs.Engine.Team

/-!
# Shared searches — saved searches in a store are those of a single engine

Engines of one namespace that search the same graph keep their saved searches at one store, and read them again
with each call.  So they are one list, as if there was a single engine that kept it in memory: each call gives the
same answer and leaves the same searches (`Team.sharedSearches_agree`).  The calls are made in some places, each with
its own room on the stack, and the filters can be kept in a store by all of them.  A store takes less than memory does:
filters that are nested too deep are refused.  And engines agree only if they look at the same number of matches
(`Team.sharedSearches_disagree`).
-/

namespace GraphQuery

/-- Whether two engines search the same graph alike: it is the same, and so are the index and the limit. -/
structure Engine.SearchesAs (e other : Engine) : Prop where
  source : e.source = other.source
  owned : e.owned = other.owned
  index : e.index = other.index
  limit : e.config.defaultSearchLimit = other.config.defaultSearchLimit

theorem Engine.SearchesAs.refl (e : Engine) : e.SearchesAs e := ⟨rfl, rfl, rfl, rfl⟩

variable {places : Set Runtime}

/-- Whether the texts hold these saved searches under a key, for calls of some places. -/
def KeyValues.Keeps (places : Set Runtime) (texts : KeyValues) (key : String) (searches : SavedSearches) : Prop :=
  ∀ runtime ∈ places, ∀ now refuses memory,
    SavedSearches.current runtime.reader now key (some ⟨texts, refuses⟩) memory = .ok searches

theorem KeyValues.Keeps.of_absent {texts : KeyValues} {key : String} (h : texts.get? key = none) :
    texts.Keeps places key [] := by
  intro runtime _ now refuses memory
  simp only [SavedSearches.current, Store.get?, h]

/-- What is written for plain searches holds them. -/
theorem KeyValues.Keeps.of_set {searches : SavedSearches} {text : String}
    (hread : ∀ runtime ∈ places, ∀ now, SavedSearches.parse runtime.reader now text = .ok searches)
    (texts : KeyValues) (key : String) : (texts.set key text).Keeps places key searches := by
  intro runtime hplace now refuses memory
  simp only [SavedSearches.current, Store.get?, get?_set, if_true]
  exact hread runtime hplace now

/-- The first desk has a store with the saved searches that the second one has in memory; for the rest they search
alike, as some engine does. -/
structure Desk.SavesAs (places : Set Runtime) (space : String) (searcher : Engine) (desk other : Desk) : Prop where
  sameSpace : desk.engine.config.storeNamespace = space
  stored : desk.engine.SearchesAs searcher
  kept : other.engine.SearchesAs searcher
  around : other.around = { desk.around with store := none }
  now : desk.around.now.IsValid
  place : desk.around.runtime ∈ places
  plain : other.engine.saved.IsPlain places
  texts : ∃ texts : KeyValues, desk.around.store = some ⟨texts, false⟩ ∧
    texts.Keeps places (SavedSearches.keyFor space) other.engine.saved

namespace Engine

variable {space : String} {searcher : Engine} {desk other : Desk}

/-- Both desks have the same saved searches. -/
theorem runAt_savedSearches_of_savesAs (h : Desk.SavesAs places space searcher desk other) :
    runAt savedSearches desk = (.ok other.engine.saved, desk) ∧
      runAt savedSearches other = (.ok other.engine.saved, other) := by
  obtain ⟨texts, hstore, hkeeps⟩ := h.texts
  have hnone : other.around.store = none := by
    rw [h.around]
  constructor
  · rw [savedSearches, runAt_get_bind]
    dsimp only
    rw [h.sameSpace, hstore, hkeeps _ h.place]
    rfl
  · rw [savedSearches, runAt_get_bind]
    dsimp only
    rw [hnone]
    rfl

theorem searchesAlike_savesAs : SearchesAlike (Desk.SavesAs places space searcher) where
  snapshot := by
    intro desk other h
    rw [Desk.snapshot, Desk.snapshot, h.stored.source, h.stored.owned, h.kept.source, h.kept.owned, h.around]
  index := fun desk other h => h.stored.index.trans h.kept.index.symm
  limit := fun desk other h => h.stored.limit.trans h.kept.limit.symm
  recorded := fun desk other query h => { h with stored := { h.stored with }, kept := { h.kept with } }

/-- Plain searches are written to the store where there is one, and kept in memory where there is none. -/
theorem relates_writeSaved_savesAs (hfaithful : ∀ runtime ∈ places, runtime.IsFaithful) {searches : SavedSearches}
    (hplain : searches.IsPlain places) :
    Relates (Desk.SavesAs places space searcher) (writeSaved searches) (writeSaved searches) := by
  intro desk other h
  obtain ⟨texts, hstore, -⟩ := h.texts
  obtain ⟨text, hserialize, hread⟩ := hplain.exists_serialize hfaithful h.place
  have hnone : other.around.store = none := by
    rw [h.around]
  show (runAt _ desk).1 = (runAt _ other).1 ∧ Desk.SavesAs places space searcher (runAt _ desk).2 (runAt _ other).2
  rw [runAt_writeSaved_of_some hstore, runAt_writeSaved_of_none hnone, hserialize, h.sameSpace]
  exact ⟨rfl, h.sameSpace, h.stored, { h.kept with }, h.around, h.now, h.place, hplain, _, rfl,
    KeyValues.Keeps.of_set hread texts _⟩

theorem savesAlike_savesAs (hfaithful : ∀ runtime ∈ places, runtime.IsFaithful) :
    SavesAlike (Desk.SavesAs places space searcher) (SavedSearches.IsPlain places) where
  toSearchesAlike := searchesAlike_savesAs
  now := by
    intro desk other h
    rw [h.around]
  read := by
    intro desk other h
    obtain ⟨hdesk, hother⟩ := runAt_savedSearches_of_savesAs h
    show (runAt _ desk).1 = (runAt _ other).1 ∧ Desk.SavesAs places space searcher (runAt _ desk).2 (runAt _ other).2
    rw [hdesk, hother]
    exact ⟨rfl, h⟩
  good := by
    intro desk other h searches hsearches
    have hdesk := (runAt_savedSearches_of_savesAs h).1
    rw [runAt] at hdesk
    rw [hdesk] at hsearches
    cases hsearches
    exact h.plain
  write := fun searches hplain => relates_writeSaved_savesAs hfaithful hplain
  stamp := fun desk other h searches name saved hplain hget => hplain.stamp hget h.now
  erase := fun searches name hplain => hplain.erase name

end Engine

/-! ## Calls -/

/-- A call on saved searches whose name is a text; filters to be saved can be kept in a store. -/
inductive StoreCall.IsStorable (places : Set Runtime) : StoreCall → Prop where
  | savedSearches : IsStorable places .savedSearches
  | saveSearch (name : String) {filters : Fields} (storable : filters.IsStorable places) :
      IsStorable places (.saveSearch (.text name) (.mapping filters))
  | executeSaved (name : String) : IsStorable places (.executeSaved (.text name))
  | deleteSaved (name : String) : IsStorable places (.deleteSaved (.text name))

namespace StoreCall

open Engine hiding savedSearches saveSearch executeSaved deleteSaved

variable {space : String} {searcher : Engine} {desk other : Desk} {call : StoreCall}

/-- A call gives the same answer at both desks, and leaves them so. -/
theorem IsStorable.relates (hfaithful : ∀ runtime ∈ places, runtime.IsFaithful) (hcall : call.IsStorable places) :
    Relates (Desk.SavesAs places space searcher) call.perform call.perform := by
  have hsaved : SavesAlike (Desk.SavesAs places space searcher) _ := Engine.savesAlike_savesAs hfaithful
  cases hcall with
  | savedSearches =>
      rw [perform]
      exact hsaved.read.bind fun _ => Relates.pure _
  | saveSearch name storable =>
      rw [perform]
      refine (hsaved.relates_callSaveSearch ?_).bind fun _ => Relates.pure _
      intro key fields hkey hfields desk other h searches hplain
      cases hkey
      cases hfields
      exact hplain.insert name ⟨storable, h.now, h.now⟩
  | executeSaved name =>
      rw [perform]
      exact (hsaved.relates_callExecuteSaved _).bind fun _ => Relates.pure _
  | deleteSaved name =>
      rw [perform]
      exact (hsaved.relates_callDeleteSaved _).bind fun _ => Relates.pure _

/-- A search that is to be run and is not there leaves everything as it is. -/
theorem runAt_executeSaved_of_none {searches : SavedSearches} {name : String}
    (hread : runAt Engine.savedSearches desk = (.ok searches, desk)) (hget : searches.get? (.text name) = none) :
    (runAt (perform (.executeSaved (.text name))) desk).2 = desk := by
  have hexecute : runAt (Engine.executeSaved (.text name)) desk =
      (.error (.missing (.savedSearch (.text name))), desk) := by
    rw [Engine.executeSaved, runAt_bind, hread]
    dsimp only
    rw [hget]
    rfl
  have hcall : runAt (Call.executeSaved (.text name)) desk =
      (.error (.missing (.savedSearch (.text name))), desk) := by
    rw [Call.executeSaved, runAt_bind, hread]
    exact hexecute
  rw [perform, runAt_bind, hcall]

/-- Saving a search writes the searches that there are, with the new one set among them. -/
theorem runAt_saveSearch {searches : SavedSearches} (hread : runAt Engine.savedSearches desk = (.ok searches, desk))
    (name : String) (filters : Fields) :
    runAt (Call.saveSearch (.text name) (.mapping filters)) desk =
      match runAt (writeSaved (searches.insert (.text name) ⟨filters, desk.around.now, desk.around.now⟩)) desk with
      | (.ok _, after) => (.ok ⟨filters, desk.around.now, desk.around.now⟩, after)
      | (.error e, after) => (.error e, after) := by
  have hsave : runAt (Engine.saveSearch (.text name) filters) desk =
      match runAt (writeSaved (searches.insert (.text name) ⟨filters, desk.around.now, desk.around.now⟩)) desk with
      | (.ok _, after) => (.ok ⟨filters, desk.around.now, desk.around.now⟩, after)
      | (.error e, after) => (.error e, after) := by
    rw [Engine.saveSearch, runAt_bind, hread]
    dsimp only
    rw [runAt_get_bind, runAt_bind]
    rcases runAt (writeSaved _) desk with ⟨_ | _, after⟩ <;> rfl
  rw [Call.saveSearch, runAt_bind, hread]
  exact hsave

/-! ### Without a store -/

theorem runAt_savedSearches_of_memory (hnone : desk.around.store = none) :
    runAt Engine.savedSearches desk = (.ok desk.engine.saved, desk) := by
  rw [Engine.savedSearches, runAt_get_bind]
  dsimp only
  rw [hnone]
  rfl

theorem runAt_saveSearch_of_memory (hnone : desk.around.store = none) (name : String) (filters : Fields) :
    ∃ saved after, runAt (Call.saveSearch (.text name) (.mapping filters)) desk = (.ok saved, after) := by
  rw [runAt_saveSearch (runAt_savedSearches_of_memory hnone), runAt_writeSaved_of_none hnone]
  exact ⟨_, _, rfl⟩

theorem runAt_deleteSaved_of_memory (hnone : desk.around.store = none) (name : String) :
    ∃ deleted after, runAt (Call.deleteSaved (.text name)) desk = (.ok deleted, after) := by
  have hread := runAt_savedSearches_of_memory hnone
  have hdelete : ∃ deleted after, runAt (Engine.deleteSaved (.text name)) desk = (.ok deleted, after) := by
    rw [Engine.deleteSaved, runAt_bind, hread]
    dsimp only
    cases desk.engine.saved.get? (.text name) with
    | none =>
        exact ⟨false, desk, rfl⟩
    | some saved =>
        dsimp only
        rw [runAt_bind, runAt_writeSaved_of_none hnone]
        exact ⟨true, _, rfl⟩
  rw [Call.deleteSaved, runAt_bind, hread]
  dsimp only
  cases desk.engine.saved.isEmpty with
  | true =>
      exact ⟨false, desk, rfl⟩
  | false =>
      exact hdelete

/-- A search that is there is stamped with the time, and then it is run. -/
theorem runAt_executeSaved_of_memory (hnone : desk.around.store = none) {name : String} {saved : SavedSearch}
    (hget : desk.engine.saved.get? (.text name) = some saved) :
    runAt (Call.executeSaved (.text name)) desk =
      runAt (ofOutcome (AdvancedQuery.ofFields saved.filters) >>= advancedSearch)
        { desk with engine := { desk.engine with
            saved := desk.engine.saved.insert (.text name) { saved with lastUsed := desk.around.now } } } := by
  have hread := runAt_savedSearches_of_memory hnone
  rw [Call.executeSaved, runAt_bind, hread]
  show runAt (Engine.executeSaved (.text name)) desk = _
  rw [Engine.executeSaved, runAt_bind, hread]
  dsimp only
  rw [hget]
  show runAt (writeSaved _ >>= _) desk = _
  rw [runAt_bind, runAt_writeSaved_of_none hnone]

/-- A search that is there is run without missing a name. -/
theorem missesNoName_executeSaved_of_memory (hnone : desk.around.store = none) {name : String} {saved : SavedSearch}
    (hget : desk.engine.saved.get? (.text name) = some saved) :
    (runAt (Call.executeSaved (.text name)) desk).1.MissesNoName := by
  have hquery : (AdvancedQuery.ofFields saved.filters).MissesNoName := by
    rw [AdvancedQuery.ofFields]
    exact .ite .mismatch (.ok _)
  rw [runAt_executeSaved_of_memory hnone hget]
  exact MissesNoName.bind (.ofOutcome hquery) (fun query => missesNoName_advancedSearch query) _

/-- Without a store, a call misses no name but that of a search which is to be run. -/
theorem IsStorable.exists_of_missing (hcall : call.IsStorable places) (hnone : desk.around.store = none)
    {missing : MissingName} (h : (runAt call.perform desk).1 = .error (.missing missing)) :
    ∃ name, call = .executeSaved (.text name) ∧ desk.engine.saved.get? (.text name) = none := by
  cases hcall with
  | savedSearches =>
      rw [perform, runAt_bind, runAt_savedSearches_of_memory hnone] at h
      cases h
  | @saveSearch name filters storable =>
      obtain ⟨saved, after, hsave⟩ := runAt_saveSearch_of_memory hnone name filters
      rw [perform, runAt_bind, hsave] at h
      cases h
  -- A search that is there may fail when it is run, but then it misses no name.
  | executeSaved name =>
      refine ⟨name, rfl, ?_⟩
      rw [← Option.not_isSome_iff_eq_none, Option.isSome_iff_exists]
      rintro ⟨saved, hget⟩
      have hmisses := missesNoName_executeSaved_of_memory hnone hget missing
      rw [perform, runAt_bind] at h
      rcases hrun : runAt (Call.executeSaved (.text name)) desk with ⟨answer, after⟩
      rw [hrun] at h hmisses
      cases answer with
      | ok left =>
          cases h
      | error e =>
          exact hmisses (Except.error.inj h ▸ rfl)
  | deleteSaved name =>
      obtain ⟨deleted, after, hdelete⟩ := runAt_deleteSaved_of_memory hnone name
      rw [perform, runAt_bind, hdelete] at h
      cases h

end StoreCall

/-! ## Runs -/

variable {ι : Type}

/-- A storable call of one of the places at a time of the calendar, when the store takes what is written to it. -/
structure TeamCall.IsStorable (places : Set Runtime) (call : TeamCall ι) : Prop where
  storable : call.call.IsStorable places
  place : call.scene.runtime ∈ places
  accepted : call.scene.refuses = false
  now : call.scene.now.IsValid

/-- The same call, made by the only engine that there is. -/
def TeamCall.single (call : TeamCall ι) : TeamCall Unit := { call with member := () }

namespace Team

/-- The engines of a team have a store with the saved searches that a single engine has in memory; for the rest all
of them search alike. -/
structure SavesAs (places : Set Runtime) (space : String) (searcher : Engine) (team : Team ι) (alone : Team Unit) :
    Prop where
  sameSpace : ∀ i, team.space i = space
  stored : ∀ i, (team.engine i).SearchesAs searcher
  kept : (alone.engine ()).SearchesAs searcher
  noTexts : alone.texts = none
  plain : (alone.engine ()).saved.IsPlain places
  texts : ∃ texts, team.texts = some texts ∧
    texts.Keeps places (SavedSearches.keyFor space) (alone.engine ()).saved

variable {space : String} {searcher : Engine} {team : Team ι} {alone : Team Unit} {call : TeamCall ι}

theorem SavesAs.desks (h : SavesAs places space searcher team alone) (hcall : call.IsStorable places) :
    Desk.SavesAs places space searcher (team.deskFor call) (alone.deskFor call.single) := by
  obtain ⟨texts, htexts, hkeeps⟩ := h.texts
  have hstore := store_deskFor htexts call
  rw [hcall.accepted] at hstore
  refine ⟨h.sameSpace _, h.stored _, h.kept, ?_, hcall.now, hcall.place, h.plain, texts, hstore, hkeeps⟩
  rw [deskFor, h.noTexts]
  rfl

variable [DecidableEq ι]

/-- A call gives the same answer at the team and at the single engine, and leaves them so. -/
theorem SavesAs.afterCall (h : SavesAs places space searcher team alone)
    (hfaithful : ∀ runtime ∈ places, runtime.IsFaithful) (hcall : call.IsStorable places) :
    (team.run call).1 = (alone.run call.single).1 ∧
      SavesAs places space searcher (team.afterCall call) (alone.afterCall call.single) := by
  obtain ⟨hanswer, hafter⟩ := hcall.storable.relates hfaithful (h.desks hcall)
  -- The others are as they were; the one that has made the call is related to the single engine by its desk.
  have hengine : ((alone.afterCall call.single).engine ()) = (alone.run call.single).2.engine :=
    engine_afterCall_self alone call.single
  obtain ⟨texts, hstore, hkeeps⟩ := hafter.texts
  refine ⟨hanswer, ?_, ?_, ?_, ?_, ?_, texts, ?_, ?_⟩
  · exact forall_engine_afterCall (p := fun _ engine => engine.config.storeNamespace = space) h.sameSpace
      hafter.sameSpace
  · exact forall_engine_afterCall (p := fun _ engine => engine.SearchesAs searcher) h.stored hafter.stored
  · rw [hengine]
    exact hafter.kept
  · show (alone.run call.single).2.around.store.map (·.content) = none
    rw [show (alone.run call.single).2.around = _ from hafter.around]
    rfl
  · rw [hengine]
    exact hafter.plain
  · show (team.run call).2.around.store.map (·.content) = some texts
    rw [show (team.run call).2.around.store = _ from hstore]
    rfl
  · rw [hengine]
    exact hkeeps

/-- A run of calls gives the same answers at the team and at the single engine, and leaves them so. -/
theorem SavesAs.afterCalls (h : SavesAs places space searcher team alone)
    (hfaithful : ∀ runtime ∈ places, runtime.IsFaithful) {calls : List (TeamCall ι)}
    (hcalls : ∀ call ∈ calls, call.IsStorable places) :
    (transcript calls team).map (·.2) = (transcript (calls.map TeamCall.single) alone).map (·.2) ∧
      SavesAs places space searcher (team.afterCalls calls) (alone.afterCalls (calls.map TeamCall.single)) := by
  induction calls generalizing team alone with
  | nil =>
      exact ⟨rfl, h⟩
  | cons call rest ih =>
      obtain ⟨hcall, hrest⟩ := List.forall_mem_cons.1 hcalls
      obtain ⟨hanswer, hafter⟩ := h.afterCall hfaithful hcall
      obtain ⟨hanswers, hlast⟩ := ih hafter hrest
      refine ⟨?_, hlast⟩
      simp only [List.map_cons, transcript]
      rw [hanswer, hanswers]

/-- A call that misses a name leaves the team as it is. -/
theorem SavesAs.afterCall_of_missing (h : SavesAs places space searcher team alone)
    (hfaithful : ∀ runtime ∈ places, runtime.IsFaithful) (hcall : call.IsStorable places)
    {missing : MissingName} (hmissing : (team.run call).1 = .error (.missing missing)) :
    team.afterCall call = team := by
  have hdesks := h.desks hcall
  have hnone : (alone.deskFor call.single).around.store = none := by
    rw [hdesks.around]
  rw [(h.afterCall hfaithful hcall).1] at hmissing
  obtain ⟨name, hname, hget⟩ := hcall.storable.exists_of_missing hnone hmissing
  have hkept := StoreCall.runAt_executeSaved_of_none (Engine.runAt_savedSearches_of_savesAs hdesks).1 hget
  refine afterCall_eq_self ?_
  rw [run, hname]
  exact hkept

/-- Engines that share a store agree with a single engine on saved searches.  Engines of one namespace search the
same graph at a store that holds no saved searches of theirs at first.  They save searches, run, delete and list them
in any order, with filters that can be kept in a store by the calls of all places.  Then each call gives the answer or
failure that the same calls give at one engine without a store; what the store holds in the end is read as the saved
searches of that engine; and a call that misses a name leaves all engines and the store as they are. -/
theorem sharedSearches_agree (hfaithful : ∀ runtime ∈ places, runtime.IsFaithful) {texts : KeyValues}
    (htexts : team.texts = some texts) {space : String}
    (hspace : ∀ i, team.space i = space) (habsent : texts.get? (SavedSearches.keyFor space) = none)
    {single : Engine} (hsame : ∀ i, (team.engine i).SearchesAs single) (hsaved : single.saved = [])
    {calls : List (TeamCall ι)} (hcalls : ∀ call ∈ calls, call.IsStorable places) :
    let alone : Team Unit := ⟨fun _ => single, none⟩
    let last := alone.afterCalls (calls.map TeamCall.single)
    (transcript calls team).map (·.2) = (transcript (calls.map TeamCall.single) alone).map (·.2) ∧
      (∃ left, (team.afterCalls calls).texts = some left ∧
        left.Keeps places (SavedSearches.keyFor space) (last.engine ()).saved) ∧
      ∀ done call rest missing, calls = done ++ call :: rest →
        ((team.afterCalls done).run call).1 = .error (.missing missing) →
          (team.afterCalls done).afterCall call = team.afterCalls done := by
  intro alone last
  have hfirst : SavesAs places space single team alone :=
    { sameSpace := hspace
      stored := hsame
      kept := .refl single
      noTexts := rfl
      plain := hsaved ▸ .nil
      texts := ⟨texts, htexts, hsaved ▸ .of_absent habsent⟩ }
  obtain ⟨hanswers, hlast⟩ := hfirst.afterCalls hfaithful hcalls
  refine ⟨hanswers, hlast.texts, ?_⟩
  -- The call finds what the calls before it have left, and there it misses what the single engine misses.
  rintro done call rest missing rfl hmissing
  have hdone := (hfirst.afterCalls hfaithful fun earlier h => hcalls earlier (List.mem_append_left _ h)).2
  exact hdone.afterCall_of_missing hfaithful (hcalls call (List.mem_append_right _ List.mem_cons_self)) hmissing

/-- Two engines on the same graph, at an empty store. -/
def partners : Team Bool where
  engine second :=
    { Engine.blank (if second then 1 else 0) {} .owned (FilterShelf.loneNode "a") (.withCapacity 20) with
      index := .ofSnapshot (FilterShelf.loneNode "a") }
  texts := some []

/-- The first engine alone, without a store. -/
def firstAlone : Team Unit := ⟨fun _ => partners.engine false, none⟩

/-- A call of the first or the second engine. -/
def byPartner (second : Bool) (call : StoreCall) : TeamCall Bool :=
  ⟨second, ⟨Engine.someNoon, .null, [], false, .usual⟩, call⟩

/-- A search is saved by one engine, and run and deleted by the other; one that is run has been deleted. -/
def partnerCalls : List (TeamCall Bool) :=
  [byPartner false (.saveSearch (.text "s") (.mapping [("text", .text "a")])),
    byPartner true (.executeSaved (.text "s")),
    byPartner true (.saveSearch (.text "t") (.mapping [])),
    byPartner true (.deleteSaved (.text "s")),
    byPartner false (.executeSaved (.text "s")),
    byPartner false .savedSearches]

open Engine (isValid_someNoon)

theorem isFaithful_of_mem_usual : ∀ runtime ∈ ({.usual} : Set Runtime), runtime.IsFaithful := by
  rintro _ rfl
  exact Runtime.isFaithful_usual

theorem isStorable_textFilter (s : String) : Fields.IsStorable {.usual} [("text", .text s)] where
  finite := .mapping (List.nodup_singleton _) (List.forall_mem_singleton.2 (.text s))
  integers := Value.hasShortIntegers_mapping.2 (List.forall_mem_singleton.2 (by rintro n ⟨⟩))
  dumped := by
    rintro _ rfl
    exact ⟨_, rfl⟩
  written := by
    rintro _ rfl
    rfl
  read := by
    rintro _ rfl
    show 3 ≤ Json.nestingLimit
    decide

theorem isStorable_of_mem_partnerCalls : ∀ call ∈ partnerCalls, call.IsStorable {.usual} := by
  have hempty : Fields.IsStorable {.usual} [] :=
    { finite := .mapping List.nodup_nil (List.forall_mem_nil _)
      integers := Value.hasShortIntegers_mapping.2 (List.forall_mem_nil _)
      dumped := by
        rintro _ rfl
        exact ⟨_, rfl⟩
      written := by
        rintro _ rfl
        rfl
      read := by
        rintro _ rfl
        show 3 ≤ Json.nestingLimit
        decide }
  intro call hcall
  simp only [partnerCalls, List.mem_cons, List.not_mem_nil, or_false] at hcall
  rcases hcall with rfl | rfl | rfl | rfl | rfl | rfl
  · exact ⟨.saveSearch "s" (isStorable_textFilter "a"), rfl, rfl, isValid_someNoon⟩
  · exact ⟨.executeSaved "s", rfl, rfl, isValid_someNoon⟩
  · exact ⟨.saveSearch "t" hempty, rfl, rfl, isValid_someNoon⟩
  · exact ⟨.deleteSaved "s", rfl, rfl, isValid_someNoon⟩
  · exact ⟨.executeSaved "s", rfl, rfl, isValid_someNoon⟩
  · exact ⟨.savedSearches, rfl, rfl, isValid_someNoon⟩

/-- Two engines agree with one, and leave the one search that has not been deleted. -/
theorem sharedSearches_agree_partners :
    (∀ runtime ∈ ({.usual} : Set Runtime), runtime.IsFaithful) ∧
      (∀ call ∈ partnerCalls, call.IsStorable {.usual}) ∧
      (∀ i, (partners.engine i).SearchesAs (partners.engine false)) ∧
      (transcript partnerCalls partners).map (·.2) =
        (transcript (partnerCalls.map TeamCall.single) firstAlone).map (·.2) ∧
      (((firstAlone.afterCalls (partnerCalls.map TeamCall.single)).engine ()).saved.map fun entry =>
        entry.1.label) = ["t"] := by
  have hsame : ∀ i, (partners.engine i).SearchesAs (partners.engine false) := fun _ => ⟨rfl, rfl, rfl, rfl⟩
  have hspace : ∀ i, partners.space i = "graphsift" := fun _ => rfl
  have hagree := sharedSearches_agree isFaithful_of_mem_usual (show partners.texts = some [] from rfl) hspace rfl
    hsame rfl isStorable_of_mem_partnerCalls
  exact ⟨isFaithful_of_mem_usual, isStorable_of_mem_partnerCalls, hsame, hagree.1, by decide +kernel⟩

/-- Filters that hold lists in lists, too many of them for a document. -/
def deepFilters : Fields := [("deep", FilterShelf.nested 260)]

/-- A single search with filters that have no plain form has no text. -/
theorem serialize_deepFilters (name : EntryName) (created lastUsed : Timestamp) :
    SavedSearches.serialize .usual [(name, ⟨deepFilters, created, lastUsed⟩)] = .error (.argument .nestedTooFar) := by
  have hplain : Runtime.usual.dump deepFilters = .error (.argument .nestedTooFar) :=
    FilterShelf.plain_nested_too_deep (by decide) "deep"
  have hentry : SavedSearches.entry Runtime.usual.dump ⟨deepFilters, created, lastUsed⟩ =
      .error (.argument .nestedTooFar) := by
    rw [SavedSearches.entry, hplain]
    rfl
  rw [SavedSearches.serialize, List.mapM_cons]
  dsimp only
  rw [hentry]
  rfl

/-- Filters of finite numbers are refused where there is a store, and saved where there is none. -/
theorem deepSearch_refused :
    let call := byPartner false (.saveSearch (.text "s") (.mapping deepFilters))
    (Value.mapping deepFilters).IsFiniteJson ∧
      (transcript [call] partners).map (·.2) = [.error (.argument .nestedTooFar)] ∧
      (transcript [call.single] firstAlone).map (·.2) =
        [.ok (.saved ⟨deepFilters, Engine.someNoon, Engine.someNoon⟩)] := by
  intro call
  refine ⟨FilterShelf.isFiniteJson_mapping_nested "deep" 260, ?_, rfl⟩
  have hwrite : ∀ now, Engine.runAt (Engine.writeSaved (SavedSearches.insert [] (.text "s") ⟨deepFilters, now, now⟩))
      (partners.deskFor call) = (.error (.argument .nestedTooFar), partners.deskFor call) := by
    intro now
    have hserialize : SavedSearches.serialize (partners.deskFor call).around.runtime
        (SavedSearches.insert [] (.text "s") ⟨deepFilters, now, now⟩) = .error (.argument .nestedTooFar) :=
      serialize_deepFilters _ _ _
    rw [Engine.runAt_writeSaved_of_some (store_deskFor (show partners.texts = some [] from rfl) call), hserialize]
    rfl
  have hread : Engine.runAt Engine.savedSearches (partners.deskFor call) = (.ok [], partners.deskFor call) := rfl
  have hsave := StoreCall.runAt_saveSearch hread "s" deepFilters
  rw [hwrite] at hsave
  have hrun : (partners.run call).1 = .error (.argument .nestedTooFar) := by
    show (Engine.runAt (StoreCall.perform (.saveSearch (.text "s") (.mapping deepFilters)))
      (partners.deskFor call)).1 = _
    rw [StoreCall.perform, Engine.runAt_bind, hsave]
  rw [transcript, transcript, hrun]
  rfl

/-- Two engines on the same graph, of which the first one looks at a single match. -/
def unevenPair : Team Bool where
  engine second := (Engine.deskFor { defaultSearchLimit := if second then 2 else 1 } Engine.matchingPair).engine
  texts := some []

def saveByFirst : TeamCall Bool := byPartner false (.saveSearch (.text "s") (.mapping [("text", .text "n")]))

def runBy (second : Bool) : TeamCall Bool := byPartner second (.executeSaved (.text "s"))

/-- An engine without a store that has these saved searches. -/
def inMemory (engine : Engine) (searches : SavedSearches) : Desk :=
  ⟨{ engine with saved := searches }, ⟨Engine.someNoon, none, .null, [], .usual⟩⟩

theorem savesAs_inMemory {team : Team Bool} {texts : KeyValues} (htexts : team.texts = some texts) {second : Bool}
    (hspace : team.space second = space) (hsame : (team.engine second).SearchesAs searcher) {searches : SavedSearches}
    (hplain : searches.IsPlain {.usual}) (hkeeps : texts.Keeps {.usual} (SavedSearches.keyFor space) searches)
    (call : StoreCall) :
    Desk.SavesAs {.usual} space searcher (team.deskFor (byPartner second call)) (inMemory searcher searches) where
  sameSpace := hspace
  stored := hsame
  kept := ⟨rfl, rfl, rfl, rfl⟩
  around := rfl
  now := isValid_someNoon
  place := rfl
  plain := hplain
  texts := ⟨texts, store_deskFor htexts _, hkeeps⟩

/-- What the first engine has saved. -/
def oneSearch : SavedSearches :=
  [(.text "s", ⟨[("text", .text "n")], Engine.someNoon, Engine.someNoon⟩)]

/-- An engine looks at as many matches as its own settings allow. -/
theorem runAt_executeSaved_oneSearch (second : Bool) :
    (Engine.runAt (StoreCall.perform (.executeSaved (.text "s"))) (inMemory (unevenPair.engine second) oneSearch)).1 =
      .ok (.filtered (some ⟨Engine.matchingPair.nodes.take (if second then 2 else 1), []⟩)) := by
  have hfound : (Engine.runAt (Call.executeSaved (.text "s")) (inMemory (unevenPair.engine second) oneSearch)).1 =
      .ok ⟨Engine.matchingPair.nodes.take (if second then 2 else 1), []⟩ := by
    have hget : oneSearch.get? (.text "s") =
        some ⟨[("text", .text "n")], Engine.someNoon, Engine.someNoon⟩ := by
      simp [SavedSearches.get?, oneSearch, EntryName.beq_text]
    rw [StoreCall.runAt_executeSaved_of_memory rfl hget]
    show (Engine.runAt (Engine.advancedSearch { text := .text "n" }) _).1 = _
    rw [Engine.answer_advancedSearch rfl rfl Engine.hasDistinctIdTexts_matchingPair rfl (by decide),
      Engine.bestMatches_matchingPair]
    cases second <;> rfl
  rw [StoreCall.perform, Engine.runAt_bind]
  rcases hrun : Engine.runAt (Call.executeSaved (.text "s")) (inMemory (unevenPair.engine second) oneSearch) with
    ⟨answer, after⟩
  rw [hrun] at hfound
  cases hfound
  rfl

/-- What is found depends on who runs the search. -/
theorem run_runBy (second : Bool) :
    ((unevenPair.afterCall saveByFirst).run (runBy second)).1 =
      .ok (.filtered (some ⟨Engine.matchingPair.nodes.take (if second then 2 else 1), []⟩)) := by
  have hspace : ∀ i, unevenPair.space i = "graphsift" := fun _ => rfl
  have hfirst := savesAs_inMemory (show unevenPair.texts = some [] from rfl) (hspace false) (.refl _) .nil
    (.of_absent rfl) (.saveSearch (.text "s") (.mapping [("text", .text "n")]))
  obtain ⟨-, hafter⟩ := (StoreCall.IsStorable.saveSearch "s" (isStorable_textFilter "n")).relates
    isFaithful_of_mem_usual hfirst
  obtain ⟨texts, hstore, hkeeps⟩ := hafter.texts
  have htexts : (unevenPair.afterCall saveByFirst).texts = some texts := by
    show (unevenPair.run saveByFirst).2.around.store.map (·.content) = some texts
    rw [show (unevenPair.run saveByFirst).2.around.store = _ from hstore]
    rfl
  have hkept : (unevenPair.run saveByFirst).2.engine.SearchesAs (unevenPair.engine false) := hafter.stored
  have hsame : ((unevenPair.afterCall saveByFirst).engine second).SearchesAs (unevenPair.engine second) :=
    forall_engine_afterCall (p := fun i engine => engine.SearchesAs (unevenPair.engine i)) (fun i => .refl _) hkept
      second
  have hnamed : (unevenPair.afterCall saveByFirst).space = unevenPair.space := space_afterCall hafter.sameSpace
  have hplain : SavedSearches.IsPlain {.usual} oneSearch := hafter.plain
  have hsecond := savesAs_inMemory htexts ((congrFun hnamed second).trans (hspace second)) hsame hplain hkeeps
    (.executeSaved (.text "s"))
  obtain ⟨hanswer, -⟩ := (StoreCall.IsStorable.executeSaved "s").relates isFaithful_of_mem_usual hsecond
  exact hanswer.trans (runAt_executeSaved_oneSearch second)

/-- Engines with limits of their own agree with no single engine, whatever its limit is. -/
theorem unevenPair_disagrees (single : Engine) :
    ∃ second, (transcript [saveByFirst, runBy second] unevenPair).map (·.2) ≠
      (transcript ([saveByFirst, runBy second].map TeamCall.single) ⟨fun _ => single, none⟩).map (·.2) := by
  -- The single engine is asked the same whoever runs the search, but the two engines find different nodes.
  by_contra! hagree
  have hsame := (hagree false).trans (hagree true).symm
  simp only [transcript, List.map_cons, List.map_nil, run_runBy] at hsame
  cases hsame

/-- What memory takes a store may refuse, though its numbers are finite; and engines that look at different numbers of
matches agree with no single engine. -/
theorem sharedSearches_disagree :
    let deep := byPartner false (.saveSearch (.text "s") (.mapping deepFilters))
    ((Value.mapping deepFilters).IsFiniteJson ∧
      (transcript [deep] partners).map (·.2) = [.error (.argument .nestedTooFar)] ∧
      (transcript [deep.single] firstAlone).map (·.2) =
        [.ok (.saved ⟨deepFilters, Engine.someNoon, Engine.someNoon⟩)]) ∧
      ∀ single : Engine, ∃ second, (∀ call ∈ [saveByFirst, runBy second], call.IsStorable {.usual}) ∧
        (transcript [saveByFirst, runBy second] unevenPair).map (·.2) ≠
          (transcript ([saveByFirst, runBy second].map TeamCall.single) ⟨fun _ => single, none⟩).map (·.2) := by
  refine ⟨deepSearch_refused, fun single => ?_⟩
  obtain ⟨second, hdiffer⟩ := unevenPair_disagrees single
  refine ⟨second, ?_, hdiffer⟩
  exact List.forall_mem_cons.2 ⟨⟨.saveSearch "s" (isStorable_textFilter "n"), rfl, rfl, isValid_someNoon⟩,
    List.forall_mem_singleton.2 ⟨.executeSaved "s", rfl, rfl, isValid_someNoon⟩⟩

end Team
end GraphQuery
