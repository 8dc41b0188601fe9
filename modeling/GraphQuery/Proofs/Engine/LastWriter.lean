import GraphQuery.Proofs.Engine.SharedStore

/-!
# The last writer — filter sets of engines that share a namespace

Engines of one namespace change their filter sets at one store.  Each reads the stored sets when it loads them, and
works on its own copy from then on: a change does not look at what is stored, and writes the whole copy.  So a run
of changes leaves each engine as its own changes alone would leave it, and leaves in the store what the engine
that has committed last holds (`Team.lastWriter_wins`).

What the others have stored is lost with the next commit of an engine that does not have it, and what they have
removed comes back (`Team.sets_lost`).
-/

namespace GraphQuery

variable {ι : Type}

/-- Whether a call is a change of the filter sets. -/
def TeamCall.IsChange (call : TeamCall ι) : Prop := ∃ c, call.call = .change c

namespace Team

/-- The sets that a change asks for and the store after they have been written; none for a call that commits
nothing. -/
def committed? (team : Team ι) (call : TeamCall ι) : Option (FilterSets × Option Store) :=
  match call.call with
  | .change c =>
    match c.attempt call.scene.now (team.deskFor call).shelf with
    | .ok (some result) => some result
    | _ => none
  | _ => none

variable [DecidableEq ι]

/-- The engine that has committed last in a run of calls. -/
def lastWriter (team : Team ι) : List (TeamCall ι) → Option ι
  | [] => none
  | call :: rest =>
    ((team.afterCall call).lastWriter rest).or ((team.committed? call).map fun _ => call.member)

/-! ## One change -/

omit [DecidableEq ι] in
theorem run_change_snd (team : Team ι) {call : TeamCall ι} {c : SetChange} (hc : call.call = .change c) :
    (team.run call).2 = (team.deskFor call).withShelf (FilterShelf.runAt
      (c.run call.scene.now (team.deskFor call).snapshot) (team.deskFor call).shelf).2 := by
  show (Engine.runAt call.call.perform (team.deskFor call)).2 = _
  rw [hc, StoreCall.perform, Engine.runAt_withSets]
  show (team.deskFor call).withShelf (FilterShelf.runAt ((fun left => Answer.filtered left) <$>
    c.run call.scene.now (team.deskFor call).snapshot) (team.deskFor call).shelf).2 = _
  rw [FilterShelf.runAt_map]

/-- A change that commits nothing leaves the team as it is. -/
theorem afterCall_of_committed?_eq_none {team : Team ι} {call : TeamCall ι} (hcall : call.IsChange)
    (h : team.committed? call = none) : team.afterCall call = team := by
  obtain ⟨c, hc⟩ := hcall
  have hkept : (FilterShelf.runAt (c.run call.scene.now (team.deskFor call).snapshot)
      (team.deskFor call).shelf).2 = (team.deskFor call).shelf := by
    have hrun := (c.commits_run call.scene.now (team.deskFor call).snapshot (team.deskFor call).shelf).persistsFirst
    rw [committed?, hc] at h
    dsimp only [SetChange.attempt] at h
    rcases hattempt : (team.deskFor call).shelf.attempted (c.proposed (team.deskFor call).shelf.runtime.reader
      call.scene.now (team.deskFor call).shelf.sets) with e | _ | result
    · rw [hattempt] at hrun
      exact congrArg Prod.snd hrun
    · rw [hattempt] at hrun
      exact hrun
    · rw [hattempt] at h
      cases h
  refine afterCall_eq_self ?_
  rw [run_change_snd team hc, hkept]
  rfl

/-- A change that commits leaves the sets of its engine in the store. -/
theorem stored_of_committed?_eq_some {team : Team ι} {texts : KeyValues} (htexts : team.texts = some texts)
    {call : TeamCall ι} (hcall : call.IsChange) {result : FilterSets × Option Store}
    (h : team.committed? call = some result) :
    ∃ text, ((team.afterCall call).engine call.member).sets.serialize = .ok text ∧
      (team.afterCall call).stored (FilterShelf.keyFor (team.space call.member)) = some text := by
  obtain ⟨c, hc⟩ := hcall
  have hrun := (c.commits_run call.scene.now (team.deskFor call).snapshot (team.deskFor call).shelf).persistsFirst
  rw [committed?, hc] at h
  dsimp only [SetChange.attempt] at h
  rcases hattempt : (team.deskFor call).shelf.attempted (c.proposed (team.deskFor call).shelf.runtime.reader
    call.scene.now (team.deskFor call).shelf.sets) with e | _ | ⟨sets, store⟩
  · rw [hattempt] at h
    cases h
  · rw [hattempt] at h
    cases h
  -- What has been written is found again where the engine keeps its sets.
  · rw [hattempt] at hrun
    obtain ⟨history, hafter⟩ := hrun
    have hwritten := (FilterShelf.attempted_eq_some hattempt).2
    have hstore : (team.deskFor call).shelf.store = some ⟨texts, call.scene.refuses⟩ :=
      store_deskFor htexts call
    obtain ⟨text, hserialize, hstored⟩ := FilterShelf.stored_of_written hstore hwritten history
    have hdesk := run_change_snd team hc
    rw [hafter] at hdesk
    refine ⟨text, ?_, ?_⟩
    · rw [engine_afterCall_self, hdesk]
      exact hserialize
    · rw [stored, afterCall, hdesk, ← hstored, FilterShelf.stored_eq]
      rfl

/-! ## Runs -/

/-- An engine is the same at both teams, whatever their stores hold. -/
structure SameCopy (i : ι) (team alone : Team ι) : Prop where
  engine : alone.engine i = team.engine i
  texts : ∃ texts own, team.texts = some texts ∧ alone.texts = some own

variable {i : ι} {team alone : Team ι}

theorem SameCopy.own (h : SameCopy i team alone) {call : TeamCall ι} (hchange : call.IsChange)
    (hcall : call.member = i) :
    (team.run call).1 = (alone.run call).1 ∧ SameCopy i (team.afterCall call) (alone.afterCall call) := by
  subst hcall
  obtain ⟨hengine, texts, own, htexts, hown⟩ := h
  obtain ⟨c, hc⟩ := hchange
  -- A change reads nothing from the store, so any two stores will do.
  have hrelates : Relates (Desk.Matches (fun _ _ => True) (team.space call.member)) call.call.perform
      call.call.perform := by
    rw [hc]
    exact StoreCall.relates_change (fun _ _ _ _ => trivial) c
  obtain ⟨hanswer, hafter, -, left, right, hleft, hright, -⟩ :=
    afterCall_matches hrelates hengine htexts hown trivial
  exact ⟨hanswer, hafter, left, right, hleft, hright⟩

theorem SameCopy.other (h : SameCopy i team alone) {call : TeamCall ι} (hcall : call.member ≠ i) :
    SameCopy i (team.afterCall call) alone := by
  obtain ⟨hengine, texts, own, htexts, hown⟩ := h
  obtain ⟨after, hafter, -, -⟩ := afterCall_confined htexts call
  refine ⟨?_, after, own, hafter, hown⟩
  rw [engine_afterCall_of_ne team hcall]
  exact hengine

/-- What a run of changes leaves in the store is what the engine that has committed last holds. -/
theorem stored_of_lastWriter {texts : KeyValues} (htexts : team.texts = some texts) {space : String}
    (hspace : ∀ i, team.space i = space) {calls : List (TeamCall ι)} (hcalls : ∀ call ∈ calls, call.IsChange) :
    match team.lastWriter calls with
    | none => team.afterCalls calls = team
    | some i => ∃ text, ((team.afterCalls calls).engine i).sets.serialize = .ok text ∧
        (team.afterCalls calls).stored (FilterShelf.keyFor space) = some text := by
  induction calls generalizing team texts with
  | nil =>
      rfl
  | cons call rest ih =>
      obtain ⟨hcall, hrest⟩ := List.forall_mem_cons.1 hcalls
      obtain ⟨after, hafter, -, hspaces⟩ := afterCall_confined htexts call
      have hlast := ih hafter (fun i => (congrFun hspaces i).trans (hspace i)) hrest
      rw [lastWriter]
      show match ((team.afterCall call).lastWriter rest).or
          ((team.committed? call).map fun _ => call.member) with
        | none => (team.afterCall call).afterCalls rest = team
        | some i => ∃ text, (((team.afterCall call).afterCalls rest).engine i).sets.serialize = .ok text ∧
            ((team.afterCall call).afterCalls rest).stored (FilterShelf.keyFor space) = some text
      cases hwriter : (team.afterCall call).lastWriter rest with
      | some i =>
          rw [hwriter] at hlast
          exact hlast
      | none =>
          -- No later call has committed, so the team is still as this one has left it.
          rw [hwriter] at hlast
          rw [Option.none_or, hlast]
          cases hcommitted : team.committed? call with
          | none =>
              exact afterCall_of_committed?_eq_none hcall hcommitted
          | some result =>
              have hstored := stored_of_committed?_eq_some htexts hcall hcommitted
              rw [hspace] at hstored
              exact hstored

/-- The last writer wins.  Engines of one namespace change their filter sets at one store, in any order of calls.
Each of them answers as its own changes alone would be answered, at a store with anything in it, and ends with the
same sets and history.  If no call has committed then everything is as it was; if any has, then the store holds
the sets of the engine that has committed last, and nothing else of what the others have made. -/
theorem lastWriter_wins {texts : KeyValues} (htexts : team.texts = some texts) {space : String}
    (hspace : ∀ i, team.space i = space) {calls : List (TeamCall ι)} (hcalls : ∀ call ∈ calls, call.IsChange) :
    (∀ i own, let alone : Team ι := { team with texts := some own }
      let mine := calls.filter (·.member = i)
      (transcript calls team).filter (·.1 = i) = transcript mine alone ∧
        (team.afterCalls calls).engine i = (alone.afterCalls mine).engine i) ∧
    match team.lastWriter calls with
    | none => team.afterCalls calls = team
    | some i => ∃ text, ((team.afterCalls calls).engine i).sets.serialize = .ok text ∧
        (team.afterCalls calls).stored (FilterShelf.keyFor space) = some text := by
  refine ⟨?_, stored_of_lastWriter htexts hspace hcalls⟩
  intro i own alone mine
  have hfirst : SameCopy i team alone := ⟨rfl, texts, own, htexts, rfl⟩
  obtain ⟨hseen, hlast⟩ := unseen_of_steps i (fun _ _ h call => h.own) (fun _ _ h _ _ => h.other) hfirst hcalls
  exact ⟨hseen, hlast.engine.symm⟩

/-- Two engines that have been started at an empty store. -/
def newcomers : Team Bool where
  engine _ := Engine.blank 0 {} .owned (FilterShelf.loneNode "a") (.withCapacity 20)
  texts := some []

/-- A call of the first or the second of two engines. -/
def callOf (second : Bool) (call : StoreCall) : TeamCall Bool :=
  ⟨second, ⟨Engine.someNoon, .null, [], false, .usual⟩, call⟩

def makes (name : String) : StoreCall := .change (.create (.text name) (.mapping []))

/-- Each of the engines makes a set. -/
def oneSetEach : List (TeamCall Bool) := [callOf false (makes "x"), callOf true (makes "y")]

theorem isChange_of_mem_oneSetEach : ∀ call ∈ oneSetEach, call.IsChange := by
  intro call hcall
  simp only [oneSetEach, List.mem_cons, List.not_mem_nil, or_false] at hcall
  rcases hcall with rfl | rfl <;> exact ⟨_, rfl⟩

/-- The store holds what the second engine holds. -/
theorem lastWriter_wins_newcomers :
    (∀ call ∈ oneSetEach, call.IsChange) ∧ newcomers.lastWriter oneSetEach = some true ∧
      ∃ text, ((newcomers.afterCalls oneSetEach).engine true).sets.serialize = .ok text ∧
        (newcomers.afterCalls oneSetEach).stored (FilterShelf.keyFor "graphsift") = some text := by
  have hspace : ∀ i, newcomers.space i = "graphsift" := fun _ => rfl
  have hstored := (lastWriter_wins (show newcomers.texts = some [] from rfl) hspace isChange_of_mem_oneSetEach).2
  have hwriter : newcomers.lastWriter oneSetEach = some true := by
    decide +kernel
  rw [hwriter] at hstored
  exact ⟨isChange_of_mem_oneSetEach, hwriter, hstored⟩

/-- Both engines come to have a set, by making it and by importing it.  The first one removes it, and the second one
makes another one after that. -/
def oneSetRemoved : List (TeamCall Bool) :=
  [callOf false (makes "x"), callOf true (.change (.importSets (.text "\x7b\"x\": \x7b\x7d\x7d"))),
    callOf false (.change (.remove (.text "x"))), callOf true (makes "y")]

theorem isChange_of_mem_oneSetRemoved : ∀ call ∈ oneSetRemoved, call.IsChange := by
  intro call hcall
  simp only [oneSetRemoved, List.mem_cons, List.not_mem_nil, or_false] at hcall
  rcases hcall with rfl | rfl | rfl | rfl <;> exact ⟨_, rfl⟩

/-- What the store holds is the text of sets of the given names. -/
def StoresNames (team : Team Bool) (names : List String) : Prop :=
  ∃ (sets : FilterSets) (text : String), sets.serialize = .ok text ∧
    team.stored (FilterShelf.keyFor "graphsift") = some text ∧ sets.map (fun entry => entry.1.label) = names

theorem storesNames_newcomers {calls : List (TeamCall Bool)} (hcalls : ∀ call ∈ calls, call.IsChange)
    {last : Bool} (hwriter : newcomers.lastWriter calls = some last) {names : List String}
    (hnames : ((newcomers.afterCalls calls).engine last).sets.map (fun entry => entry.1.label) = names) :
    StoresNames (newcomers.afterCalls calls) names := by
  have hspace : ∀ i, newcomers.space i = "graphsift" := fun _ => rfl
  have hstored := stored_of_lastWriter (show newcomers.texts = some [] from rfl) hspace hcalls
  rw [hwriter] at hstored
  obtain ⟨text, hserialize, htext⟩ := hstored
  exact ⟨_, text, hserialize, htext, hnames⟩

/-- A set that one engine has made is not in the store after the other has made one, though both calls succeed; and
a set that one engine has removed is there again after the other has made another one. -/
theorem sets_lost :
    ((transcript oneSetEach newcomers).all fun entry => entry.2.toOption.isSome) = true ∧
      StoresNames (newcomers.afterCalls oneSetEach) ["y"] ∧
      ((transcript oneSetRemoved newcomers).all fun entry => entry.2.toOption.isSome) = true ∧
      StoresNames (newcomers.afterCalls (oneSetRemoved.take 3)) [] ∧
      StoresNames (newcomers.afterCalls oneSetRemoved) ["x", "y"] := by
  have htake : ∀ call ∈ oneSetRemoved.take 3, call.IsChange :=
    fun call hcall => isChange_of_mem_oneSetRemoved call (List.mem_of_mem_take hcall)
  refine ⟨by decide +kernel, ?_, by decide +kernel, ?_, ?_⟩
  · have hwriter : newcomers.lastWriter oneSetEach = some true := by
      decide +kernel
    exact storesNames_newcomers isChange_of_mem_oneSetEach hwriter (by decide +kernel)
  · have hwriter : newcomers.lastWriter (oneSetRemoved.take 3) = some false := by
      decide +kernel
    exact storesNames_newcomers htake hwriter (by decide +kernel)
  · have hwriter : newcomers.lastWriter oneSetRemoved = some true := by
      decide +kernel
    exact storesNames_newcomers isChange_of_mem_oneSetRemoved hwriter (by decide +kernel)

end Team
end GraphQuery
