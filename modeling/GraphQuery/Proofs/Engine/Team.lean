import GraphQuery.Engine.Call
import Mathlib.Logic.Function.Basic

/-!
# Teams — engines that work at one store, each in its turn

A team of engines works at one store (`Team`).  Calls are made in turn, each by one member, and each finds its own
clock, graph and state of the disk (`Scene`).  A call may change the engine that makes it and the texts of the
store, and nothing else; one that fails does not stop the next ones.

What a member sees of a run is the answers of its own calls.  If these do not depend on what the others do, step
by step, then a member sees what it would see of a run of its own calls (`Team.unseen_of_steps`).
-/

namespace GraphQuery

/-- What a call finds around the engine, besides the texts in the store. -/
structure Scene where
  now : Timestamp
  /-- What the accessor gives. -/
  state : Value
  containers : List Container
  /-- Whether the store refuses to be written to. -/
  refuses : Bool
  runtime : Runtime

/-- An engine in its surroundings; without texts there is no store. -/
def Scene.desk (scene : Scene) (engine : Engine) (texts : Option KeyValues) : Desk where
  engine := engine
  around :=
    { now := scene.now
      store := texts.map fun texts => ⟨texts, scene.refuses⟩
      state := scene.state
      containers := scene.containers
      runtime := scene.runtime }

/-- A call on the filter sets or the saved searches of an engine. -/
inductive StoreCall where
  | change (change : SetChange)
  | loadSets
  | saveSets
  | savedSearches
  | saveSearch (name filters : Value)
  | executeSaved (name : Value)
  | deleteSaved (name : Value)

/-- The operation that a call runs. -/
def StoreCall.perform : StoreCall → EngineM Answer
  | change c => Engine.withSets fun now graph => return .filtered (← c.run now graph)
  | loadSets => Engine.withSets fun now _ => return .count (← FilterShelf.load now)
  | saveSets => Engine.withSets fun _ _ => do
    FilterShelf.save
    return .nothing
  | savedSearches => return .savedAll (← Engine.savedSearches)
  | saveSearch name filters => return .saved (← Call.saveSearch name filters)
  | executeSaved name => return .filtered (some (← Call.executeSaved name))
  | deleteSaved name => return .bool (← Call.deleteSaved name)

/-- The keys under which an engine of a namespace keeps what is its own. -/
def spaceKeys (space : String) : List String := [FilterShelf.keyFor space, SavedSearches.keyFor space]

/-- Engines that work at one store; without texts there is no store, and each keeps its own. -/
structure Team (ι : Type) where
  engine : ι → Engine
  texts : Option KeyValues

/-- A call of a member of a team. -/
structure TeamCall (ι : Type) where
  member : ι
  scene : Scene
  call : StoreCall

namespace Team

variable {ι : Type}

/-- The engine that makes a call, with what it finds around it. -/
def deskFor (team : Team ι) (call : TeamCall ι) : Desk := call.scene.desk (team.engine call.member) team.texts

/-- The answer of a call, and the desk that it leaves. -/
def run (team : Team ι) (call : TeamCall ι) : Outcome Answer × Desk :=
  call.call.perform.run.run (team.deskFor call)

variable [DecidableEq ι]

/-- The team after a call, whether it has failed or not. -/
def afterCall (team : Team ι) (call : TeamCall ι) : Team ι where
  engine := Function.update team.engine call.member (team.run call).2.engine
  texts := (team.run call).2.around.store.map (·.content)

def afterCalls (team : Team ι) (calls : List (TeamCall ι)) : Team ι := calls.foldl afterCall team

/-- Who has made each call, and what it has answered; a call that fails does not stop the next ones. -/
def transcript : List (TeamCall ι) → Team ι → List (ι × Outcome Answer)
  | [], _ => []
  | call :: rest, team => (call.member, (team.run call).1) :: transcript rest (team.afterCall call)

/-- The namespace of a member. -/
def space (team : Team ι) (i : ι) : String := (team.engine i).config.storeNamespace

/-- What a team holds under a key of its store. -/
def stored (team : Team ι) (key : String) : Option String := team.texts.bind fun texts => texts.get? key

omit [DecidableEq ι] in
theorem store_deskFor {team : Team ι} {texts : KeyValues} (htexts : team.texts = some texts) (call : TeamCall ι) :
    (team.deskFor call).around.store = some ⟨texts, call.scene.refuses⟩ := by
  rw [deskFor, htexts]
  rfl

theorem engine_afterCall_of_ne (team : Team ι) {call : TeamCall ι} {i : ι} (h : call.member ≠ i) :
    (team.afterCall call).engine i = team.engine i :=
  Function.update_of_ne h.symm _ _

theorem engine_afterCall_self (team : Team ι) (call : TeamCall ι) :
    (team.afterCall call).engine call.member = (team.run call).2.engine :=
  Function.update_self _ _ _

/-- What is true of each member stays so if the call keeps it for the member that makes it. -/
theorem forall_engine_afterCall {team : Team ι} {call : TeamCall ι} {p : ι → Engine → Prop}
    (h : ∀ i, p i (team.engine i)) (hcall : p call.member (team.run call).2.engine) (i : ι) :
    p i ((team.afterCall call).engine i) :=
  (Function.forall_update_iff team.engine p).2 ⟨hcall, fun other _ => h other⟩ i

/-- No namespace changes if that of the member that makes the call does not. -/
theorem space_afterCall {team : Team ι} {call : TeamCall ι}
    (h : (team.run call).2.engine.config.storeNamespace = team.space call.member) :
    (team.afterCall call).space = team.space :=
  funext (forall_engine_afterCall (p := fun i engine => engine.config.storeNamespace = team.space i) (fun _ => rfl) h)

/-- A call that leaves the desk at which it is made as it is leaves the team as it is. -/
theorem afterCall_eq_self {team : Team ι} {call : TeamCall ι} (h : (team.run call).2 = team.deskFor call) :
    team.afterCall call = team := by
  have htexts : (team.deskFor call).around.store.map (·.content) = team.texts := by
    rw [deskFor, Scene.desk, Option.map_map]
    exact Option.map_id'
  rw [afterCall, h, htexts]
  exact congrArg (Team.mk · team.texts) (Function.update_eq_self call.member team.engine)

/-- A member does not see the others.  If a relation is kept by each call of the member at both teams, with the
same answer, and by each call of another member at the first team alone, then a run of the first team shows the
member what a run of its own calls shows it at the second. -/
theorem unseen_of_steps {R : Team ι → Team ι → Prop} {p : TeamCall ι → Prop} (i : ι)
    (hown : ∀ ⦃team alone : Team ι⦄, R team alone → ∀ call, p call → call.member = i →
      (team.run call).1 = (alone.run call).1 ∧ R (team.afterCall call) (alone.afterCall call))
    (hother : ∀ ⦃team alone : Team ι⦄, R team alone → ∀ call, p call → call.member ≠ i →
      R (team.afterCall call) alone)
    {team alone : Team ι} (h : R team alone) {calls : List (TeamCall ι)} (hcalls : ∀ call ∈ calls, p call) :
    (transcript calls team).filter (·.1 = i) = transcript (calls.filter (·.member = i)) alone ∧
      R (team.afterCalls calls) (alone.afterCalls (calls.filter (·.member = i))) := by
  induction calls generalizing team alone with
  | nil =>
      exact ⟨rfl, h⟩
  | cons call rest ih =>
      obtain ⟨hfirst, hcalls⟩ := List.forall_mem_cons.1 hcalls
      -- A call of another member is left out on the right, so the relation is kept with the right team standing still.
      by_cases hcall : call.member = i
      · obtain ⟨hanswer, hafter⟩ := hown h call hfirst hcall
        obtain ⟨hrest, hlast⟩ := ih hafter hcalls
        simp only [transcript, List.filter_cons, hcall, decide_true, if_true]
        rw [hrest, hanswer]
        exact ⟨rfl, hlast⟩
      · obtain ⟨hrest, hlast⟩ := ih (hother h call hfirst hcall) hcalls
        simp only [transcript, List.filter_cons, hcall, decide_false, Bool.false_eq_true, if_false]
        exact ⟨hrest, hlast⟩

end Team

end GraphQuery
