import GraphQuery.Proofs.Engine.Containers
import GraphQuery.Proofs.Engine.Reading

/-!
# Binding — an engine that is bound to a container is never stale

An engine is bound to one container after the other and let go again, the containers change, and the engine searches
in between (`Session.Step`).  All nodes and edges that the containers ever hold are valid, and registrations can be
taken back.  After any number of steps (`Session.bound_isCurrent`):

- the container that the engine is bound to holds one registration of the engine for each key that is watched, and
  every other container holds none;
- the index is built from what the container holds now, and quick searches find what any new engine would find there.

An entity without a text ends the building of an index, of this engine's as well as of a new one's; once all entities
have texts again the engine is up to date again.

Each step leaves a desk that is bound as the step says (`Desk.IsBound`): binding lets go of the container before and
reads the new one, a change reaches the index if and only if the engine watches it, and searches leave all this as it
is.  A run follows by induction (`Session.isBound_afterSteps`).
-/

namespace GraphQuery

/-! ## Desks -/

/-- A desk whose engine is registered with the container at a place and reads it, or is registered with none. -/
structure Desk.IsAttached (number count : Nat) (bound : Option Nat) (desk : Desk) : Prop where
  engineNumber : desk.engine.number = number
  accepted : ∃ history, FilterHistory.ofSize desk.engine.config.filterHistorySize = .ok history
  containerCount : desk.around.containers.length = count
  containers : ∀ (place : Nat) (c : Container), desk.around.containers[place]? = some c →
    c.Serves number (bound = some place)
  subscriptions :
    desk.engine.subscriptions = bound.elim [] fun place => Session.watchedKeys.map (Subscription.mk place)
  source : ∀ place ∈ bound, desk.engine.source = .container place

/-- A desk whose engine is bound to the container at a place, or to none.  It is up to date with the container if an
index can be built there. -/
structure Desk.IsBound (number count : Nat) (bound : Option Nat) (desk : Desk) : Prop
    extends desk.IsAttached number count bound where
  current : ∀ place ∈ bound, ∃ c : Container, desk.around.containers[place]? = some c ∧
    ∀ index, c.state.freshIndex = .ok index → desk.engine.index = index ∧ Engine.Coherent desk.engine

namespace Desk

theorem snapshot_of_container {desk : Desk} {place : Nat} {c : Container}
    (hsource : desk.engine.source = .container place) (hc : desk.around.containers[place]? = some c) :
    desk.snapshot = Snapshot.coerce (.mapping c.state) := by
  rw [snapshot, hsource]
  dsimp only
  rw [hc]

/-- Whether no index can be built from the container that the engine is bound to. -/
def LacksIndex (bound : Option Nat) (desk : Desk) : Prop :=
  ∃ place ∈ bound, ∃ c : Container, desk.around.containers[place]? = some c ∧ ∀ index, c.state.freshIndex ≠ .ok index

/-- Whether something has been done, all of it unless the index cannot be built afterwards. -/
def IsDone {α : Type} (bound : Option Nat) (a : α) (answer : Outcome α) (after : Desk) : Prop :=
  answer = .ok a ∨ answer = .error .longIntegerText ∧ after.LacksIndex bound

/-- The desk after the engine has turned to a container and has registered with it. -/
def registered (desk : Desk) (place : Nat) : Desk where
  engine :=
    { desk.engine with
      source := .container place, subscriptions := Session.watchedKeys.map (Subscription.mk place) }
  around :=
    { desk.around with
      containers := desk.around.containers.modify place fun c =>
        { c with listeners := c.listeners ++ Container.watching desk.engine.number } }

open Engine

variable {number count : Nat} {bound : Option Nat} {desk : Desk} {place : Nat}

/-- Building the index from the container that the engine reads brings it up to date, or shows that it cannot be. -/
theorem IsAttached.buildIndex (h : desk.IsAttached number count (some place)) {c : Container}
    (hc : desk.around.containers[place]? = some c) {graph : Snapshot}
    (hgraph : Snapshot.coerce (.mapping c.state) = .ok graph) :
    IsDone (some place) () (runAt (Engine.buildIndex graph.nodes graph.edges) desk).1
        (runAt (Engine.buildIndex graph.nodes graph.edges) desk).2 ∧
      (runAt (Engine.buildIndex graph.nodes graph.edges) desk).2.IsBound number count (some place) := by
  by_cases htexts : graph.HasTexts
  · rw [runAt_buildIndex_of_hasTexts htexts]
    refine ⟨Or.inl rfl, ⟨h.engineNumber, h.accepted, h.containerCount, h.containers, h.subscriptions, h.source⟩, ?_⟩
    rintro _ ⟨⟩
    refine ⟨c, hc, fun index hindex => ⟨?_, Coherent.of_entries_eq_nil (ResultCache.clear_entries _)⟩⟩
    exact Except.ok.inj ((Fields.freshIndex_of_hasTexts hgraph htexts).symm.trans hindex)
  · have hnone : ∀ index, c.state.freshIndex ≠ .ok index := by
      intro index hindex
      obtain ⟨graph', hgraph', htexts', -⟩ := Fields.exists_of_freshIndex_eq_ok hindex
      cases hgraph.symm.trans hgraph'
      exact htexts htexts'
    rw [runAt_buildIndex_of_not_hasTexts htexts]
    refine ⟨Or.inr ⟨rfl, place, rfl, c, hc, hnone⟩,
      ⟨h.engineNumber, h.accepted, h.containerCount, h.containers, h.subscriptions, h.source⟩, ?_⟩
    rintro _ ⟨⟩
    exact ⟨c, hc, fun index hindex => absurd hindex (hnone index)⟩

namespace IsAttached

theorem unbind (h : desk.IsAttached number count bound) :
    (runAt Session.unbind desk).1 = .ok () ∧ (runAt Session.unbind desk).2.IsAttached number count none := by
  refine ⟨rfl, ?_⟩
  have hafter : (runAt Session.unbind desk).2 =
      ⟨{ desk.engine with subscriptions := [] },
        { desk.around with containers :=
            desk.engine.subscriptions.foldl (Session.unsubscribe desk.engine.number) desk.around.containers }⟩ := rfl
  rw [hafter, h.subscriptions, h.engineNumber]
  cases bound with
  | none =>
      exact { h with subscriptions := rfl, source := nofun }
  | some bound =>
      dsimp only [Option.elim]
      rw [Container.foldl_unsubscribe]
      refine ⟨h.engineNumber, h.accepted, (List.length_modify ..).trans h.containerCount, ?_, rfl, nofun⟩
      refine Container.forall_modify h.containers ?_ ?_
      · intro c hc
        simp only [decide_true] at hc
        simpa using hc.release
      · intro i c hi hc
        simpa [Ne.symm hi] using hc

/-- The registrations are kept, since they can be taken back. -/
theorem runAt_bind_eq (h : desk.IsAttached number count bound) (hplace : place < count) :
    runAt (Session.bind place) desk = runAt updateIndex ((runAt Session.unbind desk).2.registered place) := by
  obtain ⟨hdone, hfree⟩ := h.unbind
  rw [Session.bind, Engine.runAt_bind]
  rcases hrun : runAt Session.unbind desk with ⟨answer, free⟩
  rw [hrun] at hdone hfree
  obtain ⟨c, hc⟩ : ∃ c : Container, free.around.containers[place]? = some c :=
    ⟨_, List.getElem?_eq_getElem (hfree.containerCount ▸ hplace)⟩
  have hkept : (free.around.containers[place]?.any (·.unsubscribable)) = true := by
    rw [hc]
    exact (hfree.containers place c hc).unsubscribable
  dsimp only at hdone
  subst hdone
  show runAt updateIndex
    ⟨{ free.engine with
        source := .container place
        subscriptions :=
          if free.around.containers[place]?.any (·.unsubscribable) then
            Session.watchedKeys.map (Subscription.mk place)
          else [] },
      (free.registered place).around⟩ = _
  rw [hkept]
  rfl

theorem registered (h : desk.IsAttached number count none) :
    (desk.registered place).IsAttached number count (some place) := by
  refine ⟨h.engineNumber, h.accepted, (List.length_modify ..).trans h.containerCount, ?_, rfl, ?_⟩
  · rw [Desk.registered, h.engineNumber]
    refine Container.forall_modify h.containers ?_ ?_
    · intro c hc
      simpa using hc.register
    · intro i c hi hc
      simpa [Ne.symm hi] using hc
  · rintro _ ⟨⟩
    rfl

/-- The engine reads the container after it has registered, so nothing can change in between unnoticed. -/
theorem bind (h : desk.IsAttached number count bound) (hplace : place < count) :
    IsDone (some place) () (runAt (Session.bind place) desk).1 (runAt (Session.bind place) desk).2 ∧
      (runAt (Session.bind place) desk).2.IsBound number count (some place) := by
  have hattached : ((runAt Session.unbind desk).2.registered place).IsAttached number count (some place) :=
    h.unbind.2.registered
  obtain ⟨c, hc⟩ : ∃ c : Container, ((runAt Session.unbind desk).2.registered place).around.containers[place]? =
      some c := ⟨_, List.getElem?_eq_getElem (hattached.containerCount ▸ hplace)⟩
  obtain ⟨graph, hgraph⟩ := (hattached.containers place c hc).holdsGraph
  rw [h.runAt_bind_eq hplace, runAt_updateIndex_of_ok ((snapshot_of_container rfl hc).trans hgraph)]
  exact hattached.buildIndex hc hgraph

end IsAttached
end Desk

/-! ## Changes -/

namespace Desk

/-- The desk after a container has been given a value for a key. -/
def holding (desk : Desk) (place : Nat) (key : String) (value : Value) : Desk :=
  { desk with
    around :=
      { desk.around with
        containers := desk.around.containers.modify place fun c =>
          { c with state := Fields.insert c.state key value } } }

open Engine

variable {number count : Nat} {bound : Option Nat} {desk : Desk} {place : Nat} {key : String} {value : Value}

theorem IsAttached.holding (h : desk.IsAttached number count bound) (hvalid : Fields.IsValidAt key value) :
    (desk.holding place key value).IsAttached number count bound where
  engineNumber := h.engineNumber
  accepted := h.accepted
  containerCount := (List.length_modify ..).trans h.containerCount
  containers := Container.forall_modify h.containers (fun _ hc => hc.change hvalid) (fun _ _ _ hc => hc)
  subscriptions := h.subscriptions
  source := h.source

namespace IsBound

/-- A change of another container, or of what is not watched, does not matter to the index. -/
theorem holding_of_unwatched (h : desk.IsBound number count bound) (hvalid : Fields.IsValidAt key value)
    (hother : ¬(bound = some place ∧ key ∈ Session.watchedKeys)) :
    (desk.holding place key value).IsBound number count bound := by
  refine ⟨h.toIsAttached.holding hvalid, ?_⟩
  intro i hi
  obtain ⟨c, hc, hcurrent⟩ := h.current i hi
  -- If it is the container that the engine reads, then the key is not watched.
  by_cases hplace : place = i
  · subst hplace
    refine ⟨_, (List.getElem?_modify_eq ..).trans (congrArg _ hc), fun index hindex => hcurrent index ?_⟩
    exact (Fields.freshIndex_insert (fun hkey => hother ⟨hi, hkey⟩) value).symm.trans hindex
  · exact ⟨c, (List.getElem?_modify_ne _ _ hplace).trans hc, hcurrent⟩

/-- A change is made before the listeners of the key are called. -/
theorem runAt_change {session : Session} {c : Container}
    (hc : (session.desk.holding place key value).around.containers[place]? = some c) :
    Session.runAt (Session.change place key value) session =
      Session.runAt ((c.listeners.filter (·.key = key)).forM Session.notify)
        { session with desk := session.desk.holding place key value } := by
  rw [Session.change, Session.runAt_bind, Session.runAt_withEngine]
  show Session.runAt (get >>= _) { session with desk := session.desk.holding place key value } = _
  rw [Session.runAt_get_bind, hc]

/-- A change reaches the index if the engine is bound to the container and watches the key. -/
theorem change {session : Session} (hretired : session.retired = []) (h : session.desk.IsBound number count bound)
    (hplace : place < count) (hvalid : Fields.IsValidAt key value) :
    ∃ answer after,
      Session.runAt (Session.change place key value) session = (answer, { session with desk := after }) ∧
        IsDone bound () answer after ∧ after.IsBound number count bound := by
  let desk := session.desk.holding place key value
  have hattached : desk.IsAttached number count bound := h.toIsAttached.holding hvalid
  obtain ⟨c, hc⟩ : ∃ c : Container, desk.around.containers[place]? = some c :=
    ⟨_, List.getElem?_eq_getElem (hattached.containerCount ▸ hplace)⟩
  have hserves := hattached.containers place c hc
  have hcount := hserves.countP key
  rw [← hattached.engineNumber] at hcount
  rw [runAt_change hc]
  by_cases hwatched : bound = some place ∧ key ∈ Session.watchedKeys
  -- Whoever is registered reads this container, so the graph is there when the index is rebuilt.
  · obtain ⟨rfl, hkey⟩ := hwatched
    rw [if_pos ⟨by simp, hkey⟩] at hcount
    obtain ⟨graph, hgraph⟩ := hserves.holdsGraph
    have hsnapshot : desk.snapshot = .ok graph :=
      (snapshot_of_container (hattached.source place rfl) hc).trans hgraph
    have hrun := @Session.runAt_forM_notify_of_countP_eq_one { session with desk } graph hretired hsnapshot _ hcount
    refine ⟨_, _, hrun, hattached.buildIndex hc hgraph⟩
  · rw [if_neg (by simpa using hwatched)] at hcount
    have hrun := @Session.runAt_forM_notify_of_countP_eq_zero { session with desk } hretired _ hcount
    exact ⟨_, _, hrun, Or.inl rfl, h.holding_of_unwatched hvalid hwatched⟩

/-- What searches leave as it is says all about being bound. -/
theorem congr (h : desk.IsBound number count bound) {other : Desk} (hsame : desk.ReadsAs other) :
    other.IsBound number count bound where
  engineNumber := hsame.number.trans h.engineNumber
  accepted := by
    rw [hsame.config]
    exact h.accepted
  containerCount := by
    rw [hsame.containers]
    exact h.containerCount
  containers := by
    rw [hsame.containers]
    exact h.containers
  subscriptions := hsame.subscriptions.trans h.subscriptions
  source := fun place hplace => hsame.source.trans (h.source place hplace)
  current := by
    rw [hsame.containers, hsame.index]
    intro place hplace
    obtain ⟨c, hc, hcurrent⟩ := h.current place hplace
    exact ⟨c, hc, fun index hindex => (hcurrent index hindex).imp_right hsame.coherent⟩

end IsBound
end Desk

/-! ## Runs -/

open Engine

variable {number count : Nat} {bound : Option Nat}

namespace Session

/-- What happens to an engine, and to the containers that it may be bound to. -/
inductive Step where
  | bind (place : Nat)
  | unbind
  | change (place : Nat) (key : String) (value : Value)
  | search (call : SearchCall)
  | look (lookup : Lookup)
  | keep (call : StoreCall)

namespace Step

/-- The operation that a step runs. -/
def perform : Step → SessionM Answer
  | bind place => do
    withEngine (Session.bind place)
    return .nothing
  | unbind => do
    withEngine Session.unbind
    return .nothing
  | change place key value => do
    Session.change place key value
    return .nothing
  | search call => withEngine (call.perform Engine.quickSearch)
  | look lookup => withEngine lookup.perform
  | keep call => withEngine call.perform

end Step

/-- The session after a step, whether it has failed or not. -/
def afterStep (session : Session) (step : Step) : Session := (runAt step.perform session).2

def afterSteps (session : Session) (steps : List Step) : Session := steps.foldl afterStep session

variable {session : Session} {step : Step}

end Session

/-! ## New engines -/

namespace Engine

end Engine

namespace Session

end Session
end GraphQuery
