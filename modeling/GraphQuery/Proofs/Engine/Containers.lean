import GraphQuery.Proofs.Engine.StoredSets
import GraphQuery.Proofs.Relation
import GraphQuery.Proofs.Value.Fields

/-!
# Containers — what changes of a container lead to

A container holds nodes and edges, and calls those who have registered for a key whenever the key changes:

- nodes and edges are valid each for itself, so a change keeps a container valid if the new value is
  (`Fields.HoldsGraph.insert`), and what is not watched does not matter to the index (`Fields.freshIndex_insert`);
- an engine listens to a container fully or not at all (`Container.Serves`), and registering and letting go lead from
  one to the other;
- calling listeners builds the index if one of them is the engine's own (`Session.runAt_forM_notify_of_countP_eq_one`).
-/

namespace GraphQuery

/-! ## Graphs -/

namespace Fields

/-- Whether a mapping holds valid nodes and edges only. -/
def HoldsGraph (state : Fields) : Prop := ∃ graph, Snapshot.coerce (.mapping state) = .ok graph

/-- The index that is built from what a mapping holds, if it can be completed. -/
def freshIndex (state : Fields) : Outcome SearchIndex := do
  let graph ← Snapshot.coerce (.mapping state)
  let (index, built) := SearchIndex.rebuild graph.nodes graph.edges
  built.map fun _ => index

theorem freshIndex_of_hasTexts {state : Fields} {graph : Snapshot}
    (hgraph : Snapshot.coerce (.mapping state) = .ok graph) (htexts : graph.HasTexts) :
    state.freshIndex = .ok (.ofSnapshot graph) := by
  rw [freshIndex, hgraph]
  simp only [bind, Except.bind]
  rw [SearchIndex.rebuild_of_hasTexts htexts]
  rfl

theorem exists_of_freshIndex_eq_ok {state : Fields} {index : SearchIndex} (h : state.freshIndex = .ok index) :
    ∃ graph, Snapshot.coerce (.mapping state) = .ok graph ∧ graph.HasTexts ∧ index = .ofSnapshot graph := by
  obtain ⟨graph, hgraph, hbuilt⟩ := Outcome.exists_of_bind_eq_ok h
  refine ⟨graph, hgraph, ?_⟩
  by_cases htexts : graph.HasTexts
  · rw [SearchIndex.rebuild_of_hasTexts htexts] at hbuilt
    exact ⟨htexts, (Except.ok.inj hbuilt).symm⟩
  · obtain ⟨_, hdone, -⟩ := Outcome.exists_of_map_eq_ok hbuilt
    cases hdone.symm.trans (SearchIndex.rebuild_of_not_hasTexts htexts)

/-- Whether a value has valid items, if it is to be the nodes or the edges of a graph. -/
structure IsValidAt (key : String) (value : Value) : Prop where
  nodes : key = "nodes" → ∃ nodes, Check.list Check.node (Snapshot.orEmpty value) = .ok nodes
  edges : key = "edges" → ∃ edges, Check.list Check.edge (Snapshot.orEmpty value) = .ok edges

/-- Nodes and edges are valid each for itself. -/
theorem holdsGraph_iff {state : Fields} :
    state.HoldsGraph ↔
      (∃ nodes, Check.list Check.node (Snapshot.orEmpty (getD state "nodes")) = .ok nodes) ∧
        ∃ edges, Check.list Check.edge (Snapshot.orEmpty (getD state "edges")) = .ok edges := by
  rw [HoldsGraph, Snapshot.coerce, Check.snapshot]
  cases Check.list Check.node (Snapshot.orEmpty (getD state "nodes")) with
  | error faults =>
      cases Check.list Check.edge (Snapshot.orEmpty (getD state "edges")) <;>
        simp [Checked.under, Checked.toOutcome]
  | ok nodes =>
      cases Check.list Check.edge (Snapshot.orEmpty (getD state "edges")) <;>
        simp [Checked.under, Checked.toOutcome]

theorem HoldsGraph.insert {state : Fields} (h : state.HoldsGraph) {key : String} {value : Value}
    (hvalid : IsValidAt key value) : (insert state key value).HoldsGraph := by
  obtain ⟨hnodes, hedges⟩ := holdsGraph_iff.1 h
  refine holdsGraph_iff.2 ⟨?_, ?_⟩
  · rw [getD_insert]
    split
    · next hkey => exact hvalid.nodes hkey
    · exact hnodes
  · rw [getD_insert]
    split
    · next hkey => exact hvalid.edges hkey
    · exact hedges

/-- What is not watched does not matter to the graph. -/
theorem freshIndex_insert {state : Fields} {key : String} (hkey : key ∉ Session.watchedKeys) (value : Value) :
    (insert state key value).freshIndex = state.freshIndex := by
  have hnodes : key ≠ "nodes" := by
    rintro rfl
    exact hkey (by decide)
  have hedges : key ≠ "edges" := by
    rintro rfl
    exact hkey (by decide)
  rw [freshIndex, freshIndex, Snapshot.coerce, Snapshot.coerce, getD_insert, getD_insert, if_neg hnodes,
    if_neg hedges]

end Fields

/-! ## Registrations -/

namespace Container

/-- The registrations that an engine has with a container. -/
def listenersOf (c : Container) (engine : Nat) : List Listener := c.listeners.filter (·.engine = engine)

/-- One registration of an engine for each key that is watched. -/
def watching (engine : Nat) : List Listener := Session.watchedKeys.map (Listener.mk engine)

/-- A container with a valid graph that lets go of registrations; an engine listens to it fully or not at all. -/
structure Serves (engine : Nat) (listened : Bool) (c : Container) : Prop where
  unsubscribable : c.unsubscribable = true
  holdsGraph : c.state.HoldsGraph
  listeners : c.listenersOf engine = if listened then watching engine else []

variable {engine : Nat} {listened : Bool} {c : Container}

theorem Serves.register (h : c.Serves engine false) :
    Serves engine true { c with listeners := c.listeners ++ watching engine } where
  unsubscribable := h.unsubscribable
  holdsGraph := h.holdsGraph
  listeners := by
    have hnone : c.listeners.filter (·.engine = engine) = [] := h.listeners
    rw [listenersOf, List.filter_append, hnone]
    simp [watching, Session.watchedKeys]

theorem Serves.release (h : c.Serves engine true) :
    Serves engine false { c with listeners := (watching engine).foldl List.erase c.listeners } where
  unsubscribable := h.unsubscribable
  holdsGraph := h.holdsGraph
  listeners := by
    have hall : c.listeners.filter (·.engine = engine) = watching engine := h.listeners
    calc ((watching engine).foldl List.erase c.listeners).filter (·.engine = engine)
      _ = (watching engine).foldl List.erase (c.listeners.filter (·.engine = engine)) :=
        (List.foldl_hom (List.filter fun l : Listener => l.engine = engine) fun _ _ => List.erase_filter).symm
      _ = [] := by
        rw [hall]
        simp [watching, Session.watchedKeys]

/-- Letting a container go takes back one registration for each key. -/
theorem foldl_unsubscribe (engine place : Nat) (containers : List Container) :
    (Session.watchedKeys.map (Subscription.mk place)).foldl (Session.unsubscribe engine) containers =
      containers.modify place fun c =>
        { c with listeners := (watching engine).foldl List.erase c.listeners } := by
  simp [Session.watchedKeys, Session.unsubscribe, watching, List.modify_modify_eq, Function.comp_def]

theorem Serves.change (h : c.Serves engine listened) {key : String} {value : Value}
    (hvalid : Fields.IsValidAt key value) :
    Serves engine listened { c with state := Fields.insert c.state key value } where
  unsubscribable := h.unsubscribable
  holdsGraph := h.holdsGraph.insert hvalid
  listeners := h.listeners

/-- How many registrations of an engine there are for a key. -/
theorem Serves.countP (h : c.Serves engine listened) (key : String) :
    (c.listeners.filter (·.key = key)).countP (·.engine = engine) =
      if listened ∧ key ∈ Session.watchedKeys then 1 else 0 := by
  -- The two filters may be exchanged, and of the engine's own registrations all is known.
  have hswap : (c.listeners.filter (·.key = key)).countP (·.engine = engine) =
      (c.listenersOf engine).countP (·.key = key) := by
    rw [listenersOf, List.countP_filter, List.countP_filter]
    exact List.countP_congr fun listener _ => by simp [and_comm]
  rw [hswap, h.listeners]
  cases listened with
  | false =>
      rfl
  | true =>
      have hkeys : (watching engine).countP (·.key = key) = Session.watchedKeys.count key := by
        rw [watching, List.countP_map, List.count]
        exact List.countP_congr fun name _ => by simp
      have hdistinct : Session.watchedKeys.Nodup := by decide
      simp [hkeys, hdistinct.count]

/-- What holds of all containers still holds after one of them has changed. -/
theorem forall_modify {P Q : Nat → Container → Prop} {containers : List Container} {place : Nat}
    {f : Container → Container} (h : ∀ i c, containers[i]? = some c → P i c) (hself : ∀ c, P place c → Q place (f c))
    (hother : ∀ i c, i ≠ place → P i c → Q i c) :
    ∀ i c, (containers.modify place f)[i]? = some c → Q i c := by
  intro i c hc
  by_cases hi : i = place
  · subst hi
    rw [List.getElem?_modify_eq] at hc
    obtain ⟨old, hold, rfl⟩ := Option.map_eq_some_iff.1 hc
    exact hself old (h i old hold)
  · rw [List.getElem?_modify_ne _ _ (Ne.symm hi)] at hc
    exact hother i c hi (h i c hc)

end Container

/-! ## Calls of listeners -/

namespace Session

open Engine hiding runAt

variable {α β : Type} {session : Session}

/-- The answer of an operation of a session, and the session that it leaves. -/
def runAt (action : SessionM α) (session : Session) : Outcome α × Session := action.run.run session

theorem runAt_withEngine (action : EngineM α) (session : Session) :
    runAt (withEngine action) session =
      ((Engine.runAt action session.desk).1, { session with desk := (Engine.runAt action session.desk).2 }) :=
  rfl

theorem runAt_bind (x : SessionM α) (f : α → SessionM β) (session : Session) :
    runAt (x >>= f) session =
      match runAt x session with
      | (.ok a, after) => runAt (f a) after
      | (.error e, after) => (.error e, after) := by
  rw [runAt, runAt, Relates.run_bind]
  rcases x.run.run session with ⟨answer, after⟩
  cases answer with
  | ok a =>
      rfl
  | error e =>
      rfl

/-- Looking at the session changes nothing. -/
theorem runAt_get_bind (f : Session → SessionM α) (session : Session) :
    runAt (get >>= f) session = runAt (f session) session :=
  rfl

variable {graph : Snapshot}

/-- A registration of the engine rebuilds the index. -/
theorem runAt_notify_own {listener : Listener} (hown : listener.engine = session.desk.engine.number)
    (hgraph : session.desk.snapshot = .ok graph) :
    runAt (notify listener) session = runAt (withEngine (buildIndex graph.nodes graph.edges)) session := by
  rw [notify]
  show runAt (if listener.engine = session.desk.engine.number then withEngine updateIndex else _) session = _
  rw [if_pos hown, runAt_withEngine, runAt_withEngine, runAt_updateIndex_of_ok hgraph]

/-- A registration of an engine that is not known does nothing. -/
theorem runAt_notify_other (hretired : session.retired = []) {listener : Listener}
    (hother : listener.engine ≠ session.desk.engine.number) : runAt (notify listener) session = (.ok (), session) := by
  rw [notify]
  show runAt (if listener.engine = session.desk.engine.number then withEngine updateIndex else _) session = _
  rw [if_neg hother, hretired]
  rfl

/-- Without a registration of the engine nothing happens. -/
theorem runAt_forM_notify_of_countP_eq_zero (hretired : session.retired = []) {listeners : List Listener}
    (hnone : listeners.countP (·.engine = session.desk.engine.number) = 0) :
    runAt (listeners.forM notify) session = (.ok (), session) := by
  induction listeners with
  | nil =>
      rfl
  | cons listener rest ih =>
      obtain ⟨hother, hrest⟩ := List.forall_mem_cons.1 (List.countP_eq_zero.1 hnone)
      show runAt (notify listener >>= fun _ => rest.forM notify) session = _
      rw [runAt_bind, runAt_notify_other hretired (by simpa using hother)]
      exact ih (List.countP_eq_zero.2 hrest)

/-- One registration of the engine rebuilds the index once.  If that fails, those after it are not called, which would
not do anything. -/
theorem runAt_forM_notify_of_countP_eq_one (hretired : session.retired = [])
    (hgraph : session.desk.snapshot = .ok graph) {listeners : List Listener}
    (hone : listeners.countP (·.engine = session.desk.engine.number) = 1) :
    runAt (listeners.forM notify) session = runAt (withEngine (buildIndex graph.nodes graph.edges)) session := by
  induction listeners with
  | nil =>
      cases hone
  | cons listener rest ih =>
      show runAt (notify listener >>= fun _ => rest.forM notify) session = _
      rw [runAt_bind]
      by_cases hown : listener.engine = session.desk.engine.number
      · rw [List.countP_cons_of_pos (by simpa using hown), Nat.add_eq_right] at hone
        rw [runAt_notify_own hown hgraph, runAt_withEngine]
        by_cases htexts : graph.HasTexts
        · rw [runAt_buildIndex_of_hasTexts htexts]
          exact @runAt_forM_notify_of_countP_eq_zero { session with desk := indexed session.desk graph } hretired _ hone
        · rw [runAt_buildIndex_of_not_hasTexts htexts]
      · rw [List.countP_cons_of_neg (by simpa using hown)] at hone
        rw [runAt_notify_other hretired hown]
        exact ih hone

end Session
end GraphQuery
