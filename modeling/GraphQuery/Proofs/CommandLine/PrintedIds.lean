import GraphQuery.CommandLine.Run
import GraphQuery.Proofs.Engine.StoredSets
import GraphQuery.Proofs.Graph.LoadedTexts
import GraphQuery.Proofs.Text.Integer

/-!
# Printed ids — nodes named on the command line by the text of their ids

A word that is handed to a command for a node stands for an integer if it can be read as one, and else for itself.
So the text of an id stands for the id, unless the id is a text that is read as an integer: such a node cannot be
named (`Workplace.printedIds_address`, `Workplace.neighbors_misses_text`).  This is so however the words of the command
line are read, as long as they hand the text of the id to the command.
-/

namespace GraphQuery

/-! ## Ids as words -/

namespace EntityId

/-- Whether an id is not a text that is read as an integer. -/
def IsUnmistakable (id : EntityId) : Prop := ∀ s, id = .text s → ¬ Text.IsIntegerText s

end EntityId

/-- The text of an id that has one stands for the id exactly if it is not taken for another. -/
theorem Console.idOfWord_display_iff {id : EntityId} (htext : id.toValue.HasText) :
    idOfWord id.display = id ↔ id.IsUnmistakable := by
  cases id with
  | int n =>
      have hread : Text.integer? (EntityId.int n).display = some n :=
        Text.integer?_intText (Value.hasText_int.1 htext)
      simp [idOfWord, hread, EntityId.IsUnmistakable]
  | text s =>
      show idOfWord s = .text s ↔ _
      rw [idOfWord]
      cases hread : Text.integer? s with
      | none =>
          have hnot : ¬ Text.IsIntegerText s := by
            rw [← Text.isSome_integer?_iff, hread]
            exact Bool.false_ne_true
          simp [EntityId.IsUnmistakable, hnot]
      | some n =>
          have hinteger : Text.IsIntegerText s := Text.isSome_integer?_iff.1 (by rw [hread]; rfl)
          simp [EntityId.IsUnmistakable, hinteger]

/-! ## Runs -/

namespace Console

/-- What is printed for lines. -/
def linesText (lines : List String) : String :=
  String.join (lines.map fun line => Text.withoutControls line ++ "\n")

/-- The lines for nodes that have been found. -/
def neighborLines (found : List Node) : List String :=
  if found.isEmpty then ["No connected nodes."] else found.map nodeLine

/-- The line for a path that has been looked for. -/
def pathLines (limit : Int) : Option (List EntityId) → List String
  | some ids => [pathLine ids]
  | none => ["No path within " ++ Number.intText limit ++ " hops."]

theorem run_forM_printLine (lines : List String) (console : Console) :
    (lines.forM printLine).run.run console =
      (.ok (), { console with printed := (lines.map Text.withoutControls).reverse ++ console.printed }) := by
  induction lines generalizing console with
  | nil =>
      rfl
  | cons line rest ih =>
      show (rest.forM printLine).run.run { console with printed := Text.withoutControls line :: console.printed } = _
      rw [ih]
      simp

theorem output_run_forM_printLine (lines : List String) (work : Workplace) (desk : Desk) :
    output ((lines.forM printLine).run.run ⟨work, desk, []⟩).2 = linesText lines := by
  rw [run_forM_printLine]
  simp [output, linesText, Function.comp_def]

variable {work : Workplace} {desk : Desk} {graph : Snapshot}

/-- The state of a console after a step, and the answer to go on with. -/
theorem run_bind {α β : Type} {x : ConsoleM α} {f : α → ConsoleM β} {console after : Console} {a : α}
    (h : x.run.run console = (.ok a, after)) : (x >>= f).run.run console = (f a).run.run after := by
  simp only [ExceptT.run_bind, StateT.run_bind, h]
  rfl

theorem run_ask {α : Type} {action : EngineM α} {answer : α} {after : Desk} {printed : List String}
    (h : Engine.runAt action desk = (.ok answer, after)) :
    (ask action).run.run ⟨work, desk, printed⟩ = (.ok answer, ⟨work, after, printed⟩) := by
  show (ofOutcome (Engine.runAt action desk).1).run.run ⟨work, (Engine.runAt action desk).2, printed⟩ = _
  rw [h]
  rfl

/-- A question about the graph is answered from the graph of the engine, and changes nothing. -/
theorem runAt_snapshot_bind {α : Type} (hgraph : desk.snapshot = .ok graph) (f : Snapshot → EngineM α) :
    Engine.runAt (Engine.snapshot >>= f) desk = Engine.runAt (f graph) desk := by
  have hread : Engine.runAt Engine.snapshot desk = (desk.snapshot, desk) := rfl
  rw [Engine.runAt_bind, hread, hgraph]

theorem run_neighbors (hgraph : desk.snapshot = .ok graph) (id : String) (limit : DepthLimit) (side : Direction) :
    (run (.neighbors id limit side)).run.run ⟨work, desk, []⟩ =
      ((neighborLines (connectedNodes graph side limit (idOfWord id))).forM printLine).run.run ⟨work, desk, []⟩ := by
  have hconnected : Engine.runAt (Engine.connected (idOfWord id) limit side) desk =
      (.ok (connectedNodes graph side limit (idOfWord id)), desk) := runAt_snapshot_bind hgraph _
  rw [run, run_bind (run_ask hconnected), neighborLines]
  split_ifs with hnone
  · rfl
  · have hlines : (connectedNodes graph side limit (idOfWord id)).forM (fun n => printLine (nodeLine n)) =
        ((connectedNodes graph side limit (idOfWord id)).map nodeLine).forM printLine := List.forM_map.symm
    rw [hlines]

theorem run_path (hgraph : desk.snapshot = .ok graph) (source target : String) (limit : Int) :
    (run (.path source target limit)).run.run ⟨work, desk, []⟩ =
      ((pathLines limit (shortestPath graph.edges (.ofInt limit) (idOfWord source) (idOfWord target))).forM
        printLine).run.run ⟨work, desk, []⟩ := by
  have hpath : Engine.runAt (Engine.path (idOfWord source) (idOfWord target) (some (.ofInt limit))) desk =
      (.ok (shortestPath graph.edges (.ofInt limit) (idOfWord source) (idOfWord target)), desk) :=
    runAt_snapshot_bind hgraph _
  rw [run, run_bind (run_ask hpath)]
  cases shortestPath graph.edges (.ofInt limit) (idOfWord source) (idOfWord target) <;> rfl

end Console

/-! ## Command lines -/

namespace Workplace

variable {work : Workplace} {graph : String} {store : Option String} {content : Snapshot}

/-- Whether a file holds a graph, and an engine can be started on it with a store. -/
structure OpensOn (work : Workplace) (graph : String) (store : Option String) (content : Snapshot) : Prop where
  leads : work.files.leadsSomewhere (work.files.followPath graph) = true
  holds : work.files.loadGraph graph none = .ok content
  starts : ∃ desk, (work.openDesk graph store).2 = .ok desk

theorem OpensOn.exists_openDesk (h : work.OpensOn graph store content) :
    ∃ opened desk, work.openDesk graph store = (opened, .ok desk) ∧ desk.snapshot = .ok content := by
  obtain ⟨desk, hdesk⟩ := h.starts
  refine ⟨_, desk, Prod.ext rfl hdesk, ?_⟩
  rw [openDesk, h.holds] at hdesk
  obtain ⟨held, -, hdesk⟩ := Outcome.exists_of_bind_eq_ok hdesk
  obtain ⟨config, -, hdesk⟩ := Outcome.exists_of_bind_eq_ok hdesk
  obtain ⟨history, read, -, hread, -, rfl⟩ := Engine.exists_of_openDesk hdesk
  cases hread
  rfl

/-- Whether words are read as a command on a graph and a store, whichever paths lead to something. -/
def Asks (read : (String → Bool) → List String → Except UsageFault Invocation) (words : List String)
    (invocation : Invocation) : Prop :=
  ∀ isThere, read isThere words = .ok invocation

variable {read : (String → Bool) → List String → Except UsageFault Invocation} {words : List String}

/-- The report of a command that asks the graph and prints lines. -/
theorem report_runWords (h : work.OpensOn graph store content) {command : Command} {lines : List String}
    (hread : Asks read words ⟨graph, store, command⟩)
    (hasks : work.runInvocation ⟨graph, store, command⟩ = work.runWithEngine ⟨graph, store, command⟩)
    (hrun : ∀ {work : Workplace} {desk : Desk}, desk.snapshot = .ok content →
      (Console.run command).run.run ⟨work, desk, []⟩ = (lines.forM Console.printLine).run.run ⟨work, desk, []⟩) :
    (work.runWords words read).report = ⟨Console.linesText lines, none⟩ := by
  obtain ⟨opened, desk, hopen, hgraph⟩ := h.exists_openDesk
  have hprinted := Console.output_run_forM_printLine lines opened desk
  rw [runWords, hread]
  show (work.runInvocation _).report = _
  rw [hasks, runWithEngine, h.leads, hopen]
  simp only [Bool.not_true, Bool.false_eq_true, if_false, hrun hgraph, Console.run_forM_printLine] at hprinted ⊢
  rw [hprinted]

theorem report_neighbors (h : work.OpensOn graph store content) {id : String} {limit : DepthLimit} {side : Direction}
    (hread : Asks read words ⟨graph, store, .neighbors id limit side⟩) :
    (work.runWords words read).report =
      ⟨Console.linesText (Console.neighborLines (connectedNodes content side limit (Console.idOfWord id))), none⟩ :=
  report_runWords h hread rfl fun hgraph => Console.run_neighbors hgraph id limit side

theorem report_path (h : work.OpensOn graph store content) {source target : String} {steps : Int}
    (hread : Asks read words ⟨graph, store, .path source target steps⟩) :
    (work.runWords words read).report =
      ⟨Console.linesText (Console.pathLines steps (shortestPath content.edges (.ofInt steps)
        (Console.idOfWord source) (Console.idOfWord target))), none⟩ :=
  report_runWords h hread rfl fun hgraph => Console.run_path hgraph source target steps

/-- What naming nodes by the texts of their ids gives, however the words of the command line are read. -/
structure AddressesNodes (work : Workplace) (graph : String) (store : Option String) (content : Snapshot) : Prop where
  reads : ∀ id ∈ content.nodeIds, Console.idOfWord id.display = id ↔ id.IsUnmistakable
  neighbors : ∀ id ∈ content.nodeIds, id.IsUnmistakable → ∀ read words limit side,
    Asks read words ⟨graph, store, .neighbors id.display limit side⟩ →
      (work.runWords words read).report =
        ⟨Console.linesText (Console.neighborLines (connectedNodes content side limit id)), none⟩
  path : ∀ source ∈ content.nodeIds, source.IsUnmistakable → ∀ target ∈ content.nodeIds, target.IsUnmistakable →
    ∀ read words steps, Asks read words ⟨graph, store, .path source.display target.display steps⟩ →
      (work.runWords words read).report =
        ⟨Console.linesText (Console.pathLines steps (shortestPath content.edges (.ofInt steps) source target)), none⟩

/-- Nodes are named by the texts of their ids.  A node's text stands for its id exactly if the id is not a text that is
read as an integer; for such ids the lines of `neighbors` are those of the nodes connected to the id, and the line of
`path` is that of a path between the ids, if there is one. -/
theorem printedIds_address (h : work.OpensOn graph store content) : work.AddressesNodes graph store content := by
  -- The ids of a graph in a file have texts, and where an integer has one it is read back from it.
  have hreads : ∀ id ∈ content.nodeIds, Console.idOfWord id.display = id ↔ id.IsUnmistakable := by
    obtain ⟨place, -, hload⟩ := Outcome.exists_of_bind_eq_ok h.holds
    obtain ⟨text, -, htext⟩ := Outcome.exists_of_bind_eq_ok hload
    refine List.forall_mem_map.2 fun n hn => Console.idOfWord_display_iff ?_
    have hentity : Entity.node n ∈ content.entities := List.mem_append_left _ (List.mem_map_of_mem hn)
    exact (Entity.hasText_iff.1 (Snapshot.hasTexts_of_ofText htext _ hentity)).1
  refine ⟨hreads, ?_, ?_⟩
  · intro id hid hplain read words limit side hwords
    have hreport := report_neighbors h hwords
    rwa [(hreads id hid).2 hplain] at hreport
  · intro source hsource hplain target htarget hplain' read words steps hwords
    have hreport := report_path h hwords
    rwa [(hreads source hsource).2 hplain, (hreads target htarget).2 hplain'] at hreport

/-! ### A node with a number for a name -/

/-- A place with a text in the standard file for graphs. -/
def withGraph (text : String) : Workplace :=
  ⟨⟨["work"], [(["work", "graph.json"], .text text)], []⟩, [], ⟨⟨2024, 1, 2⟩, 12, 0, 0, 0, some 0⟩⟩

theorem within?_standardGraph : Location.within? ["work"] none standardGraph = .ok ["work", "graph.json"] := by
  rfl

theorem loadGraph_withGraph (text : String) :
    (withGraph text).files.loadGraph standardGraph none =
      Snapshot.ofText (String.ofList (FileTree.unifiedLines text.toList)) := by
  have hread : (withGraph text).files.readResolved ["work", "graph.json"] =
      .ok (String.ofList (FileTree.unifiedLines text.toList)) := rfl
  have hcurrent : (withGraph text).files.current = ["work"] := rfl
  rw [FileTree.loadGraph, hcurrent, within?_standardGraph]
  simp only [bind, Except.bind, hread]

/-- A graph that is read from the standard file can be asked without a store. -/
theorem opensOn_withGraph {text : String} (hlines : FileTree.unifiedLines text.toList = text.toList)
    (hread : Snapshot.ofText text = .ok content) : (withGraph text).OpensOn standardGraph none content := by
  have hload : (withGraph text).files.loadGraph standardGraph none = .ok content := by
    rw [loadGraph_withGraph, hlines, String.ofList_toList, hread]
  refine ⟨rfl, hload, ?_⟩
  obtain ⟨desk, hdesk⟩ : ∃ desk, Engine.openDesk 0 {} .owned content ⟨(withGraph text).now, none, .null, [], .usual⟩ =
      .ok desk :=
    ⟨_, Engine.openDesk_eq_ok rfl (FilterShelf.runAt_load_of_none rfl _) rfl (Snapshot.hasTexts_of_ofText hread)⟩
  refine ⟨desk, ?_⟩
  show (openDesk _ standardGraph none).2 = _
  rw [openDesk, hload]
  exact hdesk

/-- A node below zero and a node with a number for a name, each of which leads to a third node. -/
def oddNames : String :=
  "\x7b\"nodes\": [\x7b\"id\": -5\x7d, \x7b\"id\": \"1\"\x7d, \x7b\"id\": \"b\"\x7d], " ++
    "\"edges\": [\x7b\"id\": \"e\", \"source\": -5, \"target\": \"b\"\x7d, " ++
    "\x7b\"id\": \"f\", \"source\": \"1\", \"target\": \"b\"\x7d]\x7d"

/-- The graph that this text describes. -/
def oddNamesGraph : Snapshot :=
  let node (id : EntityId) : Node := ⟨id, none, none, [], [], ["id"]⟩
  let edge (id : String) (source : EntityId) : Edge :=
    ⟨.text id, source, .text "b", none, none, [], [], ["id", "source", "target"]⟩
  ⟨[node (.int (-5)), node (.text "1"), node (.text "b")], [edge "e" (.int (-5)), edge "f" (.text "1")]⟩

/-- The document of this text. -/
def oddNamesDocument : Value :=
  .mapping
    [("nodes", .list [.mapping [("id", .int (-5))], .mapping [("id", .text "1")], .mapping [("id", .text "b")]]),
      ("edges", .list [.mapping [("id", .text "e"), ("source", .int (-5)), ("target", .text "b")],
        .mapping [("id", .text "f"), ("source", .text "1"), ("target", .text "b")]])]

theorem isJson_oddNamesDocument : oddNamesDocument.IsJson := by
  have hnode : ∀ {v : Value}, v.IsJson → (Value.mapping [("id", v)]).IsJson := by
    intro v hv
    exact .mapping (List.nodup_singleton _) (List.forall_mem_singleton.2 hv)
  have hedge : ∀ {id source target : Value}, id.IsJson → source.IsJson → target.IsJson →
      (Value.mapping [("id", id), ("source", source), ("target", target)]).IsJson := by
    intro id source target hid hsource htarget
    exact .mapping (show ["id", "source", "target"].Nodup by decide)
      (List.forall_mem_cons.2 ⟨hid, List.forall_mem_cons.2 ⟨hsource, List.forall_mem_singleton.2 htarget⟩⟩)
  refine .mapping (show ["nodes", "edges"].Nodup by decide) (List.forall_mem_cons.2 ⟨.list ?_, ?_⟩)
  · exact List.forall_mem_cons.2 ⟨hnode (.int _), List.forall_mem_cons.2 ⟨hnode (.text _),
      List.forall_mem_singleton.2 (hnode (.text _))⟩⟩
  · refine List.forall_mem_singleton.2 (.list (List.forall_mem_cons.2 ⟨hedge (.text _) (.int _) (.text _), ?_⟩))
    exact List.forall_mem_singleton.2 (hedge (.text _) (.text _) (.text _))

theorem ofText_oddNames : Snapshot.ofText oddNames = .ok oddNamesGraph := by
  have hwrite : Json.write .line oddNamesDocument = .ok oddNames := by
    decide +kernel
  have hparse := Json.parse_write isJson_oddNamesDocument hwrite
  rw [Snapshot.ofText, hparse]
  rfl

theorem opensOn_oddNames : (withGraph oddNames).OpensOn standardGraph none oddNamesGraph :=
  opensOn_withGraph (by decide +kernel) ofText_oddNames

/-- The node below zero is named after two dashes. -/
theorem printedIds_address_belowZero :
    (withGraph oddNames).OpensOn standardGraph none oddNamesGraph ∧
      ((withGraph oddNames).runWords ["neighbors", "--", "-5"]).report = ⟨"  b  type=None  label=None\n", none⟩ ∧
      ((withGraph oddNames).runWords ["path", "--", "-5", "b"]).report = ⟨"-5 -> b\n", none⟩ := by
  have haddress := printedIds_address opensOn_oddNames
  have hplain : (EntityId.int (-5)).IsUnmistakable := by
    rintro s ⟨⟩
  have hplain' : (EntityId.text "b").IsUnmistakable := by
    rintro s ⟨⟩
    rw [← Text.isSome_integer?_iff]
    decide +kernel
  have hneighbors := haddress.neighbors (.int (-5)) (by decide) hplain Invocation.read ["neighbors", "--", "-5"]
    (.ofNat 1) .both fun _ => rfl
  have hpath := haddress.path (.int (-5)) (by decide) hplain (.text "b") (by decide) hplain' Invocation.read
    ["path", "--", "-5", "b"] 10 fun _ => rfl
  exact ⟨opensOn_oddNames, hneighbors.trans (congrArg (Report.mk · none) (by decide +kernel)),
    hpath.trans (congrArg (Report.mk · none) (by decide +kernel))⟩

/-- A node with a number for a name is not named by it. -/
theorem neighbors_misses_text :
    (withGraph oddNames).OpensOn standardGraph none oddNamesGraph ∧
      EntityId.text "1" ∈ oddNamesGraph.nodeIds ∧
      Console.idOfWord (EntityId.text "1").display = .int 1 ∧
      (connectedNodes oddNamesGraph .both (.ofNat 1) (.text "1")).map (·.id) = [.text "b"] ∧
      ((withGraph oddNames).runWords ["neighbors", "1"]).report = ⟨"No connected nodes.\n", none⟩ := by
  have hread : Console.idOfWord (EntityId.text "1").display = .int 1 := by
    decide +kernel
  have hasked : Asks Invocation.read ["neighbors", "1"] ⟨standardGraph, none, .neighbors "1" (.ofNat 1) .both⟩ :=
    fun _ => rfl
  have hneighbors := report_neighbors opensOn_oddNames hasked
  exact ⟨opensOn_oddNames, by decide, hread, by decide +kernel,
    hneighbors.trans (congrArg (Report.mk · none) (by decide +kernel))⟩

end Workplace
end GraphQuery
