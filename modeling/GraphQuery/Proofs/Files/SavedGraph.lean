import GraphQuery.Files.GraphFile
import GraphQuery.Proofs.Files.Place
import GraphQuery.Proofs.Graph.Reread
import GraphQuery.Proofs.Json.LineEnds

/-!
# Saved graphs — loading undoes saving

A graph of finite JSON values has a file text exactly if its properties and attributes have plain forms and its
integers are short (`Snapshot.IsFiniteJson.exists_fileText_iff`), and the graph is read back from this text where there
is room for it (`Snapshot.IsFiniteJson.ofText_fileText`).  A path at which the empty graph can be saved takes each
graph with a text, and gives it back (`FileTree.loadGraph_undoes_saveGraph`).
-/

namespace GraphQuery

/-! ## Texts -/

namespace Snapshot

/-- Whether no integer in a graph, ids included, has more digits than are converted. -/
structure HasShortIntegers (graph : Snapshot) : Prop where
  nodes : ∀ n ∈ graph.nodes, (Value.mapping (Entity.node n).fields).HasShortIntegers
  edges : ∀ e ∈ graph.edges, (Value.mapping (Entity.edge e).fields).HasShortIntegers

end Snapshot

/-- No integer is lost with the fields that are null. -/
theorem Entity.hasShortIntegers_documentOf (x : Entity) :
    x.documentOf.HasShortIntegers ↔ (Value.mapping x.fields).HasShortIntegers := by
  rw [documentOf, Value.hasShortIntegers_mapping, Value.hasShortIntegers_mapping]
  exact Fields.forall_mem_withoutNulls_iff (p := Value.HasShortIntegers) (by rintro n ⟨⟩)

namespace Snapshot

variable {graph : Snapshot} {dump : Fields → Outcome Fields}

theorem IsFiniteJson.isJson_documentOf (h : graph.IsFiniteJson) : graph.documentOf.IsJson := by
  have hnames : ["nodes", "edges"].Nodup := by
    decide
  refine .mapping hnames ?_
  intro entry hentry
  simp only [List.mem_cons, List.not_mem_nil, or_false] at hentry
  rcases hentry with rfl | rfl
  · exact .list (List.forall_mem_map.2 fun n hn => (h.nodes n hn).mapping_fields.withoutNulls.isJson)
  · exact .list (List.forall_mem_map.2 fun e he => (h.edges e he).mapping_fields.withoutNulls.isJson)

theorem hasShortIntegers_documentOf (graph : Snapshot) :
    graph.documentOf.HasShortIntegers ↔ graph.HasShortIntegers := by
  rw [documentOf, Value.hasShortIntegers_mapping]
  simp only [List.forall_mem_cons, List.not_mem_nil, false_imp_iff, implies_true, and_true,
    Value.hasShortIntegers_list, List.forall_mem_map, Entity.hasShortIntegers_documentOf]
  exact ⟨fun h => ⟨h.1, h.2⟩, fun h => ⟨h.nodes, h.edges⟩⟩

/-- A graph with a text has plain forms, and the text is that of its document. -/
theorem IsFiniteJson.write_of_fileText (h : graph.IsFiniteJson) (hdump : KeepsFiniteJson dump) {text : String}
    (htext : graph.fileText dump = .ok text) :
    graph.HasPlainForms dump ∧ Json.write .readable graph.documentOf = .ok text := by
  obtain ⟨document, hdocument, hwritten⟩ := Outcome.exists_of_bind_eq_ok htext
  have hplain := hasPlainForms_of_document hdocument
  rw [h.document_of_hasPlainForms hdump hplain] at hdocument
  cases hdocument
  exact ⟨hplain, Outcome.eq_ok_of_mapError_eq_ok hwritten⟩

/-- A graph of finite JSON values has a text if it has plain forms and its integers can be written. -/
theorem IsFiniteJson.exists_fileText_iff (h : graph.IsFiniteJson) (hdump : KeepsFiniteJson dump) :
    (∃ text, graph.fileText dump = .ok text) ↔ graph.HasPlainForms dump ∧ graph.HasShortIntegers := by
  have hwrite : (∃ text, Json.write .readable graph.documentOf = .ok text) ↔ graph.HasShortIntegers := by
    rw [Json.write, Outcome.exists_map_eq_ok_iff, Json.exists_chars_iff h.isJson_documentOf,
      hasShortIntegers_documentOf]
  constructor
  · rintro ⟨text, htext⟩
    obtain ⟨hplain, hwritten⟩ := h.write_of_fileText hdump htext
    exact ⟨hplain, hwrite.1 ⟨text, hwritten⟩⟩
  · rintro ⟨hplain, hshort⟩
    rw [fileText, h.document_of_hasPlainForms hdump hplain]
    exact Outcome.exists_mapError_eq_ok_iff.2 (hwrite.2 hshort)

/-- A graph is read back from its text where there is room, without attributes that are null. -/
theorem IsFiniteJson.ofText_fileText (h : graph.IsFiniteJson) (hdump : KeepsFiniteJson dump) {text : String}
    (htext : graph.fileText dump = .ok text) (room : Nat) :
    ofText text room = if graph.documentOf.openDepth ≤ room then .ok graph.reread else .error .nestedTooDeep := by
  obtain ⟨-, hwrite⟩ := h.write_of_fileText hdump htext
  rw [ofText, Json.parse_write h.isJson_documentOf hwrite, Json.inRoom]
  split_ifs
  · exact h.ofDocument_documentOf
  · rfl

/-- No line end of the text of a graph is read as another one. -/
theorem IsFiniteJson.unreturned_fileText (h : graph.IsFiniteJson) (hdump : KeepsFiniteJson dump) {text : String}
    (htext : graph.fileText dump = .ok text) : Json.Unreturned text.toList := by
  obtain ⟨cs, hcs, rfl⟩ := Outcome.exists_of_map_eq_ok (h.write_of_fileText hdump htext).2
  rw [String.toList_ofList]
  exact Json.unreturned_chars h.isJson_documentOf hcs

end Snapshot

/-! ## Files -/

namespace FileTree

variable {tree : FileTree} {path : String} {base : Option String} {dump : Fields → Outcome Fields}

/-- Either no graph can be saved at a path, and each attempt leaves everything as it is, or the file is opened for
each graph in the same way, which empties it. -/
theorem saveGraph_cases (tree : FileTree) (path : String) (base : Option String) (dump : Fields → Outcome Fields) :
    (∃ e, ∀ graph : Snapshot, tree.saveGraph graph path base dump = (tree, .error e)) ∨
      ∃ (made : FileTree) (place : Location), Location.within? tree.current base path = .ok place ∧
        tree.makeDirectories place.dropLast = .ok made ∧
        ∀ graph : Snapshot, tree.saveGraph graph path base dump =
          match graph.fileText dump with
          | .ok s => ((made.put place (.text "")).put place (.text s), .ok ())
          | .error e => ((made.put place (.text "")).put place (.text (graph.begunText dump)), .error e) := by
  -- There are three ways to fail before the graph is looked at.
  cases hplace : Location.within? tree.current base path with
  | error e =>
      refine Or.inl ⟨e, fun graph => ?_⟩
      rw [saveGraph, hplace]
      rfl
  | ok place =>
      cases hmade : tree.makeDirectories place.dropLast with
      | error e =>
          refine Or.inl ⟨e, fun graph => ?_⟩
          rw [saveGraph, hplace]
          simp only [bind, Except.bind, hmade]
      | ok made =>
          cases hwritten : made.writeAt place "" with
          | error e =>
              refine Or.inl ⟨e, fun graph => ?_⟩
              rw [saveGraph, hplace]
              simp only [bind, Except.bind, hmade, hwritten]
          | ok emptied =>
              refine Or.inr ⟨made, place, rfl, hmade, fun graph => ?_⟩
              rw [saveGraph, hplace, ← eq_put_of_writeAt hwritten]
              cases graph.fileText dump <;>
                simp only [bind, Except.bind, pure, Except.pure, hmade, hwritten]

/-- Where one graph can be saved, the file is opened for each graph in the same way. -/
theorem exists_opened {first : Snapshot} (hpath : (tree.saveGraph first path base dump).2 = .ok ()) :
    ∃ (emptied : FileTree) (place : Location), Location.within? tree.current base path = .ok place ∧
      emptied.current = tree.current ∧
      ∀ graph : Snapshot, tree.saveGraph graph path base dump =
        match graph.fileText dump with
        | .ok s => (emptied.put place (.text s), .ok ())
        | .error e => (emptied.put place (.text (graph.begunText dump)), .error e) := by
  rcases tree.saveGraph_cases path base dump with ⟨e, hrefused⟩ | ⟨made, place, hplace, hmade, hsave⟩
  · rw [hrefused] at hpath
    cases hpath
  · refine ⟨made.put place (.text ""), place, hplace, ?_, hsave⟩
    show made.current = tree.current
    exact current_of_makeDirectories hmade

/-- Loading undoes saving, whatever makes the plain forms of free-form fields.  At a path at which a file can be
written, a graph of finite JSON values is saved exactly if its properties and attributes have plain forms and its
integers are short.  If it is saved then loading the path gives the same nodes and edges in the same order, with the
same ids, ends, labels, types and properties, and with the same attributes but for those that are null; unless there is
no room for as many lists and objects as are open at once in the file. -/
theorem loadGraph_undoes_saveGraph (hdump : KeepsFiniteJson dump) (hcurrent : tree.current.IsPlace)
    (hpath : (tree.saveGraph .empty path base dump).2 = .ok ()) {graph : Snapshot} (hgraph : graph.IsFiniteJson) :
    let saved := tree.saveGraph graph path base dump
    (saved.2 = .ok () ↔ graph.HasPlainForms dump ∧ graph.HasShortIntegers) ∧
      (saved.2 = .ok () → ∀ room, saved.1.loadGraph path base room =
        if graph.documentOf.openDepth ≤ room then .ok graph.reread else .error .nestedTooDeep) := by
  intro saved
  -- The file is emptied first, whatever the graph is; what matters is whether the graph has a text.
  obtain ⟨emptied, place, hplace, hsame, hsave⟩ := exists_opened hpath
  have hsaved : saved = _ := hsave graph
  rw [← hgraph.exists_fileText_iff hdump, hsaved]
  cases htext : graph.fileText dump with
  | error e =>
      exact ⟨⟨by rintro ⟨⟩, by rintro ⟨_, ⟨⟩⟩⟩, by rintro ⟨⟩⟩
  | ok text =>
      refine ⟨⟨fun _ => ⟨text, rfl⟩, fun _ => rfl⟩, fun _ room => ?_⟩
      have hlines := hgraph.unreturned_fileText hdump htext
      have hresolved : place.IsPlace := by
        rw [Location.eq_resolve_of_within? hplace]
        exact Location.isPlace_resolve hcurrent path
      have hwithin : Location.within? (emptied.put place (.text text)).current base path = .ok place := by
        rw [← hplace, ← hsame]
        rfl
      show loadGraph (emptied.put place (.text text)) path base room = _
      rw [loadGraph, hwithin]
      show (readResolved _ place >>= _ : Outcome Snapshot) = _
      rw [readResolved_put hresolved, unifiedLines_of_ne hlines, String.ofList_toList]
      exact hgraph.ofText_fileText hdump htext room

/-- A node with an empty property and an attribute that is null. -/
def sparseNode : Node := ⟨.text "1", none, some "t", [("p", .null)], [("q", .null), ("r", .int 2)], []⟩

/-- A graph of one node, with a loop to it. -/
def sparseGraph : Snapshot := ⟨[sparseNode], [⟨.int 1, .text "1", .text "1", some "e", none, [], [], []⟩]⟩

theorem isFiniteJson_sparseGraph : sparseGraph.IsFiniteJson where
  nodes := List.forall_mem_singleton.2
    { properties := .mapping (List.nodup_singleton _) (List.forall_mem_singleton.2 .null)
      extras := by
        refine .mapping (show ["q", "r"].Nodup by decide) ?_
        exact List.forall_mem_cons.2 ⟨.null, List.forall_mem_singleton.2 (.int 2)⟩
      others := by decide }
  edges := List.forall_mem_singleton.2
    { properties := .mapping List.nodup_nil (List.forall_mem_nil _)
      extras := .mapping List.nodup_nil (List.forall_mem_nil _)
      others := List.forall_mem_nil _ }

/-- A directory without files. -/
def workplace : FileTree := .empty ["work"]

theorem saveGraph_empty_workplace : (workplace.saveGraph .empty "g.json" none).2 = .ok () := by
  rfl

theorem isPlace_workplace : workplace.current.IsPlace :=
  List.forall_mem_singleton.2 (by decide)

/-- A graph with nulls is saved and loaded: the property that is null is still there, and the attribute is not. -/
theorem loadGraph_undoes_saveGraph_sparseGraph :
    KeepsFiniteJson Fields.plain ∧ workplace.current.IsPlace ∧ (workplace.saveGraph .empty "g.json" none).2 = .ok () ∧
      sparseGraph.IsFiniteJson ∧ (workplace.saveGraph sparseGraph "g.json" none).2 = .ok () ∧
      (workplace.saveGraph sparseGraph "g.json" none).1.loadGraph "g.json" none = .ok sparseGraph.reread ∧
      sparseGraph.reread.nodes =
        [{ sparseNode with extras := [("r", .int 2)], given := ["id", "type", "properties"] }] := by
  obtain ⟨-, hload⟩ := loadGraph_undoes_saveGraph Fields.keepsFiniteJson_plain isPlace_workplace
    saveGraph_empty_workplace isFiniteJson_sparseGraph
  have hsaved : (workplace.saveGraph sparseGraph "g.json" none).2 = .ok () := by
    rfl
  have hroom : sparseGraph.documentOf.openDepth ≤ Json.nestingLimit := by
    decide
  have hloaded := hload hsaved Json.nestingLimit
  rw [if_pos hroom] at hloaded
  exact ⟨Fields.keepsFiniteJson_plain, isPlace_workplace, saveGraph_empty_workplace, isFiniteJson_sparseGraph, hsaved,
    hloaded, rfl⟩

/-- A node with lists in lists, too many of them for a document. -/
def deepGraph : Snapshot := ⟨[⟨.int 1, none, none, [("d", FilterShelf.nested 260)], [], []⟩], []⟩

theorem isFiniteJson_deepGraph : deepGraph.IsFiniteJson where
  nodes := List.forall_mem_singleton.2
    { properties := FilterShelf.isFiniteJson_mapping_nested "d" 260
      extras := .mapping List.nodup_nil (List.forall_mem_nil _)
      others := List.forall_mem_nil _ }
  edges := List.forall_mem_nil _

theorem document_deepGraph : deepGraph.document = .error (.argument .nestedTooFar) := by
  have hproperties :
      Fields.plain (Entity.node ⟨.int 1, none, none, [("d", FilterShelf.nested 260)], [], []⟩).properties =
        .error (.argument .nestedTooFar) := FilterShelf.plain_nested_too_deep (by decide) "d"
  rw [Snapshot.document, deepGraph, List.mapM_cons, Entity.document, hproperties]
  rfl

/-- A graph of finite JSON values may be nested too deep to be saved, where an empty one is saved. -/
theorem saveGraph_deepGraph_refused :
    deepGraph.IsFiniteJson ∧ (workplace.saveGraph .empty "g.json" none).2 = .ok () ∧
      (workplace.saveGraph deepGraph "g.json" none).2 = .error (.argument .nestedTooFar) := by
  refine ⟨isFiniteJson_deepGraph, saveGraph_empty_workplace, ?_⟩
  have htext : deepGraph.fileText = .error (.argument .nestedTooFar) := by
    rw [Snapshot.fileText, document_deepGraph]
    rfl
  obtain ⟨emptied, place, -, -, hsave⟩ := exists_opened saveGraph_empty_workplace
  rw [hsave, htext]

end FileTree
end GraphQuery
