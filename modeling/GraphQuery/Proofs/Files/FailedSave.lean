import GraphQuery.Proofs.Files.SavedGraph

/-!
# Failed saves — what is left of the file

Saving opens the file, which empties it, before it makes the document of the graph.  So a save that fails keeps the
file only if it could not be opened (`FileTree.keepsOrCompletes_iff`); what a graph without a text leaves in its place
is the beginning of that text, which is empty if the graph has no document at all.
-/

namespace GraphQuery

/-! ## Other files -/

namespace FileTree

variable {tree : FileTree} {place other : Location}

theorem find?_of_makeDirectories {above : Location} {made : FileTree} (h : tree.makeDirectories above = .ok made) :
    made.find? other = tree.find? other := by
  rw [makeDirectories] at h
  split_ifs at h
  · cases h
    rfl
  · cases h
    rfl

/-! ## What a save leaves -/

/-- A save keeps the old file or completes the new one: it either succeeds and the file holds the whole text of the
graph, or fails and the file holds what it held before. -/
def KeepsOrCompletes (tree : FileTree) (graph : Snapshot) (path : String) (base : Option String)
    (dump : Fields → Outcome Fields) : Prop :=
  let saved := tree.saveGraph graph path base dump
  let place := Location.resolve tree.current path
  (saved.2 = .ok () ∧ ∃ text, graph.fileText dump = .ok text ∧ saved.1.find? place = some (.text text)) ∨
    (∃ e, saved.2 = .error e) ∧ saved.1.find? place = tree.find? place

/-- What saving a graph at a path leaves.  A file can be written there if the empty graph is saved there. -/
structure SaveLeaves (tree : FileTree) (graph : Snapshot) (path : String) (base : Option String)
    (dump : Fields → Outcome Fields) : Prop where
  /-- No other file is touched. -/
  elsewhere : ∀ other, other ≠ Location.resolve tree.current path →
    (tree.saveGraph graph path base dump).1.find? other = tree.find? other
  /-- Where no file can be written, everything stays as it is. -/
  refused : (tree.saveGraph .empty path base dump).2 ≠ .ok () →
    ∃ e, tree.saveGraph graph path base dump = (tree, .error e)
  completed : (tree.saveGraph .empty path base dump).2 = .ok () → ∀ text, graph.fileText dump = .ok text →
    (tree.saveGraph graph path base dump).2 = .ok () ∧
      (tree.saveGraph graph path base dump).1.find? (Location.resolve tree.current path) = some (.text text)
  /-- A graph without a text overwrites the file all the same. -/
  spoilt : (tree.saveGraph .empty path base dump).2 = .ok () → ∀ e, graph.fileText dump = .error e →
    (tree.saveGraph graph path base dump).2 = .error e ∧
      (tree.saveGraph graph path base dump).1.find? (Location.resolve tree.current path) =
        some (.text (graph.begunText dump))
  /-- So the old file is kept or the new one completed, unless a file can be written and the graph has no text; then
  what the file held is lost, but for the case that it was just what is left. -/
  law_iff : KeepsOrCompletes tree graph path base dump ↔
    ((tree.saveGraph .empty path base dump).2 = .ok () → (∃ text, graph.fileText dump = .ok text) ∨
      tree.find? (Location.resolve tree.current path) = some (.text (graph.begunText dump)))

variable {graph : Snapshot} {path : String} {base : Option String} {dump : Fields → Outcome Fields}

theorem exists_fileText_empty : ∃ text, Snapshot.empty.fileText dump = .ok text :=
  ⟨_, rfl⟩

theorem saveLeaves_of_refused {e : Failure}
    (h : ∀ graph : Snapshot, tree.saveGraph graph path base dump = (tree, .error e)) :
    SaveLeaves tree graph path base dump := by
  have hempty : (tree.saveGraph .empty path base dump).2 ≠ .ok () := by
    rw [h]
    exact fun heq => by cases heq
  constructor
  case elsewhere =>
    intro other _
    rw [h]
  case refused =>
    exact fun _ => ⟨e, h graph⟩
  case completed =>
    exact fun hopens => absurd hopens hempty
  case spoilt =>
    exact fun hopens => absurd hopens hempty
  case law_iff =>
    refine iff_of_true (Or.inr ?_) fun hopens => absurd hopens hempty
    rw [h]
    exact ⟨⟨e, rfl⟩, rfl⟩

theorem saveLeaves_of_opened {made : FileTree} (hplace : place = Location.resolve tree.current path)
    (hmade : ∀ other, made.find? other = tree.find? other)
    (h : ∀ graph : Snapshot, tree.saveGraph graph path base dump =
      match graph.fileText dump with
      | .ok s => ((made.put place (.text "")).put place (.text s), .ok ())
      | .error e => ((made.put place (.text "")).put place (.text (graph.begunText dump)), .error e)) :
    SaveLeaves tree graph path base dump := by
  subst hplace
  have hempty : (tree.saveGraph .empty path base dump).2 = .ok () := by
    obtain ⟨text, htext⟩ := exists_fileText_empty
    rw [h, htext]
  constructor
  case elsewhere =>
    intro other hother
    rw [h]
    cases graph.fileText dump with
    | ok text =>
        rw [find?_put_of_ne _ _ hother, find?_put_of_ne _ _ hother, hmade]
    | error e =>
        rw [find?_put_of_ne _ _ hother, find?_put_of_ne _ _ hother, hmade]
  case refused =>
    exact fun hrefused => absurd hempty hrefused
  case completed =>
    intro _ text htext
    rw [h, htext]
    exact ⟨rfl, find?_put _ _ _⟩
  case spoilt =>
    intro _ e herror
    rw [h, herror]
    exact ⟨rfl, find?_put _ _ _⟩
  case law_iff =>
    rw [KeepsOrCompletes, h, imp_iff_right hempty]
    cases htext : graph.fileText dump with
    | ok text =>
        exact iff_of_true (Or.inl ⟨rfl, text, rfl, find?_put _ _ _⟩) (Or.inl ⟨text, rfl⟩)
    | error e =>
        -- Only the second way is open to a graph without a text: the file held just what is left of it.
        dsimp only
        rw [find?_put]
        constructor
        · rintro (⟨⟨⟩, _⟩ | ⟨_, hkept⟩)
          exact Or.inr hkept.symm
        · rintro (⟨text, ⟨⟩⟩ | hheld)
          exact Or.inr ⟨⟨e, rfl⟩, hheld.symm⟩

/-- Whatever makes the plain forms of free-form fields, saving a graph completes the file at its path or leaves it as it
is, unless the graph has no text; then it leaves the beginning of one. -/
theorem saveGraph_leaves (tree : FileTree) (graph : Snapshot) (path : String) (base : Option String)
    (dump : Fields → Outcome Fields) : SaveLeaves tree graph path base dump := by
  rcases tree.saveGraph_cases path base dump with ⟨e, hrefused⟩ | ⟨made, place, hplace, hmade, hsave⟩
  · exact saveLeaves_of_refused hrefused
  · exact saveLeaves_of_opened (Location.eq_resolve_of_within? hplace) (fun _ => find?_of_makeDirectories hmade) hsave

/-- A workplace with a graph in a file. -/
def savedWorkplace : FileTree := workplace.put (workplace.current ++ ["g.json"]) (.text "\x7b\x7d")

/-- A failed save leaves an empty file in the place of the graph that was saved there before. -/
theorem saveGraph_loses_oldGraph :
    (savedWorkplace.saveGraph deepGraph "g.json" none).2 = .error (.argument .nestedTooFar) ∧
      savedWorkplace.find? (Location.resolve savedWorkplace.current "g.json") = some (.text "\x7b\x7d") ∧
      (savedWorkplace.saveGraph deepGraph "g.json" none).1.find?
        (Location.resolve savedWorkplace.current "g.json") = some (.text "") ∧
      ¬ KeepsOrCompletes savedWorkplace deepGraph "g.json" none Fields.plain := by
  have htext : deepGraph.fileText = .error (.argument .nestedTooFar) := by
    rw [Snapshot.fileText, document_deepGraph]
    rfl
  have hbegun : deepGraph.begunText = "" := by
    rw [Snapshot.begunText, document_deepGraph]
  -- Where a graph without nodes can be saved the file can be opened, and opening it does not depend on the graph.
  have hopens : (savedWorkplace.saveGraph .empty "g.json" none).2 = .ok () := by
    rfl
  have hbefore : savedWorkplace.find? (Location.resolve savedWorkplace.current "g.json") =
      some (.text "\x7b\x7d") := by
    rfl
  obtain ⟨emptied, place, hplace, -, hsave⟩ := exists_opened hopens
  have hsaved : savedWorkplace.saveGraph deepGraph "g.json" none =
      (emptied.put place (.text ""), .error (.argument .nestedTooFar)) := by
    rw [hsave, htext, hbegun]
  have hfails : (savedWorkplace.saveGraph deepGraph "g.json" none).2 = .error (.argument .nestedTooFar) := by
    rw [hsaved]
  have hafter : (savedWorkplace.saveGraph deepGraph "g.json" none).1.find?
      (Location.resolve savedWorkplace.current "g.json") = some (.text "") := by
    rw [hsaved, ← Location.eq_resolve_of_within? hplace, find?_put]
  refine ⟨hfails, hbefore, hafter, ?_⟩
  rintro (⟨hsaved, -⟩ | ⟨-, hkept⟩)
  · rw [hfails] at hsaved
    cases hsaved
  · rw [hbefore, hafter] at hkept
    exact absurd hkept (by decide)

end FileTree
end GraphQuery
