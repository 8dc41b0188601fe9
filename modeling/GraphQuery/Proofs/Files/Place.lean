import GraphQuery.Files.FileTree
import GraphQuery.Proofs.Outcome
import Mathlib.Tactic.SplitIfs

/-!
# Places — a file that has been put at a place is found there

A path leads to a place whose names are names of files: none of them is empty or made of dots
(`Location.isPlace_resolve`).  A file that is put at such a place is reached by following its names from the root,
for every directory above a file is there (`FileTree.readResolved_put`).
-/

namespace GraphQuery

namespace Location

/-- Whether names are those of files and directories: none of them is empty or leads nowhere or back. -/
def IsPlace (place : Location) : Prop := ∀ name ∈ place, name ≠ "" ∧ name ≠ "." ∧ name ≠ ".."

theorem enter_of_isPlace {place : Location} {name : String} (h : name ≠ "" ∧ name ≠ "." ∧ name ≠ "..") :
    enter place name = place ++ [name] := by
  simp [enter, h]

theorem isPlace_enter {place : Location} (h : IsPlace place) (name : String) : IsPlace (enter place name) := by
  rw [enter]
  split_ifs with hback hnowhere
  · exact fun other hother => h other (List.dropLast_subset place hother)
  · exact h
  · simp only [Bool.or_eq_true, decide_eq_true_eq, not_or] at hnowhere
    intro other hother
    rcases List.mem_append.1 hother with hold | hnew
    · exact h other hold
    · rw [List.mem_singleton.1 hnew]
      exact ⟨hnowhere.1, hnowhere.2, hback⟩

theorem isPlace_foldl_enter {place : Location} (h : IsPlace place) (names : List String) :
    IsPlace (names.foldl enter place) := by
  induction names generalizing place with
  | nil =>
      exact h
  | cons name rest ih =>
      exact ih (isPlace_enter h name)

theorem isPlace_startOf {current : Location} (h : IsPlace current) (path : String) :
    IsPlace (startOf current path) := by
  rw [startOf]
  split_ifs
  · exact List.forall_mem_nil _
  · exact h

/-- A path leads from a place to a place. -/
theorem isPlace_resolve {current : Location} (h : IsPlace current) (path : String) : IsPlace (resolve current path) :=
  isPlace_foldl_enter (isPlace_startOf h path) (names path)

/-- What lies inside the base directory is the place of the path. -/
theorem eq_resolve_of_within? {current place : Location} {base : Option String} {path : String}
    (h : within? current base path = .ok place) : place = resolve current path := by
  rw [within?.eq_def] at h
  dsimp only at h
  split_ifs at h with hnull
  split at h
  · cases h
    rfl
  · split_ifs at h
    cases h
    rfl

end Location

namespace FileTree

variable {tree : FileTree} {place : Location} {content : FileContent}

theorem find?_put (tree : FileTree) (place : Location) (content : FileContent) :
    (tree.put place content).find? place = some content := by
  rw [find?, put]
  induction tree.files with
  | nil =>
      simp [putAt]
  | cons file rest ih =>
      obtain ⟨known, old⟩ := file
      rw [putAt]
      split_ifs with hknown
      · simp [hknown]
      · rw [List.find?_cons_of_neg (by simpa using hknown)]
        exact ih

/-- Other files stay as they are. -/
theorem find?_put_of_ne (tree : FileTree) {other : Location} (content : FileContent) (h : other ≠ place) :
    (tree.put place content).find? other = tree.find? other := by
  rw [find?, find?, put]
  congr 1
  induction tree.files with
  | nil =>
      simp [putAt, h.symm]
  | cons file rest ih =>
      obtain ⟨known, old⟩ := file
      rw [putAt]
      split_ifs with hknown
      · rw [List.find?_cons_of_neg (by simpa [hknown] using h.symm),
          List.find?_cons_of_neg (by simpa [hknown] using h.symm)]
      · by_cases hother : known = other
        · simp [hother]
        · rw [List.find?_cons_of_neg (by simpa using hother), List.find?_cons_of_neg (by simpa using hother)]
          exact ih

/-- Every directory above a file is there. -/
theorem hasDirectory_put {above : Location} (h : above <+: place.dropLast) :
    (tree.put place content).hasDirectory above = true := by
  have hfound : (tree.put place content).files.any (fun file => above.isPrefixOf file.1.dropLast) = true := by
    have hfind := find?_put tree place content
    rw [find?] at hfind
    obtain ⟨file, hfile, -⟩ := Option.map_eq_some_iff.1 hfind
    refine List.any_eq_true.2 ⟨file, List.mem_of_find?_eq_some hfile, ?_⟩
    have hplace : file.1 = place := by
      simpa using List.find?_some hfile
    rw [hplace]
    exact List.isPrefixOf_iff_prefix.2 h
  rw [hasDirectory, hfound, Bool.or_true]

/-- The names of a place lead from the root to the file that has been put there. -/
theorem follow_put (hplace : place.IsPlace) : (tree.put place content).follow [] place = .ok place := by
  -- By induction on the names that are left: those before them lead to a directory above the file.
  have hsuffix : ∀ (rest front : Location), front ++ rest = place →
      (tree.put place content).follow front rest = .ok place := by
    intro rest
    induction rest with
    | nil =>
        rintro front rfl
        rw [follow, List.append_nil]
    | cons name rest ih =>
        rintro front rfl
        have habove : front <+: (front ++ name :: rest).dropLast := by
          rw [List.dropLast_append_cons]
          exact List.prefix_append _ _
        have hname := hplace name (List.mem_append_right _ List.mem_cons_self)
        rw [follow, if_pos (hasDirectory_put habove), Location.enter_of_isPlace hname]
        exact ih _ (by simp)
  exact hsuffix place [] rfl

/-- A text that has been put at a place is read there, with line ends of one kind. -/
theorem readResolved_put (hplace : place.IsPlace) (s : String) :
    (tree.put place (.text s)).readResolved place = .ok (String.ofList (unifiedLines s.toList)) := by
  rw [readResolved, follow_put hplace]
  show readAt _ place = _
  rw [readAt, find?_put]

theorem unifiedLines_of_ne {s : List Char} (h : ∀ c ∈ s, c ≠ '\r') : unifiedLines s = s := by
  induction s with
  | nil =>
      rfl
  | cons c rest ih =>
      obtain ⟨hc, hrest⟩ := List.forall_mem_cons.1 h
      rw [unifiedLines.eq_def]
      split
      · case h_1 heq =>
          cases heq
      · case h_2 heq =>
          exact absurd (List.cons.inj heq).1 hc
      · case h_3 heq =>
          exact absurd (List.cons.inj heq).1 hc
      · case h_4 heq =>
          cases heq
          rw [ih hrest]

theorem current_of_makeDirectories {above : Location} {made : FileTree}
    (h : tree.makeDirectories above = .ok made) : made.current = tree.current := by
  rw [makeDirectories] at h
  split_ifs at h
  · cases h
    rfl
  · cases h
    rfl

theorem eq_put_of_writeAt {s : String} {written : FileTree} (h : tree.writeAt place s = .ok written) :
    written = tree.put place (.text s) := by
  rw [writeAt] at h
  split_ifs at h
  cases h
  rfl

end FileTree
end GraphQuery
