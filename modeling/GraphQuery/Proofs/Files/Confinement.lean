import GraphQuery.Proofs.Files.FailedSave
import Mathlib.Logic.Relation

/-!
# Confinement — a path that must stay inside a base directory does

A path is made absolute, and then what leads nowhere is taken out of its names: empty names, single dots, double dots
at the root, and names that a double dot leads back from (`Location.Shortens`).  In whatever order that is done, the
names that are left are the same (`Location.leadsTo_iff`).  A path is accepted exactly if the names of the base
directory begin those of its place (`Location.within?_confines`), so that a save with a base directory touches no file
outside it (`FileTree.find?_saveGraph_of_outside`), and a load reads none (`FileTree.exists_inside_of_loadGraph`).
-/

namespace GraphQuery

namespace Location

variable {current place : Location} {path : String} {long short : List String}

/-! ## Names between slashes -/

theorem splitSlashes_eq_splitOn (s : List Char) : splitSlashes s = s.splitOn '/' := by
  induction s with
  | nil =>
      rfl
  | cons c rest ih =>
      rw [splitSlashes, ih, List.splitOn_cons_eq_if_modifyHead]
      by_cases hc : c = '/'
      · rw [if_pos hc, if_pos (beq_iff_eq.2 hc)]
      · rw [if_neg hc, if_neg (fun h => hc (beq_iff_eq.1 h))]
        cases hrest : rest.splitOn '/' with
        | nil =>
            exact absurd hrest (List.splitOn_ne_nil _ _)
        | cons piece pieces =>
            rfl

theorem slash_notMem_of_mem_splitSlashes {s piece : List Char} (h : piece ∈ splitSlashes s) : '/' ∉ piece := by
  induction s generalizing piece with
  | nil =>
      rw [List.mem_singleton.1 h]
      exact List.not_mem_nil
  | cons c rest ih =>
      rw [splitSlashes] at h
      by_cases hc : c = '/'
      · rw [if_pos hc] at h
        rcases List.mem_cons.1 h with rfl | hlater
        · exact List.not_mem_nil
        · exact ih hlater
      · rw [if_neg hc] at h
        have hother : '/' ≠ c := fun heq => hc heq.symm
        cases hrest : splitSlashes rest with
        | nil =>
            rw [hrest] at h
            rw [List.mem_singleton.1 h, List.mem_singleton]
            exact hother
        | cons first others =>
            rw [hrest] at h ih
            rcases List.mem_cons.1 h with rfl | hlater
            · rw [List.mem_cons, not_or]
              exact ⟨hother, ih List.mem_cons_self⟩
            · exact ih (List.mem_cons_of_mem _ hlater)

/-- Whether a path can spell a place: its names are those of files, and none of them holds a slash. -/
structure IsSpelled (place : Location) : Prop where
  isPlace : place.IsPlace
  noSlash : ∀ name ∈ place, '/' ∉ name.toList

theorem mem_of_mem_enter {name next : String} (h : name ∈ enter place next) : name ∈ place ∨ name = next := by
  rw [enter] at h
  split_ifs at h
  · exact Or.inl (List.dropLast_subset place h)
  · exact Or.inl h
  · rcases List.mem_append.1 h with hplace | hnext
    · exact Or.inl hplace
    · exact Or.inr (List.mem_singleton.1 hnext)

theorem mem_of_mem_foldl_enter {name : String} {names : List String} (h : name ∈ names.foldl enter place) :
    name ∈ place ∨ name ∈ names := by
  induction names generalizing place with
  | nil =>
      exact Or.inl h
  | cons next rest ih =>
      rcases ih h with henter | hrest
      · rcases mem_of_mem_enter henter with hplace | rfl
        · exact Or.inl hplace
        · exact Or.inr List.mem_cons_self
      · exact Or.inr (List.mem_cons_of_mem _ hrest)

/-- The names on the way to a place come from the current directory or from the path. -/
theorem mem_of_mem_resolve {name : String} (h : name ∈ resolve current path) :
    name ∈ current ∨ name ∈ pieces path := by
  rcases mem_of_mem_foldl_enter h with hstart | hnames
  · rw [startOf] at hstart
    split_ifs at hstart
    · exact absurd hstart List.not_mem_nil
    · exact Or.inl hstart
  · exact Or.inr (List.mem_of_mem_filter hnames)

theorem isSpelled_resolve (h : current.IsSpelled) (path : String) : (resolve current path).IsSpelled where
  isPlace := isPlace_resolve h.isPlace path
  noSlash := by
    intro name hname
    rcases mem_of_mem_resolve hname with hcurrent | hpath
    · exact h.noSlash name hcurrent
    · obtain ⟨piece, hpiece, rfl⟩ := List.mem_map.1 hpath
      rw [String.toList_ofList]
      exact slash_notMem_of_mem_splitSlashes hpiece

theorem isAbsolute_text (place : Location) : isAbsolute place.text = true := by
  rw [isAbsolute, text, String.toList_append]
  rfl

theorem pieces_text (h : place.IsSpelled) : pieces place.text = "" :: if place = [] then [""] else place := by
  rw [pieces, text, String.toList_append, String.toList_intercalate]
  show (splitSlashes ('/' :: ['/'].intercalate _)).map _ = _
  rw [splitSlashes, if_pos rfl, splitSlashes_eq_splitOn, List.map_cons]
  split_ifs with hroot
  · subst hroot
    rfl
  · rw [List.splitOn_intercalate _ (List.forall_mem_map.2 h.noSlash) (by simpa using hroot), List.map_map]
    congr 1
    exact (List.map_congr_left fun _ _ => String.ofList_toList).trans (List.map_id _)

/-- The names of a place are read back from its text. -/
theorem names_text (h : place.IsSpelled) : names place.text = place := by
  rw [names, pieces_text h]
  split_ifs with hroot
  · rw [hroot]
    rfl
  · rw [List.filter_cons_of_neg (by decide)]
    refine List.filter_eq_self.2 fun name hname => ?_
    obtain ⟨hempty, hdot, -⟩ := h.isPlace name hname
    simp [hempty, hdot]

/-! ## Shortening -/

/-- One step that takes out of a list of names, read from the root, what leads nowhere: an empty name, a single dot, a
name that the double dot after it leads back from, or a double dot at the root. -/
inductive Shortens : List String → List String → Prop where
  | empty (front rest : List String) : Shortens (front ++ "" :: rest) (front ++ rest)
  | dot (front rest : List String) : Shortens (front ++ "." :: rest) (front ++ rest)
  | back (front rest : List String) {name : String} (h : name ≠ "" ∧ name ≠ "." ∧ name ≠ "..") :
      Shortens (front ++ name :: ".." :: rest) (front ++ rest)
  | root (rest : List String) : Shortens (".." :: rest) rest

theorem enter_back (place : Location) : enter place ".." = place.dropLast :=
  rfl

theorem enter_nowhere {name : String} (h : name = "" ∨ name = ".") : enter place name = place := by
  rcases h with rfl | rfl
  · rfl
  · rfl

/-- What a step takes out leads nowhere. -/
theorem Shortens.foldl_enter (h : Shortens long short) : long.foldl enter [] = short.foldl enter [] := by
  cases h with
  | empty front rest =>
      rw [List.foldl_append, List.foldl_append, List.foldl_cons, enter_nowhere (Or.inl rfl)]
  | dot front rest =>
      rw [List.foldl_append, List.foldl_append, List.foldl_cons, enter_nowhere (Or.inr rfl)]
  | back front rest hname =>
      rw [List.foldl_append, List.foldl_append, List.foldl_cons, List.foldl_cons, enter_of_isPlace hname, enter_back,
        List.dropLast_concat]
  | root rest =>
      rfl

theorem Shortens.append (h : Shortens long short) (more : List String) : Shortens (long ++ more) (short ++ more) := by
  cases h with
  | empty front rest =>
      simpa using Shortens.empty front (rest ++ more)
  | dot front rest =>
      simpa using Shortens.dot front (rest ++ more)
  | back front rest hname =>
      simpa using Shortens.back front (rest ++ more) hname
  | root =>
      exact Shortens.root _

open Relation

theorem foldl_enter_eq_of_shortens (h : ReflTransGen Shortens long short) :
    long.foldl enter [] = short.foldl enter [] := by
  induction h with
  | refl =>
      rfl
  | tail _ hstep ih =>
      exact ih.trans hstep.foldl_enter

theorem foldl_enter_of_isPlace (h : place.IsPlace) (front : Location) : place.foldl enter front = front ++ place := by
  induction place generalizing front with
  | nil =>
      exact (List.append_nil front).symm
  | cons name rest ih =>
      obtain ⟨hname, hrest⟩ := List.forall_mem_cons.1 h
      rw [List.foldl_cons, enter_of_isPlace hname, ih hrest, List.append_assoc, List.singleton_append]

/-- Entering a name from a place takes out at most what the name makes superfluous. -/
theorem IsPlace.shortens_enter (h : place.IsPlace) (name : String) :
    ReflTransGen Shortens (place ++ [name]) (enter place name) := by
  by_cases hname : name ≠ "" ∧ name ≠ "." ∧ name ≠ ".."
  · rw [enter_of_isPlace hname]
  · by_cases hback : name = ".."
    · subst hback
      rw [enter_back]
      -- A double dot takes the last name with it; at the root there is none, and it goes alone.
      rcases List.eq_nil_or_concat place with rfl | ⟨above, last, rfl⟩
      · exact .single (.root [])
      · have hlast := h last (by simp)
        simpa using ReflTransGen.single (Shortens.back above [] hlast)
    · have hnowhere : name = "" ∨ name = "." := by
        tauto
      rw [enter_nowhere hnowhere]
      rcases hnowhere with rfl | rfl
      · simpa using ReflTransGen.single (Shortens.empty place [])
      · simpa using ReflTransGen.single (Shortens.dot place [])

/-- The names that lead to a place can be shortened to those of the place, one after another. -/
theorem IsPlace.shortens_foldl_enter (h : place.IsPlace) (names : List String) :
    ReflTransGen Shortens (place ++ names) (names.foldl enter place) := by
  induction names generalizing place with
  | nil =>
      rw [List.append_nil]
      exact .refl
  | cons name rest ih =>
      -- The first name is settled with all later ones standing behind it.
      have hfirst : ReflTransGen Shortens (place ++ name :: rest) (enter place name ++ rest) := by
        rw [List.append_cons]
        exact (h.shortens_enter name).lift (· ++ rest) fun _ _ hstep => hstep.append rest
      exact hfirst.trans (ih (isPlace_enter h name))

/-! ## Where a path leads -/

/-- The names of a path from the root on, as they stand between its slashes. -/
def spelling (current : Location) (path : String) : List String :=
  (if path.toList.head? = some '/' then [] else current) ++ (path.toList.splitOn '/').map String.ofList

/-- A path without nulls leads to the place that its names can be shortened to. -/
structure LeadsTo (current : Location) (path : String) (place : Location) : Prop where
  noNull : '\x00' ∉ path.toList
  shortens : ReflTransGen Shortens (spelling current path) place
  isPlace : place.IsPlace

theorem spelling_eq (current : Location) (path : String) :
    spelling current path = startOf current path ++ pieces path := by
  rw [spelling, startOf, isAbsolute, pieces, splitSlashes_eq_splitOn]
  simp only [decide_eq_true_eq]

theorem foldl_enter_names (place : Location) (path : String) :
    (names path).foldl enter place = (pieces path).foldl enter place := by
  rw [names]
  induction pieces path generalizing place with
  | nil =>
      rfl
  | cons name rest ih =>
      by_cases hname : name = "" ∨ name = "."
      · rw [List.filter_cons_of_neg (by simpa [or_iff_not_imp_left] using hname), ih, List.foldl_cons,
          enter_nowhere hname]
      · rw [List.filter_cons_of_pos (by simpa using hname), List.foldl_cons, ih, List.foldl_cons]

theorem hasNull_eq_false_iff : hasNull path = false ↔ '\x00' ∉ path.toList := by
  rw [hasNull, ← Bool.not_eq_true, List.contains_iff_mem]

/-- A path without nulls leads to one place, which it is resolved to. -/
theorem leadsTo_iff (hcurrent : current.IsPlace) :
    LeadsTo current path place ↔ hasNull path = false ∧ place = resolve current path := by
  have hstart := isPlace_startOf hcurrent path
  -- No step changes where the names lead from the root, so any list of names that cannot be shortened is this one.
  have hresolve : (spelling current path).foldl enter [] = resolve current path := by
    rw [spelling_eq, List.foldl_append, foldl_enter_of_isPlace hstart, List.nil_append, resolve, foldl_enter_names]
  constructor
  · intro h
    refine ⟨hasNull_eq_false_iff.2 h.noNull, ?_⟩
    rw [← hresolve, foldl_enter_eq_of_shortens h.shortens, foldl_enter_of_isPlace h.isPlace, List.nil_append]
  · rintro ⟨hnull, rfl⟩
    refine ⟨hasNull_eq_false_iff.1 hnull, ?_, isPlace_resolve hcurrent path⟩
    rw [spelling_eq, resolve, foldl_enter_names]
    exact hstart.shortens_foldl_enter (pieces path)

theorem LeadsTo.unique {other : Location} (hcurrent : current.IsPlace) (h : LeadsTo current path place)
    (hother : LeadsTo current path other) : place = other :=
  ((leadsTo_iff hcurrent).1 h).2.trans ((leadsTo_iff hcurrent).1 hother).2.symm

/-! ## Inside the base directory -/

variable {base : String}

theorem within?_some (current : Location) (base path : String) :
    within? current (some base) path =
      if hasNull path then .error (.argument (.nullInPath path))
      else if hasNull base then .error (.argument .nullInBase)
      else if (resolve current base).isPrefixOf (resolve current path) then .ok (resolve current path)
      else .error (.argument (.outsideBase path (tidied base))) :=
  rfl

theorem within?_eq_ok_iff (hcurrent : current.IsPlace) :
    within? current (some base) path = .ok place ↔
      LeadsTo current path place ∧ ∃ root, LeadsTo current base root ∧ root <+: place := by
  simp only [leadsTo_iff hcurrent, within?_some]
  split_ifs with hpath hbase hinside
  · simp [hpath]
  · simp [hbase]
  · have hprefix := List.isPrefixOf_iff_prefix.1 hinside
    constructor
    · intro h
      cases h
      exact ⟨⟨by simpa using hpath, rfl⟩, _, ⟨by simpa using hbase, rfl⟩, hprefix⟩
    · rintro ⟨⟨-, rfl⟩, -⟩
      rfl
  · have hprefix := fun h => hinside (List.isPrefixOf_iff_prefix.2 h)
    constructor
    · rintro ⟨⟩
    · rintro ⟨⟨-, rfl⟩, _, ⟨-, rfl⟩, h⟩
      exact absurd h hprefix

/-- What is not accepted is an argument outside its range. -/
theorem exists_argument_of_refused (h : ∀ place, within? current (some base) path ≠ .ok place) :
    ∃ fault, within? current (some base) path = .error (.argument fault) := by
  rw [within?_some] at h ⊢
  split_ifs at h ⊢ with hpath hbase hinside
  · exact ⟨_, rfl⟩
  · exact ⟨_, rfl⟩
  · exact absurd rfl (h _)
  · exact ⟨_, rfl⟩

theorem within?_eq_outsideBase (hcurrent : current.IsPlace) {root : Location} (hbase : LeadsTo current base root)
    (hpath : LeadsTo current path place) (hout : ¬ root <+: place) :
    within? current (some base) path = .error (.argument (.outsideBase path (tidied base))) := by
  obtain ⟨hnull, rfl⟩ := (leadsTo_iff hcurrent).1 hpath
  obtain ⟨hbasenull, rfl⟩ := (leadsTo_iff hcurrent).1 hbase
  rw [within?_some, hnull, hbasenull]
  simp [hout]

/-- A name that only begins with the name of a directory is not inside it. -/
theorem not_prefix_of_longer_name {above rest : Location} {name more : String} (h : more ≠ "") :
    ¬ above ++ [name] <+: above ++ (name ++ more) :: rest := by
  rw [List.prefix_append_right_inj, List.cons_prefix_cons]
  rintro ⟨hsame, -⟩
  have hchars := congrArg String.toList hsame
  rw [String.toList_append, List.self_eq_append_right] at hchars
  exact h (String.toList_eq_nil_iff.1 hchars)

/-- A path is accepted exactly if it leads to a place inside the base directory.  What is given back is the absolute
path of that place, free of double dots; every other path is refused as an argument outside its range, and so are
those that lead to a neighbour of the base directory whose name begins with that of the directory. -/
theorem within?_confines (hcurrent : current.IsSpelled) (base path : String) :
    (∀ place, within? current (some base) path = .ok place ↔
        LeadsTo current path place ∧ ∃ root, LeadsTo current base root ∧ root <+: place) ∧
      (∀ place, within? current (some base) path = .ok place →
        isAbsolute place.text = true ∧ names place.text = place ∧ ".." ∉ place) ∧
      ((¬ ∃ place, LeadsTo current path place ∧ ∃ root, LeadsTo current base root ∧ root <+: place) →
        ∃ fault, within? current (some base) path = .error (.argument fault)) ∧
      ∀ (above rest : Location) (name more : String), more ≠ "" → LeadsTo current base (above ++ [name]) →
        LeadsTo current path (above ++ (name ++ more) :: rest) →
        within? current (some base) path = .error (.argument (.outsideBase path (tidied base))) := by
  refine ⟨fun place => within?_eq_ok_iff hcurrent.isPlace, ?_, ?_, ?_⟩
  · intro place hplace
    -- A path can spell the place, as it can spell the current directory that its names come from.
    have hspelled : place.IsSpelled := by
      rw [eq_resolve_of_within? hplace]
      exact isSpelled_resolve hcurrent path
    exact ⟨isAbsolute_text place, names_text hspelled, fun h => (hspelled.isPlace _ h).2.2 rfl⟩
  · intro hout
    refine exists_argument_of_refused fun place hplace => hout ⟨place, ?_⟩
    exact (within?_eq_ok_iff hcurrent.isPlace).1 hplace
  -- Names are compared as a whole, so one that only begins with the name of the directory is another name.
  · intro above rest name more hmore hbase hpath
    exact within?_eq_outsideBase hcurrent.isPlace hbase hpath (not_prefix_of_longer_name hmore)

theorem isSpelled_work : IsSpelled ["work"] where
  isPlace := List.forall_mem_singleton.2 (by decide)
  noSlash := List.forall_mem_singleton.2 (by decide)

/-- A path that leaves the base directory and comes back to it is accepted, and one to a neighbour of the directory is
not. -/
theorem within?_confines_based :
    IsSpelled ["work"] ∧
      within? ["work"] (some "data/../base") "base/../../work//base/./g.json" = .ok ["work", "base", "g.json"] ∧
      names (text ["work", "base", "g.json"]) = ["work", "base", "g.json"] ∧
      LeadsTo ["work"] "data/../base" (["work"] ++ ["base"]) ∧
      LeadsTo ["work"] "./based//g.json" (["work"] ++ ("base" ++ "d") :: ["g.json"]) ∧
      within? ["work"] (some "data/../base") "./based//g.json" =
        .error (.argument (.outsideBase "./based//g.json" (tidied "data/../base"))) := by
  have hplace := isSpelled_work.isPlace
  have hbase : LeadsTo ["work"] "data/../base" (["work"] ++ ["base"]) :=
    (leadsTo_iff hplace).2 ⟨by decide, by decide⟩
  have hinside : LeadsTo ["work"] "base/../../work//base/./g.json" ["work", "base", "g.json"] :=
    (leadsTo_iff hplace).2 ⟨by decide, by decide⟩
  have hbeside : LeadsTo ["work"] "./based//g.json" (["work"] ++ ("base" ++ "d") :: ["g.json"]) :=
    (leadsTo_iff hplace).2 ⟨by decide, by decide⟩
  obtain ⟨haccepts, habsolute, -, -⟩ :=
    within?_confines isSpelled_work "data/../base" "base/../../work//base/./g.json"
  obtain ⟨-, -, -, hneighbour⟩ := within?_confines isSpelled_work "data/../base" "./based//g.json"
  have haccepted := (haccepts _).2 ⟨hinside, _, hbase, by decide⟩
  exact ⟨isSpelled_work, haccepted, (habsolute _ haccepted).2.1, hbase, hbeside,
    hneighbour _ _ _ _ (by decide) hbase hbeside⟩

end Location

/-! ## Files outside the base directory -/

namespace FileTree

variable {tree : FileTree} {graph : Snapshot} {path base : String} {root other : Location}
  {dump : Fields → Outcome Fields} {room : Nat}

/-- A save with a base directory touches no file outside it. -/
theorem find?_saveGraph_of_outside (hcurrent : tree.current.IsPlace) (hbase : tree.current.LeadsTo base root)
    (hout : ¬ root <+: other) :
    (tree.saveGraph graph path (some base) dump).1.find? other = tree.find? other := by
  rcases tree.saveGraph_cases path (some base) dump with ⟨e, hrefused⟩ | ⟨made, place, hplace, hmade, hsave⟩
  · rw [hrefused]
  · obtain ⟨-, root', hroot', hinside⟩ := (Location.within?_eq_ok_iff hcurrent).1 hplace
    have hresolved := Location.eq_resolve_of_within? hplace
    have hleaves : SaveLeaves tree graph path (some base) dump :=
      saveLeaves_of_opened hresolved (fun _ => find?_of_makeDirectories hmade) hsave
    refine hleaves.elsewhere other fun hsame => hout ?_
    rw [hsame, ← hresolved, hbase.unique hcurrent hroot']
    exact hinside

theorem eq_foldl_enter_of_follow {names : List String} {start reached : Location}
    (h : tree.follow start names = .ok reached) : reached = names.foldl Location.enter start := by
  induction names generalizing start with
  | nil =>
      cases h
      rfl
  | cons name rest ih =>
      rw [follow] at h
      split_ifs at h
      exact ih h

theorem exists_text_of_readAt {place : Location} {s : String} (h : tree.readAt place = .ok s) :
    ∃ content, tree.find? place = some (.text content) ∧ s = String.ofList (unifiedLines content.toList) := by
  rw [readAt] at h
  split at h
  · case h_1 content hfind =>
      cases h
      exact ⟨content, hfind, rfl⟩
  · cases h
  · split_ifs at h

/-- What is loaded with a base directory is the graph of a text in a file inside it. -/
theorem exists_inside_of_loadGraph (hcurrent : tree.current.IsPlace) (hbase : tree.current.LeadsTo base root)
    (h : tree.loadGraph path (some base) room = .ok graph) :
    ∃ place content, root <+: place ∧ tree.find? place = some (.text content) ∧
      Snapshot.ofText (String.ofList (unifiedLines content.toList)) room = .ok graph := by
  obtain ⟨place, hplace, hread⟩ := Outcome.exists_of_bind_eq_ok h
  obtain ⟨s, hs, hgraph⟩ := Outcome.exists_of_bind_eq_ok hread
  obtain ⟨reached, hreached, hcontent⟩ := Outcome.exists_of_bind_eq_ok hs
  obtain ⟨hpath, root', hroot', hinside⟩ := (Location.within?_eq_ok_iff hcurrent).1 hplace
  -- The names of a place lead to the place itself, as far as they can be followed.
  have hsame : reached = place := by
    rw [eq_foldl_enter_of_follow hreached, Location.foldl_enter_of_isPlace hpath.isPlace, List.nil_append]
  subst hsame
  obtain ⟨content, hfind, rfl⟩ := exists_text_of_readAt hcontent
  refine ⟨reached, content, ?_, hfind, hgraph⟩
  rw [hbase.unique hcurrent hroot']
  exact hinside

end FileTree
end GraphQuery
