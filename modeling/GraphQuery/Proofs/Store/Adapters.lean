import GraphQuery.Engine.Workplace
import GraphQuery.Proofs.Files.Place
import GraphQuery.Proofs.Store.KeyOrder

/-!
# Stores in memory and in files — they give the same answers

A store file that is open answers each call as a store in memory does that has been given the same calls, whatever
has been done to its version record in between (`StoreConnection.matchesMemory`).  A place without a store gets a new
one, and a store is opened exactly if its version is the current one; whether it is opened or not, its pairs stay
(`Workplace.opensStores`).  Both together are `stores_interchangeable`.
-/

namespace GraphQuery

/-! ## Store files -/

namespace StoreFile

theorem openAt_of_current {file : StoreFile} (h : file.version = some currentVersion) (path : String) :
    file.openAt path = .ok file.content := by
  rw [openAt, h]
  exact if_pos rfl

/-- A file without a version, or with another one, is not opened. -/
theorem exists_of_openAt {file : StoreFile} (h : file.version ≠ some currentVersion) (path : String) :
    ∃ fault, file.openAt path = .error (.argument fault) := by
  rw [openAt]
  cases hversion : file.version with
  | none =>
      exact ⟨_, rfl⟩
  | some v =>
      have hother : v ≠ currentVersion := fun hv => h (by rw [hversion, hv])
      exact ⟨_, if_neg hother⟩

end StoreFile

/-! ## Calls -/

namespace Store

/-- A call of a store. -/
inductive Call where
  | get (key : String)
  | set (key value : String)
  | delete (key : String)
  | keys

/-- The answer to a call. -/
inductive Answer where
  | found (value : Option String)
  | written
  | deleted (wasThere : Bool)
  | listed (keys : List String)

def call (store : Store) : Call → Store × Outcome Answer
  | .get key => (store, .ok (.found (store.get? key)))
  | .set key value =>
    match store.write key value with
    | .ok after => (after, .ok .written)
    | .error e => (store, .error e)
  | .delete key => ((store.delete key).1, .ok (.deleted (store.delete key).2))
  | .keys => (store, .ok (.listed store.keys))

/-- The answers to calls, one after the other. -/
def answers : Store → List Call → List (Outcome Answer)
  | _, [] => []
  | store, c :: rest => (store.call c).2 :: answers (store.call c).1 rest

/-- The store after calls. -/
def afterCalls (store : Store) (calls : List Call) : Store := calls.foldl (fun s c => (s.call c).1) store

end Store

namespace StoreConnection

/-- What happens to a store file in use: a call, closing and opening it again, or a change of its version record from
outside. -/
inductive Step where
  | call (c : Store.Call)
  | reopen
  | setVersion (version : Option String)

def call (connection : StoreConnection) : Store.Call → StoreConnection × Outcome Store.Answer
  | .get key => (connection, (connection.get? key).map .found)
  | .set key value =>
    match connection.set key value with
    | .ok after => (after, .ok .written)
    | .error e => (connection, .error e)
  | .delete key =>
    match connection.delete key with
    | .ok (after, wasThere) => (after, .ok (.deleted wasThere))
    | .error e => (connection, .error e)
  | .keys => (connection, connection.keys.map .listed)

def after (connection : StoreConnection) : Step → StoreConnection
  | .call c => (connection.call c).1
  | .reopen => connection.reopen.1
  | .setVersion version => connection.setVersion version

def afterSteps (connection : StoreConnection) (steps : List Step) : StoreConnection :=
  steps.foldl after connection

/-- The calls among steps that are made while the file is open, with their answers. -/
def answered : StoreConnection → List Step → List (Store.Call × Outcome Store.Answer)
  | _, [] => []
  | connection, step :: rest =>
    match step with
    | .call c =>
      (if connection.isOpen then [(c, (connection.call c).2)] else []) ++ answered (connection.after step) rest
    | _ => answered (connection.after step) rest

/-- The store in memory with the pairs of a file. -/
def inMemory (connection : StoreConnection) : Store := ⟨connection.file.content, false⟩

variable {connection : StoreConnection}

/-! ### One step -/

theorem content_of_isOpen (h : connection.isOpen = true) : connection.content = .ok connection.file.content := by
  rw [content, if_pos h]

theorem content_of_closed (h : connection.isOpen = false) : connection.content = .error .closedStore := by
  rw [content, h]
  rfl

/-- An open file answers a call as the store in memory does, and then has the same pairs. -/
theorem call_of_isOpen (h : connection.isOpen = true) (c : Store.Call) :
    (connection.call c).2 = (connection.inMemory.call c).2 ∧
      (connection.call c).1.inMemory = (connection.inMemory.call c).1 := by
  have hcontent := content_of_isOpen h
  cases c with
  | get key =>
      rw [call, get?, hcontent]
      exact ⟨rfl, rfl⟩
  | set key value =>
      rw [call, set, hcontent]
      exact ⟨rfl, rfl⟩
  | delete key =>
      rw [call, delete, hcontent]
      exact ⟨rfl, rfl⟩
  | keys =>
      rw [call, keys_eq, hcontent]
      exact ⟨rfl, rfl⟩

/-- A closed file refuses every call and stays as it is. -/
theorem call_of_closed (h : connection.isOpen = false) (c : Store.Call) :
    connection.call c = (connection, .error .closedStore) := by
  have hcontent := content_of_closed h
  cases c with
  | get key =>
      rw [call, get?, hcontent]
      rfl
  | set key value =>
      rw [call, set, hcontent]
      rfl
  | delete key =>
      rw [call, delete, hcontent]
      rfl
  | keys =>
      rw [call, keys_eq, hcontent]
      rfl

theorem reopen_of_current (h : connection.file.version = some StoreFile.currentVersion) :
    connection.reopen = ({ connection with isOpen := true }, .ok ()) := by
  rw [reopen, StoreFile.openAt_of_current h]

theorem exists_of_reopen (h : connection.file.version ≠ some StoreFile.currentVersion) :
    ∃ fault, connection.reopen = ({ connection with isOpen := false }, .error (.argument fault)) := by
  obtain ⟨fault, hfault⟩ := StoreFile.exists_of_openAt h connection.path
  rw [reopen, hfault]
  exact ⟨fault, rfl⟩

theorem file_reopen (connection : StoreConnection) : connection.reopen.1.file = connection.file := by
  rw [reopen]
  split <;> rfl

/-! ### Runs -/

/-- The calls that an open file is given get the answers of the store in memory, and leave its pairs. -/
theorem answered_eq (steps : List Step) :
    (connection.answered steps).map (·.2) = connection.inMemory.answers ((connection.answered steps).map (·.1)) ∧
      (connection.afterSteps steps).inMemory =
        connection.inMemory.afterCalls ((connection.answered steps).map (·.1)) := by
  -- By induction on the steps: the pairs of the file and those in memory stay the same.
  induction steps generalizing connection with
  | nil =>
      exact ⟨rfl, rfl⟩
  | cons step rest ih =>
      have hafter : connection.afterSteps (step :: rest) = (connection.after step).afterSteps rest := rfl
      rw [hafter]
      cases step with
      | call c =>
          cases hopen : connection.isOpen with
          | true =>
              obtain ⟨hanswer, hpairs⟩ := call_of_isOpen hopen c
              have hanswered : connection.answered (.call c :: rest) =
                  (c, (connection.call c).2) :: (connection.call c).1.answered rest := by
                rw [answered, hopen]
                rfl
              rw [hanswered, List.map_cons, List.map_cons, Store.answers, ← hanswer, ← hpairs]
              refine ⟨congrArg _ ih.1, ih.2.trans ?_⟩
              show _ = ((connection.inMemory.call c).1).afterCalls _
              rw [← hpairs]
              rfl
          | false =>
              have hanswered : connection.answered (.call c :: rest) = connection.answered rest := by
                rw [answered, hopen, after, call_of_closed hopen]
                rfl
              have hsame : connection.after (.call c) = connection := by
                rw [after, call_of_closed hopen]
              rw [hanswered, hsame]
              exact ih
      | reopen =>
          have hpairs : (connection.after .reopen).inMemory = connection.inMemory := by
            rw [after, inMemory, file_reopen, inMemory]
          have hanswered : connection.answered (.reopen :: rest) = (connection.after .reopen).answered rest := rfl
          rw [hanswered, ← hpairs]
          exact ih
      | setVersion version =>
          exact ih

/-- How a store in a file is like one in memory with the same pairs. -/
structure MatchesMemory (connection : StoreConnection) : Prop where
  /-- The answers that are given while the file is open are those of the store in memory to the same calls. -/
  answers : ∀ steps, (connection.answered steps).map (·.2) =
    connection.inMemory.answers ((connection.answered steps).map (·.1))
  /-- After any steps the pairs are those of the store in memory after the same calls. -/
  pairs : ∀ steps, (connection.afterSteps steps).inMemory =
    connection.inMemory.afterCalls ((connection.answered steps).map (·.1))
  answersWhileOpen : connection.isOpen = true → ∀ c, ∃ answer, (connection.call c).2 = .ok answer
  refusesWhileClosed : connection.isOpen = false → ∀ c, connection.call c = (connection, .error .closedStore)
  reopens : connection.file.version = some StoreFile.currentVersion →
    connection.reopen = ({ connection with isOpen := true }, .ok ())
  refuses : connection.file.version ≠ some StoreFile.currentVersion →
    ∃ e, connection.reopen = ({ connection with isOpen := false }, .error e) ∧ e.kindName = "ValueError"
  /-- Whatever the version was when the file was last opened, the pairs are back once it is restored. -/
  restores : ∀ version,
    let damaged := (connection.setVersion version).reopen.1
    let restored := (damaged.setVersion (some StoreFile.currentVersion)).reopen
    restored.2 = .ok () ∧ restored.1.isOpen = true ∧ restored.1.inMemory = connection.inMemory

theorem exists_answer (h : connection.isOpen = true) (c : Store.Call) :
    ∃ answer, (connection.call c).2 = .ok answer := by
  rw [(call_of_isOpen h c).1]
  cases c <;> exact ⟨_, rfl⟩

theorem matchesMemory (connection : StoreConnection) : connection.MatchesMemory where
  answers := fun steps => (answered_eq steps).1
  pairs := fun steps => (answered_eq steps).2
  answersWhileOpen := exists_answer
  refusesWhileClosed := call_of_closed
  reopens := reopen_of_current
  refuses := by
    intro hversion
    obtain ⟨fault, hreopen⟩ := exists_of_reopen hversion
    exact ⟨_, hreopen, rfl⟩
  restores := by
    intro version damaged restored
    have hrestored : restored = _ := reopen_of_current rfl
    have hfile : damaged.file = (connection.setVersion version).file := file_reopen _
    rw [hrestored]
    refine ⟨rfl, rfl, ?_⟩
    show Store.mk damaged.file.content false = _
    rw [hfile]
    rfl

end StoreConnection

/-! ## Opening -/

namespace FileTree

variable {tree : FileTree} {place : Location} {content : FileContent}

/-- A file that takes the place of another is found at the same place. -/
theorem map_putAt_of_mem {files : List (Location × FileContent)} (h : place ∈ files.map (·.1)) :
    (putAt files place content).map (·.1) = files.map (·.1) := by
  induction files with
  | nil =>
      cases h
  | cons file rest ih =>
      obtain ⟨known, old⟩ := file
      rw [putAt]
      split_ifs with hknown
      · rfl
      · rcases List.mem_cons.1 h with rfl | hrest
        · exact absurd rfl hknown
        · rw [List.map_cons, List.map_cons, ih hrest]

theorem mem_of_find? (h : tree.find? place = some content) : place ∈ tree.files.map (·.1) := by
  obtain ⟨file, hfile, -⟩ := Option.map_eq_some_iff.1 h
  have hplace : file.1 = place := by
    simpa using List.find?_some hfile
  exact hplace ▸ List.mem_map_of_mem (List.mem_of_find?_eq_some hfile)

/-- Putting another file in the place of one changes no directory, so paths lead where they led before. -/
theorem storePlace_put {old : FileContent} (h : tree.find? place = some old) (path : String) :
    (tree.put place content).storePlace path = tree.storePlace path := by
  have hplaces : (tree.put place content).files.map (·.1) = tree.files.map (·.1) := map_putAt_of_mem (mem_of_find? h)
  have hany : ∀ p : Location → Bool, (tree.put place content).files.any (fun file => p file.1) =
      tree.files.any fun file => p file.1 := by
    intro p
    have hmapped := congrArg (List.any · p) hplaces
    simpa only [List.any_map, Function.comp_def] using hmapped
  have hblocked : ∀ p, (tree.put place content).isBlocked p = tree.isBlocked p := fun p =>
    hany fun file => file.isPrefixOf p.dropLast
  have hdirectory : ∀ p, (tree.put place content).hasDirectory p = tree.hasDirectory p := fun p =>
    congrArg _ (hany fun file => p.isPrefixOf file.dropLast)
  have hfollow : ∀ (names : List String) (start : Location),
      (tree.put place content).followLoosely start names = tree.followLoosely start names := by
    intro names
    induction names with
    | nil =>
        exact fun _ => rfl
    | cons name rest ih =>
        intro start
        rw [followLoosely, followLoosely, hblocked, ih]
  have hstart : (tree.put place content).current = tree.current := rfl
  rw [storePlace, storePlace, hfollow, hstart]
  simp only [hdirectory]

/-- Whether a place has no file yet, or one in which no store has been started. -/
def IsNew (tree : FileTree) (place : Location) : Prop :=
  tree.find? place = none ∨ ∃ s, tree.find? place = some (.text s) ∧ s.utf8ByteSize ≤ 1

theorem openStore_of_isNew {path : String} (hpath : path ≠ unkept) (hplace : tree.storePlace path = .ok place)
    (hnew : tree.IsNew place) : tree.openStore path = .ok (tree.put place (.store .fresh), []) := by
  rw [openStore, if_neg hpath, hplace]
  rcases hnew with hnone | ⟨s, hsome, hshort⟩
  · simp only [bind, Except.bind, hnone]
    rfl
  · simp only [bind, Except.bind, hsome, if_pos hshort]
    rfl

theorem openStore_of_store {path : String} (hpath : path ≠ unkept) (hplace : tree.storePlace path = .ok place)
    {file : StoreFile} (hfile : tree.find? place = some (.store file)) :
    tree.openStore path = (file.openAt path).map fun content => (tree.put place (.store file), content) := by
  rw [openStore, if_neg hpath, hplace]
  simp only [bind, Except.bind, hfile]
  cases file.openAt path <;> rfl

/-- Opening puts a store at one place at most, and the one that was there if there was one. -/
theorem exists_of_openStore {path : String} {opened : FileTree × KeyValues} (h : tree.openStore path = .ok opened) :
    opened.1 = tree ∨ ∃ there held, opened.1 = tree.put there (.store held) ∧
      ∀ file, tree.find? there = some (.store file) → held = file := by
  rw [openStore] at h
  split_ifs at h with hunkept
  · cases h
    exact Or.inl rfl
  · obtain ⟨there, -, h⟩ := Outcome.exists_of_bind_eq_ok h
    have hput : ∀ {held : StoreFile}, (do
        let content ← held.openAt path
        return (tree.put there (.store held), content) : Outcome (FileTree × KeyValues)) = .ok opened →
          opened.1 = tree.put there (.store held) := by
      intro held hheld
      obtain ⟨content, -, heq⟩ := Outcome.exists_of_bind_eq_ok hheld
      cases heq
      rfl
    refine Or.inr ⟨there, ?_⟩
    cases hfound : tree.find? there with
    | none =>
        rw [hfound] at h
        exact ⟨.fresh, hput h, nofun⟩
    | some content =>
        rw [hfound] at h
        cases content with
        | text s =>
            dsimp only at h
            split_ifs at h
            · exact ⟨.fresh, hput h, nofun⟩
            · cases h
        | store file =>
            refine ⟨file, hput h, ?_⟩
            rintro _ ⟨⟩
            rfl

/-- A store that is opened stays as it is, and so do all others. -/
theorem find?_of_openStore {path : String} {opened : FileTree × KeyValues} (h : tree.openStore path = .ok opened)
    {file : StoreFile} (hfile : tree.find? place = some (.store file)) :
    opened.1.find? place = some (.store file) := by
  obtain hsame | ⟨there, held, hput, hheld⟩ := exists_of_openStore h
  · rw [hsame, hfile]
  · rw [hput]
    by_cases hplace : place = there
    · subst hplace
      rw [find?_put, hheld file hfile]
    · rw [find?_put_of_ne tree _ hplace, hfile]

end FileTree

namespace Workplace

variable {work : Workplace} {path : String}

/-- The workplace with another store file at a place. -/
def withStoreFile (work : Workplace) (place : Location) (file : StoreFile) : Workplace :=
  { work with files := work.files.put place (.store file) }

/-- What opening the store at a path does; `:memory:` is the path of a store that is kept in no file. -/
structure OpensStores (work : Workplace) (path : String) : Prop where
  /-- A place without a store gets an empty one of the current version. -/
  starts : ∀ place, path ≠ FileTree.unkept → work.files.storePlace path = .ok place → work.files.IsNew place →
    (work.openStore (some path)).2 = .ok (some ⟨[], false⟩) ∧
      (work.openStore (some path)).1.files.find? place = some (.store ⟨some StoreFile.currentVersion, []⟩)
  /-- A store of the current version is opened with its pairs. -/
  opens : ∀ place file, path ≠ FileTree.unkept → work.files.storePlace path = .ok place →
    work.files.find? place = some (.store file) → file.version = some StoreFile.currentVersion →
      (work.openStore (some path)).2 = .ok (some ⟨file.content, false⟩)
  /-- A store without a version, or of another one, is refused. -/
  refuses : ∀ place file, path ≠ FileTree.unkept → work.files.storePlace path = .ok place →
    work.files.find? place = some (.store file) → file.version ≠ some StoreFile.currentVersion →
      ∃ e, (work.openStore (some path)).2 = .error e ∧ e.kindName = "ValueError"
  /-- No store is changed, whether one is opened or refused. -/
  keeps : ∀ place file, work.files.find? place = some (.store file) →
    (work.openStore (some path)).1.files.find? place = some (.store file)
  /-- With the version restored, a store is opened with all its pairs. -/
  restores : ∀ place file, path ≠ FileTree.unkept → work.files.storePlace path = .ok place →
    work.files.find? place = some (.store file) →
      ((work.withStoreFile place ⟨some StoreFile.currentVersion, file.content⟩).openStore (some path)).2 =
        .ok (some ⟨file.content, false⟩)

theorem openStore_of_eq_ok {opened : FileTree × KeyValues} (h : work.files.openStore path = .ok opened) :
    work.openStore (some path) = ({ work with files := opened.1 }, .ok (some ⟨opened.2, false⟩)) := by
  rw [openStore, h]

theorem openStore_of_eq_error {e : Failure} (h : work.files.openStore path = .error e) :
    work.openStore (some path) = (work, .error e) := by
  rw [openStore, h]

theorem openStore_of_current {place : Location} {file : StoreFile} (hpath : path ≠ FileTree.unkept)
    (hplace : work.files.storePlace path = .ok place) (hfile : work.files.find? place = some (.store file))
    (hversion : file.version = some StoreFile.currentVersion) :
    (work.openStore (some path)).2 = .ok (some ⟨file.content, false⟩) := by
  have hopen := FileTree.openStore_of_store hpath hplace hfile
  rw [StoreFile.openAt_of_current hversion] at hopen
  rw [openStore_of_eq_ok hopen]

theorem opensStores (work : Workplace) (path : String) : work.OpensStores path where
  starts := by
    intro place hpath hplace hnew
    rw [openStore_of_eq_ok (FileTree.openStore_of_isNew hpath hplace hnew)]
    exact ⟨rfl, FileTree.find?_put _ _ _⟩
  opens := fun _ _ => openStore_of_current
  refuses := by
    intro place file hpath hplace hfile hversion
    obtain ⟨fault, hfault⟩ := StoreFile.exists_of_openAt hversion path
    have hopen := FileTree.openStore_of_store hpath hplace hfile
    rw [hfault] at hopen
    rw [openStore_of_eq_error hopen]
    exact ⟨_, rfl, rfl⟩
  keeps := by
    intro place file hfile
    cases hopen : work.files.openStore path with
    | ok opened =>
        rw [openStore_of_eq_ok hopen]
        exact FileTree.find?_of_openStore hopen hfile
    | error e =>
        rw [openStore_of_eq_error hopen]
        exact hfile
  restores := by
    intro place file hpath hplace hfile
    let restored : StoreFile := ⟨some StoreFile.currentVersion, file.content⟩
    have hsame : (work.withStoreFile place restored).files.storePlace path = .ok place :=
      (FileTree.storePlace_put hfile path).trans hplace
    have hstored : (work.withStoreFile place restored).files.find? place = some (.store restored) :=
      FileTree.find?_put _ _ _
    have hopened := openStore_of_current hpath hsame hstored rfl
    exact hopened

end Workplace

/-- Stores in memory and in files are interchangeable.  A file in use answers each call while it is open as a store in
memory does that has been given the same calls.  Opening starts a new store where there is none, refuses a store
exactly if its version is not the current one, and changes no pair. -/
theorem stores_interchangeable :
    (∀ connection : StoreConnection, connection.MatchesMemory) ∧
      ∀ (work : Workplace) (path : String), work.OpensStores path :=
  ⟨StoreConnection.matchesMemory, Workplace.opensStores⟩

end GraphQuery
