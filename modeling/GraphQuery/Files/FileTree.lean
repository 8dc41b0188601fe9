import GraphQuery.Files.Location
import GraphQuery.Store.KeyValue

/-!
# Files

A `FileTree` is what there is to read and write: files with their contents, directories, and the
directory that relative paths start from.  A file holds a text or a key-value store.  Every directory
above a file is there.
-/

namespace GraphQuery

inductive FileContent where
  | text (s : String)
  | store (file : StoreFile)
deriving DecidableEq, Repr

structure FileTree where
  current : Location
  files : List (Location × FileContent)
  /-- Directories, whether there are files in them or not. -/
  directories : List Location
deriving Repr

namespace FileTree

/-- A tree with an empty current directory. -/
def empty (current : Location) : FileTree := ⟨current, [], []⟩

def find? (tree : FileTree) (place : Location) : Option FileContent :=
  (tree.files.find? (·.1 = place)).map (·.2)

def hasFile (tree : FileTree) (place : Location) : Bool := tree.files.any (·.1 = place)

def hasDirectory (tree : FileTree) (place : Location) : Bool :=
  place.isPrefixOf tree.current || tree.directories.any (fun d => place.isPrefixOf d) ||
    tree.files.any fun file => place.isPrefixOf file.1.dropLast

/-- Sets the content at a place: a known file keeps its place in the list, a new one comes last. -/
def putAt : List (Location × FileContent) → Location → FileContent →
    List (Location × FileContent)
  | [], place, content => [(place, content)]
  | (known, old) :: rest, place, content =>
    if known = place then (known, content) :: rest else (known, old) :: putAt rest place content

def put (tree : FileTree) (place : Location) (content : FileContent) : FileTree :=
  { tree with files := putAt tree.files place content }

/-! ## Following paths -/

/-- Follows names from a place; each must be looked up in a directory that is there. -/
def follow (tree : FileTree) : Location → List String → Outcome Location
  | place, [] => .ok place
  | place, name :: rest =>
    if tree.hasDirectory place then follow tree (Location.enter place name) rest
    else if tree.hasFile place then .error .notDirectory
    else .error .noSuchFile

/-- Follows a path, empty names and single dots left out. -/
def followPath (tree : FileTree) (path : String) : Outcome Location :=
  tree.follow (Location.startOf tree.current path) (Location.names path)

/-- Follows a path as it is spelled: what stands before a slash must be a directory. -/
def followSpelling (tree : FileTree) (path : String) : Outcome Location :=
  if path = "" then .error .noSuchFile
  else tree.follow (Location.startOf tree.current path) (Location.pieces path)

/-- Whether a place is taken by a file or a directory. -/
def isTaken (tree : FileTree) (place : Location) : Bool :=
  tree.hasFile place || tree.hasDirectory place

/-- Whether following led to something. -/
def leadsSomewhere (tree : FileTree) (followed : Outcome Location) : Bool :=
  match followed with
  | .ok place => tree.isTaken place
  | .error _ => false

/-! ## Reading and writing texts -/

/-- A text with line ends of one kind: a carriage return, alone or before a line feed, is read as a line
feed. -/
def unifiedLines : List Char → List Char
  | [] => []
  | '\r' :: '\n' :: rest => '\n' :: unifiedLines rest
  | '\r' :: rest => '\n' :: unifiedLines rest
  | c :: rest => c :: unifiedLines rest

/-- The text at a place. -/
def readAt (tree : FileTree) (place : Location) : Outcome String :=
  match tree.find? place with
  | some (.text s) => .ok (String.ofList (unifiedLines s.toList))
  | some (.store _) => .error .notText
  | none => if tree.hasDirectory place then .error .isDirectory else .error .noSuchFile

/-- The text of the file at a path. -/
def read (tree : FileTree) (path : String) : Outcome String := do
  tree.readAt (← tree.followPath path)

/-- The text of the file at a place that a path has been resolved to. -/
def readResolved (tree : FileTree) (place : Location) : Outcome String := do
  tree.readAt (← tree.follow [] place)

/-- Puts a text at a place that is not a directory's. -/
def writeAt (tree : FileTree) (place : Location) (s : String) : Outcome FileTree :=
  if tree.hasDirectory place then .error .isDirectory else .ok (tree.put place (.text s))

/-- Writes a text to the file at a path. -/
def write (tree : FileTree) (path s : String) : Outcome FileTree := do
  tree.writeAt (← tree.followPath path) s

/-- Makes the directory at a place and those above it. -/
def makeDirectories (tree : FileTree) (place : Location) : Outcome FileTree :=
  if tree.hasDirectory place then .ok tree
  else if tree.hasFile place then .error .fileInPlace
  else if tree.files.any fun file => file.1.isPrefixOf place then .error .notDirectory
  else .ok { tree with directories := tree.directories ++ [place] }

/-! ## Stores in files -/

/-- The path that stands for a store that is kept in no file. -/
def unkept : String := ":memory:"

/-- Whether a file stands where a directory is needed on the way to a place. -/
def isBlocked (tree : FileTree) (place : Location) : Bool :=
  tree.files.any fun file => file.1.isPrefixOf place.dropLast

/-- Follows names from a place without asking whether the directories on the way are there; a file on the
way is no directory. -/
def followLoosely (tree : FileTree) : Location → List String → Outcome Location
  | place, [] => .ok place
  | place, name :: rest =>
    let next := Location.enter place name
    if tree.isBlocked next then .error .noStorePlace else followLoosely tree next rest

/-- The place of a store's file, in a directory that is there.  The path to it is taken as names alone, so
what stands before a double dot need not be there. -/
def storePlace (tree : FileTree) (path : String) : Outcome Location := do
  let place ← tree.followLoosely (Location.startOf tree.current path) (Location.names path)
  if tree.hasDirectory place || !tree.hasDirectory place.dropLast then throw .noStorePlace
  else return place

/-- Opens the store at a path.  A place without a file, with an empty one or with one of a single byte gets
a new store. -/
def openStore (tree : FileTree) (path : String) : Outcome (FileTree × KeyValues) :=
  if path = unkept then .ok (tree, [])
  else do
    let place ← tree.storePlace path
    let file ← match tree.find? place with
      | none => .ok StoreFile.fresh
      | some (.text s) => if s.utf8ByteSize ≤ 1 then .ok StoreFile.fresh else .error .notStore
      | some (.store file) => .ok file
    let content ← file.openAt path
    return (tree.put place (.store file), content)

/-- Keeps the content of the store that was opened at a path. -/
def keepStore (tree : FileTree) (path : String) (content : KeyValues) : FileTree :=
  if path = unkept then tree
  else
    match tree.storePlace path with
    | .ok place => tree.put place (.store ⟨some StoreFile.currentVersion, content⟩)
    | .error _ => tree

end FileTree
end GraphQuery
