import GraphQuery.Failure

/-!
# Paths and places

A path is a text; the place that it leads to is a list of names from the root.  `Location.resolve` is
lexical: it makes a path absolute and takes out empty names, single dots and double dots, whatever is
there.  `Location.within?` resolves a path that must stay inside a base directory.
-/

namespace GraphQuery

/-- A place below the root: the names on the way to it. -/
abbrev Location := List String

namespace Location

/-- The pieces between slashes, empty ones included. -/
def splitSlashes : List Char → List (List Char)
  | [] => [[]]
  | c :: rest =>
    if c = '/' then [] :: splitSlashes rest
    else
      match splitSlashes rest with
      | [] => [[c]]
      | piece :: pieces => (c :: piece) :: pieces

/-- All names of a path, as they stand. -/
def pieces (path : String) : List String := (splitSlashes path.toList).map String.ofList

/-- The names of a path without empty ones and single dots, which lead nowhere. -/
def names (path : String) : List String :=
  (pieces path).filter fun name => name ≠ "" && name ≠ "."

def isAbsolute (path : String) : Bool := path.toList.head? = some '/'

/-- One step from a place: a double dot leads back, any other name on. -/
def enter (place : Location) (name : String) : Location :=
  if name = ".." then place.dropLast
  else if name = "" || name = "." then place
  else place ++ [name]

/-- Where a path starts. -/
def startOf (current : Location) (path : String) : Location :=
  if isAbsolute path then [] else current

/-- The place that a path leads to from the current directory. -/
def resolve (current : Location) (path : String) : Location :=
  (names path).foldl enter (startOf current path)

/-- The absolute path of a place. -/
def text (place : Location) : String := "/" ++ "/".intercalate place

/-- A path in its shortest spelling that keeps double dots; two slashes at the start, and no more, are
kept. -/
def tidied (path : String) : String :=
  let slashes := (path.toList.takeWhile (· = '/')).length
  let root := if slashes = 0 then "" else if slashes = 2 then "//" else "/"
  let shown := root ++ "/".intercalate (names path)
  if shown = "" then "." else shown

def hasNull (path : String) : Bool := path.toList.contains (Char.ofNat 0)

/-- The place of a path, which must lie inside the base directory if there is one. -/
def within? (current : Location) (base : Option String) (path : String) : Outcome Location :=
  if hasNull path then .error (.argument (.nullInPath path))
  else
    let place := resolve current path
    match base with
    | none => .ok place
    | some base =>
      if hasNull base then .error (.argument .nullInBase)
      else if (resolve current base).isPrefixOf place then .ok place
      else .error (.argument (.outsideBase path (tidied base)))

end Location
end GraphQuery
