import GraphQuery.Pattern.Scope

/-!
# Reading tokens

A pattern is read as a sequence of tokens, a token being one character or a backslash with the character
after it.  `Reader` is a computation on what is left of them and on the groups met so far; it ends early
with a `PatternFault`.
-/

namespace GraphQuery

/-- Why a text is no pattern, or why a search with it has no answer. -/
inductive PatternFault where
  | malformed
  /-- A repetition count is out of range. -/
  | countTooLarge
  /-- A repetition count of more digits than numbers are read from. -/
  | countTooLong (digits : Nat)
  /-- More groups are open at once than are read. -/
  | nestedTooDeep
  /-- The whole pattern is declared both basic and full in its character classes. -/
  | clashingFlags
  /-- What is looked for behind a place is too wide. -/
  | behindTooWide
  /-- A match was found in which a group ends before it begins. -/
  | tangledGroups
deriving DecidableEq, Repr

namespace Pattern

/-- One character, or a backslash and a character. -/
structure Token where
  escaped : Bool
  char : Char
deriving DecidableEq

/-- Cuts a text into tokens, and says whether a backslash is left over at its end. -/
def tokens : List Char → List Token × Bool
  | [] => ([], false)
  | ['\\'] => ([], true)
  | '\\' :: c :: rest => ((⟨true, c⟩ :: (tokens rest).1), (tokens rest).2)
  | c :: rest => ((⟨false, c⟩ :: (tokens rest).1), (tokens rest).2)

/-- What has been read so far, apart from the pattern itself. -/
structure Progress where
  rest : List Token
  /-- Whether a backslash is left over after the last token. -/
  dangling : Bool
  /-- The flags of the whole pattern. -/
  scope : Scope
  /-- The width of each closed group; the entry of an open one is empty.  The whole is group zero. -/
  groupWidths : List (Option Width)
  names : List (String × Nat)
  /-- How many groups had begun when the outermost look behind began. -/
  groupsBeforeLook : Option Nat
  /-- The groups that conditions refer to by number. -/
  conditions : List Nat
  /-- How many groups are open. -/
  depth : Nat

abbrev Reader := StateT Progress (Except PatternFault)

namespace Reader

def fail {α : Type} : Reader α := throw .malformed

def peek : Reader (Option Token) := return (← get).rest.head?

def next : Reader (Option Token) := do
  let progress ← get
  match progress.rest with
  | [] => return none
  | t :: rest =>
    set { progress with rest }
    return some t

/-- Skips the given plain character if it comes next. -/
def accept (c : Char) : Reader Bool := do
  let progress ← get
  match progress.rest with
  | t :: rest =>
    if t = ⟨false, c⟩ then
      set { progress with rest }
      return true
    else return false
  | [] => return false

/-- Takes plain characters of a class, at most `n`. -/
def takeWhile (p : Char → Bool) : Nat → Reader (List Char)
  | 0 => return []
  | n + 1 => do
    match (← get).rest with
    | t :: rest =>
      if !t.escaped && p t.char then
        modify fun progress => { progress with rest }
        return t.char :: (← takeWhile p n)
      else return []
    | [] => return []

/-- Takes everything up to the given character, which must come and not come first. -/
def takeUntil (stop : Char) : Reader (List Char) := do
  let progress ← get
  let inside := progress.rest.takeWhile (· ≠ ⟨false, stop⟩)
  match progress.rest.drop inside.length with
  | [] => fail
  | _ :: rest =>
    if inside.isEmpty then fail
    else
      set { progress with rest }
      return inside.flatMap fun t => if t.escaped then ['\\', t.char] else [t.char]

/-- How many groups may be open at once. -/
def nestingLimit : Nat := 490

/-- Reads the inside of a group. -/
def inGroup {α : Type} (inside : Reader α) : Reader α := do
  let depth := (← get).depth
  if nestingLimit ≤ depth then throw .nestedTooDeep
  modify fun progress => { progress with depth := depth + 1 }
  let found ← inside
  modify fun progress => { progress with depth }
  return found

end Reader

end Pattern
end GraphQuery
