import GraphQuery.Failure
import GraphQuery.Search.Index
import GraphQuery.Search.Score

/-!
# Text search and suggestions

A search finds the entries whose text contains the query, or holds its characters in order, and arranges
them by descending score; entries of equal score stay in index order.  Suggestions are the distinct
words that continue what has been typed.
-/

namespace GraphQuery

/-- A found entity and how well it matches. -/
structure SearchResult where
  entity : Entity
  score : Binary64

/-- How a search is carried out. -/
structure SearchMode where
  caseSensitive : Bool := false
  /-- Whether the query must be contained as a whole. -/
  exact : Bool := false
  nodes : Bool := true
  edges : Bool := true

namespace SearchMode

/-- Whether entries of a kind are looked at. -/
def covers (mode : SearchMode) : EntityKind → Bool
  | .node => mode.nodes
  | .edge => mode.edges

/-- The text of an entry that is searched. -/
def haystack (mode : SearchMode) (entry : IndexEntry) : String :=
  if mode.caseSensitive then entry.rawText else entry.text

/-- The form of the query that is searched for. -/
def needle (mode : SearchMode) (query : String) : String :=
  if mode.caseSensitive then query else Text.lowercase query

/-- Whether an entry matches. -/
def finds (mode : SearchMode) (query : String) (entry : IndexEntry) : Bool :=
  let haystack := mode.haystack entry
  let needle := mode.needle query
  mode.covers entry.kind &&
    if mode.exact then Text.contains haystack needle else Text.isScattered haystack needle

/-- The score of an entry. -/
def score (mode : SearchMode) (query : String) (entry : IndexEntry) : Binary64 :=
  relevance (mode.haystack entry) (mode.needle query)

end SearchMode

/-- The items that a limit leaves; a negative one leaves none. -/
def takeLimit {α : Type} (limit : Int) (xs : List α) : List α := xs.take limit.toNat

namespace SearchIndex

/-- All results of a query that is not empty, best first. -/
def ranking (index : SearchIndex) (mode : SearchMode) (query : String) : List SearchResult :=
  let found := (entries index).filter (mode.finds query)
  -- The sort is stable, so equal scores stay in index order.
  let results := found.map fun entry => SearchResult.mk entry.entity (mode.score query entry)
  results.mergeSort fun a b => b.score.toRat ≤ a.score.toRat

/-- The best results of a query, at most `limit`; an empty query has none. -/
def search (index : SearchIndex) (mode : SearchMode) (query : String) (limit : Int) :
    List SearchResult :=
  if query = "" then [] else takeLimit limit (ranking index mode query)

/-- Whether the characters of a text occur in it in the order of the given values. -/
def holdsInOrder : List Char → List Value → Bool
  | _, [] => true
  | [], _ :: _ => false
  | c :: text, v :: rest =>
    if Value.text (String.singleton c) == v then holdsInOrder text rest
    else holdsInOrder text (v :: rest)

/-- What looking for a query that is no text in one entry comes to: a failure, or nothing is found.
Collections are looked for item by item, and fail only once they are found. -/
def refusal (mode : SearchMode) (query : Value) (entry : IndexEntry) : Outcome Unit :=
  let text := (mode.haystack entry).toList
  if mode.exact then .error .mismatch
  else
    match query with
    | .list items | .tuple items => if holdsInOrder text items then .error .mismatch else .ok ()
    | .set _ _ => if text.isEmpty then .ok () else .error .mismatch
    | .mapping _ | .table _ => if text.isEmpty then .ok () else .error .noSuchKey
    | _ => .error .mismatch

/-- All results of a free-form query, best first.  A query that is no text has no results, and fails on most
entries; it has no lowercase form either. -/
def findings (index : SearchIndex) (mode : SearchMode) (query : Value) :
    Outcome (List SearchResult) :=
  match query with
  | .text s => .ok (ranking index mode s)
  | query =>
    if !mode.caseSensitive then .error .noSuchPart
    else do
      ((entries index).filter fun entry => mode.covers entry.kind).forM (refusal mode query)
      return []

/-- How many results a limit leaves: none if it lies below zero, however it is given. -/
def limitCount (limit : Value) : Outcome Nat :=
  match limit.number? with
  | none => .error .mismatch
  | some place =>
    if place.less (.exact 0) then .ok 0
    else
      match limit with
      | .int n => .ok n.toNat
      | .bool b => .ok (if b then 1 else 0)
      | _ => .error .mismatch

/-- Whether a word continues what has been typed: it starts with it and is longer. -/
def continues (start word : String) : Bool := start.length < word.length && Text.startsWith word start

/-- Keeps the distinct words that continue a start, in order, until there are as many as the limit. -/
def collect (start : String) (limit : Nat) : List String → List String → List String
  | kept, [] => kept
  | kept, word :: rest =>
    if continues start word then
      let kept := if kept.contains word then kept else kept ++ [word]
      if limit ≤ kept.length then kept else collect start limit kept rest
    else collect start limit kept rest

/-- The first distinct words that start with what has been typed and are longer. -/
def suggestions (index : SearchIndex) (typed : String) (limit : Int) : List String :=
  if typed = "" || limit ≤ 0 then []
  else collect (Text.lowercase typed) limit.toNat [] (tokens index)

end SearchIndex
end GraphQuery
