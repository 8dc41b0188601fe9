import GraphQuery.Number.Fixed
import GraphQuery.Text.Blank
import GraphQuery.Text.Subsequence

/-!
# Relevance

A match scores 100 points where the query is contained in the text, 50 more where the text starts with
it, and for every word 25 points where the word starts with the query and 75 more where it is the query.
A tenth of a point is taken off for every character of the text, and no score is below zero.
-/

namespace GraphQuery
namespace Score

/-- The points of one word. -/
def wordPoints (query word : List Char) : Nat :=
  (if query.isPrefixOf word then 25 else 0) + (if word = query then 75 else 0)

/-- The points of a match before its length is taken into account. -/
def points (text query : List Char) : Nat :=
  (if Text.hasPart query text then 100 else 0) + (if query.isPrefixOf text then 50 else 0) +
    ((Text.wordLists text).map (wordPoints query)).foldl (· + ·) 0

/-- A tenth, as a floating number. -/
def tenth : Binary64 := .ofQuotient false 1 10

/-- The floating difference of points and a tenth of a length, at least zero. -/
def settle (points length : Nat) : Binary64 :=
  let score := Binary64.sub (.ofNat points) (Binary64.mul (.ofNat length) tenth)
  if 0 < score.toRat then score else .zero

end Score

/-- How well a text matches a query. -/
def relevance (text query : String) : Binary64 :=
  Score.settle (Score.points text.toList query.toList) text.length

end GraphQuery
