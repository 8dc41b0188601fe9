import GraphQuery.Pattern.Matcher

/-!
# Searching

A search tries a pattern at the places of a text in turn.  It passes over places that cannot do: a
text shorter than the pattern has none, and where the first character must be in a set, only places
before such a character are tried.
-/

namespace GraphQuery
namespace Pattern

/-- The trial of the pattern at one place, if it finds a match. -/
def matchAt (p : Pattern) (cur : Cursor) : Option Attempt :=
  let attempt := p.run false .other cur ⟨[], cur⟩ arrive
  if attempt.found then some attempt else none

/-- The first trial that finds a match, from a place on; `isPlace` tells by the characters that follow
a place whether it is tried. -/
def searchFrom (p : Pattern) (isPlace : List Char → Bool) (before : List Char) (position : Nat) :
    List Char → Option Attempt
  | [] => if isPlace [] then p.matchAt ⟨position, before, []⟩ else none
  | c :: rest =>
    let here := if isPlace (c :: rest) then p.matchAt ⟨position, before, c :: rest⟩ else none
    match here with
    | some attempt => some attempt
    | none => p.searchFrom isPlace (c :: before) (position + 1) rest

/-- The first match of the pattern in a text.  `basic` says that the classes of the whole pattern are
the basic ones. -/
def search (p : Pattern) (basic : Bool) (s : List Char) : Option Attempt :=
  let low := p.width.low
  let isPlace : List Char → Bool :=
    if low = 0 then fun _ => true
    else if p.beginsWithPoint then fun rest => !rest.isEmpty
    else
      match p.firstTest? basic with
      | some test => fun rest => rest.head?.any test.holds
      | none => fun rest => low ≤ rest.length + 1
  if s.length < low then none else p.searchFrom isPlace [] 0 s

end Pattern
end GraphQuery
