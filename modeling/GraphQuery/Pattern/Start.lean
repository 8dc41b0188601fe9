import GraphQuery.Pattern.Basic

/-!
# How patterns start

What the first step of a pattern is decides where a search tries it at all, which alternatives are
passed over, and where a run of characters may end.

* `Pattern.start` — the first step;
* `Pattern.unit?` — the test that a pattern consists of;
* `Pattern.beginsWithPoint`, `Pattern.firstTest?` — what a search looks for before it tries a pattern.
-/

namespace GraphQuery
namespace Pattern

/-- The first step that a pattern takes. -/
inductive Start where
  /-- There is no step. -/
  | nothing
  | test (test : CharTest)
  | other

namespace Start

/-- The first step of one pattern followed by another. -/
def followedBy : Start → Start → Start
  | nothing, next => next
  | first, _ => first

/-- The code point that has to come next, as it is. -/
def point? : Start → Option Nat
  | test t => t.plainPoint?
  | _ => none

/-- Whether the next character is seen to fail without a trial. -/
def rulesOut (start : Start) (next : Option Char) : Bool :=
  match start with
  | test t => t.isPlain && !next.any t.holds
  | _ => false

end Start

def start : Pattern → Start
  | empty => .nothing
  | char t => .test t
  | seq p q => p.start.followedBy q.start
  | flagged p => p.start
  | _ => .other

/-- The test that the pattern consists of. -/
def unit? : Pattern → Option CharTest
  | char t => some t
  | flagged p => p.unit?
  | _ => none

/-! ## What a search looks for -/

/-- Whether the pattern begins with points compared as they are, and whether it has nothing else. -/
def leadingPoints : Pattern → Bool × Bool
  | empty => (false, true)
  | char t => (t.plainPoint?.isSome, t.plainPoint?.isSome)
  | seq p q =>
    match p.leadingPoints with
    | (any, true) => (any || q.leadingPoints.1, q.leadingPoints.2)
    | (any, false) => (any, false)
  | group _ p | flagged p => p.leadingPoints
  | _ => (false, false)

/-- Whether the pattern begins with a point compared as it is. -/
def beginsWithPoint (p : Pattern) : Bool := p.leadingPoints.1

/-- The first points of alternatives that all begin with a point compared as it is. -/
def alternativePoints? : Pattern → Option (List SetItem)
  | never => some []
  | alt p q =>
    let first? :=
      match p with
      | char t | seq (char t) _ => t.plainPoint?
      | _ => none
    match first?, q.alternativePoints? with
    | some n, some items => some (.point n :: items)
    | _, _ => none
  | _ => none

/-- The set that the first character must be in, as far as a search tells.  The classes named in it
are those of the whole pattern, `basic` or not, whatever the scope that the set stands in. -/
def firstTest? (basic : Bool) : Pattern → Option CharTest
  | char (.set negated items rule) =>
    let isOpen := fun
      | SetItem.point n => rule.isCased n
      | .range low high => SetItem.foldedBelow ≤ high || rule.isRangeCased low high
      | .named _ _ _ => false
    if rule ≠ .exact && items.any isOpen then none
    else
      some (.set negated (items.map fun
        | .named cls negated _ => .named cls negated basic
        | item => item) .exact)
  | seq p _ | group _ p | flagged p => p.firstTest? basic
  | alt p q => ((alt p q).alternativePoints?).map fun items => .set false items .exact
  | _ => none

end Pattern
end GraphQuery
