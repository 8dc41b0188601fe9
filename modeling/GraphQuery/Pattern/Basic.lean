import GraphQuery.Pattern.Character

/-!
# Search patterns

The syntax of regular patterns once flags have been resolved, and how much text a pattern can match.
-/

namespace GraphQuery

/-- A place in the text that a pattern may require. -/
inductive Anchor where
  | textStart
  | textEnd
  | lineStart
  | lineEnd
  /-- The end, or just before a line break that ends the text. -/
  | lastLineEnd
  | wordEdge (basic : Bool)
  | noWordEdge (basic : Bool)
deriving DecidableEq, Repr

inductive RepeatMode where
  | greedy
  | lazy
  | possessive
deriving DecidableEq, Repr

/-- The least and greatest length of what a pattern matches. -/
structure Width where
  low : Nat
  high : Nat
deriving DecidableEq, Repr

/-- A search pattern. -/
inductive Pattern where
  | empty
  /-- Matches nothing; the end of a list of alternatives. -/
  | never
  | char (test : CharTest)
  | anchor (place : Anchor)
  | seq (first second : Pattern)
  /-- An alternative and the ones after it, which end in `never`. -/
  | alt (first others : Pattern)
  /-- Remembers what the body matches as the group `index`, counted from one. -/
  | group (index : Nat) (body : Pattern)
  /-- A body that was read under flags of its own. -/
  | flagged (body : Pattern)
  /-- Matches what the group last matched; `width` is the width of the group's body. -/
  | backref (index : Nat) (caseRule : CaseRule) (width : Width)
  /-- Requires, or forbids when `negated`, that the body matches from here on, or up to here when
  `behind`. -/
  | look (behind negated : Bool) (body : Pattern)
  /-- Matches the body and gives up its other ways to match. -/
  | atomic (body : Pattern)
  | iterate (least : Nat) (most : Option Nat) (mode : RepeatMode) (body : Pattern)
  /-- Continues by whether the group has matched. -/
  | whenGroup (index : Nat) (matched unmatched : Pattern)
deriving Repr

namespace Width

/-- Least widths from here on are not told apart. -/
def lowLimit : Nat := Nat.pow 2 32 - 2

/-- Greatest widths from here on are not told apart. -/
def highLimit : Nat := Nat.pow 2 32 - 1

def capped (w : Width) : Width := ⟨min w.low lowLimit, min w.high highLimit⟩

def add (v w : Width) : Width := capped ⟨v.low + w.low, v.high + w.high⟩

/-- The width of either of two patterns. -/
def either (v w : Width) : Width := ⟨min v.low w.low, max v.high w.high⟩

def zero : Width := ⟨0, 0⟩

/-- The width of no pattern at all, which `either` ignores. -/
def none : Width := ⟨lowLimit, 0⟩

def iterate (least : Nat) (most : Option Nat) (w : Width) : Width :=
  capped ⟨w.low * least, w.high * most.getD highLimit⟩

end Width

namespace Pattern

/-- The patterns one after the other. -/
def ofList : List Pattern → Pattern
  | [] => empty
  | [p] => p
  | p :: ps => seq p (ofList ps)

/-- One of the patterns, the first that matches. -/
def ofAlternatives : List Pattern → Pattern
  | [] => never
  | p :: ps => alt p (ofAlternatives ps)

def width : Pattern → Width
  | empty | anchor _ | look _ _ _ => .zero
  | never => .none
  | char _ => ⟨1, 1⟩
  | seq p q => p.width.add q.width
  | alt p q => p.width.either q.width
  | group _ p | flagged p | atomic p => p.width
  | backref _ _ w => w
  | iterate least most _ p => p.width.iterate least most
  | whenGroup _ p q => p.width.either q.width

/-- Whether the pattern repeats anything. -/
def repeats : Pattern → Bool
  | iterate _ _ _ _ => true
  | empty | never | char _ | anchor _ | backref _ _ _ => false
  | seq p q | alt p q | whenGroup _ p q => p.repeats || q.repeats
  | group _ p | flagged p | look _ _ p | atomic p => p.repeats

/-- Whether the widths of all that is looked for behind a place are as required. -/
def allBehind (required : Width → Bool) : Pattern → Bool
  | empty | never | anchor _ | char _ | backref _ _ _ => true
  | seq p q | alt p q | whenGroup _ p q => p.allBehind required && q.allBehind required
  | group _ p | flagged p | atomic p | iterate _ _ _ p => p.allBehind required
  | look behind _ p => p.allBehind required && (!behind || required p.width)

end Pattern
end GraphQuery
