import GraphQuery.Text.Alphanumeric
import GraphQuery.Text.Blank
import GraphQuery.Text.Uppercase

/-!
# Tests of one character

The parts of a pattern that take one character.  Flags have been resolved: every test carries its own
rule for letter case, so a test means the same wherever it stands.  Characters are code points, for a
pattern may name points that no text holds.

* `CharTest.ofPoint`, `CharTest.ofSet` — tests whose rule for letter case is `exact` if none of their
  points has letter case;
* `CharTest.holds` — whether a character passes.
-/

namespace GraphQuery

/-- How a test treats letter case. -/
inductive CaseRule where
  | exact
  /-- Letter case of the 52 basic letters is ignored. -/
  | basic
  /-- Letter case is ignored for every script. -/
  | full
deriving DecidableEq, Repr

/-- A named class of characters. -/
inductive CharClass where
  | digit
  | blank
  | word
deriving DecidableEq, Repr

/-- A part of a character set. -/
inductive SetItem where
  | point (n : Nat)
  | range (low high : Nat)
  | named (cls : CharClass) (negated basic : Bool)
deriving DecidableEq, Repr

/-- A test of one character. -/
inductive CharTest where
  | anything
  | notLineBreak
  /-- Passes one code point up to letter case, or all others when `negated`. -/
  | point (negated : Bool) (n : Nat) (caseRule : CaseRule)
  /-- Passes what is in a set, or outside when `negated`. -/
  | set (negated : Bool) (items : List SetItem) (caseRule : CaseRule)
deriving DecidableEq, Repr

namespace CharClass

/-- Whether a code point is in the class; `basic` restricts the class to the first 128 points. -/
def holds (cls : CharClass) (basic : Bool) (n : Nat) : Bool :=
  if basic && 0x80 ≤ n then false
  else
    let c := Char.ofNat n
    match cls with
    | digit => Text.isDecimalDigit c
    | blank => if basic then 9 ≤ n && n ≤ 13 || n = 32 else Text.isBlank c
    | word => Text.isAlphanumeric c || n = 0x5f

end CharClass

/-! ## Letter case -/

namespace CaseRule

/-- The code point that stands for a class of points equal up to letter case. -/
def fold : CaseRule → Nat → Nat
  | exact, n => n
  | basic, n => if 0x41 ≤ n && n ≤ 0x5a then n + 0x20 else n
  | full, n => Text.lowerCode n

/-- The folded code points that match a folded one, itself first. -/
def mates : CaseRule → Nat → List Nat
  | full, n => Text.caseMates n
  | _, n => [n]

/-- The code points whose folded form matches a folded one. -/
def variants : CaseRule → Nat → List Nat
  | exact, n => [n]
  | basic, n => if 0x61 ≤ n && n ≤ 0x7a then [n, n - 0x20] else [n]
  | full, n => (Text.caseMates n).flatMap Text.lowerPreimages

/-- Whether the rule can tell a code point from its other letter case. -/
def isCased : CaseRule → Nat → Bool
  | exact, _ => false
  | basic, n => 0x41 ≤ n && n ≤ 0x5a || 0x61 ≤ n && n ≤ 0x7a
  | full, n => Text.hasCase n

/-- Whether a point of a range has letter case. -/
def isRangeCased (rule : CaseRule) (low high : Nat) : Bool :=
  (List.range' low (high + 1 - low)).any rule.isCased

end CaseRule

namespace SetItem

/-- The code points below this are folded before a set is asked; those from here on are kept in a set
as they are written. -/
def foldedBelow : Nat := 0x10000

/-- Whether an item makes its set fold the characters it is asked about. -/
def folds (rule : CaseRule) : SetItem → Bool
  | point n => rule.isCased n || foldedBelow ≤ n
  | range low high => foldedBelow ≤ high || rule.isRangeCased low high
  | named _ _ _ => false

/-- Whether an item has a code point. -/
def holds (n : Nat) : SetItem → Bool
  | point m => n = m
  | range low high => low ≤ n && n ≤ high
  | named cls negated basic => cls.holds basic n != negated

/-- Whether an item has a folded code point.  Points beyond `foldedBelow` are compared with what the
pattern names, and those of a range in their uppercase too. -/
def holdsFolded (rule : CaseRule) (n : Nat) : SetItem → Bool
  | point m => if m < foldedBelow then (rule.mates (rule.fold m)).contains n else n = m
  | range low high =>
    n < foldedBelow && (rule.variants n).any (fun m => low ≤ m && m ≤ high && m < foldedBelow) ||
      foldedBelow ≤ high &&
        (low ≤ n && n ≤ high || low ≤ Text.upperCode n && Text.upperCode n ≤ high)
  | named cls negated basic => cls.holds basic n != negated

end SetItem

/-! ## Tests -/

namespace CharTest

/-- Passes one code point, or all others. -/
def ofPoint (negated : Bool) (n : Nat) (rule : CaseRule) : CharTest :=
  .point negated n (if rule.isCased n then rule else .exact)

/-- Passes what is in a set, or outside.  Repeated items count once, and a set of one point is the
test of that point. -/
def ofSet (negated : Bool) (items : List SetItem) (rule : CaseRule) : CharTest :=
  match items.eraseDups with
  | [.point n] => ofPoint negated n rule
  | items => .set negated items (if items.any (·.folds rule) then rule else .exact)

/-- Whether a character passes the test. -/
def holds : CharTest → Char → Bool
  | anything, _ => true
  | notLineBreak, c => c ≠ '\n'
  | point negated n rule, c =>
    (rule.mates (rule.fold n)).contains (rule.fold c.toNat) != negated
  | set negated items .exact, c => items.any (·.holds c.toNat) != negated
  | set negated items rule, c =>
    items.any (·.holdsFolded rule (rule.fold c.toNat)) != negated

/-- The code point that a test compares characters with as they are. -/
def plainPoint? : CharTest → Option Nat
  | point false n .exact => some n
  | _ => none

/-- Whether a test looks a character up as it is, in a set or as one point. -/
def isPlain : CharTest → Bool
  | point false _ .exact | set _ _ .exact => true
  | _ => false

/-- Whether a run of characters is tried one by one, rather than counted ahead: folded characters are
looked up in a set. -/
def isTriedSingly : CharTest → Bool
  | point _ n rule => 1 < (rule.mates (rule.fold n)).length
  | set _ _ rule => rule ≠ .exact
  | _ => false

end CharTest
end GraphQuery
