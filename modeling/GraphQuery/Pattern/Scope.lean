import GraphQuery.Pattern.Basic

/-!
# Flags of patterns

A `Scope` is the set of flags in force at a place of a pattern.  Groups adjust it for their body; the
flags of the whole pattern are joined to it once.
-/

namespace GraphQuery
namespace Pattern

/-- The flags in force at a place of the pattern. -/
structure Scope where
  ignoreCase : Bool := false
  multiLine : Bool := false
  dotAll : Bool := false
  verbose : Bool := false
  basic : Bool := false
  /-- Set when the full character classes are asked for by name. -/
  full : Bool := false
  template : Bool := false

namespace Scope

def caseRule (scope : Scope) : CaseRule :=
  if scope.ignoreCase then (if scope.basic then .basic else .full) else .exact

/-- The flags that either scope sets. -/
def union (s t : Scope) : Scope :=
  { ignoreCase := s.ignoreCase || t.ignoreCase
    multiLine := s.multiLine || t.multiLine
    dotAll := s.dotAll || t.dotAll
    verbose := s.verbose || t.verbose
    basic := s.basic || t.basic
    full := s.full || t.full
    template := s.template || t.template }

/-- The flags inside a group that sets some and clears others; naming a set of character classes
replaces the one in force. -/
def adjust (scope added removed : Scope) : Scope :=
  let typed := added.basic || added.full
  { ignoreCase := (scope.ignoreCase || added.ignoreCase) && !removed.ignoreCase
    multiLine := (scope.multiLine || added.multiLine) && !removed.multiLine
    dotAll := (scope.dotAll || added.dotAll) && !removed.dotAll
    verbose := (scope.verbose || added.verbose) && !removed.verbose
    basic := if typed then added.basic else scope.basic
    full := if typed then added.full else scope.full
    template := scope.template }

/-- Whether two scopes set a flag in common. -/
def overlaps (s t : Scope) : Bool :=
  s.ignoreCase && t.ignoreCase || s.multiLine && t.multiLine || s.dotAll && t.dotAll ||
    s.verbose && t.verbose

/-- Sets the flag of a letter. -/
def withLetter? (scope : Scope) (letter : Char) : Option Scope :=
  match letter with
  | 'i' => some { scope with ignoreCase := true }
  | 'm' => some { scope with multiLine := true }
  | 's' => some { scope with dotAll := true }
  | 'x' => some { scope with verbose := true }
  | 'a' => if scope.full then none else some { scope with basic := true }
  | 'u' => if scope.basic then none else some { scope with full := true }
  | 't' => some { scope with template := true }
  | _ => none

end Scope

end Pattern
end GraphQuery
