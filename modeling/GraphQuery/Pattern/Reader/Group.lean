import GraphQuery.Pattern.Reader.Escape
import GraphQuery.Text.Identifier
import GraphQuery.Text.Integer

/-!
# Flags, names and repetitions

The parts of a pattern that stand around its items: the flags a group sets or clears, the names and
numbers of groups, and the counts of a repetition.
-/

namespace GraphQuery
namespace Pattern

/-! ## Flags -/

/-- Where a group of flags ends. -/
inductive FlagsEnd where
  /-- The flags are for the whole pattern. -/
  | whole (flags : Scope)
  | scoped (added removed : Scope)

/-- The flags to clear, up to the colon; `any` says that one has been read. -/
def removedFlags : Nat → Bool → Scope → Reader Scope
  | 0, _, _ => Reader.fail
  | fuel + 1, any, removed => do
    match ← Reader.next with
    | none => Reader.fail
    | some t =>
      if t = ⟨false, ':'⟩ then
        if any then return removed else Reader.fail
      else if t.escaped || t.char = 'a' || t.char = 'u' || t.char = 't' then Reader.fail
      else
        match removed.withLetter? t.char with
        | some removed => removedFlags fuel true removed
        | none => Reader.fail

/-- The flags of a group whose first token has been read. -/
def groupFlags : Nat → Token → Scope → Reader FlagsEnd
  | 0, _, _ => Reader.fail
  | fuel + 1, t, added => do
    if t.escaped then Reader.fail
    else if t.char = ')' then return .whole added
    else if t.char = ':' || t.char = '-' then
      if added.template then Reader.fail
      else if t.char = ':' then return .scoped added {}
      else
        let removed ← removedFlags fuel false {}
        if added.overlaps removed then Reader.fail else return .scoped added removed
    else
      match added.withLetter? t.char with
      | none => Reader.fail
      | some added =>
        match ← Reader.next with
        | none => Reader.fail
        | some u => groupFlags fuel u added

/-! ## Names of groups -/

def groupNamed? (name : List Char) : Reader (Option Nat) := do
  return ((← get).names.find? (·.1 = String.ofList name)).map (·.2)

/-- Begins a group and gives its index. -/
def openGroup (name : Option (List Char)) : Reader Nat := do
  let progress ← get
  let index := progress.groupWidths.length
  let names ← match name with
    | none => pure progress.names
    | some name =>
      if progress.names.any (·.1 = String.ofList name) then Reader.fail
      else pure ((String.ofList name, index) :: progress.names)
  set { progress with groupWidths := progress.groupWidths ++ [none], names }
  return index

def closeGroup (index : Nat) (width : Width) : Reader Unit :=
  modify fun progress => { progress with groupWidths := progress.groupWidths.set index (some width) }

/-- The group that a condition names, by name or by number. -/
def conditionGroup (name : List Char) : Reader Nat := do
  if Text.isIdentifier name then
    match ← groupNamed? name with
    | some index => return index
    | none => Reader.fail
  else
    match Text.integer? (String.ofList name) with
    | some n =>
      if 0 < n && n < Nat.pow 2 30 then
        modify fun progress => { progress with conditions := n.toNat :: progress.conditions }
        return n.toNat
      else Reader.fail
    | none => Reader.fail

/-! ## Repetition -/

/-- Counts must be below this. -/
def countLimit : Nat := Nat.pow 2 32 - 1

/-- The count that digits write. -/
def repetitionCount (digits : List Char) : Reader Nat := do
  if Text.integerDigitLimit < digits.length then throw (.countTooLong digits.length)
  let n := digitsValue 10 digits
  if countLimit ≤ n then throw .countTooLarge
  return n

/-- The bounds written in braces; none if the brace is an ordinary character. -/
def braceBounds? : Reader (Option (Nat × Option Nat)) := do
  let saved ← get
  if saved.rest.head? = some ⟨false, '}'⟩ then return none
  let length := saved.rest.length
  let low ← Reader.takeWhile Char.isDigit length
  let comma ← Reader.accept ','
  let high ← if comma then Reader.takeWhile Char.isDigit length else pure low
  if ← Reader.accept '}' then
    let progress ← get
    if progress.dangling && progress.rest.isEmpty then Reader.fail
    let least ← repetitionCount low
    let most ← if high.isEmpty then pure none else some <$> repetitionCount high
    if most.any (· < least) then Reader.fail
    return some (least, most)
  else
    -- The brace is an ordinary character and what follows it is read again.
    set saved
    return none

/-- Repeats the latest item of a sequence. -/
def repeatLatest (least : Nat) (most : Option Nat) (items : List Item) : Reader (List Item) := do
  match items with
  | [] => Reader.fail
  | item :: earlier =>
    if item.kind ≠ .plain then Reader.fail
    else
      let isLazy ← Reader.accept '?'
      let isPossessive ← if isLazy then pure false else Reader.accept '+'
      let mode := if isLazy then .lazy else if isPossessive then .possessive else .greedy
      return ⟨[.iterate least most mode (.ofList item.patterns)], .repetition⟩ :: earlier

/-- The patterns of items listed latest first. -/
def patternsOf (items : List Item) : List Pattern := items.reverse.flatMap (·.patterns)

/-! ## Alternatives -/

/-- Whether two patterns are the same and have no parts. -/
def isSameSimple : Pattern → Pattern → Bool
  | char t, char u => t = u
  | anchor a, anchor b => a = b
  | backref i _ _, backref j _ _ => i = j
  | _, _ => false

/-- The patterns that a sequence and all the others begin with, and what is left of each. -/
def commonStart : List Pattern → List (List Pattern) →
    List Pattern × List Pattern × List (List Pattern)
  | p :: ps, others =>
    if others.all (·.head?.any p.isSameSimple) then
      let (common, rest, others) := commonStart ps (others.map (·.drop 1))
      (p :: common, rest, others)
    else ([], p :: ps, others)
  | [], others => ([], [], others)

/-- The set that passes what one of the sequences matches, if each is a single set or point. -/
def setOfAll? : List (List Pattern) → Option (List SetItem)
  | [] => some []
  | [char (.point false n _)] :: more => (setOfAll? more).map (.point n :: ·)
  | [char (.set false items _)] :: more => (setOfAll? more).map (items ++ ·)
  | _ => none

/-- Sequences as alternatives.  What they all begin with is matched once, and single characters make
up a set. -/
def alternativesOf (caseRule : CaseRule) (first : List Pattern) (others : List (List Pattern)) :
    List Pattern :=
  let (common, first, others) := commonStart first others
  match setOfAll? (first :: others) with
  | some items => common ++ [.char (.ofSet false items caseRule)]
  | none => common ++ [ofAlternatives ((first :: others).map ofList)]

end Pattern
end GraphQuery
