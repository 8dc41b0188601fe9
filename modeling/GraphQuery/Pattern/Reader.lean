import GraphQuery.Pattern.Reader.Group
import GraphQuery.Pattern.Search

/-!
# Reading patterns

`Pattern.read` reads the text of a pattern.  Flags are resolved while reading: flags for the whole
pattern may only stand at its start, so they are known before anything that depends on them.

Every recursive call reads at least one token or opens one level of a group that took a token, so a fuel
of four times the number of tokens is enough.
-/

namespace GraphQuery
namespace Pattern

/-! ## Sequences, alternatives and groups -/

mutual

/-- Alternatives separated by bars; `top` at the outermost level, where the flags of the whole pattern
hold. -/
def alternatives : Nat → Bool → Scope → Reader (List Pattern)
  | 0, _, _ => Reader.fail
  | fuel + 1, top, scope => do
    let first ← sequence fuel top scope []
    match ← moreAlternatives fuel top scope with
    | [] => return first
    | others =>
      let whole := (← get).scope
      let scope := if top then whole else scope
      return alternativesOf scope.caseRule first others

def moreAlternatives : Nat → Bool → Scope → Reader (List (List Pattern))
  | 0, _, _ => Reader.fail
  | fuel + 1, top, scope => do
    if ← Reader.accept '|' then
      let whole := (← get).scope
      let scope := if top then whole else scope
      let next ← sequence fuel false scope []
      return next :: (← moreAlternatives fuel top scope)
    else return []

/-- A sequence up to a bar, a closing parenthesis or the end; `first` says that flags for the whole
pattern may still come. -/
def sequence : Nat → Bool → Scope → List Item → Reader (List Pattern)
  | 0, _, _, _ => Reader.fail
  | fuel + 1, first, scope, items => do
    match ← Reader.peek with
    | none => return patternsOf items
    | some t =>
      if t = ⟨false, '|'⟩ || t = ⟨false, ')'⟩ then return patternsOf items
      else
        let _ ← Reader.next
        if t.escaped then
          let item ← escapeItem scope t.char
          sequence fuel first scope (item :: items)
        else if scope.verbose && (t.char = ' ' || (9 ≤ t.char.toNat && t.char.toNat ≤ 13)) then
          sequence fuel first scope items
        else if scope.verbose && t.char = '#' then
          modify fun progress =>
            { progress with rest := (progress.rest.dropWhile (· ≠ ⟨false, '\n'⟩)).drop 1 }
          sequence fuel first scope items
        else
          match t.char with
          | '.' =>
            let test := if scope.dotAll then CharTest.anything else CharTest.notLineBreak
            sequence fuel first scope (.one (.char test) :: items)
          | '^' =>
            let place := if scope.multiLine then Anchor.lineStart else Anchor.textStart
            sequence fuel first scope (⟨[.anchor place], .anchor⟩ :: items)
          | '$' =>
            let place := if scope.multiLine then Anchor.lineEnd else Anchor.lastLineEnd
            sequence fuel first scope (⟨[.anchor place], .anchor⟩ :: items)
          | '[' =>
            let negated ← Reader.accept '^'
            let members ← setItems scope (← get).rest.length []
            let test := CharTest.ofSet negated members scope.caseRule
            sequence fuel first scope (.one (.char test) :: items)
          | '*' => sequence fuel first scope (← repeatLatest 0 none items)
          | '+' => sequence fuel first scope (← repeatLatest 1 none items)
          | '?' => sequence fuel first scope (← repeatLatest 0 (some 1) items)
          | '{' =>
            match ← braceBounds? with
            | some (least, most) =>
              sequence fuel first scope (← repeatLatest least most items)
            | none => sequence fuel first scope (literalItem scope 0x7b :: items)
          | '(' =>
            if ← Reader.accept '?' then extension fuel first scope items
            else
              let item ← capture fuel scope none
              sequence fuel first scope (item :: items)
          | c => sequence fuel first scope (literalItem scope c.toNat :: items)

/-- The rest of a capturing group. -/
def capture : Nat → Scope → Option (List Char) → Reader Item
  | 0, _, _ => Reader.fail
  | fuel + 1, scope, name => do
    let index ← openGroup name
    let body := ofList (← Reader.inGroup (alternatives fuel false scope))
    if ← Reader.accept ')' then
      closeGroup index body.width
      return .one (.group index body)
    else Reader.fail

/-- What follows a parenthesis and a question mark, and then the rest of the sequence. -/
def extension : Nat → Bool → Scope → List Item → Reader (List Pattern)
  | 0, _, _, _ => Reader.fail
  | fuel + 1, first, scope, items => do
    match ← Reader.next with
    | none => Reader.fail
    | some t =>
      if t.escaped then Reader.fail
      else
        match t.char with
        | 'P' =>
          match ← Reader.next with
          | some ⟨false, '<'⟩ =>
            let name ← Reader.takeUntil '>'
            if !Text.isIdentifier name then Reader.fail
            let item ← capture fuel scope (some name)
            sequence fuel first scope (item :: items)
          | some ⟨false, '='⟩ =>
            let name ← Reader.takeUntil ')'
            if !Text.isIdentifier name then Reader.fail
            match ← groupNamed? name with
            | none => Reader.fail
            | some index =>
              let item ← backrefItem scope index
              sequence fuel first scope (item :: items)
          | _ => Reader.fail
        | '#' =>
          let rest := (← get).rest.dropWhile (· ≠ ⟨false, ')'⟩)
          if rest.isEmpty then Reader.fail
          modify fun progress => { progress with rest := rest.drop 1 }
          sequence fuel first scope items
        | ':' =>
          let body ← groupBody fuel scope
          sequence fuel first scope (⟨body, .plain⟩ :: items)
        | '>' =>
          let body ← groupBody fuel scope
          sequence fuel first scope (.one (.atomic (ofList body)) :: items)
        | '=' =>
          let body ← groupBody fuel scope
          sequence fuel first scope (.one (.look false false (ofList body)) :: items)
        | '!' =>
          let body ← groupBody fuel scope
          sequence fuel first scope (.one (.look false true (ofList body)) :: items)
        | '<' =>
          match ← Reader.next with
          | none => Reader.fail
          | some u =>
            if u.escaped || (u.char ≠ '=' && u.char ≠ '!') then Reader.fail
            -- A look behind inside another one counts groups from where the outer one began.
            let outer := (← get).groupsBeforeLook
            modify fun progress =>
              { progress with groupsBeforeLook := some (outer.getD progress.groupWidths.length) }
            let body ← Reader.inGroup (alternatives fuel false scope)
            modify fun progress => { progress with groupsBeforeLook := outer }
            if ← Reader.accept ')' then
              sequence fuel first scope (.one (.look true (u.char = '!') (ofList body)) :: items)
            else Reader.fail
        | '(' =>
          let name ← Reader.takeUntil ')'
          let index ← conditionGroup name
          checkReference index
          let matched ← Reader.inGroup (sequence fuel false scope [])
          let unmatched ←
            if ← Reader.accept '|' then Reader.inGroup (sequence fuel false scope []) else pure []
          if ← Reader.accept ')' then
            let item := Item.one (.whenGroup index (ofList matched) (ofList unmatched))
            sequence fuel first scope (item :: items)
          else Reader.fail
        | _ =>
          let ended ←
            if t.char = '-' || (({} : Scope).withLetter? t.char).isSome then
              groupFlags (fuel + 1) t {}
            else Reader.fail
          match ended with
          | .whole flags =>
            -- Flags of the whole pattern stand before anything that they could change.
            if !first || !items.isEmpty then Reader.fail
            let whole := (← get).scope.union flags
            modify fun progress => { progress with scope := whole }
            sequence fuel first whole items
          | .scoped added removed =>
            let body ← groupBody fuel (scope.adjust added removed)
            sequence fuel first scope (.one (.flagged (ofList body)) :: items)

/-- The body of a group that captures nothing, up to its closing parenthesis. -/
def groupBody : Nat → Scope → Reader (List Pattern)
  | 0, _ => Reader.fail
  | fuel + 1, scope => do
    let body ← Reader.inGroup (alternatives fuel false scope)
    if ← Reader.accept ')' then return body else Reader.fail

end

/-- Reads a pattern, and says whether the classes of the whole of it are the basic ones; `ignoreCase`
sets that flag for the whole of it. -/
def read (ignoreCase : Bool) (s : String) : Except PatternFault (Pattern × Bool) := do
  let (ts, dangling) := tokens s.toList
  let scope : Scope := { ignoreCase }
  let start : Progress := ⟨ts, dangling, scope, [none], [], none, [], 0⟩
  let (ps, progress) ← (alternatives (4 * ts.length + 8) true scope).run start
  -- A backslash at the end is met only when every token before it has been read.
  if dangling && progress.rest.isEmpty then throw .malformed
  if progress.scope.basic && progress.scope.full then throw .clashingFlags
  if !progress.rest.isEmpty then throw .malformed
  -- A condition may name a group that begins later, but there must be one.
  if progress.conditions.any (progress.groupWidths.length ≤ ·) then throw .malformed
  let p := ofList ps
  if progress.scope.template && p.repeats then throw .malformed
  if !p.allBehind fun width => width.low = width.high then throw .malformed
  if !p.allBehind fun width => width.low < Nat.pow 2 31 then throw .behindTooWide
  return (p, progress.scope.basic)

/-- Whether a pattern that has been read occurs in a text. -/
def occursIn (read : Pattern × Bool) (subject : String) : Except PatternFault Bool :=
  match read.1.search read.2 subject.toList with
  | none => .ok false
  | some attempt => if Trail.isTangled attempt.trail.marks then .error .tangledGroups else .ok true

end Pattern
end GraphQuery
