import GraphQuery.Pattern.Start

/-!
# Matching

A pattern is matched by backtracking.  `Pattern.run` tries the ways in which a pattern can match at a
cursor, in order, and passes each to a continuation until one answers.

Besides the cursor a search carries a `Trail`, which failed trials leave behind too: the marks of the
groups and the place last tried.  A choice takes back the marks it made.  Within the rounds of a
repetition it restores all of them; elsewhere it only drops those added since, so that a group which
was begun again and failed may keep its new start.  A possessive repetition goes on from the place
that its last, failed round tried.
-/

namespace GraphQuery

/-- A place in the text. -/
structure Cursor where
  position : Nat
  /-- The characters before the place, nearest first. -/
  before : List Char
  /-- The characters from the place on. -/
  rest : List Char
deriving Repr

namespace Cursor

/-- Moves on past the next character. -/
def advance? (cur : Cursor) : Option (Char × Cursor) :=
  match cur.rest with
  | [] => none
  | c :: rest => some (c, ⟨cur.position + 1, c :: cur.before, rest⟩)

/-- Moves back over `n` characters. -/
def back? : Nat → Cursor → Option Cursor
  | 0, cur => some cur
  | n + 1, cur =>
    match cur.before with
    | [] => none
    | c :: before => back? n ⟨cur.position - 1, before, c :: cur.rest⟩

/-- The characters between two places of the text. -/
def slice (cur : Cursor) (start stop : Nat) : List Char :=
  ((cur.before.reverse ++ cur.rest).drop start).take (stop - start)

/-- Moves past the given characters. -/
def follow? (caseRule : CaseRule) : List Char → Cursor → Option Cursor
  | [], cur => some cur
  | wanted :: more, cur =>
    match cur.advance? with
    | some (c, next) =>
      if caseRule.fold c.toNat = caseRule.fold wanted.toNat then follow? caseRule more next else none
    | none => none

private def isWordAt (basic : Bool) (cs : List Char) : Bool :=
  match cs with
  | [] => false
  | c :: _ => CharClass.word.holds basic c.toNat

/-- Whether the cursor stands at a place; no place of an empty text is told apart by word edges. -/
def standsAt (cur : Cursor) : Anchor → Bool
  | .textStart => cur.before.isEmpty
  | .textEnd => cur.rest.isEmpty
  | .lineStart => cur.before.isEmpty || cur.before.head? = some '\n'
  | .lineEnd => cur.rest.isEmpty || cur.rest.head? = some '\n'
  | .lastLineEnd => cur.rest.isEmpty || cur.rest = ['\n']
  | .wordEdge basic => isWordAt basic cur.before != isWordAt basic cur.rest
  | .noWordEdge basic =>
    !(cur.before.isEmpty && cur.rest.isEmpty) && isWordAt basic cur.before == isWordAt basic cur.rest

/-- The cursor after each of up to `n` characters that pass a test, latest first, before those that
are given. -/
def runOf (test : CharTest) : Nat → Cursor → List Cursor → List Cursor
  | 0, _, reached => reached
  | n + 1, cur, reached =>
    match cur.advance? with
    | some (c, next) => if test.holds c then runOf test n next (next :: reached) else reached
    | none => reached

end Cursor

/-! ## Trails -/

/-- What a search leaves behind as it goes, whether it gets on or not. -/
structure Trail where
  /-- Where each group began and ended, two marks a group; marks not listed are not set. -/
  marks : List (Option Nat)
  /-- The place that was last set out from or arrived at. -/
  latest : Cursor

namespace Trail

def reach (trail : Trail) (cur : Cursor) : Trail := { trail with latest := cur }

/-- Sets a mark; those skipped over are not set. -/
def mark (trail : Trail) (i : Nat) (position : Nat) : Trail :=
  { trail with
    marks :=
      if i < trail.marks.length then trail.marks.set i (some position)
      else
        trail.marks ++ (List.replicate (i - trail.marks.length) none ++ [some position]) }

def openGroup (trail : Trail) (index : Nat) (cur : Cursor) : Trail :=
  trail.mark (2 * (index - 1)) cur.position

def closeGroup (trail : Trail) (index : Nat) (cur : Cursor) : Trail :=
  trail.mark (2 * (index - 1) + 1) cur.position

/-- The marks of a group that has both. -/
def bounds? (trail : Trail) (index : Nat) : Option (Nat × Nat) :=
  match trail.marks[2 * (index - 1)]?, trail.marks[2 * (index - 1) + 1]? with
  | some (some start), some (some stop) => some (start, stop)
  | _, _ => none

/-- The bounds of what a group matched; one begun again after it ended has matched nothing. -/
def span? (trail : Trail) (index : Nat) : Option (Nat × Nat) :=
  (trail.bounds? index).filter fun (start, stop) => start ≤ stop

/-- Takes the marks back to what they were: all of them within rounds, elsewhere the added ones. -/
def restore (trail : Trail) (inRounds : Bool) (saved : List (Option Nat)) : Trail :=
  { trail with marks := if inRounds then saved else trail.marks.take saved.length }

/-- Whether some group ends before it begins. -/
def isTangled : List (Option Nat) → Bool
  | some start :: some stop :: more => stop < start || isTangled more
  | _ :: _ :: more => isTangled more
  | _ => false

end Trail

/-- What comes of a trial. -/
structure Attempt where
  found : Bool
  trail : Trail

namespace Attempt

/-- Nothing was found, and `cur` is the place last tried. -/
def failedAt (attempt : Attempt) (cur : Cursor) : Attempt := ⟨false, attempt.trail.reach cur⟩

/-- What comes of a trial or, if nothing is found, of what is done next. -/
def orElse (attempt : Attempt) (next : Trail → Attempt) : Attempt :=
  if attempt.found then attempt else next attempt.trail

end Attempt

/-- What is to be done with a match. -/
abbrev Continuation := Cursor → Trail → Attempt

/-- One way of matching: a place, the trail so far and what to do next. -/
abbrev Step := Cursor → Trail → Continuation → Attempt

namespace Pattern

/-- The end of a pattern that is matched for itself. -/
def arrive : Continuation := fun cur trail => ⟨true, trail.reach cur⟩

/-! ## Repeated characters -/

/-- Goes on from each of the places, in order; `next` is the step to come. -/
def fromEach (inRounds : Bool) (next : Start) (saved : List (Option Nat)) (k : Continuation) :
    List Cursor → Trail → Attempt
  | [], trail => ⟨false, trail⟩
  | cur :: more, trail =>
    if next.point?.any fun n => cur.rest.head?.map Char.toNat ≠ some n then
      fromEach inRounds next saved k more trail
    else
      (k cur (trail.reach cur)).orElse fun trail =>
        fromEach inRounds next saved k more (trail.restore inRounds saved)

/-- Goes on from where it stands or, failing that, after one more character that passes the test. -/
def lazyUnits (test : CharTest) (most : Option Nat) (inRounds : Bool) (saved : List (Option Nat))
    (k : Continuation) : Nat → Nat → Cursor → Trail → Attempt
  | 0, _, _, trail => ⟨false, trail⟩
  | fuel + 1, count, cur, trail =>
    (k cur (trail.reach cur)).orElse fun trail =>
      let trail := (trail.restore inRounds saved).reach cur
      match cur.advance? with
      | some (c, next) =>
        if test.holds c then
          let trail := if test.isTriedSingly then trail.reach next else trail
          if most.any (· ≤ count) then ⟨false, trail⟩
          else lazyUnits test most inRounds saved k fuel (count + 1) next trail
        else ⟨false, trail⟩
      | none => ⟨false, trail⟩

/-- A repeated test of one character. -/
def runUnits (test : CharTest) (least : Nat) (most : Option Nat) (mode : RepeatMode)
    (inRounds : Bool) (next : Start) : Step := fun cur trail k =>
  let left := cur.rest.length
  if left < least then ⟨false, trail⟩
  else
    let limit := match mode with
      | .lazy => least
      | _ => most.elim left (min left)
    let reached := cur.runOf test limit [cur]
    let trail := trail.reach (if test.isTriedSingly then reached.headD cur else cur)
    -- The start is one of the places reached.
    if reached.length < least + 1 then ⟨false, trail⟩
    else
      match mode with
      | .greedy =>
        fromEach inRounds next trail.marks k (reached.take (reached.length - least)) trail
      | .lazy =>
        lazyUnits test most inRounds trail.marks k (left + 1) least (reached.headD cur) trail
      | .possessive => k (reached.headD cur) trail

/-! ## Rounds -/

/-- Rounds of a step, as many as possible first; `last` is where the latest optional round began. -/
def greedyRounds (step : Step) (least : Nat) (most : Option Nat) (k : Continuation) :
    Nat → Nat → Option Nat → Continuation
  | 0, _, _, _, trail => ⟨false, trail⟩
  | fuel + 1, count, last, cur, trail =>
    let trail := trail.reach cur
    if count < least then
      (step cur trail (greedyRounds step least most k fuel (count + 1) last)).orElse
        fun trail => ⟨false, trail.reach cur⟩
    else
      let finish (trail : Trail) : Attempt :=
        (k cur trail).orElse fun trail => ⟨false, trail.reach cur⟩
      -- A round that would begin where the optional round before it began would match nothing.
      if most.all (count < ·) && last ≠ some cur.position then
        (step cur trail
          (greedyRounds step least most k fuel (count + 1) (some cur.position))).orElse
            fun failed => finish ((failed.restore true trail.marks).reach cur)
      else finish trail

/-- Rounds of a step, as few as possible first. -/
def lazyRounds (step : Step) (least : Nat) (most : Option Nat) (inRounds : Bool)
    (k : Continuation) : Nat → Nat → Option Nat → Continuation
  | 0, _, _, _, trail => ⟨false, trail⟩
  | fuel + 1, count, last, cur, trail =>
    let trail := trail.reach cur
    let another (last : Option Nat) (trail : Trail) : Attempt :=
      (step cur trail (lazyRounds step least most inRounds k fuel (count + 1) last)).orElse
        fun trail => ⟨false, trail.reach cur⟩
    if count < least then another last trail
    else
      (k cur trail).orElse fun failed =>
        let trail := (failed.restore inRounds trail.marks).reach cur
        if most.all (count < ·) && last ≠ some cur.position then another (some cur.position) trail
        else ⟨false, trail⟩

/-- As many rounds of a step as possible, each keeping its first way to match. -/
def possessiveRounds (step : Step) (least : Nat) (most : Option Nat) (start : Cursor)
    (k : Continuation) : Nat → Nat → Continuation
  | 0, _, _, trail => ⟨false, trail⟩
  | fuel + 1, count, cur, trail =>
    if count < least then
      let round := step cur trail arrive
      if round.found then
        possessiveRounds step least most start k fuel (count + 1) round.trail.latest round.trail
      else round.failedAt start
    else if most.all (count < ·) then
      let round := step cur trail arrive
      if round.found then
        let next := round.trail.latest
        if next.position = cur.position then k next round.trail
        else possessiveRounds step least most start k fuel (count + 1) next round.trail
      else k round.trail.latest (round.trail.restore true trail.marks)
    else k cur trail

/-! ## Patterns -/

/-- Matches a pattern at a place and hands each way to match, in order, to the continuation.
`inRounds` says that the pattern stands in the body of a repetition; `next` is the step to come. -/
def run : Pattern → Bool → Start → Step
  | empty, _, _, cur, trail, k => k cur trail
  | never, _, _, _, trail, _ => ⟨false, trail⟩
  | char test, _, _, cur, trail, k =>
    match cur.advance? with
    | some (c, next) => if test.holds c then k next trail else ⟨false, trail⟩
    | none => ⟨false, trail⟩
  | anchor place, _, _, cur, trail, k =>
    if cur.standsAt place then k cur trail else ⟨false, trail⟩
  | seq p q, inRounds, next, cur, trail, k =>
    p.run inRounds (q.start.followedBy next) cur trail fun cur trail =>
      q.run inRounds next cur trail k
  | alt p q, inRounds, next, cur, trail, k =>
    if p.start.rulesOut cur.rest.head? then q.run inRounds next cur trail k
    else
      (p.run inRounds .other cur (trail.reach cur) k).orElse fun failed =>
        q.run inRounds next cur (failed.restore inRounds trail.marks) k
  | group index p, inRounds, _, cur, trail, k =>
    p.run inRounds .other cur (trail.openGroup index cur) fun next trail =>
      k next (trail.closeGroup index next)
  | flagged p, inRounds, next, cur, trail, k => p.run inRounds next cur trail k
  | backref index caseRule _, _, _, cur, trail, k =>
    match trail.span? index with
    | some (start, stop) =>
      match cur.follow? caseRule (cur.slice start stop) with
      | some next => k next trail
      | none => ⟨false, trail⟩
    | none => ⟨false, trail⟩
  | look behind negated p, inRounds, _, cur, trail, k =>
    -- What is looked for behind a place has one width, so it can begin at one place only.
    match if behind then cur.back? p.width.low else some cur with
    | none => if negated then k cur trail else ⟨false, trail⟩
    | some start =>
      let inside := p.run inRounds .other start (trail.reach start) arrive
      if negated then
        if inside.found then ⟨false, inside.trail⟩
        else k cur (inside.trail.restore inRounds trail.marks)
      else if inside.found then k cur inside.trail
      else inside
  | atomic p, inRounds, _, cur, trail, k =>
    let inside := p.run inRounds .other cur (trail.reach cur) arrive
    if inside.found then k inside.trail.latest inside.trail else inside.failedAt cur
  | iterate least most mode p, inRounds, next, cur, trail, k =>
    match p.unit? with
    | some test => runUnits test least most mode inRounds next cur trail k
    | none =>
      -- The required rounds, one round for each character, and one that matches nothing.
      let fuel := least + cur.before.length + cur.rest.length + 2
      match mode with
      | .greedy => greedyRounds (p.run true .other) least most k fuel 0 none cur trail
      | .lazy => lazyRounds (p.run true .other) least most inRounds k fuel 0 none cur trail
      | .possessive =>
        possessiveRounds (p.run inRounds .other) least most cur k fuel 0 cur (trail.reach cur)
  | whenGroup index p q, inRounds, next, cur, trail, k =>
    if (trail.span? index).isSome then
      let isLast := match q with
        | empty => true
        | _ => false
      p.run inRounds (if isLast then next else .other) cur trail k
    else q.run inRounds next cur trail k

end Pattern
end GraphQuery
