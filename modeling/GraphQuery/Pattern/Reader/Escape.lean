import GraphQuery.Pattern.Reader.Basic
import GraphQuery.Text.CharacterName

/-!
# Escapes and character sets

A backslash makes the next character a class, an anchor, a reference to a group or a code point.  Inside
a set only classes and code points are meant, so the two places have a reader each.
-/

namespace GraphQuery
namespace Pattern

/-! ## Escapes -/

def isOctal (c : Char) : Bool := '0' ≤ c && c ≤ '7'

def isHex (c : Char) : Bool := c.isDigit || ('a' ≤ c && c ≤ 'f') || ('A' ≤ c && c ≤ 'F')

/-- The number written by digits in a base up to sixteen. -/
def digitsValue (base : Nat) (digits : List Char) : Nat :=
  digits.foldl (fun n c =>
    n * base +
      (if c.isDigit then c.toNat - 0x30
       else if 'a' ≤ c then c.toNat - 0x61 + 10 else c.toNat - 0x41 + 10)) 0

/-- Exactly `n` hexadecimal digits. -/
def hexEscape (n : Nat) : Reader Nat := do
  let digits ← Reader.takeWhile isHex n
  if digits.length = n then return digitsValue 16 digits else Reader.fail

/-- The characters that letters stand for after a backslash. -/
def controlEscape? : Char → Option Nat
  | 'a' => some 7
  | 'f' => some 12
  | 'n' => some 10
  | 'r' => some 13
  | 't' => some 9
  | 'v' => some 11
  | '\\' => some 0x5c
  | _ => none

/-- The classes that letters stand for after a backslash. -/
def classEscape? (basic : Bool) : Char → Option SetItem
  | 'd' => some (.named .digit false basic)
  | 'D' => some (.named .digit true basic)
  | 's' => some (.named .blank false basic)
  | 'S' => some (.named .blank true basic)
  | 'w' => some (.named .word false basic)
  | 'W' => some (.named .word true basic)
  | _ => none

/-- The character of a name in braces. -/
def nameEscape : Reader Nat := do
  if ← Reader.accept '\x7b' then
    let name ← Reader.takeUntil '\x7d'
    match Text.characterNamed? (String.ofList name) with
    | some n => return n
    | none => Reader.fail
  else Reader.fail

/-- The code point of an escape by number, which starts with `x`, `u` or `U`, or by name. -/
def pointEscape? (c : Char) : Option (Reader Nat) :=
  match c with
  | 'x' => some (hexEscape 2)
  | 'u' => some (hexEscape 4)
  | 'U' => some do
    let n ← hexEscape 8
    if n < 0x110000 then return n else Reader.fail
  | 'N' => some nameEscape
  | _ => none

/-- An escape inside a character set. -/
def setEscape (scope : Scope) (c : Char) : Reader SetItem := do
  match if c = 'b' then some 8 else controlEscape? c with
  | some n => return .point n
  | none =>
    match classEscape? scope.basic c with
    | some item => return item
    | none =>
      match pointEscape? c with
      | some escape => return .point (← escape)
      | none =>
        if isOctal c then
          let n := digitsValue 8 (c :: (← Reader.takeWhile isOctal 2))
          if n ≤ 0xff then return .point n else Reader.fail
        else if c.isAlphanum then Reader.fail
        else return .point c.toNat

/-- What an item of a sequence is to the repetition that may follow it. -/
inductive ItemKind where
  | anchor
  | repetition
  | plain
deriving DecidableEq

/-- An item of a sequence: one pattern, or the patterns of a group that only brackets. -/
structure Item where
  patterns : List Pattern
  kind : ItemKind := .plain

namespace Item

def one (p : Pattern) : Item := ⟨[p], .plain⟩

end Item

def literalItem (scope : Scope) (n : Nat) : Item := .one (.char (.ofPoint false n scope.caseRule))

def setItem (scope : Scope) (item : SetItem) : Item :=
  .one (.char (.ofSet false [item] scope.caseRule))

/-- A reference to a group, which must be closed and must not begin inside the look behind that the
reference stands in. -/
def checkReference (index : Nat) : Reader Unit := do
  let progress ← get
  match progress.groupsBeforeLook with
  | none => return
  | some count =>
    if index < progress.groupWidths.length && (progress.groupWidths[index]?.join).isSome &&
        index < count then return
    else Reader.fail

def backrefItem (scope : Scope) (index : Nat) : Reader Item := do
  match (← get).groupWidths[index]?.join with
  | none => Reader.fail
  | some width =>
    checkReference index
    return .one (.backref index scope.caseRule width)

/-- An escape outside a character set. -/
def escapeItem (scope : Scope) (c : Char) : Reader Item := do
  match c with
  | 'A' => return ⟨[.anchor .textStart], .anchor⟩
  | 'Z' => return ⟨[.anchor .textEnd], .anchor⟩
  | 'b' => return ⟨[.anchor (.wordEdge scope.basic)], .anchor⟩
  | 'B' => return ⟨[.anchor (.noWordEdge scope.basic)], .anchor⟩
  | _ =>
    match classEscape? scope.basic c with
    | some item => return setItem scope item
    | none =>
      match controlEscape? c with
      | some n => return literalItem scope n
      | none =>
        match pointEscape? c with
        | some escape => return literalItem scope (← escape)
        | none =>
          if c = '0' then
            return literalItem scope (digitsValue 8 (c :: (← Reader.takeWhile isOctal 2)))
          else if c.isDigit then
            match ← Reader.takeWhile Char.isDigit 1 with
            | [] => backrefItem scope (digitsValue 10 [c])
            | second :: _ =>
              -- Three octal digits are a code point, fewer are the number of a group.
              let third ←
                if isOctal c && isOctal second then Reader.takeWhile isOctal 1 else pure []
              match third with
              | [] => backrefItem scope (digitsValue 10 [c, second])
              | d :: _ =>
                let n := digitsValue 8 [c, second, d]
                if n ≤ 0xff then return literalItem scope n else Reader.fail
          else if c.isAlpha then Reader.fail
          else return literalItem scope c.toNat

/-! ## Character sets -/

/-- The bound of a range that an item can be, if it is one code point. -/
def rangeBound? : SetItem → Option Nat
  | .point n => some n
  | _ => none

def setMember (scope : Scope) (t : Token) : Reader SetItem :=
  if t.escaped then setEscape scope t.char else return .point t.char.toNat

/-- The items of a set up to its closing bracket, which counts as an item where it comes first. -/
def setItems (scope : Scope) : Nat → List SetItem → Reader (List SetItem)
  | 0, _ => Reader.fail
  | fuel + 1, items => do
    match ← Reader.next with
    | none => Reader.fail
    | some t =>
      if t = ⟨false, ']'⟩ && !items.isEmpty then return items
      else
        let low ← setMember scope t
        if ← Reader.accept '-' then
          match ← Reader.next with
          | none => Reader.fail
          | some u =>
            if u = ⟨false, ']'⟩ then return items ++ [low, .point 0x2d]
            else
              let high ← setMember scope u
              match rangeBound? low, rangeBound? high with
              | some a, some b =>
                if b < a then Reader.fail else setItems scope fuel (items ++ [.range a b])
              | _, _ => Reader.fail
        else setItems scope fuel (items ++ [low])

end Pattern
end GraphQuery
