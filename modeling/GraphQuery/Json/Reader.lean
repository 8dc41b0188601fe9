import GraphQuery.Number.Reader
import GraphQuery.Text.Integer
import GraphQuery.Value.Basic

/-!
# Reading JSON

`Json.parse` reads one JSON text.  Objects keep their members in the order of the text, a repeated name
keeping its first place and its last value.  Integers stay apart from numbers with a fraction or an
exponent, and `NaN`, `Infinity` and `-Infinity` are accepted as numbers.

How many lists and objects may be open at once depends on the room that is left on the stack where the text
is read.
-/

namespace GraphQuery
namespace Json

/-- Why a text is not read. -/
inductive Fault where
  | malformed
  /-- An integer has more digits than are converted. -/
  | longInteger (digits : Nat)
  /-- More lists and objects are open at once than are read. -/
  | nestedTooDeep
deriving DecidableEq, Repr

def isSpace (c : Char) : Bool := c = ' ' || c = '\t' || c = '\n' || c = '\r'

def skipSpace (s : List Char) : List Char := s.dropWhile isSpace

def hexValue? (c : Char) : Option Nat :=
  if '0' ≤ c && c ≤ '9' then some (c.toNat - 0x30)
  else if 'a' ≤ c && c ≤ 'f' then some (c.toNat - 0x61 + 10)
  else if 'A' ≤ c && c ≤ 'F' then some (c.toNat - 0x41 + 10)
  else none

/-- The value of four hexadecimal digits and what follows them. -/
def fourHex? : List Char → Option (Nat × List Char)
  | a :: b :: c :: d :: rest => do
    let a ← hexValue? a
    let b ← hexValue? b
    let c ← hexValue? c
    let d ← hexValue? d
    some (((a * 16 + b) * 16 + c) * 16 + d, rest)
  | _ => none

/-- The character of the escape after a backslash, other than one by number. -/
def plainEscape? : Char → Option Char
  | '"' => some '"'
  | '\\' => some '\\'
  | '/' => some '/'
  | 'b' => some (Char.ofNat 8)
  | 'f' => some (Char.ofNat 12)
  | 'n' => some '\n'
  | 'r' => some '\r'
  | 't' => some '\t'
  | _ => none

/-- The stand-in for a surrogate without its partner, which is no character.  Different surrogates have different
ones, from the end of the code points for private use. -/
def loneSurrogate (unit : Nat) : Char := Char.ofNat (0x10f800 + (unit - 0xd800))

/-- The character of a code unit, joined with a low surrogate that follows a high one. -/
def joinUnits (unit : Nat) (rest : List Char) : Char × List Char :=
  if 0xd800 ≤ unit && unit < 0xdc00 then
    match rest with
    | '\\' :: 'u' :: more =>
      match fourHex? more with
      | some (low, after) =>
        if 0xdc00 ≤ low && low < 0xe000 then
          (Char.ofNat (0x10000 + (unit - 0xd800) * 0x400 + (low - 0xdc00)), after)
        else (loneSurrogate unit, rest)
      | none => (loneSurrogate unit, rest)
    | _ => (loneSurrogate unit, rest)
  else if 0xdc00 ≤ unit && unit < 0xe000 then (loneSurrogate unit, rest)
  else (Char.ofNat unit, rest)

/-- The rest of a string whose opening quote has been read, and what follows its closing quote. -/
def stringBody : Nat → List Char → Option (List Char × List Char)
  | 0, _ => none
  | _ + 1, [] => none
  | fuel + 1, c :: rest =>
    if c = '"' then some ([], rest)
    else if c.toNat < 0x20 then none
    else if c = '\\' then
      match rest with
      | 'u' :: more => do
        let (unit, after) ← fourHex? more
        let (decoded, after) := joinUnits unit after
        let (body, tail) ← stringBody fuel after
        some (decoded :: body, tail)
      | e :: more => do
        let decoded ← plainEscape? e
        let (body, tail) ← stringBody fuel more
        some (decoded :: body, tail)
      | [] => none
    else do
      let (body, tail) ← stringBody fuel rest
      some (c :: body, tail)

/-- The digits of an integer: a single zero, or digits that do not start with one. -/
def integerDigits (s : List Char) : List Char × List Char :=
  match s with
  | '0' :: rest => (['0'], rest)
  | _ => (s.takeWhile Char.isDigit, s.dropWhile Char.isDigit)

/-- The digits after a point, if a point with digits comes next. -/
def fractionDigits (s : List Char) : List Char × List Char :=
  match s with
  | '.' :: rest =>
    let digits := rest.takeWhile Char.isDigit
    if digits.isEmpty then ([], s) else (digits, rest.dropWhile Char.isDigit)
  | _ => ([], s)

/-- The exponent, if one with digits comes next. -/
def exponent? (s : List Char) : Option (Int × List Char) :=
  match s with
  | e :: rest =>
    if e = 'e' || e = 'E' then
      let (negative, body) := Text.splitSign rest
      let digits := body.takeWhile Char.isDigit
      if digits.isEmpty then none
      else
        let n : Int := Number.basicValue digits
        some (if negative then -n else n, body.dropWhile Char.isDigit)
    else none
  | [] => none

/-- A number whose sign has been read. -/
def number (negative : Bool) (s : List Char) : Except Fault (Value × List Char) :=
  let (whole, rest) := integerDigits s
  if whole.isEmpty then .error .malformed
  else
    let (fraction, rest) := fractionDigits rest
    let scaled := exponent? rest
    -- Without fraction and exponent the number is an integer and is kept exactly.
    if fraction.isEmpty && scaled.isNone then
      if Text.integerDigitLimit < whole.length then .error (.longInteger whole.length)
      else
        let n : Int := Number.basicValue whole
        .ok (.int (if negative then -n else n), rest)
    else
      let (e, rest) := scaled.getD (0, rest)
      let x := Binary64.ofDecimal negative (Number.basicValue (whole ++ fraction))
        (e - fraction.length)
      .ok (.float x, rest)

/-- The words that stand for values. -/
def wordValues : List (List Char × Value) :=
  [("null".toList, .null), ("true".toList, .bool true), ("false".toList, .bool false),
   ("NaN".toList, .float .nan), ("Infinity".toList, .float (.infinite false)),
   ("-Infinity".toList, .float (.infinite true))]

/-- A value without parts. -/
def scalar (s : List Char) : Except Fault (Value × List Char) :=
  match wordValues.find? fun entry => entry.1.isPrefixOf s with
  | some (word, v) => .ok (v, s.drop word.length)
  | none =>
    match s with
    | '"' :: rest =>
      match stringBody (rest.length + 1) rest with
      | some (body, tail) => .ok (.text (String.ofList body), tail)
      | none => .error .malformed
    | '-' :: rest => number true rest
    | _ => number false s

/-- A member name with the colon after it. -/
def memberName (s : List Char) : Except Fault (String × List Char) :=
  match s with
  | '"' :: rest =>
    match stringBody (rest.length + 1) rest with
    | some (body, tail) =>
      match skipSpace tail with
      | ':' :: tail => .ok (String.ofList body, skipSpace tail)
      | _ => .error .malformed
    | none => .error .malformed
  | _ => .error .malformed

/-- How many lists and objects may be open at once where little of the stack is in use. -/
def nestingLimit : Nat := 985

mutual

/-- A value that starts at the first character; `room` is how many lists and objects may still be opened
inside one another. -/
def value : Nat → Nat → List Char → Except Fault (Value × List Char)
  | 0, _, _ => .error .malformed
  | fuel + 1, room, s =>
    match s, room with
    | '[' :: _, 0 | '\x7b' :: _, 0 => .error .nestedTooDeep
    | '[' :: rest, room + 1 =>
      match skipSpace rest with
      | ']' :: rest => .ok (.list [], rest)
      | rest => (items fuel room rest).map fun (xs, tail) => (.list xs, tail)
    | '\x7b' :: rest, room + 1 =>
      match skipSpace rest with
      | '\x7d' :: rest => .ok (.mapping [], rest)
      | rest => (members fuel room rest).map fun (xs, tail) => (.mapping (Fields.ofEntries xs), tail)
    | _, _ => scalar s

/-- The items of a list up to its closing bracket. -/
def items : Nat → Nat → List Char → Except Fault (List Value × List Char)
  | 0, _, _ => .error .malformed
  | fuel + 1, room, s => do
    let (x, rest) ← value fuel room s
    match skipSpace rest with
    | ']' :: rest => .ok ([x], rest)
    | ',' :: rest =>
      let (xs, tail) ← items fuel room (skipSpace rest)
      .ok (x :: xs, tail)
    | _ => .error .malformed

/-- The members of an object up to its closing brace. -/
def members : Nat → Nat → List Char → Except Fault (List (String × Value) × List Char)
  | 0, _, _ => .error .malformed
  | fuel + 1, room, s => do
    let (name, rest) ← memberName s
    let (x, rest) ← value fuel room rest
    match skipSpace rest with
    | '\x7d' :: rest => .ok ([(name, x)], rest)
    | ',' :: rest =>
      let (xs, tail) ← members fuel room (skipSpace rest)
      .ok ((name, x) :: xs, tail)
    | _ => .error .malformed

end

/-- Reads a text that holds one value and blanks around it; `room` is how many lists and objects may be open at
once. -/
def parse (s : String) (room : Nat := nestingLimit) : Except Fault Value := do
  let cs := s.toList
  -- A level of nesting and an item each take a character, so the fuel is never used up.
  let (v, rest) ← value (2 * cs.length + 2) room (skipSpace cs)
  if (skipSpace rest).isEmpty then .ok v else .error .malformed

end Json
end GraphQuery
