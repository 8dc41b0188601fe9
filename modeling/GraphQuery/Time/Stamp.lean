import GraphQuery.Number.Reader
import GraphQuery.Time.Date

/-!
# Points in time

A `Timestamp` is a wall clock reading with an optional offset from UTC in minutes.  It is read from ISO
text or from a number of seconds since 1970, and written as ISO text; the reading is kept as it was
given, so that writing shows the wall clock and offset that were read.
-/

namespace GraphQuery

structure Timestamp where
  date : Date
  hour : Nat
  minute : Nat
  second : Nat
  micro : Nat
  /-- Minutes east of UTC; none for a reading without a time zone. -/
  offset : Option Int
deriving DecidableEq, Repr

namespace Timestamp

/-! ## Writing -/

def offsetText (minutes : Int) : String :=
  let sign := if minutes < 0 then "-" else "+"
  sign ++ Date.padded 2 (minutes.natAbs / 60) ++ ":" ++ Date.padded 2 (minutes.natAbs % 60)

def wallText (t : Timestamp) : String :=
  let fraction := if t.micro = 0 then "" else "." ++ Date.padded 6 t.micro
  t.date.text ++ "T" ++ Date.padded 2 t.hour ++ ":" ++ Date.padded 2 t.minute ++ ":" ++
    Date.padded 2 t.second ++ fraction

/-- The ISO text; the offset of UTC is written `+00:00`. -/
def text (t : Timestamp) : String :=
  t.wallText ++ (match t.offset with
    | none => ""
    | some minutes => offsetText minutes)

/-- The ISO text with UTC written `Z`. -/
def zuluText (t : Timestamp) : String :=
  if t.offset = some 0 then t.wallText ++ "Z" else t.text

/-! ## Reading -/

/-- A number of exactly `n` basic digits and what follows it. -/
def fixedDigits? : Nat → List Char → Option (Nat × List Char)
  | n, s =>
    let digits := s.take n
    if digits.length = n && digits.all Char.isDigit then some (Number.basicValue digits, s.drop n)
    else none

/-- The given character and what follows it. -/
def skip? (c : Char) : List Char → Option (List Char)
  | d :: rest => if d = c then some rest else none
  | [] => none

def date? (s : List Char) : Option (Date × List Char) := do
  let (year, s) ← fixedDigits? 4 s
  let (month, s) ← fixedDigits? 2 (← skip? '-' s)
  let (day, s) ← fixedDigits? 2 (← skip? '-' s)
  let date : Date := ⟨year, month, day⟩
  if date.isValid then some (date, s) else none

/-- Seconds with an optional fraction, cut to microseconds. -/
def seconds? (s : List Char) : Option (Nat × Nat × List Char) := do
  let (second, s) ← fixedDigits? 2 s
  match s with
  | c :: rest =>
    if c = '.' || c = ',' then
      let digits := rest.takeWhile Char.isDigit
      if digits.isEmpty then none
      else
        let micro := (digits ++ List.replicate 6 '0').take 6
        some (second, Number.basicValue micro, rest.dropWhile Char.isDigit)
    else some (second, 0, s)
  | [] => some (second, 0, s)

/-- The sign of an offset, true for west; there are two characters for a minus. -/
def offsetSign? (c : Char) : Option Bool :=
  if c = '+' then some false
  else if c = '-' || c.toNat = 0x2212 then some true
  else none

/-- The offset that ends a time: none at all, `Z`, or signed hours and minutes. -/
def offset? (s : List Char) : Option (Option Int) :=
  match s with
  | [] => some none
  | ['Z'] | ['z'] => some (some 0)
  | sign :: rest => do
    let west ← offsetSign? sign
    let (hours, rest) ← fixedDigits? 2 rest
    let rest := match rest with
      | ':' :: more => more
      | _ => rest
    let (minutes, rest) ← fixedDigits? 2 rest
    let total := 60 * hours + minutes
    if !rest.isEmpty || 59 < minutes || 1440 ≤ total then none
    else some (some (if west then -(total : Int) else total))

/-- Midnight of a day, without a time zone. -/
def ofDate (d : Date) : Timestamp := ⟨d, 0, 0, 0, 0, none⟩

/-- Reads a date, alone or with a time of day. -/
def iso? (s : List Char) : Option Timestamp := do
  let (date, rest) ← date? s
  match rest with
  | [] => some (ofDate date)
  | separator :: rest =>
    if !(['T', 't', ' ', '_'].contains separator) then none
    else
      let (hour, rest) ← fixedDigits? 2 rest
      let (minute, rest) ← fixedDigits? 2 (← skip? ':' rest)
      let (second, micro, rest) ← match rest with
        | ':' :: more => seconds? more
        | _ => some (0, 0, rest)
      let offset ← offset? rest
      if 23 < hour || 59 < minute || 59 < second then none
      else some ⟨date, hour, minute, second, micro, offset⟩

/-! ## Counts of seconds -/

/-- Seconds from the first of January of the year 0 to that of 1970. -/
def epochSeconds : Int := 719528 * 86400

/-- The UTC reading of a time after the start of 1970, in the years 0 to 9999. -/
def ofEpoch? (seconds : Int) (micros : Nat) : Option Timestamp :=
  let total := seconds + micros / 1000000 + epochSeconds
  if total < 0 || 3652425 * 86400 ≤ total then none
  else
    let total := total.toNat
    let rest := total % 86400
    some ⟨Date.ofDays (total / 86400), rest / 3600, rest / 60 % 60, rest % 60, micros % 1000000,
      some 0⟩

/-- The reading of a count of milliseconds and of microseconds on top. -/
def ofMillis? (millis : Int) (micros : Nat) : Option Timestamp :=
  ofEpoch? (Int.fdiv millis 1000) (micros + 1000 * (Int.fmod millis 1000).toNat)

/-- Counts of seconds beyond this size are taken for milliseconds. -/
def greatestSeconds : Nat := 20000000000

/-- The reading of a count of seconds, or of milliseconds if it is large. -/
def ofCount? (count : Int) : Option Timestamp :=
  if count.natAbs ≤ greatestSeconds then ofEpoch? count 0 else ofMillis? count 0

/-- A part of a unit in microseconds, of which the unit has the given number; a half is rounded up. -/
def microsOf (part : Binary64) (perUnit : Nat) : Nat :=
  ((part.mul (.ofNat perUnit)).toRat + 1 / 2).floor.toNat

/-- The reading of a floating number of seconds, or of milliseconds if it is large. -/
def ofBinary64? (x : Binary64) : Option Timestamp :=
  x.toRat?.bind fun q =>
    let part := x.sub (.ofInt q.floor)
    if (if q < 0 then -q else q) ≤ greatestSeconds then ofEpoch? q.floor (microsOf part 1000000)
    else ofMillis? q.floor (microsOf part 1000)

/-- The reading of the text of a number, whose digits are followed by a point or the end. -/
def ofNumberText? (s : List Char) : Option Timestamp :=
  let (negative, body) := Text.splitSign s
  match body.dropWhile Char.isDigit with
  | [] =>
    if body.isEmpty then none
    else
      let size := Number.basicValue body
      ofCount? (if negative then -(size : Int) else size)
  | '.' :: _ => (Number.decimal? s).bind fun d => ofBinary64? d.toBinary64
  | _ => none

/-- Reads a time: ISO text, or the text of a number. -/
def ofText? (s : String) : Option Timestamp :=
  match iso? s.toList with
  | some t => some t
  | none => ofNumberText? s.toList

end Timestamp
end GraphQuery
