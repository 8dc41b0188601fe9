import GraphQuery.Number.Shortest

/-!
# Calendar dates

Dates of the proleptic Gregorian calendar, years 0 to 9999, with the number of days since the first of
January of the year 0 as the view that arithmetic uses.
-/

namespace GraphQuery

structure Date where
  year : Nat
  month : Nat
  day : Nat
deriving DecidableEq, Repr

namespace Date

def isLeap (year : Nat) : Bool :=
  year % 4 = 0 && (year % 100 ≠ 0 || year % 400 = 0)

def daysInMonth (year month : Nat) : Nat :=
  match month with
  | 2 => if isLeap year then 29 else 28
  | 4 | 6 | 9 | 11 => 30
  | _ => 31

/-- Whether the parts name a day of the calendar. -/
def isValid (d : Date) : Bool :=
  d.year ≤ 9999 && 1 ≤ d.month && d.month ≤ 12 &&
    1 ≤ d.day && d.day ≤ daysInMonth d.year d.month

/-- Whether the first date comes before the second. -/
def before (a b : Date) : Bool :=
  a.year < b.year || (a.year = b.year && (a.month < b.month || (a.month = b.month && a.day < b.day)))

/-- The day count of the first of January, the year 0 starting at zero. -/
def daysBeforeYear (year : Nat) : Nat :=
  365 * year + (year + 3) / 4 - (year + 99) / 100 + (year + 399) / 400

/-- The first day of the month `month` within its year, counted from zero. -/
def daysBeforeMonth (year month : Nat) : Nat :=
  ((List.range (month - 1)).map fun (i : Nat) => daysInMonth year (i + 1)).foldl (· + ·) 0

def toDays (d : Date) : Nat :=
  daysBeforeYear d.year + daysBeforeMonth d.year d.month + (d.day - 1)

/-- The month and day that lie `days` after the first of the given month. -/
def monthDay (year : Nat) : Nat → Nat → Nat → Nat × Nat
  | 0, month, days => (month, days + 1)
  | fuel + 1, month, days =>
    if days < daysInMonth year month then (month, days + 1)
    else monthDay year fuel (month + 1) (days - daysInMonth year month)

/-- The date with a given day count. -/
def ofDays (days : Nat) : Date :=
  let estimate := days * 400 / 146097
  let year :=
    if days < daysBeforeYear estimate then estimate - 1
    else if daysBeforeYear (estimate + 1) ≤ days then estimate + 1
    else estimate
  let (month, day) := monthDay year 11 1 (days - daysBeforeYear year)
  ⟨year, month, day⟩

/-- A natural number with at least `width` digits. -/
def padded (width n : Nat) : String :=
  String.ofList (Number.padLeft width '0' (Number.natDigits n))

/-- The date as `YYYY-MM-DD`. -/
def text (d : Date) : String :=
  padded 4 d.year ++ "-" ++ padded 2 d.month ++ "-" ++ padded 2 d.day

end Date
end GraphQuery
