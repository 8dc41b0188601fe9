import GraphQuery.Text.Blank
import GraphQuery.Text.Alphanumeric

/-!
# Integers in texts

An integer text is an optional sign and decimal digits of any script, with single underscores allowed
between digits and spaces around the whole.  A text of very many digits is not read as a number.
-/

namespace GraphQuery
namespace Text

/-- The value of digits of which a first one has been read; an underscore must stand between digits. -/
def digitsFrom (value : Nat) : List Char → Option Nat
  | [] => some value
  | '_' :: c :: rest => (digitValue? c).bind fun d => digitsFrom (10 * value + d) rest
  | c :: rest => (digitValue? c).bind fun d => digitsFrom (10 * value + d) rest

/-- The value of one or more digits. -/
def digits? : List Char → Option Nat
  | [] => none
  | c :: rest => (digitValue? c).bind fun d => digitsFrom d rest

/-- The sign in front of a text, true for a minus, and what follows it. -/
def splitSign : List Char → Bool × List Char
  | '-' :: rest => (true, rest)
  | '+' :: rest => (false, rest)
  | s => (false, s)

/-- Integers are read from no more digits than these. -/
def integerDigitLimit : Nat := 4300

/-- The integer a text stands for. -/
def integer? (s : String) : Option Int :=
  let (negative, body) := splitSign (trimSpace s.toList)
  if integerDigitLimit < (body.filter (· ≠ '_')).length then none
  else (digits? body).map fun n => if negative then -(n : Int) else n

end Text
end GraphQuery
