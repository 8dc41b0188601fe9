import GraphQuery.Number.Binary64
import GraphQuery.Text.Integer

/-!
# Numbers in texts

Two readers of number texts.  `decimal?` accepts a plain decimal with an optional sign, fraction and
exponent; `looseInteger` accepts an integer with white space around it, a sign, leading zeros, single
underscores and a fraction of zeros.  Both know basic digits only.
-/

namespace GraphQuery
namespace Number

/-- A decimal number as written: `± digits * 10 ^ exponent`. -/
structure Decimal where
  negative : Bool
  digits : Nat
  exponent : Int
deriving DecidableEq, Repr

namespace Decimal

def toBinary64 (d : Decimal) : Binary64 := .ofDecimal d.negative d.digits d.exponent

end Decimal

/-- The value of basic digits. -/
def basicValue (digits : List Char) : Nat :=
  digits.foldl (fun n c => 10 * n + (c.toNat - 0x30)) 0

/-- The exponent that ends a decimal; an empty text is exponent zero. -/
def exponentPart? (s : List Char) : Option Int :=
  match s with
  | [] => some 0
  | e :: rest =>
    if e = 'e' || e = 'E' then
      let (negative, digits) := Text.splitSign rest
      if digits.isEmpty || !digits.all Char.isDigit then none
      else some (if negative then -(basicValue digits : Int) else basicValue digits)
    else none

/-- Reads a decimal, whose point needs digits on one side at least. -/
def decimal? (s : List Char) : Option Decimal :=
  let (negative, body) := Text.splitSign s
  let whole := body.takeWhile Char.isDigit
  let rest := body.dropWhile Char.isDigit
  let (fraction, tail) := match rest with
    | '.' :: more => (more.takeWhile Char.isDigit, more.dropWhile Char.isDigit)
    | _ => ([], rest)
  if whole.isEmpty && fraction.isEmpty then none
  else
    (exponentPart? tail).map fun e =>
      ⟨negative, basicValue (whole ++ fraction), e - fraction.length⟩

/-- Reads a floating number: a decimal, or infinity or nan in any letter case. -/
def binary64? (s : List Char) : Option Binary64 :=
  match decimal? s with
  | some d => some d.toBinary64
  | none =>
    let (negative, body) := Text.splitSign s
    let name := String.ofList (body.map Char.toLower)
    if name = "inf" || name = "infinity" then some (.infinite negative)
    else if name = "nan" then some .nan
    else none

/-! ## Loose texts -/

/-- Drops the underscores of a text in which each stands alone and none stands at an end. -/
def withoutUnderscores (s : List Char) : List Char :=
  let rec doubled : List Char → Bool
    | '_' :: '_' :: _ => true
    | _ :: rest => doubled rest
    | [] => false
  if s.head? = some '_' || s.getLast? = some '_' || doubled s then s
  else s.filter (· ≠ '_')

/-- What follows leading zeros and the underscores among them; `last` is the character before.  It stays
where nothing follows, or a point. -/
def afterZeros? (last : Char) : List Char → Option (List Char)
  | [] => some [last]
  | c :: rest =>
    if c = '0' || c = '_' then afterZeros? c rest
    else if c.isDigit || c = '-' then some (c :: rest)
    else if c = '.' then some (last :: c :: rest)
    else none

/-- Drops leading zeros; a text must start with a digit or a minus, and only zeros are followed by what
counts as leading. -/
def withoutLeadingZeros? : List Char → Option (List Char)
  | [] => none
  | c :: rest =>
    if c = '0' then afterZeros? c rest
    else if c.isDigit || c = '-' then some (c :: rest)
    else none

/-- Drops a fraction of one or more zeros. -/
def withoutZeroFraction (s : List Char) : List Char :=
  let fraction := (s.dropWhile (· ≠ '.')).drop 1
  if !fraction.isEmpty && fraction.all (· = '0') then s.takeWhile (· ≠ '.') else s

/-- Why a text is not read as an integer. -/
inductive IntegerFault where
  | malformed
  | tooLong
deriving DecidableEq, Repr

/-- Reads digits without leading zeros, with a minus perhaps; a number of too many characters is not
read, whatever follows it. -/
def plainInteger (s : List Char) : Except IntegerFault Int :=
  let negative := s.head? = some '-'
  let body := if negative then s.drop 1 else s
  let digits := body.takeWhile Char.isDigit
  if digits.isEmpty || (digits.head? = some '0' && 1 < digits.length) then .error .malformed
  else if Text.integerDigitLimit < digits.length + (s.length - body.length) then .error .tooLong
  else if digits.length < body.length then .error .malformed
  else .ok (if negative then -(basicValue digits : Int) else basicValue digits)

/-- Reads an integer with white space around it, a plus, leading zeros, underscores and a fraction of
zeros allowed. -/
def looseInteger (s : String) : Except IntegerFault Int :=
  let body := Text.trimSpace s.toList
  let body := match body with
    | '+' :: '-' :: _ => none
    | '+' :: rest => some rest
    | _ => some body
  match body.bind withoutLeadingZeros? with
  | some digits => plainInteger (withoutUnderscores (withoutZeroFraction digits))
  | none => .error .malformed

/-- Reads a floating number with white space around it, or else with underscores in it. -/
def looseBinary64? (s : String) : Option Binary64 :=
  match binary64? (Text.trimSpace s.toList) with
  | some x => some x
  | none => binary64? (withoutUnderscores s.toList)

end Number
end GraphQuery
