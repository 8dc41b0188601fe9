/-!
# Binary floating numbers

A binary floating number has 53 significant bits and an exponent between -1074 and 971.  It is stored
as sign, mantissa and exponent, so that its exact value is a rational number; arithmetic computes the
exact result and rounds it once, to the nearest representable number and to the even one of two.

* `Binary64.ofQuotient` rounds an exact quotient;
* `Binary64.toRat?` is the exact value;
* `Binary64.ofDecimal` reads `digits * 10 ^ exponent`.
-/

namespace GraphQuery

/-- A binary floating number; a finite one has value `± mantissa * 2 ^ exponent`. -/
inductive Binary64 where
  | nan
  | infinite (negative : Bool)
  | finite (negative : Bool) (mantissa : Nat) (exponent : Int)
deriving DecidableEq, Repr

namespace Number

/-- The quotient rounded to the nearest natural number, a half to the even neighbour. -/
def roundHalfEven (num den : Nat) : Nat :=
  let q := num / den
  let r := num % den
  if 2 * r < den then q
  else if den < 2 * r then q + 1
  else if q % 2 = 0 then q else q + 1

/-- A rational number rounded to the nearest integer, a half to the even neighbour. -/
def roundRat (q : Rat) : Int :=
  if q.num < 0 then -(roundHalfEven q.num.natAbs q.den : Int) else roundHalfEven q.num.natAbs q.den

end Number

namespace Binary64

open Number

def zero : Binary64 := finite false 0 (-1074)

/-- The numerator that remains when `2 ^ exponent` is taken out of a quotient. -/
def numShift (exponent : Int) (num : Nat) : Nat := num * Nat.pow 2 (-exponent).toNat

/-- The denominator that remains when `2 ^ exponent` is taken out of a quotient. -/
def denShift (exponent : Int) (den : Nat) : Nat := den * Nat.pow 2 exponent.toNat

/-- The exponent at which a positive quotient has 53 significant bits, or the lowest one. -/
def scaleOf (num den : Nat) : Int :=
  let guess : Int := (num.log2 : Int) - den.log2
  let top := if numShift guess num < denShift guess den then guess - 1 else guess
  max (top - 52) (-1074)

/-- The number nearest to `± num / den`. -/
def ofQuotient (negative : Bool) (num den : Nat) : Binary64 :=
  if num = 0 then finite negative 0 (-1074)
  else
    let e := scaleOf num den
    let m := roundHalfEven (numShift e num) (denShift e den)
    let (m, e) := if m = Nat.pow 2 53 then (Nat.pow 2 52, e + 1) else (m, e)
    if 971 < e then infinite negative else finite negative m e

def ofRat (q : Rat) : Binary64 := ofQuotient (q.num < 0) q.num.natAbs q.den

def ofInt (n : Int) : Binary64 := ofQuotient (n < 0) n.natAbs 1

def ofNat (n : Nat) : Binary64 := ofQuotient false n 1

/-- The number nearest to `± digits * 10 ^ exponent`.  Exponents far outside the range are answered
without computing the power. -/
def ofDecimal (negative : Bool) (digits : Nat) (exponent : Int) : Binary64 :=
  if digits = 0 then finite negative 0 (-1074)
  else
    let top : Int := (Nat.log2 digits : Int) * 30103 / 100000 + exponent
    if 330 < top then infinite negative
    else if top < -400 then finite negative 0 (-1074)
    else ofQuotient negative (digits * Nat.pow 10 exponent.toNat) (Nat.pow 10 (-exponent).toNat)

/-- The exact value of a finite number. -/
def toRat? : Binary64 → Option Rat
  | finite negative m e =>
    let size : Rat := mkRat (m * Nat.pow 2 e.toNat : Nat) (Nat.pow 2 (-e).toNat)
    some (if negative then -size else size)
  | _ => none

/-- The exact value, zero for a number that has none. -/
def toRat (x : Binary64) : Rat := x.toRat?.getD 0

/-- The number nearest to an integer; none beyond the range. -/
def ofInt? (n : Int) : Option Binary64 :=
  match ofInt n with
  | finite negative m e => some (finite negative m e)
  | _ => none

def isNegative : Binary64 → Bool
  | nan => false
  | infinite negative => negative
  | finite negative _ _ => negative

def isZero : Binary64 → Bool
  | finite _ m _ => m = 0
  | _ => false

/-- The integer a number without a fraction stands for. -/
def toInt? (x : Binary64) : Option Int :=
  match x.toRat? with
  | some q => if q.den = 1 then some q.num else none
  | none => none

/-! ## Arithmetic on finite numbers -/

def add (x y : Binary64) : Binary64 := ofRat (x.toRat + y.toRat)

def sub (x y : Binary64) : Binary64 := ofRat (x.toRat - y.toRat)

def mul (x y : Binary64) : Binary64 := ofRat (x.toRat * y.toRat)

/-- The nearest number to a quotient of natural numbers. -/
def ratio (num den : Nat) : Binary64 := ofQuotient false num den

end Binary64
end GraphQuery
