import GraphQuery.Number.Binary64

/-!
# Shortest decimal texts

A floating number is written with the fewest decimal digits that read back as the same number; among
those, with the digits nearest to its exact value.  How many digits count as positional, and how an
exponent is written, is a layout of its own.
-/

namespace GraphQuery
namespace Number

/-- A positive number `mantissa * 2 ^ exponent` as an exact quotient. -/
def sizeNum (m : Nat) (e : Int) : Nat := m * Nat.pow 2 e.toNat

def sizeDen (e : Int) : Nat := Nat.pow 2 (-e).toNat

/-- The largest `t` among the three candidates around an estimate with `10 ^ t` at most the number. -/
def decimalTop (m : Nat) (e : Int) : Int :=
  let num := sizeNum m e
  let den := sizeDen e
  let estimate : Int := ((m.log2 : Int) + e) * 30103 / 100000
  let reaches (t : Int) : Bool := den * Nat.pow 10 t.toNat ≤ num * Nat.pow 10 (-t).toNat
  if reaches (estimate + 1) then estimate + 1
  else if reaches estimate then estimate
  else estimate - 1

/-- The best multiple of `10 ^ k` that reads back as `m * 2 ^ e`, as the multiplier. -/
def gridHit? (m : Nat) (e k : Int) : Option Nat :=
  let scale := Nat.pow 10 (-k).toNat
  let num := sizeNum m e * scale
  let den := sizeDen e * Nat.pow 10 k.toNat
  let unit := Nat.pow 2 e.toNat * scale
  -- Quarters of the unit: the next number up is four away, the next one down four or two.
  let down := if m = Nat.pow 2 52 ∧ -1074 < e then 1 else 2
  let low := 4 * num - down * unit
  let high := 4 * num + 2 * unit
  let even := m % 2 = 0
  let inside (c : Nat) : Bool :=
    let x := 4 * c * den
    if even then low ≤ x && x ≤ high else low < x && x < high
  let q := num / den
  let r := num % den
  match inside q, inside (q + 1) with
  | true, true =>
    if 2 * r < den then some q
    else if den < 2 * r then some (q + 1)
    else if q % 2 = 0 then some q else some (q + 1)
  | true, false => some q
  | false, true => some (q + 1)
  | false, false => none

/-- Drops final zeros of a multiplier, raising its power of ten; `fuel` bounds the number of zeros. -/
def dropZeros : Nat → Nat → Int → Nat × Int
  | 0, c, k => (c, k)
  | fuel + 1, c, k => if c ≠ 0 ∧ c % 10 = 0 then dropZeros fuel (c / 10) (k + 1) else (c, k)

/-- The shortest decimal `c * 10 ^ k` that reads back as the positive number `m * 2 ^ e`. -/
def shortest (m : Nat) (e : Int) : Nat × Int :=
  let top := decimalTop m e
  -- Seventeen digits always suffice, so the last case does not arise for a number in range.
  let grids := (List.range 17).map fun (n : Nat) => top - (n : Int)
  match grids.findSome? fun k => (gridHit? m e k).map fun c => (c, k) with
  | some (c, k) => dropZeros 20 c k
  | none => (0, 0)

/-! ## Layout -/

/-- How a decimal is laid out: which exponents are written positionally, and the least number of
exponent digits. -/
structure Layout where
  lowestPositional : Int
  firstExponential : Int
  exponentWidth : Nat

/-- Positional from `0.0001` up to below `1e16`, with at least two digits in an exponent. -/
def standardLayout : Layout := ⟨-4, 16, 2⟩

/-- The decimal digits of a natural number. -/
def natDigits (n : Nat) : List Char := Nat.toDigits 10 n

def padLeft (width : Nat) (fill : Char) (s : List Char) : List Char :=
  List.replicate (width - s.length) fill ++ s

/-- The text of the decimal `c * 10 ^ k`, always with a fraction or an exponent. -/
def Layout.write (layout : Layout) (c : Nat) (k : Int) : List Char :=
  let digits := natDigits c
  let exponent : Int := digits.length + k - 1
  if layout.lowestPositional ≤ exponent ∧ exponent < layout.firstExponential then
    if exponent < 0 then
      '0' :: '.' :: List.replicate (-exponent - 1).toNat '0' ++ digits
    else
      let whole := (exponent + 1).toNat
      let first := digits.take whole
      let rest := digits.drop whole
      first ++ List.replicate (whole - first.length) '0' ++ '.' :: (if rest.isEmpty then ['0'] else rest)
  else
    let sign := if exponent < 0 then '-' else '+'
    let tail := 'e' :: sign :: padLeft layout.exponentWidth '0' (natDigits exponent.natAbs)
    match digits with
    | [] => tail
    | [d] => d :: tail
    | d :: rest => d :: '.' :: rest ++ tail

/-- The text of a floating number: the shortest digits that read back, and `nan` or `inf`. -/
def binary64Text (x : Binary64) : String :=
  match x with
  | .nan => "nan"
  | .infinite true => "-inf"
  | .infinite false => "inf"
  | .finite negative m e =>
    let sign := if negative then ['-'] else []
    let body :=
      if m = 0 then "0.0".toList
      else
        let (c, k) := shortest m e
        standardLayout.write c k
    String.ofList (sign ++ body)

/-- The text of an integer. -/
def intText (n : Int) : String :=
  let digits := String.ofList (natDigits n.natAbs)
  if n < 0 then "-" ++ digits else digits

end Number
end GraphQuery
