import GraphQuery.Number.Shortest

/-!
# Fixed decimal places

A number is rounded to tenths by its exact binary value; a tie goes to the even neighbour.
-/

namespace GraphQuery
namespace Number

/-- The number of tenths nearest to a number. -/
def tenths (x : Binary64) : Int := roundRat (x.toRat * 10)

/-- The floating number nearest to a number rounded to tenths. -/
def roundToTenths (x : Binary64) : Binary64 := .ofQuotient x.isNegative (tenths x).natAbs 10

/-- A finite number with exactly one decimal place. -/
def tenthsText (x : Binary64) : String :=
  let n := (tenths x).natAbs
  let sign := if x.isNegative then "-" else ""
  sign ++ intText (n / 10 : Nat) ++ "." ++ intText (n % 10 : Nat)

end Number
end GraphQuery
