/-!
# Classes of code points

A class of characters is a property of the Unicode character database, version 14.  It is stored as
the ascending list of the code points at which membership changes, so a point belongs to the class
exactly when an odd number of the listed points lie at or below it.
-/

namespace GraphQuery
namespace Text

/-- Membership in the class whose changes are listed: each change at or below `n` flips the answer. -/
def insideChanges : List Nat → Nat → Bool
  | [], _ => false
  | change :: rest, n => if n < change then false else !insideChanges rest n

@[simp] theorem insideChanges_nil (n : Nat) : insideChanges [] n = false := rfl

theorem insideChanges_of_lt {change n : Nat} (rest : List Nat) (h : n < change) :
    insideChanges (change :: rest) n = false := by
  simp [insideChanges, h]

/-- A class given by two changes is the half-open interval between them. -/
theorem insideChanges_pair {first last n : Nat} :
    insideChanges [first, last] n = true ↔ first ≤ n ∧ n < last := by
  unfold insideChanges insideChanges
  split <;> rename_i h₁
  · simp; omega
  · split <;> simp [insideChanges] <;> omega

end Text
end GraphQuery
