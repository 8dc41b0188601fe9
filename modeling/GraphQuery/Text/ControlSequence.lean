/-!
# Terminal control sequences

A control sequence is an escape character and an opening bracket, then digits, semicolons and question
marks, and a basic letter at the end.  Output that does not go to a terminal is shown without them.
-/

namespace GraphQuery
namespace Text

def isControlParameter (c : Char) : Bool := c.isDigit || c = ';' || c = '?'

/-- What follows the control sequence that a text starts with, the opening left out; none if what is there
does not end as one. -/
def afterParameters? : List Char → Option (List Char)
  | [] => none
  | c :: rest =>
    if isControlParameter c then afterParameters? rest
    else if c.isAlpha then some rest
    else none

theorem length_of_afterParameters? {s rest : List Char} (h : afterParameters? s = some rest) :
    rest.length < s.length := by
  induction s with
  | nil => simp [afterParameters?] at h
  | cons c s ih =>
    simp only [afterParameters?] at h
    split at h
    · exact Nat.lt_succ_of_lt (ih h)
    · split at h <;> simp_all

/-- The characters of a text outside control sequences. -/
def outsideControls (s : List Char) : List Char :=
  match s with
  | [] => []
  | [c] => [c]
  | c :: d :: rest =>
    if c.toNat = 0x1b && d = '[' then
      match h : afterParameters? rest with
      | some left =>
        have := length_of_afterParameters? h
        outsideControls left
      | none => c :: outsideControls (d :: rest)
    else c :: outsideControls (d :: rest)
termination_by s.length
decreasing_by all_goals simp_all <;> omega

def withoutControls (s : String) : String := String.ofList (outsideControls s.toList)

end Text
end GraphQuery
