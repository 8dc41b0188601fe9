import GraphQuery.Number.Shortest
import Mathlib.Data.List.Basic
import Mathlib.Data.List.TakeWhile

/-!
# Texts of integers — read back from the end of a longer text

The text of an integer is a sign, where there is one, and digits.  Two integers have different texts, and
an integer that ends a text after a dash can be told from what stands before (`dash_intText_inj`).
-/

namespace GraphQuery
namespace Number

theorem isDigit_of_mem_natDigits {n : Nat} {c : Char} (h : c ∈ natDigits n) : c.isDigit = true :=
  Nat.isDigit_of_mem_toDigits (by decide) (by decide) h

theorem natDigits_inj {m n : Nat} : natDigits m = natDigits n ↔ m = n := by
  constructor
  · intro h
    have hread := congrArg (Nat.ofDigitChars 10 · 0) h
    simpa [natDigits, Nat.ofDigitChars_toDigits] using hread
  · rintro rfl
    rfl

/-- The sign before the digits of an integer. -/
def signChars (n : Int) : List Char :=
  if n < 0 then ['-'] else []

theorem toList_intText (n : Int) : (intText n).toList = signChars n ++ natDigits n.natAbs := by
  by_cases h : n < 0
  · simp [intText, signChars, h]
  · simp [intText, signChars, h]

/-- Texts whose first characters are of a class and go on with a character that is not split in one way
only. -/
theorem split_inj {p : Char → Bool} {xs xs' ys ys' : List Char} {c c' : Char}
    (hxs : ∀ x ∈ xs, p x = true) (hxs' : ∀ x ∈ xs', p x = true) (hc : p c = false)
    (hc' : p c' = false) (h : xs ++ c :: ys = xs' ++ c' :: ys') :
    xs = xs' ∧ c :: ys = c' :: ys' := by
  have htake := congrArg (List.takeWhile p) h
  rw [List.takeWhile_append_of_pos hxs, List.takeWhile_append_of_pos hxs'] at htake
  have hfront : xs = xs' := by simpa [hc, hc'] using htake
  subst hfront
  exact ⟨rfl, List.append_cancel_left h⟩

/-- An integer after a dash at the end of a text is read back, if what stands before does not end in a
dash itself. -/
theorem dash_intText_inj {front front' : List Char} {c c' : Char} {m n : Int} (hc : c ≠ '-')
    (hc' : c' ≠ '-')
    (h : front ++ c :: '-' :: (intText m).toList = front' ++ c' :: '-' :: (intText n).toList) :
    front ++ [c] = front' ++ [c'] ∧ m = n := by
  have hdash : Char.isDigit '-' = false := by decide
  have hdigits : ∀ k : Int, ∀ x ∈ (natDigits k.natAbs).reverse, Char.isDigit x = true := by
    intro k x hx
    exact isDigit_of_mem_natDigits (List.mem_reverse.1 hx)
  -- Read from the end, the digits are followed by a dash in any case.
  have hshape : ∀ (k : Int) (rest : List Char),
      (signChars k).reverse ++ '-' :: rest = '-' :: ((signChars k).reverse ++ rest) := by
    intro k rest
    by_cases hk : k < 0 <;> simp [signChars, hk]
  have hreverse := congrArg List.reverse h
  simp only [toList_intText, List.reverse_append, List.reverse_cons, List.append_assoc,
    List.cons_append, List.nil_append, hshape] at hreverse
  have hparts := split_inj (hdigits m) (hdigits n) hdash hdash hreverse
  have habs : m.natAbs = n.natAbs := natDigits_inj.1 (List.reverse_injective hparts.1)
  have hrest := List.tail_eq_of_cons_eq hparts.2
  by_cases hm : m < 0
  · by_cases hn : n < 0
    · simp only [signChars, hm, hn, if_true, List.reverse_singleton, List.singleton_append,
        List.cons.injEq, true_and] at hrest
      refine ⟨?_, by omega⟩
      rw [hrest.1, List.reverse_injective hrest.2]
    · simp only [signChars, hm, hn, if_true, if_false, List.reverse_singleton, List.reverse_nil,
        List.singleton_append, List.nil_append, List.cons.injEq] at hrest
      exact absurd hrest.1.symm hc'
  · by_cases hn : n < 0
    · simp only [signChars, hm, hn, if_true, if_false, List.reverse_singleton, List.reverse_nil,
        List.singleton_append, List.nil_append, List.cons.injEq] at hrest
      exact absurd hrest.1 hc
    · simp only [signChars, hm, hn, if_false, List.reverse_nil, List.nil_append,
        List.cons.injEq] at hrest
      refine ⟨?_, by omega⟩
      rw [hrest.1, List.reverse_injective hrest.2]

end Number
end GraphQuery
