import GraphQuery.Number.Reader
import GraphQuery.Proofs.Number.IntegerText
import Mathlib.Data.List.Induction
import Mathlib.Tactic.IntervalCases
import Mathlib.Tactic.Ring

/-!
# Digits of numbers — read back with what stands around them

The digits of a number are read as the number (`Number.basicValue_natDigits`), also after zeros; zeros after
them multiply it by ten.  A run of digits ends where a character follows that is no digit.
-/

namespace GraphQuery
namespace Number

/-! ## Values -/

theorem basicValue_concat (s : List Char) (c : Char) :
    basicValue (s ++ [c]) = 10 * basicValue s + (c.toNat - 0x30) := by
  simp [basicValue]

theorem basicValue_append (s t : List Char) :
    basicValue (s ++ t) = basicValue s * 10 ^ t.length + basicValue t := by
  induction t using List.reverseRecOn with
  | nil =>
      simp [basicValue]
  | append_singleton t c ih =>
      rw [← List.append_assoc, basicValue_concat, basicValue_concat, ih, List.length_append,
        List.length_singleton, pow_succ]
      ring

@[simp] theorem basicValue_natDigits (n : Nat) : basicValue (natDigits n) = n :=
  Nat.ofDigitChars_toDigits (by decide) (by decide)

@[simp] theorem basicValue_zeros (n : Nat) : basicValue (List.replicate n '0') = 0 := by
  induction n with
  | zero =>
      rfl
  | succ n ih =>
      rw [List.replicate_succ', basicValue_concat, ih]
      rfl

@[simp] theorem basicValue_zeros_append (n : Nat) (s : List Char) :
    basicValue (List.replicate n '0' ++ s) = basicValue s := by
  simp [basicValue_append]

theorem basicValue_append_zeros (n : Nat) (s : List Char) :
    basicValue (s ++ List.replicate n '0') = basicValue s * 10 ^ n := by
  simp [basicValue_append]

/-! ## Runs of digits -/

/-- Whether a text does not go on with a digit. -/
def StopsDigits (s : List Char) : Prop := ∀ c ∈ s.head?, c.isDigit = false

theorem takeWhile_isDigit {digits rest : List Char} (hdigits : ∀ c ∈ digits, c.isDigit = true)
    (hrest : StopsDigits rest) : (digits ++ rest).takeWhile Char.isDigit = digits := by
  rw [List.takeWhile_append_of_pos hdigits]
  cases rest with
  | nil =>
      simp
  | cons c rest =>
      simp [hrest c rfl]

theorem dropWhile_isDigit {digits rest : List Char} (hdigits : ∀ c ∈ digits, c.isDigit = true)
    (hrest : StopsDigits rest) : (digits ++ rest).dropWhile Char.isDigit = rest := by
  rw [List.dropWhile_append_of_pos hdigits]
  cases rest with
  | nil =>
      rfl
  | cons c rest =>
      simp [hrest c rfl]

/-! ## The digits of a number -/

theorem natDigits_ne_nil (n : Nat) : natDigits n ≠ [] := Nat.toDigits_ne_nil

theorem length_natDigits_pos (n : Nat) : 0 < (natDigits n).length := Nat.length_toDigits_pos

theorem length_natDigits_le_iff {n k : Nat} (hk : 0 < k) : (natDigits n).length ≤ k ↔ n < 10 ^ k :=
  Nat.length_toDigits_le_iff (by decide) hk

theorem basicValue_lt {digits : List Char} (h : ∀ c ∈ digits, c.isDigit = true) :
    basicValue digits < 10 ^ digits.length := by
  induction digits using List.reverseRecOn with
  | nil =>
      decide
  | append_singleton digits c ih =>
      rw [List.forall_mem_append, List.forall_mem_singleton] at h
      have hvalue := ih h.1
      have hc : 48 ≤ c.toNat ∧ c.toNat ≤ 57 := by simpa [Char.isDigit, UInt32.le_iff_toNat_le] using h.2
      rw [basicValue_concat, List.length_append, List.length_singleton, pow_succ]
      omega

/-- The value of digits needs no more digits than these. -/
theorem length_natDigits_basicValue_le {digits : List Char} (h : ∀ c ∈ digits, c.isDigit = true)
    (hne : digits ≠ []) : (natDigits (basicValue digits)).length ≤ digits.length :=
  (length_natDigits_le_iff (List.length_pos_of_ne_nil hne)).2 (basicValue_lt h)

/-- Only zero is written with a zero in front. -/
theorem head?_natDigits {n : Nat} (hn : 0 < n) : (natDigits n).head? ≠ some '0' := by
  induction n using Nat.strongRecOn with
  | ind n ih =>
      rw [natDigits, Nat.toDigits_eq_if (by decide)]
      split_ifs with hsmall
      · interval_cases n <;> decide
      · rw [List.head?_append_of_ne_nil _ Nat.toDigits_ne_nil]
        exact ih (n / 10) (by omega) (by omega)

/-- The first digit of a number and the digits after it. -/
theorem exists_natDigits_eq_cons (n : Nat) :
    ∃ c rest, natDigits n = c :: rest ∧ c.isDigit = true ∧ (c = '0' → n = 0) := by
  rcases hdigits : natDigits n with _ | ⟨c, rest⟩
  · exact absurd hdigits (natDigits_ne_nil n)
  · refine ⟨c, rest, rfl, isDigit_of_mem_natDigits (hdigits ▸ List.mem_cons_self), ?_⟩
    rintro rfl
    by_contra hne
    have hhead := head?_natDigits (Nat.pos_of_ne_zero hne)
    rw [hdigits] at hhead
    exact hhead rfl

/-! ## Digits of fixed width -/

theorem isDigit_of_mem_padLeft {width n : Nat} {c : Char} (h : c ∈ padLeft width '0' (natDigits n)) :
    c.isDigit = true := by
  rcases List.mem_append.1 h with h | h
  · rw [List.eq_of_mem_replicate h]
    decide
  · exact isDigit_of_mem_natDigits h

theorem basicValue_padLeft (width n : Nat) : basicValue (padLeft width '0' (natDigits n)) = n := by
  rw [padLeft, basicValue_zeros_append, basicValue_natDigits]

theorem length_padLeft {width n : Nat} (hwidth : 0 < width) (h : n < 10 ^ width) :
    (padLeft width '0' (natDigits n)).length = width := by
  have hlength := (length_natDigits_le_iff hwidth).2 h
  rw [padLeft, List.length_append, List.length_replicate]
  omega

theorem padLeft_ne_nil (width n : Nat) : padLeft width '0' (natDigits n) ≠ [] := by
  intro h
  exact natDigits_ne_nil n (List.append_eq_nil_iff.1 h).2

end Number
end GraphQuery
