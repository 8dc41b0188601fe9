import GraphQuery.Proofs.Number.DigitText
import Mathlib.Data.List.Basic

/-!
# Integers in texts — which texts are read, and that integers are read back

A text is read as an integer exactly if it consists of digits of any script, perhaps with a sign in front, with single
underscores between digits and with spaces around the whole (`Text.isSome_integer?_iff`).  The text of an integer is
read as this integer (`Text.integer?_intText`).
-/

namespace GraphQuery
namespace Text

/-! ## Digits are no spaces -/

/-- The stretches of a class of code points: from each change to the one after it. -/
def stretches : List Nat → List (Nat × Nat)
  | first :: last :: rest => (first, last) :: stretches rest
  | _ => []

/-- What is inside a class lies in one of its stretches, if the last of them ends. -/
theorem exists_stretch {changes : List Nat} {n : Nat} (heven : changes.length % 2 = 0)
    (h : insideChanges changes n = true) : ∃ stretch ∈ stretches changes, stretch.1 ≤ n ∧ n < stretch.2 := by
  fun_induction stretches changes with
  | case1 first last rest ih =>
      rw [insideChanges, insideChanges] at h
      by_cases hfirst : n < first
      · simp [hfirst] at h
      · by_cases hlast : n < last
        · exact ⟨(first, last), List.mem_cons_self, Nat.le_of_not_lt hfirst, hlast⟩
        · have hrest : insideChanges rest n = true := by simpa [hfirst, hlast] using h
          obtain ⟨stretch, hmem, hrange⟩ := ih (by simp only [List.length_cons] at heven; omega) hrest
          exact ⟨stretch, List.mem_cons_of_mem _ hmem, hrange⟩
  | case2 changes hshort =>
      rcases changes with _ | ⟨first, _ | ⟨last, rest⟩⟩
      · cases h
      · cases heven
      · exact absurd rfl (hshort first last rest)

theorem insideChanges_blank_of_digit :
    ∀ stretch ∈ stretches digitChanges, ∀ k < stretch.2 - stretch.1,
      insideChanges blankChanges (stretch.1 + k) = false := by
  decide +kernel

theorem insideChanges_of_isDecimalDigit {c : Char} (h : isDecimalDigit c = true) :
    insideChanges digitChanges c.toNat = true := by
  rw [isDecimalDigit] at h
  split at h
  · have hrange : 48 ≤ c.toNat ∧ c.toNat ≤ 57 := by
      simpa [Char.isDigit, UInt32.le_iff_toNat_le] using h
    rw [digitChanges, insideChanges, if_neg (by omega), insideChanges, if_pos (by omega)]
    rfl
  · exact h

theorem isSpace_of_isDecimalDigit {c : Char} (h : isDecimalDigit c = true) : isSpace c = false := by
  obtain ⟨stretch, hmem, hfirst, hlast⟩ := exists_stretch (by decide +kernel) (insideChanges_of_isDecimalDigit h)
  have hclear := insideChanges_blank_of_digit stretch hmem (c.toNat - stretch.1) (by omega)
  rw [Nat.add_sub_cancel' hfirst] at hclear
  rw [isSpace, isBlank, hclear, Bool.false_and]

/-! ## Runs of digits -/

/-- Whether a text goes on with digits, each perhaps after an underscore. -/
inductive GoesOn : List Char → Prop where
  | stop : GoesOn []
  | digit {c : Char} {rest : List Char} (first : isDecimalDigit c = true) (then_ : GoesOn rest) : GoesOn (c :: rest)
  | underscore {c : Char} {rest : List Char} (first : isDecimalDigit c = true) (then_ : GoesOn rest) :
      GoesOn ('_' :: c :: rest)

/-- Whether a text consists of digits with single underscores between them. -/
def IsDigits (s : List Char) : Prop := ∃ c rest, s = c :: rest ∧ isDecimalDigit c = true ∧ GoesOn rest

theorem isSome_digitValue? (c : Char) : (digitValue? c).isSome = isDecimalDigit c := by
  rw [digitValue?]
  split_ifs with hdigit
  · rw [hdigit, Option.isSome_some]
  · rw [hdigit, Option.isSome_some]
  · rw [Option.isSome_none]
    exact (Bool.not_eq_true _ ▸ hdigit).symm

theorem isSome_bind_digitValue? {c : Char} {f : Nat → Option Nat} {P : Prop}
    (h : ∀ d, (f d).isSome = true ↔ P) :
    ((digitValue? c).bind f).isSome = true ↔ isDecimalDigit c = true ∧ P := by
  rw [← isSome_digitValue?]
  cases digitValue? c with
  | none =>
      simp
  | some d =>
      simp [h]

theorem isSome_digitsFrom_iff {value : Nat} {s : List Char} :
    (digitsFrom value s).isSome = true ↔ GoesOn s := by
  fun_induction digitsFrom value s with
  | case1 value =>
      exact ⟨fun _ => .stop, fun _ => rfl⟩
  | case2 value c rest ih =>
      rw [isSome_bind_digitValue? ih]
      constructor
      · rintro ⟨hc, hrest⟩
        exact .underscore hc hrest
      · intro h
        cases h with
        -- An underscore before a digit is never read as a digit itself.
        | digit hunderscore _ =>
            exact absurd hunderscore (by decide)
        | underscore hc hrest =>
            exact ⟨hc, hrest⟩
  | case3 value c rest hlone ih =>
      rw [isSome_bind_digitValue? ih]
      constructor
      · rintro ⟨hc, hrest⟩
        exact .digit hc hrest
      · intro h
        cases h with
        | digit hc hrest =>
            exact ⟨hc, hrest⟩
        | underscore _ _ =>
            exact (hlone _ _ rfl rfl).elim

theorem isSome_digits?_iff {s : List Char} : (digits? s).isSome = true ↔ IsDigits s := by
  cases s with
  | nil =>
      exact ⟨by rintro ⟨⟩, by rintro ⟨c, rest, ⟨⟩, -⟩⟩
  | cons c rest =>
      rw [digits?, isSome_bind_digitValue? fun _ => isSome_digitsFrom_iff]
      constructor
      · rintro ⟨hc, hrest⟩
        exact ⟨c, rest, rfl, hc, hrest⟩
      · rintro ⟨_, _, ⟨⟩, hc, hrest⟩
        exact ⟨hc, hrest⟩

theorem GoesOn.isSpace {s : List Char} (h : GoesOn s) : ∀ c ∈ s, isSpace c = false := by
  induction h with
  | stop =>
      exact fun c hc => absurd hc List.not_mem_nil
  | digit hc _ ih =>
      exact List.forall_mem_cons.2 ⟨isSpace_of_isDecimalDigit hc, ih⟩
  | underscore hc _ ih =>
      exact List.forall_mem_cons.2 ⟨by decide, List.forall_mem_cons.2 ⟨isSpace_of_isDecimalDigit hc, ih⟩⟩

theorem IsDigits.isSpace {s : List Char} (h : IsDigits s) : ∀ c ∈ s, isSpace c = false := by
  obtain ⟨c, rest, rfl, hc, hrest⟩ := h
  exact List.forall_mem_cons.2 ⟨isSpace_of_isDecimalDigit hc, hrest.isSpace⟩

/-! ## Spaces around a text -/

theorem dropWhile_append_clear {p : Char → Bool} {front rest : List Char} (hfront : ∀ c ∈ front, p c = true)
    (hrest : ∀ c ∈ rest.head?, p c = false) : (front ++ rest).dropWhile p = rest := by
  rw [List.dropWhile_append_of_pos hfront]
  cases rest with
  | nil =>
      rfl
  | cons c rest =>
      rw [List.dropWhile_cons_of_neg (by simp [hrest c rfl])]

/-- A text without characters of a class is left when such characters are trimmed from around it. -/
theorem trimBy_append {p : Char → Bool} {front body back : List Char} (hfront : ∀ c ∈ front, p c = true)
    (hbody : ∀ c ∈ body, p c = false) (hback : ∀ c ∈ back, p c = true) :
    trimBy p (front ++ body ++ back) = body := by
  cases body with
  | nil =>
      have hall : ∀ c ∈ front ++ [] ++ back, p c = true := by
        intro c hc
        rw [List.append_nil] at hc
        exact (List.mem_append.1 hc).elim (hfront c) (hback c)
      rw [trimBy, List.dropWhile_eq_nil_iff.2 hall]
      rfl
  | cons first body =>
      have hfirst : ∀ c ∈ ((first :: body) ++ back).head?, p c = false := by
        rintro _ ⟨⟩
        exact hbody first List.mem_cons_self
      have hlast : ∀ c ∈ (first :: body).reverse.head?, p c = false := fun c hc =>
        hbody c (List.mem_reverse.1 (List.mem_of_mem_head? hc))
      rw [trimBy, List.append_assoc, dropWhile_append_clear hfront hfirst, List.reverse_append,
        dropWhile_append_clear (fun c hc => hback c (List.mem_reverse.1 hc)) hlast, List.reverse_reverse]

/-- What trimming takes away. -/
theorem exists_trimBy (p : Char → Bool) (s : List Char) :
    ∃ front back, s = front ++ trimBy p s ++ back ∧ (∀ c ∈ front, p c = true) ∧ ∀ c ∈ back, p c = true := by
  refine ⟨s.takeWhile p, ((s.dropWhile p).reverse.takeWhile p).reverse, ?_, fun c => List.mem_takeWhile_imp,
    fun c hc => List.mem_takeWhile_imp (List.mem_reverse.1 hc)⟩
  rw [trimBy, List.append_assoc, ← List.reverse_append, List.takeWhile_append_dropWhile, List.reverse_reverse,
    List.takeWhile_append_dropWhile]

/-! ## Integer texts -/

/-- The parts of a text that stands for an integer. -/
structure IntegerParts (s : String) where
  front : List Char
  sign : List Char
  digits : List Char
  back : List Char
  whole : s.toList = front ++ (sign ++ digits) ++ back
  front_space : ∀ c ∈ front, isSpace c = true
  sign_isSign : sign ∈ [[], ['+'], ['-']]
  digits_isDigits : IsDigits digits
  back_space : ∀ c ∈ back, isSpace c = true
  few : (digits.filter (· ≠ '_')).length ≤ integerDigitLimit

/-- Whether a text stands for an integer. -/
def IsIntegerText (s : String) : Prop := Nonempty (IntegerParts s)

theorem exists_sign (s : List Char) : ∃ sign ∈ [[], ['+'], ['-']], s = sign ++ (splitSign s).2 := by
  fun_cases splitSign s with
  | case1 rest =>
      exact ⟨['-'], by simp, rfl⟩
  | case2 rest =>
      exact ⟨['+'], by simp, rfl⟩
  | case3 s _ _ =>
      exact ⟨[], by simp, rfl⟩

/-- The sign before digits is told from them. -/
theorem splitSign_append {sign digits : List Char} (hsign : sign ∈ [[], ['+'], ['-']]) (h : IsDigits digits) :
    splitSign (sign ++ digits) = (decide (sign = ['-']), digits) := by
  simp only [List.mem_cons, List.not_mem_nil, or_false] at hsign
  obtain rfl | rfl | rfl := hsign
  · obtain ⟨c, rest, rfl, hc, -⟩ := h
    have hminus : c ≠ '-' := by
      rintro rfl
      exact absurd hc (by decide)
    have hplus : c ≠ '+' := by
      rintro rfl
      exact absurd hc (by decide)
    simp [splitSign, hminus, hplus]
  · rfl
  · rfl

theorem trimSpace_parts {s : String} (parts : IntegerParts s) :
    trimSpace s.toList = parts.sign ++ parts.digits := by
  have hsign : ∀ c ∈ parts.sign, isSpace c = false := by
    have hsign := parts.sign_isSign
    simp only [List.mem_cons, List.not_mem_nil, or_false] at hsign
    obtain h | h | h := hsign
    · simp [h]
    · rw [h, List.forall_mem_singleton]
      rfl
    · rw [h, List.forall_mem_singleton]
      rfl
  rw [parts.whole]
  refine trimBy_append parts.front_space ?_ parts.back_space
  intro c hc
  exact (List.mem_append.1 hc).elim (hsign c) (parts.digits_isDigits.isSpace c)

/-- A text is read as an integer from what follows a sign after the spaces. -/
theorem integer?_eq_map (s : String) :
    integer? s =
      if integerDigitLimit < ((splitSign (trimSpace s.toList)).2.filter (· ≠ '_')).length then none
      else
        (digits? (splitSign (trimSpace s.toList)).2).map fun n : Nat =>
          if (splitSign (trimSpace s.toList)).1 then -(n : Int) else n := by
  rw [integer?]
  rcases splitSign (trimSpace s.toList) with ⟨negative, body⟩
  cases hdigits : digits? body <;> simp [hdigits]

/-- An integer text has the value of its digits, below zero after a minus. -/
theorem integer?_parts {s : String} (parts : IntegerParts s) :
    integer? s = (digits? parts.digits).map fun n : Nat => if parts.sign = ['-'] then -(n : Int) else n := by
  rw [integer?_eq_map, trimSpace_parts parts, splitSign_append parts.sign_isSign parts.digits_isDigits,
    if_neg (Nat.not_lt.2 parts.few)]
  simp only [decide_eq_true_eq]

theorem isSome_integer?_iff {s : String} : (integer? s).isSome = true ↔ IsIntegerText s := by
  constructor
  · intro h
    rw [integer?_eq_map] at h
    obtain ⟨front, back, hwhole, hfront, hback⟩ := exists_trimBy isSpace s.toList
    obtain ⟨sign, hsign, hbody⟩ := exists_sign (trimSpace s.toList)
    have hmany : ¬ integerDigitLimit < ((splitSign (trimSpace s.toList)).2.filter (· ≠ '_')).length := by
      intro hmany
      rw [if_pos hmany] at h
      cases h
    rw [if_neg hmany, Option.isSome_map] at h
    exact ⟨{
      front, sign, digits := (splitSign (trimSpace s.toList)).2, back
      whole := by rw [← hbody]; exact hwhole
      front_space := hfront
      sign_isSign := hsign
      digits_isDigits := isSome_digits?_iff.1 h
      back_space := hback
      few := Nat.le_of_not_lt hmany }⟩
  · rintro ⟨parts⟩
    rw [integer?_parts parts, Option.isSome_map]
    exact isSome_digits?_iff.2 parts.digits_isDigits

/-! ## Integers are read back -/

theorem digitValue?_of_isDigit {c : Char} (h : c.isDigit = true) : digitValue? c = some (c.toNat - 0x30) := by
  have hsmall : c.toNat < 0x80 := by
    have hrange : 48 ≤ c.toNat ∧ c.toNat ≤ 57 := by simpa [Char.isDigit, UInt32.le_iff_toNat_le] using h
    omega
  rw [digitValue?, isDecimalDigit, if_pos hsmall, if_pos h, if_pos hsmall]

theorem digitsFrom_of_isDigit {value : Nat} {s : List Char} (h : ∀ c ∈ s, c.isDigit = true) :
    digitsFrom value s = some (Nat.ofDigitChars 10 s value) := by
  fun_induction digitsFrom value s with
  | case1 value =>
      rfl
  | case2 value c rest ih =>
      exact absurd (h '_' List.mem_cons_self) (by decide)
  | case3 value c rest hlone ih =>
      obtain ⟨hc, hrest⟩ := List.forall_mem_cons.1 h
      rw [digitValue?_of_isDigit hc, Option.bind_some, ih _ hrest]
      rfl

theorem digits?_natDigits (n : Nat) : digits? (Number.natDigits n) = some n := by
  have hdigits : ∀ c ∈ Number.natDigits n, c.isDigit = true := fun c => Number.isDigit_of_mem_natDigits
  obtain ⟨c, rest, hcons, hc, -⟩ := Number.exists_natDigits_eq_cons n
  have hvalue := Number.basicValue_natDigits n
  rw [hcons] at hdigits hvalue ⊢
  rw [digits?, digitValue?_of_isDigit hc, Option.bind_some,
    digitsFrom_of_isDigit fun d hd => hdigits d (List.mem_cons_of_mem _ hd), ← hvalue]
  simp [Number.basicValue, Nat.ofDigitChars]

/-- The parts of the text of an integer. -/
def intTextParts (n : Int) (h : (Number.natDigits n.natAbs).length ≤ integerDigitLimit) :
    IntegerParts (Number.intText n) where
  front := []
  sign := Number.signChars n
  digits := Number.natDigits n.natAbs
  back := []
  whole := by rw [Number.toList_intText, List.nil_append, List.append_nil]
  front_space := fun c hc => absurd hc List.not_mem_nil
  sign_isSign := by
    rw [Number.signChars]
    split_ifs <;> simp
  digits_isDigits := isSome_digits?_iff.1 (by rw [digits?_natDigits]; rfl)
  back_space := fun c hc => absurd hc List.not_mem_nil
  few := Nat.le_trans (List.length_filter_le _ _) h

theorem integer?_intText {n : Int} (h : (Number.natDigits n.natAbs).length ≤ integerDigitLimit) :
    integer? (Number.intText n) = some n := by
  rw [integer?_parts (intTextParts n h)]
  have hminus : (intTextParts n h).sign = ['-'] ↔ n < 0 := by
    change Number.signChars n = ['-'] ↔ n < 0
    rw [Number.signChars]
    split_ifs with hn <;> simp [hn]
  have hdigits : digits? (intTextParts n h).digits = some n.natAbs := digits?_natDigits _
  simp only [hdigits, hminus, Option.map_some, Option.some.injEq]
  split_ifs with hn <;> omega

end Text
end GraphQuery
