import GraphQuery.Json.Reader
import GraphQuery.Json.Writer
import GraphQuery.Proofs.Number.DigitText
import GraphQuery.Proofs.Number.ShortestDecimal

/-!
# Numbers in JSON — read back as they were written

The text of a number is digits, perhaps a point with digits and perhaps an exponent (`NumberParts`).  It is
read by its parts, whatever follows that cannot go on with the number (`Json.number_parts`).  So an integer is
read back as itself, and so is a canonical floating number, for the decimal that is written rounds to it.
-/

namespace GraphQuery
namespace Json

open Number

/-! ## Parts of a number -/

/-- Whether a text does not go on with a number that stands before it. -/
def EndsNumber (s : List Char) : Prop :=
  ∀ c ∈ s.head?, c.isDigit = false ∧ c ≠ '.' ∧ c ≠ 'e' ∧ c ≠ 'E'

theorem EndsNumber.stopsDigits {s : List Char} (h : EndsNumber s) : StopsDigits s :=
  fun c hc => (h c hc).1

/-- Digits that may stand before the point: no zero leads others. -/
structure IsWhole (digits : List Char) : Prop where
  ne_nil : digits ≠ []
  isDigit : ∀ c ∈ digits, c.isDigit = true
  lead : digits.head? = some '0' → digits = ['0']

theorem isWhole_natDigits (n : Nat) : IsWhole (natDigits n) where
  ne_nil := natDigits_ne_nil n
  isDigit := fun _ hc => isDigit_of_mem_natDigits hc
  lead := by
    intro hzero
    rcases Nat.eq_zero_or_pos n with rfl | hn
    · rfl
    · exact absurd hzero (head?_natDigits hn)

theorem integerDigits_append {digits rest : List Char} (h : IsWhole digits) (hrest : StopsDigits rest) :
    integerDigits (digits ++ rest) = (digits, rest) := by
  rcases digits with _ | ⟨d, more⟩
  · exact absurd rfl h.ne_nil
  · by_cases hd : d = '0'
    · have hmore := h.lead (congrArg some hd)
      rw [hmore]
      rfl
    · have htake := takeWhile_isDigit h.isDigit hrest
      have hdrop := dropWhile_isDigit h.isDigit hrest
      rw [List.cons_append] at htake hdrop ⊢
      rw [integerDigits, htake, hdrop]
      intro tail heq
      exact hd (List.cons.inj heq).1

/-- The point and the digits after it, if there are any. -/
def fractionText (digits : List Char) : List Char := if digits.isEmpty then [] else '.' :: digits

theorem fractionDigits_append {digits rest : List Char} (hdigits : ∀ c ∈ digits, c.isDigit = true)
    (hrest : StopsDigits rest) (hpoint : rest.head? ≠ some '.') :
    fractionDigits (fractionText digits ++ rest) = (digits, rest) := by
  rcases digits with _ | ⟨d, more⟩
  · rcases rest with _ | ⟨c, rest⟩
    · rfl
    · rw [fractionText, List.isEmpty_nil, if_pos rfl, List.nil_append, fractionDigits]
      intro tail heq
      exact hpoint (congrArg some (List.cons.inj heq).1)
  · have htake := takeWhile_isDigit hdigits hrest
    have hdrop := dropWhile_isDigit hdigits hrest
    show fractionDigits ('.' :: (d :: more ++ rest)) = _
    rw [fractionDigits]
    simp only [htake, hdrop, List.isEmpty_cons, Bool.false_eq_true, if_false]

/-- An exponent with its sign and digits of a least width. -/
def exponentText (width : Nat) (exponent : Int) : List Char :=
  'e' :: (if exponent < 0 then '-' else '+') :: padLeft width '0' (natDigits exponent.natAbs)

theorem exponent?_of_endsNumber {rest : List Char} (h : EndsNumber rest) : exponent? rest = none := by
  rcases rest with _ | ⟨c, rest⟩
  · rfl
  · have hc := h c rfl
    rw [exponent?]
    simp [hc.2.2.1, hc.2.2.2]

theorem exponent?_append (width : Nat) (exponent : Int) {rest : List Char} (h : StopsDigits rest) :
    exponent? (exponentText width exponent ++ rest) = some (exponent, rest) := by
  have hdigits : ∀ c ∈ padLeft width '0' (natDigits exponent.natAbs), c.isDigit = true :=
    fun c hc => isDigit_of_mem_padLeft hc
  have htake := takeWhile_isDigit hdigits h
  have hdrop := dropWhile_isDigit hdigits h
  have hne : (padLeft width '0' (natDigits exponent.natAbs)).isEmpty = false :=
    List.isEmpty_eq_false_iff.2 (padLeft_ne_nil _ _)
  rw [exponentText, List.cons_append, List.cons_append, exponent?]
  by_cases hneg : exponent < 0
  · simp only [hneg, if_true, Text.splitSign, htake, hdrop, hne, Bool.false_eq_true, if_false,
      basicValue_padLeft, decide_true, Bool.true_or, Option.some.injEq, Prod.mk.injEq, and_true]
    omega
  · simp only [hneg, if_false, Text.splitSign, htake, hdrop, hne, Bool.false_eq_true,
      basicValue_padLeft, decide_true, Bool.true_or, if_true, Option.some.injEq, Prod.mk.injEq, and_true]
    omega

/-! ## Reading a number by its parts -/

/-- An integer is read exactly. -/
theorem number_natDigits (negative : Bool) (n : Nat) {rest : List Char} (hrest : EndsNumber rest)
    (hlength : (natDigits n).length ≤ Text.integerDigitLimit) :
    number negative (natDigits n ++ rest) = .ok (.int (if negative then -n else n), rest) := by
  have hwhole := integerDigits_append (isWhole_natDigits n) hrest.stopsDigits
  have hpoint : rest.head? ≠ some '.' := fun h => (hrest '.' h).2.1 rfl
  have hfraction : fractionDigits rest = ([], rest) :=
    @fractionDigits_append [] rest (fun _ h => absurd h List.not_mem_nil) hrest.stopsDigits hpoint
  have hne : (natDigits n).isEmpty = false := List.isEmpty_eq_false_iff.2 (natDigits_ne_nil n)
  rw [number]
  simp only [hwhole, hne, hfraction, exponent?_of_endsNumber hrest, Bool.false_eq_true, if_false,
    List.isEmpty_nil, Option.isNone_none, Bool.and_self, if_true, if_neg (not_lt.2 hlength),
    basicValue_natDigits]

/-- The parts of a decimal: what stands before the point and after it, and the exponent. -/
structure NumberParts where
  whole : List Char
  fraction : List Char
  exponent : Option Int

namespace NumberParts

/-- The text of the parts, with exponents of two digits at least. -/
def text (p : NumberParts) : List Char :=
  p.whole ++ fractionText p.fraction ++ (p.exponent.elim [] (exponentText 2))

/-- All the digits, read as a number. -/
def digits (p : NumberParts) : Nat := basicValue (p.whole ++ p.fraction)

/-- The power of ten that the digits are multiples of. -/
def scale (p : NumberParts) : Int := p.exponent.getD 0 - p.fraction.length

/-- Whether the parts make up a decimal, which an integer is not. -/
structure IsDecimal (p : NumberParts) : Prop where
  isWhole : IsWhole p.whole
  isDigit : ∀ c ∈ p.fraction, c.isDigit = true
  isMarked : p.fraction ≠ [] ∨ p.exponent.isSome = true

end NumberParts

/-- A decimal is read by its parts. -/
theorem number_parts (negative : Bool) {p : NumberParts} (h : p.IsDecimal) {rest : List Char}
    (hrest : EndsNumber rest) :
    number negative (p.text ++ rest) =
      .ok (.float (Binary64.ofDecimal negative p.digits p.scale), rest) := by
  rcases p with ⟨whole, fraction, exponent⟩
  rcases h with ⟨hwhole, hfraction, hmarked⟩
  simp only at hwhole hfraction hmarked
  have hpoint : rest.head? ≠ some '.' := fun h => (hrest '.' h).2.1 rfl
  -- What follows the fraction is the exponent, or what follows the number.
  have htail : StopsDigits (exponent.elim [] (exponentText 2) ++ rest) ∧
      (exponent.elim [] (exponentText 2) ++ rest).head? ≠ some '.' := by
    cases exponent with
    | none =>
        exact ⟨hrest.stopsDigits, hpoint⟩
    | some x =>
        refine ⟨?_, by simp [exponentText]⟩
        intro c hc
        obtain rfl : 'e' = c := by simpa [exponentText] using hc
        decide
  have hread : exponent? (exponent.elim [] (exponentText 2) ++ rest) = exponent.map fun x => (x, rest) := by
    cases exponent with
    | none =>
        exact exponent?_of_endsNumber hrest
    | some x =>
        exact exponent?_append 2 x hrest.stopsDigits
  have hstart : StopsDigits (fractionText fraction ++ (exponent.elim [] (exponentText 2) ++ rest)) := by
    cases fraction with
    | nil =>
        exact htail.1
    | cons d more =>
        intro c hc
        obtain rfl : '.' = c := by simpa [fractionText] using hc
        decide
  have hne : whole.isEmpty = false := List.isEmpty_eq_false_iff.2 hwhole.ne_nil
  have hkind : (fraction.isEmpty && (exponent.map fun x => (x, rest)).isNone) = false := by
    rcases hmarked with hmarked | hmarked
    · rw [List.isEmpty_eq_false_iff.2 hmarked, Bool.false_and]
    · cases exponent with
      | none =>
          cases hmarked
      | some x =>
          exact Bool.and_false _
  rw [NumberParts.text, List.append_assoc, List.append_assoc, number]
  simp only [integerDigits_append hwhole hstart, hne, fractionDigits_append hfraction htail.1 htail.2,
    hread, hkind, Bool.false_eq_true, if_false]
  cases exponent with
  | none =>
      rfl
  | some x =>
      rfl

/-! ## How decimals are laid out -/

/-- Parts that stand for a decimal, with digits that are not too many to be read. -/
structure StandsFor (p : NumberParts) (c : Nat) (k : Int) : Prop where
  isDecimal : p.IsDecimal
  value : (p.digits * 10 ^ p.scale : ℚ) = c * 10 ^ k
  pos : 0 < p.digits
  small : p.digits < 2 ^ 200

/-- Parts whose digits are those of the multiplier stand for the decimal. -/
theorem StandsFor.of_digits_eq {p : NumberParts} {c : Nat} {k : Int} (hdecimal : p.IsDecimal)
    (hdigits : p.digits = c) (hscale : p.scale = k) (hc : 0 < c) (hsmall : c < 2 ^ 100) :
    StandsFor p c k where
  isDecimal := hdecimal
  value := by rw [hdigits, hscale]
  pos := hdigits ▸ hc
  small := by
    rw [hdigits]
    exact hsmall.trans (by norm_num)

theorem isWhole_of_head? {digits : List Char} (hne : digits ≠ [])
    (hdigits : ∀ c ∈ digits, c.isDigit = true) (hhead : digits.head? ≠ some '0') : IsWhole digits :=
  ⟨hne, hdigits, fun h => absurd h hhead⟩

theorem isDigit_of_mem_zeros {n : Nat} {d : Char} (h : d ∈ List.replicate n '0') : d.isDigit = true := by
  rw [List.eq_of_mem_replicate h]
  decide

/-- A decimal below one, with zeros after the point. -/
theorem standsFor_small {c : Nat} {k : Int} (hc : 0 < c) (hsmall : c < 2 ^ 100)
    (hlow : ((natDigits c).length : Int) + k - 1 < 0) :
    StandsFor
      ⟨['0'], List.replicate (-((natDigits c).length + k - 1 : Int) - 1).toNat '0' ++ natDigits c, none⟩
      c k := by
  have hzero : IsWhole ['0'] := isWhole_natDigits 0
  refine StandsFor.of_digits_eq ⟨hzero, ?_, Or.inl ?_⟩ ?_ ?_ hc hsmall
  · intro d hd
    rcases List.mem_append.1 hd with hd | hd
    · exact isDigit_of_mem_zeros hd
    · exact isDigit_of_mem_natDigits hd
  · simp [natDigits_ne_nil]
  · have hvalue : basicValue ['0'] = 0 := rfl
    rw [NumberParts.digits, basicValue_append, basicValue_zeros_append, basicValue_natDigits, hvalue]
    omega
  · simp only [NumberParts.scale, Option.getD_none, List.length_append, List.length_replicate]
    push_cast
    omega

/-- A whole number, with zeros up to the point and one after it. -/
theorem standsFor_whole {c n : Nat} (hc : 0 < c) (hsmall : c < 2 ^ 100) (hn : n < 16) :
    StandsFor ⟨natDigits c ++ List.replicate n '0', ['0'], none⟩ c n := by
  have hdigits : NumberParts.digits ⟨natDigits c ++ List.replicate n '0', ['0'], none⟩ =
      c * 10 ^ n * 10 := by
    rw [NumberParts.digits, basicValue_concat, basicValue_append_zeros, basicValue_natDigits,
      Nat.mul_comm]
    rfl
  refine ⟨⟨isWhole_of_head? ?_ ?_ ?_, ?_, Or.inl ?_⟩, ?_, ?_, ?_⟩
  · simp [natDigits_ne_nil]
  · intro d hd
    rcases List.mem_append.1 hd with hd | hd
    · exact isDigit_of_mem_natDigits hd
    · exact isDigit_of_mem_zeros hd
  · rw [List.head?_append_of_ne_nil _ (natDigits_ne_nil c)]
    exact head?_natDigits hc
  · exact (isWhole_natDigits 0).isDigit
  · exact List.cons_ne_nil _ _
  · have hscale : NumberParts.scale ⟨natDigits c ++ List.replicate n '0', ['0'], none⟩ = -1 := rfl
    rw [hdigits, hscale, zpow_neg_one, zpow_natCast]
    push_cast
    field_simp
  · rw [hdigits]
    positivity
  · have hpow : 10 ^ n ≤ 10 ^ 15 := Nat.pow_le_pow_right (by norm_num) (by omega)
    rw [hdigits]
    calc c * 10 ^ n * 10 ≤ 2 ^ 100 * 10 ^ 15 * 10 :=
          Nat.mul_le_mul_right _ (Nat.mul_le_mul hsmall.le hpow)
      _ < 2 ^ 200 := by norm_num

/-- A decimal with its point among its digits. -/
theorem standsFor_mixed {c n : Nat} {k : Int} (hc : 0 < c) (hsmall : c < 2 ^ 100) (hpos : 0 < n)
    (hn : n < (natDigits c).length) (hk : ((natDigits c).length : Int) + k = n) :
    StandsFor ⟨(natDigits c).take n, (natDigits c).drop n, none⟩ c k := by
  refine StandsFor.of_digits_eq ⟨isWhole_of_head? ?_ ?_ ?_, ?_, Or.inl ?_⟩ ?_ ?_ hc hsmall
  · simp [natDigits_ne_nil, hpos.ne']
  · exact fun d hd => isDigit_of_mem_natDigits (List.mem_of_mem_take hd)
  · rw [List.head?_take, if_neg hpos.ne']
    exact head?_natDigits hc
  · exact fun d hd => isDigit_of_mem_natDigits (List.mem_of_mem_drop hd)
  · simp [hn]
  · rw [NumberParts.digits, List.take_append_drop, basicValue_natDigits]
  · simp only [NumberParts.scale, Option.getD_none, List.length_drop]
    omega

/-- A decimal with one digit before the point and an exponent. -/
theorem standsFor_exponential {c : Nat} {k : Int} {d : Char} {more : List Char} (hc : 0 < c)
    (hsmall : c < 2 ^ 100) (hdigits : natDigits c = d :: more) :
    StandsFor ⟨[d], more, some ((natDigits c).length + k - 1)⟩ c k := by
  have hhead := head?_natDigits hc
  rw [hdigits] at hhead
  refine StandsFor.of_digits_eq ⟨isWhole_of_head? ?_ ?_ hhead, ?_, Or.inr rfl⟩ ?_ ?_ hc hsmall
  · exact List.cons_ne_nil _ _
  · intro x hx
    obtain rfl := List.mem_singleton.1 hx
    exact isDigit_of_mem_natDigits (hdigits ▸ List.mem_cons_self)
  · intro x hx
    have hmem : x ∈ natDigits c := hdigits ▸ List.mem_cons_of_mem d hx
    exact isDigit_of_mem_natDigits hmem
  · rw [NumberParts.digits, List.singleton_append, ← hdigits, basicValue_natDigits]
  · simp only [NumberParts.scale, Option.getD_some, hdigits, List.length_cons]
    push_cast
    omega

/-- The text of a decimal is that of parts that stand for it. -/
theorem exists_standsFor {c : Nat} (k : Int) (hc : 0 < c) (hsmall : c < 2 ^ 100) :
    ∃ p : NumberParts, p.text = standardLayout.write c k ∧ StandsFor p c k := by
  have hlength := length_natDigits_pos c
  rw [Layout.write]
  simp only [standardLayout]
  by_cases hpositional :
      -4 ≤ ((natDigits c).length : Int) + k - 1 ∧ ((natDigits c).length : Int) + k - 1 < 16
  · rw [if_pos hpositional]
    -- Before the point stands nothing but a zero, or all of the digits, or some of them.
    by_cases hneg : ((natDigits c).length : Int) + k - 1 < 0
    · refine ⟨_, ?_, standsFor_small hc hsmall hneg⟩
      rw [if_pos hneg]
      simp [NumberParts.text, fractionText, natDigits_ne_nil]
    rw [if_neg hneg]
    by_cases hk : 0 ≤ k
    · obtain ⟨n, rfl⟩ := Int.eq_ofNat_of_zero_le hk
      refine ⟨_, ?_, standsFor_whole hc hsmall (by omega)⟩
      have hwhole : (((natDigits c).length : Int) + n - 1 + 1).toNat = (natDigits c).length + n := by omega
      rw [hwhole, List.take_of_length_le (by omega), List.drop_of_length_le (by omega)]
      simp [NumberParts.text, fractionText]
    · obtain ⟨n, hn⟩ := Int.eq_ofNat_of_zero_le (a := (natDigits c).length + k) (by omega)
      refine ⟨_, ?_, standsFor_mixed hc hsmall (by omega) (by omega) hn⟩
      have hwhole : (((natDigits c).length : Int) + k - 1 + 1).toNat = n := by omega
      have hrest : ((natDigits c).drop n).isEmpty = false := by
        rw [List.isEmpty_eq_false_iff]
        exact List.ne_nil_of_length_pos (by rw [List.length_drop]; omega)
      rw [hwhole, hrest, List.length_take, Nat.min_eq_left (by omega), Nat.sub_self]
      simp [NumberParts.text, fractionText, hrest]
  · rw [if_neg hpositional]
    obtain ⟨d, more, hdigits, -, -⟩ := exists_natDigits_eq_cons c
    refine ⟨_, ?_, standsFor_exponential hc hsmall hdigits⟩
    rw [hdigits]
    cases more with
    | nil =>
        rfl
    | cons x more =>
        rfl

/-! ## Numbers as values -/

/-- The sign before a number. -/
def signText (negative : Bool) : List Char := if negative then ['-'] else []

/-- No word begins like a number. -/
theorem find?_wordValues_number (negative : Bool) {c : Char} {more : List Char} (h : c.isDigit = true) :
    wordValues.find? (fun entry => entry.1.isPrefixOf (signText negative ++ c :: more)) = none := by
  have hother : ∀ d : Char, d.isDigit = false → (d == c) = false := by
    intro d hd
    refine beq_eq_false_iff_ne.2 ?_
    rintro rfl
    exact Bool.false_ne_true (hd.symm.trans h)
  have hn := hother 'n' rfl
  have ht := hother 't' rfl
  have hf := hother 'f' rfl
  have hN := hother 'N' rfl
  have hI := hother 'I' rfl
  have hminus := hother '-' rfl
  cases negative with
  | false =>
      simp [wordValues, signText, List.isPrefixOf, hn, ht, hf, hN, hI, hminus]
  | true =>
      simp [wordValues, signText, List.isPrefixOf, hI]

theorem scalar_number (negative : Bool) {c : Char} {more : List Char} (h : c.isDigit = true) :
    scalar (signText negative ++ c :: more) = number negative (c :: more) := by
  unfold scalar
  rw [find?_wordValues_number negative h]
  cases negative with
  | false =>
      simp only [signText, Bool.false_eq_true, if_false, List.nil_append]
      split
      · case h_1 heq =>
          cases heq
          cases h
      · case h_2 heq =>
          cases heq
          cases h
      · rfl
  | true =>
      rfl

theorem signChars_eq (n : Int) : signChars n = signText (decide (n < 0)) := by
  by_cases hn : n < 0 <;> simp [signChars, signText, hn]

/-- An integer is read back as it was written. -/
theorem scalar_integerText {n : Int} {text : String} (hwrite : integerText n = .ok text)
    {rest : List Char} (hrest : EndsNumber rest) :
    scalar (text.toList ++ rest) = .ok (.int n, rest) := by
  rw [integerText] at hwrite
  split_ifs at hwrite with hlong
  cases hwrite
  obtain ⟨c, more, hdigits, hc, -⟩ := exists_natDigits_eq_cons n.natAbs
  have hread := number_natDigits (decide (n < 0)) n.natAbs hrest (not_lt.1 hlong)
  rw [hdigits] at hread
  rw [toList_intText, signChars_eq, List.append_assoc, hdigits, List.cons_append, scalar_number _ hc,
    ← List.cons_append, hread]
  by_cases hn : n < 0
  · simp only [hn, decide_true, if_true, Except.ok.injEq, Prod.mk.injEq, Value.int.injEq, and_true]
    omega
  · simp only [hn, decide_false, Bool.false_eq_true, if_false, Except.ok.injEq, Prod.mk.injEq,
      Value.int.injEq, and_true]
    omega

theorem exists_text_eq_cons {p : NumberParts} (h : p.IsDecimal) :
    ∃ c more, p.text = c :: more ∧ c.isDigit = true := by
  rcases hwhole : p.whole with _ | ⟨c, more⟩
  · exact absurd hwhole h.isWhole.ne_nil
  · refine ⟨c, more ++ fractionText p.fraction ++ p.exponent.elim [] (exponentText 2), ?_, ?_⟩
    · rw [NumberParts.text, hwhole]
      rfl
    · exact h.isWhole.isDigit c (hwhole ▸ List.mem_cons_self)

/-- A decimal with its sign is read as the number that its parts stand for. -/
theorem scalar_parts (negative : Bool) {p : NumberParts} (h : p.IsDecimal) {rest : List Char}
    (hrest : EndsNumber rest) :
    scalar (signText negative ++ p.text ++ rest) =
      .ok (.float (Binary64.ofDecimal negative p.digits p.scale), rest) := by
  rw [← number_parts negative h hrest]
  obtain ⟨c, more, htext, hc⟩ := exists_text_eq_cons h
  rw [htext, List.append_assoc, List.cons_append, scalar_number negative hc]

/-- A canonical finite number is written as a decimal, with its sign, that is read as the number. -/
theorem exists_parts_binary64Text {negative : Bool} {m : Nat} {e : Int}
    (hx : (Binary64.finite negative m e).IsCanonical) :
    ∃ p : NumberParts, p.IsDecimal ∧ binary64Text (.finite negative m e) = signText negative ++ p.text ∧
      Binary64.ofDecimal negative p.digits p.scale = .finite negative m e := by
  rcases Nat.eq_zero_or_pos m with hzero | hm
  · -- Zero is written with a digit on each side of the point.
    obtain rfl := hzero
    obtain rfl := Binary64.eq_lowest_of_isCanonical_zero hx
    have hwhole : IsWhole ['0'] := isWhole_natDigits 0
    refine ⟨⟨['0'], ['0'], none⟩, ⟨hwhole, hwhole.isDigit, Or.inl (List.cons_ne_nil _ _)⟩, ?_, rfl⟩
    cases negative <;> rfl
  · have hshortest := shortest_spec hm hx
    obtain ⟨p, htext, hstands⟩ := exists_standsFor (shortest m e).2 hshortest.2.1 hshortest.2.2
    refine ⟨p, hstands.isDecimal, ?_,
      ofDecimal_shortest negative hm hx hstands.pos hstands.small hstands.value⟩
    rw [htext]
    show (String.ofList (signText negative ++ _)).toList = _
    rw [if_neg hm.ne', String.toList_ofList]

/-- A canonical floating number is read back as it was written. -/
theorem scalar_binary64Text {x : Binary64} (hx : x.IsCanonical) {rest : List Char}
    (hrest : EndsNumber rest) : scalar (binary64Text x ++ rest) = .ok (.float x, rest) := by
  cases x with
  | nan =>
      rfl
  | infinite negative =>
      cases negative <;> rfl
  | finite negative m e =>
      obtain ⟨p, hdecimal, htext, hvalue⟩ := exists_parts_binary64Text hx
      rw [htext, scalar_parts negative hdecimal hrest, hvalue]

/-! ## How numbers start -/

/-- Whether a character starts a number, or a word for one. -/
def startsNumber (c : Char) : Bool := c.isDigit || ['-', 'N', 'I'].contains c

theorem exists_signText_append_eq_cons (negative : Bool) {c : Char} (more : List Char)
    (hc : c.isDigit = true) :
    ∃ d rest, signText negative ++ c :: more = d :: rest ∧ startsNumber d = true := by
  cases negative with
  | false =>
      exact ⟨c, more, rfl, by rw [startsNumber, hc, Bool.true_or]⟩
  | true =>
      exact ⟨'-', c :: more, rfl, rfl⟩

theorem exists_integerText_eq_cons {n : Int} {text : String} (hwrite : integerText n = .ok text) :
    ∃ c more, text.toList = c :: more ∧ startsNumber c = true := by
  rw [integerText] at hwrite
  split_ifs at hwrite with hlong
  cases hwrite
  obtain ⟨c, more, hdigits, hc, -⟩ := exists_natDigits_eq_cons n.natAbs
  rw [toList_intText, signChars_eq, hdigits]
  exact exists_signText_append_eq_cons _ more hc

theorem exists_binary64Text_eq_cons {x : Binary64} (hx : x.IsCanonical) :
    ∃ c more, binary64Text x = c :: more ∧ startsNumber c = true := by
  cases x with
  | nan =>
      exact ⟨'N', _, rfl, rfl⟩
  | infinite negative =>
      cases negative with
      | false =>
          exact ⟨'I', _, rfl, rfl⟩
      | true =>
          exact ⟨'-', _, rfl, rfl⟩
  | finite negative m e =>
      obtain ⟨p, hdecimal, htext, -⟩ := exists_parts_binary64Text hx
      obtain ⟨c, more, hp, hc⟩ := exists_text_eq_cons hdecimal
      rw [htext, hp]
      exact exists_signText_append_eq_cons negative more hc

end Json
end GraphQuery
