import GraphQuery.Number.Shortest
import GraphQuery.Proofs.Number.Rounding
import Mathlib.Tactic.Ring

/-!
# Shortest decimals — what is written is in the interval of the number

The decimal that is written for a number lies in the interval around it (`Number.shortest_spec`): candidates
come from the tests on a grid, which are exact (`Number.inside_iff`), and the seventeenth grid is always fine
enough to be hit.  A decimal in the interval is read as the number (`Binary64.ofDecimal_eq`).

Powers of two and of ten are compared through the estimate of the decimal exponent; it is checked for all
exponents that occur.
-/

namespace GraphQuery
namespace Number

/-! ## Powers of two and of ten -/

/-- The estimate of the decimal exponent of a power of two. -/
def decimalEstimate (n : Int) : Int := n * 30103 / 100000

theorem ten_pow_le_two_pow :
    ∀ n < 1100, 10 ^ (n * 30103 / 100000) ≤ 2 ^ n ∧ 2 ^ n ≤ 10 ^ (n * 30103 / 100000 + 1) := by
  decide +kernel

/-- The estimate is off by one at most. -/
theorem decimalEstimate_spec {n : Int} (hlow : -1100 < n) (hhigh : n < 1100) :
    (10 : ℚ) ^ (decimalEstimate n - 1) ≤ 2 ^ n ∧ (2 : ℚ) ^ n ≤ 10 ^ (decimalEstimate n + 1) := by
  have hbounds : ∀ k : Nat, k < 1100 →
      (10 : ℚ) ^ ((k * 30103 / 100000 : Nat) : Int) ≤ 2 ^ (k : Int) ∧
        (2 : ℚ) ^ (k : Int) ≤ 10 ^ ((k * 30103 / 100000 + 1 : Nat) : Int) := by
    intro k hk
    have h := ten_pow_le_two_pow k hk
    simp only [zpow_natCast]
    exact ⟨by exact_mod_cast h.1, by exact_mod_cast h.2⟩
  have hten : (1 : ℚ) ≤ 10 := by norm_num
  rw [decimalEstimate]
  rcases le_total 0 n with hn | hn
  · obtain ⟨k, rfl⟩ := Int.eq_ofNat_of_zero_le hn
    rcases hbounds k (by omega) with ⟨hdown, hup⟩
    constructor
    · exact (zpow_le_zpow_right₀ hten (by omega)).trans hdown
    · exact hup.trans (zpow_le_zpow_right₀ hten (by omega))
  · obtain ⟨k, hk⟩ := Int.eq_ofNat_of_zero_le (neg_nonneg.2 hn)
    obtain rfl : n = -(k : Int) := by omega
    rcases hbounds k (by omega) with ⟨hdown, hup⟩
    -- For a negative exponent the two bounds change places.
    have htwo : (2 : ℚ) ^ (-(k : Int)) = (2 ^ (k : Int))⁻¹ := zpow_neg 2 _
    constructor
    · have hinv := inv_anti₀ (by positivity) hup
      rw [← zpow_neg, ← htwo] at hinv
      exact (zpow_le_zpow_right₀ hten (by omega)).trans hinv
    · have hinv := inv_anti₀ (by positivity) hdown
      rw [← htwo, ← zpow_neg] at hinv
      exact hinv.trans (zpow_le_zpow_right₀ hten (by omega))

theorem two_zpow_log2_le {n : Nat} (hn : 0 < n) : (2 : ℚ) ^ (n.log2 : Int) ≤ n := by
  rw [zpow_natCast]
  exact_mod_cast Nat.log2_self_le hn.ne'

theorem lt_two_zpow_log2 (n : Nat) : (n : ℚ) < 2 * 2 ^ (n.log2 : Int) := by
  rw [zpow_natCast, ← pow_succ']
  exact_mod_cast Nat.lt_log2_self

/-- The estimate tells the size of a decimal, up to two places. -/
theorem decimal_bounds {digits : Nat} (exponent : Int) (hdigits : 0 < digits)
    (hlength : digits < 2 ^ 200) :
    (10 : ℚ) ^ (decimalEstimate digits.log2 + exponent - 1) ≤ digits * 10 ^ exponent ∧
      (digits * 10 ^ exponent : ℚ) < 10 ^ (decimalEstimate digits.log2 + exponent + 2) := by
  have hlog : digits.log2 < 200 := (Nat.log2_lt hdigits.ne').2 hlength
  have hestimate := decimalEstimate_spec (n := digits.log2) (by omega) (by omega)
  generalize decimalEstimate digits.log2 = estimate at hestimate
  have hten : (10 : ℚ) ≠ 0 := by norm_num
  have hscale : (0 : ℚ) < 10 ^ exponent := by positivity
  constructor
  · calc (10 : ℚ) ^ (estimate + exponent - 1) = 10 ^ (estimate - 1) * 10 ^ exponent := by
          rw [← zpow_add₀ hten]
          congr 1
          ring
      _ ≤ digits * 10 ^ exponent :=
          mul_le_mul_of_nonneg_right (hestimate.1.trans (two_zpow_log2_le hdigits)) hscale.le
  · calc (digits * 10 ^ exponent : ℚ) < 2 * 2 ^ (digits.log2 : Int) * 10 ^ exponent :=
          mul_lt_mul_of_pos_right (lt_two_zpow_log2 digits) hscale
      _ ≤ 10 * 10 ^ (estimate + 1) * 10 ^ exponent := by
          have hup := hestimate.2
          have hpos : (0 : ℚ) < 10 ^ (estimate + 1) := by positivity
          exact mul_le_mul_of_nonneg_right (by linarith) hscale.le
      _ = 10 ^ (estimate + exponent + 2) := by
          rw [← zpow_one_add₀ hten, ← zpow_add₀ hten]
          congr 1
          ring

end Number

/-! ## Reading a decimal -/

namespace Binary64

open Number

/-- Values that round to a positive number lie between the powers of ten at which reading a decimal takes a
shortcut. -/
theorem RoundsTo.size_bounds {negative : Bool} {m : Nat} {e : Int} {v : ℚ} (h : RoundsTo m e v)
    (hm : 0 < m) (hcanonical : (finite negative m e).IsCanonical) :
    (10 : ℚ) ^ (-325 : Int) ≤ v ∧ v < 10 ^ (309 : Int) := by
  rcases hcanonical with ⟨hmhigh, helow, hehigh, -⟩
  have hone : (1 : ℚ) ≤ m := by exact_mod_cast hm
  have hmq : (m : ℚ) + 1 ≤ 2 ^ 53 := by exact_mod_cast hmhigh
  have hreach := reachBelow_le m e
  have hlowest : (2 : ℚ) ^ (-1074 : Int) ≤ 2 ^ e := zpow_le_zpow_right₀ (by norm_num) helow
  have hhighest : (2 : ℚ) ^ e ≤ 2 ^ (971 : Int) := zpow_le_zpow_right₀ (by norm_num) hehigh
  -- The smallest positive value is halved at most, and the largest one stays below 2 ^ 1024.
  constructor
  · calc (10 : ℚ) ^ (-325 : Int) ≤ 2 ^ (-1075 : Int) :=
          (decimalEstimate_spec (n := -1075) (by norm_num) (by norm_num)).1
      _ = 1 / 2 * 2 ^ (-1074 : Int) := by
          have hdouble := two_zpow_add (-1075) 1
          norm_num only at hdouble
          linarith
      _ ≤ (m - reachBelow m e) * 2 ^ e :=
          mul_le_mul (by linarith) hlowest (by positivity) (by linarith)
      _ ≤ v := h.above
  · calc v ≤ (m + 1 / 2) * 2 ^ e := h.below
      _ < 2 ^ 53 * 2 ^ (971 : Int) :=
          mul_lt_mul (by linarith) hhighest (by positivity) (by positivity)
      _ = 2 ^ (1024 : Int) := (two_zpow_add 971 53).symm
      _ ≤ 10 ^ (309 : Int) := (decimalEstimate_spec (n := 1024) (by norm_num) (by norm_num)).2

/-- A decimal in the interval around a canonical number is read as this number. -/
theorem ofDecimal_eq (negative : Bool) {digits m : Nat} {exponent e : Int} (hm : 0 < m)
    (hdigits : 0 < digits) (hlength : digits < 2 ^ 200)
    (hcanonical : (finite negative m e).IsCanonical) (hround : RoundsTo m e (digits * 10 ^ exponent)) :
    ofDecimal negative digits exponent = finite negative m e := by
  have hone : (1 : ℚ) < 10 := by norm_num
  have hsize := hround.size_bounds hm hcanonical
  have hbounds := decimal_bounds exponent hdigits hlength
  have hestimate : ((digits.log2 : Int) * 30103 / 100000 : Int) = decimalEstimate digits.log2 := rfl
  rw [ofDecimal, if_neg hdigits.ne']
  simp only [hestimate]
  generalize decimalEstimate digits.log2 = estimate at hbounds
  have htop : estimate + exponent - 1 < 309 :=
    (zpow_lt_zpow_iff_right₀ hone).1 (hbounds.1.trans_lt hsize.2)
  have hbottom : -325 < estimate + exponent + 2 :=
    (zpow_lt_zpow_iff_right₀ hone).1 (hsize.1.trans_lt hbounds.2)
  -- So neither of the shortcuts for numbers that are far too large or far too small is taken.
  rw [if_neg (by omega), if_neg (by omega)]
  have hnum : 0 < digits * Nat.pow 10 exponent.toNat := Nat.mul_pos hdigits (Nat.pow_pos (by norm_num))
  have hden : 0 < Nat.pow 10 (-exponent).toNat := Nat.pow_pos (by norm_num)
  refine ofQuotient_eq negative hnum hden hcanonical ?_
  have hvalue : ((digits * Nat.pow 10 exponent.toNat : Nat) : ℚ) / (Nat.pow 10 (-exponent).toNat : Nat) =
      digits * 10 ^ exponent := by
    rw [zpow_eq_div_pow]
    simp only [Nat.pow_eq]
    push_cast
    rw [mul_div_assoc]
  rw [hvalue]
  exact hround

/-- What is read from a decimal is canonical. -/
theorem isCanonical_ofDecimal (negative : Bool) (digits : Nat) (exponent : Int) :
    (ofDecimal negative digits exponent).IsCanonical := by
  rw [ofDecimal]
  simp only
  split_ifs
  · exact isCanonical_zero negative
  · exact trivial
  · exact isCanonical_zero negative
  · exact isCanonical_ofQuotient negative _ (Nat.pow_pos (by norm_num))

end Binary64

/-! ## Choosing a decimal -/

namespace Number

open Binary64

theorem sizeDen_pos (e : Int) : 0 < sizeDen e := Nat.pow_pos (by norm_num)

/-- The exact quotient of a number is its value. -/
theorem cast_sizeNum_div_sizeDen (m : Nat) (e : Int) : (sizeNum m e : ℚ) / sizeDen e = m * 2 ^ e := by
  rw [zpow_eq_div_pow, sizeNum, sizeDen]
  simp only [Nat.pow_eq]
  push_cast
  rw [mul_div_assoc]

/-- The comparison of a power of ten with a number is exact. -/
theorem reaches_iff (m : Nat) (e t : Int) :
    sizeDen e * Nat.pow 10 t.toNat ≤ sizeNum m e * Nat.pow 10 (-t).toNat ↔ (10 : ℚ) ^ t ≤ m * 2 ^ e := by
  have hden : (0 : ℚ) < sizeDen e := by exact_mod_cast sizeDen_pos e
  have hpow : (0 : ℚ) < 10 ^ (-t).toNat := by positivity
  rw [← cast_sizeNum_div_sizeDen, zpow_eq_div_pow, div_le_div_iff₀ hpow hden]
  simp only [Nat.pow_eq]
  rw [mul_comm (sizeDen e)]
  exact_mod_cast Iff.rfl

/-- A positive number lies between its leading power of two and twice this power. -/
theorem size_bounds {m : Nat} (e : Int) (hm : 0 < m) :
    (2 : ℚ) ^ ((m.log2 : Int) + e) ≤ m * 2 ^ e ∧ (m * 2 ^ e : ℚ) < 2 * 2 ^ ((m.log2 : Int) + e) := by
  have hunit : (0 : ℚ) < 2 ^ e := by positivity
  rw [zpow_add₀ (by norm_num)]
  constructor
  · exact mul_le_mul_of_nonneg_right (two_zpow_log2_le hm) hunit.le
  · rw [← mul_assoc]
    exact mul_lt_mul_of_pos_right (lt_two_zpow_log2 m) hunit

theorem leading_bounds {negative : Bool} {m : Nat} {e : Int} (hm : 0 < m)
    (hcanonical : (finite negative m e).IsCanonical) :
    -1100 < (m.log2 : Int) + e ∧ (m.log2 : Int) + e < 1100 := by
  rcases hcanonical with ⟨hmhigh, helow, hehigh, -⟩
  have hlog : m.log2 < 53 := (Nat.log2_lt hm.ne').2 hmhigh
  omega

/-- The leading power of ten is at most the number, and no further below it than the estimate is. -/
theorem decimalTop_spec {negative : Bool} {m : Nat} {e : Int} (hm : 0 < m)
    (hcanonical : (finite negative m e).IsCanonical) :
    (10 : ℚ) ^ decimalTop m e ≤ m * 2 ^ e ∧ decimalEstimate (m.log2 + e) - 1 ≤ decimalTop m e := by
  have hleading := leading_bounds hm hcanonical
  have hestimate := (decimalEstimate_spec hleading.1 hleading.2).1.trans (size_bounds e hm).1
  have hrfl : ((m.log2 : Int) + e) * 30103 / 100000 = decimalEstimate (m.log2 + e) := rfl
  rw [decimalTop]
  simp only [decide_eq_true_eq, reaches_iff, hrfl]
  split_ifs with hnext hthis
  · exact ⟨hnext, by omega⟩
  · exact ⟨hthis, by omega⟩
  · exact ⟨hestimate, le_rfl⟩

/-! ### Candidates on a grid -/

/-- The unit of a number on the grid of the multiples of `10 ^ k`. -/
def gridUnit (e k : Int) : Nat := Nat.pow 2 e.toNat * Nat.pow 10 (-k).toNat

/-- The step of the grid, to the same scale. -/
def gridStep (e k : Int) : Nat := sizeDen e * Nat.pow 10 k.toNat

/-- The quarters of the unit that the interval around a number reaches down. -/
def quartersBelow (m : Nat) (e : Int) : Nat := if m = Nat.pow 2 52 ∧ -1074 < e then 1 else 2

/-- Whether a multiple of `10 ^ k` lies in the interval around `m * 2 ^ e`. -/
def isInside (m : Nat) (e k : Int) (c : Nat) : Bool :=
  let num := sizeNum m e * Nat.pow 10 (-k).toNat
  let low := 4 * num - quartersBelow m e * gridUnit e k
  let high := 4 * num + 2 * gridUnit e k
  let x := 4 * c * gridStep e k
  if m % 2 = 0 then low ≤ x && x ≤ high else low < x && x < high

theorem gridHit?_eq (m : Nat) (e k : Int) :
    gridHit? m e k =
      let num := sizeNum m e * Nat.pow 10 (-k).toNat
      let q := num / gridStep e k
      let r := num % gridStep e k
      match isInside m e k q, isInside m e k (q + 1) with
      | true, true =>
        if 2 * r < gridStep e k then some q
        else if gridStep e k < 2 * r then some (q + 1)
        else if q % 2 = 0 then some q else some (q + 1)
      | true, false => some q
      | false, true => some (q + 1)
      | false, false => none :=
  rfl

theorem reachBelow_eq (m : Nat) (e : Int) : reachBelow m e = quartersBelow m e / 4 := by
  have hpow : Nat.pow 2 52 = 2 ^ 52 := rfl
  rw [reachBelow, quartersBelow, hpow]
  split_ifs <;> norm_num

/-- Unit and step are the powers they stand for, to one scale. -/
theorem exists_grid_scale (e k : Int) :
    ∃ t : ℚ, 0 < t ∧ (gridUnit e k : ℚ) = 2 ^ e * t ∧ (gridStep e k : ℚ) = 10 ^ k * t := by
  refine ⟨2 ^ (-e).toNat * 10 ^ (-k).toNat, by positivity, ?_, ?_⟩
  · rw [gridUnit, zpow_eq_div_pow]
    simp only [Nat.pow_eq]
    push_cast
    field_simp
  · rw [gridStep, sizeDen, zpow_eq_div_pow]
    simp only [Nat.pow_eq]
    push_cast
    field_simp

theorem sizeNum_mul (m : Nat) (e k : Int) :
    sizeNum m e * Nat.pow 10 (-k).toNat = m * gridUnit e k := by
  rw [sizeNum, gridUnit, Nat.mul_assoc]

/-- The test of a candidate is exact. -/
theorem isInside_iff {m : Nat} (e k : Int) (c : Nat) (hm : 0 < m) :
    isInside m e k c = true ↔ RoundsTo m e (c * 10 ^ k) := by
  obtain ⟨t, ht, hunit, hstep⟩ := exists_grid_scale e k
  have hdown : quartersBelow m e ≤ 2 := by
    rw [quartersBelow]
    split_ifs <;> omega
  have hfits : quartersBelow m e * gridUnit e k ≤ 4 * (m * gridUnit e k) := by
    rw [← Nat.mul_assoc]
    exact Nat.mul_le_mul_right _ (by omega)
  -- The four comparisons, in natural numbers and to scale.
  have habove : 4 * (m * gridUnit e k) - quartersBelow m e * gridUnit e k ≤ 4 * c * gridStep e k ↔
      (m - reachBelow m e) * 2 ^ e ≤ c * 10 ^ k := by
    rw [Nat.sub_le_iff_le_add, ← mul_le_mul_iff_of_pos_right ht, ← Nat.cast_le (α := ℚ), reachBelow_eq]
    push_cast
    rw [hunit, hstep]
    constructor <;> intro h <;> linarith
  have habove' : 4 * (m * gridUnit e k) - quartersBelow m e * gridUnit e k < 4 * c * gridStep e k ↔
      (m - reachBelow m e) * 2 ^ e < c * 10 ^ k := by
    rw [Nat.sub_lt_iff_lt_add hfits, ← mul_lt_mul_iff_of_pos_right ht, ← Nat.cast_lt (α := ℚ),
      reachBelow_eq]
    push_cast
    rw [hunit, hstep]
    constructor <;> intro h <;> linarith
  have hbelow : 4 * c * gridStep e k ≤ 4 * (m * gridUnit e k) + 2 * gridUnit e k ↔
      (c * 10 ^ k : ℚ) ≤ (m + 1 / 2) * 2 ^ e := by
    rw [← mul_le_mul_iff_of_pos_right ht, ← Nat.cast_le (α := ℚ)]
    push_cast
    rw [hunit, hstep]
    constructor <;> intro h <;> linarith
  have hbelow' : 4 * c * gridStep e k < 4 * (m * gridUnit e k) + 2 * gridUnit e k ↔
      (c * 10 ^ k : ℚ) < (m + 1 / 2) * 2 ^ e := by
    rw [← mul_lt_mul_iff_of_pos_right ht, ← Nat.cast_lt (α := ℚ)]
    push_cast
    rw [hunit, hstep]
    constructor <;> intro h <;> linarith
  rw [isInside]
  simp only [sizeNum_mul]
  split_ifs with heven
  · simp only [Bool.and_eq_true, decide_eq_true_eq, habove, hbelow]
    constructor
    · rintro ⟨hlow, hhigh⟩
      exact ⟨hlow, hhigh, fun hodd => by omega⟩
    · intro h
      exact ⟨h.above, h.below⟩
  · simp only [Bool.and_eq_true, decide_eq_true_eq, habove', hbelow']
    constructor
    · rintro ⟨hlow, hhigh⟩
      exact ⟨hlow.le, hhigh.le, fun _ => ⟨hlow, hhigh⟩⟩
    · intro h
      exact h.inside (by omega)

/-- A hit lies in the interval. -/
theorem roundsTo_of_gridHit? {m c : Nat} {e k : Int} (hm : 0 < m) (h : gridHit? m e k = some c) :
    RoundsTo m e (c * 10 ^ k) := by
  rw [← isInside_iff e k c hm]
  rw [gridHit?_eq] at h
  simp only at h
  split at h
  · split_ifs at h <;> (cases h; assumption)
  · cases h
    assumption
  · cases h
    assumption
  · cases h

/-- A grid that is finer than the interval is hit. -/
theorem exists_gridHit? {m : Nat} {e k : Int} (hm : 0 < m)
    (hfine : (10 : ℚ) ^ k < 2 * reachBelow m e * 2 ^ e) : ∃ c, gridHit? m e k = some c := by
  obtain ⟨t, ht, hunit, hstep⟩ := exists_grid_scale e k
  have hspos : 0 < gridStep e k := Nat.mul_pos (sizeDen_pos e) (Nat.pow_pos (by norm_num))
  have hreach := reachBelow_le m e
  have hunitq : (0 : ℚ) < 2 ^ e := by positivity
  set q := m * gridUnit e k / gridStep e k with hq
  have hlow : (q * 10 ^ k : ℚ) ≤ m * 2 ^ e := by
    have h := Nat.div_mul_le_self (m * gridUnit e k) (gridStep e k)
    rw [← hq, ← Nat.cast_le (α := ℚ)] at h
    push_cast at h
    rw [hunit, hstep] at h
    exact le_of_mul_le_mul_right (by linarith) ht
  have hhigh : (m * 2 ^ e : ℚ) < (q + 1) * 10 ^ k := by
    have h := Nat.lt_div_mul_add (a := m * gridUnit e k) hspos
    rw [← hq, ← Nat.cast_lt (α := ℚ)] at h
    push_cast at h
    rw [hunit, hstep] at h
    exact lt_of_mul_lt_mul_right (by linarith) ht.le
  have hscaled : reachBelow m e * 2 ^ e ≤ 1 / 2 * 2 ^ e := mul_le_mul_of_nonneg_right hreach hunitq.le
  -- The nearer of the two neighbours is less than half a step away.
  have hnear : isInside m e k q = true ∨ isInside m e k (q + 1) = true := by
    by_cases hhalf : 2 * (m * 2 ^ e - q * 10 ^ k : ℚ) ≤ 10 ^ k
    · refine Or.inl ((isInside_iff e k q hm).2 ⟨by linarith, by linarith, fun _ => ⟨?_, ?_⟩⟩)
      · linarith
      · linarith
    · refine Or.inr ((isInside_iff e k (q + 1) hm).2 ?_)
      push_cast
      refine ⟨by linarith, by linarith, fun _ => ⟨?_, ?_⟩⟩
      · linarith
      · linarith
  rw [gridHit?_eq]
  simp only [sizeNum_mul, ← hq]
  split
  · split_ifs <;> exact ⟨_, rfl⟩
  · exact ⟨_, rfl⟩
  · exact ⟨_, rfl⟩
  · case h_4 hthis hnext =>
      rcases hnear with h | h
      · exact absurd (hthis.symm.trans h) (by decide)
      · exact absurd (hnext.symm.trans h) (by decide)

/-! ### The shortest decimal -/

/-- Dropping zeros keeps the decimal. -/
theorem dropZeros_spec (fuel c : Nat) (k : Int) :
    ((dropZeros fuel c k).1 * 10 ^ (dropZeros fuel c k).2 : ℚ) = c * 10 ^ k ∧
      (dropZeros fuel c k).1 ≤ c := by
  induction fuel generalizing c k with
  | zero =>
      exact ⟨rfl, le_rfl⟩
  | succ fuel ih =>
      rw [dropZeros]
      split_ifs with hzero
      · have hsplit : (c : ℚ) = 10 * (c / 10 : Nat) := by
          have h : c = 10 * (c / 10) := by omega
          exact_mod_cast h
        constructor
        · rw [(ih (c / 10) (k + 1)).1, hsplit, zpow_add₀ (by norm_num), zpow_one]
          ring
        · have := (ih (c / 10) (k + 1)).2
          omega
      · exact ⟨rfl, le_rfl⟩

/-- Seventeen digits are enough for every number. -/
theorem exists_gridHit?_seventeen {negative : Bool} {m : Nat} {e : Int} (hm : 0 < m)
    (hcanonical : (finite negative m e).IsCanonical) :
    ∃ c, gridHit? m e (decimalTop m e - (16 : Nat)) = some c := by
  have htop := (decimalTop_spec hm hcanonical).1
  have hunit : (0 : ℚ) < 2 ^ e := by positivity
  refine exists_gridHit? hm ?_
  have hsplit : (10 : ℚ) ^ (decimalTop m e - (16 : Nat)) = 10 ^ decimalTop m e / 10 ^ 16 := by
    rw [zpow_sub₀ (by norm_num), zpow_natCast]
  rw [hsplit, div_lt_iff₀ (by norm_num)]
  refine htop.trans_lt ?_
  rw [reachBelow]
  split_ifs with hdense
  · rw [hdense.1]
    push_cast
    linarith
  · have hmq : (m : ℚ) < 2 ^ 53 := by exact_mod_cast hcanonical.1
    have h := mul_lt_mul_of_pos_right hmq hunit
    linarith

/-- A multiplier in the interval of a number has not many digits. -/
theorem lt_of_roundsTo {negative : Bool} {m c : Nat} {e k : Int} (hm : 0 < m)
    (hcanonical : (finite negative m e).IsCanonical) (hround : RoundsTo m e (c * 10 ^ k))
    (hk : decimalTop m e - 16 ≤ k) : c < 2 ^ 100 := by
  have hten : (1 : ℚ) ≤ 10 := by norm_num
  have hleading := leading_bounds hm hcanonical
  have hbelow := (decimalTop_spec hm hcanonical).2
  have hestimate := (decimalEstimate_spec hleading.1 hleading.2).2
  have hsize := (size_bounds e hm).2
  have hone : (1 : ℚ) ≤ m := by exact_mod_cast hm
  have hunit : (0 : ℚ) < 2 ^ e := by positivity
  have hstep : (0 : ℚ) < 10 ^ k := by positivity
  -- The estimate is used through its bounds only, and omega needs it as a name.
  generalize decimalEstimate (m.log2 + e) = estimate at hbelow hestimate
  have hhigh : (c * 10 ^ k : ℚ) ≤ 10 ^ 20 * 10 ^ k := by
    calc (c * 10 ^ k : ℚ) ≤ (m + 1 / 2) * 2 ^ e := hround.below
      _ ≤ 2 * (m * 2 ^ e) := by
          have h := mul_le_mul_of_nonneg_right hone hunit.le
          linarith
      _ ≤ 10 * 10 ^ (estimate + 1) := by
          have hpos : (0 : ℚ) < 10 ^ (estimate + 1) := by positivity
          linarith
      _ = 10 ^ (estimate + 2) := by
          rw [← zpow_one_add₀ (by norm_num)]
          congr 1
          ring
      _ ≤ 10 ^ ((20 : Nat) + k) := zpow_le_zpow_right₀ hten (by omega)
      _ = 10 ^ 20 * 10 ^ k := by
          rw [zpow_add₀ (by norm_num), zpow_natCast]
  have hc : (c : ℚ) ≤ 10 ^ 20 := le_of_mul_le_mul_right hhigh hstep
  have hnat : c ≤ 10 ^ 20 := by exact_mod_cast hc
  calc c ≤ 10 ^ 20 := hnat
    _ < 2 ^ 100 := by norm_num

/-- The decimal that is written for a positive number is in the interval around it. -/
theorem shortest_spec {negative : Bool} {m : Nat} {e : Int} (hm : 0 < m)
    (hcanonical : (finite negative m e).IsCanonical) :
    RoundsTo m e ((shortest m e).1 * 10 ^ (shortest m e).2) ∧ 0 < (shortest m e).1 ∧
      (shortest m e).1 < 2 ^ 100 := by
  obtain ⟨last, hlast⟩ := exists_gridHit?_seventeen hm hcanonical
  rw [shortest]
  split
  · case h_1 found c k hfound =>
      obtain ⟨k', hmem, hhit⟩ := List.exists_of_findSome?_eq_some hfound
      obtain ⟨c', hc', heq⟩ := Option.map_eq_some_iff.1 hhit
      cases heq
      obtain ⟨n, hn, rfl⟩ := List.mem_map.1 hmem
      have hround := roundsTo_of_gridHit? hm hc'
      have hdrop := dropZeros_spec 20 c (decimalTop m e - n)
      have hsmall := lt_of_roundsTo hm hcanonical hround (by have := List.mem_range.1 hn; omega)
      rw [hdrop.1]
      refine ⟨hround, ?_, hdrop.2.trans_lt hsmall⟩
      -- A number in the interval is positive, and so is its multiplier.
      have hpos := hround.pos hm
      rw [← hdrop.1] at hpos
      refine Nat.pos_of_ne_zero fun hzero => ?_
      rw [hzero] at hpos
      simp at hpos
  · case h_2 found hnone =>
      have hmem : decimalTop m e - ((16 : Nat) : Int) ∈
          (List.range 17).map fun (n : Nat) => decimalTop m e - (n : Int) :=
        List.mem_map.2 ⟨16, by decide, rfl⟩
      have hmiss := List.findSome?_eq_none_iff.1 hnone _ hmem
      rw [hlast] at hmiss
      cases hmiss

/-- A decimal with the value of the shortest one is read as the number, however its digits are grouped. -/
theorem ofDecimal_shortest (negative : Bool) {m digits : Nat} {e exponent : Int} (hm : 0 < m)
    (hcanonical : (finite negative m e).IsCanonical) (hdigits : 0 < digits) (hlength : digits < 2 ^ 200)
    (hvalue : (digits * 10 ^ exponent : ℚ) = (shortest m e).1 * 10 ^ (shortest m e).2) :
    ofDecimal negative digits exponent = finite negative m e := by
  refine ofDecimal_eq negative hm hdigits hlength hcanonical ?_
  rw [hvalue]
  exact (shortest_spec hm hcanonical).1

end Number
end GraphQuery
