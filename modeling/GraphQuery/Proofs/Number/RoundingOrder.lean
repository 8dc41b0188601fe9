import GraphQuery.Proofs.Number.Rounding
import Mathlib.Tactic.Ring

/-!
# Rounding — order is kept

The value of a rounded quotient is a whole number of units at the scale of the quotient
(`Binary64.toRat_ofQuotient`).  A greater quotient has a scale that is no lower, and at one scale no fewer
units, so rounding never turns two values around (`Binary64.toRat_ofRat_mono`), as long as the greater one is not
too large for a floating number.  Natural numbers follow (`Binary64.toRat_ofNat_mono`).
-/

namespace GraphQuery
namespace Binary64

open Number

/-! ## The value of a number -/

theorem toRat_finite (negative : Bool) (m : Nat) (e : Int) :
    (finite negative m e).toRat = if negative then -(m * 2 ^ e : ℚ) else m * 2 ^ e := by
  have hsize : mkRat (m * Nat.pow 2 e.toNat : Nat) (Nat.pow 2 (-e).toNat) = (m * 2 ^ e : ℚ) := by
    rw [Rat.mkRat_eq_div, zpow_eq_div_pow]
    push_cast
    simp [mul_div_assoc]
  simp only [toRat, toRat?, Option.getD_some, hsize]

theorem toRat_zero : zero.toRat = 0 := by
  decide +kernel

theorem toRat_nonneg {x : Binary64} (h : x.isNegative = false) : 0 ≤ x.toRat := by
  cases x with
  | nan =>
      exact le_rfl
  | infinite negative =>
      exact le_rfl
  | finite negative m e =>
      have hpos : negative = false := h
      rw [toRat_finite, hpos, if_neg Bool.false_ne_true]
      positivity

theorem toRat_nonpos {x : Binary64} (h : x.isNegative = true) : x.toRat ≤ 0 := by
  cases x with
  | nan =>
      exact le_rfl
  | infinite negative =>
      exact le_rfl
  | finite negative m e =>
      have hneg : negative = true := h
      rw [toRat_finite, hneg, if_pos rfl]
      have hsize : (0 : ℚ) ≤ m * 2 ^ e := by positivity
      linarith

theorem isNegative_ofQuotient (negative : Bool) (num den : Nat) :
    (ofQuotient negative num den).isNegative = negative := by
  simp only [ofQuotient]
  split_ifs <;> rfl

theorem isNegative_ofRat (q : Rat) : (ofRat q).isNegative = decide (q < 0) := by
  rw [ofRat, isNegative_ofQuotient]
  exact decide_eq_decide.2 Rat.num_neg

theorem ofRat_of_pos {q : ℚ} (h : 0 < q) : ofRat q = ofQuotient false q.num.natAbs q.den := by
  have hnum : decide (q.num < 0) = false := decide_eq_false (Rat.num_pos.2 h).not_gt
  rw [ofRat, hnum]

theorem natAbs_num_div_den {q : ℚ} (h : 0 < q) : (q.num.natAbs / q.den : ℚ) = q := by
  have hnum : ((q.num.natAbs : Int) : ℚ) = q.num := by
    rw [Int.natAbs_of_nonneg (Rat.num_pos.2 h).le]
  rw [← Int.cast_natCast, hnum, Rat.num_div_den]

theorem toRat_ofRat_nonneg {q : ℚ} (h : 0 ≤ q) : 0 ≤ (ofRat q).toRat :=
  toRat_nonneg (by rw [isNegative_ofRat, decide_eq_false h.not_gt])

theorem toRat_ofRat_nonpos {q : ℚ} (h : q ≤ 0) : (ofRat q).toRat ≤ 0 := by
  rcases h.lt_or_eq with hneg | rfl
  · exact toRat_nonpos (by rw [isNegative_ofRat, decide_eq_true hneg])
  · decide +kernel

/-! ## Rounding a quotient -/

/-- What lies below this is not rounded to infinity. -/
def range : ℚ := 2 ^ 1023

/-- The value of a rounded quotient is that of its units. -/
theorem toRat_ofQuotient {num den : Nat} (hnum : 0 < num) (hden : 0 < den) (hfits : (num / den : ℚ) < range) :
    (ofQuotient false num den).toRat = units num den * 2 ^ scaleOf num den := by
  have hscale : scaleOf num den ≤ 970 := by
    have hv : (0 : ℚ) < num / den := div_pos (by exact_mod_cast hnum) (by exact_mod_cast hden)
    rw [range] at hfits
    have hlog : Int.log 2 (num / den : ℚ) < 1023 :=
      (Int.lt_zpow_iff_log_lt (by norm_num) hv).1 (by exact_mod_cast hfits)
    rw [scaleOf_eq hnum hden]
    omega
  by_cases hcarry : units num den = 2 ^ 53
  · -- The next power of two is kept as the least number of the next scale.
    rw [ofQuotient_of_carry false hnum hcarry, if_neg (by omega), toRat_finite, if_neg Bool.false_ne_true, hcarry,
      zpow_add_one₀ two_ne_zero]
    push_cast
    ring
  · rw [ofQuotient_of_fits false hnum hcarry, if_neg (by omega), toRat_finite, if_neg Bool.false_ne_true]

/-- At one scale the greater quotient has no fewer units. -/
theorem units_mono {num den num' den' : Nat} (hden : 0 < den) (hden' : 0 < den') (h : (num / den : ℚ) ≤ num' / den')
    (hsame : scaleOf num den = scaleOf num' den') : units num den ≤ units num' den' := by
  refine (isNearest_units hden num).mono (isNearest_units hden' num') ?_
  rw [hsame]
  gcongr

/-- Units of a lower scale end where those of the next one begin. -/
theorem units_le_of_scaleOf_lt {num den num' den' : Nat} (hnum : 0 < num) (hden : 0 < den) (hnum' : 0 < num')
    (hden' : 0 < den') (hless : scaleOf num den < scaleOf num' den') :
    (units num den * 2 ^ scaleOf num den : ℚ) ≤ units num' den' * 2 ^ scaleOf num' den' := by
  have hhigh := units_le hnum hden
  have hlow := le_units hnum' hden' ((lowest_le_scaleOf hnum hden).trans_lt hless)
  calc (units num den * 2 ^ scaleOf num den : ℚ)
      ≤ 2 ^ 53 * 2 ^ scaleOf num den := by
        gcongr
        exact_mod_cast hhigh
    _ = 2 ^ 52 * 2 ^ (scaleOf num den + 1) := by
        rw [zpow_add_one₀ two_ne_zero]
        ring
    _ ≤ 2 ^ 52 * 2 ^ scaleOf num' den' := by
        gcongr
        · norm_num
        · omega
    _ ≤ units num' den' * 2 ^ scaleOf num' den' := by
        gcongr
        exact_mod_cast hlow

/-- Of two positive quotients the greater is not rounded below the other. -/
theorem toRat_ofQuotient_mono {num den num' den' : Nat} (hnum : 0 < num) (hden : 0 < den) (hden' : 0 < den')
    (h : (num / den : ℚ) ≤ num' / den') (hfits : (num' / den' : ℚ) < range) :
    (ofQuotient false num den).toRat ≤ (ofQuotient false num' den').toRat := by
  have hv : (0 : ℚ) < num / den := div_pos (by exact_mod_cast hnum) (by exact_mod_cast hden)
  have hnum' : 0 < num' := by
    have hpos := hv.trans_le h
    rw [Nat.pos_iff_ne_zero]
    rintro rfl
    norm_num at hpos
  have hscale : scaleOf num den ≤ scaleOf num' den' := by
    have hlog : Int.log 2 (num / den : ℚ) ≤ Int.log 2 (num' / den' : ℚ) := Int.log_mono_right hv h
    rw [scaleOf_eq hnum hden, scaleOf_eq hnum' hden']
    omega
  rw [toRat_ofQuotient hnum hden (h.trans_lt hfits), toRat_ofQuotient hnum' hden' hfits]
  rcases hscale.eq_or_lt with hsame | hless
  · have hunits := units_mono hden hden' h hsame
    rw [hsame]
    gcongr
  · exact units_le_of_scaleOf_lt hnum hden hnum' hden' hless

/-- Of two numbers the greater is not rounded below the other, if it is neither negative nor too large. -/
theorem toRat_ofRat_mono {x y : ℚ} (h : x ≤ y) (hy : 0 ≤ y) (hfits : y < range) :
    (ofRat x).toRat ≤ (ofRat y).toRat := by
  rcases le_or_gt x 0 with hneg | hpos
  · exact (toRat_ofRat_nonpos hneg).trans (toRat_ofRat_nonneg hy)
  · rw [ofRat_of_pos hpos, ofRat_of_pos (hpos.trans_le h)]
    refine toRat_ofQuotient_mono (Int.natAbs_pos.2 (Rat.num_pos.2 hpos).ne') x.den_pos y.den_pos ?_ ?_
    · rwa [natAbs_num_div_den hpos, natAbs_num_div_den (hpos.trans_le h)]
    · rwa [natAbs_num_div_den (hpos.trans_le h)]

/-! ## Natural numbers -/

variable {n p q : Nat}

theorem ofNat_eq_ofRat (n : Nat) : ofNat n = ofRat n := by
  have hsign : decide ((n : Int) < 0) = false := decide_eq_false (by omega)
  rw [ofNat, ofRat, Rat.num_natCast, Rat.den_natCast, Int.natAbs_natCast, hsign]

theorem toRat_ofNat_mono (h : p ≤ q) (hq : q < range) : (ofNat p).toRat ≤ (ofNat q).toRat := by
  rw [ofNat_eq_ofRat, ofNat_eq_ofRat]
  exact toRat_ofRat_mono (by exact_mod_cast h) (Nat.cast_nonneg q) hq

theorem toRat_ofNat_nonneg (n : Nat) : 0 ≤ (ofNat n).toRat := by
  rw [ofNat_eq_ofRat]
  exact toRat_ofRat_nonneg (Nat.cast_nonneg n)

theorem natCast_lt_range (h : n < 2 ^ 70) : (n : ℚ) < range := by
  have hcast : (n : ℚ) < 2 ^ 70 := by exact_mod_cast h
  exact hcast.trans (pow_lt_pow_right₀ (by norm_num) (by norm_num))

theorem toRat_ofNat_lt_range (h : n < 2 ^ 70) : (ofNat n).toRat < range := by
  have hvalue : (ofNat (2 ^ 70 - 1)).toRat = 2 ^ 70 := by
    decide +kernel
  have hle := toRat_ofNat_mono (Nat.le_sub_one_of_lt h) (natCast_lt_range (by norm_num))
  rw [hvalue] at hle
  exact hle.trans_lt (pow_lt_pow_right₀ (by norm_num) (by norm_num))

end Binary64
end GraphQuery
