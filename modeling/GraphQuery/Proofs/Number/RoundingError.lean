import GraphQuery.Proofs.Number.RoundingOrder

/-!
# Rounding — how far off

A number is rounded to a whole number of units, so it is off by half a unit at most: by a part of `2 ^ -53` of itself,
or by `2 ^ -1075` where units do not get smaller (`Binary64.toRat_ofRat_le`).  Natural numbers of 53 bits are not
rounded at all (`Binary64.toRat_ofNat`), and no floating number lies between one and `1 - 2 ^ -53`
(`Binary64.IsCanonical.toRat_le_of_lt_one`).

So a natural number times a part of one is not rounded above the number, and stays below it if the part is less than
one (`Binary64.toRat_mul_ofNat_le`, `Binary64.toRat_mul_ofNat_lt`).
-/

namespace GraphQuery
namespace Binary64

open Number

/-- How far a number may be off after rounding, as a part of it. -/
def unitRoundoff : ℚ := 2 ^ (-53 : Int)

/-- How far a number may be off where units are smallest. -/
def leastRoundoff : ℚ := 2 ^ (-1075 : Int)

theorem unitRoundoff_eq : unitRoundoff = 1 / 2 ^ 53 := by
  rw [unitRoundoff]
  norm_num

theorem leastRoundoff_pos : 0 < leastRoundoff := by
  rw [leastRoundoff]
  positivity

theorem leastRoundoff_lt : leastRoundoff < unitRoundoff ^ 2 := by
  rw [leastRoundoff, unitRoundoff, ← zpow_natCast, ← zpow_mul]
  exact zpow_lt_zpow_right₀ one_lt_two (by norm_num)

/-- What is rounded is off by half a unit at most. -/
theorem toRat_ofRat_le {v : ℚ} (hv : 0 < v) (hfits : v < range) :
    (ofRat v).toRat ≤ v + unitRoundoff * v + leastRoundoff := by
  have hnum : 0 < v.num.natAbs := Int.natAbs_pos.2 (Rat.num_pos.2 hv).ne'
  have hquotient := natAbs_num_div_den hv
  have hnearest := isNearest_units v.den_pos v.num.natAbs
  have hscale := lowest_le_scaleOf hnum v.den_pos
  have hunit := two_zpow_scaleOf_le hnum v.den_pos
  rw [ofRat_of_pos hv, toRat_ofQuotient hnum v.den_pos (by rwa [hquotient])]
  rw [hquotient] at hnearest hunit
  generalize units v.num.natAbs v.den = m at *
  generalize scaleOf v.num.natAbs v.den = e at *
  have hhalf : (m : ℚ) * 2 ^ e ≤ v + 2 ^ e / 2 := by
    have habove := (le_div_iff₀ (by positivity)).1 hnearest.above
    linarith
  rcases hscale.eq_or_lt with rfl | hless
  · have hleast : (2 : ℚ) ^ (-1074 : Int) / 2 = leastRoundoff := (zpow_sub_one₀ two_ne_zero _).symm
    have hpart : 0 ≤ unitRoundoff * v := by
      rw [unitRoundoff_eq]
      positivity
    linarith
  · have hpart : (2 : ℚ) ^ e / 2 ≤ unitRoundoff * v := by
      have hbits := hunit hless
      rw [unitRoundoff_eq]
      linarith
    have hleast := leastRoundoff_pos
    linarith

/-- Natural numbers of 53 bits are not rounded. -/
theorem toRat_ofNat {n : Nat} (h : n < 2 ^ 53) : (ofNat n).toRat = n := by
  rcases n.eq_zero_or_pos with rfl | hn
  · decide +kernel
  · have hquotient : (n / (1 : Nat) : ℚ) = n := by rw [Nat.cast_one, div_one]
    have hfits : (n / (1 : Nat) : ℚ) < range := by
      rw [hquotient]
      exact natCast_lt_range (h.trans (by norm_num))
    have hscale : scaleOf n 1 ≤ 0 := by
      have hlog : Int.log 2 (n : ℚ) < 53 :=
        (Int.lt_zpow_iff_log_lt (by norm_num) (by exact_mod_cast hn)).1 (by exact_mod_cast h)
      rw [scaleOf_eq hn Nat.one_pos, hquotient]
      omega
    have hnearest := isNearest_units Nat.one_pos n
    rw [ofNat, toRat_ofQuotient hn Nat.one_pos hfits]
    rw [hquotient] at hnearest
    generalize scaleOf n 1 = e at *
    -- At a scale that is not positive the number is a whole number of units.
    obtain ⟨k, rfl⟩ := Int.exists_eq_neg_ofNat hscale
    have hwhole : (n / 2 ^ (-(k : Int)) : ℚ) = (n * 2 ^ k : Nat) := by
      rw [zpow_neg, zpow_natCast, div_inv_eq_mul]
      push_cast
      rfl
    rw [hwhole] at hnearest
    rw [hnearest.unique (isNearest_self _), ← hwhole]
    field_simp

/-- Units of 53 bits that are less than one leave a unit at least, and more if units are small. -/
theorem natCast_mul_two_zpow_le {m : Nat} {e : Int} (hm : m < 2 ^ 53) (h : (m * 2 ^ e : ℚ) < 1) :
    (m * 2 ^ e : ℚ) ≤ 1 - unitRoundoff := by
  rcases lt_or_ge e (-53) with hlow | hhigh
  · have hbits : (m : ℚ) ≤ 2 ^ 53 := by exact_mod_cast hm.le
    have hunit : (2 : ℚ) ^ e ≤ 2 ^ (-54 : Int) := zpow_le_zpow_right₀ one_le_two (by omega)
    calc (m * 2 ^ e : ℚ) ≤ 2 ^ 53 * 2 ^ (-54 : Int) := by gcongr
      _ ≤ 1 - unitRoundoff := by
        rw [unitRoundoff_eq]
        norm_num
  · rcases m.eq_zero_or_pos with rfl | hpos
    · rw [unitRoundoff_eq]
      norm_num
    · have hunit : unitRoundoff ≤ 2 ^ e := zpow_le_zpow_right₀ one_le_two hhigh
      have hone : (1 : ℚ) ≤ m := by exact_mod_cast hpos
      have hneg : e ≤ 0 := by
        by_contra hmore
        have htwo : (1 : ℚ) ≤ 2 ^ e := one_le_zpow₀ one_le_two (by omega)
        exact h.not_ge (one_le_mul_of_one_le_of_one_le hone htwo)
      -- There are a whole number of units in one, so one more than `m` still fits.
      obtain ⟨k, rfl⟩ := Int.exists_eq_neg_ofNat hneg
      rw [zpow_neg, zpow_natCast] at h hunit ⊢
      have hless : m < 2 ^ k := by
        have hcast := (mul_inv_lt_iff₀ (by positivity)).1 h
        rw [one_mul] at hcast
        exact_mod_cast hcast
      have hnext : ((m + 1 : Nat) * (2 ^ k)⁻¹ : ℚ) ≤ 1 := by
        rw [mul_inv_le_iff₀ (by positivity), one_mul]
        exact_mod_cast hless
      push_cast at hnext
      linarith

/-- Between one and the number below it there is none. -/
theorem IsCanonical.toRat_le_of_lt_one {x : Binary64} (hx : x.IsCanonical) (h : x.toRat < 1) :
    x.toRat ≤ 1 - unitRoundoff := by
  have hfirst : (0 : ℚ) ≤ 1 - unitRoundoff := by
    rw [unitRoundoff_eq]
    norm_num
  cases x with
  | nan =>
      exact hfirst
  | infinite negative =>
      exact hfirst
  | finite negative m e =>
      rw [toRat_finite] at h ⊢
      split_ifs at h ⊢ with hsign
      · have hsize : (0 : ℚ) ≤ m * 2 ^ e := by positivity
        linarith
      · exact natCast_mul_two_zpow_le hx.1 h

/-! ## Parts of natural numbers -/

section Parts

variable {n : Nat} {x : Binary64}

theorem toRat_mul_ofNat (hn : n < 2 ^ 53) (x : Binary64) : (mul (ofNat n) x).toRat = (ofRat (n * x.toRat)).toRat := by
  rw [mul, toRat_ofNat hn]

theorem toRat_mul_ofNat_le (hn : n < 2 ^ 53) (hx : x.toRat ≤ 1) : (mul (ofNat n) x).toRat ≤ n := by
  have hrange : (n : ℚ) < range := natCast_lt_range (hn.trans (by norm_num))
  calc (mul (ofNat n) x).toRat = (ofRat (n * x.toRat)).toRat := toRat_mul_ofNat hn x
    _ ≤ (ofRat n).toRat := toRat_ofRat_mono (mul_le_of_le_one_right n.cast_nonneg hx) n.cast_nonneg hrange
    _ = n := by rw [← ofNat_eq_ofRat, toRat_ofNat hn]

/-- The part falls short of the number by more than it is off. -/
theorem toRat_mul_ofNat_lt (hpos : 0 < n) (hn : n < 2 ^ 53) (hx : x.IsCanonical) (hless : x.toRat < 1) :
    (mul (ofNat n) x).toRat < n := by
  have hone : (1 : ℚ) ≤ n := by exact_mod_cast hpos
  rw [toRat_mul_ofNat hn]
  rcases le_or_gt (n * x.toRat) 0 with hneg | hpart
  · exact (toRat_ofRat_nonpos hneg).trans_lt (by linarith)
  · have hrange : (n : ℚ) < range := natCast_lt_range (hn.trans (by norm_num))
    have hshort : n * x.toRat ≤ n * (1 - unitRoundoff) := by
      gcongr
      exact hx.toRat_le_of_lt_one hless
    have hunit : (0 : ℚ) < unitRoundoff := by
      rw [unitRoundoff]
      positivity
    have hgap : leastRoundoff < n * unitRoundoff ^ 2 :=
      leastRoundoff_lt.trans_le (le_mul_of_one_le_left (sq_nonneg unitRoundoff) hone)
    have hround := toRat_ofRat_le hpart (lt_of_le_of_lt (mul_le_of_le_one_right n.cast_nonneg hless.le) hrange)
    calc (ofRat (n * x.toRat)).toRat
        ≤ n * x.toRat + unitRoundoff * (n * x.toRat) + leastRoundoff := hround
      _ ≤ n * (1 - unitRoundoff) + unitRoundoff * (n * (1 - unitRoundoff)) + leastRoundoff := by gcongr
      _ = n - n * unitRoundoff ^ 2 + leastRoundoff := by ring
      _ < n := by linarith

end Parts

end Binary64
end GraphQuery
