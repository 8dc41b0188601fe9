import GraphQuery.Number.Binary64
import Mathlib.Algebra.Order.Field.Power
import Mathlib.Data.Int.Log
import Mathlib.Data.Rat.Floor
import Mathlib.Tactic.FieldSimp
import Mathlib.Tactic.Linarith
import Mathlib.Tactic.NormNum

/-!
# Rounding — which quotients are read as a given number

A finite number is canonical if it has 53 significant bits or the lowest exponent (`Binary64.IsCanonical`).
Rounding a quotient takes the nearest number of units at its scale (`Binary64.isNearest_units`).  What it gives is
canonical (`Binary64.isCanonical_ofQuotient`), and a quotient in the interval around a canonical number rounds to that
number (`Binary64.ofQuotient_eq`).  The interval reaches half a unit up and
half a unit down, or a quarter of a unit down where the numbers below are twice as dense; its ends belong to
it where the mantissa is even.
-/

namespace GraphQuery
namespace Number

/-! ## Natural numbers -/

/-- A power with an integer exponent as the quotient of two powers, of which one is one. -/
theorem zpow_eq_div_pow (b : ℚ) (e : Int) : b ^ e = b ^ e.toNat / b ^ (-e).toNat := by
  rcases le_total 0 e with he | he
  · have hneg : (-e).toNat = 0 := by omega
    have hcast : (e.toNat : Int) = e := by omega
    rw [hneg, pow_zero, div_one, ← zpow_natCast, hcast]
  · have hpos : e.toNat = 0 := by omega
    have hcast : ((-e).toNat : Int) = -e := by omega
    rw [hpos, pow_zero, one_div, ← zpow_natCast, hcast, zpow_neg, inv_inv]

/-- Whether a value rounds to a whole number: they are no more than a half apart, and less if the number is odd. -/
@[mk_iff]
structure IsNearest (m : Nat) (v : ℚ) : Prop where
  above : (m - 1 / 2 : ℚ) ≤ v
  below : v ≤ m + 1 / 2
  inside : m % 2 = 1 → (m - 1 / 2 : ℚ) < v ∧ v < m + 1 / 2

section IsNearest

variable {m m' : Nat} {v v' : ℚ}

theorem isNearest_self (m : Nat) : IsNearest m m :=
  ⟨by linarith, by linarith, fun _ => ⟨by linarith, by linarith⟩⟩

/-- Of two values the greater does not round to less. -/
theorem IsNearest.mono (h : IsNearest m v) (h' : IsNearest m' v') (hle : v ≤ v') : m ≤ m' := by
  have habove := h.above
  have hbelow := h'.below
  by_contra hmore
  have hnext : (m' + 1 : ℚ) ≤ m := by exact_mod_cast (by omega : m' + 1 ≤ m)
  -- Both values would be the half between two neighbours, of which one is odd.
  have hm : m = m' + 1 := by
    have hlast : (m : ℚ) ≤ m' + 1 := by linarith
    have hnat : m ≤ m' + 1 := by exact_mod_cast hlast
    omega
  rcases Nat.mod_two_eq_zero_or_one m with heven | hodd
  · have hstrict := (h'.inside (by omega)).2
    linarith
  · have hstrict := (h.inside hodd).1
    linarith

theorem IsNearest.unique (h : IsNearest m v) (h' : IsNearest m' v) : m = m' :=
  le_antisymm (h.mono h' le_rfl) (h'.mono h le_rfl)

end IsNearest

theorem isNearest_roundHalfEven (num : Nat) {den : Nat} (hden : 0 < den) :
    IsNearest (roundHalfEven num den) (num / den) := by
  have hd : (0 : ℚ) < den := by exact_mod_cast hden
  have hsplit : (den * (num / den : Nat) + (num % den : Nat) : ℚ) = num := by exact_mod_cast Nat.div_add_mod num den
  have hr : (0 : ℚ) ≤ (num % den : Nat) := Nat.cast_nonneg _
  have hless : ((num % den : Nat) : ℚ) < den := by exact_mod_cast Nat.mod_lt num hden
  rw [isNearest_iff, le_div_iff₀ hd, div_le_iff₀ hd, lt_div_iff₀ hd, div_lt_iff₀ hd, ← hsplit]
  simp only [roundHalfEven]
  generalize num / den = q
  generalize num % den = r at hr hless ⊢
  split_ifs with hlow hhigh heven
  · have hq : (2 * r : ℚ) < den := by exact_mod_cast hlow
    exact ⟨by linarith, by linarith, fun _ => ⟨by linarith, by linarith⟩⟩
  · have hq : (den : ℚ) < 2 * r := by exact_mod_cast hhigh
    push_cast
    exact ⟨by linarith, by linarith, fun _ => ⟨by linarith, by linarith⟩⟩
  · have hq : (2 * r : ℚ) = den := by exact_mod_cast (by omega : 2 * r = den)
    exact ⟨by linarith, by linarith, fun hodd => by omega⟩
  · have hq : (2 * r : ℚ) = den := by exact_mod_cast (by omega : 2 * r = den)
    push_cast
    exact ⟨by linarith, by linarith, fun hodd => by omega⟩

end Number

namespace Binary64

open Number

/-! ## Canonical numbers -/

/-- Whether a number is written as arithmetic writes it: a finite one with 53 significant bits, or with the
lowest exponent. -/
def IsCanonical : Binary64 → Prop
  | nan => True
  | infinite _ => True
  | finite _ m e => m < 2 ^ 53 ∧ -1074 ≤ e ∧ e ≤ 971 ∧ (2 ^ 52 ≤ m ∨ e = -1074)

theorem eq_lowest_of_isCanonical_zero {negative : Bool} {e : Int}
    (h : (finite negative 0 e).IsCanonical) : e = -1074 := by
  rcases h with ⟨-, -, -, hbits⟩
  omega

/-- How far the interval around a number reaches down, in units of its last place. -/
def reachBelow (m : Nat) (e : Int) : ℚ := if m = 2 ^ 52 ∧ -1074 < e then 1 / 4 else 1 / 2

/-- Whether a value lies in the interval around `m * 2 ^ e`. -/
structure RoundsTo (m : Nat) (e : Int) (v : ℚ) : Prop where
  above : (m - reachBelow m e) * 2 ^ e ≤ v
  below : v ≤ (m + 1 / 2) * 2 ^ e
  inside : m % 2 = 1 → (m - reachBelow m e) * 2 ^ e < v ∧ v < (m + 1 / 2) * 2 ^ e

theorem reachBelow_le (m : Nat) (e : Int) : reachBelow m e ≤ 1 / 2 := by
  rw [reachBelow]
  split_ifs <;> norm_num

/-- Values around a positive number are positive. -/
theorem RoundsTo.pos {m : Nat} {e : Int} {v : ℚ} (h : RoundsTo m e v) (hm : 0 < m) : 0 < v := by
  have hone : (1 : ℚ) ≤ m := by exact_mod_cast hm
  have hreach := reachBelow_le m e
  have hunit : (0 : ℚ) < 2 ^ e := by positivity
  have hlow : 0 < (m - reachBelow m e) * 2 ^ e := mul_pos (by linarith) hunit
  exact hlow.trans_le h.above

/-! ## The scale of a quotient -/

theorem cast_numShift_div_denShift (e : Int) (num den : Nat) :
    (numShift e num : ℚ) / denShift e den = num / den / 2 ^ e := by
  have hnum : (numShift e num : ℚ) = num * 2 ^ (-e).toNat := by
    simp [numShift]
  have hden : (denShift e den : ℚ) = den * 2 ^ e.toNat := by
    simp [denShift]
  rw [hnum, hden, zpow_eq_div_pow]
  field_simp

theorem denShift_pos {den : Nat} (hden : 0 < den) (e : Int) : 0 < denShift e den :=
  Nat.mul_pos hden (Nat.pow_pos (by norm_num))

theorem numShift_lt_denShift_iff {den : Nat} (hden : 0 < den) (e : Int) (num : Nat) :
    numShift e num < denShift e den ↔ (num / den : ℚ) < 2 ^ e := by
  have hpos : (0 : ℚ) < denShift e den := by exact_mod_cast denShift_pos hden e
  have hunit : (0 : ℚ) < 2 ^ e := by positivity
  rw [← div_lt_one hunit, ← cast_numShift_div_denShift, div_lt_one hpos]
  exact Nat.cast_lt.symm

theorem two_zpow_log2_le {n : Nat} (hn : 0 < n) : (2 : ℚ) ^ (n.log2 : Int) ≤ n := by
  rw [zpow_natCast]
  exact_mod_cast Nat.log2_self_le hn.ne'

theorem lt_two_zpow_log2 (n : Nat) : (n : ℚ) < 2 ^ ((n.log2 : Int) + 1) := by
  rw [← Nat.cast_succ, zpow_natCast]
  exact_mod_cast Nat.lt_log2_self

/-- How many bits there are on both sides tells how large a quotient is, up to a factor of two both ways. -/
theorem log_quotient_near {num den : Nat} (hnum : 0 < num) (hden : 0 < den) :
    (num.log2 : Int) - den.log2 - 1 ≤ Int.log 2 (num / den : ℚ) ∧
      Int.log 2 (num / den : ℚ) < (num.log2 : Int) - den.log2 + 1 := by
  have hd : (0 : ℚ) < den := by exact_mod_cast hden
  have hv : (0 : ℚ) < num / den := div_pos (by exact_mod_cast hnum) hd
  constructor
  · have hlow : (2 : ℚ) ^ ((num.log2 : Int) - den.log2 - 1) ≤ num / den := by
      rw [le_div_iff₀ hd]
      calc (2 : ℚ) ^ ((num.log2 : Int) - den.log2 - 1) * den
          ≤ 2 ^ ((num.log2 : Int) - den.log2 - 1) * 2 ^ ((den.log2 : Int) + 1) := by
            gcongr
            exact (lt_two_zpow_log2 den).le
        _ = 2 ^ (num.log2 : Int) := by
            rw [← zpow_add₀ (by norm_num)]
            congr 1
            ring
        _ ≤ num := two_zpow_log2_le hnum
    exact (Int.zpow_le_iff_le_log (by norm_num) hv).1 (by exact_mod_cast hlow)
  · have hhigh : (num / den : ℚ) < 2 ^ ((num.log2 : Int) - den.log2 + 1) := by
      rw [div_lt_iff₀ hd]
      calc (num : ℚ) < 2 ^ ((num.log2 : Int) + 1) := lt_two_zpow_log2 num
        _ = 2 ^ ((num.log2 : Int) - den.log2 + 1) * 2 ^ (den.log2 : Int) := by
            rw [← zpow_add₀ (by norm_num)]
            congr 1
            ring
        _ ≤ 2 ^ ((num.log2 : Int) - den.log2 + 1) * den := by
            gcongr
            exact two_zpow_log2_le hden
    exact (Int.lt_zpow_iff_log_lt (by norm_num) hv).1 (by exact_mod_cast hhigh)

/-- The scale leaves 53 bits before the point, unless it is the lowest one. -/
theorem scaleOf_eq {num den : Nat} (hnum : 0 < num) (hden : 0 < den) :
    scaleOf num den = max (Int.log 2 (num / den : ℚ) - 52) (-1074) := by
  have hv : (0 : ℚ) < num / den := div_pos (by exact_mod_cast hnum) (by exact_mod_cast hden)
  obtain ⟨hge, hlt⟩ := log_quotient_near hnum hden
  -- The guess is right or one too high, and the comparison tells which.
  have hbelow := numShift_lt_denShift_iff hden ((num.log2 : Int) - den.log2) num
  set guess : Int := (num.log2 : Int) - den.log2 with hguess
  have hlog : Int.log 2 (num / den : ℚ) =
      if numShift guess num < denShift guess den then guess - 1 else guess := by
    split_ifs with h
    · have hless : Int.log 2 (num / den : ℚ) < guess :=
        (Int.lt_zpow_iff_log_lt (by norm_num) hv).1 (by exact_mod_cast hbelow.1 h)
      omega
    · have hmore : guess ≤ Int.log 2 (num / den : ℚ) := by
        have hle := not_lt.1 (mt hbelow.2 h)
        exact (Int.zpow_le_iff_le_log (by norm_num) hv).1 (by exact_mod_cast hle)
      omega
  rw [scaleOf, hlog]

theorem lowest_le_scaleOf {num den : Nat} (hnum : 0 < num) (hden : 0 < den) : -1074 ≤ scaleOf num den := by
  rw [scaleOf_eq hnum hden]
  exact le_max_right _ _

theorem two_zpow_add (e : Int) (n : Nat) : (2 : ℚ) ^ (e + n) = 2 ^ n * 2 ^ e := by
  rw [zpow_add₀ (by norm_num), zpow_natCast, mul_comm]

theorem lt_two_zpow_scaleOf {num den : Nat} (hnum : 0 < num) (hden : 0 < den) :
    (num / den : ℚ) < 2 ^ 53 * 2 ^ scaleOf num den := by
  have hlog := Int.lt_zpow_succ_log_self (b := 2) (by norm_num) (num / den : ℚ)
  have hscale := scaleOf_eq hnum hden
  have hexp : Int.log 2 (num / den : ℚ) + 1 ≤ scaleOf num den + (53 : Nat) := by omega
  calc (num / den : ℚ) < 2 ^ (Int.log 2 (num / den : ℚ) + 1) := by exact_mod_cast hlog
    _ ≤ 2 ^ (scaleOf num den + (53 : Nat)) := zpow_le_zpow_right₀ (by norm_num) hexp
    _ = 2 ^ 53 * 2 ^ scaleOf num den := two_zpow_add _ _

theorem two_zpow_scaleOf_le {num den : Nat} (hnum : 0 < num) (hden : 0 < den)
    (hscale : -1074 < scaleOf num den) : (2 : ℚ) ^ 52 * 2 ^ scaleOf num den ≤ num / den := by
  have hv : (0 : ℚ) < num / den := div_pos (by exact_mod_cast hnum) (by exact_mod_cast hden)
  have hlog := Int.zpow_log_le_self (b := 2) (by norm_num) hv
  have heq := scaleOf_eq hnum hden
  have hexp : scaleOf num den + (52 : Nat) = Int.log 2 (num / den : ℚ) := by omega
  rw [← two_zpow_add _ 52, hexp]
  exact_mod_cast hlog

/-- The scale is known by what it leaves before the point. -/
theorem scaleOf_eq_of_bounds {num den : Nat} {e : Int} (hnum : 0 < num) (hden : 0 < den)
    (he : -1074 ≤ e) (hhigh : (num / den : ℚ) < 2 ^ 53 * 2 ^ e)
    (hlow : -1074 < e → (2 : ℚ) ^ 52 * 2 ^ e ≤ num / den) : scaleOf num den = e := by
  have hv : (0 : ℚ) < num / den := div_pos (by exact_mod_cast hnum) (by exact_mod_cast hden)
  have heq := scaleOf_eq hnum hden
  rw [← two_zpow_add e 53] at hhigh
  have hless := (Int.lt_zpow_iff_log_lt (b := 2) (by norm_num) hv).1 (by exact_mod_cast hhigh)
  by_cases hlowest : -1074 < e
  · have hmin := hlow hlowest
    rw [← two_zpow_add e 52] at hmin
    have hmore := (Int.zpow_le_iff_le_log (b := 2) (by norm_num) hv).1 (by exact_mod_cast hmin)
    omega
  · omega

/-! ## Rounding a quotient -/

/-- How many units at its scale a quotient is rounded to. -/
def units (num den : Nat) : Nat := roundHalfEven (numShift (scaleOf num den) num) (denShift (scaleOf num den) den)

theorem isNearest_units {den : Nat} (hden : 0 < den) (num : Nat) :
    IsNearest (units num den) (num / den / 2 ^ scaleOf num den) := by
  rw [← cast_numShift_div_denShift]
  exact isNearest_roundHalfEven _ (denShift_pos hden _)

/-- A quotient within half a unit of `m * 2 ^ e` is rounded to `m` units if `e` is its scale. -/
theorem units_eq {num den m : Nat} {e : Int} (hden : 0 < den) (hscale : scaleOf num den = e)
    (hlow : (m - 1 / 2 : ℚ) * 2 ^ e ≤ num / den) (hhigh : (num / den : ℚ) ≤ (m + 1 / 2) * 2 ^ e)
    (hodd : m % 2 = 1 → (m - 1 / 2 : ℚ) * 2 ^ e < num / den ∧ (num / den : ℚ) < (m + 1 / 2) * 2 ^ e) :
    units num den = m := by
  have hunit : (0 : ℚ) < 2 ^ e := by positivity
  have hnearest := isNearest_units hden num
  rw [hscale] at hnearest
  refine hnearest.unique ⟨(le_div_iff₀ hunit).2 hlow, (div_le_iff₀ hunit).2 hhigh, fun hm => ?_⟩
  exact ⟨(lt_div_iff₀ hunit).2 (hodd hm).1, (div_lt_iff₀ hunit).2 (hodd hm).2⟩

/-- At its scale a quotient is rounded to 53 bits at most, or to the next power of two. -/
theorem units_le {num den : Nat} (hnum : 0 < num) (hden : 0 < den) : units num den ≤ 2 ^ 53 := by
  refine (isNearest_units hden num).mono (isNearest_self _) ?_
  rw [div_le_iff₀ (by positivity)]
  push_cast
  exact (lt_two_zpow_scaleOf hnum hden).le

/-- At its scale a quotient is rounded to no fewer than 53 bits, unless the scale is the lowest one. -/
theorem le_units {num den : Nat} (hnum : 0 < num) (hden : 0 < den) (hscale : -1074 < scaleOf num den) :
    2 ^ 52 ≤ units num den := by
  refine (isNearest_self _).mono (isNearest_units hden num) ?_
  rw [le_div_iff₀ (by positivity)]
  push_cast
  exact two_zpow_scaleOf_le hnum hden hscale

/-- A mantissa that fits is kept. -/
theorem ofQuotient_of_fits (negative : Bool) {num den : Nat} (hnum : 0 < num) (hfits : units num den ≠ 2 ^ 53) :
    ofQuotient negative num den =
      if 971 < scaleOf num den then infinite negative else finite negative (units num den) (scaleOf num den) := by
  have hne : ¬ roundHalfEven (numShift (scaleOf num den) num) (denShift (scaleOf num den) den) = Nat.pow 2 53 := hfits
  rw [ofQuotient, if_neg hnum.ne']
  simp only [hne, if_false]
  rfl

/-- A mantissa that rounding carries over to the next power of two moves to the next scale. -/
theorem ofQuotient_of_carry (negative : Bool) {num den : Nat} (hnum : 0 < num) (hcarry : units num den = 2 ^ 53) :
    ofQuotient negative num den =
      if 971 < scaleOf num den + 1 then infinite negative else finite negative (2 ^ 52) (scaleOf num den + 1) := by
  have heq : roundHalfEven (numShift (scaleOf num den) num) (denShift (scaleOf num den) den) = Nat.pow 2 53 := hcarry
  rw [ofQuotient, if_neg hnum.ne']
  simp only [heq, if_true]
  rfl

/-- Values in the interval around a power of two, but below it, round up to it from a scale with numbers
twice as dense. -/
theorem ofQuotient_eq_of_dense (negative : Bool) {num den m : Nat} {e : Int} (hnum : 0 < num)
    (hden : 0 < den) (hcanonical : (finite negative m e).IsCanonical) (hround : RoundsTo m e (num / den))
    (he : -1074 < e) (hbelow : (num / den : ℚ) < 2 ^ 52 * 2 ^ e) :
    ofQuotient negative num den = finite negative m e := by
  rcases hcanonical with ⟨-, -, hehigh, hbits⟩
  have hunit : (0 : ℚ) < 2 ^ e := by positivity
  -- Below its binade only the smallest mantissa has a value that rounds to it.
  have hmin : 2 ^ 52 ≤ m := by
    rcases hbits with hbits | hbits
    · exact hbits
    · omega
  have hmeq : m = 2 ^ 52 := by
    have hreach := reachBelow_le m e
    have hlow : (m - reachBelow m e) * 2 ^ e < 2 ^ 52 * 2 ^ e := hround.above.trans_lt hbelow
    have hmax := lt_of_mul_lt_mul_right hlow hunit.le
    have hless : (m : ℚ) < (2 ^ 52 : Nat) + 1 := by
      push_cast
      linarith
    have hnat : m < 2 ^ 52 + 1 := by exact_mod_cast hless
    omega
  have hhalf : (2 : ℚ) ^ e = 2 * 2 ^ (e - 1) := by
    have h := two_zpow_add (e - 1) 1
    rw [Nat.cast_one, sub_add_cancel, pow_one] at h
    exact h
  have hunit' : (0 : ℚ) < 2 ^ (e - 1) := by positivity
  have hlow : ((2 ^ 53 : Nat) - 1 / 2 : ℚ) * 2 ^ (e - 1) ≤ num / den := by
    have habove := hround.above
    rw [reachBelow, if_pos ⟨hmeq, he⟩, hmeq, hhalf] at habove
    push_cast at habove ⊢
    linarith
  rw [hhalf] at hbelow
  -- Seen from the binade below, the quotient rounds up to a power of two, and the carry leads back.
  have hscale : scaleOf num den = e - 1 := by
    refine scaleOf_eq_of_bounds hnum hden (by omega) (by linarith) ?_
    intro _
    push_cast at hlow
    linarith
  have hunits : units num den = 2 ^ 53 := by
    refine units_eq hden hscale hlow ?_ ?_
    · push_cast
      linarith
    · intro hodd
      norm_num at hodd
  rw [ofQuotient_of_carry negative hnum hunits, hscale, sub_add_cancel, if_neg (by omega), hmeq]

/-- A quotient in the interval around a canonical number rounds to this number. -/
theorem ofQuotient_eq (negative : Bool) {num den m : Nat} {e : Int} (hnum : 0 < num) (hden : 0 < den)
    (hcanonical : (finite negative m e).IsCanonical) (hround : RoundsTo m e (num / den)) :
    ofQuotient negative num den = finite negative m e := by
  by_cases hdense : -1074 < e ∧ (num / den : ℚ) < 2 ^ 52 * 2 ^ e
  · exact ofQuotient_eq_of_dense negative hnum hden hcanonical hround hdense.1 hdense.2
  · rcases hcanonical with ⟨hm, helow, hehigh, -⟩
    have hunit : (0 : ℚ) < 2 ^ e := by positivity
    have hmq : (m : ℚ) + 1 ≤ 2 ^ 53 := by exact_mod_cast hm
    -- The interval ends before the next power of two.
    have hless : (num / den : ℚ) < 2 ^ 53 * 2 ^ e :=
      hround.below.trans_lt (mul_lt_mul_of_pos_right (by linarith) hunit)
    have hscale : scaleOf num den = e := by
      refine scaleOf_eq_of_bounds hnum hden helow hless ?_
      intro he
      exact not_lt.1 fun h => hdense ⟨he, h⟩
    have hreach : (m - 1 / 2 : ℚ) * 2 ^ e ≤ (m - reachBelow m e) * 2 ^ e := by
      have := reachBelow_le m e
      exact mul_le_mul_of_nonneg_right (by linarith) hunit.le
    have hunits : units num den = m := by
      refine units_eq hden hscale (hreach.trans hround.above) hround.below ?_
      intro hodd
      exact ⟨hreach.trans_lt (hround.inside hodd).1, (hround.inside hodd).2⟩
    rw [ofQuotient_of_fits negative hnum (by omega), hunits, hscale, if_neg (by omega)]

theorem isCanonical_zero (negative : Bool) : (finite negative 0 (-1074)).IsCanonical :=
  ⟨by norm_num, by norm_num, by norm_num, Or.inr rfl⟩

/-- What rounding a quotient gives is canonical. -/
theorem isCanonical_ofQuotient (negative : Bool) (num : Nat) {den : Nat} (hden : 0 < den) :
    (ofQuotient negative num den).IsCanonical := by
  rcases Nat.eq_zero_or_pos num with rfl | hnum
  · exact isCanonical_zero negative
  have hlowest := lowest_le_scaleOf hnum hden
  have hhigh := units_le hnum hden
  have hlow := le_units hnum hden
  by_cases hcarry : units num den = 2 ^ 53
  · rw [ofQuotient_of_carry negative hnum hcarry]
    split_ifs with hlarge
    · exact trivial
    · exact ⟨by norm_num, by omega, by omega, Or.inl le_rfl⟩
  · rw [ofQuotient_of_fits negative hnum hcarry]
    split_ifs with hlarge
    · exact trivial
    · refine ⟨by omega, hlowest, by omega, ?_⟩
      by_cases hscale : -1074 < scaleOf num den
      · exact Or.inl (hlow hscale)
      · exact Or.inr (by omega)

end Binary64
end GraphQuery
