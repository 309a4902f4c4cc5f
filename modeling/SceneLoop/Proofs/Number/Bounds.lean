import Mathlib
import SceneLoop.Proofs.Number.Integral

/-!
# Bounds on what arithmetic gives

Rounding keeps the order, so a rounded result lies between what the bounds of the exact result are
rounded to.  Differences do not vanish, shares of a whole are between zero and one, and a share of a
change leads no further than the whole change.

## Main results

* `Binary64.IsNearest.mem_uIcc` : rounding a number between two others.
* `Binary64.value_sub_pos` : the difference of two different doubles does not vanish.
* `Binary64.div_bounds` : the share of a part in a whole.
* `Binary64.isFinite_add_mul` : moving along a change by a share of it.
-/

namespace SceneLoop

open Float.Model (UnpackedFloat Format)
open Float.Model.UnpackedFloat

namespace Binary64

variable {x y z p : Float}

/-! ### Bounds -/

theorem value_bounds_of_isFinite (h : x.isFinite) : -limit < value x ∧ value x < limit :=
  abs_lt.1 ((isFinite_iff_value (isNaN_of_isFinite h)).1 h)

/-- What lies between finite doubles is finite. -/
theorem isFinite_of_mem_uIcc (hx : x.isNaN = false) (hy : y.isFinite) (hz : z.isFinite)
    (h : value x ∈ Set.uIcc (value y) (value z)) : x.isFinite := by
  have hy' := value_bounds_of_isFinite hy
  have hz' := value_bounds_of_isFinite hz
  rw [isFinite_iff_value hx, abs_lt]
  rcases Set.mem_uIcc.1 h with h | h
  · exact ⟨hy'.1.trans_le h.1, h.2.trans_lt hz'.2⟩
  · exact ⟨hz'.1.trans_le h.1, h.2.trans_lt hy'.2⟩

/-- Rounding a number between two others gives one between what these are rounded to. -/
theorem IsNearest.mem_uIcc {q r s : ℚ} (hx : IsNearest x q) (hy : IsNearest y r)
    (hz : IsNearest z s) (h : q ∈ Set.uIcc r s) : value x ∈ Set.uIcc (value y) (value z) := by
  rw [hx.value_eq, hy.value_eq, hz.value_eq]
  exact rounded_mono.mapsTo_uIcc h

/-- The sum and the difference of a finite double and a number of moderate size do not leave the
range. -/
theorem IsNearest.isFinite_of_abs_le {q r : ℚ} (hx : IsNearest x q) (hy : y.isFinite)
    (hr : |r| ≤ 2 ^ (64 : ℤ)) (hq : |q| ≤ |value y| + |r|) : x.isFinite := by
  have hvalue := abs_value_le hy
  have hmoderate : (2 : ℚ) ^ (64 : ℤ) < 2 ^ (970 : ℤ) :=
    zpow_lt_zpow_right₀ one_lt_two (by decide)
  have hdouble : (2 : ℚ) ^ (971 : ℤ) = 2 * 2 ^ (970 : ℤ) := by
    rw [← zpow_one_add₀ two_ne_zero]
    rfl
  refine hx.isFinite ?_
  calc |q| ≤ |value y| + |r| := hq
    _ < limit - 2 ^ (971 : ℤ) + 2 ^ (970 : ℤ) :=
      add_lt_add_of_le_of_lt hvalue (hr.trans_lt hmoderate)
    _ = limit - 2 ^ (970 : ℤ) := by rw [hdouble, two_mul, sub_add_eq_sub_sub, sub_add_cancel]

/-- A word of 64 bits is rounded to a number that is at most the first one past them. -/
theorem value_toFloat_le (n : UInt64) : value n.toFloat ≤ 2 ^ (64 : ℤ) := by
  have hpower : roundedSize (2 ^ (64 : ℤ)) = 2 ^ (64 : ℤ) := by
    have hlog : Int.log 2 ((2 : ℚ) ^ (64 : ℤ)) = 64 := Int.log_zpow one_lt_two 64
    refine roundedSize_of_eq (n := 1) (k := 64) ?_ (by rw [Int.cast_one, one_mul])
    rw [lastPlace, hlog]
    decide
  have hle : (n.toNat : ℚ) ≤ 2 ^ (64 : ℤ) := by exact_mod_cast n.toNat_lt.le
  rw [(isNearest_toFloat n).value_eq]
  refine (rounded_mono hle).trans ?_
  rw [rounded_of_nonneg (two_zpow_pos 64).le, hpower]
  exact min_le_left _ _

/-! ### Differences and shares -/

/-- Finite doubles are multiples of the least positive one. -/
theorem exists_value_eq (h : x.isFinite) : ∃ n : ℤ, value x = n * 2 ^ (-1074 : ℤ) := by
  have hx := isFiniteParts_parts h
  rw [value]
  generalize parts x = u at hx
  cases hx with
  | zero s => exact ⟨0, by rw [valueOf, Int.cast_zero, zero_mul]⟩
  | @finite m e s hm =>
    obtain ⟨k, rfl⟩ : ∃ k : ℕ, e = k + -1074 :=
      ⟨(e + 1074).toNat, by have := hm.le_exponent; omega⟩
    refine ⟨s.apply m * 2 ^ k, ?_⟩
    rw [valueOf, ← Int.cast_natCast (n := m), ← signed_apply, zpow_add₀ two_ne_zero, zpow_natCast,
      Int.cast_mul, Int.cast_pow, Int.cast_ofNat, mul_assoc]

/-- The difference of two different doubles does not vanish. -/
theorem value_sub_pos (hx : x.isFinite) (hy : y.isFinite) (h : value x < value y) :
    0 < value (y - x) := by
  obtain ⟨a, ha⟩ := exists_value_eq hx
  obtain ⟨b, hb⟩ := exists_value_eq hy
  have hunit := two_zpow_pos (-1074)
  have hleast : IsCanonical 1 (-1074) := ⟨by decide, by decide, by decide, by decide, .inr rfl⟩
  have hself := hleast.roundedSize
  rw [Nat.cast_one, one_mul] at hself
  have hle : (2 : ℚ) ^ (-1074 : ℤ) ≤ value y - value x := by
    rw [ha, hb, mul_lt_mul_iff_left₀ hunit, Int.cast_lt] at h
    rw [ha, hb, ← sub_mul]
    have hone : (1 : ℚ) ≤ b - a := by exact_mod_cast (by omega : 1 ≤ b - a)
    exact le_mul_of_one_le_left hunit.le hone
  calc (0 : ℚ) < min (2 ^ (-1074 : ℤ)) limit := lt_min hunit limit_pos
    _ = rounded (2 ^ (-1074 : ℤ)) := by rw [rounded_of_nonneg hunit.le, hself]
    _ ≤ rounded (value y - value x) := rounded_mono hle
    _ = value (y - x) := (isNearest_sub hy hx).value_eq.symm

/-- The share of a part in a whole, which may be too large for a double, is between zero and
one. -/
theorem div_bounds (hx : x.isFinite) (hy : y.isNaN = false) (hzero : 0 ≤ value x)
    (hpos : 0 < value y) (hle : value x ≤ value y) :
    (x / y).isFinite ∧ 0 ≤ value (x / y) ∧ value (x / y) ≤ 1 := by
  by_cases hfinite : y.isFinite
  · have hquotient := isNearest_div hx hfinite hpos.ne'
    have hzero' := isNearest_value hasValue_zero.isNaN_eq_false
    have hone' := isNearest_value hasValue_one.isNaN_eq_false
    have hbetween := hquotient.mem_uIcc hzero' hone' (by
      rw [hasValue_zero.value_eq, hasValue_one.value_eq, Set.uIcc_of_le zero_le_one]
      exact ⟨div_nonneg hzero hpos.le, (div_le_one hpos).2 hle⟩)
    have hresult := isFinite_of_mem_uIcc hquotient.isNaN_eq_false hasValue_zero.isFinite
      hasValue_one.isFinite hbetween
    rw [hasValue_zero.value_eq, hasValue_one.value_eq, Set.uIcc_of_le zero_le_one] at hbetween
    exact ⟨hresult, hbetween⟩
  · obtain ⟨s, hs⟩ := exists_infinity hy hfinite
    obtain ⟨t, ht⟩ : ∃ t, x / y = ofParts (.zero t) := by
      have hdiv : x / y = ofParts (UnpackedFloat.div Format.binary64 (parts x) (parts y)) := rfl
      have hx' := isFiniteParts_parts hx
      rw [hdiv, hs]
      generalize parts x = u at hx'
      cases hx' with
      | zero t | finite t => exact ⟨_, rfl⟩
    have hvalue : HasValue (x / y) 0 := by
      refine ⟨?_, ?_⟩
      · rw [ht, isFinite_eq, parts_ofParts_zero]
        rfl
      · rw [ht, value, parts_ofParts_zero, valueOf]
    rw [hvalue.value_eq]
    exact ⟨hvalue.isFinite, le_rfl, zero_le_one⟩

/-- Moving from a number along a change by a share of it. -/
theorem isFinite_add_mul (hx : x.isFinite) (hy : y.isFinite) (hsum : (x + y).isFinite)
    (hp : p.isFinite) (hzero : 0 ≤ value p) (hone : value p ≤ 1) : (x + y * p).isFinite := by
  have hproduct := isNearest_mul hy hp
  have hchange : value y * value p ∈ Set.uIcc 0 (value y) := by
    rw [Set.mem_uIcc]
    rcases le_total 0 (value y) with h | h
    · exact .inl ⟨mul_nonneg h hzero, mul_le_of_le_one_right h hone⟩
    · exact .inr ⟨by nlinarith, mul_nonpos_of_nonpos_of_nonneg h hzero⟩
  have hpart := hproduct.mem_uIcc (isNearest_value hasValue_zero.isNaN_eq_false)
    (isNearest_value (isNaN_of_isFinite hy)) (by rwa [hasValue_zero.value_eq])
  have hfinite := isFinite_of_mem_uIcc hproduct.isNaN_eq_false hasValue_zero.isFinite hy hpart
  have hadd := isNearest_add hx hfinite
  refine isFinite_of_mem_uIcc hadd.isNaN_eq_false hx hsum
    (hadd.mem_uIcc (isNearest_value (isNaN_of_isFinite hx)) (isNearest_add hx hy) ?_)
  rw [hasValue_zero.value_eq] at hpart
  rw [Set.mem_uIcc] at hpart ⊢
  rcases hpart with h | h
  · exact .inl ⟨by linarith, by linarith⟩
  · exact .inr ⟨by linarith, by linarith⟩

end Binary64

end SceneLoop
