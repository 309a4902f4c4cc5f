import Mathlib
import SceneLoop.Proofs.Number.Value

/-!
# Arithmetic on doubles

The sum, the difference, the product and the quotient of two finite doubles are the exact results,
rounded: each operation works out enough digits of the exact result, and rounding keeps the order,
so that what holds of rational numbers between certain bounds holds of doubles between these bounds.

## Main definitions

* `Binary64.IsFiniteParts` : the parts of finite doubles.

## Main results

* `Binary64.isNearest_add`, `Binary64.isNearest_sub`, `Binary64.isNearest_mul`,
  `Binary64.isNearest_div` : the operations are exact up to rounding.
* `Binary64.standsFor_div` : the digits of a quotient and whether a remainder follows them.
-/

namespace SceneLoop

open Float.Model (UnpackedFloat Format totalExponent)
open Float.Model.UnpackedFloat

namespace Binary64

/-- The parts of finite doubles. -/
inductive IsFiniteParts : UnpackedFloat → Prop
  | zero (s : Sign) : IsFiniteParts (.zero s)
  | finite {m : ℕ} {e : ℤ} (s : Sign) (h : IsCanonical m e) :
      IsFiniteParts (.finite s m e h.pos)

variable {x y : Float} {u v : UnpackedFloat}

theorem isFiniteParts_parts (h : x.isFinite) : IsFiniteParts (parts x) := by
  rw [isFinite_eq] at h
  cases hx : parts x with
  | notANumber | infinity => simp [hx, UnpackedFloat.isFinite] at h
  | zero s => exact .zero s
  | finite s m e hm => exact .finite s (isCanonical_of_parts hx)

namespace IsFiniteParts

theorem parts_ofParts (h : IsFiniteParts u) : parts (ofParts u) = u := by
  cases h with
  | zero s => exact parts_ofParts_zero s
  | finite s h => exact parts_ofParts_of_isCanonical h s

theorem isNearest (h : IsFiniteParts u) : IsNearest (ofParts u) (valueOf u) := by
  have hnumber : (ofParts u).isNaN = false := by
    rw [isNaN_eq, h.parts_ofParts]
    cases h <;> rfl
  have hvalue := isNearest_value hnumber
  rwa [value, h.parts_ofParts] at hvalue

theorem neg (h : IsFiniteParts u) : IsFiniteParts u.neg := by
  cases h with
  | zero s => exact .zero (-s)
  | finite s h => exact .finite (-s) h

end IsFiniteParts

theorem signed_neg (s : Sign) (q : ℚ) : signed (-s) q = -signed s q := by
  cases s with
  | negative => exact (neg_neg q).symm
  | positive => rfl

theorem valueOf_neg (u : UnpackedFloat) : valueOf u.neg = -valueOf u := by
  cases u with
  | notANumber | zero => exact neg_zero.symm
  | infinity s | finite s => exact signed_neg s _

/-! ### Sums and differences -/

/-- Moving the digits of a mantissa up does not change its number. -/
theorem shiftLeft_mul_two_zpow (m : ℕ) {e f : ℤ} (h : f ≤ e) :
    ((m <<< (e - f).toNat : ℕ) : ℚ) * 2 ^ f = m * 2 ^ e := by
  obtain ⟨k, rfl⟩ : ∃ k : ℕ, e = f + k := ⟨(e - f).toNat, by omega⟩
  have hk : (f + k - f).toNat = k := by omega
  rw [hk, Nat.shiftLeft_eq, zpow_add₀ two_ne_zero, zpow_natCast]
  push_cast
  ring

theorem isNearest_ofParts_add (hu : IsFiniteParts u) (hv : IsFiniteParts v) :
    IsNearest (ofParts (UnpackedFloat.add Format.binary64 u v)) (valueOf u + valueOf v) := by
  cases hu with
  | zero s =>
    cases hv with
    | zero t =>
      rw [UnpackedFloat.add, valueOf, valueOf, add_zero]
      split <;> exact isNearest_zero _
    | finite t h =>
      rw [valueOf, zero_add]
      exact (IsFiniteParts.finite t h).isNearest
  | @finite m e s h =>
    cases hv with
    | zero t =>
      rw [valueOf, valueOf, add_zero]
      exact (IsFiniteParts.finite s h).isNearest
    | @finite n f t h' =>
      have hsum := isNearest_normalize (s.apply (m <<< (e - min e f).toNat : ℕ) +
        t.apply (n <<< (f - min e f).toNat : ℕ)) (min e f) .positive
      rwa [Int.cast_add, add_mul, signed_apply, signed_apply, Int.cast_natCast, Int.cast_natCast,
        shiftLeft_mul_two_zpow m (min_le_left e f),
        shiftLeft_mul_two_zpow n (min_le_right e f)] at hsum

theorem isNearest_add (hx : x.isFinite) (hy : y.isFinite) :
    IsNearest (x + y) (value x + value y) :=
  isNearest_ofParts_add (isFiniteParts_parts hx) (isFiniteParts_parts hy)

theorem sub_eq_add (hu : IsFiniteParts u) (hv : IsFiniteParts v) :
    UnpackedFloat.sub Format.binary64 u v = UnpackedFloat.add Format.binary64 u v.neg := by
  cases hu with
  | zero s =>
    cases hv with
    | zero | finite => rfl
  | finite s h =>
    cases hv with
    | zero => rfl
    | finite t h' =>
      cases t with
      | negative =>
        simp only [UnpackedFloat.sub, UnpackedFloat.add, UnpackedFloat.neg, Sign.apply,
          sub_neg_eq_add]
      | positive => rfl

theorem isNearest_sub (hx : x.isFinite) (hy : y.isFinite) :
    IsNearest (x - y) (value x - value y) := by
  have hy' := isFiniteParts_parts hy
  have hsum := isNearest_ofParts_add (isFiniteParts_parts hx) hy'.neg
  rwa [valueOf_neg, ← sub_eq_add_neg, ← sub_eq_add (isFiniteParts_parts hx) hy'] at hsum

/-! ### Products -/

theorem signed_mul (s t : Sign) (q r : ℚ) : signed (s * t) (q * r) = signed s q * signed t r := by
  cases s <;> cases t
  · exact (neg_mul_neg q r).symm
  · exact (neg_mul q r).symm
  · exact (mul_neg q r).symm
  · rfl

/-- A product has no fewer digits than a double. -/
theorem IsCanonical.add_le_lastPlace {m n : ℕ} {e f : ℤ} (hm : IsCanonical m e)
    (hn : IsCanonical n f) : e + f ≤ lastPlace ((m * 2 ^ e) * (n * 2 ^ f)) := by
  have hproduct : (m : ℚ) * 2 ^ e * (n * 2 ^ f) = m * n * 2 ^ (e + f) := by
    rw [zpow_add₀ two_ne_zero]
    ring
  have hone : (1 : ℚ) ≤ m := by exact_mod_cast hm.pos
  have hone' : (1 : ℚ) ≤ n := by exact_mod_cast hn.pos
  have hfull (h : (2 : ℚ) ^ (52 : ℤ) ≤ m * n) : 2 ^ (e + f + 52) ≤ (m : ℚ) * n * 2 ^ (e + f) := by
    rw [add_comm (e + f), zpow_add₀ two_ne_zero]
    exact mul_le_mul_of_nonneg_right h (two_zpow_pos _).le
  refine le_lastPlace (mul_pos hm.value_pos hn.value_pos) ?_
  rw [hproduct]
  rcases hm.fills with hfills | rfl
  · have hfills' : (2 : ℚ) ^ (52 : ℤ) ≤ m := by exact_mod_cast hfills
    exact .inr (hfull (by nlinarith))
  · rcases hn.fills with hfills | rfl
    · have hfills' : (2 : ℚ) ^ (52 : ℤ) ≤ n := by exact_mod_cast hfills
      exact .inr (hfull (by nlinarith))
    · exact .inl (by decide)

theorem isNearest_ofParts_mul (hu : IsFiniteParts u) (hv : IsFiniteParts v) :
    IsNearest (ofParts (UnpackedFloat.mul Format.binary64 u v)) (valueOf u * valueOf v) := by
  cases hu with
  | zero s =>
    cases hv with
    | zero t | finite t =>
      rw [UnpackedFloat.mul, valueOf, zero_mul]
      exact isNearest_zero _
  | @finite m e s hm =>
    cases hv with
    | zero t =>
      rw [UnpackedFloat.mul, valueOf, valueOf, mul_zero]
      exact isNearest_zero _
    | @finite n f t hn =>
      rw [valueOf, valueOf, ← signed_mul]
      refine isNearest_roundWithAccuracy (mul_pos hm.value_pos hn.value_pos) (standsFor_exact ?_)
        (hm.add_le_lastPlace hn) (s * t)
      rw [zpow_add₀ two_ne_zero]
      have hpos := two_zpow_pos e
      have hpos' := two_zpow_pos f
      push_cast
      field_simp

theorem isNearest_mul (hx : x.isFinite) (hy : y.isFinite) :
    IsNearest (x * y) (value x * value y) :=
  isNearest_ofParts_mul (isFiniteParts_parts hx) (isFiniteParts_parts hy)

/-! ### Quotients -/

theorem signed_div (s t : Sign) (q r : ℚ) : signed (s / t) (q / r) = signed s q / signed t r := by
  cases s <;> cases t
  · exact (neg_div_neg_eq q r).symm
  · exact (neg_div r q).symm
  · exact (div_neg q).symm
  · rfl

/-- The quotient and the remainder of two mantissas stand for their ratio. -/
theorem standsFor_div (m : ℕ) {n : ℕ} (hn : 0 < n) :
    StandsFor (.ofMantissaAndAccuracy (m / n) (accuracyOfFraction (m % n) n)) ((m : ℚ) / n) := by
  have hpos : (0 : ℚ) < n := by exact_mod_cast hn
  have hratio : (m : ℚ) / n = (m / n : ℕ) + ((m % n : ℕ) : ℚ) / n := by
    rw [div_eq_iff hpos.ne', add_mul, div_mul_cancel₀ _ hpos.ne', mul_comm]
    exact_mod_cast (Nat.div_add_mod m n).symm
  have hlt : ((m % n : ℕ) : ℚ) / n < 1 := by
    rw [div_lt_one hpos]
    exact_mod_cast Nat.mod_lt m hn
  rw [hratio, accuracyOfFraction]
  split
  · next hzero => rw [hzero, Nat.cast_zero, zero_div, add_zero]; rfl
  · next hzero =>
    have hrest : 0 < ((m % n : ℕ) : ℚ) / n :=
      div_pos (by exact_mod_cast Nat.pos_of_ne_zero hzero) hpos
    rcases lt_trichotomy (2 * (m % n)) n with h | h | h
    · have hhalf : ((m % n : ℕ) : ℚ) / n < 1 / 2 := by
        rw [div_lt_div_iff₀ hpos two_pos]
        exact_mod_cast (by omega : m % n * 2 < 1 * n)
      rw [Nat.compare_eq_lt.2 h]
      exact ⟨by linarith, by linarith⟩
    · have hhalf : ((m % n : ℕ) : ℚ) / n = 1 / 2 := by
        rw [div_eq_div_iff hpos.ne' two_ne_zero]
        exact_mod_cast (by omega : m % n * 2 = 1 * n)
      rw [Nat.compare_eq_eq.2 h, hhalf]
      rfl
    · have hhalf : 1 / 2 < ((m % n : ℕ) : ℚ) / n := by
        rw [div_lt_div_iff₀ two_pos hpos]
        exact_mod_cast (by omega : 1 * n < m % n * 2)
      rw [Nat.compare_eq_gt.2 h]
      exact ⟨by linarith, by linarith⟩

/-- The digits of a quotient that are worked out, down to some place. -/
theorem standsFor_quotient (m : ℕ) {n : ℕ} (hn : 0 < n) (e f k : ℤ) :
    StandsFor (.ofMantissaAndAccuracy (m <<< (e - f - min (e - f) k).toNat / n)
        (accuracyOfFraction (m <<< (e - f - min (e - f) k).toNat % n) n))
      (m * 2 ^ e / (n * 2 ^ f) / 2 ^ min (e - f) k) := by
  have hratio : ((m <<< (e - f - min (e - f) k).toNat : ℕ) : ℚ) / n =
      m * 2 ^ e / (n * 2 ^ f) / 2 ^ min (e - f) k := by
    have hshift := shiftLeft_mul_two_zpow m (min_le_left (e - f) k)
    have hpos := two_zpow_pos (min (e - f) k)
    have hpos' := two_zpow_pos f
    have hn' : (0 : ℚ) < n := by exact_mod_cast hn
    rw [zpow_sub₀ two_ne_zero] at hshift
    field_simp at hshift ⊢
    exact hshift
  rw [← hratio]
  exact standsFor_div _ hn

/-- The digits of a quotient that are worked out reach down to the last digit of a double. -/
theorem IsCanonical.targetExponent_div_le_lastPlace {m n : ℕ} {e f : ℤ} (hm : IsCanonical m e)
    (hn : IsCanonical n f) :
    Format.binary64.targetExponent (totalExponent m e - totalExponent n f) ≤
      lastPlace (m * 2 ^ e / (n * 2 ^ f)) := by
  rw [← lastPlace_eq]
  exact Binary.targetExponent_div_le_lastPlace hm.pos hn.pos

theorem isNearest_ofParts_div (hu : IsFiniteParts u) (hv : IsFiniteParts v) (h : valueOf v ≠ 0) :
    IsNearest (ofParts (UnpackedFloat.div Format.binary64 u v)) (valueOf u / valueOf v) := by
  cases hv with
  | zero t => exact absurd rfl h
  | @finite n f t hn =>
    cases hu with
    | zero s =>
      rw [UnpackedFloat.div, valueOf, zero_div]
      exact isNearest_zero _
    | @finite m e s hm =>
      rw [valueOf, valueOf, ← signed_div]
      have hplace := hm.targetExponent_div_le_lastPlace hn
      simp only [UnpackedFloat.div, divCore]
      generalize Format.binary64.targetExponent (totalExponent m e - totalExponent n f) = k
        at hplace
      exact isNearest_roundWithAccuracy (div_pos hm.value_pos hn.value_pos)
        (standsFor_quotient m hn.pos e f k) ((min_le_right _ k).trans hplace) (s / t)

theorem isNearest_div (hx : x.isFinite) (hy : y.isFinite) (h : value y ≠ 0) :
    IsNearest (x / y) (value x / value y) :=
  isNearest_ofParts_div (isFiniteParts_parts hx) (isFiniteParts_parts hy) h

end Binary64

end SceneLoop
