import Mathlib
import SceneLoop.Proofs.Number.Order
import SceneLoop.Proofs.Number.Rounding

/-!
# The values of doubles

A finite double is a rational number.  An infinity is given the first power of two past the range
as its value, so that all doubles but the one that is not a number are ordered by their values, and
rounding a rational number to a double is one function that keeps the order, also where it leaves
the range.

## Main definitions

* `Binary64.value` : the value of a double.
* `Binary64.rounded` : the value of the double that a number is rounded to.
* `Binary64.IsNearest` : a double that a number is rounded to.

## Main results

* `Binary64.lt_iff_value`, `Binary64.le_iff_value` : the order of doubles is that of their values.
* `Binary64.isFinite_iff_value` : the finite doubles are those within the range.
* `Binary64.rounded_mono`, `Binary64.rounded_value` : rounding keeps the order, and doubles.
* `Binary64.isNearest_roundWithAccuracy`, `Binary64.isNearest_normalize` : what is rounded and
  packed is nearest.
-/

namespace SceneLoop

open Float.Model (UnpackedFloat Format totalExponent)
open Float.Model.UnpackedFloat

namespace Binary64

/-- The first power of two that is too large for a double. -/
def limit : ℚ :=
  2 ^ (1024 : ℤ)

theorem limit_pos : 0 < limit :=
  two_zpow_pos _

theorem limit_eq : limit = 2 ^ (53 : ℤ) * 2 ^ (971 : ℤ) := by
  rw [← zpow_add₀ two_ne_zero]
  rfl

/-- A number with a sign. -/
def signed : Sign → ℚ → ℚ
  | .negative, q => -q
  | .positive, q => q

/-- The value of the parts of a double. -/
def valueOf : UnpackedFloat → ℚ
  | .notANumber => 0
  | .infinity s => signed s limit
  | .zero _ => 0
  | .finite s m e _ => signed s (m * 2 ^ e)

/-- The value of a double; an infinity counts as the first power of two past the range. -/
def value (x : Float) : ℚ :=
  valueOf (parts x)

theorem signed_apply (s : Sign) (n : ℤ) (e : ℤ) :
    ((s.apply n : ℤ) : ℚ) * 2 ^ e = signed s (n * 2 ^ e) := by
  cases s with
  | negative => simp [Sign.apply, signed]
  | positive => rfl

theorem abs_signed {q : ℚ} (h : 0 ≤ q) (s : Sign) : |signed s q| = q := by
  cases s with
  | negative => rw [signed, abs_neg, abs_of_nonneg h]
  | positive => exact abs_of_nonneg h

/-! ### Canonical numbers -/

namespace IsCanonical

variable {m n : ℕ} {e f : ℤ}

theorem value_pos (h : IsCanonical m e) : 0 < (m : ℚ) * 2 ^ e :=
  mul_pos (by exact_mod_cast h.pos) (two_zpow_pos e)

theorem value_lt (h : IsCanonical m e) : (m : ℚ) * 2 ^ e < limit := by
  have hm : (m : ℚ) < 2 ^ (53 : ℤ) := by exact_mod_cast h.mantissa_lt
  calc (m : ℚ) * 2 ^ e < 2 ^ (53 : ℤ) * 2 ^ e := mul_lt_mul_of_pos_right hm (two_zpow_pos e)
    _ = 2 ^ (53 + e) := (zpow_add₀ two_ne_zero _ _).symm
    _ ≤ limit := zpow_le_zpow_right₀ one_le_two (by have := h.exponent_le; omega)

/-- Canonical numbers with different exponents are ordered by these. -/
theorem value_lt_of_exponent_lt (hm : IsCanonical m e) (hn : IsCanonical n f) (h : e < f) :
    (m : ℚ) * 2 ^ e < n * 2 ^ f := by
  have hmin := hm.le_exponent
  have hfull : 2 ^ 52 ≤ n := hn.fills.resolve_right (by omega)
  have hlow : (m : ℚ) < 2 ^ (53 : ℤ) := by exact_mod_cast hm.mantissa_lt
  have hhigh : (2 : ℚ) ^ (52 : ℤ) ≤ n := by exact_mod_cast hfull
  calc (m : ℚ) * 2 ^ e < 2 ^ (53 : ℤ) * 2 ^ e := mul_lt_mul_of_pos_right hlow (two_zpow_pos e)
    _ = 2 ^ (53 + e) := (zpow_add₀ two_ne_zero _ _).symm
    _ ≤ 2 ^ (52 + f) := zpow_le_zpow_right₀ one_le_two (by omega)
    _ = 2 ^ (52 : ℤ) * 2 ^ f := zpow_add₀ two_ne_zero _ _
    _ ≤ n * 2 ^ f := mul_le_mul_of_nonneg_right hhigh (two_zpow_pos f).le

/-- The order of canonical numbers is that of their values. -/
theorem lt_iff_value (hm : IsCanonical m e) (hn : IsCanonical n f) :
    e < f ∨ e = f ∧ m < n ↔ (m : ℚ) * 2 ^ e < n * 2 ^ f := by
  rcases lt_trichotomy e f with h | rfl | h
  · exact iff_of_true (.inl h) (hm.value_lt_of_exponent_lt hn h)
  · rw [mul_lt_mul_iff_left₀ (two_zpow_pos e), Nat.cast_lt]
    simp
  · exact iff_of_false (by omega) (hn.value_lt_of_exponent_lt hm h).not_gt

end IsCanonical

/-! ### Order and range -/

variable {x y : Float}

theorem compare_negative_eq_lt {m n : ℕ} {e f : ℤ} (hm : 0 < m) (hn : 0 < n) :
    UnpackedFloat.compare (.finite .negative m e hm) (.finite .negative n f hn) = some .lt ↔
      f < e ∨ f = e ∧ n < m := by
  have hpositive :
      UnpackedFloat.compare (.finite .positive n f hn) (.finite .positive m e hm) = some .lt ↔
        f < e ∨ f = e ∧ n < m := compare_positive_eq_lt
  simp only [UnpackedFloat.compare, Option.some.injEq] at hpositive ⊢
  rw [← hpositive, compare_then_swap, Ordering.swap_swap]

/-- Parts whose mantissa and exponent are canonical, as those of doubles are. -/
def IsCanonicalParts (u : UnpackedFloat) : Prop :=
  ∀ ⦃s m e hm⦄, u = .finite s m e hm → IsCanonical m e

theorem isCanonicalParts_parts (x : Float) : IsCanonicalParts (parts x) :=
  fun _ _ _ _ => isCanonical_of_parts

theorem IsCanonicalParts.abs_valueOf_lt {u : UnpackedFloat} (h : IsCanonicalParts u)
    (hu : ∀ s, u ≠ .infinity s) : |valueOf u| < limit := by
  cases u with
  | notANumber | zero => simpa [valueOf] using limit_pos
  | infinity s => exact absurd rfl (hu s)
  | finite s m e hm =>
    rw [valueOf, abs_signed (h rfl).value_pos.le]
    exact (h rfl).value_lt

/-- Parts are compared by their values. -/
theorem compare_eq_lt {u v : UnpackedFloat} (hu : IsCanonicalParts u) (hv : IsCanonicalParts v)
    (hu' : u.isNaN = false) (hv' : v.isNaN = false) :
    UnpackedFloat.compare u v = some .lt ↔ valueOf u < valueOf v := by
  have hlimit := limit_pos
  -- Infinities come first in the comparison, then zeros, and then the signs of the other numbers.
  fun_cases UnpackedFloat.compare u v with
  | case1 => cases hu'
  | case2 => cases hv'
  | case3 s t =>
    cases s <;> cases t <;> simp only [valueOf, signed]
    · exact iff_of_false nofun (lt_irrefl _)
    · exact iff_of_true rfl (by linarith)
    · exact iff_of_false nofun (by linarith)
    · exact iff_of_false nofun (lt_irrefl _)
  | case4 v _ hne => exact iff_of_false nofun (abs_lt.1 (hv.abs_valueOf_lt hne)).2.not_gt
  | case5 v _ hne => exact iff_of_true rfl (abs_lt.1 (hv.abs_valueOf_lt hne)).1
  | case6 u _ hne => exact iff_of_true rfl (abs_lt.1 (hu.abs_valueOf_lt hne)).2
  | case7 u _ hne => exact iff_of_false nofun (abs_lt.1 (hu.abs_valueOf_lt hne)).1.not_gt
  | case8 => exact iff_of_false nofun (hu rfl).value_pos.not_gt
  | case9 => exact iff_of_true rfl (neg_neg_of_pos (hu rfl).value_pos)
  | case10 => exact iff_of_true rfl (hv rfl).value_pos
  | case11 => exact iff_of_false nofun (neg_neg_of_pos (hv rfl).value_pos).not_gt
  | case12 => exact iff_of_false nofun (lt_irrefl _)
  | case13 m e hm n f hn =>
    have hsizes := (hv rfl).lt_iff_value (hu rfl)
    exact (compare_negative_eq_lt hm hn).trans (hsizes.trans neg_lt_neg_iff.symm)
  | case14 => exact iff_of_true rfl ((neg_neg_of_pos (hu rfl).value_pos).trans (hv rfl).value_pos)
  | case15 =>
    exact iff_of_false nofun ((neg_neg_of_pos (hv rfl).value_pos).trans (hu rfl).value_pos).not_gt
  | case16 m e hm n f hn =>
    exact (@compare_positive_eq_lt m n e f hm hn).trans ((hu rfl).lt_iff_value (hv rfl))

/-- The order of doubles is that of their values. -/
theorem lt_iff_value (hx : x.isNaN = false) (hy : y.isNaN = false) :
    x < y ↔ value x < value y := by
  rw [isNaN_eq] at hx hy
  rw [lt_iff, compare_eq_lt (isCanonicalParts_parts x) (isCanonicalParts_parts y) hx hy]
  rfl

theorem le_iff_value (hx : x.isNaN = false) (hy : y.isNaN = false) :
    x ≤ y ↔ value x ≤ value y := by
  rw [← not_lt_iff hy hx, lt_iff_value hy hx, not_lt]

protected theorem lt_of_lt_of_le {z : Float} (h : x < y) (h' : y ≤ z) : x < z := by
  obtain ⟨hx, hy⟩ := isNaN_of_le (le_of_lt h)
  have hz := (isNaN_of_le h').2
  rw [lt_iff_value hx hy] at h
  rw [le_iff_value hy hz] at h'
  exact (lt_iff_value hx hz).2 (h.trans_le h')

protected theorem lt_of_le_of_lt {z : Float} (h : x ≤ y) (h' : y < z) : x < z := by
  obtain ⟨hy, hz⟩ := isNaN_of_le (le_of_lt h')
  have hx := (isNaN_of_le h).1
  rw [le_iff_value hx hy] at h
  rw [lt_iff_value hy hz] at h'
  exact (lt_iff_value hx hz).2 (h.trans_lt h')

/-- The finite doubles are those within the range. -/
theorem isFinite_iff_value (hx : x.isNaN = false) : x.isFinite ↔ |value x| < limit := by
  rw [isFinite_eq, value]
  rw [isNaN_eq] at hx
  have hcanonical := isCanonicalParts_parts x
  generalize parts x = u at hx hcanonical
  cases u with
  | notANumber => cases hx
  | infinity s => exact iff_of_false nofun (abs_signed limit_pos.le s).not_lt
  | zero | finite => exact iff_of_true rfl (hcanonical.abs_valueOf_lt nofun)

/-! ### Rounding -/

/-- The value of the double that a number is rounded to. -/
def rounded (q : ℚ) : ℚ :=
  if 0 ≤ q then min (roundedSize q) limit else -min (roundedSize (-q)) limit

variable {q r : ℚ}

theorem rounded_of_nonneg (h : 0 ≤ q) : rounded q = min (roundedSize q) limit :=
  if_pos h

theorem rounded_zero : rounded 0 = 0 := by
  rw [rounded_of_nonneg le_rfl, roundedSize_zero, min_eq_left limit_pos.le]

theorem rounded_neg (q : ℚ) : rounded (-q) = -rounded q := by
  rcases lt_trichotomy q 0 with h | rfl | h
  · rw [rounded, rounded, if_pos (neg_nonneg.2 h.le), if_neg h.not_ge, neg_neg]
  · simp [rounded_zero]
  · rw [rounded, rounded, if_neg (by linarith), if_pos h.le, neg_neg]

theorem rounded_signed (h : 0 ≤ q) (s : Sign) :
    rounded (signed s q) = signed s (min (roundedSize q) limit) := by
  cases s with
  | negative => rw [signed, signed, rounded_neg, rounded_of_nonneg h]
  | positive => exact rounded_of_nonneg h

theorem rounded_nonneg (h : 0 ≤ q) : 0 ≤ rounded q := by
  rw [rounded_of_nonneg h]
  exact le_min (roundedSize_nonneg h) limit_pos.le

theorem abs_rounded (q : ℚ) : |rounded q| = min (roundedSize |q|) limit := by
  rcases le_total 0 q with h | h
  · rw [abs_of_nonneg (rounded_nonneg h), rounded_of_nonneg h, abs_of_nonneg h]
  · have hneg := neg_nonneg.2 h
    rw [← abs_neg, ← rounded_neg, abs_of_nonneg (rounded_nonneg hneg), rounded_of_nonneg hneg,
      abs_of_nonpos h]

/-- Rounding to a double keeps the order. -/
theorem rounded_mono : Monotone rounded := by
  have hpositive {q r : ℚ} (hq : 0 ≤ q) (h : q ≤ r) : rounded q ≤ rounded r := by
    rw [rounded_of_nonneg hq, rounded_of_nonneg (hq.trans h)]
    exact min_le_min_right _ (roundedSize_mono hq h)
  intro q r h
  rcases le_total 0 q with hq | hq
  · exact hpositive hq h
  · have hneg := rounded_nonneg (neg_nonneg.2 hq)
    rw [rounded_neg] at hneg
    rcases le_total 0 r with hr | hr
    · exact (neg_nonneg.1 hneg).trans (rounded_nonneg hr)
    · have hle := hpositive (neg_nonneg.2 hr) (neg_le_neg h)
      rwa [rounded_neg, rounded_neg, neg_le_neg_iff] at hle

theorem roundedSize_limit : roundedSize limit = limit := by
  have hlog : Int.log 2 limit = 1024 := Int.log_zpow one_lt_two 1024
  refine roundedSize_of_eq (n := 1) (k := 1024) ?_ (by rw [Int.cast_one, one_mul, limit])
  rw [lastPlace, hlog]
  decide

theorem IsCanonical.roundedSize {m : ℕ} {e : ℤ} (h : IsCanonical m e) :
    Binary64.roundedSize (m * 2 ^ e) = m * 2 ^ e := by
  have hlog := log_mul_two_zpow h.pos e
  have hlt := h.log2_lt
  have hmin := h.le_exponent
  refine roundedSize_of_eq (n := m) (k := e) ?_ (by rw [Int.cast_natCast])
  rw [lastPlace, hlog]
  omega

/-- Rounding leaves doubles alone. -/
theorem rounded_value (x : Float) : rounded (value x) = value x := by
  rw [value]
  cases hpx : parts x with
  | notANumber | zero => exact rounded_zero
  | infinity s =>
    rw [valueOf, rounded_signed limit_pos.le, roundedSize_limit, min_self]
  | finite s m e hm =>
    have hcanonical := isCanonical_of_parts hpx
    rw [valueOf, rounded_signed hcanonical.value_pos.le, hcanonical.roundedSize,
      min_eq_left hcanonical.value_lt.le]

/-! ### The end of the range -/

theorem abs_value_le_limit (x : Float) : |value x| ≤ limit := by
  rw [value]
  have hcanonical := isCanonicalParts_parts x
  generalize parts x = u at hcanonical
  cases u with
  | infinity s => exact (abs_signed limit_pos.le s).le
  | notANumber | zero | finite => exact (hcanonical.abs_valueOf_lt nofun).le

/-- A finite double is at least one last digit below the end of the range. -/
theorem abs_value_le (hx : x.isFinite) : |value x| ≤ limit - 2 ^ (971 : ℤ) := by
  have hpos := two_zpow_pos 971
  rw [isFinite_eq] at hx
  rw [value]
  cases hpx : parts x with
  | notANumber | infinity => simp [hpx, UnpackedFloat.isFinite] at hx
  | zero s =>
    rw [valueOf, abs_zero, limit_eq, ← sub_one_mul]
    exact mul_nonneg (by norm_num) hpos.le
  | finite s m e hm =>
    have hcanonical := isCanonical_of_parts hpx
    have hmantissa : (m : ℚ) ≤ 2 ^ (53 : ℤ) - 1 := by
      have hlt : m + 1 ≤ 2 ^ 53 := hcanonical.mantissa_lt
      have hlt' : (m : ℚ) + 1 ≤ 2 ^ (53 : ℤ) := by exact_mod_cast hlt
      linarith
    have hexponent : (2 : ℚ) ^ e ≤ 2 ^ (971 : ℤ) :=
      zpow_le_zpow_right₀ one_le_two hcanonical.exponent_le
    calc |valueOf (.finite s m e hm)| = m * 2 ^ e := abs_signed hcanonical.value_pos.le s
      _ ≤ (2 ^ (53 : ℤ) - 1) * 2 ^ (971 : ℤ) :=
        mul_le_mul hmantissa hexponent (two_zpow_pos e).le (by norm_num)
      _ = limit - 2 ^ (971 : ℤ) := by rw [limit_eq, sub_one_mul]

theorem roundedSize_lt_limit (hq : 0 ≤ q) (h : q < limit - 2 ^ (970 : ℤ)) :
    roundedSize q < limit := by
  rcases hq.eq_or_lt with rfl | hpos
  · rw [roundedSize_zero]
    exact limit_pos
  have hplace : lastPlace q ≤ 971 := by
    have hlt : q < limit := h.trans (sub_lt_self limit (two_zpow_pos 970))
    rw [limit, ← Nat.cast_ofNat, Int.lt_zpow_iff_log_lt one_lt_two hpos] at hlt
    unfold lastPlace
    omega
  have hunit := two_zpow_pos (lastPlace q)
  rcases hplace.lt_or_eq with hlt | heq
  · have hle : (nearestEven (q / 2 ^ lastPlace q) : ℚ) ≤ 2 ^ (53 : ℤ) := by
      exact_mod_cast (nearestEven_bounds hpos).1
    calc roundedSize q ≤ 2 ^ (53 : ℤ) * 2 ^ lastPlace q := mul_le_mul_of_nonneg_right hle hunit.le
      _ = 2 ^ (53 + lastPlace q) := (zpow_add₀ two_ne_zero _ _).symm
      _ < limit := zpow_lt_zpow_right₀ one_lt_two (by omega)
  · -- In units of the last digit the number is less than a half past the largest mantissa.
    have hhalf : (2 : ℚ) ^ (971 : ℤ) = 2 * 2 ^ (970 : ℤ) := by
      rw [← zpow_one_add₀ two_ne_zero]
      rfl
    have hle : nearestEven (q / 2 ^ lastPlace q) ≤ 2 ^ 53 - 1 := by
      refine nearestEven_le ((div_lt_iff₀ hunit).2 ?_)
      rw [limit_eq, hhalf] at h
      rw [heq, hhalf]
      generalize (2 : ℚ) ^ (970 : ℤ) = half at h
      norm_num at h ⊢
      linarith
    have hle' : (nearestEven (q / 2 ^ lastPlace q) : ℚ) ≤ 2 ^ (53 : ℤ) - 1 := by exact_mod_cast hle
    rw [heq] at hle' hunit
    calc roundedSize q ≤ (2 ^ (53 : ℤ) - 1) * 2 ^ (971 : ℤ) := by
          rw [roundedSize, heq]
          exact mul_le_mul_of_nonneg_right hle' hunit.le
      _ < limit := by
          rw [limit_eq, sub_one_mul]
          exact sub_lt_self _ hunit

/-! ### Nearest doubles -/

/-- A double that a number is rounded to. -/
structure IsNearest (x : Float) (q : ℚ) : Prop where
  isNaN_eq_false : x.isNaN = false
  value_eq : value x = rounded q

namespace IsNearest

theorem value_le (hx : IsNearest x q) (hy : IsNearest y r) (h : q ≤ r) : value x ≤ value y := by
  rw [hx.value_eq, hy.value_eq]
  exact rounded_mono h

/-- A number that is less than half a last digit past the largest double is not rounded to an
infinity. -/
theorem isFinite (hx : IsNearest x q) (h : |q| < limit - 2 ^ (970 : ℤ)) : x.isFinite := by
  rw [isFinite_iff_value hx.isNaN_eq_false, hx.value_eq, abs_rounded]
  exact (min_le_left _ _).trans_lt (roundedSize_lt_limit (abs_nonneg q) h)

end IsNearest

theorem isNearest_value (hx : x.isNaN = false) : IsNearest x (value x) :=
  ⟨hx, (rounded_value x).symm⟩

theorem isNearest_zero (s : Sign) : IsNearest (ofParts (.zero s)) 0 := by
  refine ⟨?_, ?_⟩
  · rw [isNaN_eq, parts_ofParts_zero]
    rfl
  · rw [value, parts_ofParts_zero, rounded_zero]
    rfl

theorem parts_ofParts_infinity (s : Sign) : parts (ofParts (.infinity s)) = .infinity s := by
  cases s <;> rfl

/-- A number past the range is packed as an infinity. -/
theorem ofParts_finite_of_lt {n : ℕ} {f : ℤ} (hn : 0 < n) (h : 971 < f) (s : Sign) :
    ofParts (.finite s n f hn) = ofParts (.infinity s) := by
  have htop : 2 ^ 11 ≤ (f + 1023 + 52).toNat + 1 := by omega
  have hpack : pack Format.binary64 (.finite s n f hn) = pack Format.binary64 (.infinity s) :=
    if_pos htop
  simp only [ofParts, Float.Model.pack, hpack]

/-- Where rounding leaves the range, an infinity is packed. -/
theorem IsRounded.isNearest {n : ℕ} {f : ℤ} (h : IsRounded n f) (hn : 0 < n) {q : ℚ} (hq : 0 ≤ q)
    (heq : (n : ℚ) * 2 ^ f = roundedSize q) (s : Sign) :
    IsNearest (ofParts (.finite s n f hn)) (signed s q) := by
  rcases le_or_gt f 971 with hle | hlt
  · have hcanonical : IsCanonical n f := ⟨hn, h.mantissa_lt, h.le_exponent, hle, h.fills⟩
    refine ⟨?_, ?_⟩
    · rw [isNaN_eq, parts_ofParts_of_isCanonical hcanonical]
      rfl
    · rw [value, parts_ofParts_of_isCanonical hcanonical, valueOf, rounded_signed hq, ← heq,
        min_eq_left hcanonical.value_lt.le]
  · have hfull : (2 : ℚ) ^ (52 : ℤ) ≤ n := by exact_mod_cast h.fills.resolve_right (by omega)
    have hlimit : limit ≤ roundedSize q := by
      calc limit ≤ 2 ^ (52 + f) := zpow_le_zpow_right₀ one_le_two (by omega)
        _ = 2 ^ (52 : ℤ) * 2 ^ f := zpow_add₀ two_ne_zero _ _
        _ ≤ n * 2 ^ f := mul_le_mul_of_nonneg_right hfull (two_zpow_pos f).le
        _ = roundedSize q := heq
    rw [ofParts_finite_of_lt hn hlt]
    refine ⟨?_, ?_⟩
    · rw [isNaN_eq, parts_ofParts_infinity]
      rfl
    · rw [value, parts_ofParts_infinity, valueOf, rounded_signed hq, min_eq_right hlimit]

theorem isNearest_roundWithAccuracy {m : ℕ} {e : ℤ} {acc : Accuracy} (hq : 0 < q)
    (h : StandsFor (.ofMantissaAndAccuracy m acc) (q / 2 ^ e)) (he : e ≤ lastPlace q) (s : Sign) :
    IsNearest (ofParts (roundWithAccuracy Format.binary64 s m e acc)) (signed s q) := by
  obtain ⟨n, f, hn, hvalue, heq⟩ := roundWithAccuracy_eq hq h he s
  rw [heq]
  split
  · next hzero =>
    have hrounded : rounded (signed s q) = rounded 0 := by
      rw [rounded_signed hq.le, ← hvalue, hzero, Nat.cast_zero, zero_mul, min_eq_left limit_pos.le,
        rounded_zero]
      cases s <;> simp [signed]
    obtain ⟨hnumber, hvalue⟩ := isNearest_zero s
    exact ⟨hnumber, hvalue.trans hrounded.symm⟩
  · exact hn.isNearest _ hq.le hvalue s

/-- A mantissa with nothing after it stands for itself. -/
theorem standsFor_exact {m : ℕ} (h : q = m) : StandsFor (.ofMantissaAndAccuracy m .exact) q :=
  h

theorem isNearest_round {m : ℕ} (hm : 0 < m) (e : ℤ) (s : Sign) :
    IsNearest (ofParts (UnpackedFloat.round Format.binary64 s m e)) (signed s (m * 2 ^ e)) := by
  have hq : 0 < (m : ℚ) * 2 ^ e := mul_pos (by exact_mod_cast hm) (two_zpow_pos e)
  have htarget :
      Format.binary64.targetExponent (totalExponent m e) = lastPlace ((m : ℚ) * 2 ^ e) := by
    rw [lastPlace, log_mul_two_zpow hm]
    change max ((m.log2 : ℤ) + 1 + e - 53) (-1074) = _
    omega
  simp only [UnpackedFloat.round, htarget, decreaseExponent]
  refine isNearest_roundWithAccuracy hq (standsFor_exact ?_) (by omega) s
  rw [Nat.shiftLeft_eq, zpow_sub₀ two_ne_zero, zpow_natCast]
  have hpos := two_zpow_pos e
  push_cast
  field_simp

theorem isNearest_normalize (n e : ℤ) (s : Sign) :
    IsNearest (ofParts (UnpackedFloat.normalize Format.binary64 n e s)) (n * 2 ^ e) := by
  rw [UnpackedFloat.normalize]
  split
  · next h =>
    have hneg : n < 0 := Int.compare_eq_lt.1 h
    have hround := isNearest_round (m := (-n).toNat) (by omega) e .negative
    have hcast : (((-n).toNat : ℕ) : ℚ) = -n := by
      rw [← Int.cast_natCast, Int.toNat_of_nonneg (by omega), Int.cast_neg]
    rwa [signed, hcast, neg_mul, neg_neg] at hround
  · next h =>
    rw [Int.compare_eq_eq.1 h, Int.cast_zero, zero_mul]
    exact isNearest_zero s
  · next h =>
    have hpos : 0 < n := Int.compare_eq_gt.1 h
    have hround := isNearest_round (m := n.toNat) (by omega) e .positive
    have hcast : ((n.toNat : ℕ) : ℚ) = n := by
      rw [← Int.cast_natCast, Int.toNat_of_nonneg hpos.le]
    rwa [signed, hcast] at hround

end Binary64

end SceneLoop
