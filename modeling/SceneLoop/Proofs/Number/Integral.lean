import Mathlib
import SceneLoop.Proofs.Number.Arithmetic
import SceneLoop.Proofs.Number.Undefined

/-!
# Whole numbers among doubles

The largest whole number that is not above a double is a double too, and it is found exactly.  What
is left of a double as a word of 32 bits, the larger of two doubles and the product with a positive
factor all keep the order, also where infinities are among them.

## Main definitions

* `Binary64.HasValue` : a finite double and its value.

## Main results

* `Binary64.hasValue_ofNat` : natural numbers with few digits are doubles.
* `Binary64.hasValue_floor`, `Binary64.floorWord_eq` : the largest whole number that is not above a
  double, as a double and as a word of 64 bits.
* `Binary64.value_larger`, `Binary64.value_mul_le`, `Binary64.value_larger_mul` : the larger of two
  numbers, and products.
* `Binary64.toNat_toUInt32_le_iff` : when a word of 32 bits is at most some number.
-/

namespace SceneLoop

open Float.Model (UnpackedFloat Format totalExponent)
open Float.Model.UnpackedFloat

namespace Binary64

/-- A finite double that is equal to a number. -/
structure HasValue (x : Float) (q : ℚ) : Prop where
  isFinite : x.isFinite
  value_eq : value x = q

variable {x y c : Float} {q : ℚ}

theorem HasValue.isNaN_eq_false (h : HasValue x q) : x.isNaN = false :=
  isNaN_of_isFinite h.isFinite

theorem hasValue_of_parts {s : Sign} {m : ℕ} {e : ℤ} {hm : 0 < m}
    (h : parts x = .finite s m e hm) : HasValue x (signed s (m * 2 ^ e)) := by
  refine ⟨?_, ?_⟩
  · rw [isFinite_eq, h]
    rfl
  · rw [value, h, valueOf]

theorem hasValue_zero : HasValue 0 0 :=
  ⟨by decide, rfl⟩

theorem HasValue.neg (h : HasValue x q) : HasValue (-x) (-q) := by
  have hparts : parts (-x) = (parts x).neg := (isFiniteParts_parts h.isFinite).neg.parts_ofParts
  refine ⟨?_, ?_⟩
  · have hx := h.isFinite
    rw [isFinite_eq] at hx ⊢
    rw [hparts]
    cases hpx : parts x <;> simp_all [UnpackedFloat.neg, UnpackedFloat.isFinite]
  · rw [value, hparts, valueOf_neg, ← h.value_eq, value]

/-! ### Natural numbers -/

/-- A natural number with at most 53 digits is a double. -/
theorem hasValue_ofNat {n : ℕ} (h : n < 2 ^ 53) : HasValue (Float.ofNat n) n := by
  rcases Nat.eq_zero_or_pos n with rfl | hpos
  · exact hasValue_zero
  · have hlog : n.log2 ≤ 52 := Nat.le_of_lt_succ ((Nat.log2_lt (Nat.ne_of_gt hpos)).2 h)
    have hvalue := hasValue_of_parts (parts_ofNat_of_lt hpos h)
    have heq : ((n * 2 ^ (52 - n.log2) : ℕ) : ℚ) * 2 ^ ((n.log2 : ℤ) - 52) = n := by
      have hexponent : (n.log2 : ℤ) - 52 = -((52 - n.log2 : ℕ) : ℤ) := by omega
      rw [hexponent, zpow_neg, zpow_natCast]
      push_cast
      field_simp
    rwa [signed, heq] at hvalue

theorem hasValue_one : HasValue 1 1 := by
  exact_mod_cast hasValue_ofNat (n := 1) (by decide)

/-- A natural number with more digits is a double if only zeros follow the 53rd. -/
theorem hasValue_ofNat_of_isNormal {m k : ℕ} (h : IsNormal m (k + 1 : ℕ)) :
    HasValue (Float.ofNat (m * 2 ^ (k + 1))) (m * 2 ^ (k + 1) : ℕ) := by
  have hvalue := hasValue_of_parts (parts_ofNat_of_isNormal h)
  rw [signed, zpow_natCast] at hvalue
  exact_mod_cast hvalue

theorem hasValue_ofInt {z : ℤ} (h : HasValue (Float.ofNat z.natAbs) z.natAbs) :
    HasValue (Float.ofInt z) z := by
  cases z with
  | ofNat n => exact_mod_cast h
  | negSucc n =>
    rw [Int.cast_negSucc]
    exact h.neg

/-! ### The floor -/

/-- A double without digits after the point is a whole number. -/
theorem IsCanonical.hasValue_ofNat_mul {m k : ℕ} (h : IsCanonical m k) :
    HasValue (Float.ofNat (m * 2 ^ k)) (m * 2 ^ k : ℕ) := by
  cases k with
  | zero =>
    have hlt := h.mantissa_lt
    exact hasValue_ofNat (by omega)
  | succ k =>
    have hfills : 2 ^ 52 ≤ m := h.fills.resolve_right (by omega)
    exact hasValue_ofNat_of_isNormal ⟨hfills, h.mantissa_lt, h.le_exponent, h.exponent_le⟩

theorem natAbs_apply (s : Sign) (n : ℕ) : (s.apply n).natAbs = n := by
  cases s with
  | negative => exact Int.natAbs_neg n
  | positive => rfl

/-- Leaving out the digits after the point gives the largest whole number that is not above. -/
theorem floorOf_eq_floor (s : Sign) (m : ℕ) (e : ℤ) :
    Binary.floorOf s m e = ⌊signed s (m * 2 ^ e)⌋ := by
  rw [← Int.cast_natCast (n := m), ← signed_apply]
  cases e with
  | ofNat k =>
    have hwhole : ((s.apply m : ℤ) : ℚ) * 2 ^ Int.ofNat k = (s.apply m * 2 ^ k : ℤ) := by
      push_cast
      rfl
    rw [hwhole, Int.floor_intCast, Binary.floorOf]
  | negSucc k =>
    rw [Binary.floorOf, zpow_negSucc, ← div_eq_mul_inv, Int.shiftRight_eq_div_pow]
    exact_mod_cast (Rat.floor_intCast_div_natCast (s.apply m) (2 ^ (k + 1))).symm

/-- The largest whole number that is not above a double is a double. -/
theorem hasValue_floor (h : x.isFinite) : HasValue (floor x) ⌊value x⌋ := by
  have hx := isFiniteParts_parts h
  rw [floor, value]
  generalize hpx : parts x = u at hx
  cases hx with
  | zero s =>
    rw [valueOf, Int.floor_zero, Int.cast_zero]
    exact ⟨h, by rw [value, hpx, valueOf]⟩
  | @finite m e s hm =>
    rw [valueOf, ← floorOf_eq_floor]
    refine hasValue_ofInt ?_
    cases e with
    | ofNat k =>
      have habs : (Binary.floorOf s m (.ofNat k)).natAbs = m * 2 ^ k := by
        rw [Binary.floorOf, Int.natAbs_mul, natAbs_apply, Int.natAbs_pow]
        rfl
      rw [habs]
      exact hm.hasValue_ofNat_mul
    | negSucc k =>
      have habs : (Binary.floorOf s m (.negSucc k)).natAbs < 2 ^ 53 := by
        have hlt := hm.mantissa_lt
        have hle := Int.natAbs_ediv_le_natAbs (s.apply m) (2 ^ (k + 1) : ℕ)
        rw [natAbs_apply] at hle
        rw [Binary.floorOf, Int.shiftRight_eq_div_pow]
        omega
      exact hasValue_ofNat habs

/-- The floor of a double as a word is the integer that is closest to it in the range of words. -/
theorem floorWord_eq (h : x.isFinite) : floorWord x = Binary.toWord64 ⌊value x⌋ := by
  have hx := isFiniteParts_parts h
  rw [floorWord, value]
  generalize parts x = u at hx
  cases hx with
  | zero s => rw [valueOf, Int.floor_zero]; rfl
  | finite s hm => rw [valueOf, ← floorOf_eq_floor, Binary.toWordBy]

theorem floor_of_infinity {s : Sign} (h : parts x = .infinity s) : floor x = x := by
  simp only [floor, h]

/-! ### Infinities -/

theorem exists_infinity (hx : x.isNaN = false) (h : ¬x.isFinite) : ∃ s, parts x = .infinity s := by
  rw [isNaN_eq] at hx
  rw [isFinite_eq] at h
  cases hpx : parts x with
  | notANumber => simp [hpx, UnpackedFloat.isNaN] at hx
  | infinity s => exact ⟨s, rfl⟩
  | zero | finite => simp [hpx, UnpackedFloat.isFinite] at h

theorem value_of_infinity {s : Sign} (h : parts x = .infinity s) : value x = signed s limit := by
  rw [value, h, valueOf]

/-- A positive factor leaves infinities alone. -/
theorem value_mul_of_infinity {s : Sign} (h : parts x = .infinity s) (hc : 0 < c)
    (hfinite : c.isFinite) : (x * c).isNaN = false ∧ value (x * c) = signed s limit := by
  have hmul : x * c = ofParts (.infinity s) := by
    have hzero : parts 0 = .zero .positive := by rfl
    rw [lt_iff, hzero] at hc
    rw [isFinite_eq] at hfinite
    rw [mul_eq_ofParts, h]
    cases hpc : parts c with
    | notANumber | infinity => simp [hpc, UnpackedFloat.isFinite] at hfinite
    | zero => simp [hpc, UnpackedFloat.compare] at hc
    | finite t m e hm =>
      rw [hpc] at hc
      cases t with
      | negative => cases hc
      | positive => cases s <;> rfl
  rw [hmul, isNaN_eq, parts_ofParts_infinity, value, parts_ofParts_infinity]
  exact ⟨rfl, rfl⟩

variable (hx : x.isNaN = false) (hy : y.isNaN = false)

include hx in
/-- A product with a positive factor is a number. -/
theorem isNaN_mul (hc : 0 < c) (hfinite : c.isFinite) : (x * c).isNaN = false := by
  by_cases h : x.isFinite
  · exact (isNearest_mul h hfinite).isNaN_eq_false
  · obtain ⟨s, hs⟩ := exists_infinity hx h
    exact (value_mul_of_infinity hs hc hfinite).1

/-- A product with a positive finite factor is a number if there was one before. -/
theorem isNaN_mul_iff (hc : 0 < c) (hfinite : c.isFinite) :
    (x * c).isNaN ↔ x.isNaN := by
  refine ⟨fun h => ?_, fun h => isNaN_mul_of_isNaN (.inl h)⟩
  by_contra hx
  exact Bool.eq_false_iff.1 (isNaN_mul (Bool.eq_false_iff.2 hx) hc hfinite) h

include hx hy in
/-- Multiplying by a positive factor keeps the order. -/
theorem value_mul_le (hc : 0 < c) (hfinite : c.isFinite) (h : value x ≤ value y) :
    value (x * c) ≤ value (y * c) := by
  have hpos : 0 < value c := by
    rwa [lt_iff_value hasValue_zero.isNaN_eq_false (isNaN_of_isFinite hfinite),
      hasValue_zero.value_eq] at hc
  have hlimit := limit_pos
  -- The product of an infinity is that infinity, and no product lies past it.
  have hbound := abs_le.1 (abs_value_le_limit (x * c))
  have hbound' := abs_le.1 (abs_value_le_limit (y * c))
  by_cases hfx : x.isFinite
  · by_cases hfy : y.isFinite
    · exact (isNearest_mul hfx hfinite).value_le (isNearest_mul hfy hfinite)
        (mul_le_mul_of_nonneg_right h hpos.le)
    · obtain ⟨s, hs⟩ := exists_infinity hy hfy
      rw [(value_mul_of_infinity hs hc hfinite).2]
      rw [value_of_infinity hs] at h
      have hlt := abs_lt.1 ((isFinite_iff_value hx).1 hfx)
      cases s with
      | negative => exact absurd hlt.1 h.not_gt
      | positive => exact hbound.2
  · obtain ⟨s, hs⟩ := exists_infinity hx hfx
    rw [(value_mul_of_infinity hs hc hfinite).2]
    rw [value_of_infinity hs] at h
    cases s with
    | negative => exact hbound'.1
    | positive =>
      have hfy : ¬y.isFinite := fun hfy =>
        (abs_lt.1 ((isFinite_iff_value hy).1 hfy)).2.not_ge h
      obtain ⟨t, ht⟩ := exists_infinity hy hfy
      rw [(value_mul_of_infinity ht hc hfinite).2]
      rw [value_of_infinity ht] at h
      cases t with
      | negative =>
        simp only [signed] at h
        linarith
      | positive => exact le_rfl

include hx in
theorem isNaN_floor : (floor x).isNaN = false := by
  by_cases h : x.isFinite
  · exact (hasValue_floor h).isNaN_eq_false
  · obtain ⟨s, hs⟩ := exists_infinity hx h
    rwa [floor_of_infinity hs]

include hx in
/-- A number is below a whole number if its whole part is. -/
theorem value_floor_lt_iff (n : ℤ) : value (floor x) < n ↔ value x < n := by
  by_cases h : x.isFinite
  · rw [(hasValue_floor h).value_eq, Int.cast_lt, Int.floor_lt]
  · obtain ⟨s, hs⟩ := exists_infinity hx h
    rw [floor_of_infinity hs]

/-! ### The larger of two numbers -/

include hx hy in
theorem isNaN_larger : (larger x y).isNaN = false := by
  rw [larger, hx, hy]
  simp only [Bool.false_eq_true, if_false]
  split_ifs <;> assumption

include hx hy in
theorem value_larger : value (larger x y) = max (value x) (value y) := by
  rw [larger, hx, hy]
  simp only [Bool.false_eq_true, if_false, lt_iff_value hx hy, lt_iff_value hy hx]
  split_ifs with hlt hgt
  · exact (max_eq_right hlt.le).symm
  · exact (max_eq_left hgt.le).symm
  · exact (max_eq_right (not_lt.1 hgt)).symm
  · exact (max_eq_left (not_lt.1 hlt)).symm

include hx hy in
/-- Multiplying by a positive factor keeps the larger of two numbers. -/
theorem value_larger_mul (hc : 0 < c) (hfinite : c.isFinite) :
    value (larger x y * c) = max (value (x * c)) (value (y * c)) := by
  have hlarger := isNaN_larger hx hy
  have hvalue := value_larger hx hy
  rcases le_total (value x) (value y) with h | h
  · rw [max_eq_right h] at hvalue
    rw [max_eq_right (value_mul_le hx hy hc hfinite h)]
    exact le_antisymm (value_mul_le hlarger hy hc hfinite hvalue.le)
      (value_mul_le hy hlarger hc hfinite hvalue.ge)
  · rw [max_eq_left h] at hvalue
    rw [max_eq_left (value_mul_le hy hx hc hfinite h)]
    exact le_antisymm (value_mul_le hlarger hx hc hfinite hvalue.le)
      (value_mul_le hx hlarger hc hfinite hvalue.ge)

/-! ### Words -/

theorem isNearest_toFloat (n : UInt64) : IsNearest n.toFloat n.toNat := by
  have hnormalize := isNearest_normalize (n.toNat : ℤ) 0 .positive
  rwa [zpow_zero, mul_one, Int.cast_natCast] at hnormalize

/-- A number is turned into an integer by leaving out the digits after the point. -/
theorem roundToInt_eq (s : Sign) (m : ℕ) (e : ℤ) :
    roundToInt s m e = s.apply ⌊(m : ℚ) * 2 ^ e⌋ := by
  have hshift : ((m <<< (e - 0).toNat : ℕ) : ℚ) / 2 ^ (0 - (e - ((e - 0).toNat : ℕ))).toNat =
      m * 2 ^ e := by
    rcases le_total 0 e with he | he
    · have hzero : (0 - (e - ((e - 0).toNat : ℕ))).toNat = 0 := by omega
      rw [hzero, pow_zero, div_one, ← shiftLeft_mul_two_zpow m he, zpow_zero, mul_one]
    · obtain ⟨k, rfl⟩ : ∃ k : ℕ, e = -(k : ℤ) := ⟨(-e).toNat, by omega⟩
      have hzero : (-(k : ℤ) - 0).toNat = 0 := by omega
      have hk : (0 - (-(k : ℤ) - (0 : ℕ))).toNat = k := by omega
      rw [hzero, hk, Nat.shiftLeft_zero, zpow_neg, zpow_natCast, div_eq_mul_inv]
  have hfloor := ((standsFor_exact (q := (m <<< (e - 0).toNat : ℕ)) rfl).shiftRight
    (0 - (e - ((e - 0).toNat : ℕ))).toNat).floor_eq
  rw [hshift] at hfloor
  rw [hfloor]
  rfl

theorem toNat_ofNatClamp (n : ℕ) : (UInt32.ofNatClamp n).toNat = min n (2 ^ 32 - 1) := by
  unfold UInt32.ofNatClamp
  split
  · next h => exact (min_eq_left (Nat.le_sub_one_of_lt h)).symm
  · next h => exact (min_eq_right ((Nat.sub_le _ _).trans (not_lt.1 h))).symm

include hx in
/-- When a word of 32 bits is at most some number below the last one. -/
theorem toNat_toUInt32_le_iff {n : ℕ} (hn : n < 2 ^ 32 - 1) :
    x.toUInt32.toNat ≤ n ↔ value x < n + 1 := by
  have hword : x.toUInt32.toNat =
      min ((parts x).toInt 0 (2 ^ 32 - 1)).toNat (2 ^ 32 - 1) := toNat_ofNatClamp _
  have hclamp : x.toUInt32.toNat ≤ n ↔ ((parts x).toInt 0 (2 ^ 32 - 1)).toNat ≤ n := by omega
  have hnext : (0 : ℚ) < n + 1 := Nat.cast_add_one_pos n
  rw [isNaN_eq] at hx
  rw [hclamp, value]
  cases hpx : parts x with
  | notANumber => simp [hpx, UnpackedFloat.isNaN] at hx
  | zero s => exact iff_of_true (Nat.zero_le n) hnext
  | infinity s =>
    cases s with
    | negative =>
      exact iff_of_true (Nat.zero_le n) ((neg_neg_of_pos limit_pos).trans hnext)
    | positive =>
      have hlimit : (n : ℚ) + 1 ≤ limit := by
        calc (n : ℚ) + 1 ≤ 2 ^ 32 := by exact_mod_cast (by omega : n + 1 ≤ 2 ^ 32)
          _ = 2 ^ (32 : ℤ) := by norm_num
          _ ≤ limit := zpow_le_zpow_right₀ one_le_two (by decide)
      exact iff_of_false (not_le.2 hn) (not_lt.2 hlimit)
  | finite s m e hm =>
    have hsize := (isCanonical_of_parts hpx).value_pos
    have hfloor : 0 ≤ ⌊(m : ℚ) * 2 ^ e⌋ := Int.floor_nonneg.2 hsize.le
    change (roundToInt s m e).toNat ≤ n ↔ signed s (m * 2 ^ e) < n + 1
    rw [roundToInt_eq]
    cases s with
    | negative =>
      refine iff_of_true ?_ ((neg_neg_of_pos hsize).trans hnext)
      rw [Sign.apply, Int.toNat_of_nonpos (neg_nonpos.2 hfloor)]
      exact Nat.zero_le n
    | positive =>
      rw [Sign.apply, Int.toNat_le, ← Int.lt_add_one_iff, Int.floor_lt]
      push_cast
      rfl

end Binary64

end SceneLoop
