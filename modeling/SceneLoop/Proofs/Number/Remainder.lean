import Mathlib
import SceneLoop.Proofs.Number.Order
import SceneLoop.Proofs.Number.Whole

/-!
# The remainder of a division

The remainder of two finite doubles is itself a double: its mantissa has no more digits than the
one it is taken from or the one it is taken by, and its exponent is that of one of them.  So it is
rounded and packed without loss, and it is smaller than the divisor as it should be.

## Main definitions

* `Binary64.IsCanonical` : the mantissas and exponents of finite doubles that are not zero.

## Main results

* `Binary64.round_exact` : a number with few digits is rounded without loss.
* `Binary64.parts_ofParts_of_isCanonical` : a canonical number is packed without loss.
* `Binary64.IsCanonical.lt_of_scaled_lt` : canonical numbers are ordered by exponent and mantissa.
* `Binary64.remainder_bounds` : the remainder is not negative and smaller than the divisor.
* `Binary64.remainder_eq_notANumber` : where there is no remainder.
-/

namespace SceneLoop

open Float.Model (UnpackedFloat Format totalExponent)
open Float.Model.UnpackedFloat

namespace Binary64

/-- The mantissas and exponents of finite doubles that are not zero: only numbers with the least
exponent need not fill the mantissa. -/
structure IsCanonical (m : Nat) (e : Int) : Prop where
  pos : 0 < m
  mantissa_lt : m < 2 ^ 53
  le_exponent : -1074 ≤ e
  exponent_le : e ≤ 971
  fills : 2 ^ 52 ≤ m ∨ e = -1074

/-- The value of a mantissa and an exponent as a multiple of the smallest positive double. -/
def scaled (m : Nat) (e : Int) : Nat :=
  m * 2 ^ (e + 1074).toNat

/-- These are the mantissas and exponents of the format. -/
theorem isCanonical_iff {m : Nat} {e : Int} :
    IsCanonical m e ↔ Binary.InFormat Format.binary64 m e := by
  have hmax : e ≤ 971 ↔ e + 1023 + 52 + 1 < 2048 := by omega
  exact ⟨fun h => ⟨h.pos, h.mantissa_lt, h.le_exponent, hmax.1 h.exponent_le, h.fills⟩,
    fun h => ⟨h.pos, h.mantissa_lt, h.le_exponent, hmax.2 h.exponent_lt, h.fills⟩⟩

theorem isCanonical_of_parts {x : Float} {s : Sign} {m : Nat} {e : Int} {h : 0 < m}
    (hx : parts x = .finite s m e h) : IsCanonical m e :=
  isCanonical_iff.2 (Binary.inFormat_of_unpack (by decide) hx)

namespace IsCanonical

variable {m n : Nat} {e f : Int}

theorem log2_lt (h : IsCanonical m e) : m.log2 < 53 :=
  (Nat.log2_lt (Nat.ne_of_gt h.pos)).2 h.mantissa_lt

/-- Canonical numbers are ordered by exponent and mantissa: the larger exponent belongs to a
mantissa that is filled. -/
theorem lt_of_scaled_lt (hm : IsCanonical m e) (hn : IsCanonical n f)
    (h : scaled m e < scaled n f) : e < f ∨ e = f ∧ m < n := by
  have hle : e ≤ f := by
    by_contra hfe
    have hmin := hn.le_exponent
    have hfull : 2 ^ 52 ≤ m := hm.fills.resolve_right (by omega)
    have hlast : 2 ^ ((f + 1074).toNat + 1) ≤ 2 ^ (e + 1074).toNat :=
      Nat.pow_le_pow_right (by decide) (by omega)
    have hle : scaled n f ≤ scaled m e := by
      calc n * 2 ^ (f + 1074).toNat
          ≤ 2 ^ 53 * 2 ^ (f + 1074).toNat := Nat.mul_le_mul_right _ (Nat.le_of_lt hn.mantissa_lt)
        _ = 2 ^ 52 * 2 ^ ((f + 1074).toNat + 1) := by rw [Nat.pow_succ']; omega
        _ ≤ m * 2 ^ (e + 1074).toNat := Nat.mul_le_mul hfull hlast
    omega
  rcases Int.lt_or_eq_of_le hle with hlt | rfl
  · exact .inl hlt
  · exact .inr ⟨rfl, Nat.lt_of_mul_lt_mul_right h⟩

end IsCanonical

/-! ### Rounding -/

/-- A canonical number is rounded to itself. -/
theorem roundWithAccuracy_of_isCanonical {m : Nat} {e : Int} (h : IsCanonical m e) (s : Sign) :
    roundWithAccuracy Format.binary64 s m e .exact = .finite s m e h.pos := by
  have hm : m ≠ 0 := Nat.ne_of_gt h.pos
  simp only [roundWithAccuracy, (isCanonical_iff.1 h).shiftToTargetExponent,
    ExtendedMantissa.roundedMantissa, ExtendedMantissa.accuracy, Accuracy.roundToNearestEven,
    hm, dite_false]

/-- Moving the digits of a number up until the mantissa is filled, or the exponent is least. -/
theorem isCanonical_shift {m : Nat} {e : Int} (hpos : 0 < m) (hmax : e ≤ 971) {k : Nat}
    (hk : m.log2 + k ≤ 52) (hke : -1074 ≤ e - k)
    (hfills : m.log2 + k = 52 ∨ e - k = -1074) : IsCanonical (m * 2 ^ k) (e - k) := by
  obtain ⟨hlow, hhigh⟩ := (Nat.log2_eq_iff (Nat.ne_of_gt hpos)).1 rfl
  refine ⟨Nat.mul_pos hpos (Nat.two_pow_pos k), ?_, hke, by omega, ?_⟩
  · calc m * 2 ^ k < 2 ^ (m.log2 + 1) * 2 ^ k :=
        Nat.mul_lt_mul_of_pos_right hhigh (Nat.two_pow_pos k)
      _ = 2 ^ (m.log2 + 1 + k) := (Nat.pow_add 2 _ _).symm
      _ ≤ 2 ^ 53 := Nat.pow_le_pow_right (by decide) (by omega)
  · refine hfills.imp_left fun heq => ?_
    calc 2 ^ 52 = 2 ^ m.log2 * 2 ^ k := by rw [← Nat.pow_add, heq]
      _ ≤ m * 2 ^ k := Nat.mul_le_mul_right _ hlow

/-- A number with at most 53 digits, none of them below the smallest double, is rounded without
loss. -/
theorem round_exact {m : Nat} {e : Int} (hpos : 0 < m) (hlt : m < 2 ^ 53) (hmin : -1074 ≤ e)
    (hmax : e ≤ 971) (s : Sign) :
    ∃ (n : Nat) (f : Int) (h : IsCanonical n f), scaled n f = scaled m e ∧
      UnpackedFloat.round Format.binary64 s m e = .finite s n f h.pos := by
  have hlog : m.log2 < 53 := (Nat.log2_lt (Nat.ne_of_gt hpos)).2 hlt
  obtain ⟨k, hk, htarget⟩ : ∃ k : Nat, (k : Int) = min (52 - m.log2 : Int) (e + 1074) ∧
      Format.binary64.targetExponent (totalExponent m e) = e - k := by
    refine ⟨(min (52 - m.log2 : Int) (e + 1074)).toNat, by omega, ?_⟩
    change max ((m.log2 : Int) + 1 + e - 53) (-1074) = _
    omega
  have hcanonical : IsCanonical (m * 2 ^ k) (e - k) :=
    isCanonical_shift hpos hmax (by omega) (by omega) (by omega)
  have hshift : (e - (e - k)).toNat = k := by omega
  refine ⟨_, _, hcanonical, ?_, ?_⟩
  · have hsplit : (e + 1074).toNat = k + (e - k + 1074).toNat := by omega
    rw [scaled, scaled, hsplit, Nat.pow_add, Nat.mul_assoc]
  · simp only [UnpackedFloat.round, htarget, decreaseExponent, hshift, Nat.shiftLeft_eq,
      roundWithAccuracy_of_isCanonical hcanonical]

/-! ### Packing -/

/-- A canonical number is packed without loss. -/
theorem parts_ofParts_of_isCanonical {m : Nat} {e : Int} (h : IsCanonical m e) (s : Sign) :
    parts (ofParts (.finite s m e h.pos)) = .finite s m e h.pos :=
  Binary.unpack_pack (isCanonical_iff.1 h) s

theorem parts_ofParts_zero (s : Sign) : parts (ofParts (.zero s)) = .zero s := by
  cases s <;> rfl

/-! ### The remainder -/

theorem compare_positive_eq_lt {m n : Nat} {e f : Int} {hm : 0 < m} {hn : 0 < n} :
    UnpackedFloat.compare (.finite .positive m e hm) (.finite .positive n f hn) = some .lt ↔
      e < f ∨ e = f ∧ m < n := by
  simp only [UnpackedFloat.compare, Option.some.injEq, Ordering.then_eq_lt, Int.compare_eq_lt,
    Int.compare_eq_eq, Nat.compare_eq_lt]

variable {x y : Float}

/-- A number between zero and a finite number is finite, and it is positive. -/
theorem exists_parts_of_lt (hx : x.isFinite) (hy : 0 < y) (h : y < x) :
    ∃ m e, ∃ hm : 0 < m, ∃ n f, ∃ hn : 0 < n,
      parts x = .finite .positive m e hm ∧ parts y = .finite .positive n f hn ∧
        (f < e ∨ f = e ∧ n < m) := by
  have hzero : parts 0 = .zero .positive := by rfl
  rw [lt_iff, hzero] at hy
  rw [lt_iff] at h
  rw [isFinite_eq] at hx
  cases hpy : parts y with
  | notANumber | zero => simp [hpy, UnpackedFloat.compare] at hy
  | infinity s =>
    rw [hpy] at hy h
    cases s with
    | negative => cases hy
    | positive => cases hpx : parts x <;> simp_all [UnpackedFloat.compare, UnpackedFloat.isFinite]
  | finite s n f hn =>
    rw [hpy] at hy h
    cases s with
    | negative => cases hy
    | positive =>
      cases hpx : parts x with
      | notANumber | infinity => simp [hpx, UnpackedFloat.isFinite] at hx
      | zero => simp [hpx, UnpackedFloat.compare] at h
      | finite s m e hm =>
        rw [hpx] at h
        cases s with
        | negative => cases h
        | positive => exact ⟨m, e, hm, n, f, hn, rfl, rfl, compare_positive_eq_lt.1 h⟩

/-- **The remainder of a division.** The remainder of a finite number by a smaller positive one is
not negative and smaller than that. -/
theorem remainder_bounds (hx : x.isFinite) (hy : 0 < y) (h : y < x) :
    0 ≤ remainder x y ∧ remainder x y < y := by
  obtain ⟨m, e, hm, n, f, hn, hpx, hpy, hlt⟩ := exists_parts_of_lt hx hy h
  have hcanonical := isCanonical_of_parts hpy
  -- The divisor has the smaller exponent, so the remainder is one of integers.
  have hmin : min e f = f := by omega
  have hself : (f - f).toNat = 0 := by omega
  have hremainder : remainder x y =
      if m * 2 ^ (e - f).toNat % n = 0 then ofParts (.zero .positive)
      else ofParts (UnpackedFloat.round Format.binary64 .positive
        (m * 2 ^ (e - f).toNat % n) f) := by
    simp only [remainder, hpx, hpy, hmin, hself, Nat.pow_zero, Nat.mul_one]
  have hr : m * 2 ^ (e - f).toNat % n < n := Nat.mod_lt _ hn
  generalize m * 2 ^ (e - f).toNat % n = r at hremainder hr
  have hzero : parts 0 = .zero .positive := by rfl
  rw [hremainder, le_iff, lt_iff, hzero, hpy]
  split
  · rw [parts_ofParts_zero]
    exact ⟨⟨.eq, rfl, rfl⟩, rfl⟩
  · next hne =>
    have hlt53 : r < 2 ^ 53 := Nat.lt_trans hr hcanonical.mantissa_lt
    obtain ⟨r', f', hr', hscaled, hround⟩ := round_exact (Nat.pos_of_ne_zero hne) hlt53
      hcanonical.le_exponent hcanonical.exponent_le .positive
    have hbelow : scaled r' f' < scaled n f := by
      rw [hscaled]
      exact Nat.mul_lt_mul_of_pos_right hr (Nat.two_pow_pos _)
    rw [hround, parts_ofParts_of_isCanonical hr', compare_positive_eq_lt]
    exact ⟨⟨.lt, rfl, rfl⟩, hr'.lt_of_scaled_lt hcanonical hbelow⟩

/-- There is no remainder of what is not finite, and none by zero. -/
theorem remainder_eq_notANumber (hy : 0 ≤ y) (h : x.isFinite → ¬0 < y) :
    remainder x y = notANumber := by
  rw [isFinite_eq] at h
  cases hx : parts x with
  | notANumber | infinity => simp only [remainder, hx]
  | zero | finite =>
    have hnot : ¬0 < y := h (by rw [hx]; rfl)
    have hzero : parts 0 = .zero .positive := by rfl
    rw [lt_iff, hzero] at hnot
    obtain ⟨o, ho, hle⟩ := le_iff.1 hy
    rw [hzero] at ho
    cases hpy : parts y with
    | notANumber | zero => simp only [remainder, hx, hpy]
    | infinity s | finite s =>
      rw [hpy] at ho hnot
      cases s with
      | negative => cases ho; cases hle
      | positive => exact absurd rfl hnot

end Binary64

end SceneLoop
