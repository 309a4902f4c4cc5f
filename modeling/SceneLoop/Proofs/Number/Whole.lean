import Mathlib
import SceneLoop.Proofs.Number.Formats

/-!
# Whole numbers as doubles

A whole number of at most 53 binary digits, and a larger one that is a multiple of a large enough
power of two, is a double as it stands: nothing is lost when it is rounded, packed and unpacked.  A
natural number that some double rounds to is of this kind, up to the end of the 64-bit range.

## Main definitions

* `Binary64.IsNormal` : the mantissas and exponents of normal doubles.

## Main results

* `Binary64.roundWithAccuracy_mul_two_pow` : a normal number is rounded to itself.
* `Binary64.parts_ofParts` : a normal number is packed without loss.
* `Binary64.parts_ofNat_of_lt`, `Binary64.parts_ofNat_of_isNormal` : natural numbers as doubles.
* `Binary64.nearestNatural_cases` : what a double is rounded to.
* `Binary64.nearestNatural_ofInt_nearestNatural` : rounding to a natural number is idempotent.
* `Binary64.isFinite_ofInt_of_nearestNatural` : a number that rounding gives back is finite.
-/

namespace SceneLoop

open Float.Model (UnpackedFloat Format totalExponent)
open Float.Model.UnpackedFloat

namespace Binary64

/-- The mantissas and exponents of normal doubles. -/
structure IsNormal (m : Nat) (e : Int) : Prop where
  le_mantissa : 2 ^ 52 ≤ m
  mantissa_lt : m < 2 ^ 53
  le_exponent : -1074 ≤ e
  exponent_le : e ≤ 971

namespace IsNormal

variable {m : Nat} {e : Int}

theorem pos (h : IsNormal m e) : 0 < m :=
  Nat.lt_of_lt_of_le (by decide) h.le_mantissa

theorem inFormat (h : IsNormal m e) : Binary.InFormat Format.binary64 m e := by
  have hmax := h.exponent_le
  refine ⟨h.pos, h.mantissa_lt, h.le_exponent, ?_, .inl h.le_mantissa⟩
  change e + 1023 + 52 + 1 < 2048
  omega

theorem log2_mul_two_pow (h : IsNormal m e) (k : Nat) : (m * 2 ^ k).log2 = 52 + k := by
  have hpos : m * 2 ^ k ≠ 0 := Nat.ne_of_gt (Nat.mul_pos h.pos (Nat.two_pow_pos k))
  rw [Nat.log2_eq_iff hpos, Nat.pow_add, Nat.add_right_comm, Nat.pow_add]
  exact ⟨Nat.mul_le_mul_right _ h.le_mantissa,
    Nat.mul_lt_mul_of_pos_right h.mantissa_lt (Nat.two_pow_pos k)⟩

theorem targetExponent_mul_two_pow (h : IsNormal m e) (k : Nat) :
    Format.binary64.targetExponent (totalExponent (m * 2 ^ k) (e - k)) = e := by
  have hmin := h.le_exponent
  change max (((m * 2 ^ k).log2 : Int) + 1 + (e - k) - 53) (-1074) = e
  rw [h.log2_mul_two_pow]
  omega

end IsNormal

/-! ### Rounding -/

/-- Shifting out zeros loses nothing. -/
theorem shiftRight_mul_two_pow (m k : Nat) :
    (⟨m * 2 ^ k, false, false⟩ : ExtendedMantissa) >>> k = ⟨m, false, false⟩ := by
  change k.repeat ExtendedMantissa.shiftRightOne _ = _
  induction k generalizing m with
  | zero => simp [Nat.repeat]
  | succ k ih =>
    rw [Nat.repeat, Nat.pow_succ, Nat.mul_comm (2 ^ k), ← Nat.mul_assoc, ih]
    simp [ExtendedMantissa.shiftRightOne]

theorem shiftToTargetExponent_mul_two_pow {m : Nat} {e : Int} (h : IsNormal m e) (k : Nat) :
    shiftToTargetExponent Format.binary64 (m * 2 ^ k) (e - k) .exact =
      (⟨m, false, false⟩, e) := by
  have hk : (e - (e - k)).toNat = k := by omega
  simp only [shiftToTargetExponent, h.targetExponent_mul_two_pow, shiftToExponent, hk,
    ExtendedMantissa.ofMantissaAndAccuracy, shiftRight_mul_two_pow, Prod.mk.injEq, true_and]
  omega

/-- A normal number is rounded to itself, with however many zeros after its mantissa. -/
theorem roundWithAccuracy_mul_two_pow {m : Nat} {e : Int} (h : IsNormal m e) (s : Sign) (k : Nat) :
    roundWithAccuracy Format.binary64 s (m * 2 ^ k) (e - k) .exact = .finite s m e h.pos := by
  have hagain := shiftToTargetExponent_mul_two_pow h 0
  rw [Nat.pow_zero, Nat.mul_one, Int.natCast_zero, Int.sub_zero] at hagain
  have hm : m ≠ 0 := Nat.ne_of_gt h.pos
  simp only [roundWithAccuracy, shiftToTargetExponent_mul_two_pow h k,
    ExtendedMantissa.roundedMantissa, ExtendedMantissa.accuracy, Accuracy.roundToNearestEven,
    hagain, hm, dite_false]

/-! ### Packing -/

/-- A normal number is packed without loss. -/
theorem parts_ofParts {m : Nat} {e : Int} (h : IsNormal m e) (s : Sign) :
    parts (ofParts (.finite s m e h.pos)) = .finite s m e h.pos :=
  Binary.unpack_pack h.inFormat s

/-! ### Natural numbers -/

/-- A natural number below `2 ^ 53` as a double: its digits are moved up to fill the mantissa. -/
theorem isNormal_of_lt {n : Nat} (hpos : 0 < n) (hn : n < 2 ^ 53) :
    IsNormal (n * 2 ^ (52 - n.log2)) (n.log2 - 52) := by
  obtain ⟨hlow, hhigh⟩ := (Nat.log2_eq_iff (Nat.ne_of_gt hpos)).1 rfl
  have hlog : n.log2 ≤ 52 := Nat.le_of_lt_succ ((Nat.log2_lt (Nat.ne_of_gt hpos)).2 hn)
  have hl : 2 ^ 52 = 2 ^ n.log2 * 2 ^ (52 - n.log2) := by
    rw [← Nat.pow_add, Nat.add_sub_cancel' hlog]
  have hh : 2 ^ 53 = 2 ^ (n.log2 + 1) * 2 ^ (52 - n.log2) := by
    rw [← Nat.pow_add]
    congr 1
    omega
  refine ⟨?_, ?_, by omega, by omega⟩
  · rw [hl]
    exact Nat.mul_le_mul_right _ hlow
  · rw [hh]
    exact Nat.mul_lt_mul_of_pos_right hhigh (Nat.two_pow_pos _)

theorem round_of_lt {n : Nat} (hpos : 0 < n) (hn : n < 2 ^ 53) (s : Sign) :
    UnpackedFloat.round Format.binary64 s n 0 =
      .finite s (n * 2 ^ (52 - n.log2)) (n.log2 - 52) (isNormal_of_lt hpos hn).pos := by
  have hlog : n.log2 ≤ 52 := Nat.le_of_lt_succ ((Nat.log2_lt (Nat.ne_of_gt hpos)).2 hn)
  have htarget : Format.binary64.targetExponent (totalExponent n 0) = (n.log2 : Int) - 52 := by
    change max ((n.log2 : Int) + 1 + 0 - 53) (-1074) = _
    omega
  have hshift : (0 - ((n.log2 : Int) - 52)).toNat = 52 - n.log2 := by omega
  have hexponent : 0 - ((52 - n.log2 : Nat) : Int) = n.log2 - 52 := by omega
  have hround := roundWithAccuracy_mul_two_pow (isNormal_of_lt hpos hn) s 0
  rw [Nat.pow_zero, Nat.mul_one, Int.natCast_zero, Int.sub_zero] at hround
  simp only [UnpackedFloat.round, htarget, decreaseExponent, hshift, hexponent, Nat.shiftLeft_eq,
    hround]

theorem parts_toFloat_of_lt {n : Nat} (hpos : 0 < n) (hn : n < 2 ^ 53) :
    parts n.toUInt64.toFloat =
      .finite .positive (n * 2 ^ (52 - n.log2)) (n.log2 - 52) (isNormal_of_lt hpos hn).pos := by
  have htoNat : n.toUInt64.toNat = n := UInt64.toNat_ofNat_of_lt' (by
    change n < 2 ^ 64
    omega)
  have hcompare : compare (n : Int) 0 = .gt := Int.compare_eq_gt.2 (by omega)
  change parts (ofParts
    (UnpackedFloat.normalize Format.binary64 (n.toUInt64.toNat : Int) 0 .positive)) = _
  rw [htoNat, UnpackedFloat.normalize, hcompare]
  simp only [Int.toNat_natCast, round_of_lt hpos hn]
  exact parts_ofParts (isNormal_of_lt hpos hn) _

theorem mul_eq_ofParts (x y : Float) :
    x * y = ofParts (UnpackedFloat.mul Format.binary64 (parts x) (parts y)) :=
  rfl

/-- A natural number below `2 ^ 53` is a double. -/
theorem parts_ofNat_of_lt {n : Nat} (hpos : 0 < n) (hn : n < 2 ^ 53) :
    parts (Float.ofNat n) =
      .finite .positive (n * 2 ^ (52 - n.log2)) (n.log2 - 52) (isNormal_of_lt hpos hn).pos := by
  have hone : parts Float.exactlyRepresentablePowersOfTen[0] =
      .finite .positive (2 ^ 52) (-52) (by decide) := by rfl
  have hfast : Float.ofNat n = n.toUInt64.toFloat * Float.exactlyRepresentablePowersOfTen[0] := by
    change Float.ofScientific n false 0 = _
    rw [Float.ofScientific, dif_pos ⟨hn, by decide⟩]
    rfl
  rw [hfast, mul_eq_ofParts, parts_toFloat_of_lt hpos hn, hone]
  have hround := roundWithAccuracy_mul_two_pow (isNormal_of_lt hpos hn) (.positive * .positive) 52
  exact (congrArg (fun u => parts (ofParts u)) hround).trans
    (parts_ofParts (isNormal_of_lt hpos hn) _)

/-- A multiple of a power of two is a double, if the factor fills the mantissa. -/
theorem parts_ofNat_of_isNormal {m k : Nat} (h : IsNormal m (k + 1 : Nat)) :
    parts (Float.ofNat (m * 2 ^ (k + 1))) = .finite .positive m (k + 1 : Nat) h.pos := by
  have htwo : 2 ^ 1 ≤ 2 ^ (k + 1) := Nat.pow_le_pow_right (by decide) (Nat.le_add_left 1 k)
  have hlarge : 2 ^ 52 * 2 ^ 1 ≤ m * 2 ^ (k + 1) := Nat.mul_le_mul h.le_mantissa htwo
  have hne : m * 2 ^ (k + 1) ≠ 0 := by omega
  have hslow : ¬(m * 2 ^ (k + 1) < 2 ^ 53 ∧ 0 ≤ 22) := by omega
  have hround := roundWithAccuracy_mul_two_pow h (.positive * .positive) (k + 1 + 53)
  have hexponent : ((k + 1 : Nat) : Int) - (k + 1 + 53 : Nat) = -53 + 0 := by omega
  have hmantissa : m * 2 ^ (k + 1 + 53) = (m * 2 ^ (k + 1)) <<< 53 * 10 ^ 0 := by
    rw [Nat.shiftLeft_eq, Nat.pow_add 2 (k + 1), Nat.mul_assoc m, Nat.pow_zero, Nat.mul_one]
  rw [hexponent, hmantissa] at hround
  have hbig : ¬(0 : Int) > 2 ^ 11 := by decide
  have hsmall : ¬(0 : Int) < -(2 ^ 11 + (m * 2 ^ (k + 1)).log2) := by omega
  change parts (Float.ofScientific (m * 2 ^ (k + 1)) false 0) = _
  rw [Float.ofScientific, dif_neg hslow]
  change parts (ofParts (UnpackedFloat.ofScientific Format.binary64 (m * 2 ^ (k + 1)) 0)) = _
  rw [UnpackedFloat.ofScientific, dif_neg hne, if_neg hbig, if_neg hsmall, if_pos (by decide)]
  exact (congrArg (fun u => parts (ofParts u)) hround).trans (parts_ofParts h _)

/-! ### Rounding to a natural number -/

/-- A finite double is normal or has the least exponent. -/
theorem isNormal_of_parts {x : Float} {s : Sign} {m : Nat} {e : Int} {h : 0 < m}
    (hx : parts x = .finite s m e h) : IsNormal m e ∨ m < 2 ^ 52 ∧ e = -1074 := by
  have hform : Binary.InFormat Format.binary64 m e := Binary.inFormat_of_unpack (by decide) hx
  have hmax : e + 1023 + 52 + 1 < 2048 := hform.exponent_lt
  rcases Nat.lt_or_ge m (2 ^ 52) with hlt | hge
  · exact .inr ⟨hlt, hform.fills.resolve_left (Nat.not_le.2 hlt)⟩
  · exact .inl ⟨hge, hform.mantissa_lt, hform.le_exponent, by omega⟩

/-- A number with that many digits after the point, all of them zero, is rounded to what is before
the point. -/
theorem nearestOf_mul_two_pow (n k : Nat) :
    Binary.nearestOf .positive (n * 2 ^ k) (-(k : Int)) = n := by
  cases k with
  | zero => simp [Binary.nearestOf, Sign.apply]
  | succ k =>
    have hlt : 2 ^ k < 2 ^ (k + 1) := Nat.pow_lt_pow_right (by decide) (Nat.lt_succ_self k)
    change (((n * 2 ^ (k + 1) + 2 ^ k) >>> (k + 1) : Nat) : Int) = n
    rw [Nat.shiftRight_eq_div_pow, Nat.mul_comm, Nat.mul_add_div (Nat.two_pow_pos _),
      Nat.div_eq_of_lt hlt, Nat.add_zero]

/-- A natural number below `2 ^ 53` comes back from a double. -/
theorem nearestNatural_ofInt_of_lt {n : Nat} (hn : n < 2 ^ 53) :
    nearestNatural (Float.ofInt n) = UInt64.ofNat n := by
  rcases Nat.eq_zero_or_pos n with rfl | hpos
  · decide
  · have hlog : n.log2 ≤ 52 := Nat.le_of_lt_succ ((Nat.log2_lt (Nat.ne_of_gt hpos)).2 hn)
    have hexponent : (n.log2 : Int) - 52 = -((52 - n.log2 : Nat) : Int) := by omega
    have hmin : min n (2 ^ 64 - 1) = n := by omega
    change nearestNatural (Float.ofNat n) = _
    rw [nearestNatural, parts_ofNat_of_lt hpos hn]
    simp only [hexponent, nearestOf_mul_two_pow, Binary.toNatural64, Int.toNat_natCast, hmin]

theorem nearestNatural_ofInt_of_isNormal {m k : Nat} (h : IsNormal m (k + 1 : Nat)) :
    nearestNatural (Float.ofInt (m * 2 ^ (k + 1) : Nat)) =
      UInt64.ofNat (min (m * 2 ^ (k + 1)) (2 ^ 64 - 1)) := by
  change nearestNatural (Float.ofNat (m * 2 ^ (k + 1))) = _
  rw [nearestNatural, parts_ofNat_of_isNormal h]
  rfl

theorem nearestOf_negative_nonpos (m : Nat) (e : Int) : Binary.nearestOf .negative m e ≤ 0 := by
  cases e with
  | ofNat k =>
    change -(m : Int) * 2 ^ k ≤ 0
    rw [Int.neg_mul]
    exact Int.neg_nonpos_of_nonneg (Int.mul_nonneg (by omega) (Int.pow_nonneg (by decide)))
  | negSucc k => exact Int.neg_nonpos_of_nonneg (Int.natCast_nonneg _)

theorem add_two_pow_shiftRight_le {m : Nat} (hm : 0 < m) (k : Nat) :
    (m + 2 ^ k) >>> (k + 1) ≤ m := by
  have hle : m ≤ 2 ^ k * m := Nat.le_mul_of_pos_left _ (Nat.two_pow_pos k)
  have hle' : 2 ^ k ≤ 2 ^ k * m := Nat.le_mul_of_pos_right _ hm
  have hmul : 2 ^ (k + 1) * m = 2 ^ k * m + 2 ^ k * m := by
    rw [Nat.pow_succ, Nat.mul_assoc, Nat.two_mul, Nat.mul_add]
  rw [Nat.shiftRight_eq_div_pow]
  exact Nat.div_le_of_le_mul (by omega)

/-- What a double is rounded to: a number of at most 53 digits, a normal number that is whole, cut
off at the end of the range, or that end. -/
theorem nearestNatural_cases (x : Float) :
    (∃ n < 2 ^ 53, nearestNatural x = UInt64.ofNat n) ∨
      (∃ m k : Nat, IsNormal m (k + 1 : Nat) ∧
        nearestNatural x = UInt64.ofNat (min (m * 2 ^ (k + 1)) (2 ^ 64 - 1))) ∨
      nearestNatural x = UInt64.ofNat (2 ^ 64 - 1) := by
  cases hx : parts x with
  | notANumber | zero => exact .inl ⟨0, by decide, by simp only [nearestNatural, hx]; rfl⟩
  | infinity s =>
    cases s with
    | negative => exact .inl ⟨0, by decide, by simp only [nearestNatural, hx]; rfl⟩
    | positive => exact .inr (.inr (by simp only [nearestNatural, hx]))
  | finite s m e hm =>
    have hround : nearestNatural x = Binary.toNatural64 (Binary.nearestOf s m e) := by
      simp only [nearestNatural, hx]
    have hlt : m < 2 ^ 53 := by
      rcases isNormal_of_parts hx with h | h
      · exact h.mantissa_lt
      · omega
    have hsmall : ∀ n : Nat, nearestNatural x = UInt64.ofNat (min n (2 ^ 64 - 1)) → n < 2 ^ 53 →
        ∃ n < 2 ^ 53, nearestNatural x = UInt64.ofNat n :=
      fun n hn hlt => ⟨n, hlt, by rw [hn, Nat.min_eq_left (by omega)]⟩
    cases s with
    | negative =>
      refine .inl (hsmall 0 ?_ (by decide))
      rw [hround, Binary.toNatural64, Int.toNat_of_nonpos (nearestOf_negative_nonpos m e)]
    | positive =>
      cases e with
      | ofNat k =>
        cases k with
        | zero => exact .inl (hsmall (m * 2 ^ 0) hround (by omega))
        | succ k =>
          rcases isNormal_of_parts hx with h | ⟨-, h⟩
          · exact .inr (.inl ⟨m, k, h, hround⟩)
          · cases h
      | negSucc k =>
        exact .inl (hsmall ((m + 2 ^ k) >>> (k + 1)) hround
          (Nat.lt_of_le_of_lt (add_two_pow_shiftRight_le hm k) hlt))

/-- The end of the range comes back from a double, although no double is as large. -/
theorem nearestNatural_ofInt_last :
    nearestNatural (Float.ofInt (UInt64.ofNat (2 ^ 64 - 1)).toNat) = UInt64.ofNat (2 ^ 64 - 1) := by
  decide

/-- **Rounding to a natural number is idempotent.** What a double is rounded to is itself the
nearest natural number of a double. -/
theorem nearestNatural_ofInt_nearestNatural (x : Float) :
    nearestNatural (Float.ofInt (nearestNatural x).toNat) = nearestNatural x := by
  rcases nearestNatural_cases x with ⟨n, hn, h⟩ | ⟨m, k, hnormal, h⟩ | h
  · have htoNat : (UInt64.ofNat n).toNat = n :=
      UInt64.toNat_ofNat_of_lt' (Nat.lt_of_lt_of_le hn (by decide))
    rw [h, htoNat, nearestNatural_ofInt_of_lt hn]
  · rcases Nat.le_total (m * 2 ^ (k + 1)) (2 ^ 64 - 1) with hle | hle
    · have htoNat : (UInt64.ofNat (m * 2 ^ (k + 1))).toNat = m * 2 ^ (k + 1) :=
        UInt64.toNat_ofNat_of_lt' (Nat.lt_of_le_of_lt hle (by decide))
      rw [h, Nat.min_eq_left hle, htoNat, nearestNatural_ofInt_of_isNormal hnormal,
        Nat.min_eq_left hle]
    · rw [h, Nat.min_eq_right hle, nearestNatural_ofInt_last]
  · rw [h, nearestNatural_ofInt_last]

/-- A natural number that comes back from a double is a finite one. -/
theorem isFinite_ofInt_of_nearestNatural {n : UInt64}
    (h : nearestNatural (Float.ofInt n.toNat) = n) : (Float.ofInt n.toNat).isFinite := by
  have hzero : n = 0 → (Float.ofInt n.toNat).isFinite := by
    rintro rfl
    decide
  have hlast : n = UInt64.ofNat (2 ^ 64 - 1) → (Float.ofInt n.toNat).isFinite := by
    rintro rfl
    decide
  have hfinite : (Float.ofInt n.toNat).isFinite = (parts (Float.ofInt n.toNat)).isFinite := rfl
  rw [nearestNatural] at h
  cases hx : parts (Float.ofInt n.toNat) with
  | zero | finite => simp [hfinite, hx, UnpackedFloat.isFinite]
  | notANumber => exact hzero (by rw [← h, hx])
  | infinity s =>
    cases s with
    | negative => exact hzero (by rw [← h, hx])
    | positive => exact hlast (by rw [← h, hx])

end Binary64

end SceneLoop
