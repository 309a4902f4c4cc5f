import Mathlib
import SceneLoop.Proofs.Number.Single
import SceneLoop.Proofs.Number.Whole

/-!
# Numbers past the range of words

A number in single precision has 24 digits.  So one that is below `2 ^ 63` is below it by at least
`2 ^ 39`, and so is the word of 64 bits that is nearest to it; the word that is nearest to any
larger number is the last one.

## Main definitions

* `Binary32.wordLimit` : the first number past the signed words of 64 bits.

## Main results

* `Binary32.mantissa_of_parts` : the mantissa of a number.
* `Binary32.nearestWord_of_le`, `Binary32.nearestWord_le_of_not_le` : the words nearest to numbers
  on either side of the limit.
-/

namespace SceneLoop

open Float.Model (UnpackedFloat Format)
open Float.Model.UnpackedFloat

namespace Binary32

variable {x : Float32} {s : Sign} {m : ℕ} {e : ℤ} {hm : 0 < m}

/-- The mantissa of a number has 24 digits, and fewer only if the exponent is least. -/
theorem mantissa_of_parts (hx : parts x = .finite s m e hm) :
    m < 2 ^ 24 ∧ (2 ^ 23 ≤ m ∨ e = -149) := by
  simp only [parts, Float32.Model.unpack, unpack] at hx
  split at hx
  · split at hx <;> cases hx
  · split at hx
    · split at hx
      · cases hx
      · simp only [finite.injEq] at hx
        obtain ⟨-, rfl, rfl⟩ := hx
        refine ⟨(BitVec.isLt _).trans (by decide), .inr ?_⟩
        rw [‹unpackExponent _ = _›]
        rfl
    · simp only [finite.injEq] at hx
      obtain ⟨-, rfl, -⟩ := hx
      generalize @unpackMantissa Format.binary32 x.toModel.toBits.toBitVec = c
      have hc : c.toNat < 2 ^ 23 := c.isLt
      have hm : (1#1 ++ c).toNat = 2 ^ 23 + c.toNat := Binary.toNat_one_append c
      rw [hm]
      omega

/-- The first number past the signed words of 64 bits. -/
def wordLimit : Float32 := 9223372036854775808

theorem parts_wordLimit : parts wordLimit = .finite .positive (2 ^ 23) 40 (by decide) := by
  rfl

/-- A finite number is past the range by its exponent: its mantissa is then filled. -/
theorem wordLimit_le_of_finite (hx : parts x = .finite .positive m e hm) :
    wordLimit ≤ x ↔ 40 ≤ e := by
  have hfills := (mantissa_of_parts hx).2
  rw [le_iff, parts_wordLimit, hx]
  simp only [UnpackedFloat.compare, Option.some.injEq, exists_eq_left', Ordering.isLE_then_iff_and,
    Int.isLE_compare, Nat.isLE_compare, Int.compare_eq_lt]
  omega

/-- The word that is nearest to a number past the range is the last one. -/
theorem nearestWord_of_le (h : wordLimit ≤ x) : nearestWord x = 2 ^ 63 - 1 := by
  have hle := h
  rw [le_iff, parts_wordLimit] at hle
  rw [nearestWord]
  cases hx : parts x with
  | notANumber | zero => simp [hx, UnpackedFloat.compare] at hle
  | infinity s =>
    cases s with
    | negative => simp [hx, UnpackedFloat.compare] at hle
    | positive => rfl
  | finite s m e hm =>
    cases s with
    | negative => simp [hx, UnpackedFloat.compare] at hle
    | positive =>
      have he := (wordLimit_le_of_finite hx).1 h
      obtain ⟨k, rfl⟩ := Int.eq_ofNat_of_zero_le (he.trans' (by decide : (0 : ℤ) ≤ 40))
      have hfull : 2 ^ 23 ≤ m := (mantissa_of_parts hx).2.resolve_right (by omega)
      have hpower : 2 ^ 40 ≤ 2 ^ k := Nat.pow_le_pow_right (by decide) (by omega)
      have hsize : 2 ^ 63 ≤ m * 2 ^ k := by
        calc 2 ^ 63 = 2 ^ 23 * 2 ^ 40 := by decide
          _ ≤ m * 2 ^ k := Nat.mul_le_mul hfull hpower
      change Binary.toWord64 (m * 2 ^ k) = _
      have hcast : ((m : ℤ) * 2 ^ k) = (m * 2 ^ k : ℕ) := by push_cast; rfl
      rw [hcast, Binary.toWord64]
      omega

theorem nearestOf_le_of_lt (hm : m < 2 ^ 24) (he : e < 40) :
    Binary.nearestOf .positive m e ≤ 2 ^ 63 - 2 ^ 39 := by
  cases e with
  | ofNat k =>
    have hk : k ≤ 39 := by
      rw [Int.ofNat_eq_natCast] at he
      omega
    have hsize : m * 2 ^ k ≤ (2 ^ 24 - 1) * 2 ^ 39 :=
      Nat.mul_le_mul (Nat.le_sub_one_of_lt hm) (Nat.pow_le_pow_right (by decide) hk)
    have hcast : Binary.nearestOf .positive m (.ofNat k) = (m * 2 ^ k : ℕ) := by
      push_cast
      rfl
    rw [hcast]
    omega
  | negSucc k =>
    have hsize : (m + 2 ^ k) >>> (k + 1) ≤ m := by
      rcases Nat.eq_zero_or_pos m with rfl | hpos
      · rw [Nat.zero_add, Nat.shiftRight_eq_div_pow]
        exact (Nat.div_eq_of_lt (Nat.pow_lt_pow_succ (by decide))).le
      · exact Binary64.add_two_pow_shiftRight_le hpos k
    change (((m + 2 ^ k) >>> (k + 1) : ℕ) : ℤ) ≤ _
    omega

/-- The word that is nearest to a number below the limit lies further below it. -/
theorem nearestWord_le_of_not_le (h : ¬wordLimit ≤ x) : nearestWord x ≤ 2 ^ 63 - 2 ^ 39 := by
  rw [nearestWord]
  cases hx : parts x with
  | notANumber | zero => simp [Binary.toWordBy]
  | infinity s =>
    cases s with
    | negative => decide
    | positive =>
      refine absurd (le_iff.2 ⟨.lt, ?_, rfl⟩) h
      rw [parts_wordLimit, hx]
      rfl
  | finite s m e hm =>
    have hround : Binary.nearestOf s m e ≤ 2 ^ 63 - 2 ^ 39 := by
      cases s with
      | negative => exact (Binary64.nearestOf_negative_nonpos m e).trans (by decide)
      | positive =>
        exact nearestOf_le_of_lt (mantissa_of_parts hx).1
          (lt_of_not_ge (mt (wordLimit_le_of_finite hx).2 h))
    change Binary.toWord64 (Binary.nearestOf s m e) ≤ _
    rw [Binary.toWord64]
    omega

/-- The word that is nearest to a number is in the range. -/
theorem nearestWord_bounds (x : Float32) : -2 ^ 63 ≤ nearestWord x ∧ nearestWord x < 2 ^ 63 := by
  rw [nearestWord]
  cases parts x with
  | notANumber | zero => simp [Binary.toWordBy]
  | infinity s => cases s <;> decide
  | finite s m e hm =>
    have hbounds := Binary.toWord64_bounds (Binary.nearestOf s m e)
    change -2 ^ 63 ≤ Binary.toWord64 _ ∧ Binary.toWord64 _ < 2 ^ 63
    omega

end Binary32

end SceneLoop
