import Mathlib
import SceneLoop.Number.Binary

/-!
# Numbers of a format

A binary format has a number of digits for the mantissa and a range of exponents.  Its numbers that
are neither zero nor an infinity have one mantissa and exponent each: the mantissa is filled, unless
the exponent is the least one.  These are what a packed number is unpacked to, and packing them
loses nothing.

## Main definitions

* `Binary.InFormat` : the mantissas and exponents of a format.

## Main results

* `Binary.inFormat_of_unpack` : a packed number is unpacked to such a mantissa and exponent.
* `Binary.unpack_pack` : packing loses nothing.
* `Binary.InFormat.shiftToTargetExponent` : no digit of the mantissa is cut off.
-/

namespace SceneLoop

open Float.Model (UnpackedFloat Format totalExponent)
open Float.Model.UnpackedFloat

namespace Binary

variable {spec : Format} {m n : ℕ} {e f : ℤ} {s : Sign}

/-- The mantissas and exponents of the numbers of a format that are neither zero nor an infinity:
only numbers with the least exponent need not fill the mantissa. -/
structure InFormat (spec : Format) (m : ℕ) (e : ℤ) : Prop where
  pos : 0 < m
  mantissa_lt : m < 2 ^ (spec.mantissaBitsWithoutImplicit + 1)
  le_exponent : spec.minExponent ≤ e
  exponent_lt :
    e + spec.exponentBias + spec.mantissaBitsWithoutImplicit + 1 < 2 ^ spec.exponentBits
  fills : 2 ^ spec.mantissaBitsWithoutImplicit ≤ m ∨ e = spec.minExponent

/-- The leading digit of a mantissa is not stored. -/
theorem toNat_one_append {w : ℕ} (c : BitVec w) : (1#1 ++ c).toNat = 2 ^ w + c.toNat := by
  rw [BitVec.toNat_append, ← Nat.shiftLeft_add_eq_or_of_lt c.isLt, BitVec.toNat_ofNat,
    Nat.one_mod, Nat.one_shiftLeft]

theorem mantissaBits_eq (spec : Format) :
    spec.mantissaBits = spec.mantissaBitsWithoutImplicit + 1 :=
  Nat.add_comm ..

/-- The bias turns the least exponent into one. -/
theorem minExponent_add_bias (spec : Format) :
    spec.minExponent + spec.exponentBias + spec.mantissaBitsWithoutImplicit = 1 := by
  have hpos := Nat.two_pow_pos (spec.exponentBits - 1)
  rw [Format.minExponent, Format.exponentBias, mantissaBits_eq]
  push_cast [hpos]
  ring

/-- A packed number is unpacked to the mantissa and exponent of a number of the format. -/
theorem inFormat_of_unpack {b : BitVec spec.numBits} {hm : 0 < m} (hbits : 2 ≤ spec.exponentBits)
    (h : unpack spec b = .finite s m e hm) : InFormat spec m e := by
  have hbias := minExponent_add_bias spec
  have hexponents : 2 ^ 2 ≤ 2 ^ spec.exponentBits := Nat.pow_le_pow_right two_pos hbits
  simp only [unpack] at h
  split at h
  · split at h <;> cases h
  · next htop =>
    split at h
    · next hzero =>
      split at h
      · cases h
      · simp only [finite.injEq] at h
        obtain ⟨-, rfl, rfl⟩ := h
        have hlt := (@unpackMantissa spec b).isLt
        rw [hzero, BitVec.toNat_ofNat, Nat.zero_mod]
        have he : ((0 : ℕ) : ℤ) - (spec.exponentBias + spec.mantissaBitsWithoutImplicit) + 1 =
            spec.minExponent := by omega
        rw [he]
        refine ⟨hm, ?_, le_rfl, ?_, .inr rfl⟩
        · rw [pow_succ]; omega
        · zify at hexponents
          omega
    · next hzero =>
      simp only [finite.injEq] at h
      obtain ⟨-, rfl, rfl⟩ := h
      have hlt := (@unpackMantissa spec b).isLt
      have hlt' := (@unpackExponent spec b).isLt
      have hpos : 0 < (@unpackExponent spec b).toNat :=
        Nat.pos_of_ne_zero fun h => hzero (BitVec.eq_of_toNat_eq (by simpa using h))
      have hlast : (@unpackExponent spec b).toNat + 1 < 2 ^ spec.exponentBits := by
        refine lt_of_le_of_ne hlt' fun heq => htop (BitVec.eq_of_toNat_eq ?_)
        rw [BitVec.neg_one_eq_allOnes, BitVec.toNat_allOnes]
        omega
      rw [toNat_one_append]
      refine ⟨by omega, ?_, by omega, ?_, .inl (Nat.le_add_right ..)⟩
      · rw [pow_succ]; omega
      · zify at hlast
        omega

/-- An exponent field that is not all ones. -/
theorem ofNat_ne_neg_one {w k : ℕ} (h : k + 1 < 2 ^ w) : BitVec.ofNat w k ≠ -1#w := by
  intro heq
  have hnat := congrArg BitVec.toNat heq
  rw [BitVec.toNat_ofNat, Nat.mod_eq_of_lt (by omega), BitVec.neg_one_eq_allOnes,
    BitVec.toNat_allOnes] at hnat
  omega

theorem ofNat_ne_zero {w k : ℕ} (hpos : 0 < k) (h : k < 2 ^ w) : BitVec.ofNat w k ≠ 0#w := by
  intro heq
  have hnat := congrArg BitVec.toNat heq
  rw [BitVec.toNat_ofNat, Nat.mod_eq_of_lt h, BitVec.toNat_ofNat, Nat.zero_mod] at hnat
  omega

/-- An exponent field of zero stands for the least exponent, and the mantissa is not filled. -/
theorem unpack_unfilled (hpos : 0 < m) (hm : m < 2 ^ spec.mantissaBitsWithoutImplicit) (s : Sign) :
    unpack spec (packComponents spec s 0#_ (BitVec.ofNat _ m)) =
      .finite s m spec.minExponent hpos := by
  have hbias := minExponent_add_bias spec
  have hexponents := Nat.one_lt_two_pow (Nat.ne_of_gt spec.he)
  rw [unpack]
  simp only [unpackMantissa_packComponents, unpackExponent_packComponents,
    unpackSign_packComponents, Sign.ofBitVec_toBitVec]
  rw [if_neg (ofNat_ne_neg_one (by omega)), if_pos trivial, dif_neg (ofNat_ne_zero hpos hm)]
  simp only [finite.injEq, true_and, BitVec.toNat_ofNat, Nat.mod_eq_of_lt hm, Nat.zero_mod]
  omega

/-- Any other exponent field but the last stands for itself, and the digit that fills the mantissa
is left out. -/
theorem unpack_filled {k : ℕ} (hpos : 0 < m) (hlow : 2 ^ spec.mantissaBitsWithoutImplicit ≤ m)
    (hhigh : m < 2 ^ (spec.mantissaBitsWithoutImplicit + 1)) (hk : 0 < k)
    (hlast : k + 1 < 2 ^ spec.exponentBits) (s : Sign) :
    unpack spec (packComponents spec s (BitVec.ofNat _ k) (BitVec.ofNat _ m)) =
      .finite s m (k - (spec.exponentBias + spec.mantissaBitsWithoutImplicit)) hpos := by
  have hmantissa : m % 2 ^ spec.mantissaBitsWithoutImplicit =
      m - 2 ^ spec.mantissaBitsWithoutImplicit := by
    rw [pow_succ] at hhigh
    rw [Nat.mod_eq_sub_mod hlow, Nat.mod_eq_of_lt (by omega)]
  rw [unpack]
  simp only [unpackMantissa_packComponents, unpackExponent_packComponents,
    unpackSign_packComponents, Sign.ofBitVec_toBitVec]
  rw [if_neg (ofNat_ne_neg_one hlast), if_neg (ofNat_ne_zero hk (by omega))]
  simp only [finite.injEq, true_and, and_true, toNat_one_append, BitVec.toNat_ofNat,
    hmantissa, Nat.mod_eq_of_lt (show k < 2 ^ spec.exponentBits by omega)]
  omega

/-- Packing a number of the format loses nothing. -/
theorem unpack_pack (h : InFormat spec m e) (s : Sign) :
    unpack spec (pack spec (.finite s m e h.pos)) = .finite s m e h.pos := by
  have hbias := minExponent_add_bias spec
  have hmin := h.le_exponent
  obtain ⟨k, hk⟩ : ∃ k : ℕ, (k : ℤ) = e + spec.exponentBias + spec.mantissaBitsWithoutImplicit :=
    ⟨(e + spec.exponentBias + spec.mantissaBitsWithoutImplicit).toNat, by omega⟩
  have hfield : (e + spec.exponentBias + spec.mantissaBitsWithoutImplicit).toNat = k := by omega
  have hlast : k + 1 < 2 ^ spec.exponentBits := by
    zify
    rw [hk]
    exact h.exponent_lt
  simp only [pack, hfield]
  rw [if_neg (by omega)]
  rcases Nat.lt_or_ge m (2 ^ spec.mantissaBitsWithoutImplicit) with hlt | hge
  · obtain rfl : e = spec.minExponent := h.fills.resolve_left (by omega)
    have hbits : ¬m.log2 + 1 = spec.mantissaBits := by
      have := (Nat.log2_lt (Nat.ne_of_gt h.pos)).2 hlt
      rw [mantissaBits_eq]
      omega
    rw [if_neg hbits, unpack_unfilled h.pos hlt]
  · have hbits : m.log2 + 1 = spec.mantissaBits := by
      rw [mantissaBits_eq, (Nat.log2_eq_iff (Nat.ne_of_gt h.pos)).2 ⟨hge, h.mantissa_lt⟩]
    have hexponent : (k : ℤ) - (spec.exponentBias + spec.mantissaBitsWithoutImplicit) = e := by
      omega
    rw [if_pos hbits, unpack_filled h.pos hge h.mantissa_lt (by omega) hlast]
    simp only [hexponent]

/-! ### Mantissas that are not cut off -/

theorem shiftToTargetExponent_eq {k : ℕ} (h : spec.targetExponent (totalExponent n f) = f + k) :
    shiftToTargetExponent spec n f .exact =
      ((⟨n, false, false⟩ : ExtendedMantissa) >>> k, f + k) := by
  have hamount : (f + k - f).toNat = k := by omega
  rw [shiftToTargetExponent, h, shiftToExponent, hamount]
  rfl

namespace InFormat

theorem log2_le (h : InFormat spec m e) : m.log2 ≤ spec.mantissaBitsWithoutImplicit :=
  Nat.le_of_lt_succ ((Nat.log2_lt (Nat.ne_of_gt h.pos)).2 h.mantissa_lt)

theorem targetExponent_eq (h : InFormat spec m e) :
    spec.targetExponent (totalExponent m e) = e := by
  have hlog := h.log2_le
  have hmin := h.le_exponent
  rw [Format.targetExponent, totalExponent, mantissaBits_eq]
  rcases h.fills with hfills | rfl
  · have hlow := (Nat.le_log2 (Nat.ne_of_gt h.pos)).2 hfills
    omega
  · omega

theorem shiftToTargetExponent (h : InFormat spec m e) :
    UnpackedFloat.shiftToTargetExponent spec m e .exact = (⟨m, false, false⟩, e) := by
  have htarget : spec.targetExponent (totalExponent m e) = e + (0 : ℕ) := by
    rw [h.targetExponent_eq, Int.natCast_zero, add_zero]
  rw [shiftToTargetExponent_eq htarget, Int.natCast_zero, add_zero]
  rfl

end InFormat

end Binary

end SceneLoop
