import Mathlib
import SceneLoop.Number.Reading
import SceneLoop.Proofs.Number.Shortest

/-!
# Reading decimals

A decimal that lies in the neighbourhood of a single is read as that single.  Few digits with a
small exponent are divided or multiplied as they stand, since both the digits and the power of ten
are singles; all others are divided or multiplied exactly and rounded once.  Neither way loses a
digit that rounding could miss.

## Main definitions

* `Binary32.IsExactly` : a single with the value of a given positive number.
* `Binary32.ofMantissa` : the single with a given mantissa and exponent.

## Main results

* `Binary32.isExactly_toFloat32` : natural numbers of at most 24 binary digits are singles.
* `Binary32.isExactly_powerOfTen` : the small powers of ten are singles.
* `Binary32.ofDecimal_of_holds` : what lies in the neighbourhood of a single is read as it.
-/

namespace SceneLoop

open Float.Model (UnpackedFloat Format totalExponent)
open Float.Model.UnpackedFloat
open Binary64 (two_zpow_pos)

namespace Binary32

variable {m n : ℕ} {e : ℤ} {x y : Float32}

/-! ### Singles and their parts -/

theorem ofModel_pack_parts (x : Float32) : .ofModel (.pack (parts x)) = x := by
  obtain ⟨⟨bits, hvalid⟩⟩ := x
  have hbits : pack Format.binary32 (unpack Format.binary32 bits.toBitVec) = bits.toBitVec :=
    pack_unpack_of_valid hvalid
  have hpack : UInt32.ofBitVec (pack Format.binary32 (unpack Format.binary32 bits.toBitVec)) =
      bits := by rw [hbits]
  simp only [parts, Float32.Model.unpack, Float32.Model.pack, hpack]

theorem inFormat_of_parts {s : Sign} {hm : 0 < m} (h : parts x = .finite s m e hm) :
    Binary.InFormat Format.binary32 m e :=
  Binary.inFormat_of_unpack (by decide) h

theorem parts_ofModel_pack (h : Binary.InFormat Format.binary32 m e) (s : Sign) :
    parts (.ofModel (.pack (.finite s m e h.pos))) = .finite s m e h.pos :=
  Binary.unpack_pack h s

/-! ### Whole numbers and powers of ten -/

/-- A single with the value of a given positive number, and with a filled mantissa. -/
def IsExactly (x : Float32) (q : ℚ) : Prop :=
  ∃ m e, ∃ hm : 0 < m, parts x = .finite .positive m e hm ∧ 2 ^ 23 ≤ m ∧ (m : ℚ) * 2 ^ e = q

theorem two_pow_le_filled (hpos : 0 < n) (hn : n < 2 ^ 24) : 2 ^ 23 ≤ n * 2 ^ (23 - n.log2) := by
  have hlog : n.log2 < 24 := (Nat.log2_lt (Nat.ne_of_gt hpos)).2 hn
  calc 2 ^ 23 = 2 ^ n.log2 * 2 ^ (23 - n.log2) := by rw [← Nat.pow_add]; congr 1; omega
    _ ≤ n * 2 ^ (23 - n.log2) := Nat.mul_le_mul_right _ (Nat.log2_self_le (Nat.ne_of_gt hpos))

/-- The digits of a natural number are moved up to fill the mantissa. -/
theorem inFormat_filled {k : ℕ} (hpos : 0 < n) (hn : n < 2 ^ 24) (hk : k ≤ 104) :
    Binary.InFormat Format.binary32 (n * 2 ^ (23 - n.log2)) (n.log2 - 23 + k) := by
  have hlog : n.log2 < 24 := (Nat.log2_lt (Nat.ne_of_gt hpos)).2 hn
  have hshift := Nat.two_pow_pos (23 - n.log2)
  refine ⟨Nat.mul_pos hpos hshift, ?_, ?_, ?_, .inl (two_pow_le_filled hpos hn)⟩
  · calc n * 2 ^ (23 - n.log2) < 2 ^ (n.log2 + 1) * 2 ^ (23 - n.log2) :=
        Nat.mul_lt_mul_of_pos_right Nat.lt_log2_self hshift
      _ = 2 ^ 24 := by rw [← Nat.pow_add]; congr 1; omega
  · change (-149 : ℤ) ≤ _
    omega
  · change (n.log2 : ℤ) - 23 + k + 127 + 23 + 1 < 256
    omega

theorem value_filled (hpos : 0 < n) (hn : n < 2 ^ 24) (k : ℕ) :
    ((n * 2 ^ (23 - n.log2) : ℕ) : ℚ) * 2 ^ ((n.log2 : ℤ) - 23 + k) = n * 2 ^ k := by
  have hlog : n.log2 < 24 := (Nat.log2_lt (Nat.ne_of_gt hpos)).2 hn
  have hexponent : (n.log2 : ℤ) - 23 + k = k - ((23 - n.log2 : ℕ) : ℤ) := by omega
  rw [hexponent, zpow_sub₀ two_ne_zero, zpow_natCast, zpow_natCast]
  push_cast
  field_simp

/-- A single that was packed from a natural number of at most 24 binary digits and a power of
two. -/
theorem isExactly_of_filled {k : ℕ} (hpos : 0 < n) (hn : n < 2 ^ 24) (hk : k ≤ 104)
    (h : x = .ofModel (.pack (.finite .positive (n * 2 ^ (23 - n.log2)) (n.log2 - 23 + k)
      (inFormat_filled hpos hn hk).pos))) : IsExactly x (n * 2 ^ k) :=
  ⟨_, _, _, h ▸ parts_ofModel_pack (inFormat_filled hpos hn hk) .positive,
    two_pow_le_filled hpos hn, value_filled hpos hn k⟩

/-- A natural number of at most 24 binary digits is a single. -/
theorem isExactly_toFloat32 (hpos : 0 < n) (hn : n < 2 ^ 24) :
    IsExactly n.toUInt64.toFloat32 n := by
  have htoNat : n.toUInt64.toNat = n := UInt64.toNat_ofNat_of_lt' (by
    change n < 2 ^ 64
    omega)
  have hcompare : compare (n : Int) 0 = .gt := Int.compare_eq_gt.2 (by omega)
  rw [← mul_one (n : ℚ), ← pow_zero 2]
  refine isExactly_of_filled hpos hn (by decide) ?_
  change Float32.ofModel (.pack
    (UnpackedFloat.normalize Format.binary32 (n.toUInt64.toNat : Int) 0 .positive)) = _
  rw [htoNat, UnpackedFloat.normalize, hcompare]
  have hvalue := value_filled hpos hn 0
  rw [Int.toNat_natCast, Binary.round_of_eq (inFormat_filled (k := 0) hpos hn (by decide)) hpos]
  rw [hvalue]
  rfl

/-- The powers of ten that are at hand are exact: their odd factors are powers of five that fit the
mantissa. -/
theorem isExactly_powerOfTen {k : ℕ} (hk : k < Float32.exactlyRepresentablePowersOfTen.size) :
    IsExactly Float32.exactlyRepresentablePowersOfTen[k] (10 ^ k) := by
  change k < 11 at hk
  have hfive : 5 ^ k < 2 ^ 24 := (Nat.pow_le_pow_right (by decide) (by omega)).trans_lt
    (by decide : 5 ^ 10 < 2 ^ 24)
  have hten : (10 : ℚ) ^ k = (5 ^ k : ℕ) * 2 ^ k := by
    push_cast
    rw [← mul_pow]
    norm_num
  have hall : ∀ k : Fin 11, Float32.exactlyRepresentablePowersOfTen[k] =
      .ofModel (.pack (.finite .positive (5 ^ (k : ℕ) * 2 ^ (23 - (5 ^ (k : ℕ)).log2))
        ((5 ^ (k : ℕ)).log2 - 23 + (k : ℕ))
        (Nat.mul_pos (Nat.pow_pos (by decide)) (Nat.two_pow_pos _)))) := by
    decide +kernel
  rw [hten]
  exact isExactly_of_filled (Nat.pow_pos (by decide)) hfive (by omega) (hall ⟨k, hk⟩)

/-! ### Reading -/

/-- The single with the given mantissa and exponent. -/
def ofMantissa (h : Binary.InFormat Format.binary32 m e) : Float32 :=
  .ofModel (.pack (.finite .positive m e h.pos))

section

variable {q r : ℚ} (h : Binary.InFormat Format.binary32 m e)

theorem div_eq_of_holds (hx : IsExactly x q) (hy : IsExactly y r)
    (hq : (Binary.around Format.binary32 m e).Holds (q / r)) : x / y = ofMantissa h := by
  obtain ⟨n, f, hn, hx, -, rfl⟩ := hx
  obtain ⟨n', f', hn', hy, -, rfl⟩ := hy
  change Float32.ofModel (.pack (UnpackedFloat.div Format.binary32 (parts x) (parts y))) = _
  rw [hx, hy, Binary.div_of_holds h hq]
  rfl

theorem mul_eq_of_holds (hx : IsExactly x q) (hy : IsExactly y r)
    (hq : (Binary.around Format.binary32 m e).Holds (q * r)) : x * y = ofMantissa h := by
  obtain ⟨n, f, hn, hx, hfull, rfl⟩ := hx
  obtain ⟨n', f', hn', hy, -, rfl⟩ := hy
  change Float32.ofModel (.pack (UnpackedFloat.mul Format.binary32 (parts x) (parts y))) = _
  rw [hx, hy, Binary.mul_of_holds h hq (hfull.trans (Nat.le_mul_of_pos_right n hn'))]
  rfl

end

/-- What is in the neighbourhood of a single is in the range of singles. -/
theorem bounds_of_holds {q : ℚ} (h : Binary.InFormat Format.binary32 m e)
    (hq : (Binary.around Format.binary32 m e).Holds q) :
    2 ^ (-150 : ℤ) ≤ q ∧ q < 2 ^ (128 : ℤ) := by
  obtain ⟨hlt, hmin, hmax⟩ := bounds_of_inFormat h
  obtain ⟨hlow, hhigh⟩ := Binary.mantissa_of_holds h.pos hq
  have hhalf := Binary.lowerHalf_le Format.binary32 m e
  have hone : (1 : ℚ) ≤ m := by exact_mod_cast h.pos
  have hm : (m : ℚ) + 1 ≤ 2 ^ (24 : ℤ) := by exact_mod_cast hlt
  constructor
  · calc (2 : ℚ) ^ (-150 : ℤ) ≤ 2 ^ (-1 + e) := zpow_le_zpow_right₀ one_le_two (by omega)
      _ = 1 / 2 * 2 ^ e := by rw [zpow_add₀ two_ne_zero, zpow_neg_one, one_div]
      _ ≤ q := (le_div_iff₀ (two_zpow_pos e)).1 (by linarith)
  · calc q < 2 ^ (24 : ℤ) * 2 ^ e := (div_lt_iff₀ (two_zpow_pos e)).1 (by linarith)
      _ = 2 ^ (24 + e) := (zpow_add₀ two_ne_zero _ _).symm
      _ ≤ 2 ^ (128 : ℤ) := zpow_le_zpow_right₀ one_le_two (by omega)

/-- The decimal exponent of a number in the range of singles. -/
theorem exponent_bounds {digits : ℕ} {exponent : ℤ} (hpos : 0 < digits)
    (hmin : 2 ^ (-150 : ℤ) ≤ (digits : ℚ) * 10 ^ exponent)
    (hmax : (digits : ℚ) * 10 ^ exponent < 2 ^ (128 : ℤ)) :
    exponent < 43 ∧ (exponent < 0 → -151 < digits.log2 + 3 * exponent) := by
  have height (k : ℤ) : (8 : ℚ) ^ k = 2 ^ (3 * k) := by
    rw [zpow_mul]
    norm_num
  have hone : (1 : ℚ) ≤ digits := by exact_mod_cast hpos
  constructor
  · by_contra hlarge
    have hle : (2 : ℚ) ^ (128 : ℤ) ≤ 10 ^ exponent := by
      calc (2 : ℚ) ^ (128 : ℤ) ≤ 8 ^ exponent := by
            rw [height]
            exact zpow_le_zpow_right₀ one_le_two (by omega)
        _ ≤ 10 ^ exponent := zpow_le_zpow_left₀ (by omega) (by norm_num) (by norm_num)
    have hpos' := ten_zpow_pos exponent
    nlinarith
  · intro hneg
    have hten : (10 : ℚ) ^ exponent ≤ 8 ^ exponent := by
      have hle : (8 : ℚ) ^ (-exponent) ≤ 10 ^ (-exponent) :=
        zpow_le_zpow_left₀ (by omega) (by norm_num) (by norm_num)
      rw [zpow_neg, zpow_neg] at hle
      exact (inv_le_inv₀ (zpow_pos (by norm_num) _) (ten_zpow_pos exponent)).1 hle
    have hdigits : (digits : ℚ) < 2 ^ ((digits.log2 : ℤ) + 1) := by
      exact_mod_cast Nat.lt_log2_self (n := digits)
    have hlt : (2 : ℚ) ^ (-150 : ℤ) < 2 ^ ((digits.log2 : ℤ) + 1 + 3 * exponent) := by
      calc (2 : ℚ) ^ (-150 : ℤ) ≤ digits * 10 ^ exponent := hmin
        _ < 2 ^ ((digits.log2 : ℤ) + 1) * 10 ^ exponent :=
          mul_lt_mul_of_pos_right hdigits (ten_zpow_pos exponent)
        _ ≤ 2 ^ ((digits.log2 : ℤ) + 1) * 8 ^ exponent :=
          mul_le_mul_of_nonneg_left hten (two_zpow_pos _).le
        _ = 2 ^ ((digits.log2 : ℤ) + 1 + 3 * exponent) := by rw [height, ← zpow_add₀ two_ne_zero]
    have hlt' := (zpow_lt_zpow_iff_right₀ one_lt_two).1 hlt
    omega

/-- Few digits and a small exponent are read as a quotient or product of two singles. -/
theorem ofScientific_of_few {digits k : ℕ} {negative : Bool}
    (h : Binary.InFormat Format.binary32 m e) (hpos : 0 < digits) (hfew : digits < 2 ^ 23 ∧ k ≤ 10)
    (hq : (Binary.around Format.binary32 m e).Holds
      (if negative then (digits : ℚ) / 10 ^ k else digits * 10 ^ k)) :
    Float32.ofScientific digits negative k = ofMantissa h := by
  have hdigits := isExactly_toFloat32 hpos (hfew.1.trans (by decide))
  have hpower := isExactly_powerOfTen (k := k) (Nat.lt_succ_of_le hfew.2)
  rw [Float32.ofScientific, dif_pos hfew]
  cases negative with
  | true => exact div_eq_of_holds h hdigits hpower hq
  | false => exact mul_eq_of_holds h hdigits hpower hq

/-- Other decimals are divided or multiplied exactly and rounded once. -/
theorem model_ofScientific_of_holds {digits : ℕ} {exponent : ℤ}
    (h : Binary.InFormat Format.binary32 m e) (hpos : 0 < digits) (hlarge : exponent < 43)
    (hsmall : exponent < 0 → -151 < digits.log2 + 3 * exponent)
    (hq : (Binary.around Format.binary32 m e).Holds (digits * 10 ^ exponent)) :
    UnpackedFloat.ofScientific Format.binary32 digits exponent = .finite .positive m e h.pos := by
  have hnotLarge : ¬exponent > 2 ^ 8 := by omega
  have hnotSmall : ¬exponent < -(2 ^ 8 + digits.log2) := by omega
  rw [UnpackedFloat.ofScientific, dif_neg hpos.ne', if_neg hnotLarge, if_neg hnotSmall]
  split
  · next hexponent =>
    have hfull : 2 ^ 23 ≤ digits <<< 24 * 10 ^ exponent.toNat := by
      rw [Nat.shiftLeft_eq]
      have hten : 0 < 10 ^ exponent.toNat := Nat.pow_pos (by decide)
      calc 2 ^ 23 ≤ digits * 2 ^ 24 := by omega
        _ ≤ digits * 2 ^ 24 * 10 ^ exponent.toNat := Nat.le_mul_of_pos_right _ hten
    have hvalue : ((digits <<< 24 : ℕ) : ℚ) * 2 ^ (-(24 : ℕ) : ℤ) *
        ((10 ^ exponent.toNat : ℕ) * 2 ^ (0 : ℤ)) = digits * 10 ^ exponent := by
      rw [Nat.shiftLeft_eq, zpow_zero, mul_one, zpow_neg, zpow_natCast,
        ← Int.toNat_of_nonneg hexponent, zpow_natCast, Int.toNat_natCast]
      push_cast
      field_simp
      norm_num
    rw [← hvalue] at hq
    exact Binary.mul_of_holds h hq hfull .positive .positive
  · next hexponent =>
    have hvalue : (digits : ℚ) * 2 ^ (0 : ℤ) / ((10 ^ (-exponent).toNat : ℕ) * 2 ^ (0 : ℤ)) =
        digits * 10 ^ exponent := by
      have hneg : (10 : ℚ) ^ (-exponent) = 10 ^ (-exponent).toNat := by
        rw [← zpow_natCast, Int.toNat_of_nonneg (by omega)]
      rw [zpow_neg] at hneg
      rw [zpow_zero, mul_one, mul_one, Nat.cast_pow, Nat.cast_ofNat, ← hneg, div_inv_eq_mul]
    rw [← hvalue] at hq
    exact Binary.div_of_holds h hq .positive .positive

theorem ofScientific_of_holds {digits : ℕ} {exponent : ℤ} (h : Binary.InFormat Format.binary32 m e)
    (hpos : 0 < digits) (hlarge : exponent < 43)
    (hsmall : exponent < 0 → -151 < digits.log2 + 3 * exponent)
    (hq : (Binary.around Format.binary32 m e).Holds (digits * 10 ^ exponent)) :
    Float32.ofScientific digits (exponent < 0) exponent.natAbs = ofMantissa h := by
  by_cases hfew : digits < 2 ^ 23 ∧ exponent.natAbs ≤ 10
  · refine ofScientific_of_few h hpos hfew ?_
    have hvalue : (if decide (exponent < 0) = true then (digits : ℚ) / 10 ^ exponent.natAbs
        else digits * 10 ^ exponent.natAbs) = digits * 10 ^ exponent := by
      rcases lt_or_ge exponent 0 with hneg | hnonneg
      · have habs : exponent = -(exponent.natAbs : ℤ) := by omega
        rw [if_pos (decide_eq_true hneg), div_eq_mul_inv, ← zpow_natCast, ← zpow_neg, ← habs]
      · have habs : exponent = (exponent.natAbs : ℤ) := by omega
        rw [if_neg (by simpa using hnonneg), ← zpow_natCast, ← habs]
    rwa [hvalue]
  · have hexponent : (if decide (exponent < 0) = true then Int.negOfNat exponent.natAbs
        else Int.ofNat exponent.natAbs) = exponent := by
      simp only [Int.negOfNat_eq, Int.ofNat_eq_natCast, decide_eq_true_eq]
      split <;> omega
    rw [Float32.ofScientific, dif_neg hfew]
    dsimp only
    rw [hexponent]
    change Float32.ofModel (.pack (UnpackedFloat.ofScientific Format.binary32 digits exponent)) = _
    rw [model_ofScientific_of_holds h hpos hlarge hsmall hq]
    rfl

/-- **Reading in a neighbourhood.** A decimal in the neighbourhood of a single is read as it. -/
theorem ofDecimal_of_holds {digits : ℕ} {exponent : ℤ} (h : Binary.InFormat Format.binary32 m e)
    (hq : (Binary.around Format.binary32 m e).Holds (digits * 10 ^ exponent)) :
    ofDecimal digits exponent = ofMantissa h := by
  have hpos : 0 < digits := by
    refine Nat.pos_of_ne_zero fun hzero => ?_
    have hq := h.pos_of_holds hq
    rw [hzero, Nat.cast_zero, zero_mul] at hq
    exact lt_irrefl _ hq
  obtain ⟨hmin, hmax⟩ := bounds_of_holds h hq
  obtain ⟨hlarge, hsmall⟩ := exponent_bounds hpos hmin hmax
  have hordinary : DecimalRange.of digits exponent = .ordinary := by
    rw [DecimalRange.of, if_neg (by omega), if_neg (by omega), if_neg]
    omega
  rw [ofDecimal, hordinary]
  exact ofScientific_of_holds h hpos hlarge hsmall hq

end Binary32

end SceneLoop
