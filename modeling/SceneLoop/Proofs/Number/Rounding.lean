import Mathlib
import SceneLoop.Proofs.Number.Remainder

/-!
# Rounding to the nearest double

A positive number has doubles on both sides, and their distance is a power of two: the place of the
last digit that doubles of this size have.  Rounding takes the nearest multiple of that power, and
of two that are equally near the even one.  So it never changes the order of two numbers, and it
leaves doubles alone.

The mantissa that arithmetic works with keeps, below its last digit, one digit more and whether
anything follows that.  This is enough to round as if all digits were known.

## Main definitions

* `Binary64.nearestEven` : the nearest integer.
* `Binary64.lastPlace`, `Binary64.roundedSize` : the last digit of a double, and rounding to it.
* `Binary64.StandsFor` : the numbers that a mantissa and the digits below it stand for.
* `Binary.lastPlace` : the last digit of a number in any format.
* `Binary64.IsRounded` : the mantissas and exponents that rounding gives, of any size.

## Main results

* `Binary64.roundedSize_mono` : rounding keeps the order.
* `Binary64.StandsFor.roundedMantissa` : a mantissa is rounded to the nearest integer.
* `Binary64.roundWithAccuracy_eq` : rounding a mantissa and an exponent rounds their value.
-/

namespace SceneLoop

open Float.Model (UnpackedFloat Format totalExponent)
open Float.Model.UnpackedFloat

namespace Binary64

/-! ### The nearest integer -/

/-- The integer nearest to a number; of two that are equally near, the even one. -/
def nearestEven (q : ℚ) : ℤ :=
  if Int.fract q < 1 / 2 then ⌊q⌋
  else if 1 / 2 < Int.fract q then ⌊q⌋ + 1
  else ⌊q⌋ + ⌊q⌋ % 2

theorem floor_le_nearestEven (q : ℚ) : ⌊q⌋ ≤ nearestEven q := by
  unfold nearestEven
  split_ifs <;> omega

theorem nearestEven_le_floor (q : ℚ) : nearestEven q ≤ ⌊q⌋ + 1 := by
  unfold nearestEven
  split_ifs <;> omega

theorem nearestEven_le {q : ℚ} {n : ℤ} (h : q < n + 1 / 2) : nearestEven q ≤ n := by
  have hfloor : ⌊q⌋ ≤ n := Int.lt_add_one_iff.1 (Int.floor_lt.2 (by push_cast; linarith))
  rcases hfloor.lt_or_eq with hlt | heq
  · exact (nearestEven_le_floor q).trans hlt
  · have hfract : Int.fract q < 1 / 2 := by
      rw [Int.fract, heq]
      linarith
    rw [nearestEven, if_pos hfract, heq]

theorem nearestEven_intCast (n : ℤ) : nearestEven n = n := by
  simp [nearestEven]

theorem nearestEven_mono : Monotone nearestEven := by
  intro q r h
  rcases (Int.floor_mono h).lt_or_eq with hlt | heq
  · exact (nearestEven_le_floor q).trans (Int.le_trans hlt (floor_le_nearestEven r))
  · have hfract : Int.fract q ≤ Int.fract r := by
      rw [Int.fract, Int.fract, heq]
      linarith
    simp only [nearestEven, heq]
    split_ifs <;> first | omega | linarith

/-! ### Rounding to the last digit -/

/-- The place of the last digit that doubles near a positive number have. -/
def lastPlace (q : ℚ) : ℤ :=
  max (Int.log 2 q - 52) (-1074)

/-- A number that is not negative, rounded to the digits of a double; it may be too large for
one. -/
def roundedSize (q : ℚ) : ℚ :=
  nearestEven (q / 2 ^ lastPlace q) * 2 ^ lastPlace q

variable {q r : ℚ}

theorem two_zpow_pos (k : ℤ) : (0 : ℚ) < 2 ^ k :=
  zpow_pos two_pos k

theorem lastPlace_mono (hq : 0 < q) (h : q ≤ r) : lastPlace q ≤ lastPlace r :=
  max_le_max (sub_le_sub_right (Int.log_mono_right hq h) 52) le_rfl

/-- A multiple of a place that is not below the last digit is a multiple of the last digit. -/
theorem exists_eq_mul_lastPlace {k : ℤ} (hk : lastPlace q ≤ k) (n : ℤ) :
    ∃ i : ℤ, (n : ℚ) * 2 ^ k = i * 2 ^ lastPlace q := by
  obtain ⟨j, rfl⟩ : ∃ j : ℕ, k = j + lastPlace q := ⟨(k - lastPlace q).toNat, by omega⟩
  refine ⟨n * 2 ^ j, ?_⟩
  rw [zpow_add₀ two_ne_zero, zpow_natCast]
  push_cast
  ring

/-- A multiple of a place that is not below the last digit bounds what a number is rounded to. -/
theorem roundedSize_le {n k : ℤ} (hk : lastPlace q ≤ k) (h : q ≤ n * 2 ^ k) :
    roundedSize q ≤ n * 2 ^ k := by
  obtain ⟨i, hi⟩ := exists_eq_mul_lastPlace hk n
  have hpos := two_zpow_pos (lastPlace q)
  rw [hi] at h ⊢
  have hle := nearestEven_mono ((div_le_iff₀ hpos).2 h)
  rw [nearestEven_intCast] at hle
  exact mul_le_mul_of_nonneg_right (by exact_mod_cast hle) hpos.le

theorem le_roundedSize {n k : ℤ} (hk : lastPlace q ≤ k) (h : n * 2 ^ k ≤ q) :
    n * 2 ^ k ≤ roundedSize q := by
  obtain ⟨i, hi⟩ := exists_eq_mul_lastPlace hk n
  have hpos := two_zpow_pos (lastPlace q)
  rw [hi] at h ⊢
  have hle := nearestEven_mono ((le_div_iff₀ hpos).2 h)
  rw [nearestEven_intCast] at hle
  exact mul_le_mul_of_nonneg_right (by exact_mod_cast hle) hpos.le

theorem roundedSize_zero : roundedSize 0 = 0 := by
  simp [roundedSize, nearestEven]

theorem roundedSize_nonneg (h : 0 ≤ q) : 0 ≤ roundedSize q := by
  simpa using le_roundedSize (n := 0) le_rfl (by simpa using h)

/-- A multiple of a place that is not below the last digit is not changed. -/
theorem roundedSize_of_eq {n k : ℤ} (hk : lastPlace q ≤ k) (h : q = n * 2 ^ k) :
    roundedSize q = q := by
  have hle := roundedSize_le hk h.le
  have hge := le_roundedSize hk h.ge
  rw [← h] at hle hge
  exact le_antisymm hle hge

/-- Rounding keeps the order.  Between numbers with different last digits lies the power of two from
which on the place is the larger one, and it is not changed. -/
theorem roundedSize_mono (hq : 0 ≤ q) (h : q ≤ r) : roundedSize q ≤ roundedSize r := by
  rcases hq.eq_or_lt with rfl | hq
  · rw [roundedSize_zero]
    exact roundedSize_nonneg h
  rcases (lastPlace_mono hq h).eq_or_lt with heq | hlt
  · have hpos := two_zpow_pos (lastPlace r)
    have hle := nearestEven_mono (div_le_div_of_nonneg_right h hpos.le)
    rw [roundedSize, roundedSize, heq]
    exact mul_le_mul_of_nonneg_right (by exact_mod_cast hle) hpos.le
  · have hr : 0 < r := hq.trans_le h
    have hplace : lastPlace r = Int.log 2 r - 52 := by
      unfold lastPlace at hlt ⊢
      omega
    have hlog : Int.log 2 q < Int.log 2 r := by
      unfold lastPlace at hlt
      omega
    have hbelow : q ≤ (1 : ℤ) * 2 ^ Int.log 2 r := by
      rw [Int.cast_one, one_mul]
      exact_mod_cast ((Int.lt_zpow_iff_log_lt one_lt_two hq).2 hlog).le
    have habove : (1 : ℤ) * 2 ^ Int.log 2 r ≤ r := by
      rw [Int.cast_one, one_mul]
      exact_mod_cast Int.zpow_log_le_self one_lt_two hr
    exact (roundedSize_le (by omega) hbelow).trans (le_roundedSize (by omega) habove)

/-! ### Mantissas with digits below them -/

/-- The numbers that a mantissa stands for, given the digit below it and whether anything follows
that. -/
def StandsFor : ExtendedMantissa → ℚ → Prop
  | ⟨m, false, false⟩, q => q = m
  | ⟨m, false, true⟩, q => m < q ∧ q < m + 1 / 2
  | ⟨m, true, false⟩, q => q = m + 1 / 2
  | ⟨m, true, true⟩, q => m + 1 / 2 < q ∧ q < m + 1

namespace StandsFor

variable {em : ExtendedMantissa}

theorem floor_eq (h : StandsFor em q) : ⌊q⌋ = em.mantissa := by
  rw [Int.floor_eq_iff]
  obtain ⟨m, round, sticky⟩ := em
  cases round <;> cases sticky <;> simp only [StandsFor] at h <;> constructor <;> push_cast <;>
    linarith

/-- A mantissa is rounded to the nearest integer. -/
theorem roundedMantissa (h : StandsFor em q) : (em.roundedMantissa : ℤ) = nearestEven q := by
  have hfract : Int.fract q = q - em.mantissa := by
    rw [Int.fract, h.floor_eq, Int.cast_natCast]
  rw [nearestEven, h.floor_eq, hfract]
  obtain ⟨m, round, sticky⟩ := em
  cases round <;> cases sticky <;> simp only [StandsFor] at h <;>
    simp only [ExtendedMantissa.roundedMantissa, ExtendedMantissa.accuracy,
      Accuracy.roundToNearestEven] <;>
    split_ifs <;> first | rfl | linarith

/-- Shifting out a digit halves the number. -/
theorem shiftRightOne (h : StandsFor em q) : StandsFor em.shiftRightOne (q / 2) := by
  obtain ⟨m, round, sticky⟩ := em
  have hm : (m : ℚ) = 2 * (m / 2 : ℕ) + (m % 2 : ℕ) := by
    exact_mod_cast (Nat.div_add_mod m 2).symm
  rcases Nat.mod_two_eq_zero_or_one m with hlast | hlast <;> rw [hlast] at hm <;>
    cases round <;> cases sticky <;> simp only [StandsFor] at h <;>
    simp [ExtendedMantissa.shiftRightOne, StandsFor, hlast] <;> push_cast at hm <;>
    first | linarith | constructor <;> linarith

theorem shiftRight (h : StandsFor em q) (k : ℕ) : StandsFor (em >>> k) (q / 2 ^ k) := by
  change StandsFor (k.repeat ExtendedMantissa.shiftRightOne em) _
  induction k with
  | zero => simpa [Nat.repeat] using h
  | succ k ih =>
    rw [Nat.repeat, pow_succ, ← div_div]
    exact ih.shiftRightOne

end StandsFor

/-! ### Mantissas and the size of numbers -/

theorem mantissa_ofMantissaAndAccuracy (m : ℕ) (acc : Accuracy) :
    (ExtendedMantissa.ofMantissaAndAccuracy m acc).mantissa = m := by
  rcases acc with _ | (_ | _ | _) <;> rfl

/-- The size of a number is seen from its mantissa. -/
theorem log_eq_log2_add {m : ℕ} {e : ℤ} (hm : 0 < m) (h : ⌊q / 2 ^ e⌋ = m) :
    Int.log 2 q = m.log2 + e := by
  obtain ⟨hlow, hhigh⟩ := (Nat.log2_eq_iff (Nat.ne_of_gt hm)).1 rfl
  obtain ⟨hge, hlt⟩ := Int.floor_eq_iff.1 h
  have hpos := two_zpow_pos e
  rw [le_div_iff₀ hpos] at hge
  rw [div_lt_iff₀ hpos] at hlt
  have hle : (2 : ℚ) ^ ((m.log2 : ℤ) + e) ≤ q := by
    rw [zpow_add₀ two_ne_zero, zpow_natCast]
    exact (mul_le_mul_of_nonneg_right (by exact_mod_cast hlow) hpos.le).trans hge
  have hbound : q < (2 : ℚ) ^ ((m.log2 : ℤ) + e + 1) := by
    have hnext : ((m : ℤ) : ℚ) + 1 ≤ 2 ^ (m.log2 + 1) := by exact_mod_cast hhigh
    rw [add_right_comm, zpow_add₀ two_ne_zero, ← Nat.cast_add_one, zpow_natCast]
    exact hlt.trans_le (mul_le_mul_of_nonneg_right hnext hpos.le)
  have hq : 0 < q := (two_zpow_pos _).trans_le hle
  have hlog : (m.log2 : ℤ) + e ≤ Int.log 2 q :=
    (Int.zpow_le_iff_le_log one_lt_two hq).1 (by exact_mod_cast hle)
  have hlog' : Int.log 2 q < (m.log2 : ℤ) + e + 1 :=
    (Int.lt_zpow_iff_log_lt one_lt_two hq).1 (by exact_mod_cast hbound)
  omega

theorem log_mul_two_zpow {m : ℕ} (hm : 0 < m) (e : ℤ) :
    Int.log 2 ((m : ℚ) * 2 ^ e) = m.log2 + e := by
  refine log_eq_log2_add hm ?_
  rw [mul_div_cancel_right₀ _ (two_zpow_pos e).ne', Int.floor_natCast]

end Binary64

namespace Binary

open Binary64 (StandsFor two_zpow_pos)

variable {spec : Format} {m n : ℕ} {e f : ℤ} {q : ℚ}

/-! ### The place of the last digit -/

/-- The place of the last digit that numbers of a format have near a positive number. -/
def lastPlace (spec : Format) (q : ℚ) : ℤ :=
  spec.targetExponent (Int.log 2 q + 1)

theorem le_lastPlace_iff (hq : 0 < q) :
    e ≤ lastPlace spec q ↔
      2 ^ (e + spec.mantissaBitsWithoutImplicit) ≤ q ∨ e ≤ spec.minExponent := by
  have hlog := Int.zpow_le_iff_le_log (x := e + spec.mantissaBitsWithoutImplicit) one_lt_two hq
  rw [lastPlace, Format.targetExponent, le_max_iff, mantissaBits_eq]
  push_cast at hlog ⊢
  rw [hlog]
  omega

theorem lastPlace_le_iff (hq : 0 < q) :
    lastPlace spec q ≤ e ↔
      q < 2 ^ (e + spec.mantissaBitsWithoutImplicit + 1) ∧ spec.minExponent ≤ e := by
  have hlog :=
    Int.lt_zpow_iff_log_lt (x := e + spec.mantissaBitsWithoutImplicit + 1) one_lt_two hq
  rw [lastPlace, Format.targetExponent, max_le_iff, mantissaBits_eq]
  push_cast at hlog ⊢
  rw [hlog]
  omega

/-- The exponent that a mantissa is shifted to is the place of the last digit of its number. -/
theorem targetExponent_eq_lastPlace (hq : 0 < q) (h : ⌊q / 2 ^ f⌋ = n)
    (hf : f ≤ lastPlace spec q) :
    spec.targetExponent (totalExponent n f) = lastPlace spec q := by
  rcases Nat.eq_zero_or_pos n with rfl | hn
  · -- less than one unit: the number is so small that the last digit is the last of all
    have hlt : q < 2 ^ f := by
      have hfloor := (Int.floor_eq_iff.1 h).2
      rwa [Int.natCast_zero, Int.cast_zero, zero_add, div_lt_one (two_zpow_pos f)] at hfloor
    have hlog : Int.log 2 q < f := (Int.lt_zpow_iff_log_lt one_lt_two hq).1 (by exact_mod_cast hlt)
    rw [lastPlace, Format.targetExponent] at hf ⊢
    rw [Format.targetExponent, totalExponent, Nat.log2_zero]
    rw [mantissaBits_eq] at hf ⊢
    omega
  · rw [lastPlace, Binary64.log_eq_log2_add hn h, totalExponent]
    congr 1
    omega

/-- Cutting a mantissa off at the last digit of its number. -/
theorem exists_shiftToTargetExponent {acc : Accuracy} (hq : 0 < q)
    (h : StandsFor (.ofMantissaAndAccuracy n acc) (q / 2 ^ f)) (hf : f ≤ lastPlace spec q) :
    ∃ em, shiftToTargetExponent spec n f acc = (em, lastPlace spec q) ∧
      StandsFor em (q / 2 ^ lastPlace spec q) := by
  obtain ⟨k, hk⟩ : ∃ k : ℕ, lastPlace spec q = f + k := ⟨(lastPlace spec q - f).toNat, by omega⟩
  have hfloor : ⌊q / 2 ^ f⌋ = n := by
    rw [h.floor_eq, Binary64.mantissa_ofMantissaAndAccuracy]
  have hamount : (f + k - f).toNat = k := by omega
  refine ⟨ExtendedMantissa.ofMantissaAndAccuracy n acc >>> k, ?_, ?_⟩
  · rw [shiftToTargetExponent, targetExponent_eq_lastPlace hq hfloor hf, shiftToExponent, hk,
      hamount]
  · rw [hk, zpow_add₀ two_ne_zero, zpow_natCast, ← div_div]
    exact h.shiftRight k

/-- The digits of a quotient that are worked out reach down to the last digit of the format. -/
theorem targetExponent_div_le_lastPlace (hn : 0 < n) (hm : 0 < m) :
    spec.targetExponent (totalExponent n f - totalExponent m e) ≤
      lastPlace spec (n * 2 ^ f / (m * 2 ^ e)) := by
  have hpos : 0 < (n : ℚ) * 2 ^ f := mul_pos (by exact_mod_cast hn) (two_zpow_pos f)
  have hpos' : 0 < (m : ℚ) * 2 ^ e := mul_pos (by exact_mod_cast hm) (two_zpow_pos e)
  have hlow : (2 : ℚ) ^ ((n.log2 : ℤ) + f) ≤ n * 2 ^ f := by
    rw [← Binary64.log_mul_two_zpow hn]
    exact_mod_cast Int.zpow_log_le_self one_lt_two hpos
  have hhigh : (m : ℚ) * 2 ^ e ≤ 2 ^ ((m.log2 : ℤ) + e + 1) := by
    rw [← Binary64.log_mul_two_zpow hm]
    exact_mod_cast (Int.lt_zpow_succ_log_self one_lt_two ((m : ℚ) * 2 ^ e)).le
  have hquotient :
      (2 : ℚ) ^ ((n.log2 : ℤ) + f - (m.log2 + e + 1)) ≤ n * 2 ^ f / (m * 2 ^ e) := by
    rw [zpow_sub₀ two_ne_zero]
    exact div_le_div₀ hpos.le hlow hpos' hhigh
  have hlog : (n.log2 : ℤ) + f - (m.log2 + e + 1) ≤ Int.log 2 ((n : ℚ) * 2 ^ f / (m * 2 ^ e)) :=
    (Int.zpow_le_iff_le_log one_lt_two (div_pos hpos hpos')).1 (by exact_mod_cast hquotient)
  simp only [lastPlace, Format.targetExponent, totalExponent]
  omega

end Binary

namespace Binary64

variable {q r : ℚ}

/-! ### Rounding a mantissa and an exponent -/

theorem lastPlace_eq (q : ℚ) : Binary.lastPlace Format.binary64 q = lastPlace q := by
  change max (Int.log 2 q + 1 - 53) (-1074) = lastPlace q
  unfold lastPlace
  omega

theorem le_lastPlace {e : ℤ} (hq : 0 < q) (h : e ≤ -1074 ∨ 2 ^ (e + 52) ≤ q) :
    e ≤ lastPlace q := by
  rw [← lastPlace_eq]
  exact (Binary.le_lastPlace_iff hq).2 h.symm

/-- A number in units of its last digit has at most one binary digit more than a mantissa, and
fills it unless the last digit is the last of all. -/
theorem nearestEven_bounds (hq : 0 < q) :
    nearestEven (q / 2 ^ lastPlace q) ≤ 2 ^ 53 ∧
      (2 ^ 52 ≤ nearestEven (q / 2 ^ lastPlace q) ∨ lastPlace q = -1074) := by
  have hpos := two_zpow_pos (lastPlace q)
  constructor
  · have hlt : q < 2 ^ (Int.log 2 q + 1) := by
      exact_mod_cast Int.lt_zpow_succ_log_self one_lt_two q
    have hplace : (2 : ℚ) ^ (Int.log 2 q + 1) ≤ 2 ^ (53 + lastPlace q) :=
      zpow_le_zpow_right₀ one_le_two (by unfold lastPlace; omega)
    rw [zpow_add₀ two_ne_zero 53] at hplace
    rw [← nearestEven_intCast (2 ^ 53)]
    refine nearestEven_mono ((div_le_iff₀ hpos).2 ?_)
    exact_mod_cast hlt.le.trans hplace
  · refine or_iff_not_imp_right.2 fun hne => ?_
    have hle : 2 ^ Int.log 2 q ≤ q := by
      exact_mod_cast Int.zpow_log_le_self one_lt_two hq
    have hplace : (2 : ℚ) ^ (52 + lastPlace q) ≤ 2 ^ Int.log 2 q :=
      zpow_le_zpow_right₀ one_le_two (by unfold lastPlace at hne ⊢; omega)
    rw [zpow_add₀ two_ne_zero] at hplace
    rw [← nearestEven_intCast (2 ^ 52)]
    refine nearestEven_mono ((le_div_iff₀ hpos).2 ?_)
    exact_mod_cast hplace.trans hle

/-- The mantissas and exponents that rounding gives: those of doubles and of zero, but the exponent
may be too large for a double. -/
structure IsRounded (m : ℕ) (e : ℤ) : Prop where
  mantissa_lt : m < 2 ^ 53
  le_exponent : -1074 ≤ e
  fills : 2 ^ 52 ≤ m ∨ e = -1074

/-- A mantissa that a carry made one digit too long loses a zero, every other one stays. -/
theorem exists_shiftToTargetExponent {m : ℕ} {e : ℤ} (hm : m ≤ 2 ^ 53) (he : -1074 ≤ e)
    (hfills : 2 ^ 52 ≤ m ∨ e = -1074) :
    ∃ (n : ℕ) (f : ℤ), IsRounded n f ∧ (n : ℚ) * 2 ^ f = m * 2 ^ e ∧
      shiftToTargetExponent Format.binary64 m e .exact = (⟨n, false, false⟩, f) := by
  have hshift (k : ℕ) (htarget : (max ((m.log2 : ℤ) + 1 + e - 53) (-1074) - e).toNat = k) :
      shiftToTargetExponent Format.binary64 m e .exact =
        ((⟨m, false, false⟩ : ExtendedMantissa) >>> k, e + k) := by
    rw [← htarget]
    rfl
  rcases hm.lt_or_eq with hlt | rfl
  · have hlog : m.log2 < 53 := by
      rcases Nat.eq_zero_or_pos m with rfl | hpos
      · decide
      · exact (Nat.log2_lt (Nat.ne_of_gt hpos)).2 hlt
    refine ⟨m, e, ⟨hlt, he, hfills⟩, rfl, ?_⟩
    rw [hshift 0 (by omega), Int.natCast_zero, add_zero]
    rfl
  · have hlog : Nat.log2 (2 ^ 53) = 53 := by decide
    refine ⟨2 ^ 52, e + 1, ⟨by decide, by omega, .inl le_rfl⟩, ?_, ?_⟩
    · rw [zpow_add_one₀ two_ne_zero]
      push_cast
      ring
    · rw [hshift 1 (by rw [hlog]; omega)]
      rfl

/-- **Rounding a mantissa and an exponent.** As long as no digit is missing at the end, what comes
of a mantissa, the digits below it and an exponent is their number, rounded. -/
theorem roundWithAccuracy_eq {m : ℕ} {e : ℤ} {acc : Accuracy} (hq : 0 < q)
    (h : StandsFor (.ofMantissaAndAccuracy m acc) (q / 2 ^ e)) (he : e ≤ lastPlace q) (s : Sign) :
    ∃ (n : ℕ) (f : ℤ), IsRounded n f ∧ (n : ℚ) * 2 ^ f = roundedSize q ∧
      roundWithAccuracy Format.binary64 s m e acc =
        if hn : n = 0 then .zero s else .finite s n f (Nat.pos_of_ne_zero hn) := by
  rw [← lastPlace_eq] at he
  obtain ⟨em, hfirst, hem⟩ := Binary.exists_shiftToTargetExponent hq h he
  rw [lastPlace_eq] at hfirst hem
  have hrounded := hem.roundedMantissa
  obtain ⟨hmax, hfills⟩ := nearestEven_bounds hq
  rw [← hrounded] at hmax hfills
  obtain ⟨n, f, hn, hvalue, hsecond⟩ :=
    exists_shiftToTargetExponent (m := em.roundedMantissa) (e := lastPlace q) (by omega)
      (le_max_right _ _) (by omega)
  refine ⟨n, f, hn, ?_, ?_⟩
  · rw [hvalue, roundedSize, ← hrounded, Int.cast_natCast]
  · simp only [roundWithAccuracy, hfirst, hsecond]

end Binary64

end SceneLoop
