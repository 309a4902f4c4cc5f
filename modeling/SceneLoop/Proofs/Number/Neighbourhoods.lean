import Mathlib
import SceneLoop.Number.Shortest
import SceneLoop.Proofs.Number.Arithmetic
import SceneLoop.Proofs.Number.Formats

/-!
# Rounding back to a number

The numbers that are rounded to a number of a format are those of its neighbourhood: they reach
halfway to the next number on either side, and the ends belong to it if the mantissa is even.  Below
a power of two the numbers are twice as dense, so there the neighbourhood ends earlier.

Rounding takes place in two steps: a mantissa is cut off at the last digit that numbers of its size
have, and if it is then one digit too long, a carry has made it a power of two and a zero is
dropped.  In a neighbourhood only the power of two itself needs the second step.

## Main definitions

* `Binary.around`, `Neighbourhood.Holds` : the neighbourhood of a number, and what lies in it.

## Main results

* `Binary.roundWithAccuracy_of_holds` : what lies in the neighbourhood of a number is rounded to it.
* `Binary.round_of_eq`, `Binary.mul_of_holds`, `Binary.div_of_holds` : the same for a mantissa and
  an exponent, for products and for quotients.
-/

namespace SceneLoop

open Float.Model (UnpackedFloat Format totalExponent)
open Float.Model.UnpackedFloat
open Binary64 (StandsFor nearestEven two_zpow_pos)

namespace Neighbourhood

/-- A number lies in a neighbourhood. -/
def Holds (n : Neighbourhood) (q : ℚ) : Prop :=
  if n.closed then n.low * 2 ^ n.unit ≤ q ∧ q ≤ n.high * 2 ^ n.unit
  else n.low * 2 ^ n.unit < q ∧ q < n.high * 2 ^ n.unit

end Neighbourhood

namespace Binary

variable {spec : Format} {m n : ℕ} {e f : ℤ} {q r : ℚ}

/-- A carry makes a mantissa one digit too long, and a zero is dropped. -/
theorem shiftToTargetExponent_carry (he : spec.minExponent < e) :
    shiftToTargetExponent spec (2 ^ (spec.mantissaBitsWithoutImplicit + 1)) (e - 1) .exact =
      (⟨2 ^ spec.mantissaBitsWithoutImplicit, false, false⟩, e) := by
  have htarget : spec.targetExponent
      (totalExponent (2 ^ (spec.mantissaBitsWithoutImplicit + 1)) (e - 1)) = e - 1 + (1 : ℕ) := by
    rw [Format.targetExponent, totalExponent, mantissaBits_eq, Nat.log2_two_pow]
    omega
  rw [shiftToTargetExponent_eq htarget, Int.natCast_one, sub_add_cancel, pow_succ]
  exact congrArg (·, e) (Binary64.shiftRight_mul_two_pow _ 1)

/-! ### Neighbourhoods -/

/-- The neighbourhood of a number of a format. -/
def around (spec : Format) (m : ℕ) (e : ℤ) : Neighbourhood :=
  .around m e (m == 2 ^ spec.mantissaBitsWithoutImplicit && spec.minExponent < e)

/-- How far the neighbourhood of a number reaches down, in units of its last digit: below the power
of two with which an exponent begins, the numbers are twice as dense. -/
def lowerHalf (spec : Format) (m : ℕ) (e : ℤ) : ℚ :=
  if m = 2 ^ spec.mantissaBitsWithoutImplicit ∧ spec.minExponent < e then 1 / 4 else 1 / 2

theorem lowerHalf_le (spec : Format) (m : ℕ) (e : ℤ) : lowerHalf spec m e ≤ 1 / 2 := by
  unfold lowerHalf
  split_ifs <;> norm_num

/-- What lies in the neighbourhood of a number, in units of its last digit. -/
theorem holds_around_iff (hm : 0 < m) :
    (around spec m e).Holds q ↔
      if m % 2 = 0 then m - lowerHalf spec m e ≤ q / 2 ^ e ∧ q / 2 ^ e ≤ m + 1 / 2
      else m - lowerHalf spec m e < q / 2 ^ e ∧ q / 2 ^ e < m + 1 / 2 := by
  have hpos := two_zpow_pos e
  have hunit : (2 : ℚ) ^ (e - 2) = 2 ^ e / 4 := by
    rw [zpow_sub₀ two_ne_zero]
    norm_num
  have hhigh : ((around spec m e).high : ℚ) * 2 ^ (e - 2) = (m + 1 / 2) * 2 ^ e := by
    rw [around, Neighbourhood.around, hunit]
    push_cast
    ring
  have hlow : ((around spec m e).low : ℚ) * 2 ^ (e - 2) = (m - lowerHalf spec m e) * 2 ^ e := by
    rw [around, Neighbourhood.around, hunit, lowerHalf]
    simp only [Bool.and_eq_true, beq_iff_eq, decide_eq_true_eq]
    split_ifs
    · rw [Nat.cast_sub (by omega)]
      push_cast
      ring
    · rw [Nat.cast_sub (by omega)]
      push_cast
      ring
  rw [Neighbourhood.Holds]
  change (if decide (m % 2 = 0) = true then _ * 2 ^ (e - 2) ≤ q ∧ q ≤ _ * 2 ^ (e - 2)
    else _ * 2 ^ (e - 2) < q ∧ q < _ * 2 ^ (e - 2)) ↔ _
  rw [hlow, hhigh, le_div_iff₀ hpos, div_le_iff₀ hpos, lt_div_iff₀ hpos, div_lt_iff₀ hpos]
  simp only [decide_eq_true_eq]

theorem mantissa_of_holds (hm : 0 < m) (h : (around spec m e).Holds q) :
    m - lowerHalf spec m e ≤ q / 2 ^ e ∧ q / 2 ^ e ≤ m + 1 / 2 := by
  rw [holds_around_iff hm] at h
  split_ifs at h with heven
  · exact h
  · exact ⟨h.1.le, h.2.le⟩

/-- The ends of a neighbourhood belong to it only if the mantissa is even. -/
theorem even_of_holds (hm : 0 < m) (h : (around spec m e).Holds q)
    (hend : q / 2 ^ e = m - 1 / 2 ∨ q / 2 ^ e = m + 1 / 2) : m % 2 = 0 := by
  by_contra hodd
  have hhalf := lowerHalf_le spec m e
  rw [holds_around_iff hm, if_neg hodd] at h
  rcases hend with hend | hend <;> linarith [h.1, h.2]

/-- A number lies in its own neighbourhood. -/
theorem holds_around_self (hm : 0 < m) : (around spec m e).Holds (m * 2 ^ e) := by
  have hlow : 0 < lowerHalf spec m e := by
    unfold lowerHalf
    split_ifs <;> norm_num
  rw [holds_around_iff hm, mul_div_cancel_right₀ _ (two_zpow_pos e).ne']
  split_ifs <;> constructor <;> linarith

/-! ### Rounding to the mantissa -/

/-- A number that is at most half a unit away from an integer is rounded to it, if a tie goes to an
even one. -/
theorem nearestEven_eq {k : ℤ} (hlow : k - 1 / 2 ≤ q) (hhigh : q ≤ k + 1 / 2)
    (htie : q = k - 1 / 2 ∨ q = k + 1 / 2 → k % 2 = 0) : nearestEven q = k := by
  rcases lt_or_ge q k with hlt | hge
  · have hfloor : ⌊q⌋ = k - 1 := Int.floor_eq_iff.2 ⟨by push_cast; linarith, by push_cast; linarith⟩
    have hfract : Int.fract q = q - (k - 1) := by rw [Int.fract, hfloor]; push_cast; rfl
    rw [nearestEven, hfract, hfloor]
    split_ifs with h h'
    · linarith
    · ring
    · have heven := htie (.inl (by linarith))
      omega
  · have hfloor : ⌊q⌋ = k := Int.floor_eq_iff.2 ⟨hge, by linarith⟩
    have hfract : Int.fract q = q - k := by rw [Int.fract, hfloor]
    rw [nearestEven, hfract, hfloor]
    split_ifs with h h'
    · rfl
    · linarith
    · have heven := htie (.inr (by linarith))
      omega

namespace InFormat

theorem pos_of_holds (hm : InFormat spec m e) (h : (around spec m e).Holds q) : 0 < q := by
  have hone : (1 : ℚ) ≤ m := by exact_mod_cast hm.pos
  have hhalf := lowerHalf_le spec m e
  have hscaled : 0 < q / 2 ^ e := by linarith [(mantissa_of_holds hm.pos h).1]
  exact (div_pos_iff_of_pos_right (two_zpow_pos e)).1 hscaled

/-- What lies in the neighbourhood of a number has its last digit in the same place and is rounded
to its mantissa there, or it lies below the power of two with which the exponent begins and is
rounded up to that. -/
theorem nearestEven_of_holds (hm : InFormat spec m e) (h : (around spec m e).Holds q) :
    lastPlace spec q = e ∧ nearestEven (q / 2 ^ e) = m ∨
      lastPlace spec q = e - 1 ∧ spec.minExponent < e ∧ m = 2 ^ spec.mantissaBitsWithoutImplicit ∧
        nearestEven (q / 2 ^ (e - 1)) = 2 ^ (spec.mantissaBitsWithoutImplicit + 1) := by
  have hq := hm.pos_of_holds h
  have hpos := two_zpow_pos e
  have hhalf := lowerHalf_le spec m e
  obtain ⟨hlow, hhigh⟩ := mantissa_of_holds hm.pos h
  have hmantissa : (m : ℚ) + 1 ≤ 2 ^ (spec.mantissaBitsWithoutImplicit + 1) := by
    exact_mod_cast hm.mantissa_lt
  have hplace : lastPlace spec q ≤ e := by
    refine (lastPlace_le_iff hq).2 ⟨?_, hm.le_exponent⟩
    rw [add_assoc, zpow_add₀ two_ne_zero, mul_comm, ← div_lt_iff₀ hpos]
    exact_mod_cast (show q / 2 ^ e < 2 ^ (spec.mantissaBitsWithoutImplicit + 1) by linarith)
  by_cases hsame : 2 ^ (e + spec.mantissaBitsWithoutImplicit) ≤ q ∨ e ≤ spec.minExponent
  · refine .inl ⟨le_antisymm hplace ((le_lastPlace_iff hq).2 hsame), ?_⟩
    refine nearestEven_eq ?_ ?_ fun hend => ?_
    · push_cast
      linarith
    · push_cast
      linarith
    · exact_mod_cast even_of_holds hm.pos h hend
  · -- below the power of two, with one digit more
    obtain ⟨hbelow, hmin⟩ := not_or.1 hsame
    rw [not_le] at hbelow hmin
    have hbelow' : q / 2 ^ e < 2 ^ spec.mantissaBitsWithoutImplicit := by
      rw [zpow_add₀ two_ne_zero, mul_comm, ← div_lt_iff₀ hpos] at hbelow
      exact_mod_cast hbelow
    have hm_eq : m = 2 ^ spec.mantissaBitsWithoutImplicit := by
      have hfills := hm.fills.resolve_right hmin.ne'
      have hlt : (m : ℚ) < 2 ^ spec.mantissaBitsWithoutImplicit + 1 := by linarith
      have hlt' : m < 2 ^ spec.mantissaBitsWithoutImplicit + 1 := by exact_mod_cast hlt
      omega
    have hm_cast : (m : ℚ) = 2 ^ spec.mantissaBitsWithoutImplicit := by exact_mod_cast hm_eq
    have hone : (1 : ℚ) ≤ 2 ^ spec.mantissaBitsWithoutImplicit := one_le_pow₀ one_le_two
    rw [lowerHalf, if_pos ⟨hm_eq, hmin⟩, hm_cast] at hlow
    have hdouble : q / 2 ^ (e - 1) = 2 * (q / 2 ^ e) := by
      rw [zpow_sub_one₀ two_ne_zero]
      field_simp
    refine .inr ⟨le_antisymm ?_ ?_, hmin, hm_eq, ?_⟩
    · refine (lastPlace_le_iff hq).2 ⟨?_, by omega⟩
      rwa [add_right_comm, sub_add_cancel]
    · refine (le_lastPlace_iff hq).2 (.inl ?_)
      rw [add_comm, zpow_add₀ two_ne_zero, ← le_div_iff₀ (two_zpow_pos _), hdouble, zpow_natCast]
      linarith
    · rw [hdouble]
      refine nearestEven_eq ?_ ?_ fun _ => ?_
      · push_cast
        rw [pow_succ]
        linarith
      · push_cast
        rw [pow_succ]
        linarith
      · rw [pow_succ]
        exact Int.mul_emod_left ..

end InFormat

/-- **Rounding back to a number.** What lies in the neighbourhood of a number of a format is rounded
to it, whatever mantissa and digits below it stand for it, if no digit is missing at the end. -/
theorem roundWithAccuracy_of_holds (hm : InFormat spec m e) (hq : (around spec m e).Holds q)
    {acc : Accuracy} (h : StandsFor (.ofMantissaAndAccuracy n acc) (q / 2 ^ f))
    (hf : f ≤ lastPlace spec q) (s : Sign) :
    roundWithAccuracy spec s n f acc = .finite s m e hm.pos := by
  obtain ⟨em, hfirst, hem⟩ := exists_shiftToTargetExponent (hm.pos_of_holds hq) h hf
  have hrounded := hem.roundedMantissa
  have hsecond : shiftToTargetExponent spec em.roundedMantissa (lastPlace spec q) .exact =
      (⟨m, false, false⟩, e) := by
    rcases hm.nearestEven_of_holds hq with ⟨hplace, heq⟩ | ⟨hplace, hmin, hm_eq, heq⟩
    · rw [hplace, heq, Nat.cast_inj] at hrounded
      rw [hplace, hrounded, hm.shiftToTargetExponent]
    · have hcarry : em.roundedMantissa = 2 ^ (spec.mantissaBitsWithoutImplicit + 1) := by
        rw [hplace, heq] at hrounded
        exact_mod_cast hrounded
      rw [hplace, hcarry, shiftToTargetExponent_carry hmin, hm_eq]
  simp only [roundWithAccuracy, hfirst, hsecond, hm.pos.ne', dite_false]

/-! ### Rounding results -/

/-- A number of a format is rounded to itself, from whatever mantissa and exponent. -/
theorem round_of_eq (hm : InFormat spec m e) (hn : 0 < n) (h : (n : ℚ) * 2 ^ f = m * 2 ^ e)
    (s : Sign) : UnpackedFloat.round spec s n f = .finite s m e hm.pos := by
  have hplace : spec.targetExponent (totalExponent n f) = lastPlace spec ((n : ℚ) * 2 ^ f) := by
    rw [lastPlace, Binary64.log_mul_two_zpow hn, totalExponent]
    congr 1
    omega
  have hholds : (around spec m e).Holds ((n : ℚ) * 2 ^ f) := h ▸ holds_around_self hm.pos
  simp only [UnpackedFloat.round, hplace, decreaseExponent]
  refine roundWithAccuracy_of_holds hm hholds (Binary64.standsFor_exact ?_) (by omega) s
  rw [Nat.shiftLeft_eq, zpow_sub₀ two_ne_zero, zpow_natCast]
  have hpos := two_zpow_pos f
  push_cast
  field_simp

section

variable {n' : ℕ} {f' : ℤ} {hn : 0 < n} {hn' : 0 < n'}

/-- A product is rounded to a number in whose neighbourhood it lies, if its digits fill a
mantissa. -/
theorem mul_of_holds (hm : InFormat spec m e)
    (hq : (around spec m e).Holds (n * 2 ^ f * (n' * 2 ^ f')))
    (hfull : 2 ^ spec.mantissaBitsWithoutImplicit ≤ n * n') (s s' : Sign) :
    UnpackedFloat.mul spec (.finite s n f hn) (.finite s' n' f' hn') =
      .finite (s * s') m e hm.pos := by
  have hproduct : (n : ℚ) * 2 ^ f * (n' * 2 ^ f') = (n * n' : ℕ) * 2 ^ (f + f') := by
    rw [zpow_add₀ two_ne_zero]
    push_cast
    ring
  have hpos := two_zpow_pos (f + f')
  refine roundWithAccuracy_of_holds hm hq (Binary64.standsFor_exact ?_) ?_ (s * s')
  · rw [hproduct, mul_div_cancel_right₀ _ hpos.ne']
  · refine (le_lastPlace_iff (hm.pos_of_holds hq)).2 (.inl ?_)
    rw [hproduct, add_comm, zpow_add₀ two_ne_zero]
    exact mul_le_mul_of_nonneg_right (by exact_mod_cast hfull) hpos.le

/-- A quotient is rounded to a number in whose neighbourhood it lies. -/
theorem div_of_holds (hm : InFormat spec m e)
    (hq : (around spec m e).Holds (n * 2 ^ f / (n' * 2 ^ f'))) (s s' : Sign) :
    UnpackedFloat.div spec (.finite s n f hn) (.finite s' n' f' hn') =
      .finite (s / s') m e hm.pos := by
  have hplace : spec.targetExponent (totalExponent n f - totalExponent n' f') ≤
      lastPlace spec (n * 2 ^ f / (n' * 2 ^ f')) := targetExponent_div_le_lastPlace hn hn'
  simp only [UnpackedFloat.div, divCore]
  generalize spec.targetExponent (totalExponent n f - totalExponent n' f') = k at hplace
  exact roundWithAccuracy_of_holds hm hq (Binary64.standsFor_quotient n hn' f f' k)
    ((min_le_right _ k).trans hplace) (s / s')

end

end Binary

end SceneLoop
