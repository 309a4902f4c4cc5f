import Mathlib
import SceneLoop.Proofs.Number.Neighbourhoods

/-!
# The shortest decimal

The digits that are found for a number lie in its neighbourhood, so they are rounded back to it.
They are sought on finer and finer grids of powers of ten, and a grid whose step is less than the
distance from the number to the upper end of its neighbourhood has a point there.  In single
precision seventeen digits are more than enough.

## Main definitions

* `Decimal.value` : the number that a decimal stands for.

## Main results

* `Neighbourhood.contains_iff` : what is tested is whether a point of a grid lies in a
  neighbourhood.
* `Neighbourhood.exists_nearestOn?` : a fine grid has a point in a neighbourhood.
* `Neighbourhood.ten_zpow_leadingExponent_le` : the leading digit is not overestimated.
* `Binary32.holds_shortest` : the shortest decimal of a single lies in its neighbourhood.
-/

namespace SceneLoop

open Float.Model (UnpackedFloat Format)
open Float.Model.UnpackedFloat
open Binary64 (two_zpow_pos)

theorem ten_zpow_pos (k : ℤ) : (0 : ℚ) < 10 ^ k :=
  zpow_pos (by norm_num) k

namespace Decimal

/-- The number that a decimal stands for. -/
def value (d : Decimal) : ℚ :=
  d.digits * 10 ^ d.exponent

theorem value_trimZeros (d : Decimal) : d.trimZeros.value = d.value := by
  fun_induction trimZeros d with
  | case1 d h ih =>
    have hdigits : (d.digits : ℚ) = 10 * (d.digits / 10 : ℕ) := by
      exact_mod_cast (by omega : d.digits = 10 * (d.digits / 10))
    rw [ih, value, value, hdigits, zpow_add_one₀ (by norm_num)]
    ring
  | case2 d h => rfl

end Decimal

namespace Neighbourhood

variable {n : Neighbourhood} {k : ℤ} {d : ℕ}

/-! ### Units and grids -/

/-- The common measure of the units and a grid, as a factor that makes both whole. -/
def measure (n : Neighbourhood) (k : ℤ) : ℚ :=
  2 ^ (-n.unit).toNat * 10 ^ (-k).toNat

theorem measure_pos (n : Neighbourhood) (k : ℤ) : 0 < n.measure k := by
  unfold measure
  positivity

theorem pow_toNat {x : ℚ} (hx : x ≠ 0) (k : ℤ) : x ^ k.toNat = x ^ k * x ^ (-k).toNat := by
  rw [← zpow_natCast, ← zpow_natCast, ← zpow_add₀ hx]
  congr 1
  omega

theorem unitScale_eq (n : Neighbourhood) (k : ℤ) :
    (n.unitScale k : ℚ) = 2 ^ n.unit * n.measure k := by
  rw [unitScale, measure]
  push_cast
  rw [pow_toNat two_ne_zero n.unit]
  ring

theorem gridScale_eq (n : Neighbourhood) (k : ℤ) :
    (n.gridScale k : ℚ) = 10 ^ k * n.measure k := by
  rw [gridScale, measure]
  push_cast
  rw [pow_toNat (by norm_num) k]
  ring

/-- Counts of units and counts of steps are compared as the numbers they stand for. -/
theorem unit_le_grid_iff {a b : ℕ} :
    a * n.unitScale k ≤ b * n.gridScale k ↔ (a : ℚ) * 2 ^ n.unit ≤ b * 10 ^ k := by
  rw [← Nat.cast_le (α := ℚ)]
  push_cast
  rw [unitScale_eq, gridScale_eq, ← mul_assoc, ← mul_assoc,
    mul_le_mul_iff_left₀ (n.measure_pos k)]

theorem grid_le_unit_iff {a b : ℕ} :
    a * n.gridScale k ≤ b * n.unitScale k ↔ (a : ℚ) * 10 ^ k ≤ b * 2 ^ n.unit := by
  rw [← Nat.cast_le (α := ℚ)]
  push_cast
  rw [unitScale_eq, gridScale_eq, ← mul_assoc, ← mul_assoc,
    mul_le_mul_iff_left₀ (n.measure_pos k)]

/-- What is tested is whether a point of a grid lies in a neighbourhood. -/
theorem contains_iff : n.contains k d ↔ n.Holds (d * 10 ^ k) := by
  rw [contains, Holds]
  split
  · rw [Bool.and_eq_true, decide_eq_true_eq, decide_eq_true_eq, unit_le_grid_iff, grid_le_unit_iff]
  · rw [Bool.and_eq_true, decide_eq_true_eq, decide_eq_true_eq, ← not_le, ← not_le,
      unit_le_grid_iff, grid_le_unit_iff, not_le, not_le]

/-! ### Points of a grid -/

theorem contains_of_nearestOn? (h : n.nearestOn? k = some d) : n.contains k d := by
  rw [nearestOn?] at h
  split at h
  · next hbelow habove =>
    split_ifs at h <;> cases h
    · exact hbelow
    · exact habove
  · next hbelow _ =>
    cases h
    exact hbelow
  · next _ habove =>
    cases h
    exact habove
  · cases h

/-- A grid whose step is less than the distance to the upper end has a point in a neighbourhood: the
first one above the number. -/
theorem exists_nearestOn? (hlow : n.low ≤ n.mid) (hhigh : n.high = n.mid + 2)
    (hstep : n.gridScale k < 2 * n.unitScale k) : ∃ d, n.nearestOn? k = some d := by
  have hpos : 0 < n.gridScale k := by unfold gridScale; positivity
  have hdiv := Nat.div_add_mod (n.mid * n.unitScale k) (n.gridScale k)
  have hmod := Nat.mod_lt (n.mid * n.unitScale k) hpos
  have habove : n.contains k (n.mid * n.unitScale k / n.gridScale k + 1) := by
    have hlow' := Nat.mul_le_mul_right (n.unitScale k) hlow
    have hend : n.high * n.unitScale k = n.mid * n.unitScale k + 2 * n.unitScale k := by
      rw [hhigh, Nat.add_mul]
    have hpoint : (n.mid * n.unitScale k / n.gridScale k + 1) * n.gridScale k =
        n.gridScale k * (n.mid * n.unitScale k / n.gridScale k) + n.gridScale k := by ring
    rw [contains]
    rw [hpoint, hend]
    split <;> rw [Bool.and_eq_true, decide_eq_true_eq, decide_eq_true_eq] <;> omega
  rw [nearestOn?]
  rw [habove]
  cases n.contains k (n.mid * n.unitScale k / n.gridScale k) <;> exact ⟨_, rfl⟩

/-! ### The leading digit -/

/-- A power of ten is guessed from a power of two, and it is never too large. -/
theorem ten_zpow_guess_le {l : ℤ} (hmin : -200 ≤ l) (hmax : l ≤ 200) :
    (10 : ℚ) ^ (l * 30103 / 100000) ≤ 2 ^ l := by
  have hall : ∀ i < 401, 10 ^ (((i : ℕ) - 200 : ℤ) * 30103 / 100000).toNat *
        2 ^ (-((i : ℕ) - 200 : ℤ)).toNat ≤
      2 ^ ((i : ℕ) - 200 : ℤ).toNat * 10 ^ (-(((i : ℕ) - 200 : ℤ) * 30103 / 100000)).toNat := by
    decide +kernel
  obtain ⟨i, rfl⟩ : ∃ i : ℕ, l = i - 200 := ⟨(l + 200).toNat, by omega⟩
  have hle := hall i (by omega)
  generalize ((i : ℤ) - 200) * 30103 / 100000 = g at hle ⊢
  generalize (i : ℤ) - 200 = l at hle ⊢
  have hmeasure : (0 : ℚ) < 10 ^ (-g).toNat * 2 ^ (-l).toNat := by positivity
  rw [← Nat.cast_le (α := ℚ)] at hle
  push_cast at hle
  rw [pow_toNat (by norm_num) g, pow_toNat two_ne_zero l] at hle
  rw [← mul_le_mul_iff_left₀ hmeasure]
  linarith

/-- The leading digit is not overestimated. -/
theorem ten_zpow_leadingExponent_le (hmid : 0 < n.mid) (hmin : -200 ≤ n.mid.log2 + n.unit)
    (hmax : n.mid.log2 + n.unit ≤ 200) :
    (10 : ℚ) ^ n.leadingExponent ≤ n.mid * 2 ^ n.unit := by
  rw [leadingExponent]
  split
  · next h =>
    rw [← one_mul (gridScale _ _), grid_le_unit_iff] at h
    rwa [Nat.cast_one, one_mul] at h
  · have hlog := Binary64.log_mul_two_zpow hmid n.unit
    have hpos : (0 : ℚ) < n.mid * 2 ^ n.unit :=
      mul_pos (by exact_mod_cast hmid) (two_zpow_pos n.unit)
    refine (ten_zpow_guess_le hmin hmax).trans ?_
    rw [← hlog]
    exact_mod_cast Int.zpow_log_le_self one_lt_two hpos

/-! ### The decimal that is found -/

/-- If one of the grids has a point in a neighbourhood, the decimal that is found lies there. -/
theorem holds_shortest_of_nearestOn? {i : ℕ} (hi : i < 17)
    (h : n.nearestOn? (n.leadingExponent - i) = some d) : n.Holds (Decimal.shortest n).value := by
  rw [Decimal.shortest, Decimal.value_trimZeros]
  cases hfound : (List.range 17).findSome? fun i : ℕ =>
      (n.nearestOn? (n.leadingExponent - i)).map fun d =>
        (⟨d, n.leadingExponent - i⟩ : Decimal) with
  | none =>
    have hnone := List.findSome?_eq_none_iff.1 hfound i (List.mem_range.2 hi)
    simp [h] at hnone
  | some found =>
    obtain ⟨j, -, hj⟩ := List.exists_of_findSome?_eq_some hfound
    obtain ⟨d, hd, rfl⟩ := Option.map_eq_some_iff.1 hj
    exact contains_iff.1 (contains_of_nearestOn? hd)

/-- The decimal that is found for a number of fewer than `10 ^ 16` units lies in its neighbourhood:
the step of the finest grid is less than a unit. -/
theorem holds_shortest (hlow : n.low ≤ n.mid) (hhigh : n.high = n.mid + 2) (hpos : 0 < n.mid)
    (hmid : n.mid < 10 ^ 16) (hmin : -200 ≤ n.mid.log2 + n.unit)
    (hmax : n.mid.log2 + n.unit ≤ 200) : n.Holds (Decimal.shortest n).value := by
  have hunit := two_zpow_pos n.unit
  have hlead := ten_zpow_leadingExponent_le hpos hmin hmax
  have hmid' : (n.mid : ℚ) < 10 ^ 16 := by exact_mod_cast hmid
  have hfine : (10 : ℚ) ^ (n.leadingExponent - (16 : ℕ)) < 2 ^ n.unit := by
    rw [zpow_sub₀ (by norm_num), zpow_natCast, div_lt_iff₀ (by norm_num), mul_comm]
    exact hlead.trans_lt (mul_lt_mul_of_pos_right hmid' hunit)
  have hstep : n.gridScale (n.leadingExponent - (16 : ℕ)) <
      2 * n.unitScale (n.leadingExponent - (16 : ℕ)) := by
    rw [← one_mul (gridScale _ _), ← not_le, unit_le_grid_iff, not_le]
    push_cast at hfine ⊢
    linarith
  obtain ⟨d, hd⟩ := exists_nearestOn? hlow hhigh hstep
  exact holds_shortest_of_nearestOn? (by decide) hd

end Neighbourhood

namespace Binary32

variable {m : ℕ} {e : ℤ}

/-- The mantissas and exponents of single precision, in numbers. -/
theorem bounds_of_inFormat (h : Binary.InFormat Format.binary32 m e) :
    m < 2 ^ 24 ∧ -149 ≤ e ∧ e ≤ 104 := by
  have hmax : e + 127 + 23 + 1 < 256 := h.exponent_lt
  exact ⟨h.mantissa_lt, h.le_exponent, by omega⟩

/-- **The shortest decimal of a single lies in its neighbourhood.** -/
theorem holds_shortest (h : Binary.InFormat Format.binary32 m e) :
    (Binary.around Format.binary32 m e).Holds (shortest m e).value := by
  obtain ⟨hlt, hmin, hmax⟩ := bounds_of_inFormat h
  have hpos := h.pos
  have hlog : (4 * m).log2 < 26 := (Nat.log2_lt (by omega)).2 (by omega)
  refine Neighbourhood.holds_shortest ?_ rfl (Nat.mul_pos four_pos hpos) ?_ ?_ ?_
  · simp only [Binary.around, Neighbourhood.around]
    split <;> omega
  · change 4 * m < 10 ^ 16
    omega
  · change -200 ≤ ((4 * m).log2 : ℤ) + (e - 2)
    omega
  · change ((4 * m).log2 : ℤ) + (e - 2) ≤ 200
    omega

end Binary32

end SceneLoop
