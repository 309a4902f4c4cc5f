import Mathlib
import SceneLoop.Number.Binary

/-!
# The order of doubles

Two doubles are compared by their sign, exponent and mantissa.  What is not a number is neither
below nor above anything; of two numbers one is at most the other.  So a value that is not below
another one is at least that, as long as both are numbers.

## Main results

* `Binary64.compare_swap` : comparing the other way round.
* `Binary64.not_lt_iff` : of two numbers, one is below the other or at least as large.
* `Binary64.larger_zero` : the larger of a value and zero.
-/

namespace SceneLoop

open Float.Model (UnpackedFloat)
open Float.Model.UnpackedFloat

namespace Binary64

/-! ### Comparing parts -/

theorem compare_sign_swap (s t : Sign) : compare t s = (compare s t).swap := by
  cases s <;> cases t <;> rfl

theorem compare_then_swap (e f : Int) (m n : Nat) :
    (compare f e).then (compare n m) = ((compare e f).then (compare m n)).swap := by
  rw [Ordering.swap_then, Int.compare_swap, Nat.compare_swap]

/-- Comparing the other way round gives the opposite answer. -/
theorem compare_swap (u v : UnpackedFloat) :
    UnpackedFloat.compare v u = (UnpackedFloat.compare u v).map Ordering.swap := by
  fun_cases UnpackedFloat.compare u v with
  | case1 => cases v <;> rfl
  | case3 s t => exact congrArg some (compare_sign_swap s t)
  | case13 m e _ n f _ =>
    exact congrArg some (congrArg Ordering.swap (compare_then_swap e f m n))
  | case16 m e _ n f _ => exact congrArg some (compare_then_swap e f m n)
  | _ => simp_all [UnpackedFloat.compare]

theorem exists_compare {u v : UnpackedFloat} (hu : u.isNaN = false) (hv : v.isNaN = false) :
    ∃ o, UnpackedFloat.compare u v = some o := by
  fun_cases UnpackedFloat.compare u v with
  | case1 | case2 => simp_all [UnpackedFloat.isNaN]
  | _ => exact ⟨_, rfl⟩

theorem isNaN_eq_false_of_compare {u v : UnpackedFloat} {o : Ordering}
    (h : UnpackedFloat.compare u v = some o) : u.isNaN = false ∧ v.isNaN = false := by
  cases u <;> cases v <;> simp_all [UnpackedFloat.compare, UnpackedFloat.isNaN]

/-- Of the parts of two numbers, one is below the other or at least as large. -/
theorem compare_ne_lt_iff {u v : UnpackedFloat} (hu : u.isNaN = false) (hv : v.isNaN = false) :
    UnpackedFloat.compare u v ≠ some .lt ↔
      ∃ o, UnpackedFloat.compare v u = some o ∧ o.isLE := by
  obtain ⟨o, ho⟩ := exists_compare hu hv
  rw [compare_swap u v, ho]
  cases o <;> simp [Ordering.swap]

theorem compare_self {u : UnpackedFloat} (h : u.isNaN = false) :
    UnpackedFloat.compare u u = some .eq := by
  obtain ⟨o, ho⟩ := exists_compare h h
  have hswap := compare_swap u u
  rw [ho] at hswap ⊢
  cases o with
  | eq => rfl
  | lt | gt => cases hswap

/-! ### Comparing doubles -/

variable {x y : Float}

theorem lt_iff : x < y ↔ UnpackedFloat.compare (parts x) (parts y) = some .lt := by
  change decide ((UnpackedFloat.compare (parts x) (parts y) == some .lt) = true) = true ↔ _
  rw [decide_eq_true_iff, beq_iff_eq]

theorem le_iff : x ≤ y ↔ ∃ o, UnpackedFloat.compare (parts x) (parts y) = some o ∧ o.isLE := by
  change decide ((UnpackedFloat.compare (parts x) (parts y)).any (·.isLE) = true) = true ↔ _
  rw [decide_eq_true_iff, Option.any_eq_true]

theorem isNaN_eq (x : Float) : x.isNaN = (parts x).isNaN :=
  rfl

theorem isFinite_eq (x : Float) : x.isFinite = (parts x).isFinite :=
  rfl

theorem isNaN_of_isFinite (h : x.isFinite) : x.isNaN = false := by
  rw [isFinite_eq] at h
  rw [isNaN_eq]
  cases hx : parts x <;> simp_all [UnpackedFloat.isFinite, UnpackedFloat.isNaN]

theorem le_of_lt (h : x < y) : x ≤ y :=
  le_iff.2 ⟨.lt, lt_iff.1 h, rfl⟩

theorem isNaN_of_le (h : x ≤ y) : x.isNaN = false ∧ y.isNaN = false := by
  obtain ⟨o, ho, -⟩ := le_iff.1 h
  exact isNaN_eq_false_of_compare ho

theorem not_lt_of_le (h : x ≤ y) : ¬y < x := by
  obtain ⟨o, ho, hle⟩ := le_iff.1 h
  rw [lt_iff, compare_swap, ho]
  cases o <;> simp_all [Ordering.swap]

/-- Of two numbers, one is below the other or at least as large. -/
theorem not_lt_iff (hx : x.isNaN = false) (hy : y.isNaN = false) : ¬x < y ↔ y ≤ x := by
  rw [lt_iff, le_iff]
  exact compare_ne_lt_iff hx hy

theorem le_refl (h : x.isNaN = false) : x ≤ x :=
  le_iff.2 ⟨.eq, compare_self h, rfl⟩

/-! ### The larger of a value and zero -/

/-- The larger of a value and zero is zero, or the value, which then is not negative. -/
theorem larger_zero (x : Float) : larger x 0 = 0 ∨ larger x 0 = x ∧ 0 ≤ x := by
  rw [larger]
  have hzero : (0 : Float).isNaN = false := by decide
  split
  · exact .inl rfl
  · next hx =>
    rw [if_neg (Bool.eq_false_iff.1 hzero)]
    split
    · exact .inl rfl
    · next hlt =>
      have hle : 0 ≤ x := (not_lt_iff (Bool.eq_false_iff.2 hx) hzero).1 hlt
      split
      · exact .inr ⟨rfl, hle⟩
      · split
        · exact .inl rfl
        · exact .inr ⟨rfl, hle⟩

theorem zero_le_larger (x : Float) : 0 ≤ larger x 0 := by
  rcases larger_zero x with h | ⟨h, hle⟩
  · rw [h]
    decide
  · rwa [h]

end Binary64

end SceneLoop
