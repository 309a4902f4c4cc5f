import Mathlib
import SceneLoop.Proofs.Number.Integral

/-!
# The smaller and the larger of two doubles

Numbers lie on a line, by their values and the negative zero before the positive one.  The smaller
of two numbers is the one that lies before the other, and what is not a number gives way: it has its
place behind all numbers when the smaller one is sought, and before all of them when the larger one
is.

## Main definitions

* `Binary64.place` : the place of a number on the line.
* `Binary64.lowPlace`, `Binary64.highPlace` : the place when the smaller or the larger one is
  sought.

## Main results

* `Binary64.lowPlace_smaller`, `Binary64.highPlace_larger` : the smaller and the larger one are the
  minimum and the maximum of places.
* `Binary64.lowPlace_injective`, `Binary64.highPlace_injective` : no two doubles share a place.
-/

namespace SceneLoop

open Float.Model (UnpackedFloat Format)
open Float.Model.UnpackedFloat

namespace Binary64

variable {x y : Float}

/-! ### The line -/

/-- The place of a number: its value and, for the two zeros, its sign. -/
def place (x : Float) : ℚ ×ₗ Bool :=
  toLex (value x, !isNegative x)

/-- The place when the smaller one is sought. -/
def lowPlace (x : Float) : WithTop (ℚ ×ₗ Bool) :=
  if x.isNaN then ⊤ else place x

/-- The place when the larger one is sought. -/
def highPlace (x : Float) : WithBot (ℚ ×ₗ Bool) :=
  if x.isNaN then ⊥ else place x

theorem parts_injective : Function.Injective parts := by
  rintro ⟨⟨x, hx⟩⟩ ⟨⟨y, hy⟩⟩ h
  have hbits : x.toBitVec = y.toBitVec := (unpack_inj_of_valid hx hy).1 h
  obtain rfl := UInt64.toBitVec_inj.1 hbits
  rfl

/-- Parts that are neither below nor above each other are equal, apart from the signs of zeros. -/
theorem eq_of_compare {u v : UnpackedFloat} (h : UnpackedFloat.compare u v = some .eq) :
    u = v ∨ ∃ s t, u = .zero s ∧ v = .zero t := by
  have hsizes {e f : ℤ} {m n : ℕ} (h : (compare e f).then (compare m n) = .eq) :
      e = f ∧ m = n := by
    rwa [Ordering.then_eq_eq, compare_eq_iff_eq, compare_eq_iff_eq] at h
  fun_cases UnpackedFloat.compare u v with
  | case3 s t => cases s <;> cases t <;> first | exact .inl rfl | cases h
  | case12 s t => exact .inr ⟨s, t, rfl, rfl⟩
  | case13 m e _ n f _ =>
    obtain ⟨rfl, rfl⟩ := hsizes (Ordering.swap_eq_eq.1 (Option.some_inj.1 h))
    exact .inl rfl
  | case16 m e _ n f _ =>
    obtain ⟨rfl, rfl⟩ := hsizes (Option.some_inj.1 h)
    exact .inl rfl
  | _ => simp_all [UnpackedFloat.compare]

/-- No two numbers share a place. -/
theorem eq_of_place_eq (hx : x.isNaN = false) (hy : y.isNaN = false) (h : place x = place y) :
    x = y := by
  obtain ⟨hvalue, hsign⟩ := Prod.mk.inj (toLex_inj.1 h)
  have hcompare : UnpackedFloat.compare (parts x) (parts y) = some .eq := by
    obtain ⟨o, ho⟩ : ∃ o, UnpackedFloat.compare (parts x) (parts y) = some o :=
      exists_compare hx hy
    have hlt : ¬x < y := by rw [lt_iff_value hx hy, hvalue]; exact lt_irrefl _
    have hgt : ¬y < x := by rw [lt_iff_value hy hx, hvalue]; exact lt_irrefl _
    rw [lt_iff, ho] at hlt
    rw [lt_iff, compare_swap, ho] at hgt
    cases o with
    | eq => exact ho
    | lt => exact absurd rfl hlt
    | gt => exact absurd rfl hgt
  refine parts_injective ((eq_of_compare hcompare).elim id ?_)
  rintro ⟨s, t, hs, ht⟩
  rw [isNegative, isNegative, hs, ht] at hsign
  rw [hs, ht]
  cases s <;> cases t <;> first | rfl | cases hsign

theorem lowPlace_of_isNaN (h : x.isNaN) : lowPlace x = ⊤ :=
  if_pos h

theorem lowPlace_of_number (h : x.isNaN = false) : lowPlace x = place x :=
  if_neg (Bool.eq_false_iff.1 h)

theorem highPlace_of_isNaN (h : x.isNaN) : highPlace x = ⊥ :=
  if_pos h

theorem highPlace_of_number (h : x.isNaN = false) : highPlace x = place x :=
  if_neg (Bool.eq_false_iff.1 h)

theorem lowPlace_injective : Function.Injective lowPlace := by
  intro x y h
  cases hx : x.isNaN <;> cases hy : y.isNaN
  · rw [lowPlace_of_number hx, lowPlace_of_number hy] at h
    exact eq_of_place_eq hx hy (WithTop.coe_inj.1 h)
  · rw [lowPlace_of_number hx, lowPlace_of_isNaN hy] at h
    exact absurd h WithTop.coe_ne_top
  · rw [lowPlace_of_isNaN hx, lowPlace_of_number hy] at h
    exact absurd h WithTop.top_ne_coe
  · exact eq_of_isNaN hx hy

theorem highPlace_injective : Function.Injective highPlace := by
  intro x y h
  cases hx : x.isNaN <;> cases hy : y.isNaN
  · rw [highPlace_of_number hx, highPlace_of_number hy] at h
    exact eq_of_place_eq hx hy (WithBot.coe_inj.1 h)
  · rw [highPlace_of_number hx, highPlace_of_isNaN hy] at h
    exact absurd h WithBot.coe_ne_bot
  · rw [highPlace_of_isNaN hx, highPlace_of_number hy] at h
    exact absurd h WithBot.bot_ne_coe
  · exact eq_of_isNaN hx hy

/-! ### The smaller and the larger one -/

section

variable (hx : x.isNaN = false) (hy : y.isNaN = false)

include hx hy in
theorem smaller_cases : smaller x y = x ∧ place x ≤ place y ∨
    smaller x y = y ∧ place y ≤ place x := by
  simp only [smaller, hx, hy, Bool.false_eq_true, if_false, lt_iff_value hx hy, lt_iff_value hy hx,
    place, Prod.Lex.toLex_le_toLex]
  split_ifs with hlt hgt hsign
  · exact .inl ⟨rfl, .inl hlt⟩
  · exact .inr ⟨rfl, .inl hgt⟩
  · exact .inl ⟨rfl, .inr ⟨le_antisymm (not_lt.1 hgt) (not_lt.1 hlt), by simp [hsign]⟩⟩
  · exact .inr ⟨rfl, .inr ⟨le_antisymm (not_lt.1 hlt) (not_lt.1 hgt), by simp [hsign]⟩⟩

include hx hy in
theorem larger_cases : larger x y = y ∧ place x ≤ place y ∨
    larger x y = x ∧ place y ≤ place x := by
  simp only [larger, hx, hy, Bool.false_eq_true, if_false, lt_iff_value hx hy, lt_iff_value hy hx,
    place, Prod.Lex.toLex_le_toLex]
  split_ifs with hlt hgt hsign
  · exact .inl ⟨rfl, .inl hlt⟩
  · exact .inr ⟨rfl, .inl hgt⟩
  · exact .inl ⟨rfl, .inr ⟨le_antisymm (not_lt.1 hgt) (not_lt.1 hlt), by simp [hsign]⟩⟩
  · exact .inr ⟨rfl, .inr ⟨le_antisymm (not_lt.1 hlt) (not_lt.1 hgt), by simp [hsign]⟩⟩

end

theorem smaller_of_isNaN (hx : x.isNaN) (y : Float) : smaller x y = y :=
  if_pos hx

theorem larger_of_isNaN (hx : x.isNaN) (y : Float) : larger x y = y :=
  if_pos hx

theorem smaller_isNaN (hx : x.isNaN = false) (hy : y.isNaN) : smaller x y = x := by
  rw [smaller, if_neg (Bool.eq_false_iff.1 hx), if_pos hy]

theorem larger_isNaN (hx : x.isNaN = false) (hy : y.isNaN) : larger x y = x := by
  rw [larger, if_neg (Bool.eq_false_iff.1 hx), if_pos hy]

/-- The smaller of two doubles has the smaller place. -/
theorem lowPlace_smaller (x y : Float) :
    lowPlace (smaller x y) = min (lowPlace x) (lowPlace y) := by
  cases hx : x.isNaN with
  | true => rw [smaller_of_isNaN hx, lowPlace_of_isNaN hx, min_eq_right le_top]
  | false =>
    cases hy : y.isNaN with
    | true => rw [smaller_isNaN hx hy, lowPlace_of_isNaN hy, min_eq_left le_top]
    | false =>
      rcases smaller_cases hx hy with ⟨h, hle⟩ | ⟨h, hle⟩ <;>
        rw [h, lowPlace_of_number hx, lowPlace_of_number hy]
      · exact (min_eq_left (WithTop.coe_le_coe.2 hle)).symm
      · exact (min_eq_right (WithTop.coe_le_coe.2 hle)).symm

/-- The larger of two doubles has the larger place. -/
theorem highPlace_larger (x y : Float) :
    highPlace (larger x y) = max (highPlace x) (highPlace y) := by
  cases hx : x.isNaN with
  | true => rw [larger_of_isNaN hx, highPlace_of_isNaN hx, max_eq_right bot_le]
  | false =>
    cases hy : y.isNaN with
    | true => rw [larger_isNaN hx hy, highPlace_of_isNaN hy, max_eq_left bot_le]
    | false =>
      rcases larger_cases hx hy with ⟨h, hle⟩ | ⟨h, hle⟩ <;>
        rw [h, highPlace_of_number hx, highPlace_of_number hy]
      · exact (max_eq_right (WithBot.coe_le_coe.2 hle)).symm
      · exact (max_eq_left (WithBot.coe_le_coe.2 hle)).symm

end Binary64

end SceneLoop
