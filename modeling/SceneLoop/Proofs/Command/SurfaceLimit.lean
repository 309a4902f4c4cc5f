import Mathlib
import SceneLoop.Command.Run
import SceneLoop.Proofs.Number.Integral

/-!
# The limit on surfaces

A command refuses a size whose sides, times the pixel ratio, are past the limit.  The viewport then
makes each side whole, which only shortens it, and raises it to the least size of the settings,
which the limit is not checked against.  So the device pixels of a side stay within the limit unless
that least size alone leaves it.

## Main results

* `Viewport.toNat_backing_le_iff` : when the device pixels of an extent are at most some number.
* `Viewport.toNat_backing_fitExtent_le_iff` : when those of an allowed side are within the limit.
* `Pipeline.backing_within_limit_iff` : when a surface that a command accepts is within the limit.
-/

namespace SceneLoop

open Binary64

variable {scale : Float}

theorem isPositive_iff {x : Float} : isPositive x ↔ x.isFinite ∧ 0 < x := by
  rw [isPositive, Bool.and_eq_true, decide_eq_true_iff]

namespace Viewport

theorem fitScale_of_isPositive (h : isPositive scale) : fitScale scale = scale :=
  if_pos h

/-- The device pixels of an extent are its whole device pixels, but for the one that every extent
has. -/
theorem toNat_backing_le_iff {extent : Float} {n : ℕ} (hextent : extent.isNaN = false)
    (hscale : isPositive scale) (hone : 1 ≤ n) (hn : n < 2 ^ 32 - 1) :
    (backing extent scale).toNat ≤ n ↔ value (extent * scale) < n + 1 := by
  obtain ⟨hfinite, hpos⟩ := isPositive_iff.1 hscale
  have hproduct : (extent * scale).isNaN = false := isNaN_mul hextent hpos hfinite
  have hwhole := isNaN_floor hproduct
  have hnumber := hasValue_one.isNaN_eq_false
  have hlt : (1 : ℚ) < n + 1 := by exact_mod_cast Nat.lt_succ_of_le hone
  have hfloor := value_floor_lt_iff hproduct (n + 1)
  push_cast at hfloor
  rw [backing, toNat_toUInt32_le_iff (isNaN_larger hwhole hnumber) hn,
    value_larger hwhole hnumber, hasValue_one.value_eq, max_lt_iff, hfloor, and_iff_left hlt]

/-- The device pixels of a side that the limit allows are within it, unless the least extent alone
takes a device pixel more than the limit. -/
theorem toNat_backing_fitExtent_le_iff {side least : Float} (hscale : isPositive scale)
    (hside : Settings.allowsSide side scale) :
    (backing (fitExtent side least) scale).toNat ≤ 16384 ↔ ¬16385 ≤ least * scale := by
  obtain ⟨hfinite, hpos⟩ := isPositive_iff.1 hscale
  obtain ⟨hside, hle⟩ : side.isFinite ∧ side * scale ≤ Settings.sideLimit := by
    simpa [Settings.allowsSide] using hside
  have hfloor := hasValue_floor hside
  have hfit : fitExtent side least = larger (floor side) least := if_pos hside
  have hlimit : HasValue Settings.sideLimit 16384 := by
    exact_mod_cast hasValue_ofNat (n := 16384) (by decide)
  have hnext : HasValue 16385 16385 := by exact_mod_cast hasValue_ofNat (n := 16385) (by decide)
  have hallowed : value (floor side * scale) ≤ 16384 := by
    have hwhole : value (floor side) ≤ value side := by
      rw [hfloor.value_eq]
      exact Int.floor_le _
    have hproduct : value (side * scale) ≤ value Settings.sideLimit :=
      (le_iff_value (isNaN_of_le hle).1 hlimit.isNaN_eq_false).1 hle
    rw [hlimit.value_eq] at hproduct
    exact (value_mul_le hfloor.isNaN_eq_false (isNaN_of_isFinite hside) hpos hfinite hwhole).trans
      hproduct
  rw [hfit]
  cases hleast : least.isNaN with
  | true =>
    have hfirst : larger (floor side) least = floor side := by
      rw [larger, if_neg (Bool.eq_false_iff.1 hfloor.isNaN_eq_false), if_pos hleast]
    rw [hfirst, toNat_backing_le_iff hfloor.isNaN_eq_false hscale (by decide) (by decide)]
    refine iff_of_true (by push_cast; linarith) fun h => ?_
    have hnumber := (isNaN_of_le h).2
    rw [isNaN_mul_of_isNaN (.inl hleast)] at hnumber
    cases hnumber
  | false =>
    rw [toNat_backing_le_iff (isNaN_larger hfloor.isNaN_eq_false hleast) hscale (by decide)
        (by decide),
      value_larger_mul hfloor.isNaN_eq_false hleast hpos hfinite,
      le_iff_value hnext.isNaN_eq_false (isNaN_mul hleast hpos hfinite), hnext.value_eq, not_le,
      max_lt_iff, and_iff_right (by push_cast; linarith)]
    norm_num

end Viewport

namespace Pipeline

variable {s : Settings} {size : RequestedSize} {fitted : Size}

/-- **The limit on surfaces.** The surface of a size that a command accepts is within the limit just
where the least size of the settings does not take more device pixels than that. -/
theorem backing_within_limit_iff (hscale : isPositive scale)
    (h : s.surfaceSize size scale = .ok fitted) :
    ((ofSettings s fitted scale).viewport.backingWidth.toNat ≤ 16384 ↔
        ¬16385 ≤ s.canvas.least.width * scale) ∧
      ((ofSettings s fitted scale).viewport.backingHeight.toNat ≤ 16384 ↔
        ¬16385 ≤ s.canvas.least.height * scale) := by
  obtain ⟨hwidth, hheight⟩ : Settings.allowsSide fitted.width scale ∧
      Settings.allowsSide fitted.height scale := by
    simp only [Settings.surfaceSize] at h
    split_ifs at h with hwidth hheight
    cases h
    exact ⟨by simpa using hwidth, by simpa using hheight⟩
  have hfit := Viewport.fitScale_of_isPositive hscale
  simp only [ofSettings, Viewport.fit, hfit]
  exact ⟨Viewport.toNat_backing_fitExtent_le_iff hscale hwidth,
    Viewport.toNat_backing_fitExtent_le_iff hscale hheight⟩

/-- With the default settings, the surface of the default size is within the limit, since their
least size is. -/
theorem backing_within_limit_iff_fallback :
    isPositive 1 ∧ (default : Settings).surfaceSize {} 1 = .ok ⟨400, 300⟩ ∧
      (ofSettings default ⟨400, 300⟩ 1).viewport.backingWidth.toNat ≤ 16384 ∧
      (ofSettings default ⟨400, 300⟩ 1).viewport.backingHeight.toNat ≤ 16384 := by
  have hscale : isPositive 1 := by decide
  have hsize : (default : Settings).surfaceSize {} 1 = .ok ⟨400, 300⟩ := by rfl
  obtain ⟨hwidth, hheight⟩ := backing_within_limit_iff hscale hsize
  exact ⟨hscale, hsize, hwidth.2 (by decide), hheight.2 (by decide)⟩

/-- The limit is not checked against the least size of the settings. -/
theorem backing_past_limit :
    ∃ (s : Settings) (size : RequestedSize) (fitted : Size),
      isPositive 1 ∧ s.surfaceSize size 1 = .ok fitted ∧
        16384 < (ofSettings s fitted 1).viewport.backingWidth.toNat :=
  ⟨{ canvas := { least := ⟨16385, 1⟩ } }, ⟨some 10, some 10⟩, ⟨10, 10⟩, by decide, by rfl,
    by decide +kernel⟩

end Pipeline

end SceneLoop
