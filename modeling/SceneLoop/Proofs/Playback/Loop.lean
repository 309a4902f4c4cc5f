import Mathlib
import SceneLoop.Time
import SceneLoop.Proofs.Number.Remainder

/-!
# Time in a loop

Every span that is made from a number of milliseconds is finite and not negative, whatever the
number is.  A span that is folded into a loop is at most the period, so that folding it again
changes nothing.  The advance of the clock between two moments stays within its limit.

## Main definitions

* `Duration.IsProper` : spans that are finite and not negative.

## Main results

* `Duration.isProper_ofMillis` : what is made from milliseconds is proper.
* `Duration.wrap_le` : a folded span is at most the period.
* `Duration.wrap_wrap` : folding is idempotent.
* `Timestamp.deltaSince_le` : the advance of the clock is at most its limit.
-/

namespace SceneLoop

open Float.Model (UnpackedFloat Format)
open Float.Model.UnpackedFloat

namespace Binary64

/-! ### Whole numbers of milliseconds -/

theorem zero_le_packComponents {b : BitVec 11} (hb : b ≠ -1#11) (c : BitVec 52) :
    ∃ o, UnpackedFloat.compare (.zero .positive)
      (unpack Format.binary64 (packComponents Format.binary64 .positive b c)) = some o ∧
        o.isLE := by
  rw [unpack]
  simp only [unpackMantissa_packComponents, unpackExponent_packComponents,
    unpackSign_packComponents, Sign.ofBitVec_toBitVec]
  rw [if_neg hb]
  split
  · split
    · exact ⟨.eq, rfl, rfl⟩
    · exact ⟨.lt, rfl, rfl⟩
  · exact ⟨.lt, rfl, rfl⟩

/-- A positive number that is packed, with or without loss, is not negative. -/
theorem zero_le_ofParts {m : Nat} (e : Int) (hm : 0 < m) :
    0 ≤ ofParts (.finite .positive m e hm) := by
  have hzero : parts 0 = .zero .positive := by rfl
  rw [le_iff, hzero]
  change ∃ o, UnpackedFloat.compare _
    (unpack Format.binary64 (pack Format.binary64 (.finite .positive m e hm))) = some o ∧ _
  simp only [pack]
  split
  · exact ⟨.lt, rfl, rfl⟩
  · next hfits =>
    split
    · refine zero_le_packComponents (fun heq => hfits ?_) _
      have htoNat := congrArg BitVec.toNat heq
      rw [BitVec.toNat_ofNat] at htoNat
      change _ = 2047 at htoNat
      change 2 ^ 11 ≤ _
      omega
    · exact zero_le_packComponents (by decide) _

theorem zero_le_toFloat (n : UInt64) : 0 ≤ n.toFloat := by
  change 0 ≤ ofParts (UnpackedFloat.normalize Format.binary64 (n.toNat : Int) 0 .positive)
  rw [UnpackedFloat.normalize]
  split
  · next h => exact absurd (Int.compare_eq_lt.1 h) (by omega)
  · decide
  · simp only [UnpackedFloat.round, roundWithAccuracy]
    split
    · decide
    · exact zero_le_ofParts _ _

end Binary64

/-! ### Spans -/

namespace Duration

/-- A span that is finite and not negative. -/
structure IsProper (d : Duration) : Prop where
  isFinite : d.millis.isFinite
  zero_le : 0 ≤ d.millis

theorem isProper_zero : zero.IsProper :=
  ⟨by decide, by decide⟩

/-- A span is made of its milliseconds, if they are proper, or it is no span. -/
theorem millis_ofMillis (ms : Float) :
    (ofMillis ms).millis = 0 ∨ (ofMillis ms).millis = ms ∧ ms.isFinite ∧ 0 ≤ ms := by
  rw [ofMillis]
  split
  · next h => exact (Binary64.larger_zero ms).imp_right fun ⟨heq, hle⟩ => ⟨heq, h, hle⟩
  · exact .inl rfl

/-- What is made from milliseconds is proper. -/
theorem isProper_ofMillis (ms : Float) : (ofMillis ms).IsProper := by
  rcases millis_ofMillis ms with h | ⟨h, hfinite, hle⟩
  · constructor <;> rw [h] <;> decide
  · exact ⟨by rwa [h], by rwa [h]⟩

/-- What is made from milliseconds is at most what they and zero are at most. -/
theorem ofMillis_le {ms bound : Float} (hzero : 0 ≤ bound) (h : 0 ≤ ms → ms ≤ bound) :
    (ofMillis ms).millis ≤ bound := by
  rcases millis_ofMillis ms with heq | ⟨heq, -, hle⟩
  · rwa [heq]
  · rw [heq]
    exact h hle

theorem isProper_add (d e : Duration) : (d + e).IsProper :=
  isProper_ofMillis _

/-! ### Folding -/

variable {d : Duration} {period : UInt64}

theorem wrap_of_not_lt (h : ¬period.toFloat < d.millis) : d.wrap period = d := by
  rw [wrap, if_neg h, ite_self]

/-- A remainder, made into a span, is at most the divisor.  Where there is no remainder, there is no
span. -/
theorem ofMillis_remainder_le {x y : Float} (hy : 0 ≤ y) (h : y < x) :
    (ofMillis (Binary64.remainder x y)).millis ≤ y := by
  by_cases hbounds : x.isFinite ∧ 0 < y
  · have hlt := (Binary64.remainder_bounds hbounds.1 hbounds.2 h).2
    exact ofMillis_le hy fun _ => Binary64.le_of_lt hlt
  · have hmillis : (ofMillis Binary64.notANumber).millis = 0 := by decide
    rwa [Binary64.remainder_eq_notANumber hy fun hx hpos => hbounds ⟨hx, hpos⟩, hmillis]

/-- A folded span is at most the period. -/
theorem wrap_le (hperiod : period ≠ 0) (hd : d.millis.isNaN = false) :
    (d.wrap period).millis ≤ period.toFloat := by
  have hzero := Binary64.zero_le_toFloat period
  rw [wrap, if_neg hperiod]
  split
  · next h => exact ofMillis_remainder_le hzero h
  · next h => exact (Binary64.not_lt_iff (Binary64.isNaN_of_le hzero).2 hd).1 h

/-- Folding is idempotent. -/
theorem wrap_wrap (d : Duration) (period : UInt64) :
    (d.wrap period).wrap period = d.wrap period := by
  by_cases hlt : period ≠ 0 ∧ period.toFloat < d.millis
  · have hle := ofMillis_remainder_le (Binary64.zero_le_toFloat period) hlt.2
    have hfold : d.wrap period = ofMillis (Binary64.remainder d.millis period.toFloat) := by
      rw [wrap, if_neg hlt.1, if_pos hlt.2]
    rw [hfold]
    exact wrap_of_not_lt (Binary64.not_lt_of_le hle)
  · have hself : d.wrap period = d := by
      rw [wrap]
      split
      · rfl
      · next hne => exact if_neg fun h => hlt ⟨hne, h⟩
    rw [hself, hself]

theorem IsProper.wrap (h : d.IsProper) : (d.wrap period).IsProper := by
  rw [Duration.wrap]
  split
  · exact h
  · split
    · exact isProper_ofMillis _
    · exact h

end Duration

/-! ### Advancing -/

namespace Timestamp

theorem isProper_deltaSince (now earlier : Timestamp) (limit : Float) :
    (now.deltaSince earlier limit).IsProper := by
  simp only [deltaSince]
  split
  · exact Duration.isProper_ofMillis _
  · exact Duration.isProper_zero

/-- The advance of the clock is at most its limit, or nothing where the limit is negative or not a
number. -/
theorem deltaSince_le (now earlier : Timestamp) (limit : Float) :
    (now.deltaSince earlier limit).millis ≤ Binary64.larger limit 0 := by
  have hlimit := Binary64.zero_le_larger limit
  simp only [deltaSince]
  generalize Binary64.larger limit 0 = bound at hlimit
  split
  · next hfinite =>
    refine Duration.ofMillis_le hlimit fun _ => ?_
    have hbound := (Binary64.isNaN_of_le hlimit).2
    rw [Binary64.clamp]
    split
    · exact hlimit
    · split
      · exact Binary64.le_refl hbound
      · next h => exact (Binary64.not_lt_iff hbound (Binary64.isNaN_of_isFinite hfinite)).1 h
  · exact hlimit

end Timestamp

end SceneLoop
