import Mathlib
import SceneLoop.Proofs.Number.Decimals
import SceneLoop.Proofs.Number.Positional
import SceneLoop.Proofs.Number.Single

/-!
# Printed numbers are read back

The text of a single is read as that single.  Its digits are those of a decimal in its
neighbourhood, the text stands for that decimal, and what lies in the neighbourhood of a single is
read as it; the signs of numbers and of zeros, and the infinities, are written out.

## Main results

* `Binary32.ofText?_toText` : a printed single is read back.
-/

namespace SceneLoop

open Float.Model (UnpackedFloat Format)
open Float.Model.UnpackedFloat

namespace Binary32

variable {m : ℕ} {e : ℤ} {x : Float32}

theorem neg_ofMantissa (h : Binary.InFormat Format.binary32 m e) :
    -ofMantissa h = .ofModel (.pack (.finite .negative m e h.pos)) := by
  change Float32.ofModel (.pack (parts (ofMantissa h)).neg) = _
  rw [ofMantissa, parts_ofModel_pack h]
  rfl

/-- The digits of a single are read as that single, and after a sign as its negative. -/
theorem ofChars?_shortest (h : Binary.InFormat Format.binary32 m e) (negative : Bool) :
    (Numeral.ofChars? (Numeral.sign negative ++ (shortest m e).positional.toList)).map
      Numeral.toSingle = some (if negative then -ofMantissa h else ofMantissa h) := by
  obtain ⟨whole, fraction, htext, hwhole, hdigits, hvalue⟩ :=
    Decimal.isPositional_positional (shortest m e)
  have hread := ofDecimal_of_holds h (hvalue ▸ holds_shortest h)
  rw [htext, Numeral.ofChars?_pointed hwhole hdigits, Option.map_some]
  cases negative with
  | true => exact congrArg (fun y => some (-y)) hread
  | false => exact congrArg some hread

/-- **A printed single is read back.** -/
theorem ofText?_toText (hx : x.isNaN = false) : ofText? (toText x) = some x := by
  have hpack := ofModel_pack_parts x
  cases hparts : parts x with
  | notANumber =>
    rw [isNaN_eq, hparts] at hx
    cases hx
  | infinity s =>
    rw [hparts] at hpack
    rw [toText, hparts, ← hpack]
    cases s <;> decide
  | zero s =>
    rw [hparts] at hpack
    rw [toText, hparts, ← hpack]
    cases s <;> decide
  | finite s m e hm =>
    have h := inFormat_of_parts hparts
    rw [hparts] at hpack
    rw [toText, hparts, ← hpack]
    cases s with
    | positive => exact ofChars?_shortest h false
    | negative =>
      rw [← neg_ofMantissa h, ofText?, Binary.textBy, String.toList_append]
      exact ofChars?_shortest h true

end Binary32

end SceneLoop
