import SceneLoop.Number.Shortest

/-!
# Playback time

A duration is a finite number of milliseconds that is not negative.  Every duration is made by
`Duration.ofMillis`, which turns all other numbers into zero, so sums and differences of durations
are durations again.  A loop of a given period folds longer durations back into it.

## Main definitions

* `Duration`, `Timestamp` : spans of playback time and moments of the host's clock.
* `Duration.wrap` : folding into a loop.
* `Timestamp.deltaSince` : the bounded advance of the clock between two moments.
-/

namespace SceneLoop

/-- A count padded with zeros to a width. -/
def zeroPadded (width n : Nat) : String :=
  let text := toString n
  "".pushn '0' (width - text.length) ++ text

/-- The text of a number that is not negative, with a fixed count of decimal places. -/
def Binary64.toFixedText (places : Nat) (x : Float) : String :=
  match Binary64.parts x with
  | .finite _ m e _ => Decimal.placePoint places (Decimal.fixed places m e)
  | _ => Decimal.placePoint places 0

/-- A span of playback time in milliseconds. -/
structure Duration where
  /-- Milliseconds. -/
  millis : Float

namespace Duration

/-- A span of the given milliseconds; a negative number, an infinity or what is not a number
gives no span. -/
def ofMillis (ms : Float) : Duration :=
  ⟨if ms.isFinite then Binary64.larger ms 0 else 0⟩

/-- No span. -/
def zero : Duration := ⟨0⟩

instance : Inhabited Duration := ⟨zero⟩

/-- The span in seconds. -/
def seconds (d : Duration) : Float :=
  d.millis / 1000

/-- Fold a span into a loop: a span longer than the period leaves its remainder by the period.  The
period itself is not folded. -/
def wrap (d : Duration) (period : UInt64) : Duration :=
  if period = 0 then d
  else if period.toFloat < d.millis then ofMillis (Binary64.remainder d.millis period.toFloat)
  else d

/-- One span after another. -/
protected def add (d e : Duration) : Duration :=
  ofMillis (d.millis + e.millis)

/-- What is left of a span. -/
protected def sub (d e : Duration) : Duration :=
  ofMillis (d.millis - e.millis)

instance : Add Duration := ⟨Duration.add⟩

instance : Sub Duration := ⟨Duration.sub⟩

/-- Whole milliseconds below one second, otherwise hundredths of seconds. -/
def toText (d : Duration) : String :=
  if d.millis < 1000 then Binary64.toFixedText 0 d.millis ++ "ms"
  else Binary64.toFixedText 2 d.seconds ++ "s"

end Duration

/-- A moment of the host's clock in milliseconds. -/
structure Timestamp where
  /-- Milliseconds. -/
  millis : Float

namespace Timestamp

/-- The time since an earlier moment, moved into `[0, limit]`.  A clock that goes backwards does not
advance, and no advance is known between moments that are not finite. -/
def deltaSince (now earlier : Timestamp) (limit : Float) : Duration :=
  let delta := now.millis - earlier.millis
  if delta.isFinite then .ofMillis (Binary64.clamp delta 0 (Binary64.larger limit 0)) else .zero

/-- Minutes, seconds and milliseconds. -/
def toText (t : Timestamp) : String :=
  let total := (Binary64.larger t.millis 0).toUInt64.toNat
  zeroPadded 2 (total / 60000) ++ ":" ++ zeroPadded 2 (total % 60000 / 1000) ++ "." ++
    zeroPadded 3 (total % 1000)

end Timestamp

end SceneLoop
