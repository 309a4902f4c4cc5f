import SceneLoop.Scene.Layer
import SceneLoop.Time

/-!
# Scenes

A scene is a stack of layers that loops with a positive period.

## Main definitions

* `Scene`, `Scene.ofLayers` : the scenes.
* `Scene.effectiveTime` : the scene time for an amount of playback time.
* `Scene.periodOf` : the period that a payload asks for.
-/

namespace SceneLoop

/-- A stack of layers that loops. -/
structure Scene where
  /-- The period of the loop in milliseconds. -/
  period : UInt64
  /-- The layers from bottom to top. -/
  layers : List Layer
  /-- The loop takes time. -/
  period_ne_zero : period ≠ 0

namespace Scene

/-- The period of a scene that names none, in milliseconds. -/
def defaultPeriod : UInt64 := 5000

/-- A period that is not zero: the given one, or the default. -/
def positive (period : UInt64) : UInt64 :=
  if period = 0 then defaultPeriod else period

theorem positive_ne_zero (period : UInt64) : positive period ≠ 0 := by
  unfold positive
  split
  · decide
  · assumption

/-- The scene with the given layers; the period zero stands for the default. -/
def ofLayers (period : UInt64) (layers : List Layer) : Scene :=
  ⟨positive period, layers, positive_ne_zero period⟩

/-- Whether there is nothing to draw. -/
def isEmpty (s : Scene) : Bool :=
  s.layers.isEmpty

/-- The scene time for an amount of playback time. -/
def effectiveTime (s : Scene) (elapsed : Duration) : Duration :=
  elapsed.wrap s.period

/-- The number of animations of all layers. -/
def animationCount (s : Scene) : Nat :=
  s.layers.foldr (fun l n => l.animations.length + n) 0

/-- The period that a field asks for, in whole milliseconds; without a positive number it is the
default. -/
def periodOf (value : Option Json) (default : UInt64) : UInt64 :=
  match value.bind Json.coerceNumber with
  | some ms => if 1 ≤ Binary64.nearestNatural ms then Binary64.nearestNatural ms else default
  | none => default

/-- The scene in a payload. -/
def toJson (s : Scene) : Json :=
  .object [("duration", .ofNat s.period.toNat), ("layers", .array (s.layers.map (·.toJson)))]

/-- Equality of scenes, where numbers are compared as numbers. -/
def same (s t : Scene) : Bool :=
  s.period == t.period && s.layers.length == t.layers.length &&
    (s.layers.zip t.layers).all fun p => p.1.same p.2

end Scene

end SceneLoop
