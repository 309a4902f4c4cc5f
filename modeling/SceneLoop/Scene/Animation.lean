import SceneLoop.Scene.Property

/-!
# Animations

An animation moves one numeric property linearly between two values over a span of scene time.
Before its start it has no effect, and from its end on it holds its last value.

## Main definitions

* `Animation` : the property, the span and the values.
* `Animation.ofFields?` : the animation in the fields of an object.
* `Animation.valueAt` : the value at a time.
-/

namespace SceneLoop

/-- A linear change of one numeric property. -/
structure Animation where
  /-- The name of the property in a payload. -/
  property : String
  /-- When the change starts, in milliseconds. -/
  start : Float
  /-- When the change ends. -/
  finish : Float
  /-- The value at the start. -/
  initial : Float
  /-- The value from the end on. -/
  final : Float
deriving DecidableEq

namespace Animation

/-- The span of an animation that names only its start, in milliseconds. -/
def defaultSpan : Float := 1000

/-- The number of a field. -/
def numberOf? (fields : Fields) (name : String) : Option Float :=
  (fields.get? name).bind Json.coerceNumber

/-- The animation in the fields of an object.  It needs the name of a property; a number that is
missing or malformed has a default, and the last value is the first one unless it is given. -/
def ofFields? (fields : Fields) : Option Animation :=
  match fields.get? "property" with
  | some (.text property) =>
    if property.isEmpty then none
    else
      let start := (numberOf? fields "start").getD 0
      let initial := (numberOf? fields "from").getD 0
      some {
        property
        start
        finish := (numberOf? fields "end").getD (start + defaultSpan)
        initial
        final := (numberOf? fields "to").getD initial }
  | _ => none

/-- Whether the animation never has an effect, because its span is not positive. -/
def isInert (a : Animation) : Bool :=
  !(a.start < a.finish)

/-- The value of the property at a scene time, if the animation has an effect. -/
def valueAt (a : Animation) (t : Float) : Option Float :=
  if a.isInert || t < a.start then none
  else if a.finish ≤ t then some a.final
  else some (a.initial + (a.final - a.initial) * ((t - a.start) / (a.finish - a.start)))

/-- The animation in a payload. -/
def toJson (a : Animation) : Json :=
  .object [("property", .text a.property), ("start", .ofDouble a.start),
    ("end", .ofDouble a.finish), ("from", .ofDouble a.initial), ("to", .ofDouble a.final)]

/-- Equality of animations, where numbers are compared as numbers. -/
def same (a b : Animation) : Bool :=
  a.property == b.property && a.start == b.start && a.finish == b.finish &&
    a.initial == b.initial && a.final == b.final

end Animation

end SceneLoop
