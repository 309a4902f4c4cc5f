import SceneLoop.Number.Binary

/-!
# Viewports

A viewport has a size in the units that layers are placed in, and a number of device pixels for
each unit.  It is fitted to a container, whose size is made whole and not smaller than a minimum.

## Main definitions

* `Size`, `Point` : a size and a position.
* `Viewport.fit` : the viewport for a container.
-/

namespace SceneLoop

/-- A width and a height. -/
structure Size where
  /-- Extent to the right. -/
  width : Float
  /-- Extent downwards. -/
  height : Float
deriving DecidableEq, Inhabited

/-- A position. -/
structure Point where
  /-- Distance to the right. -/
  x : Float
  /-- Distance downwards. -/
  y : Float
deriving DecidableEq, Inhabited

/-- The origin. -/
def Point.zero : Point := ⟨0, 0⟩

/-- A drawing area and its resolution. -/
structure Viewport where
  /-- The size that layers are placed in. -/
  size : Size
  /-- Width in device pixels. -/
  backingWidth : UInt32
  /-- Height in device pixels. -/
  backingHeight : UInt32
  /-- Device pixels for each unit. -/
  scale : Float
deriving DecidableEq

namespace Viewport

/-- The whole part of an extent, but not less than a minimum; an extent that is not finite is the
minimum. -/
def fitExtent (extent least : Float) : Float :=
  if extent.isFinite then Binary64.larger (Binary64.floor extent) least else least

/-- The device pixels that an extent takes, at least one. -/
def backing (extent scale : Float) : UInt32 :=
  (Binary64.larger (Binary64.floor (extent * scale)) 1).toUInt32

/-- A ratio that is positive and finite, or one. -/
def fitScale (ratio : Float) : Float :=
  if ratio.isFinite && 0 < ratio then ratio else 1

/-- The viewport for a container with the given pixel ratio and least size. -/
def fit (container : Size) (ratio : Float) (least : Size) : Viewport :=
  let scale := fitScale ratio
  let width := fitExtent container.width least.width
  let height := fitExtent container.height least.height
  { size := ⟨width, height⟩
    backingWidth := backing width scale
    backingHeight := backing height scale
    scale }

end Viewport

end SceneLoop
