import SceneLoop.Theme
import SceneLoop.Viewport

/-!
# Settings

What can be set: how scenes play, the size of the canvas, the theme, and the demo that is shown
while there is no scene.

## Main definitions

* `Settings` : all settings, with their defaults.
-/

namespace SceneLoop

/-- How scenes play. -/
structure PlaybackSettings where
  /-- The period of scenes that name none, in milliseconds. -/
  defaultPeriod : UInt64 := 5000
  /-- The most that the clock advances between two frames, in milliseconds. -/
  maxFrameDelta : Float := 100
  /-- Whether playback starts with the surface. -/
  autoplay : Bool := true
  /-- Whether a scene without layers is shown as the demo. -/
  demoWhenEmpty : Bool := false

/-- The size of the canvas. -/
structure CanvasSettings where
  /-- The least size. -/
  least : Size := ⟨100, 100⟩
  /-- The size where none is known. -/
  fallback : Size := ⟨400, 300⟩

/-- The demo that is shown while there is no scene. -/
structure DemoSettings where
  /-- How long the disc takes to cross the canvas, in milliseconds. -/
  period : Float := 3000
  /-- The radius of the disc. -/
  radius : Float := 20
  /-- How far from the sides the disc stays. -/
  margin : Float := 50
  /-- Whether the trace of the payload is shown. -/
  showTrace : Bool := true

/-- All settings. -/
structure Settings where
  /-- How scenes play. -/
  playback : PlaybackSettings := {}
  /-- The size of the canvas. -/
  canvas : CanvasSettings := {}
  /-- Whether the theme is dark. -/
  isDark : Bool := false
  /-- The demo. -/
  demo : DemoSettings := {}

instance : Inhabited Settings := ⟨{}⟩

/-- The theme that is set. -/
def Settings.theme (s : Settings) : Theme :=
  .ofFlag s.isDark

end SceneLoop
