import SceneLoop.Drawing.Demo
import SceneLoop.Drawing.Figure

/-!
# Painting a frame

A frame is cleared and then shows a scene, or the demo where there is no scene to show.

## Main definitions

* `Painter`, `Painter.paint` : what a frame shows, and painting it.
* `Painted` : what was painted.
-/

namespace SceneLoop

/-- What was painted. -/
inductive Painted where
  /-- The demo. -/
  | demo
  /-- The layers of a scene. -/
  | scene (report : DrawReport)
deriving DecidableEq

/-- Paints frames in a theme. -/
structure Painter where
  /-- The theme. -/
  theme : Theme
  /-- The demo. -/
  demo : DemoSettings
  /-- Whether a scene without layers is shown as the demo. -/
  demoWhenEmpty : Bool

namespace Painter

/-- The painter for some settings. -/
def ofSettings (s : Settings) : Painter :=
  ⟨s.theme, s.demo, s.playback.demoWhenEmpty⟩

/-- The same painter in another theme. -/
def withTheme (p : Painter) (theme : Theme) : Painter :=
  { p with theme }

/-- Whether the demo is shown for a scene, or for none. -/
def showsDemo (p : Painter) : Option Scene → Bool
  | none => true
  | some scene => p.demoWhenEmpty && scene.isEmpty

/-- The scene that is shown as such. -/
def shown? (p : Painter) (scene : Option Scene) : Option Scene :=
  if p.showsDemo scene then none else scene

variable {σ : Type} [Surface σ]

/-- Paint the demo. -/
def paintDemo (p : Painter) (elapsed : Duration) (trace : Option String) (s : σ) : σ :=
  ((p.demo.sketch p.theme.palette (Surface.size s) elapsed trace).draw s).1

/-- Paint one frame.  It never fails: what is refused is left out. -/
def paint (p : Painter) (scene : Option Scene) (elapsed : Duration) (trace : Option String)
    (s : σ) : σ × Painted :=
  let s := (Surface.apply .clear s).1
  match p.shown? scene with
  | some scene =>
    let (s, report) := scene.draw p.theme.palette (scene.effectiveTime elapsed) s
    (s, .scene report)
  | none => (p.paintDemo elapsed trace s, .demo)

end Painter

end SceneLoop
