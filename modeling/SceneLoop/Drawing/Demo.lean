import SceneLoop.Drawing.Surface
import SceneLoop.Settings.Basic
import SceneLoop.Time

/-!
# The demo

While there is no scene, a disc slides across the canvas over a caption, and the trace of the last
payload may be shown under it.

## Main definitions

* `DemoSettings.discCenter` : where the disc is.
* `DemoSettings.sketch` : the operations of one frame.
-/

namespace SceneLoop.DemoSettings

/-- The time the disc takes: what is set, if it is positive and finite. -/
def crossing (d : DemoSettings) : Float :=
  if d.period.isFinite && 0 < d.period then d.period else 3000

/-- Where the disc is after an amount of playback time. -/
def discCenter (d : DemoSettings) (size : Size) (elapsed : Duration) : Point :=
  let progress := Binary64.remainder elapsed.millis d.crossing / d.crossing
  let travel := Binary64.larger (size.width - d.margin * 2) 0
  ⟨d.margin + travel * progress, size.height / 2⟩

/-- The operations for the trace, if it is to be shown and not empty. -/
def traceOps (d : DemoSettings) (size : Size) : Option String → List Op
  | none => []
  | some trace =>
    if d.showTrace && !trace.isEmpty then
      [.font ⟨12, "monospace"⟩,
        .fillText ("Debug: " ++ trace) (size.width / 2) (size.height - 40)]
    else []

/-- The operations of one frame. -/
def sketch (d : DemoSettings) (palette : Palette) (size : Size) (elapsed : Duration)
    (trace : Option String) : Sketch where
  ops :=
    let center := d.discCenter size elapsed
    [.beginPath, .arc center.x center.y (Binary64.larger d.radius 0) 0 Binary64.fullTurn,
      .fillStyle palette.accent, .fill, .fillStyle palette.fill, .font ⟨16, "Arial"⟩,
      .textAlign .center, .textBaseline .top,
      .fillText "Demo Animation" (size.width / 2) (size.height - 60)] ++ d.traceOps size trace

end SceneLoop.DemoSettings
