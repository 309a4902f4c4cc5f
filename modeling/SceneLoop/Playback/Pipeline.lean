import SceneLoop.Digest.Frames
import SceneLoop.Drawing.Painter
import SceneLoop.Raster.Canvas

/-!
# Rendering to frames

A pipeline renders the frame at one moment of playback, or frames at regular moments, without a
display.

## Main definitions

* `Pipeline.renderFrame` : the frame at one moment, on a canvas of its own.
* `Pipeline.renderSequence`, `Rendering` : frames at regular moments, on one canvas.
* `Pipeline.renderFrame?`, `Pipeline.renderSequence?` : the same where sums are checked.
-/

namespace SceneLoop

/-- What is needed to render frames. -/
structure Pipeline where
  /-- Paints frames. -/
  painter : Painter
  /-- The faces for texts. -/
  fonts : FontBook
  /-- The drawing area. -/
  viewport : Viewport

/-- Frames at regular moments. -/
structure Rendering where
  /-- Moments and frames in order. -/
  shots : List (Duration × Frame)
  /-- The drawing area. -/
  viewport : Viewport
  /-- Frames for each second. -/
  fps : Float

namespace Rendering

/-- The frames in order. -/
def frames (r : Rendering) : List Frame :=
  r.shots.map (·.2)

/-- The digest of all frames. -/
def contentHash (r : Rendering) : ContentHash :=
  Frame.contentHashAll r.frames

/-- The digest of the frame with a number. -/
def frameHash? (r : Rendering) (index : Nat) : Option ContentHash :=
  r.frames[index]?.map Frame.contentHash

end Rendering

namespace Pipeline

/-- The pipeline for some settings, a size and a pixel ratio. -/
def ofSettings (s : Settings) (size : Size) (scale : Float) : Pipeline :=
  ⟨.ofSettings s, .empty, .fit size scale s.canvas.least⟩

/-- The same pipeline in another theme. -/
def withTheme (p : Pipeline) (theme : Theme) : Pipeline :=
  { p with painter := p.painter.withTheme theme }

/-- The same pipeline with other faces. -/
def withFonts (p : Pipeline) (fonts : FontBook) : Pipeline :=
  { p with fonts }

/-- A cleared canvas. -/
def canvas (p : Pipeline) : Canvas :=
  .blank p.viewport p.painter.theme.palette.background p.fonts

/-- The frame after some playback time. -/
def renderFrame (p : Pipeline) (scene : Option Scene) (elapsed : Duration) (trace : Option String) :
    Frame :=
  (p.painter.paint scene elapsed trace p.canvas).1.frame

/-- The frame after some playback time, unless a sum overflows. -/
def renderFrame? (p : Pipeline) (scene : Option Scene) (elapsed : Duration)
    (trace : Option String) : Option Frame :=
  (p.painter.paint scene elapsed trace (CheckedCanvas.of p.canvas)).1.canvas?.map Canvas.frame

/-- A rate that is positive and finite, or 30 frames for each second. -/
def fitRate (fps : Float) : Float :=
  if fps.isFinite && 0 < fps then fps else 30

/-- The moment of the frame with a number. -/
def momentOf (fps : Float) (index : Nat) : Duration :=
  .ofMillis (Float.ofNat index * 1000 / fps)

/-- Some moments and their frames, painted one after the other on a canvas. -/
def shotsOn (p : Pipeline) (scene : Option Scene) : List Duration → Canvas → List (Duration × Frame)
  | [], _ => []
  | elapsed :: rest, s =>
    let s := (p.painter.paint scene elapsed none s).1
    (elapsed, s.frame) :: shotsOn p scene rest s

/-- A number of frames at a rate, from the start of playback. -/
def renderSequence (p : Pipeline) (scene : Option Scene) (fps : Float) (count : Nat) :
    Rendering where
  shots := p.shotsOn scene ((List.range count).map (momentOf (fitRate fps))) p.canvas
  viewport := p.viewport
  fps := fitRate fps

/-- Some moments and their frames, painted one after the other on a canvas, unless a sum
overflows. -/
def shotsOn? (p : Pipeline) (scene : Option Scene) :
    List Duration → CheckedCanvas → Option (List (Duration × Frame))
  | [], s => s.canvas?.map fun _ => []
  | elapsed :: rest, s =>
    let s := (p.painter.paint scene elapsed none s).1
    (shotsOn? p scene rest s).map ((elapsed, s.canvas.frame) :: ·)

/-- A number of frames at a rate, from the start of playback, unless a sum overflows. -/
def renderSequence? (p : Pipeline) (scene : Option Scene) (fps : Float) (count : Nat) :
    Option Rendering :=
  let moments := (List.range count).map (momentOf (fitRate fps))
  (p.shotsOn? scene moments (.of p.canvas)).map fun shots => ⟨shots, p.viewport, fitRate fps⟩

end Pipeline

end SceneLoop
