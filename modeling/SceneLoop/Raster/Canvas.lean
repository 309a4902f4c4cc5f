import SceneLoop.Drawing.Surface
import SceneLoop.Glyph.FontBook
import SceneLoop.Raster.Coverage

/-!
# Canvases

A canvas paints operations into a frame.  Corners of a path are moved and scaled to the frame when
they are added, so a later move of the origin leaves them where they are.  The path is no part of
the drawing state that is saved and restored.

A text that lies too far off overflows the sums that place its pixels.  A canvas wraps such sums
around; a checked canvas takes note of them too, since the program halts there if it checks sums.

## Main definitions

* `Pen` : the drawing state.
* `Canvas`, `Canvas.apply` : a frame that operations are painted into.
* `CheckedCanvas` : a canvas that takes note of sums that overflow.
-/

namespace SceneLoop

/-- A drawing state. -/
structure Pen where
  /-- How far the origin was moved to the right. -/
  dx : Float := 0
  /-- How far the origin was moved downwards. -/
  dy : Float := 0
  /-- The opacity. -/
  alpha : Float := 1
  /-- The color of insides and texts. -/
  fill : Color := .black
  /-- The color of outlines. -/
  stroke : Color := .black
  /-- The width of outlines. -/
  lineWidth : Float := 1
  /-- The font. -/
  font : FontSpec := ⟨10, "sans-serif"⟩
  /-- The horizontal placement of texts. -/
  align : TextAlign := .left
  /-- The vertical placement of texts. -/
  baseline : TextBaseline := .alphabetic
deriving DecidableEq

namespace Pen

/-- Where a point is in a frame. -/
def toDevice (pen : Pen) (scale x y : Float) : Point :=
  ⟨(x + pen.dx) * scale, (y + pen.dy) * scale⟩

/-- A color at the opacity of the pen. -/
def shade (pen : Pen) (c : Color) : Color :=
  c.withAlpha (Binary64.toSingle (Binary64.clamp (Binary32.toDouble c.a * pen.alpha) 0 1))

/-- Half the width of outlines in a frame, at least half a pixel. -/
def halfWidth (pen : Pen) (scale : Float) : Float :=
  Binary64.larger (pen.lineWidth * scale / 2) 0.5

/-- The corners of a rectangle. -/
def rectCorners (pen : Pen) (scale x y width height : Float) : Subpath :=
  #[pen.toDevice scale x y, pen.toDevice scale (x + width) y,
    pen.toDevice scale (x + width) (y + height), pen.toDevice scale x (y + height)]

/-- Where a line of text begins, and the line its letters stand on. -/
def textOrigin (pen : Pen) (scale x y : Float) (m : LineMeasure) : Float32 × Float32 :=
  let p := pen.toDevice scale x y
  let x := Binary64.toSingle p.x
  let y := Binary64.toSingle p.y
  (match pen.align with
    | .left => x
    | .center => x - m.width / 2
    | .right => x - m.width,
  match pen.baseline with
    | .alphabetic => y
    | .top => y + m.ascent
    | .middle => y + (m.ascent + m.descent) / 2
    | .bottom => y + m.descent)

end Pen

/-- The drawing state after an operation, other than a save or a restore. -/
def Pen.after (pen : Pen) : Op → Pen
  | .translate dx dy =>
    if dx.isFinite && dy.isFinite then { pen with dx := pen.dx + dx, dy := pen.dy + dy } else pen
  | .globalAlpha alpha => if 0 ≤ alpha && alpha ≤ 1 then { pen with alpha } else pen
  | .fillStyle fill => { pen with fill }
  | .strokeStyle stroke => { pen with stroke }
  | .lineWidth lineWidth =>
    if lineWidth.isFinite && 0 < lineWidth then { pen with lineWidth } else pen
  | .font font => { pen with font }
  | .textAlign align => { pen with align }
  | .textBaseline baseline => { pen with baseline }
  | _ => pen

/-- A line of text as it lies in a frame. -/
structure PlacedText where
  /-- The name of the face. -/
  family : String
  /-- The text. -/
  text : String
  /-- The size. -/
  size : Float32
  /-- Where the line begins. -/
  penX : Float32
  /-- The line that letters stand on. -/
  penY : Float32

/-- A frame that operations are painted into. -/
structure Canvas where
  /-- The drawing area. -/
  viewport : Viewport
  /-- The color of a cleared frame. -/
  background : Color
  /-- The faces for texts. -/
  fonts : FontBook
  /-- The pixels. -/
  frame : Frame
  /-- The drawing state. -/
  pen : Pen
  /-- Drawing states that were saved, the last one first. -/
  saved : List Pen
  /-- The path, as it lies in the frame. -/
  path : Path

namespace Canvas

/-- A canvas with a cleared frame. -/
def blank (viewport : Viewport) (background : Color) (fonts : FontBook) : Canvas where
  viewport := viewport
  background := background
  fonts := fonts
  frame := .solid viewport.backingWidth viewport.backingHeight background
  pen := {}
  saved := []
  path := #[]

/-- Device pixels for each unit. -/
def scale (s : Canvas) : Float :=
  s.viewport.scale

/-- Change the pixels. -/
@[inline] def paint (change : Frame → Frame) : Canvas → Canvas
  | ⟨viewport, background, fonts, frame, pen, saved, path⟩ =>
    ⟨viewport, background, fonts, change frame, pen, saved, path⟩

/-- Change the path. -/
@[inline] def trace (change : Path → Path) : Canvas → Canvas
  | ⟨viewport, background, fonts, frame, pen, saved, path⟩ =>
    ⟨viewport, background, fonts, frame, pen, saved, change path⟩

/-- The largest size that a font may have in a frame. -/
def fontLimit (f : Frame) : Float :=
  Float.ofNat (max f.width.toNat f.height.toNat) * 4

/-- How a text is painted, if there is a face for it, unless the font is too large. -/
def placeText (text : String) (x y : Float) (s : Canvas) : Except DrawFault (Option PlacedText) :=
  let pen := s.pen
  let size := pen.font.size * s.scale
  let limit := fontLimit s.frame
  if size.isFinite && size ≤ limit then
    let size := Binary64.toSingle size
    .ok <| (s.fonts.measure? pen.font.family text size).map fun m =>
      let (penX, penY) := pen.textOrigin s.scale x y m
      ⟨pen.font.family, text, size, penX, penY⟩
  else .error (.fontTooLarge size limit)

/-- Paint a text. -/
def paintText (text : String) (x y : Float) (s : Canvas) : Canvas × Option DrawFault :=
  match s.placeText text x y with
  | .error fault => (s, some fault)
  | .ok none => (s, none)
  | .ok (some t) =>
    let fonts := s.fonts
    let c := s.pen.shade s.pen.fill
    (s.paint fun f => fonts.drawLine t.family t.text t.size t.penX t.penY c f, none)

/-- Add an arc to the path. -/
def traceArc (arc : Arc) (s : Canvas) : Canvas × Option DrawFault :=
  if arc.radius < 0 then (s, some (.negativeArc arc.radius))
  else if arc.isFinite then
    let pen := s.pen
    let scale := s.scale
    (s.trace fun path =>
      path.extend ((arc.corners scale).map fun p => pen.toDevice scale p.x p.y).toArray, none)
  else (s, none)

/-- Paint the inside of a path. -/
def paintInside (path : Path) (s : Canvas) : Canvas :=
  let c := s.pen.shade s.pen.fill
  s.paint (path.fillOn c)

/-- Paint an outline that consists of some edges between some corners. -/
def paintOutline (corners : List Point) (edges : List Edge) (s : Canvas) : Canvas :=
  let c := s.pen.shade s.pen.stroke
  let half := s.pen.halfWidth s.scale
  s.paint (Path.strokeOn corners edges half c)

/-- Apply an operation. -/
def apply (op : Op) (s : Canvas) : Canvas × Option DrawFault :=
  match op with
  | .clear =>
    let background := s.background
    (s.paint (·.fill background), none)
  | .save => ({ s with saved := s.pen :: s.saved }, none)
  | .restore =>
    match s.saved with
    | [] => (s, none)
    | pen :: saved => ({ s with pen, saved }, none)
  | .fillRect x y width height =>
    (s.paintInside #[s.pen.rectCorners s.scale x y width height], none)
  | .strokeRect x y width height =>
    let corners := s.pen.rectCorners s.scale x y width height
    (s.paintOutline corners.toList corners.outline, none)
  | .beginPath => (s.trace fun _ => #[], none)
  | .moveTo x y =>
    let p := s.pen.toDevice s.scale x y
    (s.trace (·.begin #[p]), none)
  | .lineTo x y =>
    let p := s.pen.toDevice s.scale x y
    (s.trace (·.extend #[p]), none)
  | .arc cx cy radius start finish => s.traceArc ⟨⟨cx, cy⟩, radius, start, finish⟩
  | .fill => (s.paintInside s.path, none)
  | .stroke => (s.paintOutline s.path.corners s.path.edges, none)
  | .fillText text x y => s.paintText text x y
  | .translate .. | .globalAlpha _ | .fillStyle _ | .strokeStyle _ | .lineWidth _ | .font _
  | .textAlign _ | .textBaseline _ => ({ s with pen := s.pen.after op }, none)

instance : Surface Canvas where
  size s := s.viewport.size
  apply := apply

/-- Whether a sum overflows in an operation. -/
def overflows (op : Op) (s : Canvas) : Bool :=
  match op with
  | .fillText text x y =>
    match s.placeText text x y with
    | .ok (some t) => !s.fonts.isAddressable t.family t.text t.size t.penX t.penY
    | _ => false
  | _ => false

end Canvas

/-- A canvas that takes note of sums that overflow. -/
structure CheckedCanvas where
  /-- The canvas, where sums wrap around. -/
  canvas : Canvas
  /-- Whether a sum overflowed in an operation. -/
  overflowed : Bool

namespace CheckedCanvas

/-- A canvas before any operation. -/
def of (canvas : Canvas) : CheckedCanvas :=
  ⟨canvas, false⟩

instance : Surface CheckedCanvas where
  size s := s.canvas.viewport.size
  apply op
    | ⟨canvas, overflowed⟩ =>
      let overflowed := overflowed || canvas.overflows op
      let (canvas, fault) := canvas.apply op
      (⟨canvas, overflowed⟩, fault)

/-- The canvas, unless a sum overflowed: the program halted then. -/
def canvas? (s : CheckedCanvas) : Option Canvas :=
  if s.overflowed then none else some s.canvas

end CheckedCanvas

end SceneLoop
