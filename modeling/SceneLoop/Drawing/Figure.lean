import SceneLoop.Drawing.Surface
import SceneLoop.Scene.Basic
import SceneLoop.Theme

/-!
# Figures

How a layer is drawn: its operations as a function of its kind, its properties and the colors that
stand in for missing ones.  Only a circle with a negative radius has a fault of its own.

## Main definitions

* `Figure.sketch` : the operations of a layer.
* `Scene.draw`, `DrawReport` : drawing all layers of a scene.
-/

namespace SceneLoop

namespace Figure

/-- The color that a property spells. -/
def color? (p : Props) (k : PropKey) : Option Color :=
  (p.text? k).bind fun s =>
    match Color.ofCss s with
    | .ok c => some c
    | .error _ => none

/-- The operations that place a layer and set its opacity. -/
def placement (p : Props) : List Op :=
  let x := (p.number? .x).getD 0
  let y := (p.number? .y).getD 0
  (if x != 0 || y != 0 then [.translate x y] else []) ++
    [.globalAlpha (Binary64.clamp ((p.number? .opacity).getD 1) 0 1)]

/-- The operations for an outline, if one is asked for. -/
def outline (p : Props) (paint : Op) : List Op :=
  match color? p .stroke with
  | some c => [.strokeStyle c, .lineWidth ((p.number? .strokeWidth).getD 1), paint]
  | none => []

/-- A rectangle. -/
def rect (palette : Palette) (p : Props) : Sketch :=
  let width := (p.number? .width).getD 50
  let height := (p.number? .height).getD 50
  { ops := [.fillStyle ((color? p .fill).getD palette.fill), .fillRect 0 0 width height] ++
      outline p (.strokeRect 0 0 width height) }

/-- The radius of a circle. -/
def radius (p : Props) : Float :=
  (p.firstNumber? [.r, .radius]).getD 20

/-- A disc. -/
def circle (palette : Palette) (p : Props) : Sketch :=
  let radius := radius p
  if radius < 0 then { ops := [], fault := some (.negativeRadius radius) }
  else
    { ops := [.beginPath, .arc 0 0 radius 0 Binary64.fullTurn,
        .fillStyle ((color? p .fill).getD palette.fill), .fill] ++ outline p .stroke }

/-- A straight line. -/
def line (palette : Palette) (p : Props) : Sketch where
  ops :=
    [.beginPath, .moveTo ((p.number? .x1).getD 0) ((p.number? .y1).getD 0),
      .lineTo ((p.firstNumber? [.x2, .x]).getD 100) ((p.firstNumber? [.y2, .y]).getD 100),
      .strokeStyle ((color? p .stroke).getD palette.stroke),
      .lineWidth ((p.number? .strokeWidth).getD 2), .stroke]

/-- The size of a text: a positive number, or sixteen. -/
def fontSize (p : Props) : Float :=
  match p.number? .fontSize with
  | some size => if 0 < size then size else 16
  | none => 16

/-- A text. -/
def text (palette : Palette) (p : Props) : Sketch where
  ops :=
    [.fillStyle ((color? p .fill).getD palette.fill),
      .font ⟨fontSize p, (p.text? .fontFamily).getD "Arial"⟩,
      .textAlign (((p.text? .textAlign).bind TextAlign.ofName?).getD default),
      .textBaseline (((p.text? .textBaseline).bind TextBaseline.ofName?).getD default),
      .fillText ((p.firstDisplay? [.content, .text, .label]).getD "Text") 0 0]

/-- The marker for a layer of unknown kind. -/
def marker (palette : Palette) : Sketch where
  ops := [.fillStyle palette.placeholder, .fillRect (-10) (-10) 20 20]

/-- The drawing of a kind at the origin. -/
def shape (palette : Palette) (p : Props) : LayerKind → Sketch
  | .rect => rect palette p
  | .circle => circle palette p
  | .line => line palette p
  | .text | .label => text palette p
  | .unknown _ => marker palette

/-- The operations of a layer. -/
def sketch (palette : Palette) (kind : LayerKind) (p : Props) : Sketch :=
  let shape := shape palette p kind
  { shape with ops := placement p ++ shape.ops }

end Figure

/-- How many layers were drawn, and how many could not be. -/
structure DrawReport where
  /-- Layers that were drawn. -/
  drawn : Nat := 0
  /-- Layers that could not be drawn. -/
  failed : Nat := 0
deriving DecidableEq

/-- The report after one more layer. -/
def DrawReport.count (r : DrawReport) : Option DrawFault → DrawReport
  | none => { r with drawn := r.drawn + 1 }
  | some _ => { r with failed := r.failed + 1 }

variable {σ : Type} [Surface σ]

/-- Draw a layer as it is at a scene time. -/
def Layer.draw (palette : Palette) (t : Float) (l : Layer) (s : σ) : σ × Option DrawFault :=
  (Figure.sketch palette l.kind (l.propsAt t)).draw s

/-- Draw layers from bottom to top; a layer that cannot be drawn is passed over. -/
def Layer.drawAll (palette : Palette) (t : Float) (layers : List Layer) (s : σ) : σ × DrawReport :=
  layers.foldl
    (fun acc l =>
      let (s, report) := acc
      let (s, fault) := l.draw palette t s
      (s, report.count fault))
    (s, {})

/-- Draw a scene as it is at a scene time. -/
def Scene.draw (palette : Palette) (t : Duration) (scene : Scene) (s : σ) : σ × DrawReport :=
  Layer.drawAll palette t.millis scene.layers s

end SceneLoop
