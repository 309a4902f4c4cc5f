import SceneLoop.Scene.Basic

/-!
# Building scenes

Layers are put together property by property, starting from a layer of a kind.

## Main definitions

* `Layer.withNumber`, `Layer.withText`, … : a layer with one more property.
* `Scene.sample` : a scene to try things out with.
-/

namespace SceneLoop

namespace Layer

/-- The layer with a number for a key. -/
def withNumber (l : Layer) (k : PropKey) (v : Float) : Layer :=
  { l with props := l.props.set k (.number v) }

/-- The layer with a text for a key. -/
def withText (l : Layer) (k : PropKey) (s : String) : Layer :=
  { l with props := l.props.set k (.text s) }

/-- The layer at a position. -/
def withPosition (l : Layer) (x y : Float) : Layer :=
  (l.withNumber .x x).withNumber .y y

/-- The layer with a size. -/
def withSize (l : Layer) (width height : Float) : Layer :=
  (l.withNumber .width width).withNumber .height height

/-- The layer with an opacity. -/
def withOpacity (l : Layer) (v : Float) : Layer :=
  l.withNumber .opacity v

/-- The layer with a color inside. -/
def withFill (l : Layer) (color : String) : Layer :=
  l.withText .fill color

/-- The layer with an outline. -/
def withStroke (l : Layer) (color : String) (width : Float) : Layer :=
  (l.withText .stroke color).withNumber .strokeWidth width

/-- The layer with other properties in place of its own. -/
def withProps (l : Layer) (props : Props) : Layer :=
  { l with props }

/-- The layer with one more animation. -/
def withAnimation (l : Layer) (a : Animation) : Layer :=
  { l with animations := l.animations ++ [a] }

end Layer

/-- A rectangle that slides to the right, a disc and a caption, in a loop of four seconds. -/
def Scene.sample : Scene :=
  .ofLayers 4000
    [((((Layer.ofKind .rect).withPosition 100 100).withSize 100 50).withFill
        "#3b82f6").withAnimation ⟨"x", 0, 2000, 100, 300⟩,
      (((Layer.ofKind .circle).withPosition 200 200).withNumber .radius 30).withFill "#ef4444",
      (((Layer.ofKind .text).withPosition 200 250).withText .content
        "Test Visualization").withNumber .fontSize 18]

end SceneLoop
