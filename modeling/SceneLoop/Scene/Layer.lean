import SceneLoop.Scene.Animation
import SceneLoop.Scene.Props

/-!
# Layers

A layer has a kind, properties and animations.  Reading a layer never fails: whatever is missing or
malformed leaves the layer with fewer properties.

## Main definitions

* `LayerKind`, `Layer` : what is drawn.
* `Layer.ofFields`, `Layer.ofJson` : the layer in a payload.
* `Layer.propsAt` : the properties at a scene time.
-/

namespace SceneLoop

/-- What a layer draws. -/
inductive LayerKind where
  /-- A rectangle. -/
  | rect
  /-- A disc. -/
  | circle
  /-- A straight line. -/
  | line
  /-- A text. -/
  | text
  /-- A text, under another name. -/
  | label
  /-- A marker for a name that stands for none of these. -/
  | unknown (name : String)
deriving DecidableEq

namespace LayerKind

/-- The kind that a name stands for, in any letter case and between blanks. -/
def ofName (name : String) : LayerKind :=
  match Text.lower (Text.trim name) with
  | "rect" => .rect
  | "circle" => .circle
  | "line" => .line
  | "text" => .text
  | "label" => .label
  | _ => .unknown name

/-- The name of a kind. -/
def name : LayerKind → String
  | .rect => "rect"
  | .circle => "circle"
  | .line => "line"
  | .text => "text"
  | .label => "label"
  | .unknown name => name

/-- The name as it is shown, where a missing name is marked. -/
def display : LayerKind → String
  | .unknown "" => "<untyped>"
  | kind => kind.name

/-- Whether the kind draws a text. -/
def isTextual : LayerKind → Bool
  | .text | .label => true
  | _ => false

/-- Whether the kind has a drawing of its own. -/
def isKnown : LayerKind → Bool
  | .unknown _ => false
  | _ => true

end LayerKind

/-- One element of a scene. -/
structure Layer where
  /-- What is drawn. -/
  kind : LayerKind
  /-- How it is drawn. -/
  props : Props
  /-- How it changes over time. -/
  animations : List Animation

namespace Layer

/-- A layer without properties. -/
def ofKind (kind : LayerKind) : Layer :=
  ⟨kind, .empty, []⟩

/-- The fields of a layer that are never properties. -/
def structuralNames : List String := ["type", "props", "animations"]

/-- The kind in the fields of an object. -/
def kindOf (fields : Fields) : LayerKind :=
  match fields.get? "type" with
  | some (.text name) => .ofName name
  | _ => .unknown ""

/-- The properties in the fields of an object: those under `props`, or, without it, all other
fields. -/
def propsOf (fields : Fields) : Props :=
  match fields.get? "props" with
  | some (.object props) => .ofFields props []
  | none | some .null => .ofFields fields structuralNames
  | some _ => .empty

/-- The animations in the fields of an object. -/
def animationsOf (fields : Fields) : List Animation :=
  match fields.get? "animations" with
  | some (.array items) => items.filterMap fun v => v.fields?.bind Animation.ofFields?
  | _ => []

/-- The layer in the fields of an object. -/
def ofFields (fields : Fields) : Layer :=
  ⟨kindOf fields, propsOf fields, animationsOf fields⟩

/-- The layer in a value; what is not an object is a layer without a type. -/
def ofJson : Json → Layer
  | .object fields => ofFields fields
  | _ => ofKind (.unknown "")

/-- Apply an animation to properties at a scene time. -/
def animate (t : Float) (p : Props) (a : Animation) : Props :=
  match a.valueAt t with
  | some v => p.setNumber a.property v
  | none => p

/-- The properties at a scene time: the animations are applied in order, so the last one that has
an effect on a property decides it. -/
def propsAt (l : Layer) (t : Float) : Props :=
  l.animations.foldl (animate t) l.props

/-- The layer in a payload; an empty list of animations is left out. -/
def toJson (l : Layer) : Json :=
  .object ([("type", .text l.kind.name), ("props", .object l.props.toFields)] ++
    if l.animations.isEmpty then [] else [("animations", .array (l.animations.map (·.toJson)))])

/-- Equality of layers, where numbers are compared as numbers. -/
def same (l m : Layer) : Bool :=
  l.kind == m.kind && l.props.same m.props && l.animations.length == m.animations.length &&
    (l.animations.zip m.animations).all fun p => p.1.same p.2

end Layer

end SceneLoop
