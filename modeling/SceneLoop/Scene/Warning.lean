import SceneLoop.Color
import SceneLoop.Scene.Basic

/-!
# Warnings about a scene

A scene is never refused.  Whatever is drawn with a stand-in, or never has an effect, is reported
as a warning that names the layer.

## Main definitions

* `Finding`, `Finding.message` : what is wrong with a layer.
* `Scene.warnings` : the findings of all layers, in order.
-/

namespace SceneLoop

/-- Something about a layer that has no effect. -/
inductive Finding where
  /-- The name of the layer stands for no kind. -/
  | unknownKind (name : String)
  /-- The text of a color property is not a color. -/
  | notAColor (key : PropKey) (text : String)
  /-- The span of the animation is not positive. -/
  | inert (animation : Animation)
  /-- The animation starts when the loop is over. -/
  | afterLoop (animation : Animation) (period : UInt64)
  /-- The animation changes a property that is not drawn. -/
  | notDrawn (animation : Animation)

/-- The text of a finding. -/
def Finding.message : Finding → String
  | .unknownKind name => "unknown layer type '" ++ name ++ "' drawn as placeholder"
  | .notAColor key text => key.name ++ " '" ++ text ++ "' is not a color, default used"
  | .inert a =>
    "animation of '" ++ a.property ++ "' has end " ++ Binary64.toText a.finish ++ " <= start " ++
      Binary64.toText a.start ++ " and never applies"
  | .afterLoop a period =>
    "animation of '" ++ a.property ++ "' starts at " ++ Binary64.toText a.start ++
      " ms, after the " ++ toString period.toNat ++ " ms loop"
  | .notDrawn a => "animation targets '" ++ a.property ++ "', which is not drawn"

/-- A finding about a layer. -/
structure Warning where
  /-- The position of the layer. -/
  layer : Nat
  /-- What was found. -/
  finding : Finding

/-- The text of a warning. -/
def Warning.toText (w : Warning) : String :=
  "layer " ++ toString w.layer ++ ": " ++ w.finding.message

namespace Layer

/-- The finding about the kind of a layer. -/
def kindFindings (l : Layer) : List Finding :=
  match l.kind with
  | .unknown name => [.unknownKind name]
  | _ => []

/-- Whether a text is a color. -/
def isColor (s : String) : Bool :=
  match Color.ofCss s with
  | .ok _ => true
  | .error _ => false

/-- The finding about a color property of a layer. -/
def colorFindings (l : Layer) (key : PropKey) : List Finding :=
  match l.props.text? key with
  | some text => if isColor text then [] else [.notAColor key text]
  | none => []

/-- The findings about an animation in a loop of a given period. -/
def animationFindings (period : UInt64) (a : Animation) : List Finding :=
  (if a.isInert then [.inert a]
    else if period.toFloat ≤ a.start then [.afterLoop a period]
    else []) ++
  (if (PropKey.lookup a.property).isNone then [.notDrawn a] else [])

/-- The findings about a layer in a loop of a given period. -/
def findings (period : UInt64) (l : Layer) : List Finding :=
  l.kindFindings ++ l.colorFindings .fill ++ l.colorFindings .stroke ++
    l.animations.flatMap (animationFindings period)

end Layer

/-- The warnings about a scene, in the order of its layers. -/
def Scene.warnings (s : Scene) : List Warning :=
  (s.layers.zipIdx).flatMap fun l => (l.1.findings s.period).map fun f => ⟨l.2, f⟩

end SceneLoop
