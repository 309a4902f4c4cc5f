import SceneLoop.Payload.Normalization
import SceneLoop.Scene.Warning

/-!
# Inspection

The text that shows how a payload is understood: its trace, its layers with their animations, and
the warnings about them.

## Main definitions

* `Normalized.inspection` : the lines of the text.
-/

namespace SceneLoop

/-- The line for an animation. -/
def Animation.inspection (a : Animation) : String :=
  "      ↳ " ++ a.property ++ ": " ++ Binary64.toText a.initial ++ " → " ++
    Binary64.toText a.final ++ " over " ++ Binary64.toText a.start ++ ".." ++
    Binary64.toText a.finish ++ "ms"

/-- The lines for a layer at a position. -/
def Layer.inspection (l : Layer) (index : Nat) (isLast : Bool) : List String :=
  let branch := if isLast then "└──" else "├──"
  let props := l.props.entries.map fun e => e.1.name ++ "=" ++ e.2.display
  (branch ++ " #" ++ toString index ++ " " ++ l.kind.display ++ " \x7b" ++ ", ".intercalate props ++
    "\x7d") :: l.animations.map Animation.inspection

/-- The lines for the warnings about a scene. -/
def Scene.warningLines (s : Scene) : List String :=
  if s.warnings.isEmpty then ["   ✓ no warnings"]
  else s.warnings.map fun w => "   ⚠️ " ++ w.toText

/-- The lines for a scene. -/
def Scene.inspection (s : Scene) : List String :=
  ("🎞️  Scene [" ++ toString s.period ++ "ms, " ++ toString s.layers.length ++ " layers, " ++
      toString s.animationCount ++ " animations]") ::
    (s.layers.zipIdx.flatMap fun l => l.1.inspection l.2 (l.2 + 1 == s.layers.length)) ++
    s.warningLines

/-- The lines that show how a payload is understood. -/
def Normalized.inspection (n : Normalized) : List String :=
  "🔍 vizcanvas payload inspector" :: ("   trace: " ++ n.trace.toText) ::
    match n.scene with
    | some scene => scene.inspection
    | none => ["   ✗ no scene; the demo animation would play"]

end SceneLoop
