import SceneLoop.Color
import SceneLoop.Fault
import SceneLoop.Json.Value

/-!
# Drawing operations

A picture is a sequence of operations on a surface that keeps a drawing state: an offset, an
opacity, colors, a line width and a font.  The state can be saved and restored.

## Main definitions

* `TextAlign`, `TextBaseline`, `FontSpec` : how a text is placed and shown.
* `Op` : the operations.
* `DrawFault` : why an operation is refused.
-/

namespace SceneLoop

/-- Which point of a text its horizontal position is. -/
inductive TextAlign where
  /-- Its left end. -/
  | left
  /-- Its middle. -/
  | center
  /-- Its right end. -/
  | right
deriving DecidableEq

instance : Inhabited TextAlign := ⟨.center⟩

namespace TextAlign

/-- The placement that a keyword stands for, in any letter case and between blanks. -/
def ofName? (name : String) : Option TextAlign :=
  match Text.lower (Text.trim name) with
  | "left" | "start" => some .left
  | "center" => some .center
  | "right" | "end" => some .right
  | _ => none

/-- The keyword of a placement. -/
def name : TextAlign → String
  | .left => "left"
  | .center => "center"
  | .right => "right"

end TextAlign

/-- Which height of a text its vertical position is. -/
inductive TextBaseline where
  /-- Its top. -/
  | top
  /-- Its middle. -/
  | middle
  /-- The line its letters stand on. -/
  | alphabetic
  /-- Its bottom. -/
  | bottom
deriving DecidableEq

instance : Inhabited TextBaseline := ⟨.middle⟩

namespace TextBaseline

/-- The placement that a keyword stands for, in any letter case and between blanks. -/
def ofName? (name : String) : Option TextBaseline :=
  match Text.lower (Text.trim name) with
  | "top" | "hanging" => some .top
  | "middle" => some .middle
  | "alphabetic" => some .alphabetic
  | "bottom" | "ideographic" => some .bottom
  | _ => none

/-- The keyword of a placement. -/
def name : TextBaseline → String
  | .top => "top"
  | .middle => "middle"
  | .alphabetic => "alphabetic"
  | .bottom => "bottom"

end TextBaseline

/-- A font that is asked for. -/
structure FontSpec where
  /-- The size of the letters. -/
  size : Float
  /-- The name of the font. -/
  family : String
deriving DecidableEq

instance : Inhabited FontSpec := ⟨⟨16, "Arial"⟩⟩

/-- The font as it is shown. -/
def FontSpec.toText (f : FontSpec) : String :=
  Binary64.toText f.size ++ "px " ++ f.family

/-- An operation on a drawing surface. -/
inductive Op where
  /-- Reset all pixels to the background. -/
  | clear
  /-- Remember the drawing state. -/
  | save
  /-- Go back to the drawing state last remembered. -/
  | restore
  /-- Move the origin. -/
  | translate (dx dy : Float)
  /-- Set the opacity of what follows. -/
  | globalAlpha (alpha : Float)
  /-- Set the color of insides and texts. -/
  | fillStyle (color : Color)
  /-- Set the color of outlines. -/
  | strokeStyle (color : Color)
  /-- Set the width of outlines. -/
  | lineWidth (width : Float)
  /-- Paint the inside of a rectangle. -/
  | fillRect (x y width height : Float)
  /-- Paint the outline of a rectangle. -/
  | strokeRect (x y width height : Float)
  /-- Forget the path. -/
  | beginPath
  /-- Start a new part of the path. -/
  | moveTo (x y : Float)
  /-- Continue the path to a point. -/
  | lineTo (x y : Float)
  /-- Continue the path along a circle, between two angles in radians. -/
  | arc (cx cy radius start finish : Float)
  /-- Paint the inside of the path. -/
  | fill
  /-- Paint the outline of the path. -/
  | stroke
  /-- Set the font. -/
  | font (spec : FontSpec)
  /-- Set the horizontal placement of texts. -/
  | textAlign (align : TextAlign)
  /-- Set the vertical placement of texts. -/
  | textBaseline (baseline : TextBaseline)
  /-- Paint a text. -/
  | fillText (text : String) (x y : Float)
deriving DecidableEq

/-- An object with one field. -/
def Json.tagged (tag : String) (value : Json) : Json :=
  .object [(tag, value)]

/-- An object of numbers. -/
def Json.numbers (fields : List (String × Float)) : Json :=
  .object (fields.map fun f => (f.1, .ofDouble f.2))

/-- An operation as it is listed. -/
def Op.toJson : Op → Json
  | .clear => .text "clear"
  | .save => .text "save"
  | .restore => .text "restore"
  | .translate dx dy => .tagged "translate" (.numbers [("dx", dx), ("dy", dy)])
  | .globalAlpha alpha => .tagged "global_alpha" (.ofDouble alpha)
  | .fillStyle color => .tagged "fill_style" (.text color.toCss)
  | .strokeStyle color => .tagged "stroke_style" (.text color.toCss)
  | .lineWidth width => .tagged "line_width" (.ofDouble width)
  | .fillRect x y width height =>
    .tagged "fill_rect" (.numbers [("x", x), ("y", y), ("width", width), ("height", height)])
  | .strokeRect x y width height =>
    .tagged "stroke_rect" (.numbers [("x", x), ("y", y), ("width", width), ("height", height)])
  | .beginPath => .text "begin_path"
  | .moveTo x y => .tagged "move_to" (.numbers [("x", x), ("y", y)])
  | .lineTo x y => .tagged "line_to" (.numbers [("x", x), ("y", y)])
  | .arc cx cy radius start finish =>
    .tagged "arc" (.numbers
      [("cx", cx), ("cy", cy), ("radius", radius), ("start", start), ("end", finish)])
  | .fill => .text "fill"
  | .stroke => .text "stroke"
  | .font spec => .tagged "font" (.text spec.toText)
  | .textAlign align => .tagged "text_align" (.text align.name)
  | .textBaseline baseline => .tagged "text_baseline" (.text baseline.name)
  | .fillText text x y =>
    .tagged "fill_text" (.object [("text", .text text), ("x", .ofDouble x), ("y", .ofDouble y)])

/-- Why something could not be drawn. -/
inductive DrawFault where
  /-- A circle has a negative radius. -/
  | negativeRadius (radius : Float)
  /-- An arc has a negative radius. -/
  | negativeArc (radius : Float)
  /-- A font is too large for the frame. -/
  | fontTooLarge (size limit : Float)
  /-- The surface refused an operation. -/
  | refused (text : String)
deriving DecidableEq

/-- The fault that it is. -/
def DrawFault.fault : DrawFault → Fault
  | .negativeRadius radius => .invalidArgument ("negative radius " ++ Binary64.toText radius)
  | .negativeArc radius => .surface ("arc radius " ++ Binary64.toText radius ++ " is negative")
  | .fontTooLarge size limit =>
    .surface ("font size " ++ Binary64.toText size ++ "px exceeds the " ++ Binary64.toText limit ++
      "px limit for this frame")
  | .refused text => .surface text

end SceneLoop
