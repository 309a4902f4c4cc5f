import SceneLoop.Json.Value
import SceneLoop.Number.Reading
import SceneLoop.Number.Shortest
import SceneLoop.Text.Blank

/-!
# Properties of a layer

The names that drawing understands, and the values that they may have: numbers, texts and truth
values.  Where a number is wanted, a text that spells one is as good.

## Main definitions

* `PropKey`, `PropKey.lookup` : the known names and one other spelling.
* `PropValue` : the values, with `PropValue.asNumber` and `PropValue.display`.
* `Json.coerceNumber` : the number that a value of a payload stands for.
-/

namespace SceneLoop

/-- The property names that drawing understands. -/
inductive PropKey where
  /-- Horizontal position. -/
  | x
  /-- Vertical position. -/
  | y
  /-- Width of a rectangle. -/
  | width
  /-- Height of a rectangle. -/
  | height
  /-- Radius of a circle. -/
  | r
  /-- Radius of a circle, if `r` is absent. -/
  | radius
  /-- Start of a line, horizontally. -/
  | x1
  /-- Start of a line, vertically. -/
  | y1
  /-- End of a line, horizontally. -/
  | x2
  /-- End of a line, vertically. -/
  | y2
  /-- Opacity of the layer. -/
  | opacity
  /-- Color of the inside. -/
  | fill
  /-- Color of the outline. -/
  | stroke
  /-- Width of the outline. -/
  | strokeWidth
  /-- Text to show. -/
  | content
  /-- Text to show, if `content` is absent. -/
  | text
  /-- Text to show, if `text` is absent too. -/
  | label
  /-- Size of the text. -/
  | fontSize
  /-- Font of the text. -/
  | fontFamily
  /-- Horizontal placement of the text. -/
  | textAlign
  /-- Vertical placement of the text. -/
  | textBaseline
deriving DecidableEq, Repr

namespace PropKey

/-- All keys in order. -/
def all : List PropKey :=
  [.x, .y, .width, .height, .r, .radius, .x1, .y1, .x2, .y2, .opacity, .fill, .stroke,
    .strokeWidth, .content, .text, .label, .fontSize, .fontFamily, .textAlign, .textBaseline]

/-- The name of a key in a payload. -/
def name : PropKey → String
  | .x => "x"
  | .y => "y"
  | .width => "width"
  | .height => "height"
  | .r => "r"
  | .radius => "radius"
  | .x1 => "x1"
  | .y1 => "y1"
  | .x2 => "x2"
  | .y2 => "y2"
  | .opacity => "opacity"
  | .fill => "fill"
  | .stroke => "stroke"
  | .strokeWidth => "strokeWidth"
  | .content => "content"
  | .text => "text"
  | .label => "label"
  | .fontSize => "fontSize"
  | .fontFamily => "fontFamily"
  | .textAlign => "textAlign"
  | .textBaseline => "textBaseline"

/-- The position of a key among all keys. -/
def index (k : PropKey) : Fin 21 :=
  ⟨k.ctorIdx, by cases k <;> decide⟩

/-- Keys at the same position are equal. -/
theorem index_inj {k l : PropKey} (h : k.index = l.index) : k = l := by
  cases k <;> cases l <;> first | rfl | exact absurd h (by decide)

/-- Every key is listed. -/
theorem mem_all (k : PropKey) : k ∈ all := by
  cases k <;> decide

/-- The other spelling of the font size. -/
def fontSizeAlias : String := "font-size"

/-- The key with a given name. -/
def ofName? (name : String) : Option PropKey :=
  all.find? fun k => k.name = name

/-- The key that a name in a payload stands for, and whether the name is only another spelling,
which gives way to the proper one. -/
def lookup (name : String) : Option (PropKey × Bool) :=
  if name = fontSizeAlias then some (.fontSize, true)
  else (ofName? name).map fun k => (k, false)

end PropKey

/-- The finite number that a text spells between blanks. -/
def numberOfText? (s : String) : Option Float :=
  match Numeral.ofChars? (Text.trimChars s.toList) with
  | some n => if n.toDouble.isFinite then some n.toDouble else none
  | none => none

/-- The number that a value stands for: itself, if it is a finite number, or the number that it
spells. -/
def Json.coerceNumber : Json → Option Float
  | .number n => if n.toDouble.isFinite then some n.toDouble else none
  | .text s => numberOfText? s
  | _ => none

/-- The value of a property. -/
inductive PropValue where
  /-- A number. -/
  | number (v : Float)
  /-- A text. -/
  | text (s : String)
  /-- A truth value. -/
  | bool (b : Bool)
deriving DecidableEq

namespace PropValue

/-- The property value for a value of a payload; null, arrays and objects are none. -/
def ofJson? : Json → Option PropValue
  | .number n => if n.toDouble.isFinite then some (.number n.toDouble) else none
  | .text s => some (.text s)
  | .bool b => some (.bool b)
  | _ => none

/-- The number that a value stands for. -/
def asNumber : PropValue → Option Float
  | .number v => some v
  | .text s => numberOfText? s
  | .bool _ => none

/-- The text of a number: whole numbers of moderate size without a sign of zero. -/
def displayNumber (v : Float) : String :=
  match Binary64.integer? v with
  | some n => if n.natAbs < 10 ^ 15 then toString n else Binary64.toText v
  | none => Binary64.toText v

/-- The text shown for a value. -/
def display : PropValue → String
  | .number v => displayNumber v
  | .text s => s
  | .bool b => if b then "true" else "false"

/-- The value in a payload; a number that has no written form becomes null. -/
def toJson : PropValue → Json
  | .number v => .ofDouble v
  | .text s => .text s
  | .bool b => .bool b

/-- Equality of values, where numbers are compared as numbers. -/
def same : PropValue → PropValue → Bool
  | .number v, .number w => v == w
  | .text s, .text t => s == t
  | .bool a, .bool b => a == b
  | _, _ => false

end PropValue

end SceneLoop
