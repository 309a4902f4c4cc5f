import SceneLoop.Number.Reading
import SceneLoop.Number.Shortest
import SceneLoop.Text.Blank
import SceneLoop.Json.Reader

/-!
# Colors

A color has a red, a green, a blue and an opacity component, nominally in `[0, 1]`.  It is read
from hexadecimal digits, from `rgb(…)` and `rgba(…)` or from a name, and it is written both in the
`rgba(…)` form and as hexadecimal digits.

## Main definitions

* `Color` : the components, in single precision.
* `Color.ofHex`, `Color.ofCss` : the readers.
* `Color.bytes` : the components as bytes.
* `Color.toCss`, `Color.toHex` : the written forms.
-/

namespace SceneLoop

/-- A color with components nominally in `[0, 1]`. -/
structure Color where
  /-- Red. -/
  r : Float32
  /-- Green. -/
  g : Float32
  /-- Blue. -/
  b : Float32
  /-- Opacity. -/
  a : Float32
deriving DecidableEq

/-- Why a text is not a color. -/
inductive ColorError where
  /-- The text is not three, four, six or eight hexadecimal digits. -/
  | invalidHex
  /-- The text is in none of the known forms. -/
  | unrecognized (text : String)
deriving DecidableEq

/-- The message for a color that could not be read. -/
def ColorError.message : ColorError → String
  | .invalidHex => "invalid hex color string"
  | .unrecognized text => "unrecognized color: " ++ text

/-- A stored pixel. -/
structure Pixel where
  /-- Red. -/
  r : UInt8
  /-- Green. -/
  g : UInt8
  /-- Blue. -/
  b : UInt8
  /-- Opacity. -/
  a : UInt8
deriving DecidableEq, Repr

namespace Color

/-- A component given in 255ths. -/
def ofByte (v : UInt8) : Float32 :=
  v.toFloat32 / 255

/-- The opaque color with the given components in 255ths. -/
def ofBytes (r g b : UInt8) : Color :=
  ⟨ofByte r, ofByte g, ofByte b, 1⟩

/-- No color at all. -/
def transparent : Color := ⟨0, 0, 0, 0⟩

/-- Opaque black. -/
def black : Color := ⟨0, 0, 0, 1⟩

/-- Opaque white. -/
def white : Color := ⟨1, 1, 1, 1⟩

instance : Inhabited Color := ⟨black⟩

/-- The same color with another opacity. -/
def withAlpha (c : Color) (a : Float32) : Color :=
  { c with a }

/-! ### Hexadecimal digits -/

/-- A component of two hexadecimal digits; a plus sign may stand for the first. -/
def hexPair? (c d : Char) : Option UInt8 :=
  if c = '+' then (Json.hexDigit? d).map UInt8.ofNat
  else
    match Json.hexDigit? c, Json.hexDigit? d with
    | some high, some low => some (UInt8.ofNat (16 * high + low))
    | _, _ => none

/-- A component of one hexadecimal digit, which stands for both digits. -/
def hexSingle? (c : Char) : Option UInt8 :=
  (Json.hexDigit? c).map fun d => UInt8.ofNat (17 * d)

/-- The color with the given components, if all of them are known. -/
def ofChannels? (r g b a : Option UInt8) : Option Color :=
  match r, g, b, a with
  | some r, some g, some b, some a => some ((ofBytes r g b).withAlpha (ofByte a))
  | _, _, _, _ => none

/-- The color of three, four, six or eight hexadecimal digits. -/
def ofHexChars? : List Char → Option Color
  | [r, g, b] => ofChannels? (hexSingle? r) (hexSingle? g) (hexSingle? b) (some 255)
  | [r, g, b, a] => ofChannels? (hexSingle? r) (hexSingle? g) (hexSingle? b) (hexSingle? a)
  | [r, r', g, g', b, b'] =>
    ofChannels? (hexPair? r r') (hexPair? g g') (hexPair? b b') (some 255)
  | [r, r', g, g', b, b', a, a'] =>
    ofChannels? (hexPair? r r') (hexPair? g g') (hexPair? b b') (hexPair? a a')
  | _ => none

/-- The digits of a hexadecimal color: the text without blanks at its ends and without the number
signs in front. -/
def hexDigits (s : String) : List Char :=
  (Text.trimChars s.toList).dropWhile (· = '#')

/-- The color written in hexadecimal digits, with or without number signs in front. -/
def ofHex (s : String) : Except ColorError Color :=
  match ofHexChars? (hexDigits s) with
  | some c => .ok c
  | none => .error .invalidHex

/-! ### Names and functions -/

/-- The named colors. -/
def named : List (String × UInt8 × UInt8 × UInt8) :=
  [("black", 0, 0, 0), ("white", 255, 255, 255), ("red", 255, 0, 0), ("green", 0, 128, 0),
    ("lime", 0, 255, 0), ("blue", 0, 0, 255), ("yellow", 255, 255, 0), ("orange", 255, 165, 0),
    ("purple", 128, 0, 128), ("pink", 255, 192, 203), ("cyan", 0, 255, 255),
    ("aqua", 0, 255, 255), ("magenta", 255, 0, 255), ("fuchsia", 255, 0, 255),
    ("gray", 128, 128, 128), ("grey", 128, 128, 128), ("silver", 192, 192, 192),
    ("brown", 165, 42, 42), ("navy", 0, 0, 128), ("teal", 0, 128, 128), ("olive", 128, 128, 0),
    ("maroon", 128, 0, 0), ("gold", 255, 215, 0), ("indigo", 75, 0, 130),
    ("violet", 238, 130, 238), ("skyblue", 135, 206, 235), ("steelblue", 70, 130, 180),
    ("tomato", 255, 99, 71), ("coral", 255, 127, 80), ("salmon", 250, 128, 114)]

/-- The color with a given name. -/
def ofName? (name : String) : Option Color :=
  (named.find? (·.1 = name)).map fun n => ofBytes n.2.1 n.2.2.1 n.2.2.2

/-- The parts of a text between commas. -/
def commaParts : List Char → List (List Char)
  | [] => [[]]
  | c :: rest =>
    if c = ',' then [] :: commaParts rest
    else
      match commaParts rest with
      | [] => [[c]]
      | part :: parts => (c :: part) :: parts

/-- The number that an argument denotes. -/
def argument? (cs : List Char) : Option Float32 :=
  (Numeral.ofChars? (Text.trimChars cs)).map Numeral.toSingle

/-- A color component from an argument in 255ths. -/
def channel? (cs : List Char) : Option Float32 :=
  (argument? cs).map fun v => Binary32.clamp (v / 255) 0 1

/-- The opacity from an argument. -/
def opacity? (cs : List Char) : Option Float32 :=
  (argument? cs).map fun v => Binary32.clamp v 0 1

/-- The color with the given arguments: three components in 255ths and, after them, an opacity. -/
def ofArguments? (parts : List (List Char)) : Option Color :=
  match parts with
  | [r, g, b] =>
    match channel? r, channel? g, channel? b with
    | some r, some g, some b => some ⟨r, g, b, 1⟩
    | _, _, _ => none
  | [r, g, b, a] =>
    match channel? r, channel? g, channel? b, opacity? a with
    | some r, some g, some b, some a => some ⟨r, g, b, a⟩
    | _, _, _, _ => none
  | _ => none

/-- The text between the parentheses of `rgb(…)` or `rgba(…)`. -/
def arguments? (cs : List Char) : Option (List Char) :=
  let rest := match Text.stripStart? "rgba(".toList cs with
    | some rest => some rest
    | none => Text.stripStart? "rgb(".toList cs
  rest.bind fun rest =>
    match rest.getLast? with
    | some ')' => some rest.dropLast
    | _ => none

/-- The color written in any of the forms: hexadecimal digits after a number sign, `transparent`,
`rgb(…)` or `rgba(…)`, or a name. -/
def ofCss (s : String) : Except ColorError Color :=
  let trimmed := Text.trimChars s.toList
  if trimmed.head? = some '#' then ofHex s
  else
    let small := trimmed.map Char.toLower
    if small = "transparent".toList then .ok transparent
    else
      match arguments? small with
      | some arguments =>
        match ofArguments? (commaParts arguments) with
        | some c => .ok c
        | none => .error (.unrecognized (String.ofList arguments))
      | none =>
        match ofName? (String.ofList small) with
        | some c => .ok c
        | none => .error (.unrecognized (String.ofList trimmed))

/-! ### Written forms -/

/-- A component in 255ths, to the nearest. -/
def toByte (v : Float32) : UInt8 :=
  Binary32.nearestByte (v * 255)

/-- The color as it is stored in a frame. -/
def bytes (c : Color) : Pixel :=
  ⟨toByte c.r, toByte c.g, toByte c.b, toByte c.a⟩

/-- The form `rgba(R, G, B, A)` with components in 255ths and an opacity in `[0, 1]`. -/
def toCss (c : Color) : String :=
  let p := c.bytes
  "rgba(" ++ toString p.r.toNat ++ ", " ++ toString p.g.toNat ++ ", " ++ toString p.b.toNat ++
    ", " ++ Binary32.toText (Binary32.clamp c.a 0 1) ++ ")"

/-- Two capital hexadecimal digits. -/
def hexByte (v : UInt8) : String :=
  (Text.hex 2 v.toNat).map Char.toUpper

/-- The form `#RRGGBB`, with two more digits for the opacity unless it is full. -/
def toHex (c : Color) : String :=
  let p := c.bytes
  "#" ++ hexByte p.r ++ hexByte p.g ++ hexByte p.b ++ (if p.a = 255 then "" else hexByte p.a)

end Color

end SceneLoop
